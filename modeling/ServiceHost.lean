import ServiceHost.Discovery.Scene
import ServiceHost.Main
import ServiceHost.Metrics
import ServiceHost.Report.Channel
import ServiceHost.Report.Store
import ServiceHost.Service.Rehearsal
import ServiceHost.Teardown.Rehearsal
import ServiceHost.Upgrade.Rehearsal
import ServiceHost.Proofs.Store.Expiry
import ServiceHost.Proofs.Store.Leases
import ServiceHost.Proofs.Store.Removal
import ServiceHost.Proofs.Store.Replay
import ServiceHost.Proofs.Json.Grammar
import ServiceHost.Proofs.Store.Watching
import ServiceHost.Proofs.Text.Utf8
import ServiceHost.Proofs.Endpoint
import ServiceHost.Proofs.Address.Socket
import ServiceHost.Proofs.Address.Advertised
import ServiceHost.Proofs.Address.Authority
import ServiceHost.Proofs.Address.Dialable
import ServiceHost.Proofs.Discovery.Convergence
import ServiceHost.Proofs.Registration.Tick
import ServiceHost.Proofs.Registration.Upkeep
import ServiceHost.Proofs.Registration.Renewal
import ServiceHost.Proofs.Registration.Recovery
import ServiceHost.Proofs.Registration.Steadiness
import ServiceHost.Proofs.Registration.Deregistration
import ServiceHost.Proofs.Teardown.Session
import ServiceHost.Proofs.Teardown.Barrier
import ServiceHost.Proofs.Teardown.Enrolment
import ServiceHost.Proofs.Upgrade.Turn
import ServiceHost.Proofs.Upgrade.Tenure
import ServiceHost.Proofs.Upgrade.Vigil
import ServiceHost.Proofs.Upgrade.Replacement
import ServiceHost.Proofs.Upgrade.Interruption
import ServiceHost.Proofs.Upgrade.Rivalry
import ServiceHost.Proofs.Upgrade.Aftermath
import ServiceHost.Proofs.Service.Starting
import ServiceHost.Proofs.Service.Capacity
import ServiceHost.Proofs.History
import ServiceHost.Proofs.Service.Departure
import ServiceHost.Proofs.Discovery.Outcome
import ServiceHost.Proofs.Discovery.Closing
import ServiceHost.Proofs.Discovery.Provenance
import ServiceHost.Proofs.Discovery.Custody
import ServiceHost.Proofs.Plane.Conservation
import ServiceHost.Proofs.Plane.Completion
import ServiceHost.Proofs.Plane.Waking
import ServiceHost.Proofs.Settings.Finalize
import ServiceHost.Proofs.Rpc.Routing
import ServiceHost.Proofs.Service.WebFailures
import ServiceHost.Proofs.Text.Percent
import ServiceHost.Proofs.Rpc.Status
import ServiceHost.Proofs.Rpc.Recovery
import ServiceHost.Proofs.Service.RpcFailures
import ServiceHost.Proofs.Plane.Sniffing
import ServiceHost.Proofs.Discovery.Relisting
import ServiceHost.Proofs.Service.Announcing
import ServiceHost.Proofs.Discovery.Keying
import ServiceHost.Proofs.Discovery.Reaching
import ServiceHost.Proofs.Discovery.Parting
import ServiceHost.Proofs.Text.Escapes
import ServiceHost.Proofs.Rpc.Message
import ServiceHost.Proofs.Text.Order
import ServiceHost.Proofs.Store.Listing
import ServiceHost.Proofs.Discovery.Rotating
import ServiceHost.Proofs.Registration.Grounds
