import ServiceHost.Registration.Rehearsal
import ServiceHost.Report.Failure
import ServiceHost.Store.Session

set_option autoImplicit false

namespace ServiceHost

namespace Store

def Reply.report : Reply → Json.Value
  | .lease id => .ofInt id
  | .remaining ttl => .ofNat ttl
  | .done => .null
  | .entries found => .array (found.map fun (key, value) => .array [.text key, .ofBytes value])
  | .holder found => .ofOption .ofInt found
  | .count n => .ofNat n
  | .refused error => error.report

def Seen.report : Seen → Json.Value
  | .change (.put key value) => .array [.text "put", .text key, .ofBytes value]
  | .change (.delete key) => .array [.text "delete", .text key]
  | .failed error => error.report
  | .pending => .text "pending"
  | .ended => .text "ended"

def Outcome.report : Outcome → Json.Value
  | .reply r => r.report
  | .panicked => .text "panic"
  | .watcher index => .ofNat index
  | .seen reads => .array (reads.map Seen.report)
  | .unknownWatcher => Report.failedWith "BadInput" "watch"

def Operation.report : Operation → Json.Value
  | .grant ttl => .array [.text "grant", .ofNat ttl]
  | .keepAlive lease => .array [.text "keepalive", .ofInt lease]
  | .put key value holder => .array [.text "put", .text key, .ofBytes value, .ofOption .ofInt holder]
  | .delete key => .array [.text "delete", .text key]
  | _ => .null

end Store

namespace Registration

def Result.report : Result → Json.Value
  | .reply r => r.report
  | .panic => .text "panic"

def Record.report (record : Record) : Json.Value :=
  .array [.ofNat record.time, record.call.report, record.result.report]

def Belief.report : Belief → Json.Value
  | .unbound => .text "Unbound"
  | .bound id => .array [.text "Bound", .ofInt id]
  | .renewing id => .array [.text "Renewing", .ofInt id]

end Registration

end ServiceHost
