import ServiceHost.Address.Authority
import ServiceHost.Discovery.DialError
import ServiceHost.Discovery.Rotation
import ServiceHost.Endpoint

set_option autoImplicit false

namespace ServiceHost

structure Target where
  key : String
  address : String
  metadata : Table String := ∅

namespace Target

def ofEndpoint (key : String) (endpoint : Endpoint) : Target :=
  { key, address := endpoint.address, metadata := endpoint.metadata }

end Target

structure Channel where
  name : String
  targets : Table Endpoint := ∅
  rotation : Rotation := {}
  closed : Bool := false

namespace Channel

def endpoints (channel : Channel) : List String := channel.targets.values.map (·.address)

def snapshot (channel : Channel) : List Target :=
  channel.targets.entries.map fun (key, endpoint) => .ofEndpoint key endpoint

def upsert (channel : Channel) (key : String) (endpoint : Endpoint) : Channel :=
  { channel with targets := channel.targets.insert key endpoint }

def remove (channel : Channel) (key : String) : Channel :=
  { channel with targets := channel.targets.erase key }

def replaceAll (channel : Channel) (targets : List (String × Endpoint)) : Channel :=
  { channel with targets := .ofList targets }

def close (channel : Channel) : Channel := { channel with closed := true }

def pick (channel : Channel) : Except DialError Target × Channel :=
  if channel.closed then (.error .closed, channel)
  else
    match channel.rotation.next channel.snapshot with
    | (some target, rotation) => (.ok target, { channel with rotation })
    | (none, rotation) => (.error (.noEndpoints channel.name), { channel with rotation })

-- The address to which the next call goes. The turn is taken even if the address turns out to be
-- none.
def route (channel : Channel) : Except DialError String × Channel :=
  match channel.pick with
  | (.error error, channel) => (.error error, channel)
  | (.ok target, channel) =>
      if Address.Authority.isValid target.address then (.ok target.address, channel)
      else (.error (.invalidEndpoint target.address), channel)

def text (channel : Channel) : String :=
  Text.record "Channel" [("name", Text.quoted channel.name), ("endpoints", Text.quotedList channel.endpoints),
    ("closed", Text.truth channel.closed)]

end Channel

end ServiceHost
