import ServiceHost.Address.Socket
import ServiceHost.Failure

set_option autoImplicit false

namespace ServiceHost

structure Host where
  inherited : Nat → Option Address.Socket := fun _ => none
  binds : Address.Socket → Bool := fun _ => true
  freePort : UInt16 := 49152

namespace Host

def notBound : String := "address not available"
def notInherited : String := "bad file descriptor"

def bind (host : Host) (address : String) : Except ListenerError Address.Socket :=
  match Address.Socket.parse? address with
  | none => .error (.bind Address.Socket.syntaxMessage)
  | some socket =>
      if !host.binds socket then .error (.bind notBound)
      else
        .ok (match socket with
          | .v4 ip port => .v4 ip (if port = 0 then host.freePort else port)
          | .v6 ip scope port => .v6 ip scope (if port = 0 then host.freePort else port))

def adopt (host : Host) (descriptor : Nat) : Except ListenerError Address.Socket :=
  match host.inherited descriptor with
  | some socket => .ok socket
  | none => .error (.bind notInherited)

end Host

-- `pending` connections have arrived and wait to be accepted. The accepted ones are numbered in
-- their order; those that are `held` still have their permits.
structure Listener where
  address : Address.Socket
  limit : Nat
  pending : Nat := 0
  accepted : Nat := 0
  held : List Nat := []
deriving DecidableEq

namespace Listener

def maxPermits : Nat := 0x1FFFFFFFFFFFFFFF

def ofSocket? (address : Address.Socket) (limit : Nat) : Option Listener :=
  if limit ≤ maxPermits then some { address, limit } else none

def available (listener : Listener) : Nat := listener.limit - listener.held.length

def arrive (listener : Listener) : Listener := { listener with pending := listener.pending + 1 }

def accept? (listener : Listener) : Option Listener :=
  if listener.available = 0 || listener.pending = 0 then none
  else
    some { listener with
      pending := listener.pending - 1
      accepted := listener.accepted + 1
      held := listener.held ++ [listener.accepted] }

def release? (listener : Listener) (connection : Nat) : Option Listener :=
  if connection ∈ listener.held then some { listener with held := listener.held.erase connection } else none

end Listener

end ServiceHost
