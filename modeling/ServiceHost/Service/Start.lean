import ServiceHost.Registration.Keeper
import ServiceHost.Service.Basic
import ServiceHost.Upgrade.Inheritance

/-!
Starting a service: it takes over or binds its listener, begins to serve, tells the process that it
replaces, watches for signals, and registers its RPC services if it has a store. Each of these may be the
last thing that happens; what has been brought about by then is part of the result.
-/

set_option autoImplicit false

namespace ServiceHost.Service

structure Effects where
  listener : Option Listener := none
  serving : Bool := false
  told : Bool := false
  watching : Bool := false
  registered : Option (List Registration.Entry) := none
deriving DecidableEq

-- What is left of a start that has failed, once it has let go of everything it held. The loops end with the
-- last handle on the shutdown coordinator, which may be `shared`; the watcher goes on, and with it the socket
-- that it could hand over.
def Effects.left (shared : Bool) (effects : Effects) : Effects :=
  let serving := effects.serving && shared
  { effects with serving, listener := if serving || effects.watching then effects.listener else none }

inductive Outcome where
  | started
  | failed (failure : Failure)
  | panicked
deriving DecidableEq, Repr

-- The circumstances of a start: what the process finds around it, what it inherits, why the system does not
-- let it serve on its socket, if so, whether signals can be watched, whether somebody else has a handle on the
-- shutdown coordinator, and the identity under which it registers.
structure Circumstances where
  host : Host := {}
  inheritance : Upgrade.Inheritance := {}
  refusal : Option String := none
  signals : Bool := true
  shared : Bool := false
  identity : String

def announceFailure (configured : String) : Failure :=
  .config (.invalid ("invalid advertised address: " ++ configured))

def enrol (identity : String) (bound : Address.Socket) (service : Service) (effects : Effects) :
    Outcome × Effects :=
  if service.rpc.registered.isEmpty || service.store.isNone then (.started, effects)
  else
    let advertised := service.settings.http.advertised
    match Address.announce? advertised bound with
    | none => (.failed (announceFailure (advertised.getD bound.text)), effects)
    | some address =>
        let entries := Registration.entries service.settings.registry.root service.name address identity
          (service.rpc.registered.map (·.descriptor))
        (.started, { effects with registered := some entries })

def start (surroundings : Surroundings) (circumstances : Circumstances) (service : Service) :
    Outcome × Effects :=
  let (result, inheritance) := circumstances.inheritance.listen circumstances.host service.settings.http.address
  match result with
  | .error error => (.failed (.ofListener error), {})
  | .ok (bound, _) =>
      match circumstances.refusal with
      | some cause => (.failed (.bind cause), {})
      | none =>
          match Listener.ofSocket? bound service.settings.http.maxConnections, service.webApp? surroundings false with
          | some listener, some _ =>
              service.enrol circumstances.identity bound {
                listener := some listener
                serving := true
                told := inheritance.ready.told
                watching := circumstances.signals }
          | _, _ => (.panicked, {})

end ServiceHost.Service
