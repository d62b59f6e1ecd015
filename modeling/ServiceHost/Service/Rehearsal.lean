import ServiceHost.Discovery.Neighbourhood
import ServiceHost.Plane.Drain
import ServiceHost.Registration.Rehearsal
import ServiceHost.Service.Exit
import ServiceHost.Service.Start

set_option autoImplicit false

namespace ServiceHost.Service

structure Rehearsal where
  service : Service
  server : Drain
  registration : Option Registration.Rehearsal := none
  around : Neighbourhood
  exit : Exit

namespace Rehearsal

def ofStart (service : Service) (listener : Listener) (entries : Option (List Registration.Entry))
    (network : Network) : Rehearsal :=
  let settings := service.settings
  let registration := entries.map fun entries =>
    (Registration.Rehearsal.ofEntries entries settings.registry (service.store.getD {})).step .start
  let store := (registration.map (·.store)).or service.store
  let cache : Cache := { root := settings.registry.root, dialTimeout := settings.client.dialTimeoutMs }
  let teardown := (Exit.hooks registration.isSome).foldl Teardown.register {}
  { service, server := { listener }, registration, around := { cache, store, network },
    exit := { handoff := { timeout := settings.upgrade.timeoutSecs * 1000 }, teardown } }

def bound (rehearsal : Rehearsal) : Address.Socket := rehearsal.server.listener.address

def state (rehearsal : Rehearsal) : Upgrade.State := rehearsal.exit.handoff.state

def renew (rehearsal : Rehearsal) : Rehearsal :=
  match rehearsal.registration with
  | none => rehearsal
  | some registration =>
      let registration := registration.step (.sleep (rehearsal.around.now - registration.now))
      { rehearsal with
        registration := some registration, around := { rehearsal.around with store := some registration.store } }

def keys (rehearsal : Rehearsal) : List (String × List UInt8 × Bool) :=
  match rehearsal.around.store with
  | none => []
  | some store =>
      match store.list rehearsal.around.now "" with
      | (.error _, _) => []
      | (.ok found, store) =>
          found.map fun (key, value) => (key, value, (store.leaseOf rehearsal.around.now key).1.isSome)

def discover (rehearsal : Rehearsal) (inquiry : Inquiry) : Except Failure Nat × Rehearsal :=
  let (result, around) := rehearsal.around.resolve inquiry 1
  (result, { rehearsal with around }.renew)

def heed (rehearsal : Rehearsal) : Rehearsal :=
  { rehearsal with server := rehearsal.server.signal, around := rehearsal.around.trigger }

def fulfil (rehearsal : Rehearsal) : Exit.Duty → Rehearsal
  | .hangUp => { rehearsal with around := rehearsal.around.close }
  | .drain => { rehearsal with server := rehearsal.server.runOut }
  | .deregister =>
      let registration := rehearsal.registration.map (·.step .run)
      let store := (registration.map (·.store)).or rehearsal.around.store
      { rehearsal with registration, around := { rehearsal.around with store } }

def runHook (rehearsal : Rehearsal) : Rehearsal :=
  let teardown := rehearsal.exit.teardown
  let ready := (List.range teardown.tasks.length).reverse.filterMap fun position => do
    let task ← teardown.tasks[position]?
    return (task.hook.body, ← (← teardown.start position).finish position false)
  match ready with
  | [] => rehearsal
  | (duty, teardown) :: _ => fulfil { rehearsal with exit := { rehearsal.exit with teardown } } duty

def windDown (reason : Exit → Exit) (rehearsal : Rehearsal) : Rehearsal :=
  match (reason rehearsal.exit).leave with
  | none => rehearsal
  | some exit =>
      let done := exit.teardown.tasks.foldl (fun rehearsal _ => rehearsal.runHook) { rehearsal with exit }.heed
      let dismissed := (done.exit.finishHooks.bind Exit.dismiss).getD done.exit
      { done with exit := dismissed.cutOff.getD dismissed }

def text (rehearsal : Rehearsal) : String :=
  Text.openRecord "RunningService" [("local_addr", rehearsal.bound.text), ("state", rehearsal.state.name)]

end Rehearsal

end ServiceHost.Service
