import ServiceHost.Registration.Supervision
import ServiceHost.Teardown.Basic
import ServiceHost.Text.Elapsed

set_option autoImplicit false

namespace ServiceHost.Registration

structure Faults where
  failPuts : Nat := 0
  failDeletes : Nat := 0
  panicGrants : Nat := 0
  panicKeepAlives : Nat := 0
  slow : Nat := 0
deriving DecidableEq, Repr

inductive Result where
  | reply (r : Store.Reply)
  | panic
deriving DecidableEq, Repr

structure Record where
  time : Nat
  call : Store.Operation
  result : Result
deriving DecidableEq, Repr

inductive Removal where
  | hook (position : Nat) (late : Bool)
  | direct
deriving DecidableEq, Repr

-- The times are those of the next tick, of the answer to a call, and of the end of a pause. The removals
-- are in the order of the removers.
structure Rehearsal where
  now : Nat := 0
  store : Store := {}
  faults : Faults := {}
  settings : RegistrySettings
  teardown : Teardown Unit := {}
  supervision : Supervision
  removals : List Removal := []
  tickDue : Nat := 0
  callDue : Nat := 0
  pauseDue : Nat := 0
  log : List Record := []

namespace Rehearsal

def ofEntries (entries : List Entry) (settings : RegistrySettings) (store : Store := {}) : Rehearsal :=
  { settings, store, supervision := { entries, ttl := settings.leaseTtlMs } }

def isSlow : Store.Operation → Bool
  | .keepAlive _ => true
  | .put .. => true
  | _ => false

def injected : Store.Reply := .refused (.backend "injected")

def carryOut (rehearsal : Rehearsal) (operation : Store.Operation) : Result × Rehearsal :=
  let faults := rehearsal.faults
  let real : Result × Rehearsal :=
    let (reply, store) := rehearsal.store.perform rehearsal.now operation
    (.reply reply, { rehearsal with store })
  let (result, rehearsal) := match operation with
    | .grant _ =>
        if faults.panicGrants = 0 then real
        else (.panic, { rehearsal with faults := { faults with panicGrants := faults.panicGrants - 1 } })
    | .keepAlive _ =>
        if faults.panicKeepAlives = 0 then real
        else (.panic, { rehearsal with faults := { faults with panicKeepAlives := faults.panicKeepAlives - 1 } })
    | .put .. =>
        if faults.failPuts = 0 then real
        else (.reply injected, { rehearsal with faults := { faults with failPuts := faults.failPuts - 1 } })
    | .delete _ =>
        if faults.failDeletes = 0 then real
        else (.reply injected, { rehearsal with faults := { faults with failDeletes := faults.failDeletes - 1 } })
    | _ => real
  (result, { rehearsal with
    log := rehearsal.log ++ [{ time := rehearsal.now, call := operation, result }] })

-- Milliseconds by which a tick may be late without shifting the ones after it.
def tickGrace : Nat := 5

def nextTick (now period due : Nat) : Nat := if due + tickGrace < now then now + period else due + period

def adopt (rehearsal : Rehearsal) (supervision : Supervision) : Rehearsal :=
  let call := supervision.watched?.bind (·.call?)
  let delay := if call.any isSlow then rehearsal.faults.slow else 0
  { rehearsal with supervision, callDue := rehearsal.now + delay }

def collapse (rehearsal : Rehearsal) (worker : Nat) : Rehearsal :=
  { rehearsal with supervision := (rehearsal.supervision.panic? worker).getD rehearsal.supervision }

-- Puts a worker to work. Its first tick is due at once. Without an interval between ticks it panics.
def employ (rehearsal : Rehearsal) (worker : Nat) (supervision : Supervision) : Rehearsal :=
  let employed := { rehearsal with supervision, tickDue := rehearsal.now }
  if rehearsal.settings.keepaliveIntervalMs = 0 then employed.collapse worker else employed

-- What a worker does next at this instant. The signal comes before a tick that is due.
def work? (rehearsal : Rehearsal) (position : Nat) (worker : Worker) : Option Rehearsal :=
  let supervision := rehearsal.supervision
  match worker.phase with
  | .resting =>
      match supervision.stop? position with
      | some supervision => some { rehearsal with supervision }
      | none =>
          if rehearsal.now < rehearsal.tickDue then none
          else
            let tickDue := nextTick rehearsal.now rehearsal.settings.keepaliveIntervalMs rehearsal.tickDue
            (supervision.tick? position).map { rehearsal with tickDue }.adopt
  | .calling operation =>
      if rehearsal.now < rehearsal.callDue then none
      else
        match rehearsal.carryOut operation with
        | (.panic, rehearsal) => some (rehearsal.collapse position)
        | (.reply reply, rehearsal) => (supervision.answer? position reply).map rehearsal.adopt
  | _ => none

-- What the supervisor or its worker does next. The signal comes before the end of a pause.
def act? (rehearsal : Rehearsal) : Option Rehearsal :=
  let supervision := rehearsal.supervision
  match supervision.supervisor with
  | .launching => supervision.spawn?.map (rehearsal.employ supervision.workers.length)
  | .watching position =>
      match supervision.notice? with
      | some supervision =>
          some { rehearsal with supervision, pauseDue := rehearsal.now + rehearsal.settings.cooldownMs }
      | none => supervision.watched?.bind (rehearsal.work? position)
  | .pausing =>
      match supervision.desist? with
      | some supervision => some { rehearsal with supervision }
      | none =>
          if rehearsal.now < rehearsal.pauseDue then none
          else supervision.relaunch?.map fun supervision => { rehearsal with supervision }
  | _ => none

def deleteAll (rehearsal : Rehearsal) (remover : Nat) : Rehearsal :=
  rehearsal.supervision.entries.foldl
    (fun rehearsal entry =>
      let (_, rehearsal) := rehearsal.carryOut (.delete entry.key)
      { rehearsal with
        supervision := (rehearsal.supervision.delete? remover).getD rehearsal.supervision })
    rehearsal

def finish (rehearsal : Rehearsal) (remover : Nat) : Rehearsal :=
  let rehearsal := rehearsal.deleteAll remover
  let teardown := rehearsal.teardown
  match rehearsal.removals[remover]? with
  | some (.hook position true) => { rehearsal with teardown := teardown.finishLate position false }
  | some (.hook position false) =>
      { rehearsal with teardown := (teardown.finish position false).getD teardown }
  | _ => rehearsal

def release (rehearsal : Rehearsal) : Rehearsal :=
  let rehearsal := (List.range rehearsal.removals.length).foldl
    (fun rehearsal remover =>
      match rehearsal.supervision.proceed? remover with
      | some supervision => { rehearsal with supervision }.finish remover
      | none => rehearsal)
    rehearsal
  { rehearsal with teardown := rehearsal.teardown.complete.getD rehearsal.teardown }

def settleWithin : Nat → Rehearsal → Rehearsal
  | 0, rehearsal => rehearsal.release
  | fuel + 1, rehearsal =>
      match rehearsal.act? with
      | some rehearsal => settleWithin fuel rehearsal
      | none => rehearsal.release

-- Steps at one instant: those of two ticks, and as many for each worker that panics.
def settleBound (rehearsal : Rehearsal) : Nat :=
  (rehearsal.faults.panicGrants + rehearsal.faults.panicKeepAlives + 2)
    * (2 * rehearsal.supervision.entries.length + 12)

def settle (rehearsal : Rehearsal) : Rehearsal := settleWithin rehearsal.settleBound rehearsal

def nextDue (rehearsal : Rehearsal) : Option Nat :=
  match rehearsal.supervision.supervisor, rehearsal.supervision.watched? with
  | .watching _, some { phase := .resting, .. } => some rehearsal.tickDue
  | .watching _, some { phase := .calling _, .. } => some rehearsal.callDue
  | .pausing, _ => some rehearsal.pauseDue
  | _, _ => none

def fireUntil (limit : Option Nat) : Nat → Rehearsal → Rehearsal
  | 0, rehearsal => rehearsal
  | fuel + 1, rehearsal =>
      if limit.isNone && rehearsal.supervision.removers.all (· ≠ .waiting) then rehearsal
      else
        match rehearsal.nextDue with
        | some due =>
            if limit.all (due ≤ ·) then
              fireUntil limit fuel (settle { rehearsal with now := max rehearsal.now due })
            else rehearsal
        | none => rehearsal

def deregister (rehearsal : Rehearsal) (removal : Removal) : Rehearsal :=
  let remover := rehearsal.supervision.removers.length
  let supervision := rehearsal.supervision.remove
  let rehearsal := { rehearsal with supervision, removals := rehearsal.removals ++ [removal] }
  if supervision.removers[remover]? = some .waiting then rehearsal else rehearsal.finish remover

def startHooks (rehearsal : Rehearsal) : Rehearsal :=
  (List.range rehearsal.teardown.tasks.length).reverse.foldl
    (fun rehearsal position =>
      match rehearsal.teardown.start position with
      | some teardown => { rehearsal with teardown }.deregister (.hook position false)
      | none => rehearsal)
    rehearsal

inductive Step where
  | start
  | sleep (millis : Nat)
  | available (value : Bool)
  | setFaults (change : Faults → Faults)
  | revoke (lease : LeaseId)
  | trigger
  | run
  | deregister

-- Calls that may still fall due while somebody waits: those of one tick, each after a wait.
def waitBound (rehearsal : Rehearsal) : Nat := rehearsal.supervision.entries.length + 4

def step (rehearsal : Rehearsal) : Step → Rehearsal
  | .start =>
      let position := rehearsal.teardown.late.length
      let teardown := rehearsal.teardown.register { name := "registry", body := () }
      let rehearsal := { rehearsal with teardown, supervision := rehearsal.supervision.launch }
      let rehearsal :=
        if teardown.late.length = position then rehearsal
        else { rehearsal with teardown := rehearsal.teardown.startLate position }.deregister (.hook position true)
      rehearsal.settle
  | .sleep millis =>
      let target := rehearsal.now + millis
      { fireUntil (some target) ((rehearsal.supervision.entries.length + 2) * (millis + 2)) rehearsal with
        now := target }
  | .available value => { rehearsal with store := rehearsal.store.setAvailable value }
  | .setFaults change => { rehearsal with faults := change rehearsal.faults }
  | .revoke lease => { rehearsal with store := rehearsal.store.revoke lease }
  | .trigger =>
      settle { rehearsal with
        teardown := rehearsal.teardown.trigger, supervision := rehearsal.supervision.signal }
  | .run =>
      let signalled := { rehearsal with
        teardown := rehearsal.teardown.begin, supervision := rehearsal.supervision.signal }
      let rehearsal := signalled.startHooks.settle
      fireUntil none rehearsal.waitBound rehearsal
  | .deregister =>
      let rehearsal := (rehearsal.deregister .direct).settle
      fireUntil none rehearsal.waitBound rehearsal

def text (rehearsal : Rehearsal) : String :=
  Text.openRecord "Registry" [
    ("keys", Text.list (rehearsal.supervision.entries.map fun entry => "RegistrationKey(" ++ Text.quoted entry.key ++ ")")),
    ("ttl", Elapsed.ofMillis rehearsal.settings.leaseTtlMs),
    ("interval", Elapsed.ofMillis rehearsal.settings.keepaliveIntervalMs)]

end Rehearsal

end ServiceHost.Registration
