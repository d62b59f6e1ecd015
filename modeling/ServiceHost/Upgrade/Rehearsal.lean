import ServiceHost.Upgrade.Inheritance
import ServiceHost.Upgrade.Watcher

set_option autoImplicit false

namespace ServiceHost.Upgrade

inductive Conduct where
  | ready
  | hangs
  | missing
  | exits (code : Int)
deriving DecidableEq, Repr

structure Rehearsal where
  handoff : Handoff
  conduct : Conduct := .ready
  inheritance : Inheritance := {}
  watcher : Option Watcher := none

namespace Rehearsal

def advance (rehearsal : Rehearsal) (step : Handoff → Option Handoff) : Rehearsal :=
  { rehearsal with handoff := (step rehearsal.handoff).getD rehearsal.handoff }

def spawnRefusal : Conduct → Option String
  | .missing => some "no such file"
  | _ => none

def wakeOf : Conduct → Wake
  | .ready => .readinessByte
  | .hangs => .timedOut
  | .missing => .socketClosed
  | .exits code => .childExited (some code)

def conclude (rehearsal : Rehearsal) (index : Nat) : Rehearsal :=
  (((rehearsal.advance (·.reap index)).advance (·.finish index)).advance (·.release index)).advance (·.reset index)

def proceed (rehearsal : Rehearsal) (index : Nat) : Rehearsal :=
  let claimed := (rehearsal.advance (·.claim index)).advance (·.report index)
  let prepared := (claimed.advance (·.prepare index none)).advance (·.confirm index)
  let spawned := prepared.advance (·.spawn index (spawnRefusal rehearsal.conduct))
  let waiting := (spawned.advance (·.attach index none)).advance (·.wake index .stopSeen)
  waiting.conclude index

def waitForReplacement (rehearsal : Rehearsal) (index : Nat) : Rehearsal :=
  (rehearsal.advance (·.wake index (wakeOf rehearsal.conduct))).conclude index

def failure? (rehearsal : Rehearsal) (index : Nat) : Option Error :=
  match rehearsal.handoff.stage? index with
  | some (.returned failure) => failure
  | _ => none

def launch (rehearsal : Rehearsal) : Nat × Rehearsal :=
  let index := rehearsal.handoff.attempts.length
  (index, ({ rehearsal with handoff := rehearsal.handoff.enter } : Rehearsal).proceed index)

def upgrade (rehearsal : Rehearsal) : Option Error × Rehearsal :=
  let (index, rehearsal) := rehearsal.launch
  let rehearsal := rehearsal.waitForReplacement index
  (rehearsal.failure? index, rehearsal)

def settle (rehearsal : Rehearsal) : Rehearsal :=
  match rehearsal.watcher with
  | some (.upgrading index deaf) =>
      let rehearsal := rehearsal.proceed index
      let watcher := ((Watcher.upgrading index deaf).judge rehearsal.handoff).getD (.upgrading index deaf)
      { rehearsal with watcher := some watcher }
  | _ => rehearsal

def stop (rehearsal : Rehearsal) : Rehearsal :=
  settle { rehearsal with handoff := rehearsal.handoff.stop }

structure Interrupted where
  seen : Bool
  second : Option Error
  first : Option Error

def upgradeThenStop (rehearsal : Rehearsal) : Interrupted × Rehearsal :=
  let (first, rehearsal) := rehearsal.launch
  let seen := decide (rehearsal.handoff.stage? first = some .waiting)
  let (second, rehearsal) := rehearsal.upgrade
  let rehearsal := rehearsal.stop.proceed first
  ({ seen, second, first := rehearsal.failure? first }, rehearsal)

def watchSignals (rehearsal : Rehearsal) : Rehearsal := { rehearsal with watcher := some .listening }

def raise (rehearsal : Rehearsal) (signal : Signal) : Rehearsal :=
  match rehearsal.watcher.bind (Watcher.receive rehearsal.handoff (some signal)) with
  | none => rehearsal
  | some (watcher, handoff) =>
      let (watcher, handoff) := (watcher.decide handoff).getD (watcher, handoff)
      settle { rehearsal with watcher := some watcher, handoff }

def expect (rehearsal : Rehearsal) (state : State) : Bool × Rehearsal :=
  if rehearsal.handoff.state = state then (true, rehearsal)
  else
    match rehearsal.watcher with
    | some (.upgrading index _) =>
        let rehearsal := (rehearsal.waitForReplacement index).settle
        (rehearsal.handoff.state = state, rehearsal)
    | _ => (false, rehearsal)

def expectAll (rehearsal : Rehearsal) : List State → List Bool × Rehearsal
  | [] => ([], rehearsal)
  | state :: rest =>
      let (seen, rehearsal) := rehearsal.expect state
      let (others, rehearsal) := rehearsal.expectAll rest
      (seen :: others, rehearsal)

def listen (host : Host) (address : String) (rehearsal : Rehearsal) :
    Except ListenerError (Address.Socket × Bool) × Rehearsal :=
  let (result, inheritance) := rehearsal.inheritance.listen host address
  let handover := rehearsal.handoff.handover || result.isOk
  (result, { rehearsal with inheritance, handoff := { rehearsal.handoff with handover } })

end Rehearsal

end ServiceHost.Upgrade
