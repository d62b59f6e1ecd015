import ServiceHost.Upgrade.State

/-!
Attempts to replace the process. Any number of attempts may be under way; each proceeds in steps between
which other attempts and a stop may come. An attempt claims the state, prepares what it hands over,
confirms its claim, spawns the replacement, and waits until the replacement reports that it is ready. A
replacement of which that cannot be said any more is killed and waited for, and the claim is given back.

What the system and the replacement do comes from outside: the steps take it as an argument.
-/

set_option autoImplicit false

namespace ServiceHost.Upgrade

-- What has become of a replacement: it runs, or it has been killed and waited for.
inductive Replacement where
  | running
  | reaped
deriving DecidableEq, Repr

inductive Wake where
  | readinessByte
  | socketClosed
  | socketFailed (text : String)
  | childExited (code : Option Int)
  | stopSeen
  | timedOut
deriving DecidableEq, Repr

inductive Attempt.Stage where
  | entered
  | refused
  | preparing
  | prepared
  | spawning
  | spawned
  | waiting
  | killing (error : Error)
  | succeeded
  | failing (error : Error)
  | resetting (error : Error)
  | returned (failure : Option Error)
  | abandoned
deriving DecidableEq, Repr

structure Attempt where
  stage : Attempt.Stage := .entered
  replacement : Option Replacement := none
deriving DecidableEq, Repr

-- `timeout` is in milliseconds. `stopRequested` says whether a stop has ever been requested, and
-- `handover` whether there is a listener to hand over.
structure Handoff where
  timeout : Nat
  state : State := .ready
  stopRequested : Bool := false
  handover : Bool := false
  attempts : List Attempt := []
  succeeded : Nat := 0
  failed : Nat := 0
  aborted : Nat := 0
deriving DecidableEq, Repr

namespace Handoff

def stop (handoff : Handoff) : Handoff := { handoff with state := .stopped, stopRequested := true }

def transition (handoff : Handoff) (source target : State) : Handoff :=
  if handoff.state = source then { handoff with state := target } else handoff

def stage? (handoff : Handoff) (index : Nat) : Option Attempt.Stage := (handoff.attempts[index]?).map (·.stage)

def move (handoff : Handoff) (index : Nat) (stage : Attempt.Stage) : Handoff :=
  { handoff with attempts := handoff.attempts.modify index fun attempt => { attempt with stage } }

def setReplacement (handoff : Handoff) (index : Nat) (replacement : Replacement) : Handoff :=
  { handoff with
    attempts := handoff.attempts.modify index fun attempt => { attempt with replacement := some replacement } }

def enter (handoff : Handoff) : Handoff := { handoff with attempts := handoff.attempts ++ [{}] }

def claim (handoff : Handoff) (index : Nat) : Option Handoff :=
  if handoff.stage? index = some .entered then
    if handoff.state = .ready then some (({ handoff with state := .requested } : Handoff).move index .preparing)
    else some (handoff.move index .refused)
  else none

def report (handoff : Handoff) (index : Nat) : Option Handoff :=
  if handoff.stage? index = some .refused then
    some (handoff.move index (.returned (some (.inProgress handoff.state))))
  else none

def prepare (handoff : Handoff) (index : Nat) (refusal : Option String) : Option Handoff :=
  if handoff.stage? index = some .preparing then
    if !handoff.handover then some (handoff.move index (.failing (.spawn .noListener)))
    else
      match refusal with
      | some text => some (handoff.move index (.failing (.spawn (.system text))))
      | none => some (handoff.move index .prepared)
  else none

def confirm (handoff : Handoff) (index : Nat) : Option Handoff :=
  if handoff.stage? index = some .prepared then
    if handoff.state = .requested then some (({ handoff with state := .upgrading } : Handoff).move index .spawning)
    else some (handoff.move index (.failing .aborted))
  else none

def spawn (handoff : Handoff) (index : Nat) (refusal : Option String) : Option Handoff :=
  if handoff.stage? index = some .spawning then
    match refusal with
    | some text => some (handoff.move index (.failing (.spawn (.system text))))
    | none => some ((handoff.setReplacement index .running).move index .spawned)
  else none

def attach (handoff : Handoff) (index : Nat) (refusal : Option String) : Option Handoff :=
  if handoff.stage? index = some .spawned then
    match refusal with
    | some text => some (handoff.move index (.failing (.spawn (.system text))))
    | none => some (handoff.move index .waiting)
  else none

def wake (handoff : Handoff) (index : Nat) (cause : Wake) : Option Handoff :=
  if handoff.stage? index = some .waiting then
    match cause with
    | .readinessByte => some (handoff.move index .succeeded)
    | .socketClosed => some (handoff.move index (.killing (.exited none)))
    | .socketFailed text => some (handoff.move index (.killing (.spawn (.system text))))
    | .childExited code => some (handoff.move index (.killing (.exited code)))
    | .stopSeen => if handoff.state = .stopped then some (handoff.move index (.killing .aborted)) else none
    | .timedOut => some (handoff.move index (.killing (.timeout (handoff.timeout * 1000000))))
  else none

def reap (handoff : Handoff) (index : Nat) : Option Handoff :=
  match handoff.stage? index with
  | some (.killing error) => some ((handoff.setReplacement index .reaped).move index (.failing error))
  | _ => none

-- The system does not let the attempt wait for the replacement. The attempt does not tell.
def forsake (handoff : Handoff) (index : Nat) : Option Handoff :=
  match handoff.stage? index with
  | some (.killing error) => some (handoff.move index (.failing error))
  | _ => none

def finish (handoff : Handoff) (index : Nat) : Option Handoff :=
  if handoff.stage? index = some .succeeded then
    some { (handoff.transition .upgrading .upgraded).move index (.returned none) with
      succeeded := handoff.succeeded + 1 }
  else none

-- The first half of giving back the claim. An aborted attempt has nothing to give back.
def release (handoff : Handoff) (index : Nat) : Option Handoff :=
  match handoff.stage? index with
  | some (.failing .aborted) =>
      some { handoff.move index (.returned (some .aborted)) with aborted := handoff.aborted + 1 }
  | some (.failing error) => some ((handoff.transition .upgrading .ready).move index (.resetting error))
  | _ => none

def reset (handoff : Handoff) (index : Nat) : Option Handoff :=
  match handoff.stage? index with
  | some (.resetting error) =>
      some { (handoff.transition .requested .ready).move index (.returned (some error)) with
        failed := handoff.failed + 1 }
  | _ => none

-- Nobody carries an attempt on any more. What it has spawned is left alone.
def abandon (handoff : Handoff) (index : Nat) : Option Handoff :=
  match handoff.stage? index with
  | some (.returned _) => none
  | some _ => some (handoff.move index .abandoned)
  | none => none

def hasRunning (handoff : Handoff) : Bool := handoff.attempts.any fun attempt => attempt.replacement = some .running

def text (handoff : Handoff) : String :=
  Text.openRecord "Upgrader" [("state", handoff.state.name), ("timeout", Elapsed.text (handoff.timeout * 1000000))]

end Handoff

end ServiceHost.Upgrade
