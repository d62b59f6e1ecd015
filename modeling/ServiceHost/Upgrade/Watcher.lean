import ServiceHost.Upgrade.Attempt

/-!
The task that turns process signals into upgrades and stops. While an attempt is under way it keeps
listening, so that a stop can still end the attempt.
-/

set_option autoImplicit false

namespace ServiceHost.Upgrade

inductive Signal where
  | upgrade
  | stop
deriving DecidableEq, Repr

def Signal.ofName? (name : String) : Option Signal :=
  if name = "USR2" ∨ name = "HUP" then some .upgrade
  else if name = "INT" ∨ name = "TERM" ∨ name = "QUIT" then some .stop
  else none

-- A watcher that is `deaf` has come to the end of the signals.
inductive Watcher where
  | listening
  | deciding
  | upgrading (attempt : Nat) (deaf : Bool)
  | ended
deriving DecidableEq, Repr

namespace Watcher

def receive (handoff : Handoff) (signal : Option Signal) : Watcher → Option (Watcher × Handoff)
  | .listening =>
      match signal with
      | some .upgrade => some (.deciding, handoff)
      | some .stop => some (.ended, handoff.stop)
      | none => some (.ended, handoff)
  | .upgrading attempt false =>
      match signal with
      | some .upgrade => some (.upgrading attempt false, handoff)
      | some .stop => some (.upgrading attempt false, handoff.stop)
      | none => some (.upgrading attempt true, handoff)
  | _ => none

def decide (handoff : Handoff) : Watcher → Option (Watcher × Handoff)
  | .deciding =>
      if handoff.state = .ready then some (.upgrading handoff.attempts.length false, handoff.enter)
      else some (.listening, handoff)
  | _ => none

def judge (handoff : Handoff) : Watcher → Option Watcher
  | .upgrading attempt _ =>
      match handoff.stage? attempt with
      | some (.returned failure) =>
          if failure.isNone || handoff.state = .stopped then some .ended else some .listening
      | _ => none
  | _ => none

end Watcher

end ServiceHost.Upgrade
