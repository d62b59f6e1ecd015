import ServiceHost.Teardown.Basic
import ServiceHost.Upgrade.Watcher

/-!
The end of a service. It leaves its serving state when it has been replaced or stopped, or when shutdown
is signalled; it runs the shutdown hooks, dismisses the watcher of signals, and returns. It does not wait
for the watcher, which is cut off at one of its next steps.
-/

set_option autoImplicit false

namespace ServiceHost.Service

inductive Exit.Duty where
  | hangUp
  | drain
  | deregister
deriving DecidableEq, Repr

inductive Exit.Stage where
  | serving
  | windingDown
  | dismissing
  | returned
deriving DecidableEq, Repr

structure Exit where
  handoff : Upgrade.Handoff
  watcher : Option Upgrade.Watcher := none
  teardown : Teardown Exit.Duty := {}
  stage : Exit.Stage := .serving

namespace Exit

-- The hooks in the order in which they are registered. The channels are closed when nothing can use
-- them any more.
def hooks (registered : Bool) : List (Hook Duty) :=
  [{ name := "connection-cache", release := true, body := .hangUp }, { name := "http-server", body := .drain }]
    ++ (if registered then [{ name := "registry", body := .deregister }] else [])

def trigger (exit : Exit) : Exit := { exit with teardown := exit.teardown.trigger }

def stop (exit : Exit) : Exit := { exit with handoff := exit.handoff.stop }

def leave (exit : Exit) : Option Exit :=
  if exit.stage = .serving && (exit.handoff.state.isTerminal || exit.teardown.triggered) then
    some { exit with stage := .windingDown, teardown := exit.teardown.begin }
  else none

def finishHooks (exit : Exit) : Option Exit :=
  if exit.stage = .windingDown then
    exit.teardown.complete.map fun teardown => { exit with teardown, stage := .dismissing }
  else none

def dismiss (exit : Exit) : Option Exit :=
  if exit.stage = .dismissing then some { exit with stage := .returned } else none

def cutOff (exit : Exit) : Option Exit :=
  if exit.stage = .returned then
    match exit.watcher with
    | some (.upgrading attempt _) =>
        some { exit with watcher := none, handoff := (exit.handoff.abandon attempt).getD exit.handoff }
    | some _ => some { exit with watcher := none }
    | none => none
  else none

end Exit

end ServiceHost.Service
