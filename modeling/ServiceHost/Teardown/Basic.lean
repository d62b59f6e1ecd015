import ServiceHost.Text.Quoted

/-!
Orderly shutdown. A coordinator has a signal that fires once, and hooks that are run once. All hooks
are launched together, the latest registered first. A plain hook starts at once; a release hook, which
takes away something that later hooks may still use, waits until every hook registered after it has
finished. A hook registered after the launch is run right away and nobody waits for it.

Anybody may ask for a run. The first to do so launches the hooks and waits for each of them, and the others
wait for the first.
-/

set_option autoImplicit false

namespace ServiceHost

structure Hook (β : Type) where
  name : String
  release : Bool := false
  body : β

-- A release hook holds for one later hook after the other; `next` is the position of the one to come.
inductive Progress where
  | holding (next : Nat)
  | running
  | finished (panicked : Bool)
deriving DecidableEq, Repr

def Progress.isFinished : Progress → Bool
  | .finished _ => true
  | _ => false

structure Hook.Task (β : Type) where
  hook : Hook β
  progress : Progress := .holding 0

-- The launched hooks are kept in the order of their registration.
structure Teardown (β : Type) where
  triggered : Bool := false
  started : Bool := false
  hooks : List (Hook β) := []
  tasks : List (Hook.Task β) := []
  late : List (Hook.Task β) := []
  completed : Bool := false

namespace Teardown

variable {β : Type}

def trigger (teardown : Teardown β) : Teardown β := { teardown with triggered := true }

def enlist (teardown : Teardown β) (hook : Hook β) : Teardown β :=
  { teardown with hooks := teardown.hooks ++ [hook] }

def spawnLate (teardown : Teardown β) (hook : Hook β) : Teardown β :=
  { teardown with late := teardown.late ++ [{ hook }] }

def register (teardown : Teardown β) (hook : Hook β) : Teardown β :=
  if teardown.started then teardown.spawnLate hook else teardown.enlist hook

def claim (teardown : Teardown β) : Bool × Teardown β :=
  (!teardown.started, { teardown with started := true })

def launch (teardown : Teardown β) : Teardown β :=
  { teardown with
    hooks := [], tasks := teardown.hooks.mapIdx fun position hook => { hook, progress := .holding (position + 1) } }

def begin (teardown : Teardown β) : Teardown β :=
  match teardown.trigger.claim with
  | (true, claimed) => claimed.launch
  | (false, claimed) => claimed

def isFinished (tasks : List (Hook.Task β)) (position : Nat) : Bool := tasks[position]?.any (·.progress.isFinished)

def setProgress (progress : Progress) (tasks : List (Hook.Task β)) (position : Nat) : List (Hook.Task β) :=
  tasks.modify position fun task => { task with progress }

def advance (teardown : Teardown β) (position : Nat) (progress : Progress) : Teardown β :=
  { teardown with tasks := setProgress progress teardown.tasks position }

def pass? (teardown : Teardown β) (position : Nat) : Option (Teardown β) :=
  match teardown.tasks[position]? with
  | some { hook := { release := true, .. }, progress := .holding next } =>
      if isFinished teardown.tasks next then some (teardown.advance position (.holding (next + 1))) else none
  | _ => none

def enter? (teardown : Teardown β) (position : Nat) : Option (Teardown β) :=
  match teardown.tasks[position]? with
  | some { hook, progress := .holding next } =>
      if hook.release && next < teardown.tasks.length then none else some (teardown.advance position .running)
  | _ => none

def passAll (teardown : Teardown β) (position : Nat) : Nat → Teardown β
  | 0 => teardown
  | fuel + 1 =>
      match teardown.pass? position with
      | some teardown => teardown.passAll position fuel
      | none => teardown

def start (teardown : Teardown β) (position : Nat) : Option (Teardown β) :=
  (teardown.passAll position teardown.tasks.length).enter? position

def finish (teardown : Teardown β) (position : Nat) (panicked : Bool) : Option (Teardown β) :=
  match teardown.tasks[position]? with
  | some { progress := .running, .. } => some (teardown.advance position (.finished panicked))
  | _ => none

def startLate (teardown : Teardown β) (position : Nat) : Teardown β :=
  { teardown with late := setProgress .running teardown.late position }

def finishLate (teardown : Teardown β) (position : Nat) (panicked : Bool) : Teardown β :=
  { teardown with late := setProgress (.finished panicked) teardown.late position }

def isDone (teardown : Teardown β) : Bool :=
  teardown.started && teardown.tasks.all (·.progress.isFinished)

def close (teardown : Teardown β) : Teardown β := { teardown with completed := true }

def complete (teardown : Teardown β) : Option (Teardown β) :=
  if teardown.isDone then some teardown.close else none

def text (teardown : Teardown β) : String :=
  Text.record "Shutdown" [("triggered", Text.truth teardown.triggered),
    ("hooks", toString teardown.hooks.length)]

end Teardown

-- Who has launched the hooks joins one after the other, the latest registered first; `left` of them are still
-- to be joined. Anybody else waits for the first run to complete.
inductive Run where
  | called
  | announced
  | launching
  | joining (left : Nat)
  | waiting
  | returned
deriving DecidableEq, Repr

namespace Run

def next? {β : Type} (teardown : Teardown β) : Run → Option (Run × Teardown β)
  | .called => some (.announced, teardown.trigger)
  | .announced =>
      match teardown.claim with
      | (true, claimed) => some (.launching, claimed)
      | (false, claimed) => some (.waiting, claimed)
  | .launching => some (.joining teardown.hooks.length, teardown.launch)
  | .joining 0 => some (.returned, teardown.close)
  | .joining (left + 1) => if Teardown.isFinished teardown.tasks left then some (.joining left, teardown) else none
  | .waiting => if teardown.completed then some (.returned, teardown) else none
  | .returned => none

def proceed {β : Type} : Nat → Run × Teardown β → Run × Teardown β
  | 0, state => state
  | fuel + 1, (run, teardown) =>
      match run.next? teardown with
      | some state => proceed fuel state
      | none => (run, teardown)

end Run

end ServiceHost
