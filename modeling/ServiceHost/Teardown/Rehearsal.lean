import ServiceHost.Teardown.Basic

set_option autoImplicit false

namespace ServiceHost.Teardown

structure Script where
  delay : Nat := 0
  panics : Bool := false
deriving DecidableEq, Repr

inductive Mark where
  | started
  | ended
  | panicked
deriving DecidableEq, Repr

def Mark.word : Mark → String
  | .started => "start"
  | .ended => "end"
  | .panicked => "panic"

structure Timer where
  due : Nat
  late : Bool
  position : Nat
deriving DecidableEq, Repr

structure Entry where
  time : Nat
  mark : Mark
  name : String
deriving DecidableEq, Repr

structure Rehearsal where
  now : Nat := 0
  teardown : Teardown Script := {}
  timers : List Timer := []
  log : List Entry := []
  runs : List Run := []
  dropped : Bool := false

namespace Rehearsal

def note (rehearsal : Rehearsal) (mark : Mark) (name : String) : Rehearsal :=
  { rehearsal with log := rehearsal.log ++ [{ time := rehearsal.now, mark, name }] }

def tasks (rehearsal : Rehearsal) (late : Bool) : List (Hook.Task Script) :=
  if late then rehearsal.teardown.late else rehearsal.teardown.tasks

def finish (rehearsal : Rehearsal) (late : Bool) (position : Nat) : Rehearsal :=
  match (rehearsal.tasks late)[position]? with
  | none => rehearsal
  | some task =>
      let panicked := task.hook.body.panics
      let rehearsal := rehearsal.note (if panicked then .panicked else .ended) task.hook.name
      let teardown := rehearsal.teardown
      { rehearsal with
        teardown :=
          if late then teardown.finishLate position panicked
          else (teardown.finish position panicked).getD teardown }

def enter (rehearsal : Rehearsal) (late : Bool) (position : Nat) : Rehearsal :=
  match (rehearsal.tasks late)[position]? with
  | none => rehearsal
  | some task =>
      let rehearsal := rehearsal.note .started task.hook.name
      if task.hook.body.delay = 0 then rehearsal.finish late position
      else
        let timer := { due := rehearsal.now + task.hook.body.delay, late, position }
        { rehearsal with timers := rehearsal.timers ++ [timer] }

def startReady (rehearsal : Rehearsal) : Rehearsal :=
  (List.range rehearsal.teardown.tasks.length).reverse.foldl
    (fun rehearsal position =>
      match rehearsal.teardown.start position with
      | some teardown => { rehearsal with teardown }.enter false position
      | none => rehearsal)
    rehearsal

-- Steps that a run takes: four and one for each hook.
def runBound (teardown : Teardown Script) : Nat := teardown.hooks.length + teardown.tasks.length + 4

def pursue (rehearsal : Rehearsal) (run : Run) : Rehearsal :=
  let (run, teardown) := Run.proceed (runBound rehearsal.teardown) (run, rehearsal.teardown)
  { rehearsal with teardown, runs := rehearsal.runs ++ [run] }

-- The runs go on in the order in which they were called, so that the first is ahead of those that wait for it.
def settle (rehearsal : Rehearsal) : Rehearsal :=
  let started := rehearsal.startReady
  started.runs.foldl pursue { started with runs := [] }

def call (rehearsal : Rehearsal) : Rehearsal := settle (rehearsal.pursue .called)

def returned (rehearsal : Rehearsal) : Nat := rehearsal.runs.countP (· = .returned)

def nextDue (rehearsal : Rehearsal) : Option Nat := (rehearsal.timers.map (·.due)).min?

def fire (rehearsal : Rehearsal) (time : Nat) : Rehearsal :=
  let due := rehearsal.timers.filter (·.due = time)
  let rehearsal := { rehearsal with now := time, timers := rehearsal.timers.filter (·.due ≠ time) }
  settle (due.foldl (fun rehearsal timer => rehearsal.finish timer.late timer.position) rehearsal)

-- Serves timers up to a time; with no time, until the run is complete. Every firing finishes a hook,
-- so there are no more of them than hooks.
def fireUntil (limit : Option Nat) : Nat → Rehearsal → Rehearsal
  | 0, rehearsal => rehearsal
  | fuel + 1, rehearsal =>
      if limit.isNone && rehearsal.teardown.completed then rehearsal
      else
        match rehearsal.nextDue with
        | some time =>
            if limit.all (time ≤ ·) then fireUntil limit fuel (rehearsal.fire time) else rehearsal
        | none => rehearsal

def hookCount (rehearsal : Rehearsal) : Nat :=
  rehearsal.teardown.tasks.length + rehearsal.teardown.late.length + 1

inductive Step where
  | hook (hook : Hook Script)
  | trigger
  | sleep (millis : Nat)
  | run
  | runAndWait
  | drop

def act (rehearsal : Rehearsal) : Step → Rehearsal
  | .hook hook =>
      let position := rehearsal.teardown.late.length
      let teardown := rehearsal.teardown.register hook
      if teardown.late.length = position then { rehearsal with teardown }
      else { rehearsal with teardown := teardown.startLate position }.enter true position
  | .trigger => { rehearsal with teardown := rehearsal.teardown.trigger }
  | .sleep millis =>
      let target := rehearsal.now + millis
      { fireUntil (some target) rehearsal.hookCount rehearsal with now := target }
  | .run => rehearsal.call
  | .runAndWait =>
      let called := rehearsal.call
      let rehearsal := fireUntil none called.hookCount called
      { rehearsal with runs := rehearsal.runs.dropLast }
  | .drop => { rehearsal with dropped := true }

def step (rehearsal : Rehearsal) (step : Step) : Rehearsal :=
  if !rehearsal.dropped then rehearsal.act step
  else
    match step with
    | .sleep millis => rehearsal.act (.sleep millis)
    | _ => rehearsal

def signalled (rehearsal : Rehearsal) : Bool := rehearsal.teardown.triggered || rehearsal.dropped

end Rehearsal

end ServiceHost.Teardown
