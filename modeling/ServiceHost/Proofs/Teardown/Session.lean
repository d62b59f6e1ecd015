import ServiceHost.Teardown.Basic

set_option autoImplicit false

namespace ServiceHost.Teardown

variable {β : Type}

inductive Event where
  | began (position : Nat)
  | ended (position : Nat) (panicked : Bool)
deriving DecidableEq, Repr

def Event.position : Event → Nat
  | .began position => position
  | .ended position _ => position

structure Session (β : Type) where
  teardown : Teardown β
  runs : List Run := []
  log : List Event := []

-- A body that has begun may take any time before it ends.
inductive Move where
  | call
  | advance (run : Nat)
  | pass (position : Nat)
  | enter (position : Nat)
  | finish (position : Nat) (panicked : Bool)
deriving DecidableEq, Repr

namespace Session

def begun (hooks : List (Hook β)) : Session β := { teardown := hooks.foldl Teardown.register {} }

def advance? (session : Session β) (position : Nat) : Option (Session β) :=
  match session.runs[position]?.bind (·.next? session.teardown) with
  | some (run, teardown) => some { session with teardown, runs := session.runs.set position run }
  | none => none

def move? (session : Session β) : Move → Option (Session β)
  | .call => some { session with runs := session.runs ++ [.called] }
  | .advance run => session.advance? run
  | .pass position => (session.teardown.pass? position).map fun teardown => { session with teardown }
  | .enter position =>
      (session.teardown.enter? position).map fun teardown =>
        { session with teardown, log := session.log ++ [.began position] }
  | .finish position panicked =>
      (session.teardown.finish position panicked).map fun teardown =>
        { session with teardown, log := session.log ++ [.ended position panicked] }

def step (session : Session β) (move : Move) : Session β := (session.move? move).getD session

def run (session : Session β) (moves : List Move) : Session β := moves.foldl step session

end Session

def trace (position : Nat) (log : List Event) : List Event := log.filter (·.position = position)

-- What a hook's progress has left in the log.
def Recorded (position : Nat) : Progress → List Event → Prop
  | .holding _, events => events = []
  | .running, events => events = [.began position]
  | .finished panicked, events => events = [.began position, .ended position panicked]

def ReleasedLast (hooks : List (Hook β)) (log : List Event) : Prop :=
  ∀ (index position : Nat) (hook : Hook β), log[index]? = some (.began position) → hooks[position]? = some hook →
    hook.release = true → ∀ later, position < later → later < hooks.length →
      ∃ earlier panicked, earlier < index ∧ log[earlier]? = some (.ended later panicked)

structure Arranged (hooks : List (Hook β)) (tasks : List (Hook.Task β)) (log : List Event) : Prop where
  listed : tasks.map (·.hook) = hooks
  recorded : ∀ position task, tasks[position]? = some task → Recorded position task.progress (trace position log)
  inside : ∀ event ∈ log, event.position < hooks.length
  held : ∀ position task next, tasks[position]? = some task → task.progress = .holding next →
    position < next ∧ ∀ later, position < later → later < next → isFinished tasks later = true
  ordered : ReleasedLast hooks log

theorem register_all (hooks before : List (Hook β)) :
    hooks.foldl Teardown.register { hooks := before } = { hooks := before ++ hooks } := by
  induction hooks generalizing before with
  | nil => rw [List.append_nil]; rfl
  | cons hook rest ih =>
      rw [List.foldl_cons, List.append_cons]
      exact ih (before ++ [hook])

theorem listed_length (hooks : List (Hook β)) (tasks : List (Hook.Task β)) (log : List Event)
    (arranged : Arranged hooks tasks log) : tasks.length = hooks.length := by
  rw [← arranged.listed, List.length_map]

theorem set_progress_found (progress : Progress) (tasks : List (Hook.Task β)) (position : Nat) (task : Hook.Task β)
    (found : tasks[position]? = some task) :
    (setProgress progress tasks position)[position]? = some { task with progress } := by
  simp [setProgress, found]

theorem set_progress_apart (progress : Progress) (tasks : List (Hook.Task β)) (position other : Nat)
    (apart : position ≠ other) : (setProgress progress tasks position)[other]? = tasks[other]? := by
  simp [setProgress, apart]

theorem set_progress_hooks (progress : Progress) (tasks : List (Hook.Task β)) (position : Nat) :
    (setProgress progress tasks position).map (·.hook) = tasks.map (·.hook) := by
  apply List.ext_getElem?
  intro other
  by_cases same : position = other
  · subst same
    cases found : tasks[position]? <;> simp [setProgress, found]
  · rw [List.getElem?_map, set_progress_apart progress tasks position other same, List.getElem?_map]

theorem finished_stays (progress : Progress) (tasks : List (Hook.Task β)) (position other : Nat) (task : Hook.Task β)
    (found : tasks[position]? = some task) (going : task.progress.isFinished = false)
    (finished : isFinished tasks other = true) : isFinished (setProgress progress tasks position) other = true := by
  by_cases same : position = other
  · subst same
    simp [isFinished, found, going] at finished
  · unfold isFinished
    rw [set_progress_apart progress tasks position other same]
    exact finished

theorem finished_task (tasks : List (Hook.Task β)) (position : Nat) (finished : isFinished tasks position = true) :
    ∃ task panicked, tasks[position]? = some task ∧ task.progress = .finished panicked := by
  cases found : tasks[position]? with
  | none => simp [isFinished, found] at finished
  | some task =>
      cases progress : task.progress with
      | finished panicked => exact ⟨task, panicked, rfl, progress⟩
      | holding next => simp [isFinished, found, progress, Progress.isFinished] at finished
      | running => simp [isFinished, found, progress, Progress.isFinished] at finished

theorem finished_recorded (hooks : List (Hook β)) (tasks : List (Hook.Task β)) (log : List Event) (position : Nat)
    (arranged : Arranged hooks tasks log) (finished : isFinished tasks position = true) :
    ∃ panicked, trace position log = [.began position, .ended position panicked] := by
  obtain ⟨task, panicked, found, ended⟩ := finished_task tasks position finished
  have recorded := arranged.recorded position task found
  rw [ended] at recorded
  exact ⟨panicked, recorded⟩

theorem trace_elsewhere (position : Nat) (log events : List Event) (elsewhere : ∀ event ∈ events, event.position ≠ position) :
    trace position (log ++ events) = trace position log := by
  have nothing : events.filter (·.position = position) = [] := by simpa using elsewhere
  rw [trace, List.filter_append, nothing, List.append_nil]
  rfl

structure Stride (hooks : List (Hook β)) (tasks : List (Hook.Task β)) (position : Nat) (progress : Progress)
    (log events : List Event) : Prop where
  found : ∃ task, tasks[position]? = some task ∧ task.progress.isFinished = false
  own : ∀ event ∈ events, event.position = position
  recorded : Recorded position progress (trace position (log ++ events))
  held : ∀ next, progress = .holding next →
    position < next ∧ ∀ later, position < later → later < next → isFinished tasks later = true
  ready : ∀ hook, .began position ∈ events → hooks[position]? = some hook → hook.release = true →
    ∀ later, position < later → later < hooks.length → isFinished tasks later = true

theorem arranged_stride (hooks : List (Hook β)) (tasks : List (Hook.Task β)) (position : Nat) (progress : Progress)
    (log events : List Event) (arranged : Arranged hooks tasks log)
    (stride : Stride hooks tasks position progress log events) :
    Arranged hooks (setProgress progress tasks position) (log ++ events) := by
  obtain ⟨task, found, going⟩ := stride.found
  have stays (other : Nat) (finished : isFinished tasks other = true) :=
    finished_stays progress tasks position other task found going finished
  refine ⟨(set_progress_hooks progress tasks position).trans arranged.listed, ?_, ?_, ?_, ?_⟩
  · intro other changed present
    by_cases same : position = other
    · subst same
      rw [set_progress_found progress tasks position task found] at present
      cases present
      exact stride.recorded
    · rw [set_progress_apart progress tasks position other same] at present
      rw [trace_elsewhere other log events fun event member => stride.own event member ▸ same]
      exact arranged.recorded other changed present
  · intro event member
    rcases List.mem_append.mp member with old | new
    · exact arranged.inside event old
    · rw [stride.own event new, ← listed_length hooks tasks log arranged]
      exact (List.getElem?_eq_some_iff.mp found).1
  · intro other changed next present holding
    by_cases same : position = other
    · subst same
      rw [set_progress_found progress tasks position task found] at present
      cases present
      obtain ⟨beyond, finished⟩ := stride.held next holding
      exact ⟨beyond, fun later after before => stays later (finished later after before)⟩
    · rw [set_progress_apart progress tasks position other same] at present
      obtain ⟨beyond, finished⟩ := arranged.held other changed next present holding
      exact ⟨beyond, fun later after before => stays later (finished later after before)⟩
  · intro index other hook began known releases later after before
    by_cases old : index < log.length
    · rw [List.getElem?_append_left old] at began
      obtain ⟨earlier, panicked, less, ended⟩ := arranged.ordered index other hook began known releases later after before
      have inside : earlier < log.length := Nat.lt_trans less old
      exact ⟨earlier, panicked, less, (List.getElem?_append_left inside).trans ended⟩
    · rw [List.getElem?_append_right (Nat.le_of_not_lt old)] at began
      have new : Event.began other ∈ events := List.mem_of_getElem? began
      have same : other = position := stride.own _ new
      subst same
      have finished := stride.ready hook new known releases later after before
      obtain ⟨panicked, recorded⟩ := finished_recorded hooks tasks log later arranged finished
      have member : Event.ended later panicked ∈ log := by
        have traced : Event.ended later panicked ∈ trace later log := by simp [recorded]
        exact (List.mem_filter.mp traced).1
      obtain ⟨earlier, inside, ended⟩ := List.getElem_of_mem member
      refine ⟨earlier, panicked, Nat.lt_of_lt_of_le inside (Nat.le_of_not_lt old), ?_⟩
      rw [List.getElem?_append_left inside, List.getElem?_eq_getElem inside, ended]

def Strides (hooks : List (Hook β)) (session next : Session β) : Prop :=
  ∃ position progress events, Stride hooks session.teardown.tasks position progress session.log events ∧
    next = { session with teardown := session.teardown.advance position progress, log := session.log ++ events }

theorem recorded_at (hooks : List (Hook β)) (tasks : List (Hook.Task β)) (log : List Event) (position : Nat) (hook : Hook β)
    (progress : Progress) (arranged : Arranged hooks tasks log) (found : tasks[position]? = some { hook, progress }) :
    Recorded position progress (trace position log) :=
  arranged.recorded position _ found

theorem trace_own (position : Nat) (log : List Event) (event : Event) (own : event.position = position) :
    trace position (log ++ [event]) = trace position log ++ [event] := by
  simp [trace, List.filter_append, own]

theorem pass_strides (hooks : List (Hook β)) (session next : Session β) (position : Nat)
    (arranged : Arranged hooks session.teardown.tasks session.log) (moved : session.move? (.pass position) = some next) :
    Strides hooks session next := by
  obtain ⟨teardown, passed, rfl⟩ := Option.map_eq_some_iff.mp moved
  unfold Teardown.pass? at passed
  split at passed
  next name body due found =>
    split at passed
    next finished =>
      cases passed
      obtain ⟨beyond, before⟩ := arranged.held position _ due found rfl
      have recorded := recorded_at hooks _ _ position _ _ arranged found
      refine ⟨position, .holding (due + 1), [], ⟨⟨_, found, rfl⟩, by simp, ?_, ?_, by simp⟩, by rw [List.append_nil]⟩
      · rw [List.append_nil]
        exact recorded
      · intro due' same
        cases same
        refine ⟨Nat.lt_succ_of_lt beyond, fun later after less => ?_⟩
        rcases Nat.lt_succ_iff_lt_or_eq.mp less with earlier | rfl
        · exact before later after earlier
        · exact finished
    next => cases passed
  next => cases passed

theorem enter_strides (hooks : List (Hook β)) (session next : Session β) (position : Nat)
    (arranged : Arranged hooks session.teardown.tasks session.log) (moved : session.move? (.enter position) = some next) :
    Strides hooks session next := by
  obtain ⟨teardown, entered, rfl⟩ := Option.map_eq_some_iff.mp moved
  unfold Teardown.enter? at entered
  split at entered
  next hook due found =>
    split at entered
    next => cases entered
    next free =>
      cases entered
      have recorded := recorded_at hooks _ _ position _ _ arranged found
      have finished := (arranged.held position _ due found rfl).2
      have length := listed_length hooks _ _ arranged
      have known : hooks[position]? = some hook := by
        rw [← arranged.listed, List.getElem?_map, found]
        rfl
      refine ⟨position, .running, [.began position], ⟨⟨_, found, rfl⟩, by simp [Event.position], ?_, by simp, ?_⟩, rfl⟩
      · rw [trace_own position _ _ rfl, show trace position session.log = [] from recorded]
        rfl
      · intro other _ same releases later after before
        cases known.symm.trans same
        have all : ¬ due < session.teardown.tasks.length := by simpa [releases] using free
        exact finished later after (by omega)
  next => cases entered

theorem finish_strides (hooks : List (Hook β)) (session next : Session β) (position : Nat) (panicked : Bool)
    (arranged : Arranged hooks session.teardown.tasks session.log)
    (moved : session.move? (.finish position panicked) = some next) : Strides hooks session next := by
  obtain ⟨teardown, finished, rfl⟩ := Option.map_eq_some_iff.mp moved
  unfold Teardown.finish at finished
  split at finished
  next hook found =>
    cases finished
    have recorded := recorded_at hooks _ _ position _ _ arranged found
    refine ⟨position, .finished panicked, [.ended position panicked],
      ⟨⟨_, found, rfl⟩, by simp [Event.position], ?_, by simp, by simp⟩, rfl⟩
    rw [trace_own position _ _ rfl, show trace position session.log = [.began position] from recorded]
    rfl
  next => cases finished

theorem strides_arranged (hooks : List (Hook β)) (session next : Session β)
    (arranged : Arranged hooks session.teardown.tasks session.log) (strides : Strides hooks session next) :
    Arranged hooks next.teardown.tasks next.log ∧
      ∀ position, isFinished session.teardown.tasks position = true → isFinished next.teardown.tasks position = true := by
  obtain ⟨position, progress, events, stride, rfl⟩ := strides
  obtain ⟨task, found, going⟩ := stride.found
  exact ⟨arranged_stride hooks _ position progress _ events arranged stride,
    fun other finished => finished_stays progress _ position other task found going finished⟩

end ServiceHost.Teardown
