import ServiceHost.Proofs.Teardown.Session

set_option autoImplicit false

namespace ServiceHost

variable {β : Type}

def Run.isAside : Run → Bool
  | .called => true
  | .announced => true
  | .waiting => true
  | _ => false

namespace Teardown

structure Untouched (hooks : List (Hook β)) (session : Session β) : Prop where
  hooks : session.teardown.hooks = hooks
  tasks : session.teardown.tasks = []
  log : session.log = []

-- One run is ahead of all others.
def Led (leader : Run) (runs : List Run) : Prop :=
  ∃ first, runs[first]? = some leader ∧
    ∀ (other : Nat) (run : Run), other ≠ first → runs[other]? = some run → run.isAside = true

inductive Phase (hooks : List (Hook β)) (session : Session β) : Prop where
  | idle (unstarted : session.teardown.started = false) (incomplete : session.teardown.completed = false)
      (untouched : Untouched hooks session) (early : ∀ run ∈ session.runs, run = .called ∨ run = .announced)
  | claimed (started : session.teardown.started = true) (incomplete : session.teardown.completed = false)
      (untouched : Untouched hooks session) (led : Led .launching session.runs)
  | launched (left : Nat) (started : session.teardown.started = true) (incomplete : session.teardown.completed = false)
      (arranged : Arranged hooks session.teardown.tasks session.log) (led : Led (.joining left) session.runs)
      (inside : left ≤ hooks.length)
      (joined : ∀ position, left ≤ position → position < hooks.length → isFinished session.teardown.tasks position = true)
  | complete (started : session.teardown.started = true) (completed : session.teardown.completed = true)
      (arranged : Arranged hooks session.teardown.tasks session.log)
      (finished : ∀ position < hooks.length, isFinished session.teardown.tasks position = true)
      (runs : ∀ run ∈ session.runs, run.isAside = true ∨ run = .returned)

theorem phase_begun (hooks : List (Hook β)) : Phase hooks (Session.begun hooks) := by
  have registered := register_all hooks []
  rw [List.nil_append] at registered
  unfold Session.begun
  rw [show ({} : Teardown β) = { hooks := [] } from rfl, registered]
  exact .idle rfl rfl ⟨rfl, rfl, rfl⟩ (fun _ member => by cases member)

theorem led_called (leader : Run) (runs : List Run) (led : Led leader runs) : Led leader (runs ++ [.called]) := by
  obtain ⟨first, found, others⟩ := led
  refine ⟨first, ?_, fun other run apart present => ?_⟩
  · exact (List.getElem?_append_left (List.getElem?_eq_some_iff.mp found).1).trans found
  · by_cases old : other < runs.length
    · rw [List.getElem?_append_left old] at present
      exact others other run apart present
    · rw [List.getElem?_append_right (Nat.le_of_not_lt old)] at present
      rw [List.mem_singleton.mp (List.mem_of_getElem? present)]
      rfl

theorem led_aside (leader run next : Run) (runs : List Run) (position : Nat) (led : Led leader runs)
    (ahead : leader.isAside = false) (found : runs[position]? = some run) (aside : run.isAside = true)
    (stays : next.isAside = true) : Led leader (runs.set position next) := by
  obtain ⟨first, leads, others⟩ := led
  have apart : position ≠ first := by
    rintro rfl
    cases found.symm.trans leads
    rw [ahead] at aside
    cases aside
  refine ⟨first, (List.getElem?_set_ne apart).trans leads, fun other run' different present => ?_⟩
  by_cases same : position = other
  · subst same
    rw [List.getElem?_set_self (List.getElem?_eq_some_iff.mp found).1] at present
    cases present
    exact stays
  · exact others other run' different ((List.getElem?_set_ne same).symm.trans present)

theorem led_follows (leader run next : Run) (runs : List Run) (position : Nat) (led : Led leader runs)
    (found : runs[position]? = some run) (ahead : run.isAside = false) :
    run = leader ∧ Led next (runs.set position next) := by
  obtain ⟨first, leads, others⟩ := led
  have same : position = first := by
    apply Decidable.of_not_not
    intro apart
    rw [others position run apart found] at ahead
    cases ahead
  subst same
  refine ⟨Option.some.inj (found.symm.trans leads), position, ?_, fun other run' apart present => ?_⟩
  · exact List.getElem?_set_self (List.getElem?_eq_some_iff.mp found).1
  · exact others other run' apart ((List.getElem?_set_ne (Ne.symm apart)).symm.trans present)

theorem led_all (leader : Run) (runs : List Run) (led : Led leader runs) :
    ∀ run ∈ runs, run.isAside = true ∨ run = leader := by
  obtain ⟨first, leads, others⟩ := led
  intro run member
  obtain ⟨position, found⟩ := List.getElem?_of_mem member
  by_cases same : position = first
  · subst same
    exact Or.inr (Option.some.inj (found.symm.trans leads))
  · exact Or.inl (others position run same found)

theorem aside_next (teardown after : Teardown β) (run next : Run) (aside : run.isAside = true)
    (started : teardown.started = true) (goes : run.next? teardown = some (next, after)) :
    (∃ triggered, after = { teardown with triggered }) ∧
      (next.isAside = true ∨ next = .returned ∧ teardown.completed = true) := by
  cases run with
  | called =>
      cases goes
      exact ⟨⟨true, rfl⟩, Or.inl rfl⟩
  | announced =>
      have same : ({ teardown with started := true } : Teardown β) = teardown := by
        rw [← started]
      simp only [Run.next?, Teardown.claim, started, Bool.not_true, same] at goes
      cases goes
      exact ⟨⟨teardown.triggered, rfl⟩, Or.inl rfl⟩
  | waiting =>
      simp only [Run.next?] at goes
      split at goes
      next completed =>
        cases goes
        exact ⟨⟨teardown.triggered, rfl⟩, Or.inr ⟨rfl, completed⟩⟩
      next => cases goes
  | launching => cases aside
  | joining left => cases aside
  | returned => cases aside

theorem advance_does (session next : Session β) (position : Nat) (moved : session.move? (.advance position) = some next) :
    ∃ run after teardown, session.runs[position]? = some run ∧ run.next? session.teardown = some (after, teardown) ∧
      next = { session with teardown, runs := session.runs.set position after } := by
  simp only [Session.move?, Session.advance?] at moved
  split at moved
  next after teardown goes =>
    cases moved
    obtain ⟨run, found, does⟩ := Option.bind_eq_some_iff.mp goes
    exact ⟨run, after, teardown, found, does, rfl⟩
  next => cases moved

theorem phase_called (hooks : List (Hook β)) (session : Session β) (phase : Phase hooks session) :
    Phase hooks { session with runs := session.runs ++ [.called] } := by
  cases phase with
  | idle unstarted incomplete untouched early =>
      refine .idle unstarted incomplete ⟨untouched.hooks, untouched.tasks, untouched.log⟩ fun run member => ?_
      rcases List.mem_append.mp member with old | new
      · exact early run old
      · exact Or.inl (List.mem_singleton.mp new)
  | claimed started incomplete untouched led =>
      exact .claimed started incomplete ⟨untouched.hooks, untouched.tasks, untouched.log⟩ (led_called _ _ led)
  | launched left started incomplete arranged led inside joined =>
      exact .launched left started incomplete arranged (led_called _ _ led) inside joined
  | complete started completed arranged finished runs =>
      refine .complete started completed arranged finished fun run member => ?_
      rcases List.mem_append.mp member with old | new
      · exact runs run old
      · rw [List.mem_singleton.mp new]
        exact Or.inl rfl

theorem launched_task (teardown : Teardown β) (position : Nat) :
    teardown.launch.tasks[position]? =
      teardown.hooks[position]?.map fun hook => { hook, progress := .holding (position + 1) } := by
  rw [Teardown.launch, List.getElem?_mapIdx]

theorem launched_holding (teardown : Teardown β) (position : Nat) (task : Hook.Task β)
    (found : teardown.launch.tasks[position]? = some task) : task.progress = .holding (position + 1) := by
  rw [launched_task] at found
  obtain ⟨hook, _, rfl⟩ := Option.map_eq_some_iff.mp found
  rfl

theorem arranged_launch (teardown : Teardown β) : Arranged teardown.hooks teardown.launch.tasks [] where
  listed := by
    apply List.ext_getElem?
    intro position
    rw [List.getElem?_map, launched_task, Option.map_map]
    exact Option.map_id'
  recorded := fun position task found => by rw [launched_holding teardown position task found]; rfl
  inside := fun event member => by cases member
  held := by
    intro position task next found holding
    cases (launched_holding teardown position task found).symm.trans holding
    exact ⟨Nat.lt_succ_self _, fun later after before => absurd after (Nat.not_lt.mpr (Nat.le_of_lt_succ before))⟩
  ordered := fun _ _ _ began => by cases began

theorem phase_aside (hooks : List (Hook β)) (session : Session β) (position : Nat) (run after : Run) (teardown : Teardown β)
    (found : session.runs[position]? = some run) (goes : run.next? session.teardown = some (after, teardown))
    (aside : run.isAside = true) (started : session.teardown.started = true) (phase : Phase hooks session) :
    Phase hooks { session with teardown, runs := session.runs.set position after } := by
  obtain ⟨⟨triggered, rfl⟩, outcome⟩ := aside_next session.teardown teardown run after aside started goes
  have waits (incomplete : session.teardown.completed = false) : after.isAside = true := by
    rcases outcome with stays | ⟨_, completed⟩
    · exact stays
    · rw [incomplete] at completed
      cases completed
  cases phase with
  | idle unstarted =>
      rw [unstarted] at started
      cases started
  | claimed _ incomplete untouched led =>
      exact .claimed started incomplete ⟨untouched.hooks, untouched.tasks, untouched.log⟩
        (led_aside _ run after _ position led rfl found aside (waits incomplete))
  | launched left _ incomplete arranged led inside joined =>
      exact .launched left started incomplete arranged
        (led_aside _ run after _ position led rfl found aside (waits incomplete)) inside joined
  | complete _ completed arranged finished runs =>
      refine .complete started completed arranged finished fun other member => ?_
      rcases List.mem_or_eq_of_mem_set member with old | rfl
      · exact runs other old
      · exact outcome.imp id And.left

theorem phase_ahead (hooks : List (Hook β)) (session : Session β) (position : Nat) (run after : Run) (teardown : Teardown β)
    (found : session.runs[position]? = some run) (goes : run.next? session.teardown = some (after, teardown))
    (ahead : run.isAside = false) (phase : Phase hooks session) :
    Phase hooks { session with teardown, runs := session.runs.set position after } := by
  cases phase with
  | idle _ _ _ early =>
      rcases early run (List.mem_of_getElem? found) with rfl | rfl <;> cases ahead
  | claimed started incomplete untouched led =>
      obtain ⟨rfl, follows⟩ := led_follows _ run after _ position led found ahead
      cases goes
      obtain ⟨rfl, _, silent⟩ := untouched
      have arranged : Arranged session.teardown.hooks session.teardown.launch.tasks session.log :=
        silent ▸ arranged_launch session.teardown
      exact .launched session.teardown.hooks.length started incomplete arranged follows (Nat.le_refl _)
        fun other beyond before => absurd before (Nat.not_lt.mpr beyond)
  | launched left started incomplete arranged led inside joined =>
      obtain ⟨rfl, follows⟩ := led_follows _ run after _ position led found ahead
      cases left with
      | zero =>
          cases goes
          exact .complete started rfl arranged (fun other before => joined other (Nat.zero_le _) before) (led_all _ _ follows)
      | succ left =>
          simp only [Run.next?] at goes
          split at goes
          next finished =>
            cases goes
            refine .launched left started incomplete arranged follows (Nat.le_of_succ_le inside) fun other beyond before => ?_
            rcases Nat.lt_or_eq_of_le beyond with later | rfl
            · exact joined other later before
            · exact finished
          next => cases goes
  | complete _ _ _ _ runs =>
      rcases runs run (List.mem_of_getElem? found) with aside | rfl
      · rw [ahead] at aside
        cases aside
      · cases goes

theorem phase_early (hooks : List (Hook β)) (session : Session β) (position : Nat) (run after : Run) (teardown : Teardown β)
    (found : session.runs[position]? = some run) (goes : run.next? session.teardown = some (after, teardown))
    (unstarted : session.teardown.started = false) (phase : Phase hooks session) :
    Phase hooks { session with teardown, runs := session.runs.set position after } := by
  cases phase with
  | idle _ incomplete untouched early =>
      rcases early run (List.mem_of_getElem? found) with rfl | rfl
      · cases goes
        refine .idle unstarted incomplete ⟨untouched.hooks, untouched.tasks, untouched.log⟩ fun other member => ?_
        rcases List.mem_or_eq_of_mem_set member with old | rfl
        · exact early other old
        · exact Or.inr rfl
      · simp only [Run.next?, Teardown.claim, unstarted, Bool.not_false] at goes
        cases goes
        refine .claimed rfl incomplete ⟨untouched.hooks, untouched.tasks, untouched.log⟩ ⟨position, ?_, ?_⟩
        · exact List.getElem?_set_self (List.getElem?_eq_some_iff.mp found).1
        · intro other run' apart present
          rw [List.getElem?_set_ne (Ne.symm apart)] at present
          rcases early run' (List.mem_of_getElem? present) with rfl | rfl <;> rfl
  | claimed started => rw [started] at unstarted; cases unstarted
  | launched _ started => rw [started] at unstarted; cases unstarted
  | complete started => rw [started] at unstarted; cases unstarted

theorem phase_advance (hooks : List (Hook β)) (session next : Session β) (position : Nat)
    (moved : session.move? (.advance position) = some next) (phase : Phase hooks session) : Phase hooks next := by
  obtain ⟨run, after, teardown, found, goes, rfl⟩ := advance_does session next position moved
  cases started : session.teardown.started with
  | false => exact phase_early hooks session position run after teardown found goes started phase
  | true =>
      cases aside : run.isAside with
      | true => exact phase_aside hooks session position run after teardown found goes aside started phase
      | false => exact phase_ahead hooks session position run after teardown found goes aside phase

-- Before the launch there is no hook that could take a step.
theorem phase_strides (hooks : List (Hook β)) (session next : Session β)
    (launched : session.teardown.tasks ≠ [])
    (strides : Arranged hooks session.teardown.tasks session.log → Strides hooks session next)
    (phase : Phase hooks session) : Phase hooks next := by
  cases phase with
  | idle _ _ untouched => exact absurd untouched.tasks launched
  | claimed _ _ untouched => exact absurd untouched.tasks launched
  | launched left started incomplete arranged led inside joined =>
      have after := strides_arranged hooks session next arranged (strides arranged)
      obtain ⟨position, progress, events, _, rfl⟩ := strides arranged
      exact .launched left started incomplete after.1 led inside
        fun other beyond before => after.2 other (joined other beyond before)
  | complete started completed arranged finished runs =>
      have after := strides_arranged hooks session next arranged (strides arranged)
      obtain ⟨position, progress, events, _, rfl⟩ := strides arranged
      exact .complete started completed after.1 (fun other before => after.2 other (finished other before)) runs

theorem hook_launched (session next : Session β) (position : Nat) (panicked : Bool)
    (moved : session.move? (.pass position) = some next ∨ session.move? (.enter position) = some next ∨
      session.move? (.finish position panicked) = some next) : session.teardown.tasks ≠ [] := by
  intro empty
  rcases moved with passed | entered | finished
  · simp [Session.move?, Teardown.pass?, empty] at passed
  · simp [Session.move?, Teardown.enter?, empty] at entered
  · simp [Session.move?, Teardown.finish, empty] at finished

theorem phase_move (hooks : List (Hook β)) (session next : Session β) (move : Move)
    (moved : session.move? move = some next) (phase : Phase hooks session) : Phase hooks next := by
  cases move with
  | call =>
      cases moved
      exact phase_called hooks session phase
  | advance run => exact phase_advance hooks session next run moved phase
  | pass position =>
      exact phase_strides hooks session next (hook_launched session next position false (.inl moved))
        (fun arranged => pass_strides hooks session next position arranged moved) phase
  | enter position =>
      exact phase_strides hooks session next (hook_launched session next position false (.inr (.inl moved)))
        (fun arranged => enter_strides hooks session next position arranged moved) phase
  | finish position panicked =>
      exact phase_strides hooks session next (hook_launched session next position panicked (.inr (.inr moved)))
        (fun arranged => finish_strides hooks session next position panicked arranged moved) phase

theorem phase_run (hooks : List (Hook β)) (session : Session β) (moves : List Move) (phase : Phase hooks session) :
    Phase hooks (session.run moves) := by
  induction moves generalizing session with
  | nil => exact phase
  | cons move rest ih =>
      apply ih
      unfold Session.step
      cases moved : session.move? move with
      | none => exact phase
      | some next => exact phase_move hooks session next move moved phase

end Teardown

end ServiceHost
