import ServiceHost.Proofs.Teardown.Runs

set_option autoImplicit false

namespace ServiceHost.Teardown

variable {β : Type}

theorem run_cons (session : Session β) (move : Move) (rest : List Move) :
    session.run (move :: rest) = (session.step move).run rest := rfl

theorem run_append (session : Session β) (first second : List Move) :
    session.run (first ++ second) = (session.run first).run second :=
  List.foldl_append

theorem pass_all_moves (session : Session β) (position fuel : Nat) :
    ∃ passes, session.run (List.replicate passes (.pass position)) =
      { session with teardown := session.teardown.passAll position fuel } := by
  induction fuel generalizing session with
  | zero => exact ⟨0, rfl⟩
  | succ fuel ih =>
      cases passed : session.teardown.pass? position with
      | none =>
          refine ⟨0, ?_⟩
          simp only [Teardown.passAll, passed]
          rfl
      | some teardown =>
          obtain ⟨passes, moves⟩ := ih { session with teardown }
          refine ⟨passes + 1, ?_⟩
          have first : session.step (.pass position) = { session with teardown } := by
            simp only [Session.step, Session.move?, passed, Option.map_some, Option.getD_some]
          simp only [Teardown.passAll, passed]
          rw [List.replicate_succ, ← moves, ← first]
          rfl

theorem start_moves (session : Session β) (position : Nat) (teardown : Teardown β)
    (starts : session.teardown.start position = some teardown) :
    ∃ passes, session.run (List.replicate passes (.pass position) ++ [.enter position]) =
      { session with teardown, log := session.log ++ [.began position] } := by
  obtain ⟨passes, moves⟩ := pass_all_moves session position session.teardown.tasks.length
  refine ⟨passes, ?_⟩
  unfold Teardown.start at starts
  rw [run_append, moves]
  simp only [Session.run, List.foldl_cons, List.foldl_nil, Session.step, Session.move?, starts, Option.map_some,
    Option.getD_some]

theorem pass_all_plain (teardown : Teardown β) (position fuel : Nat) (task : Hook.Task β)
    (found : teardown.tasks[position]? = some task) (plain : task.hook.release = false) :
    teardown.passAll position fuel = teardown := by
  have none : teardown.pass? position = none := by
    obtain ⟨⟨name, release, body⟩, progress⟩ := task
    cases plain
    simp only [Teardown.pass?, found]
  cases fuel with
  | zero => rfl
  | succ fuel => simp only [Teardown.passAll, none]

theorem pass_all_release (teardown : Teardown β) (position next fuel : Nat) (hook : Hook β)
    (found : teardown.tasks[position]? = some { hook, progress := .holding next }) (releases : hook.release = true)
    (finished : ∀ later, next ≤ later → later < teardown.tasks.length → isFinished teardown.tasks later = true)
    (enough : teardown.tasks.length ≤ next + fuel) :
    ∃ due, (teardown.passAll position fuel).tasks[position]? = some { hook, progress := .holding due } ∧
      (teardown.passAll position fuel).tasks.length ≤ due := by
  induction fuel generalizing teardown next with
  | zero => exact ⟨next, found, enough⟩
  | succ fuel ih =>
      obtain ⟨name, release, body⟩ := hook
      cases releases
      by_cases more : next < teardown.tasks.length
      · have passed : teardown.pass? position = some (teardown.advance position (.holding (next + 1))) := by
          simp only [Teardown.pass?, found, finished next (Nat.le_refl _) more, if_true]
        simp only [Teardown.passAll, passed]
        have length : (setProgress (.holding (next + 1)) teardown.tasks position).length = teardown.tasks.length :=
          List.length_modify _ _ _
        refine ih (teardown.advance position (.holding (next + 1))) (next + 1)
          (set_progress_found _ teardown.tasks position _ found) ?_ ?_
        · intro later after before
          rw [Teardown.advance, length] at before
          exact finished_stays _ teardown.tasks position later _ found rfl (finished later (Nat.le_of_succ_le after) before)
        · rw [Teardown.advance, length]
          omega
      · have missing : isFinished teardown.tasks next = false := by
          simp [isFinished, List.getElem?_eq_none (Nat.le_of_not_lt more)]
        have stays : teardown.pass? position = none := by
          simp only [Teardown.pass?, found, missing, Bool.false_eq_true, if_false]
        simp only [Teardown.passAll, stays]
        exact ⟨next, found, Nat.le_of_not_lt more⟩

theorem held_starts (teardown : Teardown β) (position next : Nat) (hook : Hook β)
    (found : teardown.tasks[position]? = some { hook, progress := .holding next })
    (finished : hook.release = true →
      ∀ later, next ≤ later → later < teardown.tasks.length → isFinished teardown.tasks later = true) :
    ∃ after, teardown.start position = some after := by
  unfold Teardown.start
  cases releases : hook.release with
  | false =>
      rw [pass_all_plain teardown position _ _ found releases]
      simp [Teardown.enter?, found, releases]
  | true =>
      obtain ⟨due, held, beyond⟩ := pass_all_release teardown position next teardown.tasks.length hook found releases
        (finished releases) (Nat.le_add_left _ _)
      simp [Teardown.enter?, held, Nat.not_lt.mpr beyond]

theorem last_unfinished (tasks : List (Hook.Task β)) (bound position : Nat) (less : position < bound)
    (going : isFinished tasks position = false) :
    ∃ last < bound, isFinished tasks last = false ∧
      ∀ later, last < later → later < bound → isFinished tasks later = true := by
  induction bound with
  | zero => cases less
  | succ bound ih =>
      cases finished : isFinished tasks bound with
      | false =>
          exact ⟨bound, Nat.lt_succ_self _, finished,
            fun later after before => absurd after (Nat.not_lt.mpr (Nat.le_of_lt_succ before))⟩
      | true =>
          have apart : position ≠ bound := by
            rintro rfl
            rw [going] at finished
            cases finished
          obtain ⟨last, inside, unfinished, later⟩ := ih (by omega)
          refine ⟨last, Nat.lt_succ_of_lt inside, unfinished, fun other after before => ?_⟩
          rcases Nat.lt_succ_iff_lt_or_eq.mp before with earlier | rfl
          · exact later other after earlier
          · exact finished

-- A body that goes on may end in either way, and a hook whose body has not begun gets to begin it by itself.
def GoesOn (session : Session β) (position : Nat) : Prop :=
  (∀ panicked, (session.move? (.finish position panicked)).isSome = true) ∨
    ∃ passes, (session.run (List.replicate passes (.pass position) ++ [.enter position])).log =
      session.log ++ [.began position]

theorem hook_goes_on (hooks : List (Hook β)) (session : Session β)
    (arranged : Arranged hooks session.teardown.tasks session.log) (position : Nat) (less : position < hooks.length)
    (going : isFinished session.teardown.tasks position = false) :
    ∃ position < hooks.length, GoesOn session position := by
  obtain ⟨last, inside, unfinished, finished⟩ := last_unfinished session.teardown.tasks hooks.length position less going
  have length := listed_length hooks _ _ arranged
  refine ⟨last, inside, ?_⟩
  cases found : session.teardown.tasks[last]? with
  | none => exact absurd inside (Nat.not_lt.mpr (length ▸ List.getElem?_eq_none_iff.mp found))
  | some task =>
      obtain ⟨hook, progress⟩ := task
      cases progress with
      | running =>
          left
          intro panicked
          simp [Session.move?, Teardown.finish, found]
      | holding next =>
          right
          obtain ⟨beyond, _⟩ := arranged.held last _ next found rfl
          obtain ⟨after, starts⟩ := held_starts session.teardown last next hook found
            fun _ later from_ before => finished later (Nat.lt_of_lt_of_le beyond from_) (length ▸ before)
          obtain ⟨passes, moves⟩ := start_moves session last after starts
          exact ⟨passes, congrArg Session.log moves⟩
      | finished panicked => simp [isFinished, found, Progress.isFinished] at unfinished

theorem plain_enters (hooks : List (Hook β)) (session : Session β)
    (arranged : Arranged hooks session.teardown.tasks session.log) (position : Nat) (task : Hook.Task β)
    (found : session.teardown.tasks[position]? = some task) (plain : task.hook.release = false)
    (unbegun : .began position ∉ session.log) : (session.move? (.enter position)).isSome = true := by
  obtain ⟨hook, progress⟩ := task
  have recorded := arranged.recorded position _ found
  have begun (member : .began position ∈ trace position session.log) : False := unbegun (List.mem_filter.mp member).1
  cases progress with
  | holding next => simp [Session.move?, Teardown.enter?, found, show hook.release = false from plain]
  | running => exact (begun (by simp [show trace position session.log = [.began position] from recorded])).elim
  | finished panicked =>
      exact (begun (by simp [show trace position session.log = [.began position, .ended position panicked] from recorded])).elim

theorem finished_iff_ended (hooks : List (Hook β)) (session : Session β)
    (arranged : Arranged hooks session.teardown.tasks session.log) (position : Nat) (inside : position < hooks.length) :
    isFinished session.teardown.tasks position = true ↔ ∃ panicked, .ended position panicked ∈ session.log := by
  constructor
  · intro finished
    obtain ⟨panicked, recorded⟩ := finished_recorded hooks _ _ position arranged finished
    have traced : Event.ended position panicked ∈ trace position session.log := by simp [recorded]
    exact ⟨panicked, (List.mem_filter.mp traced).1⟩
  · rintro ⟨panicked, member⟩
    have traced : Event.ended position panicked ∈ trace position session.log :=
      List.mem_filter.mpr ⟨member, by simp [Event.position]⟩
    rw [← listed_length hooks _ _ arranged] at inside
    have found := List.getElem?_eq_getElem inside
    have recorded := arranged.recorded position _ found
    cases progress : session.teardown.tasks[position].progress with
    | holding next =>
        rw [progress] at recorded
        rw [show trace position session.log = [] from recorded] at traced
        cases traced
    | running =>
        rw [progress] at recorded
        rw [show trace position session.log = [.began position] from recorded] at traced
        simp at traced
    | finished panicked => simp [isFinished, found, progress, Progress.isFinished]

theorem advance_step (session : Session β) (position : Nat) (run after : Run) (teardown : Teardown β)
    (found : session.runs[position]? = some run) (goes : run.next? session.teardown = some (after, teardown)) :
    session.step (.advance position) = { session with teardown, runs := session.runs.set position after } := by
  simp only [Session.step, Session.move?, Session.advance?, found, Option.bind_some, goes, Option.getD_some]

theorem set_found (runs : List Run) (position : Nat) (run : Run) (found : runs[position]? = some run) :
    runs.set position run = runs := by
  obtain ⟨inside, same⟩ := List.getElem?_eq_some_iff.mp found
  rw [← same, List.set_getElem_self inside]

theorem proceed_moves (session : Session β) (position fuel : Nat) (run : Run) (found : session.runs[position]? = some run) :
    ∃ steps, session.run (List.replicate steps (.advance position)) =
      { session with
        teardown := (Run.proceed fuel (run, session.teardown)).2
        runs := session.runs.set position (Run.proceed fuel (run, session.teardown)).1 } := by
  induction fuel generalizing session run with
  | zero =>
      refine ⟨0, ?_⟩
      rw [Run.proceed, set_found session.runs position run found]
      rfl
  | succ fuel ih =>
      cases goes : run.next? session.teardown with
      | none =>
          refine ⟨0, ?_⟩
          simp only [Run.proceed, goes, set_found session.runs position run found]
          rfl
      | some state =>
          obtain ⟨after, teardown⟩ := state
          have inside := (List.getElem?_eq_some_iff.mp found).1
          have step := advance_step session position run after teardown found goes
          obtain ⟨steps, moves⟩ := ih { session with teardown, runs := session.runs.set position after } after
            (List.getElem?_set_self inside)
          refine ⟨steps + 1, ?_⟩
          rw [List.replicate_succ, run_cons, step, moves]
          simp only [Run.proceed, goes, List.set_set]

theorem begin_launches (teardown : Teardown β) (unstarted : teardown.started = false) :
    teardown.begin = { teardown with triggered := true, started := true }.launch := by
  simp only [Teardown.begin, Teardown.claim, Teardown.trigger, unstarted, Bool.not_false]

theorem called_begins (teardown : Teardown β) (unstarted : teardown.started = false) :
    Run.proceed 3 (.called, teardown) = (.joining teardown.hooks.length, teardown.begin) := by
  rw [begin_launches teardown unstarted]
  simp [Run.proceed, Run.next?, Teardown.claim, Teardown.trigger, unstarted]

def Launches (session : Session β) (position : Nat) (hooks : List (Hook β)) : Prop :=
  ∃ steps, (session.run (List.replicate steps (.advance position))).teardown.tasks.map (·.hook) = hooks

theorem proceeds_launches (session : Session β) (position fuel : Nat) (run : Run)
    (found : session.runs[position]? = some run) (teardown : Teardown β)
    (same : teardown.hooks = session.teardown.hooks)
    (launches : (Run.proceed fuel (run, session.teardown)).2 = teardown.launch) :
    Launches session position session.teardown.hooks := by
  obtain ⟨steps, moves⟩ := proceed_moves session position fuel run found
  refine ⟨steps, ?_⟩
  rw [moves, launches, ← same]
  exact (arranged_launch teardown).listed

theorem called_launches (session : Session β) (position : Nat) (found : session.runs[position]? = some .called)
    (unstarted : session.teardown.started = false) : Launches session position session.teardown.hooks := by
  refine proceeds_launches session position 3 .called found { session.teardown with triggered := true, started := true } rfl ?_
  rw [called_begins _ unstarted]
  exact begin_launches _ unstarted

theorem announced_launches (session : Session β) (position : Nat) (found : session.runs[position]? = some .announced)
    (unstarted : session.teardown.started = false) : Launches session position session.teardown.hooks := by
  refine proceeds_launches session position 2 .announced found { session.teardown with started := true } rfl ?_
  simp only [Run.proceed, Run.next?, Teardown.claim, unstarted, Bool.not_false]

theorem launching_launches (session : Session β) (position : Nat) (found : session.runs[position]? = some .launching) :
    Launches session position session.teardown.hooks :=
  proceeds_launches session position 1 .launching found session.teardown rfl rfl

theorem phase_launches (hooks : List (Hook β)) (session : Session β) (phase : Phase hooks session)
    (called : session.runs ≠ []) : ∃ run, Launches session run hooks := by
  have launched (arranged : Arranged hooks session.teardown.tasks session.log) : Launches session 0 hooks :=
    ⟨0, arranged.listed⟩
  cases phase with
  | idle unstarted _ untouched early =>
      obtain ⟨run, rest, runs⟩ := List.exists_cons_of_ne_nil called
      have found : session.runs[0]? = some run := by rw [runs]; rfl
      rw [← untouched.hooks]
      rcases early run (List.mem_of_getElem? found) with rfl | rfl
      · exact ⟨0, called_launches session 0 found unstarted⟩
      · exact ⟨0, announced_launches session 0 found unstarted⟩
  | claimed _ _ untouched led =>
      obtain ⟨first, found, _⟩ := led
      exact ⟨first, untouched.hooks ▸ launching_launches session first found⟩
  | launched _ _ _ arranged => exact ⟨0, launched arranged⟩
  | complete _ _ arranged => exact ⟨0, launched arranged⟩

theorem phase_returns (hooks : List (Hook β)) (session : Session β) (phase : Phase hooks session) (run : Run)
    (member : run ∈ session.runs) (open_ : run ≠ .returned)
    (ended : ∀ position < hooks.length, ∃ panicked, .ended position panicked ∈ session.log) :
    ∃ position, (session.move? (.advance position)).isSome = true := by
  have moves (position : Nat) (run : Run) (found : session.runs[position]? = some run)
      (goes : (run.next? session.teardown).isSome = true) : (session.move? (.advance position)).isSome = true := by
    obtain ⟨state, does⟩ := Option.isSome_iff_exists.mp goes
    simp [Session.move?, Session.advance?, found, does]
  cases phase with
  | idle unstarted _ untouched early =>
      obtain ⟨position, found⟩ := List.getElem?_of_mem member
      refine ⟨position, moves position run found ?_⟩
      rcases early run member with rfl | rfl
      · rfl
      · simp [Run.next?, Teardown.claim, unstarted]
  | claimed _ _ untouched led =>
      obtain ⟨first, found, _⟩ := led
      exact ⟨first, moves first _ found rfl⟩
  | launched left _ _ arranged led inside =>
      obtain ⟨first, found, _⟩ := led
      refine ⟨first, moves first _ found ?_⟩
      cases left with
      | zero => rfl
      | succ left =>
          have finished := (finished_iff_ended hooks session arranged left inside).mpr (ended left inside)
          simp [Run.next?, finished]
  | complete started completed _ _ runs =>
      obtain ⟨position, found⟩ := List.getElem?_of_mem member
      refine ⟨position, moves position run found ?_⟩
      rcases runs run member with aside | same
      · cases run <;> simp [Run.isAside] at aside <;> simp [Run.next?, Teardown.claim, started, completed]
      · exact absurd same open_

theorem phase_arranged (hooks : List (Hook β)) (session : Session β) (phase : Phase hooks session) :
    Untouched hooks session ∨ Arranged hooks session.teardown.tasks session.log := by
  cases phase with
  | idle _ _ untouched => exact .inl untouched
  | claimed _ _ untouched => exact .inl untouched
  | launched _ _ _ arranged => exact .inr arranged
  | complete _ _ arranged => exact .inr arranged

theorem trace_outside (bound position : Nat) (log : List Event) (inside : ∀ event ∈ log, event.position < bound)
    (outside : bound ≤ position) : trace position log = [] := by
  apply List.filter_eq_nil_iff.mpr
  intro event member own
  have less := inside event member
  rw [of_decide_eq_true own] at less
  exact absurd less (Nat.not_lt.mpr outside)

theorem recorded_once (position : Nat) (progress : Progress) (events : List Event)
    (recorded : Recorded position progress events) :
    ∃ panicked, events <+: [.began position, .ended position panicked] := by
  cases progress with
  | holding next => exact ⟨false, (show events = [] from recorded) ▸ List.nil_prefix⟩
  | running => exact ⟨false, (show events = [.began position] from recorded) ▸ List.prefix_append _ [_]⟩
  | finished panicked =>
      exact ⟨panicked, (show events = [.began position, .ended position panicked] from recorded) ▸ List.prefix_rfl⟩

theorem trace_once (hooks : List (Hook β)) (tasks : List (Hook.Task β)) (log : List Event) (position : Nat)
    (arranged : Arranged hooks tasks log) :
    ∃ panicked, trace position log <+: [.began position, .ended position panicked] := by
  cases found : tasks[position]? with
  | none =>
      have outside := listed_length hooks tasks log arranged ▸ List.getElem?_eq_none_iff.mp found
      exact ⟨false, trace_outside _ position log arranged.inside outside ▸ List.nil_prefix⟩
  | some task => exact recorded_once position task.progress _ (arranged.recorded position task found)

theorem returned_finished (hooks : List (Hook β)) (session : Session β) (phase : Phase hooks session)
    (returned : .returned ∈ session.runs) : Arranged hooks session.teardown.tasks session.log ∧
      ∀ position < hooks.length, isFinished session.teardown.tasks position = true := by
  cases phase with
  | idle _ _ _ early => rcases early _ returned with other | other <;> cases other
  | claimed _ _ _ led => rcases led_all _ _ led _ returned with aside | other <;> contradiction
  | launched left _ _ _ led => rcases led_all _ _ led _ returned with aside | other <;> contradiction
  | complete _ _ arranged finished => exact ⟨arranged, finished⟩

-- Each hook is executed at most once, and exactly once when a run has returned.
theorem shutdown_is_a_barrier (hooks : List (Hook β)) (moves : List Move) :
    let session := (Session.begun hooks).run moves
    (session.teardown.tasks = [] ∨ session.teardown.tasks.map (·.hook) = hooks) ∧
    (∀ position, ∃ panicked, trace position session.log <+: [.began position, .ended position panicked]) ∧
    ReleasedLast hooks session.log ∧
    (∀ position task, session.teardown.tasks[position]? = some task → task.hook.release = false →
      .began position ∉ session.log → (session.move? (.enter position)).isSome = true) ∧
    (.returned ∈ session.runs →
      ∀ position < hooks.length, ∃ panicked, trace position session.log = [.began position, .ended position panicked]) ∧
    (session.runs ≠ [] → ∃ run, Launches session run hooks) ∧
    (session.teardown.tasks ≠ [] → ∀ position < hooks.length, (∀ panicked, .ended position panicked ∉ session.log) →
      ∃ position < hooks.length, GoesOn session position) ∧
    (∀ run ∈ session.runs, run ≠ .returned →
      (∀ position < hooks.length, ∃ panicked, .ended position panicked ∈ session.log) →
        ∃ position, (session.move? (.advance position)).isSome = true) := by
  intro session
  have phase : Phase hooks session := phase_run hooks _ moves (phase_begun hooks)
  have shape := phase_arranged hooks session phase
  refine ⟨?_, ?_, ?_, ?_, ?_, ?_, ?_, ?_⟩
  · exact shape.imp Untouched.tasks Arranged.listed
  · intro position
    rcases shape with untouched | arranged
    · rw [untouched.log]
      exact ⟨false, List.nil_prefix⟩
    · exact trace_once hooks _ _ position arranged
  · rcases shape with untouched | arranged
    · intro index position hook began
      rw [untouched.log] at began
      cases began
    · exact arranged.ordered
  · intro position task found plain unbegun
    rcases shape with untouched | arranged
    · rw [untouched.tasks] at found
      cases found
    · exact plain_enters hooks session arranged position task found plain unbegun
  · intro returned position inside
    obtain ⟨arranged, finished⟩ := returned_finished hooks session phase returned
    exact finished_recorded hooks _ _ position arranged (finished position inside)
  · exact phase_launches hooks session phase
  · intro launched position inside unended
    rcases shape with untouched | arranged
    · exact absurd untouched.tasks launched
    · refine hook_goes_on hooks session arranged position inside (Bool.eq_false_iff.mpr fun finished => ?_)
      obtain ⟨panicked, ended⟩ := (finished_iff_ended hooks session arranged position inside).mp finished
      exact unended panicked ended
  · exact fun run member going ended => phase_returns hooks session phase run member going ended

def facilities : List (Hook Unit) :=
  [{ name := "resource", release := true, body := () }, { name := "user", body := () },
    { name := "pool", release := true, body := () }, { name := "failing", body := () }]

-- A second run is called while the first one has claimed the launch, and the last hook panics. The first of
-- the hooks tries to pass too early.
def halfway : List Move :=
  [.call, .advance 0, .advance 0, .call, .advance 1, .advance 1, .advance 0, .enter 1, .enter 0, .pass 2, .enter 3,
    .finish 3 true, .pass 2, .enter 2, .pass 0, .advance 0, .advance 1]

def ending : List Move :=
  [.finish 1 false, .pass 0, .pass 0, .finish 2 false, .pass 0, .pass 0, .enter 0, .advance 0, .advance 0, .finish 0 false,
    .advance 0, .advance 0, .advance 1]

theorem shutdown_is_a_barrier_for_two :
    let between := (Session.begun facilities).run halfway
    let session := between.run ending
    between.log = [.began 1, .began 3, .ended 3 true, .began 2] ∧
      (∃ position < facilities.length, GoesOn between position) ∧
      session.runs = [.returned, .returned] ∧
      (∀ position < facilities.length, ∃ panicked,
        trace position session.log = [.began position, .ended position panicked]) ∧
      ReleasedLast facilities session.log := by
  intro between session
  have all : session = (Session.begun facilities).run (halfway ++ ending) := (run_append _ halfway ending).symm
  obtain ⟨_, _, _, _, _, _, goes, _⟩ := shutdown_is_a_barrier facilities halfway
  obtain ⟨_, _, ordered, _, everything, _, _, _⟩ := shutdown_is_a_barrier facilities (halfway ++ ending)
  refine ⟨by decide, ?_, by decide, ?_, ?_⟩
  · have launched : between.teardown.tasks ≠ [] := by
      intro empty
      have hooks : between.teardown.tasks.length = 4 := by decide
      rw [empty] at hooks
      cases hooks
    exact goes launched 0 (by decide) (by decide)
  · exact all ▸ everything (by decide)
  · exact all ▸ ordered

end ServiceHost.Teardown
