import Mathlib.Data.List.Induction
import ServiceHost.Service.Exit
import ServiceHost.Proofs.History
import ServiceHost.Proofs.Upgrade.Interruption
import ServiceHost.Proofs.Upgrade.Vigil

set_option autoImplicit false

namespace ServiceHost.Service.Exit

-- The watcher's own moves are those of its vigil; the other moves are of the service, its hooks and its collaborators.
inductive Move where
  | watch (move : Upgrade.Vigil.Move)
  | stop
  | trigger
  | register (hook : Hook Duty)
  | pass (position : Nat)
  | enter (position : Nat)
  | finish (position : Nat) (panicked : Bool)
  | leave
  | finishHooks
  | dismiss
  | cutOff

-- The system lets every attempt wait for the replacement that it has spawned, to report and to end.
def Move.attaches : Move → Bool
  | .watch (.act index act) => Upgrade.Move.attaches (.act index act)
  | _ => true

def watch? (exit : Exit) (move : Upgrade.Vigil.Move) : Option Exit := do
  let watcher ← exit.watcher
  let vigil ← Upgrade.Vigil.move? { handoff := exit.handoff, watcher } move
  return { exit with handoff := vigil.handoff, watcher := some vigil.watcher }

def move? (exit : Exit) : Move → Option Exit
  | .watch move => exit.watch? move
  | .stop => some exit.stop
  | .trigger => some exit.trigger
  | .register hook => some { exit with teardown := exit.teardown.register hook }
  | .pass position => (exit.teardown.pass? position).map fun teardown => { exit with teardown }
  | .enter position => (exit.teardown.enter? position).map fun teardown => { exit with teardown }
  | .finish position panicked => (exit.teardown.finish position panicked).map fun teardown => { exit with teardown }
  | .leave => exit.leave
  | .finishHooks => exit.finishHooks
  | .dismiss => exit.dismiss
  | .cutOff => exit.cutOff

def step (exit : Exit) (move : Move) : Exit := (exit.move? move).getD exit

def run (exit : Exit) (moves : List Move) : Exit := moves.foldl step exit

def begun (timeout : Nat) (handover watching : Bool) (teardown : Teardown Duty) : Exit where
  handoff := { timeout, handover }
  watcher := if watching then some .listening else none
  teardown := teardown

def Tending (exit : Exit) : Prop :=
  ∃ attempt deaf stage, exit.watcher = some (.upgrading attempt deaf) ∧ exit.handoff.stage? attempt = some stage ∧
    stage ≠ .returned none ∧ stage.isAttending = true

def Succeeded (exit : Exit) : Prop := ∃ index, exit.handoff.stage? index = some (.returned none)

def CutShort (start : Exit) : List Move → Prop :=
  Happened .cutOff fun earlier => (start.run earlier).stage = .returned ∧ (start.run earlier).Tending

theorem abandon_does (handoff : Upgrade.Handoff) (index : Nat) :
    (∃ failure, handoff.stage? index = some (.returned failure)) ∧ (handoff.abandon index).getD handoff = handoff ∨
      (∃ stage, handoff.stage? index = some stage ∧ ∀ failure, stage ≠ .returned failure) ∧
        (handoff.abandon index).getD handoff = handoff.move index .abandoned ∨
      handoff.stage? index = none ∧ (handoff.abandon index).getD handoff = handoff := by
  unfold Upgrade.Handoff.abandon
  split
  next failure returned => exact Or.inl ⟨⟨failure, returned⟩, rfl⟩
  next stage going stands => exact Or.inr (Or.inl ⟨⟨stage, stands, going⟩, rfl⟩)
  next absent => exact Or.inr (Or.inr ⟨absent, rfl⟩)

theorem move_found (handoff : Upgrade.Handoff) (index other : Nat) (stage : Upgrade.Attempt.Stage) :
    (handoff.move index stage).attempts[other]? =
      (handoff.attempts[other]?).map fun attempt => if index = other then { attempt with stage } else attempt := by
  simp [Upgrade.Handoff.move, List.getElem?_modify]

theorem move_running (handoff : Upgrade.Handoff) (index : Nat) (stage : Upgrade.Attempt.Stage) :
    (handoff.move index stage).hasRunning = handoff.hasRunning := by
  have same : (handoff.move index stage).attempts.map (·.replacement) = handoff.attempts.map (·.replacement) := by
    apply List.ext_getElem?
    intro other
    rw [List.getElem?_map, List.getElem?_map, move_found, Option.map_map]
    refine Option.map_congr fun attempt _ => ?_
    by_cases own : index = other
    · rw [Function.comp_apply, if_pos own]
    · rw [Function.comp_apply, if_neg own]
  have any_replacement (handoff : Upgrade.Handoff) :
      handoff.hasRunning = (handoff.attempts.map (·.replacement)).any (· = some .running) := by
    rw [List.any_map]
    rfl
  rw [any_replacement, same, any_replacement]

-- Whoever abandons an attempt leaves every replacement and every success as it is.
structure Abandons (handoff after : Upgrade.Handoff) : Prop where
  state : after.state = handoff.state
  running : after.hasRunning = handoff.hasRunning
  returned : ∀ index, after.stage? index = some (.returned none) ↔ handoff.stage? index = some (.returned none)
  fits : (∀ attempt ∈ handoff.attempts, attempt.stage.Fits handoff.state) →
    ∀ attempt ∈ after.attempts, attempt.stage.Fits handoff.state

theorem abandons_nothing (handoff : Upgrade.Handoff) : Abandons handoff handoff := ⟨rfl, rfl, fun _ => Iff.rfl, id⟩

theorem abandon_abandons (handoff : Upgrade.Handoff) (index : Nat) :
    Abandons handoff ((handoff.abandon index).getD handoff) := by
  rcases abandon_does handoff index with ⟨_, same⟩ | ⟨⟨stage, stands, going⟩, same⟩ | ⟨_, same⟩
  · rw [same]
    exact abandons_nothing handoff
  · rw [same]
    refine ⟨rfl, move_running handoff index _, fun other => ?_, fun fits attempt member => ?_⟩
    · by_cases own : index = other
      · subst own
        rw [Upgrade.Handoff.move_stage handoff index stage _ stands, stands]
        exact ⟨nofun, fun returned => absurd (Option.some.inj returned) (going none)⟩
      · simp [Upgrade.Handoff.stage?, move_found, own]
    · obtain ⟨other, found⟩ := List.getElem?_of_mem member
      rw [move_found] at found
      obtain ⟨before, present, rfl⟩ := Option.map_eq_some_iff.mp found
      by_cases own : index = other
      · rw [if_pos own]
        trivial
      · rw [if_neg own]
        exact fits before (List.mem_of_getElem? present)
  · rw [same]
    exact abandons_nothing handoff

inductive Does (exit next : Exit) : Move → Prop where
  | watched (move : Upgrade.Vigil.Move) (watcher : Upgrade.Watcher) (vigil : Upgrade.Vigil) :
      exit.watcher = some watcher → Upgrade.Vigil.move? { handoff := exit.handoff, watcher } move = some vigil →
      next.handoff = vigil.handoff → next.watcher = some vigil.watcher → Does exit next (.watch move)
  | stopped : next.handoff = exit.handoff.stop → next.watcher = exit.watcher → Does exit next .stop
  | aside (move : Move) : move ≠ .cutOff → next.handoff = exit.handoff → next.watcher = exit.watcher → Does exit next move
  | cut (watcher : Upgrade.Watcher) : exit.stage = .returned → exit.watcher = some watcher →
      Abandons exit.handoff next.handoff → next.watcher = none → Does exit next .cutOff

theorem watch_does (exit next : Exit) (move : Upgrade.Vigil.Move) (moved : exit.watch? move = some next) :
    Does exit next (.watch move) := by
  obtain ⟨watcher, watching, rest⟩ := Option.bind_eq_some_iff.mp moved
  obtain ⟨vigil, does, same⟩ := Option.bind_eq_some_iff.mp rest
  cases same
  exact .watched move watcher vigil watching does rfl rfl

theorem cut_off_does (exit next : Exit) (moved : exit.cutOff = some next) : Does exit next .cutOff := by
  unfold cutOff at moved
  split at moved
  next returned =>
    split at moved
    next attempt deaf upgrading =>
      cases moved
      exact .cut _ returned upgrading (abandon_abandons exit.handoff attempt) rfl
    next watcher _ watching =>
      cases moved
      exact .cut watcher returned watching (abandons_nothing exit.handoff) rfl
    next => cases moved
  next => cases moved

theorem move_does (exit next : Exit) (move : Move) (moved : exit.move? move = some next) : Does exit next move := by
  cases move with
  | watch move => exact watch_does exit next move moved
  | stop =>
      cases moved
      exact .stopped rfl rfl
  | trigger =>
      cases moved
      exact .aside _ nofun rfl rfl
  | register hook =>
      cases moved
      exact .aside _ nofun rfl rfl
  | pass position =>
      obtain ⟨teardown, _, rfl⟩ := Option.map_eq_some_iff.mp moved
      exact .aside _ nofun rfl rfl
  | enter position =>
      obtain ⟨teardown, _, rfl⟩ := Option.map_eq_some_iff.mp moved
      exact .aside _ nofun rfl rfl
  | finish position panicked =>
      obtain ⟨teardown, _, rfl⟩ := Option.map_eq_some_iff.mp moved
      exact .aside _ nofun rfl rfl
  | leave =>
      simp only [move?, leave] at moved
      split at moved <;> cases moved
      exact .aside _ nofun rfl rfl
  | finishHooks =>
      simp only [move?, finishHooks] at moved
      split at moved
      next =>
        obtain ⟨teardown, _, rfl⟩ := Option.map_eq_some_iff.mp moved
        exact .aside _ nofun rfl rfl
      next => cases moved
  | dismiss =>
      simp only [move?, dismiss] at moved
      split at moved <;> cases moved
      exact .aside _ nofun rfl rfl
  | cutOff => exact cut_off_does exit next moved

theorem run_snoc (exit : Exit) (moves : List Move) (move : Move) : exit.run (moves ++ [move]) = (exit.run moves).step move :=
  List.foldl_append

theorem vigil_handoff (vigil next : Upgrade.Vigil) (move : Upgrade.Vigil.Move) (moved : vigil.move? move = some next)
    (attaches : Move.attaches (.watch move) = true) :
    next.handoff = vigil.handoff ∨ ∃ step, vigil.handoff.move? step = some next.handoff ∧ step.attaches = true := by
  cases move with
  | signal signal =>
      rcases Upgrade.Vigil.receive_does vigil next signal moved with
        ⟨_, ⟨_, rfl⟩ | ⟨_, rfl⟩ | ⟨_, rfl⟩⟩ | ⟨_, _, ⟨_, rfl⟩ | ⟨_, rfl⟩ | ⟨_, rfl⟩⟩
      · exact Or.inl rfl
      · exact Or.inr ⟨.stop, rfl, rfl⟩
      · exact Or.inl rfl
      · exact Or.inl rfl
      · exact Or.inr ⟨.stop, rfl, rfl⟩
      · exact Or.inl rfl
  | decide =>
      obtain ⟨_, ⟨_, rfl⟩ | ⟨_, rfl⟩⟩ := Upgrade.Vigil.decide_does vigil next moved
      · exact Or.inr ⟨.call, rfl, rfl⟩
      · exact Or.inl rfl
  | judge =>
      obtain ⟨_, _, _, _, _, ⟨_, rfl⟩ | ⟨_, _, rfl⟩⟩ := Upgrade.Vigil.judge_does vigil next moved
      · exact Or.inl rfl
      · exact Or.inl rfl
  | stop =>
      cases moved
      exact Or.inr ⟨.stop, rfl, rfl⟩
  | act index act =>
      obtain ⟨handoff, acted, rfl⟩ := Upgrade.Vigil.act_does vigil next index act moved
      exact Or.inr ⟨.act index act, acted, attaches⟩

theorem attended_watch (vigil next : Upgrade.Vigil) (move : Upgrade.Vigil.Move) (moved : vigil.move? move = some next)
    (attaches : Move.attaches (.watch move) = true) (attended : vigil.handoff.AllAttended) : next.handoff.AllAttended := by
  rcases vigil_handoff vigil next move moved attaches with same | ⟨step, stepped, attaching⟩
  · rw [same]
    exact attended
  · exact Upgrade.attended_move _ _ step stepped attaching attended

theorem running_iff (handoff : Upgrade.Handoff) :
    handoff.hasRunning = true ↔ ∃ (index : Nat) (attempt : Upgrade.Attempt),
      handoff.attempts[index]? = some attempt ∧ attempt.replacement = some .running := by
  simp only [Upgrade.Handoff.hasRunning, List.any_eq_true, decide_eq_true_eq, List.mem_iff_getElem?]
  constructor
  · rintro ⟨attempt, ⟨index, found⟩, running⟩
    exact ⟨index, attempt, found, running⟩
  · rintro ⟨index, attempt, found, running⟩
    exact ⟨attempt, ⟨index, found⟩, running⟩

-- Where nothing has been cut off, a replacement runs because somebody attends to it or because it has taken over.
theorem tended_running (exit : Exit) (watcher : Upgrade.Watcher) (watching : exit.watcher = some watcher)
    (watched : Upgrade.Watched { handoff := exit.handoff, watcher }) (attended : exit.handoff.AllAttended) :
    exit.handoff.hasRunning = true ↔ exit.Tending ∨ exit.Succeeded := by
  rw [running_iff]
  constructor
  · rintro ⟨index, attempt, found, running⟩
    have attending := (attended attempt (List.mem_of_getElem? found)).mp running
    have stands := Upgrade.attempt_stage exit.handoff index attempt found
    by_cases succeeded : attempt.stage = .returned none
    · exact Or.inr ⟨index, succeeded ▸ stands⟩
    · have going (failure : Option Upgrade.Error) : attempt.stage ≠ .returned failure := by
        intro returned
        rw [returned] at attending succeeded
        cases failure with
        | none => exact succeeded rfl
        | some error => cases attending
      obtain ⟨deaf, current⟩ := Upgrade.Vigil.current_attempt _ watched index attempt found going
      exact Or.inl ⟨index, deaf, attempt.stage, watching.trans (congrArg some current), stands, succeeded, attending⟩
  · have attends (index : Nat) (stage : Upgrade.Attempt.Stage) (stands : exit.handoff.stage? index = some stage)
        (attending : stage.isAttending = true) :
        ∃ (index : Nat) (attempt : Upgrade.Attempt),
          exit.handoff.attempts[index]? = some attempt ∧ attempt.replacement = some .running := by
      obtain ⟨replacement, found⟩ := Upgrade.Handoff.stage_found _ _ _ stands
      exact ⟨index, _, found, (attended _ (List.mem_of_getElem? found)).mpr attending⟩
    rintro (⟨index, _, stage, _, stands, _, attending⟩ | ⟨index, stands⟩)
    · exact attends index stage stands attending
    · exact attends index _ stands rfl

-- What is known of a service, `cut` saying whether its watcher has been cut off while it was tending: every attempt fits
-- the state, nothing has been cut short as long as there is a watcher, and a replacement runs for one of three reasons.
structure Attends (exit : Exit) (cut : Prop) : Prop where
  fits : ∀ attempt ∈ exit.handoff.attempts, attempt.stage.Fits exit.handoff.state
  watched : ∀ watcher, exit.watcher = some watcher →
    Upgrade.Watched { handoff := exit.handoff, watcher } ∧ exit.handoff.AllAttended ∧ ¬cut
  running : exit.handoff.hasRunning = true ↔ exit.Tending ∨ cut ∨ exit.Succeeded

theorem attends_begun (timeout : Nat) (handover watching : Bool) (teardown : Teardown Duty) :
    Attends (begun timeout handover watching teardown) False where
  fits := fun _ member => by cases member
  watched := by
    intro watcher listening
    refine ⟨⟨Upgrade.exclusive_fresh timeout handover, ?_⟩, fun _ member => (by cases member), not_false⟩
    cases watching <;> cases listening
    exact fun _ member => by cases member
  running := by
    refine ⟨nofun, ?_⟩
    rintro (⟨_, _, _, _, stands, _⟩ | cut | ⟨_, stands⟩)
    · cases stands
    · cases cut
    · cases stands

theorem tending_same (exit next : Exit) (watcher : next.watcher = exit.watcher)
    (attempts : next.handoff.attempts = exit.handoff.attempts) : next.Tending ↔ exit.Tending := by
  simp only [Tending, watcher, Upgrade.Handoff.stage?, attempts]

theorem succeeded_same (exit next : Exit) (attempts : next.handoff.attempts = exit.handoff.attempts) :
    next.Succeeded ↔ exit.Succeeded := by
  simp only [Succeeded, Upgrade.Handoff.stage?, attempts]

theorem running_same (exit next : Exit) (cut : Prop) (watcher : next.watcher = exit.watcher)
    (attempts : next.handoff.attempts = exit.handoff.attempts)
    (running : exit.handoff.hasRunning = true ↔ exit.Tending ∨ cut ∨ exit.Succeeded) :
    next.handoff.hasRunning = true ↔ next.Tending ∨ cut ∨ next.Succeeded := by
  rw [tending_same exit next watcher attempts, succeeded_same exit next attempts, ← running, Upgrade.Handoff.hasRunning, attempts]
  rfl

theorem unwatched_idle (exit : Exit) (unwatched : exit.watcher = none) : ¬exit.Tending := by
  rintro ⟨_, _, _, upgrading, _⟩
  rw [unwatched] at upgrading
  cases upgrading

theorem attends_cut (exit next : Exit) (cut : Prop) (watcher : Upgrade.Watcher) (watching : exit.watcher = some watcher)
    (abandons : Abandons exit.handoff next.handoff) (unwatched : next.watcher = none) (attends : Attends exit cut) :
    Attends next (cut ∨ exit.Tending) := by
  obtain ⟨watched, attended, uncut⟩ := attends.watched watcher watching
  refine ⟨?_, fun watcher other => ?_, ?_⟩
  · rw [abandons.state]
    exact abandons.fits attends.fits
  · rw [unwatched] at other
    cases other
  · rw [abandons.running, tended_running exit watcher watching watched attended]
    have returned : next.Succeeded ↔ exit.Succeeded := exists_congr abandons.returned
    have idle := unwatched_idle next unwatched
    rw [returned]
    tauto

theorem attends_aside (exit next : Exit) (cut : Prop) (move : Move) (other : move ≠ .cutOff)
    (watcher : next.watcher = exit.watcher) (attempts : next.handoff.attempts = exit.handoff.attempts)
    (fits : ∀ attempt ∈ exit.handoff.attempts, attempt.stage.Fits next.handoff.state)
    (watched : ∀ watcher, Upgrade.Watched { handoff := exit.handoff, watcher } →
      Upgrade.Watched { handoff := next.handoff, watcher })
    (attends : Attends exit cut) : Attends next (cut ∨ move = .cutOff ∧ exit.stage = .returned ∧ exit.Tending) := by
  rw [or_iff_left fun cutting => other cutting.1]
  refine ⟨attempts ▸ fits, fun same watching => ?_, running_same exit next cut watcher attempts attends.running⟩
  obtain ⟨before, attended, uncut⟩ := attends.watched same (watcher ▸ watching)
  exact ⟨watched same before, fun attempt member => attended attempt (attempts ▸ member), uncut⟩

theorem attends_does (exit next : Exit) (cut : Prop) (move : Move) (does : Does exit next move) (attaches : move.attaches = true)
    (attends : Attends exit cut) : Attends next (cut ∨ move = .cutOff ∧ exit.stage = .returned ∧ exit.Tending) := by
  cases does with
  | watched move watcher vigil watching moved handoff after =>
      obtain ⟨watched, attended, uncut⟩ := attends.watched watcher watching
      have still := Upgrade.Vigil.watched_move _ vigil move moved watched
      have attended : next.handoff.AllAttended := handoff ▸ attended_watch _ vigil move moved attaches attended
      have kept : Upgrade.Watched { handoff := next.handoff, watcher := vigil.watcher } := handoff ▸ still
      have uncut : ¬(cut ∨ Move.watch move = .cutOff ∧ exit.stage = .returned ∧ exit.Tending) :=
        fun either => either.elim uncut fun other => nomatch other.1
      refine ⟨kept.exclusive.fits, fun other watches => ?_, ?_⟩
      · cases after.symm.trans watches
        exact ⟨kept, attended, uncut⟩
      · rw [tended_running next vigil.watcher after kept attended, or_iff_right uncut]
  | stopped handoff watcher =>
      have attempts : next.handoff.attempts = exit.handoff.attempts := handoff ▸ rfl
      refine attends_aside exit next cut _ nofun watcher attempts ?_ ?_ attends
      · rw [handoff]
        exact fun attempt member => Upgrade.fits_stopped _ _ (attends.fits attempt member)
      · intro watcher watched
        rw [handoff]
        exact Upgrade.Vigil.watched_stop _ watched
  | aside move other handoff watcher =>
      have attempts : next.handoff.attempts = exit.handoff.attempts := handoff ▸ rfl
      refine attends_aside exit next cut move other watcher attempts ?_ ?_ attends
      · rw [handoff]
        exact attends.fits
      · intro watcher watched
        rw [handoff]
        exact watched
  | cut watcher returned watching abandons unwatched =>
      have cuts := attends_cut exit next cut watcher watching abandons unwatched attends
      simpa only [returned, true_and] using cuts

theorem cut_off_possible (exit : Exit) (returned : exit.stage = .returned) (tending : exit.Tending) :
    (exit.move? .cutOff).isSome = true := by
  obtain ⟨attempt, deaf, _, upgrading, _⟩ := tending
  simp [move?, cutOff, returned, upgrading]

theorem attends_step (exit : Exit) (cut : Prop) (move : Move) (attaches : move.attaches = true) (attends : Attends exit cut) :
    Attends (exit.step move) (cut ∨ move = .cutOff ∧ exit.stage = .returned ∧ exit.Tending) := by
  unfold step
  cases moved : exit.move? move with
  | some next => exact attends_does exit next cut move (move_does exit next move moved) attaches attends
  | none =>
      have stays : ¬(move = .cutOff ∧ exit.stage = .returned ∧ exit.Tending) := by
        rintro ⟨rfl, returned, tending⟩
        have possible := cut_off_possible exit returned tending
        rw [moved] at possible
        cases possible
      rw [or_iff_left stays]
      exact attends

theorem attends_run (timeout : Nat) (handover watching : Bool) (teardown : Teardown Duty) (moves : List Move)
    (attaches : ∀ move ∈ moves, move.attaches = true) :
    Attends ((begun timeout handover watching teardown).run moves)
      (CutShort (begun timeout handover watching teardown) moves) := by
  induction moves using List.reverseRecOn with
  | nil =>
      have uncut : ¬CutShort (begun timeout handover watching teardown) [] := by
        rintro ⟨earlier, later, same, _⟩
        simp at same
      rw [eq_false uncut]
      exact attends_begun timeout handover watching teardown
  | append_singleton before move ih =>
      have attends := ih fun other member => attaches other (List.mem_append_left _ member)
      rw [run_snoc, CutShort, happened_snoc]
      exact attends_step _ _ move (attaches move (List.mem_append_right _ List.mem_cons_self)) attends

theorem unwatched_does (exit next : Exit) (move : Move) (does : Does exit next move) (unwatched : exit.watcher = none) :
    next.watcher = none ∧ next.handoff.attempts = exit.handoff.attempts := by
  cases does with
  | watched _ _ _ watching => cases unwatched.symm.trans watching
  | stopped handoff watcher => exact ⟨watcher.trans unwatched, handoff ▸ rfl⟩
  | aside _ _ handoff watcher => exact ⟨watcher.trans unwatched, handoff ▸ rfl⟩
  | cut _ _ watching => cases unwatched.symm.trans watching

theorem unwatched_step (exit : Exit) (move : Move) (unwatched : exit.watcher = none) :
    (exit.step move).watcher = none ∧ (exit.step move).handoff.attempts = exit.handoff.attempts := by
  unfold step
  cases moved : exit.move? move with
  | none => exact ⟨unwatched, rfl⟩
  | some next => exact unwatched_does exit next move (move_does exit next move moved) unwatched

theorem unwatched_run (exit : Exit) (moves : List Move) (unwatched : exit.watcher = none) :
    (exit.run moves).handoff.hasRunning = exit.handoff.hasRunning := by
  induction moves generalizing exit with
  | nil => rfl
  | cons move rest ih =>
      obtain ⟨still, attempts⟩ := unwatched_step exit move unwatched
      rw [show exit.run (move :: rest) = (exit.step move).run rest from rfl, ih _ still, Upgrade.Handoff.hasRunning, attempts]
      rfl

theorem dismissed_for_good (exit : Exit) (dismissing : exit.stage = .dismissing) (tending : exit.Tending)
    (running : exit.handoff.hasRunning = true) (later : List Move) :
    (exit.run [.dismiss, .cutOff]).stage = .returned ∧
      ((exit.run [.dismiss, .cutOff]).run later).handoff.hasRunning = true := by
  obtain ⟨attempt, deaf, stage, upgrading, _⟩ := tending
  have cut : exit.run [.dismiss, .cutOff] =
      { exit with stage := .returned, watcher := none, handoff := (exit.handoff.abandon attempt).getD exit.handoff } := by
    simp [run, step, move?, dismiss, cutOff, dismissing, upgrading]
  rw [cut]
  refine ⟨rfl, ?_⟩
  rw [unwatched_run _ later rfl]
  exact (abandon_abandons exit.handoff attempt).running.trans running

-- A replacement that runs is attended to, or its attempt has been cut short, or it has taken over. The service does not
-- wait for an attempt that is under way when the hooks have finished, and its replacement is then left for good.
theorem departure_leaves_what_it_cut_short (timeout : Nat) (handover watching : Bool) (teardown : Teardown Duty)
    (moves : List Move) (attaches : ∀ move ∈ moves, move.attaches = true) :
    let start := begun timeout handover watching teardown
    let exit := start.run moves
    (exit.handoff.hasRunning = true ↔ exit.Tending ∨ CutShort start moves ∨ exit.Succeeded) ∧
    (exit.stage = .returned → exit.handoff.state ≠ .upgraded → ¬exit.Tending → ¬CutShort start moves →
      (exit.handoff.state = .stopped → ¬exit.Succeeded) → exit.handoff.hasRunning = false) ∧
    (exit.stage = .dismissing → exit.Tending → ∀ later,
      (exit.run [.dismiss, .cutOff]).stage = .returned ∧
        ((exit.run [.dismiss, .cutOff]).run later).handoff.hasRunning = true) := by
  intro start exit
  have attends : Attends exit (CutShort start moves) := attends_run timeout handover watching teardown moves attaches
  have fits (succeeded : exit.Succeeded) : exit.handoff.state = .upgraded ∨ exit.handoff.state = .stopped := by
    obtain ⟨index, stands⟩ := succeeded
    obtain ⟨replacement, found⟩ := Upgrade.Handoff.stage_found _ _ _ stands
    exact attends.fits _ (List.mem_of_getElem? found)
  refine ⟨attends.running, fun _ serving idle uncut unheard => ?_, fun dismissing tending later => ?_⟩
  · apply Bool.eq_false_iff.mpr
    intro running
    rcases attends.running.mp running with tending | cut | succeeded
    · exact idle tending
    · exact uncut cut
    · exact (fits succeeded).elim serving fun stopped => unheard stopped succeeded
  · exact dismissed_for_good exit dismissing tending (attends.running.mpr (Or.inl tending)) later

-- A service with two hooks, and an attempt that gets as far as to wait for its replacement.
def serving : Exit := begun 60000 true true ((hooks false).foldl Teardown.register {})

def awaiting : List Move :=
  [.watch (.signal (some .upgrade)), .watch .decide, .watch (.act 0 .claim), .watch (.act 0 (.prepare none)),
    .watch (.act 0 .confirm), .watch (.act 0 (.spawn none)), .watch (.act 0 (.attach none))]

def aborting : List Move :=
  [.watch (.signal (some .stop)), .watch (.act 0 (.wake .stopSeen)), .watch (.act 0 .reap), .watch (.act 0 .release), .watch .judge]

def departing : List Move := [.leave, .enter 1, .finish 1 false, .pass 0, .enter 0, .finish 0 false, .finishHooks]

theorem departure_leaves_what_it_cut_short_by_trigger :
    let stopped := serving.run (awaiting ++ aborting ++ departing ++ [.dismiss])
    let triggered := serving.run (awaiting ++ .trigger :: departing)
    (stopped.stage = .returned ∧ stopped.handoff.hasRunning = false) ∧
      (triggered.run [.dismiss, .cutOff]).stage = .returned ∧
        ∀ later, ((triggered.run [.dismiss, .cutOff]).run later).handoff.hasRunning = true := by
  intro stopped triggered
  let teardown : Teardown Duty := (hooks false).foldl Teardown.register {}
  obtain ⟨_, leaves, _⟩ := departure_leaves_what_it_cut_short 60000 true true teardown
    (awaiting ++ aborting ++ departing ++ [.dismiss]) (by decide)
  obtain ⟨_, _, forgets⟩ := departure_leaves_what_it_cut_short 60000 true true teardown (awaiting ++ .trigger :: departing)
    (by decide)
  have ended : stopped.watcher = some .ended := by decide
  have idle : ¬stopped.Tending := by
    rintro ⟨_, _, _, upgrading, _⟩
    cases ended.symm.trans upgrading
  have uncut : ¬CutShort serving (awaiting ++ aborting ++ departing ++ [.dismiss]) := by
    rintro ⟨earlier, later, same, _⟩
    have member : Move.cutOff ∈ awaiting ++ aborting ++ departing ++ [.dismiss] := by
      rw [same]
      exact List.mem_append_right earlier List.mem_cons_self
    simp [awaiting, aborting, departing] at member
  have unheard : ¬stopped.Succeeded := by
    rintro ⟨index, stands⟩
    obtain ⟨replacement, found⟩ := Upgrade.Handoff.stage_found _ _ _ stands
    have failed : ∀ attempt ∈ stopped.handoff.attempts, attempt.stage ≠ .returned none := by decide
    exact failed _ (List.mem_of_getElem? found) rfl
  have tending : triggered.Tending := ⟨0, false, .waiting, by decide, by decide, nofun, rfl⟩
  exact ⟨⟨by decide, leaves (by decide) (by decide) idle uncut fun _ => unheard⟩,
    (forgets (by decide) tending []).1, fun later => (forgets (by decide) tending later).2⟩

-- Shutdown is triggered by a collaborator while an attempt waits for its replacement.
theorem triggered_departure_leaves_replacement :
    ¬∀ moves : List Move, (∀ move ∈ moves, move.attaches = true) → (serving.run moves).stage = .returned →
      (serving.run moves).handoff.state ≠ .upgraded → (serving.run moves).handoff.hasRunning = false := by
  intro leaves
  have nothing := leaves (awaiting ++ .trigger :: departing ++ [.dismiss, .cutOff]) (by decide) (by decide) (by decide)
  exact absurd nothing (by decide)

end ServiceHost.Service.Exit
