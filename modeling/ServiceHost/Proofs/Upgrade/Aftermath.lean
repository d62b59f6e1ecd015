import Mathlib.Data.List.Induction
import ServiceHost.Proofs.History
import ServiceHost.Proofs.Upgrade.Replacement
import ServiceHost.Proofs.Upgrade.Tenure

set_option autoImplicit false

namespace ServiceHost.Upgrade

inductive Spawning (handoff : Handoff) (index : Nat) : Move → Prop where
  | spawn (stands : handoff.stage? index = some .spawning) : Spawning handoff index (.act index (.spawn none))

def Occurred (what : Handoff → Move → Prop) (start : Handoff) (moves : List Move) : Prop :=
  ∃ move, Happened move (fun earlier => what (start.run earlier) move) moves

theorem occurred_snoc (what : Handoff → Move → Prop) (start : Handoff) (moves : List Move) (move : Move) :
    Occurred what start (moves ++ [move]) ↔ Occurred what start moves ∨ what (start.run moves) move := by
  simp only [Occurred, happened_snoc, exists_or, exists_eq_left']

theorem occurred_nil (what : Handoff → Move → Prop) (start : Handoff) : ¬ Occurred what start [] := by
  rintro ⟨move, earlier, later, same, -⟩
  simp at same

def Attempt.Stage.isLate : Attempt.Stage → Bool
  | .failing _ => true
  | .resetting _ => true
  | .returned (some _) => true
  | _ => false

-- What is known of the replacement of an attempt from what has occurred to it.
structure Traced (attempt : Attempt) (spawned forsaken : Prop) : Prop where
  present : attempt.replacement ≠ none ↔ spawned
  running : attempt.replacement = some .running ↔ attempt.stage.isAttending = true ∨ forsaken
  late : forsaken → attempt.stage.isLate = true
  idle : attempt.stage = .entered ∨ attempt.stage = .refused → ¬ spawned

theorem turn_late (state next : State) (before after : Attempt.Stage) (turn : Turn state before next after)
    (late : before.isLate = true) : after.isLate = true := by
  cases turn with
  | aborted => rfl
  | released => rfl
  | unreleased => rfl
  | reset => rfl
  | unreset => rfl
  | _ => cases late

theorem traced_turn (state next : State) (attempt after : Attempt) (spawned forsaken : Prop)
    (turn : Turn state attempt.stage next after.stage) (leaves : attempt.Leaves after) (traced : Traced attempt spawned forsaken) :
    Traced after (spawned ∨ attempt.stage = .spawning ∧ after.stage = .spawned) (forsaken ∨ attempt.Forsakes after) := by
  obtain ⟨before, replacement⟩ := attempt
  obtain ⟨stage, left⟩ := after
  obtain ⟨present, running, late, idle⟩ := traced
  have early (other : before.isLate = false) : ¬ forsaken := fun left => by
    rw [late left] at other
    cases other
  have later (left : forsaken) : stage.isLate = true := turn_late _ _ _ _ turn (late left)
  cases leaves with
  | spawned spawning reached runs =>
      cases spawning
      cases reached
      cases runs
      have whole := early rfl
      exact ⟨by simp, by simp [Attempt.Stage.isAttending], by simp [whole, Attempt.Forsakes], by simp⟩
  | reaped error killing failing waited =>
      cases killing
      cases failing
      cases waited
      have whole := early rfl
      have runs : replacement = some .running := running.mpr (.inl rfl)
      have was : spawned := present.mp (by simp [runs])
      exact ⟨by simp [was], by simp [Attempt.Stage.isAttending, whole, Attempt.Forsakes],
        by simp [whole, Attempt.Forsakes], by simp⟩
  | kept unspawned same =>
      cases same
      cases turn with
      | spawned => exact absurd rfl (unspawned rfl)
      | unattached | dispatched =>
          have runs : replacement = some .running := running.mpr (.inl rfl)
          exact ⟨by simpa using present, by simp [runs, Attempt.Forsakes], fun _ => rfl, by simp⟩
      | refused state =>
          have unspawned : ¬ spawned := idle (.inl rfl)
          exact ⟨by simpa using present, by simpa [Attempt.Stage.isAttending, Attempt.Forsakes] using running,
            fun left => later (left.resolve_right (by simp [Attempt.Forsakes])), by simp [unspawned]⟩
      | _ =>
          exact ⟨by simpa using present, by simpa [Attempt.Stage.isAttending, Attempt.Forsakes] using running,
            fun left => later (left.resolve_right (by simp [Attempt.Forsakes])), by simp⟩

theorem spawning_acts (handoff next : Handoff) (index : Nat) (act : Act) (acted : handoff.act? index act = some next)
    (stands : handoff.stage? index = some .spawning) :
    ∃ refusal, act = .spawn refusal ∧ (next.stage? index = some .spawned ↔ refusal = none) := by
  cases act with
  | spawn refusal =>
      refine ⟨refusal, rfl, ?_⟩
      simp only [Handoff.act?, Handoff.spawn, stands, if_true] at acted
      cases refusal with
      | none =>
          cases acted
          have kept : (handoff.setReplacement index .running).stage? index = some .spawning := by
            obtain ⟨replacement, found⟩ := Handoff.stage_found handoff index _ stands
            simp [Handoff.setReplacement, Handoff.stage?, found]
          simp [Handoff.move_stage _ index _ _ kept]
      | some text =>
          cases acted
          simp [Handoff.move_stage handoff index _ _ stands]
  | _ => cases act_stage handoff next index _ _ acted stands

theorem spawning_turn (handoff next : Handoff) (index : Nat) (act : Act) (attempt after : Attempt)
    (acted : handoff.act? index act = some next) (turned : Turned handoff next index attempt after) :
    Spawning handoff index (.act index act) ↔ attempt.stage = .spawning ∧ after.stage = .spawned := by
  have stands := attempt_stage handoff index attempt turned.found
  have reached := turned_stage handoff next index attempt after turned
  constructor
  · rintro ⟨spawning⟩
    obtain ⟨_, same, spawned⟩ := spawning_acts handoff next index _ acted spawning
    cases same
    exact ⟨Option.some.inj (stands.symm.trans spawning), Option.some.inj (reached.symm.trans (spawned.mpr rfl))⟩
  · rintro ⟨spawning, spawned⟩
    rw [spawning] at stands
    rw [spawned] at reached
    obtain ⟨refusal, rfl, granted⟩ := spawning_acts handoff next index act acted stands
    cases granted.mp reached
    exact .spawn stands

structure Recorded (handoff : Handoff) (index : Nat) (spawned forsaken : Prop) : Prop where
  absent : handoff.attempts[index]? = none → ¬ spawned ∧ ¬ forsaken
  present : ∀ attempt, handoff.attempts[index]? = some attempt → Traced attempt spawned forsaken

theorem spawning_found (handoff : Handoff) (index : Nat) (move : Move) (occurs : Spawning handoff index move) :
    (handoff.move? move).isSome = true := by
  obtain ⟨stands⟩ := occurs
  simp [Handoff.move?, Handoff.act?, Handoff.spawn, stands]

theorem forsaking_found (handoff : Handoff) (index : Nat) (move : Move) (occurs : Forsaking handoff index move) :
    (handoff.move? move).isSome = true := by
  cases occurs with
  | attach text stands => simp [Handoff.move?, Handoff.act?, Handoff.attach, stands]
  | wait error stands => simp [Handoff.move?, Handoff.act?, Handoff.forsake, stands]

section

variable (handoff next : Handoff) (index : Nat) (move : Move) (spawned forsaken : Prop)
  (recorded : Recorded handoff index spawned forsaken)

include recorded

theorem recorded_aside (same : next.attempts[index]? = handoff.attempts[index]?) (unspawned : ¬ Spawning handoff index move)
    (attended : ¬ Forsaking handoff index move) :
    Recorded next index (spawned ∨ Spawning handoff index move) (forsaken ∨ Forsaking handoff index move) := by
  rw [or_iff_left unspawned, or_iff_left attended]
  exact ⟨fun none => recorded.absent (same ▸ none), fun attempt found => recorded.present attempt (same ▸ found)⟩

theorem recorded_call : Recorded handoff.enter index spawned forsaken := by
  refine ⟨fun none => recorded.absent ?_, fun attempt found => ?_⟩
  · rw [Handoff.enter, List.getElem?_eq_none_iff, List.length_append] at none
    exact List.getElem?_eq_none_iff.mpr (Nat.le_trans (Nat.le_add_right _ _) none)
  · rcases entered_found handoff index attempt found with old | ⟨rfl, rfl⟩
    · exact recorded.present attempt old
    · obtain ⟨unspawned, attended⟩ := recorded.absent (List.getElem?_eq_none_iff.mpr (Nat.le_refl _))
      exact ⟨by simp [unspawned], by simp [attended, Attempt.Stage.isAttending], fun left => absurd left attended,
        fun _ => unspawned⟩

theorem recorded_act (other : Nat) (act : Act) (acted : handoff.act? other act = some next) :
    Recorded next index (spawned ∨ Spawning handoff index (.act other act))
      (forsaken ∨ Forsaking handoff index (.act other act)) := by
  obtain ⟨attempt, after, turned⟩ := Handoff.act_turns handoff next other act acted
  by_cases own : other = index
  · subst own
    have traced := recorded.present attempt turned.found
    have reached := turned_own handoff next other attempt after turned
    rw [spawning_turn handoff next other act attempt after acted turned,
      forsaking_turn handoff next other act attempt after acted turned fun attending => traced.running.mpr (.inl attending)]
    refine ⟨fun none => (nomatch reached.symm.trans none), fun rival present => ?_⟩
    cases reached.symm.trans present
    exact traced_turn _ _ attempt after spawned forsaken turned.turn turned.leaves traced
  · refine recorded_aside handoff next index _ spawned forsaken recorded
      (turned_other handoff next other index attempt after turned (Ne.symm own)) (fun occurs => ?_) (fun occurs => ?_)
    · cases occurs
      exact own rfl
    · cases occurs <;> exact own rfl

theorem recorded_step : Recorded (handoff.step move) index (spawned ∨ Spawning handoff index move)
    (forsaken ∨ Forsaking handoff index move) := by
  unfold Handoff.step
  cases moved : handoff.move? move with
  | none =>
      refine recorded_aside handoff _ index move spawned forsaken recorded rfl (fun occurs => ?_) (fun occurs => ?_)
      · exact absurd (spawning_found handoff index move occurs) (by simp [moved])
      · exact absurd (forsaking_found handoff index move occurs) (by simp [moved])
  | some next =>
      cases move with
      | act other act => exact recorded_act handoff next index spawned forsaken recorded other act moved
      | stop =>
          cases moved
          exact recorded_aside handoff handoff.stop index _ spawned forsaken recorded rfl nofun nofun
      | call =>
          cases moved
          rw [or_iff_left nofun, or_iff_left nofun]
          exact recorded_call handoff index spawned forsaken recorded

end

theorem recorded_run (timeout : Nat) (handover : Bool) (index : Nat) (moves : List Move) :
    Recorded (Handoff.run { timeout, handover } moves) index
      (Occurred (Spawning · index ·) { timeout, handover } moves)
      (Occurred (Forsaking · index ·) { timeout, handover } moves) := by
  induction moves using List.reverseRecOn with
  | nil => exact ⟨fun _ => ⟨occurred_nil _ _, occurred_nil _ _⟩, fun attempt found => (nomatch found)⟩
  | append_singleton moves move ih =>
      rw [run_snoc, occurred_snoc, occurred_snoc]
      exact recorded_step _ index move _ _ ih

theorem failure_turn (state next : State) (before : Attempt.Stage) (error : Error)
    (turn : Turn state before next (.returned (some error))) : before = .refused ∨ before.isHolding = true := by
  cases turn with
  | reported => exact .inl rfl
  | _ => exact .inr rfl

theorem failure_yields (handoff next : Handoff) (index : Nat) (attempt after : Attempt) (error : Error)
    (exclusive : Exclusive handoff) (turned : Turned handoff next index attempt after)
    (returned : after.stage = .returned (some error)) (granted : attempt.stage ≠ .refused)
    (unstopped : next.stopRequested = false) : next.state = .ready := by
  have fits := exclusive.fits attempt (List.mem_of_getElem? turned.found)
  have holding := (failure_turn _ _ _ error (returned ▸ turned.turn)).resolve_left granted
  refine (turn_yields _ _ _ _ turned.turn fits holding (returned ▸ rfl)).resolve_right fun stopped => ?_
  have requested := exclusive.stopped.mp ((turn_stopped _ _ _ _ turned.turn).mp stopped)
  rw [← turned.stopRequested, unstopped] at requested
  cases requested

theorem returning_turns (handoff : Handoff) (move : Move) (index : Nat) (attempt : Attempt) (error : Error)
    (found : (handoff.step move).attempts[index]? = some attempt) (returned : attempt.stage = .returned (some error))
    (going : handoff.stage? index ≠ some (.returned (some error))) :
    ∃ before, Turned handoff (handoff.step move) index before attempt := by
  have fresh : handoff.attempts[index]? ≠ some attempt := fun old => going (returned ▸ attempt_stage handoff index attempt old)
  unfold Handoff.step at found ⊢
  cases happened : handoff.move? move with
  | none =>
      rw [happened] at found
      exact absurd found fresh
  | some next =>
      rw [happened, Option.getD_some] at found
      cases move with
      | stop =>
          cases happened
          exact absurd found fresh
      | call =>
          cases happened
          rcases entered_found handoff index attempt found with old | ⟨-, rfl⟩
          · exact absurd old fresh
          · cases returned
      | act other act =>
          obtain ⟨before, after, turned⟩ := Handoff.act_turns handoff next other act happened
          rcases turned_found handoff next other index before after attempt turned found with ⟨rfl, rfl⟩ | ⟨-, old⟩
          · exact ⟨before, turned⟩
          · exact absurd old fresh

-- Of an attempt that fails the replacement has been killed and waited for, unless the system has not let the attempt wait for it,
-- be it to report or to end.
theorem failed_upgrade_reaps_unless_forsaken (timeout : Nat) (handover : Bool) (moves : List Move) :
    let start : Handoff := { timeout, handover }
    (∀ (index : Nat) (attempt : Attempt) (error : Error), (start.run moves).attempts[index]? = some attempt →
      attempt.stage = .returned (some error) →
      (attempt.replacement ≠ none ↔ Occurred (Spawning · index ·) start moves) ∧
        (attempt.replacement = some .reaped ↔
          Occurred (Spawning · index ·) start moves ∧ ¬ Occurred (Forsaking · index ·) start moves)) ∧
    (start.isAllUnraced moves = true → ∀ (move : Move) (index : Nat) (attempt : Attempt) (error : Error),
      (start.run moves).stage? index ≠ some (.returned (some error)) →
      ((start.run moves).step move).attempts[index]? = some attempt → attempt.stage = .returned (some error) →
      attempt.replacement ≠ none → ((start.run moves).step move).stopRequested = false →
      ((start.run moves).step move).state = .ready) := by
  intro start
  have recorded (index : Nat) := recorded_run timeout handover index moves
  refine ⟨fun index attempt error found returned => ?_, fun unraced move index attempt error going found returned present
    unstopped => ?_⟩
  · obtain ⟨present, running, -, -⟩ := (recorded index).present attempt found
    have left : attempt.replacement = some .running ↔ Occurred (Forsaking · index ·) start moves := by
      simpa [returned, Attempt.Stage.isAttending] using running
    refine ⟨present, ?_⟩
    rw [← present, ← left]
    cases attempt.replacement with
    | none => simp
    | some replacement => cases replacement <;> simp
  · have exclusive := exclusive_run start moves unraced (exclusive_fresh timeout handover)
    obtain ⟨before, turned⟩ := returning_turns _ move index attempt error found returned going
    refine failure_yields _ _ index before attempt error exclusive turned returned (fun refused => ?_) unstopped
    obtain ⟨spawned, -, -, idle⟩ := (recorded index).present before turned.found
    have unspawned : before.replacement = none := by
      by_contra some
      exact idle (.inr refused) (spawned.mp some)
    cases turned.leaves with
    | kept _ same => exact present (same.trans unspawned)
    | spawned spawning => cases refused.symm.trans spawning
    | reaped error killing => cases refused.symm.trans killing

def failing (outcome : List Act) : List Move :=
  .call :: (([.claim, .prepare none, .confirm, .spawn none] : List Act) ++ outcome).map fun act => .act 0 act

-- A replacement that does not report in time.
theorem failed_upgrade_reaps_unless_forsaken_in_time :
    let before := Handoff.run { timeout := 60000, handover := true } (failing [.attach none, .wake .timedOut, .reap, .release])
    let after := before.step (.act 0 .reset)
    after.attempts = [⟨.returned (some (.timeout 60000000000)), some .reaped⟩] ∧
      ¬ Occurred (Forsaking · 0 ·) { timeout := 60000, handover := true }
        (failing [.attach none, .wake .timedOut, .reap, .release, .reset]) ∧ after.state = .ready := by
  intro before after
  obtain ⟨-, yields⟩ := failed_upgrade_reaps_unless_forsaken 60000 true
    (failing [.attach none, .wake .timedOut, .reap, .release])
  obtain ⟨reaps, -⟩ := failed_upgrade_reaps_unless_forsaken 60000 true
    (failing [.attach none, .wake .timedOut, .reap, .release, .reset])
  have left := (reaps 0 ⟨.returned (some (.timeout 60000000000)), some .reaped⟩ (.timeout 60000000000) (by decide) rfl).2
  refine ⟨by decide, (left.mp rfl).2, ?_⟩
  exact yields (by decide) (.act 0 .reset) 0 ⟨.returned (some (.timeout 60000000000)), some .reaped⟩
    (.timeout 60000000000) (by decide) (by decide) rfl (by decide) (by decide)

-- The readiness socket cannot be made to wait, and the attempt returns at once.
theorem replacement_left_running :
    let after := Handoff.run { timeout := 60000, handover := true }
      (failing [.attach (some "too many open files"), .release, .reset])
    after.attempts = [⟨.returned (some (.spawn (.system "too many open files"))), some .running⟩] ∧ after.state = .ready ∧
      after.stopRequested = false := by
  decide

end ServiceHost.Upgrade
