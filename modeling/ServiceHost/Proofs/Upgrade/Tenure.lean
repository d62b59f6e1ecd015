import ServiceHost.Proofs.Upgrade.Turn

set_option autoImplicit false

namespace ServiceHost.Upgrade

inductive State.Way : State → State → Prop where
  | request : Way .ready .requested
  | confirm : Way .requested .upgrading
  | hand : Way .upgrading .upgraded
  | withdraw : Way .requested .ready
  | yield : Way .upgrading .ready
  | stop (state : State) : Way state .stopped

namespace Attempt.Stage

def isHolding : Attempt.Stage → Bool
  | .entered => false
  | .refused => false
  | .returned (some _) => false
  | .abandoned => false
  | _ => true

def isResetting : Attempt.Stage → Bool
  | .resetting _ => true
  | _ => false

def isRefusal : Attempt.Stage → Bool
  | .refused => true
  | .returned (some (.inProgress _)) => true
  | _ => false

-- The states in which the process can be while an attempt is at a stage.
def Fits : Attempt.Stage → State → Prop
  | .preparing, state => state = .requested ∨ state = .stopped
  | .prepared, state => state = .requested ∨ state = .stopped
  | .spawning, state => state = .upgrading ∨ state = .stopped
  | .spawned, state => state = .upgrading ∨ state = .stopped
  | .waiting, state => state = .upgrading ∨ state = .stopped
  | .killing error, state =>
      error.isOutcome = true ∧ (error ≠ .aborted ∧ state = .upgrading ∨ state = .stopped)
  | .succeeded, state => state = .upgrading ∨ state = .stopped
  | .failing error, state =>
      error.isOutcome = true ∧ (error ≠ .aborted ∧ (state = .requested ∨ state = .upgrading) ∨ state = .stopped)
  | .resetting error, state =>
      error.isOutcome = true ∧ error ≠ .aborted ∧ (state = .requested ∨ state = .ready ∨ state = .stopped)
  | .returned none, state => state = .upgraded ∨ state = .stopped
  | .returned (some .aborted), state => state = .stopped
  | _, _ => True

end Attempt.Stage

theorem returned_fits (error : Error) (state : State) :
    Attempt.Stage.Fits (.returned (some error)) state ↔ (error = .aborted → state = .stopped) := by
  cases error <;> simp [Attempt.Stage.Fits]

theorem turn_way (state next : State) (before after : Attempt.Stage) (turn : Turn state before next after) :
    next = state ∨ State.Way state next := by
  cases turn with
  | granted => exact Or.inr .request
  | confirmed => exact Or.inr .confirm
  | handed => exact Or.inr .hand
  | released => exact Or.inr .yield
  | reset => exact Or.inr .withdraw
  | _ => exact Or.inl rfl

theorem turn_fits (state next : State) (before after : Attempt.Stage) (turn : Turn state before next after)
    (fits : before.Fits state) : after.Fits next := by
  cases turn with
  | granted => exact Or.inl rfl
  | refused => trivial
  | reported => trivial
  | unprepared state cause => exact ⟨rfl, fits.imp (fun held => ⟨nofun, Or.inl held⟩) id⟩
  | prepared => exact fits
  | confirmed => exact Or.inl rfl
  | lost state gone => exact ⟨rfl, Or.inr (fits.resolve_left gone)⟩
  | unspawned state cause => exact ⟨rfl, fits.imp (fun held => ⟨nofun, Or.inr held⟩) id⟩
  | spawned => exact fits
  | unattached state cause => exact ⟨rfl, fits.imp (fun held => ⟨nofun, Or.inr held⟩) id⟩
  | attached => exact fits
  | heard => exact fits
  | dismissed state error outcome stopped =>
      refine ⟨outcome, fits.imp_left fun held => ⟨fun aborted => ?_, held⟩⟩
      cases held.symm.trans (stopped aborted)
  | dispatched state error => exact ⟨fits.1, fits.2.imp_left fun held => ⟨held.1, Or.inr held.2⟩⟩
  | handed => exact Or.inl rfl
  | overtaken state gone => exact Or.inr (fits.resolve_left gone)
  | aborted state => exact fits.2.resolve_left fun held => held.1 rfl
  | released error other => exact ⟨fits.1, other, Or.inr (Or.inl rfl)⟩
  | unreleased state error other gone =>
      refine ⟨fits.1, other, ?_⟩
      rcases fits.2 with ⟨_, requested | upgrading⟩ | stopped
      · exact Or.inl requested
      · exact absurd upgrading gone
      · exact Or.inr (Or.inr stopped)
  | reset error => exact (returned_fits error _).mpr fun aborted => absurd aborted fits.2.1
  | unreset state error => exact (returned_fits error _).mpr fun aborted => absurd aborted fits.2.1

-- Only the holder changes the state, unless it is taken out of the ready state.
theorem turn_holder (state next : State) (before after : Attempt.Stage) (turn : Turn state before next after)
    (matters : next ≠ state ∨ after.isHolding = true) :
    before.isHolding = true ∨ before = .entered ∧ state = .ready ∧ next = .requested := by
  cases turn <;> simp_all [Attempt.Stage.isHolding]

theorem granted_holds (state next : State) (before after : Attempt.Stage) (turn : Turn state before next after)
    (entered : before = .entered) (ready : state = .ready) : after.isHolding = true := by
  cases turn with
  | granted => rfl
  | refused state busy => exact absurd ready busy
  | _ => cases entered

theorem turn_yields (state next : State) (before after : Attempt.Stage) (turn : Turn state before next after)
    (fits : before.Fits state) (held : before.isHolding = true) (given : after.isHolding = false) :
    next = .ready ∨ next = .stopped := by
  cases turn with
  | aborted state => exact Or.inr (fits.2.resolve_left fun held => held.1 rfl)
  | reset => exact Or.inl rfl
  | unreset state error gone => exact fits.2.2.resolve_left gone
  | granted => cases held
  | refused => cases held
  | reported => cases held
  | _ => cases given

theorem outcome_no_refusal (error : Error) (outcome : error.isOutcome = true) :
    Attempt.Stage.isRefusal (.returned (some error)) = false := by
  cases error with
  | inProgress state => cases outcome
  | _ => rfl

theorem turn_refusal (state next : State) (before after : Attempt.Stage) (turn : Turn state before next after)
    (fits : before.Fits state) (refusal : after.isRefusal = true) :
    next = state ∧ (before = .entered ∨ before = .refused) := by
  cases turn with
  | refused => exact ⟨rfl, Or.inl rfl⟩
  | reported => exact ⟨rfl, Or.inr rfl⟩
  | reset error => cases (outcome_no_refusal error fits.1).symm.trans refusal
  | unreset state error => cases (outcome_no_refusal error fits.1).symm.trans refusal
  | _ => cases refusal

theorem turn_stopped (state next : State) (before after : Attempt.Stage) (turn : Turn state before next after) :
    next = .stopped ↔ state = .stopped := by
  cases turn <;> simp

theorem turn_going (state next : State) (before after : Attempt.Stage) (turn : Turn state before next after)
    (failure : Option Error) : before ≠ .returned failure := by
  cases turn <;> exact nofun

theorem fits_stopped (stage : Attempt.Stage) (state : State) (fits : stage.Fits state) : stage.Fits .stopped := by
  unfold Attempt.Stage.Fits at *
  split <;> simp_all

-- To an attempt that does not hold the claim it only matters whether the process has been stopped.
theorem fits_aside (stage : Attempt.Stage) (state next : State) (aside : stage.isHolding = false) (fits : stage.Fits state)
    (stays : state = .stopped → next = .stopped) : stage.Fits next := by
  cases stage with
  | entered => trivial
  | refused => trivial
  | abandoned => trivial
  | returned failure =>
      cases failure with
      | none => cases aside
      | some error => exact (returned_fits error next).mpr fun aborted => stays ((returned_fits error state).mp fits aborted)
  | _ => cases aside

structure Exclusive (handoff : Handoff) : Prop where
  fits : ∀ attempt ∈ handoff.attempts, attempt.stage.Fits handoff.state
  alone : ∀ (index other : Nat) (attempt rival : Attempt), handoff.attempts[index]? = some attempt →
    handoff.attempts[other]? = some rival → attempt.stage.isHolding = true → rival.stage.isHolding = true → index = other
  free : (∀ attempt ∈ handoff.attempts, attempt.stage.isHolding = false) →
    handoff.state = .ready ∨ handoff.state = .stopped
  stopped : handoff.state = .stopped ↔ handoff.stopRequested = true

def Handoff.grant? (handoff : Handoff) : Move → Option Nat
  | .act index .claim => if handoff.stage? index = some .entered ∧ handoff.state = .ready then some index else none
  | _ => none

-- No claim is granted while another attempt is giving back its own.
def Handoff.isUnraced (handoff : Handoff) (move : Move) : Bool :=
  (handoff.grant? move).isNone || handoff.attempts.all (!·.stage.isResetting)

theorem exclusive_call (handoff : Handoff) (exclusive : Exclusive handoff) : Exclusive handoff.enter where
  fits := by
    intro attempt member
    rcases List.mem_append.mp member with old | new
    · exact exclusive.fits attempt old
    · rw [List.mem_singleton.mp new]
      trivial
  alone := by
    have old (index : Nat) (attempt : Attempt) (found : handoff.enter.attempts[index]? = some attempt)
        (holding : attempt.stage.isHolding = true) : handoff.attempts[index]? = some attempt := by
      rcases entered_found handoff index attempt found with before | ⟨_, rfl⟩
      · exact before
      · cases holding
    exact fun index other attempt rival found present holding rivals =>
      exclusive.alone index other attempt rival (old index attempt found holding) (old other rival present rivals) holding rivals
  free := fun aside => exclusive.free fun attempt member => aside attempt (List.mem_append_left _ member)
  stopped := exclusive.stopped

theorem exclusive_stop (handoff : Handoff) (exclusive : Exclusive handoff) : Exclusive handoff.stop where
  fits := fun attempt member => fits_stopped _ _ (exclusive.fits attempt member)
  alone := exclusive.alone
  free := fun _ => Or.inr rfl
  stopped := ⟨fun _ => rfl, fun _ => rfl⟩

-- A granted claim finds the process ready, where only an attempt that is giving back its claim could still hold it.
theorem rivals_aside (handoff next : Handoff) (index : Nat) (attempt after : Attempt)
    (exclusive : Exclusive handoff) (turned : Turned handoff next index attempt after)
    (unraced : attempt.stage = .entered → handoff.state = .ready →
      ∀ rival ∈ handoff.attempts, rival.stage.isResetting = false)
    (matters : next.state ≠ handoff.state ∨ after.stage.isHolding = true) (other : Nat) (rival : Attempt)
    (apart : other ≠ index) (found : handoff.attempts[other]? = some rival) : rival.stage.isHolding = false := by
  apply Bool.eq_false_iff.mpr
  intro holding
  rcases turn_holder _ _ _ _ turned.turn matters with held | ⟨entered, ready, _⟩
  · exact apart (exclusive.alone other index rival attempt found turned.found holding held)
  · have member := List.mem_of_getElem? found
    have fits := exclusive.fits rival member
    have quiet := unraced entered ready rival member
    rw [ready] at fits
    cases stage' : rival.stage with
    | returned failure => cases failure <;> simp_all [Attempt.Stage.isHolding, Attempt.Stage.Fits]
    | _ => simp_all [Attempt.Stage.isHolding, Attempt.Stage.Fits, Attempt.Stage.isResetting]

theorem exclusive_turned (handoff next : Handoff) (index : Nat) (attempt after : Attempt)
    (exclusive : Exclusive handoff) (turned : Turned handoff next index attempt after)
    (unraced : attempt.stage = .entered → handoff.state = .ready →
      ∀ rival ∈ handoff.attempts, rival.stage.isResetting = false) : Exclusive next := by
  have aside := rivals_aside handoff next index attempt after exclusive turned unraced
  have fitted := exclusive.fits attempt (List.mem_of_getElem? turned.found)
  have stopped := turn_stopped _ _ _ _ turned.turn
  refine ⟨?_, ?_, ?_, ?_⟩
  · intro rival member
    obtain ⟨other, found⟩ := List.getElem?_of_mem member
    rcases turned_found handoff next index other attempt after rival turned found with ⟨_, rfl⟩ | ⟨apart, present⟩
    · exact turn_fits _ _ _ _ turned.turn fitted
    · have fits := exclusive.fits rival (List.mem_of_getElem? present)
      by_cases same : next.state = handoff.state
      · rw [same]
        exact fits
      · exact fits_aside _ _ _ (aside (Or.inl same) other rival apart present) fits stopped.mpr
  · intro left right first second found present holding rivals
    rcases turned_found handoff next index left attempt after first turned found with ⟨rfl, rfl⟩ | ⟨apart, before⟩ <;>
      rcases turned_found handoff next _ right attempt after second turned present with ⟨rfl, rfl⟩ | ⟨apart', before'⟩
    · rfl
    · rw [aside (Or.inr holding) right second apart' before'] at rivals
      cases rivals
    · rw [aside (Or.inr rivals) left first apart before] at holding
      cases holding
    · exact exclusive.alone left right first second before before' holding rivals
  · intro nobody
    have given : after.stage.isHolding = false :=
      nobody _ (List.mem_of_getElem? (turned_own handoff next index attempt after turned))
    cases held : attempt.stage.isHolding with
    | true => exact turn_yields _ _ _ _ turned.turn fitted held given
    | false =>
        have same : next.state = handoff.state := by
          apply Decidable.of_not_not
          intro changed
          rcases turn_holder _ _ _ _ turned.turn (Or.inl changed) with holding | ⟨entered, ready, _⟩
          · rw [held] at holding
            cases holding
          · rw [granted_holds _ _ _ _ turned.turn entered ready] at given
            cases given
        rw [same]
        refine exclusive.free fun rival member => ?_
        obtain ⟨other, found⟩ := List.getElem?_of_mem member
        by_cases own : other = index
        · subst own
          cases found.symm.trans turned.found
          exact held
        · rw [← turned_other handoff next index other attempt after turned own] at found
          exact nobody rival (List.mem_of_getElem? found)
  · rw [turned.stopRequested, ← exclusive.stopped]
    exact stopped

theorem entered_granted (handoff next : Handoff) (index : Nat) (act : Act) (attempt after : Attempt)
    (acted : handoff.act? index act = some next) (turned : Turned handoff next index attempt after)
    (entered : attempt.stage = .entered) (ready : handoff.state = .ready) :
    handoff.grant? (.act index act) = some index := by
  have stands : handoff.stage? index = some .entered := entered ▸ attempt_stage handoff index attempt turned.found
  cases entered_claims handoff next index act acted stands
  exact if_pos ⟨stands, ready⟩

theorem unraced_rivals (handoff next : Handoff) (index : Nat) (act : Act) (attempt after : Attempt)
    (acted : handoff.act? index act = some next) (turned : Turned handoff next index attempt after)
    (unraced : handoff.isUnraced (.act index act) = true) (entered : attempt.stage = .entered)
    (ready : handoff.state = .ready) : ∀ rival ∈ handoff.attempts, rival.stage.isResetting = false := by
  have granted := entered_granted handoff next index act attempt after acted turned entered ready
  simpa [Handoff.isUnraced, granted] using unraced

theorem exclusive_move (handoff next : Handoff) (move : Move) (moved : handoff.move? move = some next)
    (unraced : handoff.isUnraced move = true) (exclusive : Exclusive handoff) : Exclusive next := by
  cases move with
  | call =>
      cases moved
      exact exclusive_call handoff exclusive
  | stop =>
      cases moved
      exact exclusive_stop handoff exclusive
  | act index act =>
      obtain ⟨attempt, after, turned⟩ := Handoff.act_turns handoff next index act moved
      exact exclusive_turned handoff next index attempt after exclusive turned
        (unraced_rivals handoff next index act attempt after moved turned unraced)

def Handoff.isAllUnraced : Handoff → List Move → Bool
  | _, [] => true
  | handoff, move :: rest => handoff.isUnraced move && (handoff.step move).isAllUnraced rest

theorem exclusive_run (handoff : Handoff) (moves : List Move) (unraced : handoff.isAllUnraced moves = true)
    (exclusive : Exclusive handoff) : Exclusive (handoff.run moves) := by
  induction moves generalizing handoff with
  | nil => exact exclusive
  | cons move rest ih =>
      obtain ⟨first, later⟩ := Bool.and_eq_true_iff.mp unraced
      refine ih (handoff.step move) later ?_
      unfold Handoff.step
      cases moved : handoff.move? move with
      | none => exact exclusive
      | some next => exact exclusive_move handoff next move moved first exclusive

theorem refusal_changes_nothing (handoff next : Handoff) (index : Nat) (attempt after : Attempt)
    (exclusive : Exclusive handoff) (turned : Turned handoff next index attempt after) (refusal : after.stage.isRefusal = true) :
    next = { handoff with attempts := handoff.attempts.set index { attempt with stage := after.stage } } := by
  have fits := exclusive.fits attempt (List.mem_of_getElem? turned.found)
  obtain ⟨same, early⟩ := turn_refusal _ _ _ _ turned.turn fits refusal
  have unsuccessful : after.stage ≠ .returned none := fun returned => by
    rw [returned] at refusal
    cases refusal
  have kept : after = { attempt with stage := after.stage } := by
    cases turned.leaves with
    | kept _ same => rw [← same]
    | spawned spawning => simp [spawning] at early
    | reaped error killing => simp [killing] at early
  obtain ⟨_, _, _, attempts, timeout, handover, stopRequested, succeeded, silent⟩ := turned
  obtain ⟨failed, aborted⟩ := silent early
  rw [if_neg unsuccessful] at succeeded
  cases next
  simp only [Handoff.mk.injEq]
  exact ⟨timeout, same, stopRequested, handover, attempts.trans (congrArg _ kept), succeeded, failed, aborted⟩

theorem exclusive_fresh (timeout : Nat) (handover : Bool) : Exclusive { timeout, handover } where
  fits := fun _ member => by cases member
  alone := fun _ _ _ _ found => by cases found
  free := fun _ => Or.inl rfl
  stopped := ⟨fun stopped => (by cases stopped), fun stopped => (by cases stopped)⟩

end ServiceHost.Upgrade
