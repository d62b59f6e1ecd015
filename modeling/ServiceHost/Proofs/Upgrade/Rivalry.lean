import ServiceHost.Proofs.Upgrade.Replacement
import ServiceHost.Proofs.Upgrade.Tenure

set_option autoImplicit false

namespace ServiceHost.Upgrade

-- The attempt that has taken the process out of the ready state last.
def Handoff.holder (handoff : Handoff) (holder : Option Nat) : List Move → Option Nat
  | [] => holder
  | move :: rest => (handoff.step move).holder ((handoff.grant? move).or holder) rest

def SingleReplacement (handoff : Handoff) : Prop :=
  ∀ (index other : Nat) (attempt rival : Attempt), handoff.attempts[index]? = some attempt →
    handoff.attempts[other]? = some rival → attempt.replacement = some .running → rival.replacement = some .running →
      index = other

-- Nobody but the holder can change the state, or somebody who becomes the holder by it.
def Owned (handoff : Handoff) (holder : Option Nat) : Prop :=
  ∀ (index : Nat) (act : Act) (next : Handoff), handoff.act? index act = some next → next.state ≠ handoff.state →
    (handoff.grant? (.act index act)).or holder = some index

def AbortedByStop (handoff : Handoff) : Prop :=
  ∀ index, handoff.stage? index = some (.returned (some .aborted)) → handoff.stopRequested = true

def Held (handoff : Handoff) (holder : Option Nat) : Prop :=
  ∀ (index : Nat) (attempt : Attempt), handoff.attempts[index]? = some attempt → attempt.stage.isHolding = true →
    holder = some index

theorem grant_own (handoff : Handoff) (index : Nat) (act : Act) (holder : Option Nat) (held : holder = some index) :
    (handoff.grant? (.act index act)).or holder = some index := by
  rw [held]
  unfold Handoff.grant?
  split
  next => rename_i same; cases same; split <;> rfl
  next => rfl

theorem granted_found (handoff : Handoff) (index other : Nat) (act : Act)
    (granted : handoff.grant? (.act index act) = some other) :
    handoff.stage? index = some .entered ∧ handoff.state = .ready := by
  unfold Handoff.grant? at granted
  split at granted
  next =>
    rename_i same
    cases same
    split at granted
    next both => exact both
    next => cases granted
  next => cases granted

theorem turn_owned (handoff next : Handoff) (index : Nat) (act : Act) (attempt after : Attempt)
    (holder : Option Nat) (acted : handoff.act? index act = some next) (turned : Turned handoff next index attempt after)
    (held : Held handoff holder) (matters : next.state ≠ handoff.state ∨ after.stage.isHolding = true) :
    (handoff.grant? (.act index act)).or holder = some index := by
  rcases turn_holder _ _ _ _ turned.turn matters with holding | ⟨entered, ready, _⟩
  · exact grant_own handoff index act holder (held index attempt turned.found holding)
  · rw [entered_granted handoff next index act attempt after acted turned entered ready]
    rfl

theorem held_act (handoff next : Handoff) (index : Nat) (act : Act) (holder : Option Nat) (exclusive : Exclusive handoff)
    (acted : handoff.act? index act = some next) (unraced : handoff.isUnraced (.act index act) = true)
    (held : Held handoff holder) : Held next ((handoff.grant? (.act index act)).or holder) := by
  obtain ⟨attempt, after, turned⟩ := Handoff.act_turns handoff next index act acted
  intro other rival found holding
  rcases turned_found handoff next index other attempt after rival turned found with ⟨rfl, rfl⟩ | ⟨apart, before⟩
  · exact turn_owned handoff next other act attempt after holder acted turned held (Or.inr holding)
  · cases granted : handoff.grant? (.act index act) with
    | none => exact held other rival before holding
    | some claimant =>
        obtain ⟨stands, ready⟩ := granted_found handoff index claimant act granted
        have entered : attempt.stage = .entered :=
          Option.some.inj ((attempt_stage handoff index attempt turned.found).symm.trans stands)
        have aside := rivals_aside handoff next index attempt after exclusive turned
          (unraced_rivals handoff next index act attempt after acted turned unraced)
          (Or.inr (granted_holds _ _ _ _ turned.turn entered ready)) other rival apart before
        rw [holding] at aside
        cases aside

theorem held_move (handoff next : Handoff) (move : Move) (holder : Option Nat) (exclusive : Exclusive handoff)
    (moved : handoff.move? move = some next) (unraced : handoff.isUnraced move = true) (held : Held handoff holder) :
    Held next ((handoff.grant? move).or holder) := by
  cases move with
  | call =>
      cases moved
      intro index attempt found holding
      rcases entered_found handoff index attempt found with old | ⟨_, rfl⟩
      · exact held index attempt old holding
      · cases holding
  | stop =>
      cases moved
      exact held
  | act index act => exact held_act handoff next index act holder exclusive moved unraced held

theorem grant_moves (handoff : Handoff) (move : Move) (stuck : handoff.move? move = none) : handoff.grant? move = none := by
  unfold Handoff.grant?
  split
  next index =>
    split
    next both =>
      obtain ⟨entered, ready⟩ := both
      simp [Handoff.move?, Handoff.act?, Handoff.claim, entered, ready] at stuck
    next => rfl
  next => rfl

theorem held_run (handoff : Handoff) (holder : Option Nat) (moves : List Move) (unraced : handoff.isAllUnraced moves = true)
    (exclusive : Exclusive handoff) (held : Held handoff holder) : Held (handoff.run moves) (handoff.holder holder moves) := by
  induction moves generalizing handoff holder with
  | nil => exact held
  | cons move rest ih =>
      obtain ⟨first, later⟩ := Bool.and_eq_true_iff.mp unraced
      cases moved : handoff.move? move with
      | none =>
          have still : handoff.step move = handoff := by rw [Handoff.step, moved]; rfl
          have nobody := grant_moves handoff move moved
          rw [still] at later
          simpa only [Handoff.run, List.foldl_cons, Handoff.holder, still, nobody, Option.none_or] using
            ih handoff holder later exclusive held
      | some next =>
          have reached : handoff.step move = next := by rw [Handoff.step, moved]; rfl
          rw [reached] at later
          simpa only [Handoff.run, List.foldl_cons, Handoff.holder, reached] using
            ih next _ later (exclusive_move handoff next move moved first exclusive)
              (held_move handoff next move holder exclusive moved first held)

theorem attending_holds (stage : Attempt.Stage) (attending : stage.isAttending = true) : stage.isHolding = true := by
  cases stage with
  | returned failure =>
      cases failure with
      | none => rfl
      | some error => cases attending
  | spawned => rfl
  | waiting => rfl
  | killing error => rfl
  | succeeded => rfl
  | _ => cases attending

theorem upgrades_exclude_each_other (timeout : Nat) (handover : Bool) (moves : List Move)
    (unraced : Handoff.isAllUnraced { timeout, handover } moves = true) :
    let final := Handoff.run { timeout, handover } moves
    ((∀ move ∈ moves, move.attaches = true) → SingleReplacement final) ∧
      Owned final (Handoff.holder { timeout, handover } none moves) ∧ AbortedByStop final := by
  intro final
  have exclusive : Exclusive final := exclusive_run _ moves unraced (exclusive_fresh timeout handover)
  have held := held_run _ none moves unraced (exclusive_fresh timeout handover) fun _ _ found => by cases found
  refine ⟨fun attaches => ?_, ?_, ?_⟩
  · have attended : final.AllAttended := attended_run { timeout, handover } moves attaches fun _ member => by cases member
    intro index other attempt rival found present runs running
    have holds := attending_holds _ ((attended attempt (List.mem_of_getElem? found)).mp runs)
    have rivals := attending_holds _ ((attended rival (List.mem_of_getElem? present)).mp running)
    exact exclusive.alone index other attempt rival found present holds rivals
  · intro index act next acted changed
    obtain ⟨attempt, after, turned⟩ := Handoff.act_turns final next index act acted
    exact turn_owned final next index act attempt after _ acted turned held (Or.inl changed)
  · intro index returned
    obtain ⟨replacement, found⟩ := Handoff.stage_found final index _ returned
    exact exclusive.stopped.mp (exclusive.fits _ (List.mem_of_getElem? found))

-- Of two calls the later is refused. After the failure of the first a third gets the claim, and is waiting.
def takingTurns : List Move :=
  [.call, .call, .act 0 .claim, .act 1 .claim, .act 0 (.prepare none), .act 0 .confirm, .act 0 (.spawn none),
    .act 0 (.attach none), .act 1 .report, .act 0 (.wake .timedOut), .act 0 .reap, .act 0 .release, .call, .act 0 .reset,
    .act 2 .claim, .act 2 (.prepare none), .act 2 .confirm, .act 2 (.spawn none), .act 2 (.attach none)]

theorem upgrades_exclude_each_other_in_turn :
    let final := Handoff.run { timeout := 60000, handover := true } takingTurns
    final.stage? 1 = some (.returned (some (.inProgress .upgrading))) ∧ final.hasRunning = true ∧
      SingleReplacement final ∧ Owned final (some 2) ∧ AbortedByStop final := by
  intro final
  obtain ⟨single, owned, aborted⟩ := upgrades_exclude_each_other 60000 true takingTurns (by decide)
  have holder : Handoff.holder { timeout := 60000, handover := true } none takingTurns = some 2 := by decide
  rw [holder] at owned
  exact ⟨by decide, by decide, single (by decide), owned, aborted⟩

-- The first attempt fails to spawn, and the second claims while the first is giving back its claim.
def overlapping : List Move :=
  [.call, .call, .call, .call, .call, .act 0 .claim, .act 0 (.prepare none), .act 0 .confirm,
    .act 0 (.spawn (some "refused")), .act 0 .release, .act 1 .claim, .act 1 (.prepare none)]

-- The claim of the second is taken away and the third gets it. The third fails and takes away the claim that the second
-- has confirmed, so that the fourth gets it too.
def colliding : List Move :=
  [.act 0 .reset, .act 2 .claim, .act 1 .confirm, .act 1 (.spawn none), .act 1 (.attach none),
    .act 2 (.prepare (some "refused")), .act 2 .release, .act 3 .claim, .act 3 (.prepare none), .act 2 .reset, .act 4 .claim,
    .act 4 (.prepare none), .act 3 .confirm, .act 3 (.spawn none), .act 3 (.attach none), .act 4 .confirm, .act 4 .release]

theorem rival_upgrades_collide :
    let start : Handoff := { timeout := 60000, handover := true }
    let between := start.run overlapping
    let final := between.run colliding
    ¬Owned between (start.holder none overlapping) ∧ ¬SingleReplacement final ∧ ¬AbortedByStop final ∧
      ∀ move ∈ overlapping ++ colliding, move.attaches = true := by
  intro start between final
  refine ⟨fun owned => ?_, fun single => ?_, fun aborted => ?_, by decide⟩
  · have holder : start.holder none overlapping = some 1 := by decide
    have given : (between.act? 0 .reset).map (·.state) = some .ready := by decide
    obtain ⟨next, acted, ready⟩ := Option.map_eq_some_iff.mp given
    have requested : between.state = .requested := by decide
    have taken := owned 0 .reset next acted (by rw [ready, requested]; nofun)
    rw [holder] at taken
    exact absurd taken (by decide)
  · have second : final.attempts[1]? = some ⟨.waiting, some .running⟩ := by decide +kernel
    have fourth : final.attempts[3]? = some ⟨.waiting, some .running⟩ := by decide +kernel
    have same := single 1 3 _ _ second fourth rfl rfl
    exact absurd same (by decide)
  · have returned : final.stage? 4 = some (.returned (some .aborted)) := by decide +kernel
    have running : final.stopRequested = false := by decide +kernel
    rw [aborted 4 returned] at running
    cases running

end ServiceHost.Upgrade
