import Mathlib.Data.List.Induction
import ServiceHost.Proofs.History
import ServiceHost.Proofs.Upgrade.Replacement
import ServiceHost.Proofs.Upgrade.Tenure

set_option autoImplicit false

namespace ServiceHost.Upgrade

def lone (timeout : Nat) (handover : Bool) : Handoff := ({ timeout, handover } : Handoff).enter

def Heard (start : Handoff) (moves : List Move) : Prop :=
  ∃ earlier later, moves = earlier ++ .act 0 (.wake .readinessByte) :: later ∧ (start.run earlier).stage? 0 = some .waiting

-- The process is stopped, and the attempt has not returned with anything but a failure that leaves nothing behind.
def Overruled (handoff : Handoff) : Prop :=
  handoff.state = .stopped ∧ ∀ result, handoff.stage? 0 = some (.returned result) →
    result ≠ none ∧ handoff.succeeded = 0 ∧ handoff.hasRunning = false

theorem heard_snoc (start : Handoff) (moves : List Move) (move : Move) :
    Heard start (moves ++ [move]) ↔
      Heard start moves ∨ move = .act 0 (.wake .readinessByte) ∧ (start.run moves).stage? 0 = some .waiting :=
  happened_snoc _ move _ moves

theorem turn_hears (state next : State) (before : Attempt.Stage) (turn : Turn state before next .succeeded) :
    before = .waiting := by
  cases turn
  rfl

theorem wake_hears (handoff next : Handoff) (index : Nat) (cause : Wake) (woken : handoff.wake index cause = some next) :
    next.stage? index = some .succeeded ↔ cause = .readinessByte := by
  unfold Handoff.wake at woken
  split at woken
  next waits =>
    have moved (stage : Attempt.Stage) := Handoff.move_stage handoff index _ stage waits
    cases cause with
    | readinessByte => cases woken; simp [moved]
    | stopSeen =>
        simp only at woken
        split at woken <;> cases woken
        simp [moved]
    | _ => cases woken; simp [moved]
  next => cases woken

theorem succeeded_hears (handoff next : Handoff) (index : Nat) (act : Act) (attempt after : Attempt)
    (acted : handoff.act? index act = some next) (turned : Turned handoff next index attempt after) :
    after.stage = .succeeded ↔ act = .wake .readinessByte := by
  have reached := turned_stage handoff next index attempt after turned
  constructor
  · intro succeeded
    rw [succeeded] at reached
    have turn := turned.turn
    rw [succeeded] at turn
    have stands := attempt_stage handoff index attempt turned.found
    rw [turn_hears _ _ _ turn] at stands
    cases act with
    | wake cause => rw [(wake_hears handoff next index cause acted).mp reached]
    | _ => cases act_stage handoff next index _ _ acted stands
  · rintro rfl
    exact Option.some.inj (reached.symm.trans ((wake_hears handoff next index .readinessByte acted).mpr rfl))

theorem turn_returns (state next : State) (before : Attempt.Stage) (turn : Turn state before next (.returned none)) :
    before = .succeeded := by
  cases turn <;> rfl

theorem turn_keeps_success (state next : State) (after : Attempt.Stage) (turn : Turn state .succeeded next after) :
    after = .returned none := by
  cases turn <;> rfl

-- What is known of the only attempt. It has succeeded exactly if it has heard from its replacement.
structure Lone (start : Handoff) (moves : List Move) (attempt : Attempt) : Prop where
  only : (start.run moves).attempts = [attempt]
  exclusive : Exclusive (start.run moves)
  heard : attempt.stage = .succeeded ∨ attempt.stage = .returned none ↔ Heard start moves
  counted : (start.run moves).succeeded = if attempt.stage = .returned none then 1 else 0

theorem lone_begun (timeout : Nat) (handover : Bool) : Lone (lone timeout handover) [] {} where
  only := rfl
  exclusive := exclusive_call _ (exclusive_fresh timeout handover)
  heard := by
    refine ⟨nofun, ?_⟩
    rintro ⟨earlier, later, same, _⟩
    simp at same
  counted := rfl

theorem lone_index (start : Handoff) (moves : List Move) (attempt other : Attempt) (index : Nat)
    (alone : Lone start moves attempt) (found : (start.run moves).attempts[index]? = some other) : index = 0 ∧ other = attempt := by
  rw [alone.only] at found
  obtain ⟨inside, same⟩ := List.getElem?_eq_some_iff.mp found
  have first : index = 0 := by simpa using inside
  subst first
  exact ⟨rfl, same.symm⟩

theorem lone_act (start next : Handoff) (moves : List Move) (attempt : Attempt) (index : Nat) (act : Act)
    (alone : Lone start moves attempt) (moved : (start.run moves).move? (.act index act) = some next) :
    ∃ after, Lone start (moves ++ [.act index act]) after := by
  obtain ⟨other, after, turned⟩ := Handoff.act_turns _ next index act moved
  obtain ⟨rfl, rfl⟩ := lone_index start moves attempt other index alone turned.found
  have reached : start.run (moves ++ [.act 0 act]) = next := by
    rw [run_snoc, Handoff.step, moved]
    rfl
  have hears := succeeded_hears _ next 0 act other after moved turned
  have stands := attempt_stage _ 0 other turned.found
  refine ⟨after, ?_, ?_, ?_, ?_⟩
  · rw [reached, turned.attempts, alone.only]
    rfl
  · rw [reached]
    refine exclusive_turned _ next 0 other after alone.exclusive turned fun entered _ rival member => ?_
    rw [alone.only] at member
    rw [List.mem_singleton.mp member, entered]
    rfl
  · rw [heard_snoc, ← alone.heard]
    have turn := turned.turn
    constructor
    · rintro (succeeded | returned)
      · cases hears.mp succeeded
        rw [succeeded] at turn
        exact Or.inr ⟨rfl, turn_hears _ _ _ turn ▸ stands⟩
      · rw [returned] at turn
        exact Or.inl (Or.inl (turn_returns _ _ _ turn))
    · rintro ((succeeded | returned) | ⟨taken, _⟩)
      · rw [succeeded] at turn
        exact Or.inr (turn_keeps_success _ _ _ turn)
      · exact absurd returned (turn_going _ _ _ _ turn none)
      · cases taken
        exact Or.inl (hears.mpr rfl)
  · rw [reached, turned.succeeded, alone.counted]
    have going : other.stage ≠ .returned none := turn_going _ _ _ _ turned.turn none
    rw [if_neg going, Nat.zero_add]

theorem lone_still (start next : Handoff) (moves : List Move) (move : Move) (attempt : Attempt) (alone : Lone start moves attempt)
    (reached : (start.run moves).step move = next) (exclusive : Exclusive next)
    (attempts : next.attempts = (start.run moves).attempts) (succeeded : next.succeeded = (start.run moves).succeeded)
    (unheard : ¬(move = .act 0 (.wake .readinessByte) ∧ (start.run moves).stage? 0 = some .waiting)) :
    Lone start (moves ++ [move]) attempt where
  only := by rw [run_snoc, reached, attempts, alone.only]
  exclusive := by rw [run_snoc, reached]; exact exclusive
  heard := by rw [heard_snoc, ← alone.heard, or_iff_left unheard]
  counted := by rw [run_snoc, reached, succeeded, alone.counted]

theorem lone_run (timeout : Nat) (handover : Bool) (moves : List Move) (single : .call ∉ moves) :
    ∃ attempt, Lone (lone timeout handover) moves attempt := by
  induction moves using List.reverseRecOn with
  | nil => exact ⟨{}, lone_begun timeout handover⟩
  | append_singleton before move ih =>
      obtain ⟨attempt, alone⟩ := ih fun member => single (List.mem_append_left _ member)
      cases move with
      | call => exact absurd (List.mem_append_right before List.mem_cons_self) single
      | stop =>
          exact ⟨attempt, lone_still _ _ before .stop attempt alone rfl (exclusive_stop _ alone.exclusive) rfl rfl
            fun taken => by cases taken.1⟩
      | act index act =>
          cases moved : ((lone timeout handover).run before).move? (.act index act) with
          | some next => exact lone_act _ next before attempt index act alone moved
          | none =>
              have still : ((lone timeout handover).run before).step (.act index act) = (lone timeout handover).run before := by
                rw [Handoff.step, moved]
                rfl
              refine ⟨attempt, lone_still _ _ before _ attempt alone still alone.exclusive rfl rfl ?_⟩
              rintro ⟨taken, waits⟩
              cases taken
              simp [Handoff.move?, Handoff.act?, Handoff.wake, waits] at moved

theorem stopped_run (handoff : Handoff) (moves : List Move) (stopped : handoff.state = .stopped) :
    (handoff.run moves).state = .stopped := by
  induction moves generalizing handoff with
  | nil => exact stopped
  | cons move rest ih =>
      apply ih
      unfold Handoff.step
      cases moved : handoff.move? move with
      | none => exact stopped
      | some next =>
          cases move with
          | call => cases moved; exact stopped
          | stop => cases moved; rfl
          | act index act =>
              obtain ⟨attempt, after, turned⟩ := Handoff.act_turns handoff next index act moved
              exact (turn_stopped _ _ _ _ turned.turn).mpr stopped

theorem lone_running (handoff : Handoff) (attempt : Attempt) (only : handoff.attempts = [attempt]) (attended : attempt.Attended) :
    handoff.hasRunning = attempt.stage.isAttending := by
  rw [Handoff.hasRunning, only, Bool.eq_iff_iff]
  simp only [List.any_cons, List.any_nil, Bool.or_false, decide_eq_true_eq]
  exact attended

theorem finish_takes (handoff next : Handoff) (index : Nat) (exclusive : Exclusive handoff)
    (finished : handoff.finish index = some next) :
    handoff.state = .upgrading ∧ next.state = .upgraded ∨ handoff.state = .stopped ∧ next.state = .stopped := by
  unfold Handoff.finish at finished
  split at finished
  next stands =>
    cases finished
    obtain ⟨replacement, found⟩ := Handoff.stage_found handoff index _ stands
    rcases exclusive.fits _ (List.mem_of_getElem? found) with upgrading | stopped
    · exact Or.inl ⟨upgrading, by simp [Handoff.move, Handoff.transition, upgrading]⟩
    · exact Or.inr ⟨stopped, by simp [Handoff.move, Handoff.transition, stopped]⟩
  next => cases finished

theorem lone_returned (start : Handoff) (moves : List Move) (attempt : Attempt) (result : Option Error)
    (alone : Lone start moves attempt) (attended : attempt.Attended)
    (returned : (start.run moves).stage? 0 = some (.returned result)) :
    (result = none ↔ Heard start moves) ∧ (start.run moves).succeeded = (if result = none then 1 else 0) ∧
      ((start.run moves).hasRunning = true ↔ result = none) := by
  have stands : attempt.stage = .returned result := by
    rw [Handoff.stage?, alone.only] at returned
    exact Option.some.inj returned
  have heard := alone.heard
  have counted := alone.counted
  rw [stands] at heard counted
  rw [lone_running _ attempt alone.only attended, stands, counted]
  refine ⟨⟨?_, ?_⟩, ?_, ?_⟩
  · rintro rfl
    exact heard.mp (Or.inr rfl)
  · intro was
    rcases heard.mpr was with other | same
    · cases other
    · exact Attempt.Stage.returned.inj same
  · simp only [Attempt.Stage.returned.injEq]
  · cases result <;> simp [Attempt.Stage.isAttending]

theorem stop_wins_unless_heard (timeout : Nat) (handover : Bool) (before after : List Move)
    (single : .call ∉ before ++ after) (attaches : ∀ move ∈ before ++ after, move.attaches = true) :
    let start := lone timeout handover
    let final := start.run (before ++ .stop :: after)
    (¬Heard start (before ++ .stop :: after) → Overruled final) ∧
    (Heard start (before ++ .stop :: after) → final.state = .stopped ∧ ∀ result,
      final.stage? 0 = some (.returned result) → result = none ∧ final.succeeded = 1 ∧ final.hasRunning = true) ∧
    (∀ next, (start.run before).act? 0 .finish = some next →
      (start.run before).state = .upgrading ∧ next.state = .upgraded ∨
        (start.run before).state = .stopped ∧ next.state = .stopped) := by
  intro start final
  have inserted (move : Move) : move ∈ before ++ .stop :: after ↔ move = .stop ∨ move ∈ before ++ after := by
    simp only [List.mem_append, List.mem_cons]
    tauto
  obtain ⟨attempt, alone⟩ := lone_run timeout handover (before ++ .stop :: after)
    fun called => ((inserted .call).mp called).elim nofun single
  obtain ⟨early, first⟩ := lone_run timeout handover before fun called => single (List.mem_append_left _ called)
  have attended : attempt.Attended := by
    refine attended_run start (before ++ .stop :: after) (fun move member => ?_) ?_ attempt (by rw [alone.only]; exact List.mem_cons_self)
    · rcases (inserted move).mp member with rfl | other
      · rfl
      · exact attaches move other
    · exact fun entered member => List.mem_singleton.mp member ▸ ⟨nofun, nofun⟩
  have stopped : final.state = .stopped := by
    rw [show final = ((start.run before).step .stop).run after from List.foldl_append]
    exact stopped_run _ after rfl
  refine ⟨fun unheard => ⟨stopped, fun result returned => ?_⟩, fun heard => ⟨stopped, fun result returned => ?_⟩, ?_⟩
  · obtain ⟨was, counted, running⟩ := lone_returned start _ attempt result alone attended returned
    have failed : result ≠ none := fun succeeded => unheard (was.mp succeeded)
    rw [if_neg failed] at counted
    exact ⟨failed, counted, Bool.eq_false_iff.mpr fun runs => failed (running.mp runs)⟩
  · obtain ⟨was, counted, running⟩ := lone_returned start _ attempt result alone attended returned
    have succeeded := was.mpr heard
    rw [if_pos succeeded] at counted
    exact ⟨succeeded, counted, running.mpr succeeded⟩
  · exact fun next finished => finish_takes _ next 0 first.exclusive finished

def awaiting : List Move :=
  [.act 0 .claim, .act 0 (.prepare none), .act 0 .confirm, .act 0 (.spawn none), .act 0 (.attach none)]

theorem stop_wins_unless_heard_at_the_last_moment :
    let stopped := (lone 60000 true).run (awaiting ++ .stop :: [.act 0 (.wake .stopSeen), .act 0 .reap, .act 0 .release])
    let heard := (lone 60000 true).run (awaiting ++ .stop :: [.act 0 (.wake .readinessByte), .act 0 .finish])
    stopped.stage? 0 = some (.returned (some .aborted)) ∧ Overruled stopped ∧ heard.succeeded = 1 ∧
      heard.hasRunning = true := by
  intro stopped heard
  obtain ⟨overrules, _, _⟩ := stop_wins_unless_heard 60000 true awaiting [.act 0 (.wake .stopSeen), .act 0 .reap, .act 0 .release]
    (by decide) (by decide)
  have unheard : ¬Heard (lone 60000 true) (awaiting ++ .stop :: [.act 0 (.wake .stopSeen), .act 0 .reap, .act 0 .release]) := by
    rintro ⟨earlier, later, same, _⟩
    have member : .act 0 (.wake .readinessByte) ∈ awaiting ++ .stop :: [.act 0 (.wake .stopSeen), .act 0 .reap, .act 0 .release] := by
      rw [same]
      exact List.mem_append_right earlier List.mem_cons_self
    exact absurd member (by decide)
  have taken : Heard (lone 60000 true) (awaiting ++ .stop :: [.act 0 (.wake .readinessByte), .act 0 .finish]) :=
    ⟨awaiting ++ [.stop], [.act 0 .finish], rfl, by decide⟩
  obtain ⟨_, wins, _⟩ := stop_wins_unless_heard 60000 true awaiting [.act 0 (.wake .readinessByte), .act 0 .finish]
    (by decide) (by decide)
  obtain ⟨_, counted, running⟩ := (wins taken).2 none (by decide)
  exact ⟨by decide, overrules unheard, counted, running⟩

-- A readiness byte that is taken after the stop makes the upgrade succeed all the same.
theorem readiness_overrules_stop :
    ¬∀ before after : List Move, .call ∉ before ++ after → (∀ move ∈ before ++ after, move.attaches = true) →
      ((lone 60000 true).run before).state ≠ .upgraded → Overruled ((lone 60000 true).run (before ++ .stop :: after)) := by
  intro wins
  have overruled := wins awaiting [.act 0 (.wake .readinessByte), .act 0 .finish] (by decide) (by decide) (by decide)
  exact (overruled.2 none (by decide)).1 rfl

end ServiceHost.Upgrade
