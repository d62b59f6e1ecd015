import Mathlib.Algebra.BigOperators.Group.List.Basic
import Mathlib.Algebra.GroupWithZero.Nat
import ServiceHost.Discovery.Reach

set_option autoImplicit false

namespace ServiceHost.Reach

def Attempt.SucceedsWithin (dialTimeout : Nat) (attempt : Attempt) : Prop :=
  ∃ after, attempt = .succeeds after ∧ after < dialTimeout

-- The time that a list of attempts takes one after the other, if none of them succeeds.
def spent (dialTimeout : Nat) (attempts : List Attempt) : Nat :=
  (attempts.map fun attempt => (attempt.within dialTimeout).1).sum

-- An endpoint answers at a time of the round, and none of those before it does.
def Answers (dialTimeout : Nat) (attempts : List Attempt) (time : Nat) : Prop :=
  ∃ before after rest, attempts = before ++ .succeeds after :: rest ∧ after < dialTimeout ∧
    (∀ attempt ∈ before, ¬ attempt.SucceedsWithin dialTimeout) ∧ time = spent dialTimeout before + after

-- A round that begins at the first time leads to one that begins at the second, none in between having been successful.
inductive Leads (dialTimeout limit : Nat) (course : Course) : Nat → Nat → Prop where
  | here (now : Nat) : Leads dialTimeout limit course now now
  | onward (now finish start : Nat) (failed : round dialTimeout now (course.standing now) = (finish, false))
      (inTime : finish < limit) (leads : Leads dialTimeout limit course (course.resume now finish) start) :
      Leads dialTimeout limit course now start

theorem within_cases (dialTimeout : Nat) (attempt : Attempt) :
    (∃ after, attempt = .succeeds after ∧ after < dialTimeout ∧ attempt.within dialTimeout = (after, true)) ∨
      ¬ attempt.SucceedsWithin dialTimeout ∧ ∃ taken, attempt.within dialTimeout = (taken, false) := by
  cases attempt with
  | succeeds after =>
      by_cases quick : after < dialTimeout
      · exact Or.inl ⟨after, rfl, quick, if_pos quick⟩
      · refine Or.inr ⟨fun ⟨other, same, less⟩ => ?_, dialTimeout, if_neg quick⟩
        cases same
        exact quick less
  | fails after => exact Or.inr ⟨nofun, _, rfl⟩
  | silent => exact Or.inr ⟨nofun, _, rfl⟩

theorem answers_first (dialTimeout after time : Nat) (rest : List Attempt) (quick : after < dialTimeout) :
    Answers dialTimeout (.succeeds after :: rest) time ↔ time = after := by
  constructor
  · rintro ⟨before, other, behind, split, _, fail, rfl⟩
    cases before with
    | nil =>
        cases split
        exact Nat.zero_add after
    | cons attempt more =>
        cases split
        exact absurd ⟨after, rfl, quick⟩ (fail _ List.mem_cons_self)
  · rintro rfl
    exact ⟨[], time, rest, rfl, quick, nofun, (Nat.zero_add time).symm⟩

theorem answers_later (dialTimeout taken time : Nat) (attempt : Attempt) (rest : List Attempt)
    (fails : ¬ attempt.SucceedsWithin dialTimeout) (within : attempt.within dialTimeout = (taken, false)) :
    Answers dialTimeout (attempt :: rest) time ↔ ∃ later, Answers dialTimeout rest later ∧ time = taken + later := by
  have first (before : List Attempt) : spent dialTimeout (attempt :: before) = taken + spent dialTimeout before := by
    rw [spent, List.map_cons, List.sum_cons, within]
    rfl
  constructor
  · rintro ⟨before, after, behind, split, quick, fail, rfl⟩
    cases before with
    | nil =>
        cases split
        exact absurd ⟨after, rfl, quick⟩ fails
    | cons _ more =>
        cases split
        refine ⟨spent dialTimeout more + after, ⟨more, after, behind, rfl, quick, ?_, rfl⟩, ?_⟩
        · exact fun other member => fail other (List.mem_cons_of_mem _ member)
        · rw [first, Nat.add_assoc]
  · rintro ⟨later, ⟨before, after, behind, rfl, quick, fail, rfl⟩, rfl⟩
    refine ⟨attempt :: before, after, behind, rfl, quick, List.forall_mem_cons.mpr ⟨fails, fail⟩, ?_⟩
    rw [first, Nat.add_assoc]

theorem round_answers (dialTimeout now finish : Nat) (attempts : List Attempt) :
    round dialTimeout now attempts = (finish, true) ↔ ∃ time, Answers dialTimeout attempts time ∧ finish = now + time := by
  induction attempts generalizing now with
  | nil =>
      constructor
      · nofun
      · rintro ⟨time, ⟨before, after, rest, split, _⟩, _⟩
        cases before <;> cases split
  | cons attempt rest ih =>
      rcases within_cases dialTimeout attempt with ⟨after, rfl, quick, within⟩ | ⟨fails, taken, within⟩
      · simp only [round, within, answers_first dialTimeout after _ rest quick, exists_eq_left, Prod.mk.injEq, and_true]
        exact eq_comm
      · simp only [round, within, answers_later dialTimeout taken _ attempt rest fails within, ih]
        constructor
        · rintro ⟨time, answers, rfl⟩
          exact ⟨taken + time, ⟨time, answers, rfl⟩, Nat.add_assoc now taken time⟩
        · rintro ⟨_, ⟨time, answers, rfl⟩, rfl⟩
          exact ⟨time, answers, (Nat.add_assoc now taken time).symm⟩

theorem round_later (dialTimeout now : Nat) (attempts : List Attempt) : now ≤ (round dialTimeout now attempts).1 := by
  induction attempts generalizing now with
  | nil => exact Nat.le_refl now
  | cons attempt rest ih =>
      rcases within_cases dialTimeout attempt with ⟨after, _, _, within⟩ | ⟨_, taken, within⟩
      · simp only [round, within]
        exact Nat.le_add_right now after
      · simp only [round, within]
        exact Nat.le_trans (Nat.le_add_right now taken) (ih (now + taken))

-- The rounds do not stand still, even if no attempt takes any time.
theorem resume_later (course : Course) (now finish : Nat) (ends : now ≤ finish) : now < course.resume now finish := by
  unfold Course.resume
  cases found : course.changeAfter? now with
  | none =>
      simp only [pause]
      omega
  | some change =>
      obtain ⟨⟨time, _⟩, first, rfl⟩ := Option.map_eq_some_iff.mp found
      have after : now < time := by simpa using List.find?_some first
      simp only [pause]
      omega

variable {dialTimeout limit : Nat} {course : Course}

theorem leads_later (now start : Nat) (leads : Leads dialTimeout limit course now start) : now ≤ start := by
  induction leads with
  | here now => exact Nat.le_refl now
  | onward now finish start failed _ _ ih =>
      have ends := round_later dialTimeout now (course.standing now)
      rw [failed] at ends
      exact Nat.le_trans (Nat.le_of_lt (resume_later course now finish ends)) ih

theorem rounds_reach (fuel now : Nat) (enough : limit < fuel + now) :
    rounds dialTimeout limit course fuel now = true ↔
      ∃ start, Leads dialTimeout limit course now start ∧
        ∃ time, Answers dialTimeout (course.standing start) time ∧ start + time < limit := by
  induction fuel generalizing now with
  | zero =>
      refine ⟨nofun, fun ⟨start, leads, time, _, inTime⟩ => ?_⟩
      have later := leads_later now start leads
      omega
  | succ fuel ih =>
      have ends := round_later dialTimeout now (course.standing now)
      rw [rounds]
      split
      next finish reached =>
        obtain ⟨time, answers, rfl⟩ := (round_answers dialTimeout now finish _).mp reached
        rw [decide_eq_true_eq]
        refine ⟨fun inTime => ⟨now, .here now, time, answers, inTime⟩, fun ⟨start, leads, other, answered, inTime⟩ => ?_⟩
        cases leads with
        | here =>
            have same := ((round_answers dialTimeout now _ _).mpr ⟨other, answered, rfl⟩).symm.trans reached
            rwa [(Prod.mk.inj same).1] at inTime
        | onward _ finish _ failed => cases failed.symm.trans reached
      next finish failed =>
        rw [failed] at ends
        have later := resume_later course now finish ends
        rw [Bool.and_eq_true, decide_eq_true_eq, ih (course.resume now finish) (by omega)]
        refine ⟨fun ⟨inTime, start, leads, answered⟩ => ⟨start, .onward now finish start failed inTime leads, answered⟩, ?_⟩
        rintro ⟨start, leads, time, answers, inTime⟩
        cases leads with
        | here => cases ((round_answers dialTimeout now _ _).mpr ⟨time, answers, rfl⟩).symm.trans failed
        | onward _ other _ again soon leads =>
            cases again.symm.trans failed
            exact ⟨soon, start, leads, time, answers, inTime⟩

theorem answers_some (attempts : List Attempt) :
    (∃ time, Answers dialTimeout attempts time) ↔ ∃ attempt ∈ attempts, attempt.SucceedsWithin dialTimeout := by
  constructor
  · rintro ⟨_, before, after, rest, rfl, quick, _⟩
    exact ⟨_, List.mem_append_right before List.mem_cons_self, after, rfl, quick⟩
  · intro ⟨attempt, member, succeeds⟩
    induction attempts with
    | nil => cases member
    | cons first rest ih =>
        rcases within_cases dialTimeout first with ⟨after, rfl, quick, _⟩ | ⟨fails, taken, within⟩
        · exact ⟨after, (answers_first dialTimeout after after rest quick).mpr rfl⟩
        · rcases List.mem_cons.mp member with rfl | behind
          · exact absurd succeeds fails
          · obtain ⟨time, answers⟩ := ih behind
            exact ⟨taken + time, (answers_later dialTimeout taken _ first rest fails within).mpr ⟨time, answers, rfl⟩⟩

theorem answers_behind (before rest : List Attempt) (time : Nat) (silent : .silent ∈ before)
    (fail : ∀ attempt ∈ before, ¬ attempt.SucceedsWithin dialTimeout) (answers : Answers dialTimeout (before ++ rest) time) :
    dialTimeout ≤ time := by
  induction before generalizing time with
  | nil => cases silent
  | cons first more ih =>
      obtain ⟨fails, others⟩ := List.forall_mem_cons.mp fail
      rcases within_cases dialTimeout first with ⟨after, same, quick, _⟩ | ⟨_, taken, within⟩
      · exact absurd ⟨after, same, quick⟩ fails
      · obtain ⟨later, answered, rfl⟩ := (answers_later dialTimeout taken time first _ fails within).mp answers
        rcases List.mem_cons.mp silent with rfl | behind
        · cases within
          exact Nat.le_add_right dialTimeout later
        · exact Nat.le_trans (ih later behind others answered) (Nat.le_add_left later taken)

theorem wait_through_ok (channel : String) : waitThrough channel dialTimeout limit course = .ok () ↔
    rounds dialTimeout limit course (limit + 1) 0 = true := by
  unfold waitThrough
  split
  next reached => exact ⟨fun _ => reached, fun _ => rfl⟩
  next unreached => split <;> exact ⟨nofun, fun reached => absurd reached unreached⟩

theorem wait_through_error (channel : String) (error : DialError)
    (fails : waitThrough channel dialTimeout limit course = .error error) :
    error = if course.standing limit = [] then .noEndpoints channel else .timeout (limit * 1000000) := by
  unfold waitThrough at fails
  split at fails
  next => cases fails
  next =>
    split at fails
    next empty =>
      cases fails
      rw [if_pos (List.isEmpty_iff.mp empty)]
    next filled =>
      cases fails
      rw [if_neg fun empty => filled (List.isEmpty_iff.mpr empty)]

theorem wait_ok (channel : String) (attempts : List Attempt) :
    wait channel dialTimeout attempts = .ok () ↔ ∃ time, Answers dialTimeout attempts time ∧ time < dialTimeout := by
  rw [wait, wait_through_ok, rounds_reach _ 0 (Nat.lt_succ_self _)]
  constructor
  · rintro ⟨start, _, time, answers, inTime⟩
    exact ⟨time, answers, Nat.lt_of_le_of_lt (Nat.le_add_left time start) inTime⟩
  · rintro ⟨time, answers, inTime⟩
    exact ⟨0, .here 0, time, answers, by rwa [Nat.zero_add]⟩

-- A wait succeeds exactly if in some round an endpoint answers before the time is up, and an error says whether there are
-- endpoints at the end. Of endpoints that stay the same one answers at some time of the first round exactly if one succeeds
-- within the dial timeout by itself; but that time counts all that come before it, and behind a silent one it is too late.
theorem endpoint_reached_unless_kept_waiting (channel : String) (dialTimeout : Nat) :
    (∀ (limit : Nat) (course : Course),
      (waitThrough channel dialTimeout limit course = .ok () ↔
        ∃ start, Leads dialTimeout limit course 0 start ∧
          ∃ time, Answers dialTimeout (course.standing start) time ∧ start + time < limit) ∧
      ∀ error, waitThrough channel dialTimeout limit course = .error error →
        error = if course.standing limit = [] then .noEndpoints channel else .timeout (limit * 1000000)) ∧
    (∀ attempts : List Attempt,
      (wait channel dialTimeout attempts = .ok () ↔ ∃ time, Answers dialTimeout attempts time ∧ time < dialTimeout) ∧
      ((∃ time, Answers dialTimeout attempts time) ↔ ∃ attempt ∈ attempts, attempt.SucceedsWithin dialTimeout)) ∧
    ∀ before rest : List Attempt, .silent ∈ before → (∀ attempt ∈ before, ¬ attempt.SucceedsWithin dialTimeout) →
      wait channel dialTimeout (before ++ rest) = .error (.timeout (dialTimeout * 1000000)) := by
  refine ⟨fun limit course => ⟨?_, fun error => wait_through_error channel error⟩,
    fun attempts => ⟨wait_ok channel attempts, answers_some attempts⟩, fun before rest silent fail => ?_⟩
  · rw [wait_through_ok, rounds_reach _ 0 (Nat.lt_succ_self _)]
  · cases outcome : wait channel dialTimeout (before ++ rest) with
    | ok =>
        obtain ⟨time, answers, inTime⟩ := (wait_ok channel (before ++ rest)).mp outcome
        have late := answers_behind before rest time silent fail answers
        omega
    | error error =>
        have filled : before ++ rest ≠ [] := List.append_ne_nil_of_left_ne_nil (List.ne_nil_of_mem silent) rest
        rw [wait_through_error channel error outcome]
        exact congrArg Except.error (if_neg filled)

-- A refusal leaves the next endpoint the rest of the time.
theorem endpoint_reached_after_refusal :
    wait "calc/Adder" 40 [.fails 30, .succeeds 5] = .ok () ∧
      wait "calc/Adder" 40 [.fails 30, .silent, .succeeds 5] = .error (.timeout 40000000) := by
  obtain ⟨_, reached, kept⟩ := endpoint_reached_unless_kept_waiting "calc/Adder" 40
  have fail : ∀ attempt ∈ [Attempt.fails 30], ¬ attempt.SucceedsWithin 40 := by simp [Attempt.SucceedsWithin]
  have both : ∀ attempt ∈ [Attempt.fails 30, .silent], ¬ attempt.SucceedsWithin 40 := by simp [Attempt.SucceedsWithin]
  have answers : Answers 40 [.fails 30, .succeeds 5] 35 := ⟨[.fails 30], 5, [], rfl, by decide, fail, rfl⟩
  exact ⟨(reached _).1.mpr ⟨35, answers, by decide⟩, kept [.fails 30, .silent] [.succeeds 5] (by simp) both⟩

-- Endpoints that would be reached by themselves, one behind a silent one and one behind a slow refusal.
theorem endpoint_kept_waiting :
    (Attempt.succeeds 0).SucceedsWithin 40 ∧ wait "calc/Adder" 40 [.succeeds 0] = .ok () ∧
      wait "calc/Adder" 40 [.silent, .succeeds 0] = .error (.timeout 40000000) ∧
      (Attempt.succeeds 30).SucceedsWithin 40 ∧ wait "calc/Adder" 40 [.succeeds 30] = .ok () ∧
      wait "calc/Adder" 40 [.fails 30, .succeeds 30] = .error (.timeout 40000000) := by
  exact ⟨⟨0, rfl, by decide⟩, by decide, by decide, ⟨30, rfl, by decide⟩, by decide, by decide⟩

end ServiceHost.Reach
