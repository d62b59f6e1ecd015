import Mathlib.Data.List.Nodup
import ServiceHost.Proofs.Discovery.Dialing
import ServiceHost.Proofs.Shares

set_option autoImplicit false

namespace ServiceHost

def Errand.hasFailed (errand : Errand) : Bool :=
  match errand.stage with
  | .returned (.error _) => true
  | _ => false

def Errand.line? (errand : Errand) : Option Nat :=
  match errand.stage with
  | .dialing line => line
  | .hangingUp line _ _ => some line
  | _ => none

-- A channel at a stage of being closed by the caller that has opened it: while the follower runs, the closer has its
-- handle before it, and at the end the follower does not run.
def Line.Closer.Fits (line : Line) : Line.Closer → Prop
  | .entered => line.channel.closed = false ∧ (line.isFollowed = true → line.handle = true)
  | .marked => line.isFollowed = true → line.handle = true
  | .signalled => line.isFollowed = true → line.handle = true
  | .waiting => True
  | .returned => line.isFollowed = false

theorem Line.closer_fits (closer later : Line.Closer) (line closing : Line)
    (stepped : closer.step? line = some (later, closing)) (fits : closer.Fits line) :
    later.Fits closing ∧ (closing.isFollowed = true → line.isFollowed = true) := by
  cases closer with
  | entered =>
      simp only [Line.Closer.step?, fits.1, Bool.false_eq_true, if_false] at stepped
      cases stepped
      exact ⟨fits.2, id⟩
  | marked =>
      cases stepped
      exact ⟨fits, id⟩
  | signalled =>
      simp only [Line.Closer.step?] at stepped
      split at stepped
      next =>
        cases stepped
        exact ⟨trivial, id⟩
      next unhandled =>
        cases stepped
        exact ⟨Bool.eq_false_iff.mpr fun followed => unhandled (fits followed), id⟩
  | waiting =>
      simp only [Line.Closer.step?] at stepped
      split at stepped
      next => cases stepped
      next unfollowed =>
        cases stepped
        exact ⟨Bool.eq_false_iff.mpr unfollowed, id⟩
  | returned => cases stepped

theorem Line.calms_fits (closer : Line.Closer) (line after : Line) (calms : line.Calms after) (fits : closer.Fits line) :
    closer.Fits after := by
  have handled (handles : line.isFollowed = true → line.handle = true) (followed : after.isFollowed = true) :
      after.handle = true := calms.handle.trans (handles (calms.followed followed))
  cases closer with
  | entered => exact ⟨calms.closed.trans fits.1, handled fits.2⟩
  | marked => exact handled fits
  | signalled => exact handled fits
  | waiting => trivial
  | returned => exact Bool.eq_false_iff.mpr fun followed => Bool.eq_false_iff.mp fits (calms.followed followed)

def Errand.Holds (lines : List Line) (errand : Errand) : Prop :=
  match errand.stage with
  | .dialing (some number) => ∃ line, lines[number]? = some line ∧ Line.Closer.Fits line .entered
  | .hangingUp number closer _ => ∃ line, lines[number]? = some line ∧ closer.Fits line
  | _ => True

theorem Errand.idle_holds (lines : List Line) (errand : Errand) (idle : errand.isDialing = false) : errand.Holds lines := by
  unfold Errand.isDialing at idle
  unfold Errand.Holds
  split
  next number stage => simp [stage] at idle
  next number closer failure stage => simp [stage] at idle
  next => trivial

namespace Cache

-- How the dials have gone: none is forgotten, and each that has failed has been reported to its caller.
structure Tallied (cache : Cache) : Prop where
  dials : cache.dials = cache.connected + cache.failed + cache.errands.countP Errand.isDialing
  failed : cache.failed = cache.errands.countP Errand.hasFailed

theorem count_turned (cache next after : Cache) (index : Nat) (errand : Errand) (stage : Errand.Stage)
    (turned : Turned cache next index errand stage after) (counts : Errand → Bool) :
    next.errands.countP counts + (counts errand).toNat =
      cache.errands.countP counts + (counts { errand with stage }).toNat := by
  rw [turned.next]
  exact count_set counts cache.errands index errand { errand with stage } turned.found

theorem turn_tallies (cache after : Cache) (errand : Errand) (stage : Errand.Stage)
    (turn : Turn cache errand.inquiry errand.stage stage after) (unclosed : cache.closed = false)
    (undropped : stage ≠ .dropped) :
    after.dials + cache.connected + cache.failed + errand.isDialing.toNat =
        cache.dials + after.connected + after.failed + (Errand.isDialing { errand with stage }).toNat ∧
      after.failed + errand.hasFailed.toNat = cache.failed + (Errand.hasFailed { errand with stage }).toNat := by
  obtain ⟨inquiry, before⟩ := errand
  cases turn with
  | turnedAway closed => rw [unclosed] at closed; cases closed
  | dropped => exact absurd rfl undropped
  | dials =>
      refine ⟨?_, rfl⟩
      change cache.dials + 1 + cache.connected + cache.failed + 0 = cache.dials + cache.connected + cache.failed + 1
      omega
  | kept =>
      refine ⟨?_, rfl⟩
      change cache.dials + cache.connected + cache.failed + 1 = cache.dials + (cache.connected + 1) + cache.failed + 0
      omega
  | _ => exact ⟨rfl, rfl⟩

theorem tallied_fresh (root : String) (dialTimeout : Nat) : Tallied { root, dialTimeout } := ⟨rfl, rfl⟩

theorem tallied_enter (cache : Cache) (inquiry : Inquiry) (tallied : Tallied cache) : Tallied (cache.enter inquiry) := by
  obtain ⟨dials, failed⟩ := tallied
  constructor
  · rw [enter, List.countP_append]
    exact dials
  · rw [enter, List.countP_append]
    exact failed

theorem tallied_turned (cache next after : Cache) (index : Nat) (errand : Errand) (stage : Errand.Stage)
    (turned : Turned cache next index errand stage after) (unclosed : cache.closed = false) (undropped : stage ≠ .dropped)
    (tallied : Tallied cache) : Tallied next := by
  obtain ⟨dials, failed⟩ := tallied
  have dialing := count_turned cache next after index errand stage turned Errand.isDialing
  have failing := count_turned cache next after index errand stage turned Errand.hasFailed
  obtain ⟨first, second⟩ :=
    turn_tallies cache after errand stage turned.turn unclosed undropped
  have same : next.dials = after.dials ∧ next.connected = after.connected ∧ next.failed = after.failed := by
    rw [turned.next]
    exact ⟨rfl, rfl, rfl⟩
  obtain ⟨same, same', same''⟩ := same
  constructor
  · omega
  · omega

-- Whoever dials knows its channel, and every follower that runs is that of a channel in the cache or in a dial.
structure Traced (cache : Cache) : Prop where
  held : ∀ errand ∈ cache.errands, errand.Holds cache.lines
  followed : ∀ (number : Nat) (line : Line), cache.lines[number]? = some line → line.isFollowed = true →
    (∃ key, (key, number) ∈ cache.entries) ∨ ∃ errand ∈ cache.errands, errand.line? = some number

theorem opening_fits (root : String) (inquiry : Inquiry) (targets : Table Endpoint) (watch : Store.Watch) :
    Line.Closer.Fits (opening root inquiry targets watch) .entered := by
  refine ⟨opening_unclosed root inquiry targets watch, ?_⟩
  unfold opening
  split
  · exact fun _ => by contradiction
  · exact fun _ => rfl

section Turn

variable {cache after : Cache} {errand : Errand} {stage : Errand.Stage}

theorem turn_lines (turn : Turn cache errand.inquiry errand.stage stage after) :
    after.lines = cache.lines ∨ errand.isDialing = true := by
  obtain ⟨inquiry, before⟩ := errand
  cases turn with
  | connected => exact Or.inr rfl
  | hangs => exact Or.inr rfl
  | hungUp => exact Or.inr rfl
  | _ => exact Or.inl rfl

theorem turn_held (turn : Turn cache errand.inquiry errand.stage stage after) (held : errand.Holds cache.lines) :
    Errand.Holds after.lines { errand with stage } := by
  obtain ⟨inquiry, before⟩ := errand
  cases turn with
  | connected targets watch =>
      exact ⟨opening cache.root inquiry targets watch, List.getElem?_concat_length, opening_fits _ _ _ _⟩
  | gaveUp => exact held
  | hangs line closer later failure found closing present stepped =>
      obtain ⟨known, same, fits⟩ := held
      cases present.symm.trans same
      exact ⟨closing, List.getElem?_set_self (List.getElem?_eq_some_iff.mp present).1,
        (Line.closer_fits closer later found closing stepped fits).1⟩
  | _ => trivial

theorem turn_followed (turn : Turn cache errand.inquiry errand.stage stage after) (held : errand.Holds cache.lines)
    (number : Nat) (line : Line) (found : after.lines[number]? = some line) (followed : line.isFollowed = true) :
    (∃ before, cache.lines[number]? = some before ∧ before.isFollowed = true) ∨
      Errand.line? { errand with stage } = some number := by
  obtain ⟨inquiry, before⟩ := errand
  have closes (place : Nat) (closer later : Line.Closer) (known closing : Line) (present : cache.lines[place]? = some known)
      (stepped : closer.step? known = some (later, closing)) (fits : closer.Fits known)
      (set : (cache.lines.set place closing)[number]? = some line) :
      ∃ before, cache.lines[number]? = some before ∧ before.isFollowed = true := by
    by_cases same : place = number
    · subst same
      rw [List.getElem?_set_self (List.getElem?_eq_some_iff.mp present).1] at set
      cases set
      exact ⟨known, present, (Line.closer_fits closer later known _ stepped fits).2 followed⟩
    · rw [List.getElem?_set_ne same] at set
      exact ⟨line, set, followed⟩
  cases turn with
  | connected targets watch =>
      rw [List.getElem?_append] at found
      split at found
      next => exact Or.inl ⟨line, found, followed⟩
      next beyond =>
        have place := (List.getElem?_eq_some_iff.mp found).1
        rw [List.length_singleton] at place
        have last : number = cache.lines.length := by omega
        exact Or.inr (congrArg some last.symm)
  | hangs place closer later failure known closing present stepped =>
      obtain ⟨other, same, fits⟩ := held
      cases present.symm.trans same
      exact Or.inl (closes place closer later known closing present stepped fits found)
  | hungUp place closer failure known closing present stepped =>
      obtain ⟨other, same, fits⟩ := held
      cases present.symm.trans same
      exact Or.inl (closes place closer .returned known closing present stepped fits found)
  | _ => exact Or.inl ⟨line, found, followed⟩

theorem turn_answers (turn : Turn cache errand.inquiry errand.stage stage after) (undropped : stage ≠ .dropped)
    (held : errand.Holds cache.lines) (number : Nat) (holds : errand.line? = some number) :
    Errand.line? { errand with stage } = some number ∨ stage = .returned (.ok number) ∨
      ∀ line, after.lines[number]? = some line → line.isFollowed = false := by
  obtain ⟨inquiry, before⟩ := errand
  cases turn with
  | kept line =>
      cases holds
      exact Or.inr (Or.inl rfl)
  | gaveUp => exact Or.inl holds
  | hangs => exact Or.inl holds
  | hungUp line closer failure found closing present stepped =>
      cases holds
      obtain ⟨known, same, fits⟩ := held
      cases present.symm.trans same
      refine Or.inr (Or.inr fun ended set => ?_)
      rw [List.getElem?_set_self (List.getElem?_eq_some_iff.mp present).1] at set
      cases set
      exact (Line.closer_fits closer .returned found closing stepped fits).1
  | dropped => exact absurd rfl undropped
  | _ => cases holds

end Turn

theorem traced_turned (cache next after : Cache) (index : Nat) (errand : Errand) (stage : Errand.Stage)
    (turned : Turned cache next index errand stage after) (undropped : stage ≠ .dropped) (orderly : Orderly cache)
    (traced : Traced cache) : Traced next := by
  have lines := turned_lines turned
  have mine := traced.held errand (List.mem_of_getElem? turned.found)
  constructor
  · intro rival member
    rw [lines]
    obtain ⟨other, found⟩ := List.getElem?_of_mem member
    rcases turned_found turned other rival found with ⟨_, rfl⟩ | ⟨differs, before⟩
    · exact turn_held turned.turn mine
    · rcases turn_lines turned.turn with same | dialing
      · rw [same]
        exact traced.held rival (List.mem_of_getElem? before)
      · refine Errand.idle_holds _ rival (Bool.eq_false_iff.mpr fun rivals => differs ?_)
        exact orderly.alone other index rival errand before turned.found (dialing_holds rival rivals)
          (dialing_holds errand dialing)
  · intro number line found followed
    rw [lines] at found
    have own : { errand with stage } ∈ next.errands := List.mem_of_getElem? (turned_own turned)
    rcases turn_followed turned.turn mine number line found followed with ⟨before, present, ran⟩ | opened
    · rcases traced.followed number before present ran with ⟨key, entered⟩ | ⟨rival, member, holds⟩
      · exact Or.inl ⟨key, (turned_grown turned).subset entered⟩
      · obtain ⟨other, there⟩ := List.getElem?_of_mem member
        by_cases same : other = index
        · subst same
          cases there.symm.trans turned.found
          rcases turn_answers turned.turn undropped mine number holds with still | kept | ended
          · exact Or.inr ⟨_, own, still⟩
          · exact Or.inl ⟨_, turned_files turned number kept⟩
          · rw [ended line found] at followed
            cases followed
        · rw [← turned_other turned other same] at there
          exact Or.inr ⟨rival, List.mem_of_getElem? there, holds⟩
    · exact Or.inr ⟨_, own, opened⟩

theorem traced_worked (cache : Cache) (number : Nat) (change : Line → Line) (calms : ∀ line : Line, line.Calms (change line))
    (traced : Traced cache) : Traced { cache with lines := cache.lines.modify number change } := by
  have worked := Line.worked_found cache.lines number change calms
  constructor
  · intro errand member
    have held := traced.held errand member
    unfold Errand.Holds at *
    split
    next place stage =>
      simp only [stage] at held
      obtain ⟨line, found, fits⟩ := held
      obtain ⟨after, present, calm⟩ := worked place line found
      exact ⟨after, present, Line.calms_fits .entered line after calm fits⟩
    next place closer failure stage =>
      simp only [stage] at held
      obtain ⟨line, found, fits⟩ := held
      obtain ⟨after, present, calm⟩ := worked place line found
      exact ⟨after, present, Line.calms_fits closer line after calm fits⟩
    next => trivial
  · intro other after present followed
    obtain ⟨line, found, calm⟩ := Line.worked_before cache.lines number change calms other after present
    exact traced.followed other line found (calm.followed followed)

theorem traced_enter (cache : Cache) (inquiry : Inquiry) (traced : Traced cache) : Traced (cache.enter inquiry) where
  held := by
    intro errand member
    rcases List.mem_append.mp member with before | new
    · exact traced.held errand before
    · rw [List.mem_singleton.mp new]
      trivial
  followed := by
    intro number line found followed
    rcases traced.followed number line found followed with entered | ⟨errand, member, holds⟩
    · exact Or.inl entered
    · exact Or.inr ⟨errand, List.mem_append_left _ member, holds⟩

-- All that holds as long as nobody has asked to close and no caller is dropped.
structure Accounted (cache : Cache) : Prop where
  filed : Filed cache
  tallied : Tallied cache
  traced : Traced cache

theorem accounted_move (cache next : Cache) (move : Move) (does : Does cache next move) (other : move ≠ .shutDown)
    (patient : ∀ index, move ≠ .act index .drop) (accounted : Accounted cache) : Accounted next := by
  obtain ⟨filed, tallied, traced⟩ := accounted
  have still := filed_move cache next move does other filed
  rcases unasked_does cache next move does filed.unasked other with
    ⟨inquiry, rfl⟩ | ⟨index, act, errand, stage, after, rfl, turned, drops⟩ | ⟨number, change, calms, rfl⟩
  · exact ⟨still, tallied_enter cache inquiry tallied, traced_enter cache inquiry traced⟩
  · have undropped : stage ≠ .dropped := fun dropped => patient index (congrArg (Move.act index) (drops dropped))
    exact ⟨still, tallied_turned cache next after index errand stage turned filed.unclosed undropped tallied,
      traced_turned cache next after index errand stage turned undropped filed.orderly traced⟩
  · exact ⟨still, ⟨tallied.dials, tallied.failed⟩, traced_worked cache number change calms traced⟩

theorem accounted_run (root : String) (dialTimeout : Nat) (moves : List Move) (unasked : .shutDown ∉ moves)
    (patient : ∀ index, .act index .drop ∉ moves) : Accounted (({ root, dialTimeout } : Cache).run moves) := by
  refine run_keeps Accounted moves (fun move member cache next does => ?_) _ ?_
  · exact accounted_move cache next move does (fun same => unasked (same ▸ member)) fun index same => patient index (same ▸ member)
  · refine ⟨filed_fresh root dialTimeout, tallied_fresh root dialTimeout, fun _ member => ?_, fun _ _ found => ?_⟩
    · cases member
    · cases found

theorem failed_dial (cache next after : Cache) (index : Nat) (errand : Errand) (stage : Errand.Stage) (failure : Failure)
    (turned : Turned cache next index errand stage after) (orderly : Orderly cache) (dialing : errand.isDialing = true)
    (fails : stage = .returned (.error failure)) :
    next.isFree = true ∧ next.entries = cache.entries ∧ next.find? errand.inquiry.key = none := by
  have entries : next.entries = cache.entries := by
    rcases turned_entries turned with ⟨_, same, _⟩ | ⟨line, _, kept, _⟩
    · exact same
    · cases fails.symm.trans kept
  refine ⟨(is_free_iff next).mpr fun rival member => ?_, entries, ?_⟩
  · obtain ⟨other, found⟩ := List.getElem?_of_mem member
    rcases turned_found turned other rival found with ⟨_, rfl⟩ | ⟨differs, before⟩
    · rw [fails]
      rfl
    · refine Bool.eq_false_iff.mpr fun rivals => differs ?_
      exact orderly.alone other index rival errand before turned.found rivals (dialing_holds errand dialing)
  · rw [find_none, entries]
    exact orderly.missing errand (List.mem_of_getElem? turned.found) dialing

-- While the lock is free no dial is under way, so that a follower that runs is that of a channel in the cache.
theorem free_followed (cache : Cache) (free : cache.isFree = true) (traced : Traced cache) (number : Nat) (line : Line)
    (found : cache.lines[number]? = some line) (followed : line.isFollowed = true) : ∃ key, (key, number) ∈ cache.entries := by
  rcases traced.followed number line found followed with entered | ⟨errand, member, holds⟩
  · exact entered
  · have idle := (is_free_iff cache).mp free errand member
    unfold Errand.line? at holds
    split at holds
    next line stage => simp [Errand.holdsLock, stage] at idle
    next line closer failure stage => simp [Errand.holdsLock, stage] at idle
    next => cases holds

def arriving (index : Nat) (inquiry : Inquiry) : List Move :=
  [.enter inquiry, .act index .checkOpen, .act index .lookUp, .act index .lock, .act index .lookAgain]

theorem next_caller_dials (cache : Cache) (inquiry : Inquiry) (free : cache.isFree = true) (unclosed : cache.closed = false)
    (missing : cache.find? inquiry.key = none) :
    (cache.run (arriving cache.errands.length inquiry)).stage? cache.errands.length = some (.dialing none) ∧
      (cache.run (arriving cache.errands.length inquiry)).dials = cache.dials + 1 := by
  have found : (cache.enter inquiry).errands[cache.errands.length]? = some { inquiry } := List.getElem?_concat_length
  have inside := (List.getElem?_eq_some_iff.mp found).1
  have vacant : (cache.enter inquiry).isFree = true := by
    rw [is_free_iff] at free ⊢
    intro errand member
    rcases List.mem_append.mp member with before | new
    · exact free errand before
    · rw [List.mem_singleton.mp new]
      rfl
  have reached : cache.run (arriving cache.errands.length inquiry) =
      ({ cache.enter inquiry with dials := cache.dials + 1 } : Cache).withErrand cache.errands.length inquiry (.dialing none) := by
    calc cache.run (arriving cache.errands.length inquiry)
        = ((((cache.enter inquiry).withErrand cache.errands.length inquiry .entered).step
            (.act cache.errands.length .checkOpen)).step (.act cache.errands.length .lookUp)).run
            [.act cache.errands.length .lock, .act cache.errands.length .lookAgain] := by
          rw [errand_set (cache.enter inquiry) _ inquiry .entered found]
          rfl
      _ = ((cache.enter inquiry).withErrand cache.errands.length inquiry .queued).run
            [.act cache.errands.length .lock, .act cache.errands.length .lookAgain] := by
          rw [entered_admitted _ _ inquiry inside unclosed, admitted_queued _ _ inquiry inside vacant missing]
      _ = _ := queued_dialing _ _ inquiry inside vacant missing
  rw [reached]
  exact ⟨congrArg (Option.map Errand.stage) (errand_found _ _ inquiry inside (.dialing none)), rfl⟩

theorem count_alone (errands : List Errand) (counts : Errand → Bool)
    (alone : ∀ (index other : Nat) (errand rival : Errand), errands[index]? = some errand → errands[other]? = some rival →
      counts errand = true → counts rival = true → index = other) : errands.countP counts ≤ 1 := by
  induction errands with
  | nil => exact Nat.zero_le 1
  | cons first rest ih =>
      rw [List.countP_cons]
      by_cases counted : counts first = true
      · have others : rest.countP counts = 0 := by
          refine List.countP_eq_zero.mpr fun rival member rivals => ?_
          obtain ⟨other, found⟩ := List.getElem?_of_mem member
          cases alone 0 (other + 1) first rival rfl found counted rivals
        rw [if_pos counted]
        omega
      · rw [if_neg counted]
        exact ih fun index other errand rival found present one two =>
          Nat.succ.inj (alone (index + 1) (other + 1) errand rival found present one two)

structure Undone (cache next : Cache) (errand : Errand) : Prop where
  entries : next.entries = cache.entries
  dials : next.dials = next.connected + next.failed
  unfollowed : ∀ number line, errand.line? = some number → next.lines[number]? = some line → line.isFollowed = false
  followed : ∀ (number : Nat) (line : Line), next.lines[number]? = some line → line.isFollowed = true →
    ∃ key, (key, number) ∈ next.entries
  again : ∀ inquiry : Inquiry, inquiry.key = errand.inquiry.key →
    (next.run (arriving next.errands.length inquiry)).stage? next.errands.length = some (.dialing none) ∧
      (next.run (arriving next.errands.length inquiry)).dials = next.dials + 1

theorem free_dials (cache : Cache) (free : cache.isFree = true) (tallied : Tallied cache) :
    cache.dials = cache.connected + cache.failed := by
  have nobody : cache.errands.countP Errand.isDialing = 0 := by
    refine List.countP_eq_zero.mpr fun errand member dialing => ?_
    cases ((is_free_iff cache).mp free errand member).symm.trans (dialing_holds errand dialing)
  rw [tallied.dials, nobody, Nat.add_zero]

theorem failed_undone (cache next : Cache) (index : Nat) (act : Act) (errand : Errand) (failure : Failure)
    (accounted : Accounted cache) (acted : cache.act? index act = some next) (found : cache.errands[index]? = some errand)
    (dialing : errand.isDialing = true) (fails : next.stage? index = some (.returned (.error failure))) :
    Undone cache next errand := by
  obtain ⟨other, stage, after, turned, drops⟩ := act_turns cache next index act acted
  cases found.symm.trans turned.found
  have failed : stage = .returned (.error failure) := by
    rw [stage?, turned_own turned] at fails
    exact Option.some.inj fails
  have undropped : stage ≠ .dropped := by simp [failed]
  obtain ⟨free, entries, missing⟩ :=
    failed_dial cache next after index errand stage failure turned accounted.filed.orderly dialing failed
  have tallied := tallied_turned cache next after index errand stage turned accounted.filed.unclosed undropped accounted.tallied
  have traced := traced_turned cache next after index errand stage turned undropped accounted.filed.orderly accounted.traced
  have unclosed := (filed_turned cache next after index errand stage turned accounted.filed).unclosed
  refine ⟨entries, free_dials next free tallied, fun number line holds present => ?_, free_followed next free traced, ?_⟩
  · have mine := accounted.traced.held errand (List.mem_of_getElem? found)
    rcases turn_answers turned.turn undropped mine number holds with still | kept | ended
    · rw [failed] at still
      cases still
    · cases failed.symm.trans kept
    · exact ended line (turned_lines turned ▸ present)
  · intro inquiry same
    exact next_caller_dials next inquiry free unclosed (same ▸ missing)

-- Before the cache is closed, each key has one channel for good, and nobody dials for a key that has one. Every dial is
-- counted as a success, which makes an entry, or as a failure, which leaves nothing behind and lets the next caller dial.
theorem one_dial_per_key (root : String) (dialTimeout : Nat) (moves : List Move) (unasked : .shutDown ∉ moves) :
    let cache := ({ root, dialTimeout } : Cache).run moves
    (cache.entries.map (·.1)).Nodup ∧
    (∀ errand ∈ cache.errands, ∀ line, errand.stage = .returned (.ok line) → (errand.inquiry.key, line) ∈ cache.entries) ∧
    (∀ errand ∈ cache.errands, ∀ rival ∈ cache.errands, errand.inquiry.key = rival.inquiry.key →
      ∀ line other, errand.stage = .returned (.ok line) → rival.stage = .returned (.ok other) → line = other) ∧
    (∀ later, .shutDown ∉ later → cache.entries <+: (cache.run later).entries ∧
      ∀ entry ∈ cache.entries, ∀ errand ∈ (cache.run later).errands, errand.inquiry.key = entry.1 → errand.isDialing = false) ∧
    ((∀ index, .act index .drop ∉ moves) →
      cache.dials = cache.connected + cache.failed + cache.errands.countP Errand.isDialing ∧
      cache.errands.countP Errand.isDialing ≤ 1 ∧
      cache.entries.length = cache.connected ∧
      cache.failed = cache.errands.countP Errand.hasFailed ∧
      ∀ index act next errand failure, cache.act? index act = some next → cache.errands[index]? = some errand →
        errand.isDialing = true → next.stage? index = some (.returned (.error failure)) → Undone cache next errand) := by
  intro cache
  have filed : Filed cache := filed_run root dialTimeout moves unasked
  refine ⟨filed.orderly.keys, filed.results, fun errand member rival present same line other returned matched => ?_,
    fun later still => ?_, fun patient => ?_⟩
  · have first := filed.results errand member line returned
    have second := filed.results rival present other matched
    exact congrArg Prod.snd (List.inj_on_of_nodup_map filed.orderly.keys first second same)
  · obtain ⟨after, grown⟩ := later_entries cache later still filed
    refine ⟨grown, fun entry member errand present same => Bool.eq_false_iff.mpr fun dialing => ?_⟩
    exact after.orderly.missing errand present dialing entry.2 (same ▸ grown.subset member)
  · have accounted : Accounted cache := accounted_run root dialTimeout moves unasked patient
    refine ⟨accounted.tallied.dials, ?_, filed.connected, accounted.tallied.failed,
      fun index act next errand failure acted found dialing fails =>
        failed_undone cache next index act errand failure accounted acted found dialing fails⟩
    exact count_alone cache.errands Errand.isDialing fun index other errand rival found present one two =>
      filed.orderly.alone index other errand rival found present (dialing_holds errand one) (dialing_holds rival two)

-- Two callers for one given endpoint, and a caller for a service of which no endpoint can be reached.
def given : Inquiry := { service := "billing", rpc := "ledger", endpoint := some "10.0.0.7:7000" }

def discovered : Inquiry := { service := "billing", rpc := "invoices" }

def dialed : List Move :=
  [.enter given, .enter given, .enter discovered, .act 0 .checkOpen, .act 1 .checkOpen, .act 0 .lookUp, .act 1 .lookUp,
    .act 1 .lock, .act 1 .lookAgain, .act 1 (.connect ∅ ⟨"", 0, false⟩), .act 1 .keep, .act 0 .lock, .act 0 .lookAgain]

def unreachable : List Move :=
  [.act 2 .checkOpen, .act 2 .lookUp, .act 2 .lock, .act 2 .lookAgain, .act 2 (.connect ∅ ⟨"", 0, false⟩),
    .act 2 (.giveUp (.dial (.timeout 2000000000))), .act 2 .hangUp, .act 2 .hangUp, .act 2 .hangUp, .endFollower 1]

theorem one_dial_per_key_past_failure :
    let cache := ({ root := "/svc", dialTimeout := 2000 } : Cache).run (dialed ++ unreachable)
    cache.stage? 0 = some (.returned (.ok 0)) ∧ cache.stage? 1 = some (.returned (.ok 0)) ∧
      cache.dials = cache.connected + cache.failed + cache.errands.countP Errand.isDialing ∧
      ∀ errand, cache.errands[2]? = some errand → Undone cache (cache.step (.act 2 .hangUp)) errand := by
  intro cache
  obtain ⟨_, _, _, _, counted⟩ := one_dial_per_key "/svc" 2000 (dialed ++ unreachable) (by simp [dialed, unreachable])
  obtain ⟨dials, _, _, _, undone⟩ := counted fun index => by simp [dialed, unreachable]
  have hanging : cache.errands[2]? =
      some { inquiry := discovered, stage := .hangingUp 1 .waiting (.dial (.timeout 2000000000)) } := by rfl
  refine ⟨by rfl, by rfl, dials, fun errand found => ?_⟩
  refine undone 2 .hangUp _ errand (.dial (.timeout 2000000000)) (by rfl) found ?_ (by rfl)
  cases hanging.symm.trans found
  rfl

end Cache

end ServiceHost
