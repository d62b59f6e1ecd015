import Mathlib.Data.List.Induction
import ServiceHost.Plane.Tracker
import ServiceHost.Proofs.History

set_option autoImplicit false

namespace ServiceHost

namespace Waiter

def isUnwoken : Waiter → Bool
  | .looked count woken => count != 0 && !woken
  | .parked woken => !woken
  | _ => false

-- How many steps a waiter has before it when the count stays zero.
def ahead : Waiter → Nat
  | .looked count _ => if count = 0 then 1 else 5
  | .parked _ => 4
  | .entered => 3
  | .registered _ => 2
  | .returned => 0

theorem ahead_bound (waiter : Waiter) : waiter.ahead ≤ 5 := by
  cases waiter with
  | looked count woken =>
      rw [ahead]
      split <;> omega
  | _ => simp [ahead]

theorem ahead_zero (waiter : Waiter) (done : waiter.ahead = 0) : waiter = .returned := by
  cases waiter with
  | looked count woken =>
      rw [ahead] at done
      split at done <;> cases done
  | returned => rfl
  | _ => cases done

theorem wake_woken (waiter : Waiter) : waiter.wake.isUnwoken = false := by cases waiter <;> simp [wake, isUnwoken]

theorem next_unwoken (count : UInt64) (waiter later : Waiter) (goes : waiter.next? count = some later)
    (unwoken : later.isUnwoken = true) : count ≠ 0 ∨ waiter.isUnwoken = true := by
  cases waiter with
  | entered =>
      cases goes
      cases unwoken
  | registered woken =>
      cases goes
      exact .inl (bne_iff_ne.mp (Bool.and_eq_true_iff.mp unwoken).1)
  | looked seen woken =>
      cases goes
      split at unwoken
      next => cases unwoken
      next above => exact .inr (Bool.and_eq_true_iff.mpr ⟨bne_iff_ne.mpr above, unwoken⟩)
  | parked woken =>
      cases woken <;> cases goes
      cases unwoken
  | returned => cases goes

theorem next_ahead (waiter : Waiter) (awake : waiter.isUnwoken = false) (going : waiter ≠ .returned) :
    ∃ later, waiter.next? 0 = some later ∧ later.ahead + 1 = waiter.ahead := by
  cases waiter with
  | entered => exact ⟨_, rfl, rfl⟩
  | registered woken => exact ⟨_, rfl, rfl⟩
  | looked seen woken =>
      refine ⟨_, rfl, ?_⟩
      by_cases zero : seen = 0 <;> simp [zero, ahead]
  | parked woken =>
      cases woken with
      | false => cases awake
      | true => exact ⟨_, rfl, rfl⟩
  | returned => exact absurd rfl going

end Waiter

namespace Tracker

inductive Move where
  | track
  | decrement (guard : Nat)
  | notify
  | wait
  | advance (waiter : Nat)
deriving DecidableEq

def Move.isTrack : Move → Bool
  | .track => true
  | _ => false

def Move.isDecrement : Move → Bool
  | .decrement _ => true
  | _ => false

def move? (tracker : Tracker) : Move → Option Tracker
  | .track => if tracker.active < maxGuards then some tracker.track.2 else none
  | .decrement guard => tracker.decrement guard
  | .notify => tracker.notify
  | .wait => some tracker.wait
  | .advance waiter => tracker.advance waiter

def step (tracker : Tracker) (move : Move) : Tracker := (tracker.move? move).getD tracker

def run (tracker : Tracker) (moves : List Move) : Tracker := moves.foldl step tracker

def performed (kind : Move → Bool) (tracker : Tracker) : List Move → Nat
  | [] => 0
  | move :: rest => (kind move && (tracker.move? move).isSome).toNat + performed kind (tracker.step move) rest

-- The latest step of the waiter was a look at the count after it had registered, and this is what it found.
def HasSeen (index : Nat) (count : UInt64) (moves : List Move) : Prop :=
  ∃ earlier later, moves = earlier ++ .advance index :: later ∧ .advance index ∉ later ∧
    (({} : Tracker).run earlier).count = count ∧
    ∃ woken, (({} : Tracker).run earlier).waiters[index]? = some (.registered woken)

inductive Does (tracker : Tracker) : Move → Tracker → Prop where
  | tracked : tracker.active < maxGuards → Does tracker .track tracker.track.2
  | decremented (guard : Nat) : guard ∈ tracker.live →
      Does tracker (.decrement guard) { tracker with
        live := tracker.live.erase guard
        count := tracker.count - 1
        notifying := if tracker.count = 1 then tracker.notifying + 1 else tracker.notifying }
  | notified : tracker.notifying ≠ 0 →
      Does tracker .notify { tracker with notifying := tracker.notifying - 1, waiters := tracker.waiters.map Waiter.wake }
  | waits : Does tracker .wait tracker.wait
  | advanced (index : Nat) (waiter later : Waiter) : tracker.waiters[index]? = some waiter →
      waiter.next? tracker.count = some later →
      Does tracker (.advance index) { tracker with waiters := tracker.waiters.set index later }

theorem move_does (tracker next : Tracker) (move : Move) (moved : tracker.move? move = some next) : Does tracker move next := by
  cases move with
  | track =>
      simp only [move?] at moved
      split at moved <;> cases moved
      exact .tracked ‹_›
  | decrement guard =>
      simp only [move?, decrement] at moved
      split at moved <;> cases moved
      exact .decremented guard ‹_›
  | notify =>
      simp only [move?, notify] at moved
      split at moved <;> cases moved
      exact .notified ‹_›
  | wait =>
      cases moved
      exact .waits
  | advance index =>
      obtain ⟨later, goes, rfl⟩ := Option.map_eq_some_iff.mp moved
      obtain ⟨waiter, found, goes⟩ := Option.bind_eq_some_iff.mp goes
      exact .advanced index waiter later found goes

-- The count is right, and whoever sleeps unwoken has a count above zero or a drop about to notify to rely on.
structure Sound (tracker : Tracker) : Prop where
  limited : tracker.active ≤ maxGuards
  counted : tracker.count.toNat = tracker.active
  minded : ∀ waiter ∈ tracker.waiters, waiter.isUnwoken = true → tracker.count ≠ 0 ∨ tracker.notifying ≠ 0

section Step

variable {tracker next : Tracker} {move : Move}

theorem zero_iff (counted : tracker.count.toNat = tracker.active) : tracker.count = 0 ↔ tracker.active = 0 := by
  rw [← counted]
  exact (UInt64.toNat_inj (b := 0)).symm

theorem track_active : tracker.track.2.active = tracker.active + 1 := List.length_append

theorem erase_active (guard : Nat) (alive : guard ∈ tracker.live) : (tracker.live.erase guard).length + 1 = tracker.active := by
  rw [List.length_erase_of_mem alive]
  exact Nat.sub_add_cancel (List.length_pos_of_mem alive)

theorem track_count (counted : tracker.count = .ofNat tracker.active) :
    tracker.track.2.count = .ofNat tracker.track.2.active := by
  rw [track_active, UInt64.ofNat_add, ← counted]
  rfl

theorem erase_count (guard : Nat) (alive : guard ∈ tracker.live) (counted : tracker.count = .ofNat tracker.active) :
    tracker.count - 1 = .ofNat (tracker.live.erase guard).length := by
  rw [counted, ← erase_active guard alive, UInt64.ofNat_add]
  exact UInt64.add_sub_cancel _ _

theorem drop_count (guard : Nat) (counted : tracker.count = .ofNat tracker.active) :
    ((tracker.drop guard).getD tracker).count = .ofNat ((tracker.drop guard).getD tracker).active := by
  by_cases alive : guard ∈ tracker.live
  · have fewer := erase_count guard alive counted
    simp only [drop, decrement, if_pos alive, Option.map_some, Option.getD_some]
    split
    next =>
      rw [notify]
      split <;> exact fewer
    next => exact fewer
  · simpa only [drop, decrement, if_neg alive, Option.map_none, Option.getD_none] using counted

-- The word does not overflow, as the guards are too few.
theorem count_exact (counted : tracker.count = .ofNat tracker.active) (limited : tracker.active ≤ maxGuards) :
    tracker.count.toNat = tracker.active := by
  rw [counted]
  exact UInt64.toNat_ofNat_of_lt' (Nat.lt_of_le_of_lt limited (by decide))

theorem counted_does (does : Does tracker move next) (limited : tracker.active ≤ maxGuards)
    (counted : tracker.count = .ofNat tracker.active) : next.active ≤ maxGuards ∧ next.count = .ofNat next.active := by
  cases does with
  | tracked room => exact ⟨Nat.le_trans (Nat.le_of_eq track_active) room, track_count counted⟩
  | decremented guard alive => exact ⟨Nat.le_trans List.length_erase_le limited, erase_count guard alive counted⟩
  | _ => exact ⟨limited, counted⟩

theorem minded_does (does : Does tracker move next) (sound : Sound tracker) (counted : next.count.toNat = next.active)
    (waiter : Waiter) (member : waiter ∈ next.waiters) (unwoken : waiter.isUnwoken = true) :
    next.count ≠ 0 ∨ next.notifying ≠ 0 := by
  cases does with
  | tracked room =>
      refine .inl fun zero => ?_
      cases track_active.symm.trans ((zero_iff counted).mp zero)
  | decremented guard alive =>
      -- Who relied on the count relies on this drop if it was the last one.
      by_cases last : tracker.count = 1
      · simp [last]
      · refine .inl fun zero => last (UInt64.toNat_inj.mp ?_)
        have none : (tracker.live.erase guard).length = 0 := (zero_iff counted).mp zero
        rw [sound.counted, ← erase_active guard alive, none]
        rfl
  | notified due =>
      obtain ⟨before, -, rfl⟩ := List.mem_map.mp member
      cases before.wake_woken.symm.trans unwoken
  | waits =>
      rcases List.mem_append.mp member with before | new
      · exact sound.minded waiter before unwoken
      · rw [List.mem_singleton.mp new] at unwoken
        cases unwoken
  | advanced index before later found goes =>
      rcases List.mem_or_eq_of_mem_set member with there | rfl
      · exact sound.minded waiter there unwoken
      · rcases Waiter.next_unwoken tracker.count before waiter goes unwoken with above | asleep
        · exact .inl above
        · exact sound.minded before (List.mem_of_getElem? found) asleep

theorem sound_does (does : Does tracker move next) (sound : Sound tracker) : Sound next := by
  obtain ⟨fewer, word⟩ := counted_does does sound.limited (by rw [← sound.counted, UInt64.ofNat_toNat])
  have counted := count_exact word fewer
  exact ⟨fewer, counted, minded_does does sound counted⟩

theorem active_does (does : Does tracker move next) :
    next.active + move.isDecrement.toNat = tracker.active + move.isTrack.toNat := by
  cases does with
  | tracked room => exact track_active
  | decremented guard alive => exact erase_active guard alive
  | _ => rfl

inductive Comes (tracker : Tracker) (move : Move) (index : Nat) : Waiter → Prop where
  | arrived : tracker.waiters[index]? = none → Comes tracker move index .entered
  | stayed (waiter : Waiter) : tracker.waiters[index]? = some waiter → move ≠ .advance index → Comes tracker move index waiter
  | woken (waiter : Waiter) : tracker.waiters[index]? = some waiter → move ≠ .advance index → Comes tracker move index waiter.wake
  | stepped (waiter later : Waiter) : tracker.waiters[index]? = some waiter → move = .advance index →
      waiter.next? tracker.count = some later → Comes tracker move index later

theorem waiter_comes (does : Does tracker move next) (index : Nat) (waiter : Waiter)
    (found : next.waiters[index]? = some waiter) : Comes tracker move index waiter := by
  cases does with
  | tracked => exact .stayed waiter found nofun
  | decremented => exact .stayed waiter found nofun
  | notified =>
      obtain ⟨before, there, rfl⟩ := Option.map_eq_some_iff.mp ((List.getElem?_map ..).symm.trans found)
      exact .woken before there nofun
  | waits =>
      rw [wait, List.getElem?_append] at found
      split at found
      next => exact .stayed waiter found nofun
      next beyond =>
        rw [List.mem_singleton.mp (List.mem_of_getElem? found)]
        exact .arrived (List.getElem?_eq_none (Nat.le_of_not_lt beyond))
  | advanced other before later there goes =>
      by_cases same : index = other
      · subst same
        rw [List.getElem?_set_self (List.getElem?_eq_some_iff.mp there).1] at found
        cases found
        exact .stepped before waiter there rfl goes
      · rw [List.getElem?_set_ne (Ne.symm same)] at found
        exact .stayed waiter found fun also => same (Move.advance.inj also).symm

end Step

theorem sound_step (tracker : Tracker) (move : Move) (sound : Sound tracker) : Sound (tracker.step move) := by
  unfold step
  cases moved : tracker.move? move with
  | none => exact sound
  | some next => exact sound_does (move_does tracker next move moved) sound

theorem sound_run (tracker : Tracker) (moves : List Move) (sound : Sound tracker) : Sound (tracker.run moves) := by
  induction moves generalizing tracker with
  | nil => exact sound
  | cons move rest ih => exact ih (tracker.step move) (sound_step tracker move sound)

theorem sound_fresh : Sound {} := ⟨Nat.zero_le _, rfl, fun _ member => nomatch member⟩

theorem active_step (tracker : Tracker) (move : Move) :
    (tracker.step move).active + (move.isDecrement && (tracker.move? move).isSome).toNat =
      tracker.active + (move.isTrack && (tracker.move? move).isSome).toNat := by
  unfold step
  cases moved : tracker.move? move with
  | none => simp
  | some next => simpa using active_does (move_does tracker next move moved)

theorem active_run (tracker : Tracker) (moves : List Move) :
    (tracker.run moves).active + tracker.performed Move.isDecrement moves =
      tracker.active + tracker.performed Move.isTrack moves := by
  induction moves generalizing tracker with
  | nil => rfl
  | cons move rest ih =>
      have first := active_step tracker move
      have later := ih (tracker.step move)
      have same : tracker.run (move :: rest) = (tracker.step move).run rest := rfl
      rw [same, performed, performed]
      omega

def Vouched (index : Nat) (moves : List Move) : Waiter → Prop
  | .looked count _ => HasSeen index count moves
  | .returned => Happened (.advance index) (HasSeen index 0) moves
  | _ => True

theorem run_snoc (tracker : Tracker) (moves : List Move) (move : Move) :
    tracker.run (moves ++ [move]) = (tracker.run moves).step move := List.foldl_concat ..

theorem seen_later (index : Nat) (count : UInt64) (moves : List Move) (move : Move) (aside : move ≠ .advance index)
    (seen : HasSeen index count moves) : HasSeen index count (moves ++ [move]) := by
  obtain ⟨earlier, later, rfl, idle, look⟩ := seen
  refine ⟨earlier, later ++ [move], by simp, fun member => ?_, look⟩
  rcases List.mem_append.mp member with before | last
  · exact idle before
  · exact aside (List.mem_singleton.mp last).symm

theorem vouched_later (index : Nat) (moves : List Move) (move : Move) (waiter : Waiter) (aside : move ≠ .advance index)
    (vouched : Vouched index moves waiter) : Vouched index (moves ++ [move]) waiter := by
  cases waiter with
  | looked count woken => exact seen_later index count moves move aside vouched
  | returned => exact (happened_snoc _ move _ moves).mpr (.inl vouched)
  | _ => trivial

theorem vouched_wake (index : Nat) (moves : List Move) (waiter : Waiter) (vouched : Vouched index moves waiter) :
    Vouched index moves waiter.wake := by
  cases waiter <;> exact vouched

theorem vouched_next (index : Nat) (moves : List Move) (waiter later : Waiter)
    (found : (({} : Tracker).run moves).waiters[index]? = some waiter)
    (goes : waiter.next? (({} : Tracker).run moves).count = some later) (vouched : Vouched index moves waiter) :
    Vouched index (moves ++ [.advance index]) later := by
  cases waiter with
  | entered =>
      cases goes
      trivial
  | registered woken =>
      cases goes
      exact ⟨moves, [], rfl, nofun, rfl, woken, found⟩
  | looked seen woken =>
      cases goes
      split
      next zero =>
        subst zero
        exact (happened_snoc _ _ _ moves).mpr (.inr ⟨rfl, vouched⟩)
      next => trivial
  | parked woken =>
      cases woken <;> cases goes
      trivial
  | returned => cases goes

theorem vouched_run (index : Nat) (moves : List Move) (waiter : Waiter)
    (found : (({} : Tracker).run moves).waiters[index]? = some waiter) : Vouched index moves waiter := by
  induction moves using List.reverseRecOn generalizing waiter with
  | nil => cases found
  | append_singleton moves move ih =>
      rw [run_snoc, step] at found
      cases moved : (({} : Tracker).run moves).move? move with
      | some next =>
          rw [moved, Option.getD_some] at found
          cases waiter_comes (move_does _ next move moved) index waiter found with
          | arrived => trivial
          | stayed _ before aside => exact vouched_later index moves move waiter aside (ih waiter before)
          | woken waiter before aside =>
              exact vouched_wake index _ waiter (vouched_later index moves move waiter aside (ih waiter before))
          | stepped before _ there own goes =>
              subst own
              exact vouched_next index moves before waiter there goes (ih before there)
      | none =>
          rw [moved, Option.getD_none] at found
          have before := ih waiter found
          by_cases own : move = .advance index
          -- Only a waiter that has looked must not have taken a further step, and it could have.
          · subst own
            cases waiter with
            | looked seen woken => simp [move?, advance, found, Waiter.next?] at moved
            | returned => exact (happened_snoc _ _ _ moves).mpr (.inl before)
            | _ => trivial
          · exact vouched_later index moves move waiter own before

structure Quiet (tracker : Tracker) : Prop where
  sound : Sound tracker
  zero : tracker.count = 0
  told : tracker.notifying = 0

theorem quiet_awake (tracker : Tracker) (quiet : Quiet tracker) (waiter : Waiter) (member : waiter ∈ tracker.waiters) :
    waiter.isUnwoken = false :=
  Bool.eq_false_iff.mpr fun unwoken => (quiet.sound.minded waiter member unwoken).elim (· quiet.zero) (· quiet.told)

-- Then only waiters move, and each move brings one of them nearer to its end.
theorem quiet_does (tracker next : Tracker) (move : Move) (quiet : Quiet tracker) (untracked : move ≠ .track)
    (does : Does tracker move next) : next.count = 0 ∧ next.notifying = 0 ∧
      ∀ (index : Nat) (waiter : Waiter), tracker.waiters[index]? = some waiter →
        ∃ later, next.waiters[index]? = some later ∧ later.ahead + (if move = .advance index then 1 else 0) ≤ waiter.ahead := by
  cases does with
  | tracked => exact absurd rfl untracked
  | decremented guard alive =>
      rw [List.eq_nil_of_length_eq_zero ((zero_iff quiet.sound.counted).mp quiet.zero)] at alive
      cases alive
  | notified due => exact absurd quiet.told due
  | waits =>
      refine ⟨quiet.zero, quiet.told, fun index waiter found => ⟨waiter, ?_, by simp⟩⟩
      exact (List.getElem?_append_left (List.getElem?_eq_some_iff.mp found).1).trans found
  | advanced other before later there goes =>
      refine ⟨quiet.zero, quiet.told, fun index waiter found => ?_⟩
      by_cases same : index = other
      · subst same
        obtain rfl : waiter = before := Option.some.inj (found.symm.trans there)
        have going : waiter ≠ .returned := fun gone => by rw [gone] at goes; cases goes
        obtain ⟨_, next, nearer⟩ := waiter.next_ahead (quiet_awake tracker quiet waiter (List.mem_of_getElem? found)) going
        rw [quiet.zero] at goes
        cases goes.symm.trans next
        exact ⟨later, List.getElem?_set_self (List.getElem?_eq_some_iff.mp found).1, by simp [nearer]⟩
      · exact ⟨waiter, (List.getElem?_set_ne (Ne.symm same)).trans found, by simp [Ne.symm same]⟩

theorem quiet_step (tracker : Tracker) (move : Move) (quiet : Quiet tracker) (untracked : move ≠ .track) :
    Quiet (tracker.step move) := by
  have sound := sound_step tracker move quiet.sound
  unfold step at sound ⊢
  cases moved : tracker.move? move with
  | none => exact quiet
  | some next =>
      rw [moved] at sound
      obtain ⟨zero, told, -⟩ := quiet_does tracker next move quiet untracked (move_does tracker next move moved)
      exact ⟨sound, zero, told⟩

theorem quiet_nearer (tracker : Tracker) (move : Move) (quiet : Quiet tracker) (untracked : move ≠ .track) (index : Nat)
    (waiter : Waiter) (found : tracker.waiters[index]? = some waiter) :
    ∃ later, (tracker.step move).waiters[index]? = some later ∧
      later.ahead ≤ waiter.ahead - (if move = .advance index then 1 else 0) := by
  unfold step
  cases moved : tracker.move? move with
  | some next =>
      obtain ⟨-, -, nearer⟩ := quiet_does tracker next move quiet untracked (move_does tracker next move moved)
      obtain ⟨later, there, fewer⟩ := nearer index waiter found
      exact ⟨later, there, Nat.le_sub_of_add_le fewer⟩
  | none =>
      refine ⟨waiter, found, ?_⟩
      split
      next own =>
        subst own
        by_cases gone : waiter = .returned
        · simp [gone, Waiter.ahead]
        · obtain ⟨later, goes, -⟩ := waiter.next_ahead (quiet_awake tracker quiet waiter (List.mem_of_getElem? found)) gone
          simp [move?, advance, found, quiet.zero, goes] at moved
      next => exact Nat.le_refl _

theorem quiet_run (tracker : Tracker) (moves : List Move) (quiet : Quiet tracker) (untracked : .track ∉ moves) (index : Nat)
    (waiter : Waiter) (found : tracker.waiters[index]? = some waiter) :
    ∃ later, (tracker.run moves).waiters[index]? = some later ∧ later.ahead ≤ waiter.ahead - moves.count (.advance index) := by
  induction moves generalizing tracker waiter with
  | nil => exact ⟨waiter, found, Nat.le_refl _⟩
  | cons move rest ih =>
      have other : move ≠ .track := fun same => untracked (same ▸ List.mem_cons_self)
      obtain ⟨between, there, nearer⟩ := quiet_nearer tracker move quiet other index waiter found
      obtain ⟨later, reached, further⟩ := ih (tracker.step move) (quiet_step tracker move quiet other)
        (fun member => untracked (List.mem_cons_of_mem move member)) between there
      refine ⟨later, reached, ?_⟩
      rw [List.count_cons]
      simp only [beq_iff_eq]
      omega

theorem drop_steps (tracker : Tracker) (guard : Nat) (alive : guard ∈ tracker.live) :
    tracker.drop guard = some (tracker.run (.decrement guard :: if tracker.count = 1 then [.notify] else [])) := by
  rw [drop, decrement, if_pos alive, Option.map_some, run, List.foldl_cons, step, move?, decrement, if_pos alive, Option.getD_some]
  split <;> rfl

theorem wait_alone (tracker : Tracker) (sound : Sound tracker) :
    tracker.run (.wait :: List.replicate 3 (.advance tracker.waiters.length)) =
      { tracker with waiters := tracker.waiters ++ [if tracker.isIdle then .returned else .parked false] } := by
  have idle : tracker.isIdle = true ↔ tracker.count = 0 := decide_eq_true_iff.trans (zero_iff sound.counted).symm
  have last (waiter later : Waiter) (goes : waiter.next? tracker.count = some later) :
      ({ tracker with waiters := tracker.waiters ++ [waiter] } : Tracker).step (.advance tracker.waiters.length) =
        { tracker with waiters := tracker.waiters ++ [later] } := by
    simp [step, move?, advance, goes]
  have called : tracker.step .wait = { tracker with waiters := tracker.waiters ++ [.entered] } := rfl
  simp only [run, List.foldl_cons, List.replicate, List.foldl_nil, called]
  rw [last .entered _ rfl, last (.registered false) _ rfl, last (.looked tracker.count false) _ rfl]
  simp only [idle]

-- Over every order of the steps. The count is that of the guards that are alive, those that were made less those whose drop
-- has taken its first step. Whoever has returned had registered and then found the count at zero. And when the count is zero
-- and no drop is about to notify, nobody sleeps unwoken, so that everyone returns within a few steps of its own, whatever the
-- others do short of making a new guard. A drop takes its two steps, and whoever finds no guard left does not wait.
theorem waiting_misses_no_wake (moves : List Move) :
    let tracker := ({} : Tracker).run moves
    tracker.count.toNat + performed Move.isDecrement {} moves = performed Move.isTrack {} moves ∧
      tracker.count.toNat = tracker.active ∧
      (∀ index, tracker.waiters[index]? = some .returned → Happened (.advance index) (HasSeen index 0) moves) ∧
      (tracker.count = 0 → tracker.notifying = 0 → .parked false ∉ tracker.waiters ∧
        ∀ more, .track ∉ more → ∀ index < tracker.waiters.length, 5 ≤ more.count (.advance index) →
          (tracker.run more).waiters[index]? = some .returned) ∧
      (∀ guard ∈ tracker.live,
        tracker.drop guard = some (tracker.run (.decrement guard :: if tracker.count = 1 then [.notify] else []))) ∧
      tracker.run (.wait :: List.replicate 3 (.advance tracker.waiters.length)) =
        { tracker with waiters := tracker.waiters ++ [if tracker.isIdle then .returned else .parked false] } := by
  intro tracker
  have sound : Sound tracker := sound_run {} moves sound_fresh
  have counts : tracker.active + performed Move.isDecrement {} moves = performed Move.isTrack {} moves :=
    (active_run {} moves).trans (Nat.zero_add _)
  refine ⟨sound.counted ▸ counts, sound.counted, fun index gone => vouched_run index moves .returned gone,
    fun zero told => ?_, tracker.drop_steps, tracker.wait_alone sound⟩
  have quiet : Quiet tracker := ⟨sound, zero, told⟩
  refine ⟨fun asleep => (nomatch quiet_awake tracker quiet _ asleep), fun more untracked index inside often => ?_⟩
  obtain ⟨later, there, nearer⟩ :=
    quiet_run tracker more quiet untracked index _ (List.getElem?_eq_getElem inside)
  have bound := tracker.waiters[index].ahead_bound
  rw [there, later.ahead_zero (by omega)]

-- The last guard goes after the waiter has looked and before it sleeps. It is woken, finds a new guard, and that one goes too
-- while it sleeps.
def flicker : List Move :=
  [.track, .wait, .advance 0, .advance 0, .decrement 0, .notify, .advance 0, .track, .advance 0, .advance 0, .advance 0,
    .advance 0, .decrement 1, .notify]

theorem waiting_misses_no_wake_flicker :
    let tracker := ({} : Tracker).run flicker
    let woken := List.replicate 5 (.advance 0)
    (({} : Tracker).run flicker.dropLast).waiters = [.parked false] ∧ tracker.waiters = [.parked true] ∧
      performed Move.isTrack {} flicker = 2 ∧ performed Move.isDecrement {} flicker = 2 ∧
      (tracker.run woken).waiters[0]? = some .returned ∧ Happened (.advance 0) (HasSeen 0 0) (flicker ++ woken) := by
  intro tracker woken
  obtain ⟨-, -, -, wakes, -⟩ := waiting_misses_no_wake flicker
  have returned := (wakes (by decide +kernel) (by decide +kernel)).2 woken (by decide +kernel) 0 (by decide +kernel)
    (by decide +kernel)
  have again : (({} : Tracker).run (flicker ++ woken)).waiters[0]? = some .returned := by
    rwa [run, List.foldl_append]
  exact ⟨by decide +kernel, by decide +kernel, by decide +kernel, by decide +kernel, returned,
    (waiting_misses_no_wake (flicker ++ woken)).2.2.1 0 again⟩

end Tracker

end ServiceHost
