import ServiceHost.Proofs.Discovery.Traffic

set_option autoImplicit false

namespace ServiceHost

structure Parting where
  line : Line
  closers : List Line.Closer := []

namespace Parting

inductive Move where
  | call
  | step (index : Nat)
  | work (work : Line.Work)
  | endFollower

def move? (parting : Parting) : Move → Option Parting
  | .call => some { parting with closers := parting.closers ++ [.entered] }
  | .step index => do
      let closer ← parting.closers[index]?
      let (later, line) ← closer.step? parting.line
      return { line, closers := parting.closers.set index later }
  | .work work => some { parting with line := parting.line.work work }
  | .endFollower => if parting.line.signalled then some { parting with line := parting.line.stopFollower } else none

def step (parting : Parting) (move : Move) : Parting := (parting.move? move).getD parting

def run (parting : Parting) (moves : List Move) : Parting := moves.foldl step parting

def marks? (parting : Parting) : Move → Option Nat
  | .step index =>
      if parting.closers[index]? = some .entered ∧ parting.line.channel.closed = false then some index else none
  | _ => none

def leader (parting : Parting) (leader : Option Nat) : List Move → Option Nat
  | [] => leader
  | move :: rest => (parting.step move).leader ((parting.marks? move).or leader) rest

end Parting

namespace Line

inductive Closer.Step (line : Line) : Closer → Closer → Line → Prop where
  | finds (closed : line.channel.closed = true) : Step line .entered .returned line
  | marks (unclosed : line.channel.closed = false) : Step line .entered .marked { line with channel := line.channel.close }
  | signals : Step line .marked .signalled { line with signalled := true }
  | takes : Step line .signalled .waiting { line with handle := false }
  | misses (missing : line.handle = false) : Step line .signalled .returned line
  | waits (ended : line.isFollowed = false) : Step line .waiting .returned line

theorem closer_cases (line after : Line) (closer later : Closer) (stepped : closer.step? line = some (later, after)) :
    Closer.Step line closer later after := by
  cases closer with
  | entered =>
      simp only [Closer.step?] at stepped
      split at stepped <;> cases stepped
      · exact .finds ‹_›
      · exact .marks (Bool.eq_false_iff.mpr ‹_›)
  | marked =>
      cases stepped
      exact .signals
  | signalled =>
      simp only [Closer.step?] at stepped
      split at stepped <;> cases stepped
      · exact .takes
      · exact .misses (Bool.eq_false_iff.mpr ‹_›)
  | waiting =>
      simp only [Closer.step?] at stepped
      split at stepped <;> cases stepped
      exact .waits (Bool.eq_false_iff.mpr ‹_›)
  | returned => cases stepped

-- What whoever has marked the channel can rely on. The handle on the follower is kept for it until it waits.
def Awaits (line : Line) : Closer → Prop
  | .entered => False
  | .marked => line.isFollowed = true → line.handle = true
  | .signalled => line.isFollowed = true → line.handle = true
  | .waiting => True
  | .returned => line.isFollowed = false

theorem awaits_calms (line after : Line) (closer : Closer) (calms : line.Calms after) (awaits : line.Awaits closer) :
    after.Awaits closer := by
  cases closer with
  | entered => exact awaits
  | marked => exact fun followed => calms.handle.trans (awaits (calms.followed followed))
  | signalled => exact fun followed => calms.handle.trans (awaits (calms.followed followed))
  | waiting => trivial
  | returned =>
      have ended : line.isFollowed = false := awaits
      exact Bool.eq_false_iff.mpr fun followed => nomatch ended.symm.trans (calms.followed followed)

end Line

namespace Parting

-- How far the closing of a channel has got: nobody has marked it, or one has, and all others have found it marked or have yet to
-- look.
inductive Phase (parting : Parting) : Option Nat → Prop where
  | unmarked (unclosed : parting.line.channel.closed = false) (early : ∀ closer ∈ parting.closers, closer = .entered)
      (held : parting.line.isFollowed = true → parting.line.handle = true) : Phase parting none
  | marked (leader : Nat) (closer : Line.Closer) (closed : parting.line.channel.closed = true)
      (found : parting.closers[leader]? = some closer) (awaits : parting.line.Awaits closer)
      (others : ∀ (other : Nat) (rival : Line.Closer), other ≠ leader → parting.closers[other]? = some rival →
        rival = .entered ∨ rival = .returned) : Phase parting (some leader)

theorem phase_calms (parting : Parting) (line : Line) (leader : Option Nat) (calms : parting.line.Calms line)
    (phase : Phase parting leader) : Phase { parting with line } leader := by
  cases phase with
  | unmarked unclosed early held =>
      exact .unmarked (calms.closed.trans unclosed) early fun followed => calms.handle.trans (held (calms.followed followed))
  | marked leader closer closed found awaits others =>
      exact .marked leader closer (calms.closed.trans closed) found (Line.awaits_calms _ line closer calms awaits) others

section Step

variable (parting : Parting) (index : Nat) (closer later : Line.Closer) (line : Line)
  (present : parting.closers[index]? = some closer) (stepped : Line.Closer.Step parting.line closer later line)

include present stepped

theorem phase_begins (unclosed : parting.line.channel.closed = false) (early : ∀ closer ∈ parting.closers, closer = .entered)
    (held : parting.line.isFollowed = true → parting.line.handle = true) :
    Phase { line, closers := parting.closers.set index later } (some index) := by
  obtain rfl := early closer (List.mem_of_getElem? present)
  cases stepped with
  | finds closed => exact nomatch unclosed.symm.trans closed
  | marks =>
      have set := List.getElem?_set_self (a := Line.Closer.marked) (List.getElem?_eq_some_iff.mp present).1
      refine .marked index .marked rfl set held fun other rival apart found => ?_
      rw [List.getElem?_set_ne (Ne.symm apart)] at found
      exact .inl (early rival (List.mem_of_getElem? found))

theorem phase_leads (closed : parting.line.channel.closed = true) (awaits : parting.line.Awaits closer)
    (others : ∀ (other : Nat) (rival : Line.Closer), other ≠ index → parting.closers[other]? = some rival →
      rival = .entered ∨ rival = .returned) : Phase { line, closers := parting.closers.set index later } (some index) := by
  have set := List.getElem?_set_self (a := later) (List.getElem?_eq_some_iff.mp present).1
  have rest (other : Nat) (rival : Line.Closer) (apart : other ≠ index)
      (there : (parting.closers.set index later)[other]? = some rival) : rival = .entered ∨ rival = .returned := by
    rw [List.getElem?_set_ne (Ne.symm apart)] at there
    exact others other rival apart there
  cases stepped with
  | finds => exact awaits.elim
  | marks => exact awaits.elim
  | signals => exact .marked index _ closed set awaits rest
  | takes => exact .marked index _ closed set trivial rest
  | misses missing =>
      have ended : parting.line.isFollowed = false :=
        Bool.eq_false_iff.mpr fun followed => nomatch missing.symm.trans (awaits followed)
      exact .marked index _ closed set ended rest
  | waits ended => exact .marked index _ closed set ended rest

theorem phase_finds (leader : Nat) (mine : Line.Closer) (closed : parting.line.channel.closed = true)
    (found : parting.closers[leader]? = some mine) (awaits : parting.line.Awaits mine) (apart : index ≠ leader)
    (others : ∀ (other : Nat) (rival : Line.Closer), other ≠ leader → parting.closers[other]? = some rival →
      rival = .entered ∨ rival = .returned) : Phase { line, closers := parting.closers.set index later } (some leader) := by
  rcases others index closer apart present with rfl | rfl
  · cases stepped with
    | marks unclosed => exact nomatch unclosed.symm.trans closed
    | finds =>
        refine .marked leader mine closed ((List.getElem?_set_ne apart).trans found) awaits fun other rival aside there => ?_
        by_cases same : index = other
        · subst same
          rw [List.getElem?_set_self (List.getElem?_eq_some_iff.mp present).1] at there
          exact .inr (Option.some.inj there).symm
        · rw [List.getElem?_set_ne same] at there
          exact others other rival aside there
  · cases stepped

theorem phase_step (leader : Option Nat) (phase : Phase parting leader) :
    Phase { line, closers := parting.closers.set index later } ((parting.marks? (.step index)).or leader) := by
  cases phase with
  | unmarked unclosed early held =>
      have marks : parting.marks? (.step index) = some index := by
        rw [early closer (List.mem_of_getElem? present)] at present
        exact if_pos ⟨present, unclosed⟩
      rw [marks, Option.some_or]
      exact phase_begins parting index closer later line present stepped unclosed early held
  | marked leader mine closed found awaits others =>
      have marks : parting.marks? (.step index) = none := if_neg fun both => nomatch both.2.symm.trans closed
      rw [marks, Option.none_or]
      by_cases own : index = leader
      · subst own
        cases found.symm.trans present
        exact phase_leads parting index closer later line present stepped closed awaits others
      · exact phase_finds parting index closer later line present stepped leader mine closed found awaits own others

end Step

theorem step_cases (parting next : Parting) (index : Nat) (moved : parting.move? (.step index) = some next) :
    ∃ closer later line, parting.closers[index]? = some closer ∧ Line.Closer.Step parting.line closer later line ∧
      next = { line, closers := parting.closers.set index later } := by
  simp only [move?, Option.bind_eq_bind, Option.bind_eq_some_iff, Prod.exists] at moved
  obtain ⟨closer, present, later, line, stepped, same⟩ := moved
  exact ⟨closer, later, line, present, Line.closer_cases _ line closer later stepped, (Option.some.inj same).symm⟩

theorem phase_move (parting next : Parting) (leader : Option Nat) (move : Move) (moved : parting.move? move = some next)
    (phase : Phase parting leader) : Phase next ((parting.marks? move).or leader) := by
  cases move with
  | step index =>
      obtain ⟨closer, later, line, present, stepped, rfl⟩ := step_cases parting next index moved
      exact phase_step parting index closer later line present stepped leader phase
  | work work =>
      cases moved
      exact phase_calms parting _ leader (parting.line.work_calms work) phase
  | endFollower =>
      simp only [move?] at moved
      split at moved <;> cases moved
      exact phase_calms parting _ leader (Line.calms_stop parting.line) phase
  | call =>
      cases moved
      cases phase with
      | unmarked unclosed early held =>
          refine .unmarked unclosed (fun closer member => ?_) held
          exact (List.mem_append.mp member).elim (early closer) List.mem_singleton.mp
      | marked leader closer closed found awaits others =>
          have inside := (List.getElem?_eq_some_iff.mp found).1
          refine .marked leader closer closed ((List.getElem?_append_left inside).trans found) awaits
            fun other rival apart there => ?_
          rw [List.getElem?_append] at there
          split at there
          · exact others other rival apart there
          · exact .inl (List.mem_singleton.mp (List.mem_of_getElem? there))

theorem marks_moves (parting : Parting) (move : Move) (stuck : parting.move? move = none) : parting.marks? move = none := by
  unfold marks?
  split
  next index =>
    split
    next both =>
      obtain ⟨found, unclosed⟩ := both
      simp [move?, found, Line.Closer.step?, unclosed] at stuck
    next => rfl
  next => rfl

theorem phase_run (parting : Parting) (leader : Option Nat) (moves : List Move) (phase : Phase parting leader) :
    Phase (parting.run moves) (parting.leader leader moves) := by
  induction moves generalizing parting leader with
  | nil => exact phase
  | cons move rest ih =>
      refine ih (parting.step move) _ ?_
      unfold step
      cases moved : parting.move? move with
      | some next => exact phase_move parting next leader move moved phase
      | none =>
          rw [marks_moves parting move moved, Option.none_or]
          exact phase

theorem leader_found (parting : Parting) (first : Nat) (moves : List Move) :
    ∃ found, parting.leader (some first) moves = some found := by
  induction moves generalizing parting first with
  | nil => exact ⟨first, rfl⟩
  | cons move rest ih =>
      rw [leader]
      cases parting.marks? move with
      | none => exact ih _ first
      | some other => exact ih _ other

def IsShut (parting : Parting) : Prop :=
  parting.line.channel.pick.1 = .error .closed ∧ parting.line.channel.route.1 = .error .closed

theorem closed_shut (parting : Parting) (closed : parting.line.channel.closed = true) : parting.IsShut := by
  have picks : parting.line.channel.pick = (.error .closed, parting.line.channel) := if_pos closed
  exact ⟨by rw [picks], by rw [Channel.route, picks]⟩

-- The channel is marked and nobody follows for it, so that nothing changes any more.
structure Settled (parting : Parting) : Prop where
  closed : parting.line.channel.closed = true
  ended : parting.line.isFollowed = false

theorem work_settled (line : Line) (work : Line.Work) (closed : line.channel.closed = true) (ended : line.isFollowed = false) :
    (line.work work).channel = line.channel := by
  have stopped (follower : Follower) (held : line.follower = some follower) : follower.phase = .stopped := by
    simpa [Line.isFollowed, held] using ended
  cases work with
  | observe now store =>
      cases held : line.follower with
      | none => simp only [Line.work, held]
      | some follower => simp only [Line.work, held, Follower.observe, stopped follower held]
  | resubscribe now store =>
      cases held : line.follower with
      | none => simp only [Line.work, held]
      | some follower => simp [Line.work, held, Follower.due?, stopped follower held]
  | quit => rfl
  | pick => simp only [Line.work, Channel.pick, closed, if_true]

theorem settled_move (parting next : Parting) (move : Move) (moved : parting.move? move = some next)
    (settled : Settled parting) : Settled next ∧ next.line.channel.targets = parting.line.channel.targets := by
  obtain ⟨closed, ended⟩ := settled
  have stays (line : Line) (calms : parting.line.Calms line) : line.isFollowed = false :=
    Bool.eq_false_iff.mpr fun followed => nomatch ended.symm.trans (calms.followed followed)
  cases move with
  | call =>
      cases moved
      exact ⟨⟨closed, ended⟩, rfl⟩
  | step index =>
      obtain ⟨closer, later, line, -, stepped, rfl⟩ := step_cases parting next index moved
      cases stepped with
      | marks unclosed => exact nomatch unclosed.symm.trans closed
      | _ => exact ⟨⟨closed, ended⟩, rfl⟩
  | work work =>
      cases moved
      have calms := parting.line.work_calms work
      exact ⟨⟨calms.closed.trans closed, stays _ calms⟩, congrArg _ (work_settled parting.line work closed ended)⟩
  | endFollower =>
      simp only [move?] at moved
      split at moved <;> cases moved
      exact ⟨⟨closed, stays _ (Line.calms_stop parting.line)⟩, rfl⟩

theorem settled_run (parting : Parting) (moves : List Move) (settled : Settled parting) :
    Settled (parting.run moves) ∧ (parting.run moves).line.channel.targets = parting.line.channel.targets := by
  induction moves generalizing parting with
  | nil => exact ⟨settled, rfl⟩
  | cons move rest ih =>
      have first : Settled (parting.step move) ∧ (parting.step move).line.channel.targets = parting.line.channel.targets := by
        unfold step
        cases moved : parting.move? move with
        | none => exact ⟨settled, rfl⟩
        | some next => exact settled_move parting next move moved settled
      obtain ⟨later, same⟩ := ih _ first.1
      exact ⟨later, same.trans first.2⟩

theorem latecomer_returns (parting : Parting) (closed : parting.line.channel.closed = true) :
    let after := parting.run [.call, .step parting.closers.length]
    after.closers[parting.closers.length]? = some .returned ∧ after.line = parting.line := by
  simp [run, step, move?, Line.Closer.step?, closed]

-- Every call that returns has marked the channel or found it marked, so that it is shut for good. But only the call that has
-- marked it returns with the follower ended and the endpoints fixed; all others may return before.
theorem close_settles_for_its_leader (line : Line) (unclosed : line.channel.closed = false)
    (held : line.isFollowed = true → line.handle = true) (moves : List Move) (index : Nat)
    (returned : (({ line } : Parting).run moves).closers[index]? = some .returned) :
    let parting := ({ line } : Parting).run moves
    (∀ more, (parting.run more).IsShut) ∧
    ∃ leader, ({ line } : Parting).leader none moves = some leader ∧
      (parting.closers[leader]? = some .returned → ∀ more, (parting.run more).line.isFollowed = false ∧
        (parting.run more).line.channel.targets = parting.line.channel.targets) ∧
      (parting.run [.call, .step parting.closers.length]).closers[parting.closers.length]? = some .returned ∧
      (parting.run [.call, .step parting.closers.length]).line = parting.line := by
  intro parting
  have phase : Phase parting (({ line } : Parting).leader none moves) :=
    phase_run _ none moves (.unmarked unclosed (fun _ member => nomatch member) held)
  generalize ({ line } : Parting).leader none moves = found at phase
  cases phase with
  | unmarked unclosed early held => exact nomatch early _ (List.mem_of_getElem? returned)
  | marked leader closer closed present awaits others =>
      refine ⟨fun more => ?_, leader, rfl, fun gone more => ?_, latecomer_returns parting closed⟩
      · have later := phase_run parting (some leader) more (.marked leader closer closed present awaits others)
        obtain ⟨other, same⟩ := leader_found parting leader more
        rw [same] at later
        cases later with
        | marked _ _ shut => exact closed_shut _ shut
      · cases present.symm.trans gone
        obtain ⟨later, same⟩ := settled_run parting more ⟨closed, awaits⟩
        exact ⟨later.ended, same⟩

-- A channel with one endpoint, and a store in which that endpoint has been deleted since.
def followed : Line where
  channel := { name := "calc/Svc", targets := Table.empty.insert "reg/calc/Svc/a" { address := "127.0.0.1:7001" } }
  follower := some { root := "reg/calc/Svc", phase := .following { root := "reg/calc/Svc", position := 0 } }

def withdrawn : Store := { changes := #[.delete "reg/calc/Svc/a"] }

theorem close_settles_for_its_leader_in_turn :
    let parting := ({ line := followed } : Parting).run
      [.call, .step 0, .step 0, .step 0, .endFollower, .step 0, .call, .step 1]
    parting.closers = [.returned, .returned] ∧ parting.IsShut ∧
      (parting.run [.work (.observe 0 withdrawn)]).line.channel.targets = parting.line.channel.targets := by
  intro parting
  obtain ⟨shut, leader, first, settles, -⟩ := close_settles_for_its_leader followed rfl (fun _ => rfl)
    [.call, .step 0, .step 0, .step 0, .endFollower, .step 0, .call, .step 1] 1 (by decide +kernel)
  have led : ({ line := followed } : Parting).leader none
      [.call, .step 0, .step 0, .step 0, .endFollower, .step 0, .call, .step 1] = some 0 := by decide +kernel
  cases first.symm.trans led
  exact ⟨by decide +kernel, shut [], (settles (by decide +kernel) [.work (.observe 0 withdrawn)]).2⟩

-- The second call returns while the first has only marked the channel, and the follower takes away the endpoint afterwards.
theorem endpoints_change_after_close :
    let parting := ({ line := followed } : Parting).run [.call, .call, .step 0, .step 1]
    parting.closers = [.marked, .returned] ∧ parting.line.isFollowed = true ∧
      parting.line.channel.endpoints = ["127.0.0.1:7001"] ∧
      (parting.run [.work (.observe 0 withdrawn)]).line.channel.endpoints = [] := by
  decide +kernel

end Parting

end ServiceHost
