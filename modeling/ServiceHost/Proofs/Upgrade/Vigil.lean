import ServiceHost.Upgrade.Watcher
import ServiceHost.Proofs.Upgrade.Tenure

set_option autoImplicit false

namespace ServiceHost.Upgrade

structure Vigil where
  handoff : Handoff
  watcher : Watcher := .listening

namespace Vigil

-- A signal that is `none` is the end of the signals.
inductive Move where
  | signal (signal : Option Signal)
  | decide
  | judge
  | stop
  | act (index : Nat) (act : Act)
deriving DecidableEq, Repr

def ofWatcher (state : Watcher × Handoff) : Vigil := { handoff := state.2, watcher := state.1 }

def move? (vigil : Vigil) : Move → Option Vigil
  | .signal signal => (vigil.watcher.receive vigil.handoff signal).map ofWatcher
  | .decide => (vigil.watcher.decide vigil.handoff).map ofWatcher
  | .judge => (vigil.watcher.judge vigil.handoff).map fun watcher => { vigil with watcher }
  | .stop => some { vigil with handoff := vigil.handoff.stop }
  | .act index act => (vigil.handoff.act? index act).map fun handoff => { vigil with handoff }

def step (vigil : Vigil) (move : Move) : Vigil := (vigil.move? move).getD vigil

def run (vigil : Vigil) (moves : List Move) : Vigil := moves.foldl step vigil

def begun (timeout : Nat) (handover : Bool) : Vigil := { handoff := { timeout, handover } }

inductive Ends (vigil : Vigil) : Move → Prop where
  | asked (listening : vigil.watcher = .listening) : Ends vigil (.signal (some .stop))
  | silent (listening : vigil.watcher = .listening) : Ends vigil (.signal none)
  | replaced (attempt : Nat) (deaf : Bool) (upgrading : vigil.watcher = .upgrading attempt deaf)
      (succeeded : vigil.handoff.stage? attempt = some (.returned none)) : Ends vigil .judge
  | stopped (attempt : Nat) (deaf : Bool) (failure : Option Error) (upgrading : vigil.watcher = .upgrading attempt deaf)
      (returned : vigil.handoff.stage? attempt = some (.returned failure)) (stopped : vigil.handoff.state = .stopped) :
      Ends vigil .judge

end Vigil

def Attempt.Failed (attempt : Attempt) : Prop := ∃ error, attempt.stage = .returned (some error)

def Watcher.isDeaf : Watcher → Bool
  | .upgrading _ deaf => deaf
  | _ => false

-- Every attempt but the one that the watcher has begun last has failed.
def Behind (attempts : List Attempt) : Watcher → Prop
  | .listening => ∀ attempt ∈ attempts, attempt.Failed
  | .deciding => ∀ attempt ∈ attempts, attempt.Failed
  | .upgrading index _ =>
      index + 1 = attempts.length ∧
        ∀ (other : Nat) (attempt : Attempt), other ≠ index → attempts[other]? = some attempt → attempt.Failed
  | .ended => ∀ attempt ∈ attempts, ∃ failure, attempt.stage = .returned failure

structure Watched (vigil : Vigil) : Prop where
  exclusive : Exclusive vigil.handoff
  behind : Behind vigil.handoff.attempts vigil.watcher

namespace Vigil

theorem receive_does (vigil next : Vigil) (signal : Option Signal) (moved : vigil.move? (.signal signal) = some next) :
    vigil.watcher = .listening ∧
        (signal = some .upgrade ∧ next = { vigil with watcher := .deciding } ∨
          signal = some .stop ∧ next = { handoff := vigil.handoff.stop, watcher := .ended } ∨
          signal = none ∧ next = { vigil with watcher := .ended }) ∨
      ∃ attempt, vigil.watcher = .upgrading attempt false ∧
        (signal = some .upgrade ∧ next = vigil ∨ signal = some .stop ∧ next = { vigil with handoff := vigil.handoff.stop } ∨
          signal = none ∧ next = { vigil with watcher := .upgrading attempt true }) := by
  obtain ⟨handoff, watcher⟩ := vigil
  obtain ⟨after, received, rfl⟩ := Option.map_eq_some_iff.mp moved
  cases watcher with
  | listening =>
      left
      rcases signal with _ | (_ | _) <;> cases received <;> simp [ofWatcher]
  | deciding => cases received
  | upgrading attempt deaf =>
      right
      cases deaf with
      | true => cases received
      | false => rcases signal with _ | (_ | _) <;> cases received <;> simp [ofWatcher]
  | ended => cases received

theorem decide_does (vigil next : Vigil) (moved : vigil.move? .decide = some next) :
    vigil.watcher = .deciding ∧
      (vigil.handoff.state = .ready ∧
          next = { handoff := vigil.handoff.enter, watcher := .upgrading vigil.handoff.attempts.length false } ∨
        vigil.handoff.state ≠ .ready ∧ next = { vigil with watcher := .listening }) := by
  obtain ⟨handoff, watcher⟩ := vigil
  obtain ⟨after, decided, rfl⟩ := Option.map_eq_some_iff.mp moved
  cases watcher with
  | deciding =>
      refine ⟨rfl, ?_⟩
      simp only [Watcher.decide] at decided
      split at decided
      next ready => cases decided; exact Or.inl ⟨ready, rfl⟩
      next busy => cases decided; exact Or.inr ⟨busy, rfl⟩
  | listening => cases decided
  | upgrading attempt deaf => cases decided
  | ended => cases decided

theorem judge_does (vigil next : Vigil) (moved : vigil.move? .judge = some next) :
    ∃ attempt deaf failure, vigil.watcher = .upgrading attempt deaf ∧
      vigil.handoff.stage? attempt = some (.returned failure) ∧
      ((failure = none ∨ vigil.handoff.state = .stopped) ∧ next = { vigil with watcher := .ended } ∨
        failure ≠ none ∧ vigil.handoff.state ≠ .stopped ∧ next = { vigil with watcher := .listening }) := by
  obtain ⟨handoff, watcher⟩ := vigil
  obtain ⟨after, judged, rfl⟩ := Option.map_eq_some_iff.mp moved
  cases watcher with
  | upgrading attempt deaf =>
      simp only [Watcher.judge] at judged
      split at judged
      next failure returned =>
        refine ⟨attempt, deaf, failure, rfl, returned, ?_⟩
        split at judged <;> cases judged <;> simp_all
      next => cases judged
  | listening => cases judged
  | deciding => cases judged
  | ended => cases judged

theorem act_does (vigil next : Vigil) (index : Nat) (act : Act) (moved : vigil.move? (.act index act) = some next) :
    ∃ handoff, vigil.handoff.act? index act = some handoff ∧ next = { vigil with handoff } := by
  obtain ⟨handoff, acted, rfl⟩ := Option.map_eq_some_iff.mp moved
  exact ⟨handoff, acted, rfl⟩

theorem move_way (vigil next : Vigil) (move : Move) (moved : vigil.move? move = some next) :
    next.handoff.state = vigil.handoff.state ∨ State.Way vigil.handoff.state next.handoff.state := by
  cases move with
  | signal signal =>
      rcases receive_does vigil next signal moved with
        ⟨_, ⟨_, rfl⟩ | ⟨_, rfl⟩ | ⟨_, rfl⟩⟩ | ⟨_, _, ⟨_, rfl⟩ | ⟨_, rfl⟩ | ⟨_, rfl⟩⟩
      · exact Or.inl rfl
      · exact Or.inr (.stop _)
      · exact Or.inl rfl
      · exact Or.inl rfl
      · exact Or.inr (.stop _)
      · exact Or.inl rfl
  | decide =>
      obtain ⟨_, ⟨_, rfl⟩ | ⟨_, rfl⟩⟩ := decide_does vigil next moved
      · exact Or.inl rfl
      · exact Or.inl rfl
  | judge =>
      obtain ⟨_, _, _, _, _, ⟨_, rfl⟩ | ⟨_, _, rfl⟩⟩ := judge_does vigil next moved
      · exact Or.inl rfl
      · exact Or.inl rfl
  | stop =>
      cases moved
      exact Or.inr (.stop _)
  | act index act =>
      obtain ⟨handoff, acted, rfl⟩ := act_does vigil next index act moved
      obtain ⟨attempt, after, turned⟩ := Handoff.act_turns _ _ index act acted
      exact turn_way _ _ _ _ turned.turn

theorem run_closed (inside : State → Prop) (closed : ∀ state next, State.Way state next → inside state → inside next)
    (vigil : Vigil) (moves : List Move) (now : inside vigil.handoff.state) : inside (vigil.run moves).handoff.state := by
  induction moves generalizing vigil with
  | nil => exact now
  | cons move rest ih =>
      apply ih
      unfold step
      cases moved : vigil.move? move with
      | none => exact now
      | some next =>
          rcases move_way vigil next move moved with same | way
          · exact same.symm ▸ now
          · exact closed _ _ way now

theorem failed_returned (attempts : List Attempt) (failed : ∀ attempt ∈ attempts, attempt.Failed) :
    ∀ attempt ∈ attempts, ∃ failure, attempt.stage = .returned failure :=
  fun attempt member => (failed attempt member).imp' some fun _ stands => stands

-- Only the attempt that the watcher has begun last can take a step.
theorem current_attempt (vigil : Vigil) (watched : Watched vigil) (index : Nat) (attempt : Attempt)
    (found : vigil.handoff.attempts[index]? = some attempt) (going : ∀ failure, attempt.stage ≠ .returned failure) :
    ∃ deaf, vigil.watcher = .upgrading index deaf := by
  have behind := watched.behind
  have member := List.mem_of_getElem? found
  have unfailed (failed : attempt.Failed) : False := failed.elim fun error returned => going (some error) returned
  cases watcher : vigil.watcher with
  | listening =>
      rw [watcher] at behind
      exact (unfailed (behind attempt member)).elim
  | deciding =>
      rw [watcher] at behind
      exact (unfailed (behind attempt member)).elim
  | upgrading current deaf =>
      rw [watcher] at behind
      by_cases same : index = current
      · exact ⟨deaf, same ▸ rfl⟩
      · exact (unfailed (behind.2 index attempt same found)).elim
  | ended =>
      rw [watcher] at behind
      obtain ⟨failure, returned⟩ := behind attempt member
      exact absurd returned (going failure)

theorem failed_holding (attempt : Attempt) (failed : attempt.Failed) : attempt.stage.isHolding = false := by
  obtain ⟨error, returned⟩ := failed
  rw [returned]
  rfl

theorem failed_resetting (attempt : Attempt) (failed : attempt.Failed) : attempt.stage.isResetting = false := by
  obtain ⟨error, returned⟩ := failed
  rw [returned]
  rfl

theorem watched_act (vigil : Vigil) (handoff : Handoff) (index : Nat) (act : Act)
    (acted : vigil.handoff.act? index act = some handoff) (watched : Watched vigil) : Watched { vigil with handoff } := by
  obtain ⟨attempt, after, turned⟩ := Handoff.act_turns _ _ index act acted
  obtain ⟨deaf, current⟩ := current_attempt vigil watched index attempt turned.found (turn_going _ _ _ _ turned.turn)
  have behind := watched.behind
  rw [current] at behind
  obtain ⟨last, failed⟩ := behind
  constructor
  · refine exclusive_turned _ _ index attempt after watched.exclusive turned fun entered _ rival member => ?_
    obtain ⟨other, found⟩ := List.getElem?_of_mem member
    by_cases same : other = index
    · subst same
      cases found.symm.trans turned.found
      rw [entered]
      rfl
    · exact failed_resetting rival (failed other rival same found)
  · rw [current]
    refine ⟨?_, fun other rival apart found => ?_⟩
    · rw [turned.attempts, List.length_set]
      exact last
    · rw [turned_other _ _ index other attempt after turned apart] at found
      exact failed other rival apart found

theorem watched_stop (vigil : Vigil) (watched : Watched vigil) : Watched { vigil with handoff := vigil.handoff.stop } :=
  ⟨exclusive_stop _ watched.exclusive, watched.behind⟩

theorem watched_receive (vigil next : Vigil) (signal : Option Signal) (moved : vigil.move? (.signal signal) = some next)
    (watched : Watched vigil) : Watched next := by
  obtain ⟨exclusive, behind⟩ := watched
  rcases receive_does vigil next signal moved with
    ⟨listening, does⟩ | ⟨attempt, upgrading, does⟩
  · rw [listening] at behind
    rcases does with ⟨_, rfl⟩ | ⟨_, rfl⟩ | ⟨_, rfl⟩
    · exact ⟨exclusive, behind⟩
    · exact ⟨exclusive_stop _ exclusive, failed_returned _ behind⟩
    · exact ⟨exclusive, failed_returned _ behind⟩
  · rw [upgrading] at behind
    rcases does with ⟨_, rfl⟩ | ⟨_, rfl⟩ | ⟨_, rfl⟩
    · exact ⟨exclusive, upgrading ▸ behind⟩
    · exact ⟨exclusive_stop _ exclusive, upgrading ▸ behind⟩
    · exact ⟨exclusive, behind⟩

theorem watched_decide (vigil next : Vigil) (moved : vigil.move? .decide = some next) (watched : Watched vigil) :
    Watched next := by
  obtain ⟨exclusive, behind⟩ := watched
  obtain ⟨deciding, ⟨_, rfl⟩ | ⟨_, rfl⟩⟩ := decide_does vigil next moved
  · rw [deciding] at behind
    refine ⟨exclusive_call _ exclusive, by simp [Handoff.enter], fun other attempt apart found => ?_⟩
    rcases entered_found vigil.handoff other attempt found with old | ⟨new, _⟩
    · exact behind attempt (List.mem_of_getElem? old)
    · exact absurd new apart
  · rw [deciding] at behind
    exact ⟨exclusive, behind⟩

theorem all_returned (attempts : List Attempt) (index : Nat) (attempt : Attempt) (failure : Option Error)
    (found : attempts[index]? = some attempt) (returned : attempt.stage = .returned failure)
    (others : ∀ (other : Nat) (rival : Attempt), other ≠ index → attempts[other]? = some rival → rival.Failed)
    (rival : Attempt) (member : rival ∈ attempts) : rival.stage = .returned failure ∨ rival.Failed := by
  obtain ⟨other, present⟩ := List.getElem?_of_mem member
  by_cases same : other = index
  · subst same
    cases found.symm.trans present
    exact Or.inl returned
  · exact Or.inr (others other rival same present)

theorem watched_judge (vigil next : Vigil) (moved : vigil.move? .judge = some next) (watched : Watched vigil) :
    Watched next := by
  obtain ⟨exclusive, behind⟩ := watched
  obtain ⟨index, deaf, failure, upgrading, returned, does⟩ := judge_does vigil next moved
  rw [upgrading] at behind
  obtain ⟨replacement, found⟩ := Handoff.stage_found _ _ _ returned
  have all := all_returned _ index _ failure found rfl behind.2
  rcases does with ⟨_, rfl⟩ | ⟨failed, _, rfl⟩
  · refine ⟨exclusive, fun rival member => ?_⟩
    rcases all rival member with same | ⟨error, other⟩
    · exact ⟨failure, same⟩
    · exact ⟨some error, other⟩
  · refine ⟨exclusive, fun rival member => ?_⟩
    obtain ⟨error, rfl⟩ := Option.ne_none_iff_exists'.mp failed
    exact (all rival member).elim (fun same => ⟨error, same⟩) id

theorem watched_move (vigil next : Vigil) (move : Move) (moved : vigil.move? move = some next) (watched : Watched vigil) :
    Watched next := by
  cases move with
  | signal signal => exact watched_receive vigil next signal moved watched
  | decide => exact watched_decide vigil next moved watched
  | judge => exact watched_judge vigil next moved watched
  | stop =>
      cases moved
      exact watched_stop vigil watched
  | act index act =>
      obtain ⟨handoff, acted, rfl⟩ := act_does vigil next index act moved
      exact watched_act vigil handoff index act acted watched

theorem watched_run (vigil : Vigil) (moves : List Move) (watched : Watched vigil) : Watched (vigil.run moves) := by
  induction moves generalizing vigil with
  | nil => exact watched
  | cons move rest ih =>
      apply ih
      unfold step
      cases moved : vigil.move? move with
      | none => exact watched
      | some next => exact watched_move vigil next move moved watched

theorem watched_begun (timeout : Nat) (handover : Bool) : Watched (begun timeout handover) :=
  ⟨exclusive_fresh timeout handover, fun _ member => by cases member⟩

theorem failed_ready (handoff : Handoff) (exclusive : Exclusive handoff) (failed : ∀ attempt ∈ handoff.attempts, attempt.Failed)
    (running : handoff.stopRequested = false) : handoff.state = .ready := by
  refine (exclusive.free fun attempt member => failed_holding attempt (failed attempt member)).resolve_right fun stopped => ?_
  rw [exclusive.stopped.mp stopped] at running
  cases running

theorem move_deaf (vigil next : Vigil) (move : Move) (moved : vigil.move? move = some next)
    (deaf : next.watcher.isDeaf = true) : move = .signal none ∨ vigil.watcher.isDeaf = true := by
  cases move with
  | signal signal =>
      rcases receive_does vigil next signal moved with ⟨_, ⟨_, rfl⟩ | ⟨_, rfl⟩ | ⟨_, rfl⟩⟩ | ⟨attempt, _, does⟩
      · cases deaf
      · cases deaf
      · cases deaf
      · rcases does with ⟨_, rfl⟩ | ⟨_, rfl⟩ | ⟨rfl, _⟩
        · exact Or.inr deaf
        · exact Or.inr deaf
        · exact Or.inl rfl
  | decide =>
      obtain ⟨_, ⟨_, rfl⟩ | ⟨_, rfl⟩⟩ := decide_does vigil next moved
      · cases deaf
      · cases deaf
  | judge =>
      obtain ⟨_, _, _, _, _, ⟨_, rfl⟩ | ⟨_, _, rfl⟩⟩ := judge_does vigil next moved
      · cases deaf
      · cases deaf
  | stop =>
      cases moved
      exact Or.inr deaf
  | act index act =>
      obtain ⟨handoff, acted, rfl⟩ := act_does vigil next index act moved
      exact Or.inr deaf

theorem deaf_after_end (vigil : Vigil) (moves : List Move) (deaf : (vigil.run moves).watcher.isDeaf = true) :
    .signal none ∈ moves ∨ vigil.watcher.isDeaf = true := by
  induction moves generalizing vigil with
  | nil => exact Or.inr deaf
  | cons move rest ih =>
      rcases ih (vigil.step move) deaf with later | now
      · exact Or.inl (List.mem_cons_of_mem move later)
      · unfold step at now
        cases moved : vigil.move? move with
        | none => rw [moved] at now; exact Or.inr now
        | some next =>
            rw [moved] at now
            refine (move_deaf vigil next move moved now).imp_left ?_
            rintro rfl
            exact List.mem_cons_self

theorem ends_iff (vigil next : Vigil) (move : Move) (moved : vigil.move? move = some next)
    (awake : vigil.watcher ≠ .ended) : next.watcher = .ended ↔ Ends vigil move := by
  cases move with
  | signal signal =>
      rcases receive_does vigil next signal moved with ⟨listening, does⟩ | ⟨attempt, upgrading, does⟩
      · rcases does with ⟨rfl, rfl⟩ | ⟨rfl, rfl⟩ | ⟨rfl, rfl⟩
        · exact ⟨nofun, nofun⟩
        · exact ⟨fun _ => .asked listening, fun _ => rfl⟩
        · exact ⟨fun _ => .silent listening, fun _ => rfl⟩
      · have other (ends : Ends vigil (.signal signal)) : False := by
          cases ends with
          | asked listening => cases upgrading.symm.trans listening
          | silent listening => cases upgrading.symm.trans listening
        refine ⟨fun ended => ?_, fun ends => (other ends).elim⟩
        rcases does with ⟨_, rfl⟩ | ⟨_, rfl⟩ | ⟨_, rfl⟩
        · exact absurd ended awake
        · exact absurd ended awake
        · cases ended
  | decide =>
      refine ⟨fun ended => ?_, nofun⟩
      obtain ⟨_, ⟨_, rfl⟩ | ⟨_, rfl⟩⟩ := decide_does vigil next moved
      · cases ended
      · cases ended
  | judge =>
      obtain ⟨attempt, deaf, failure, upgrading, returned, does⟩ := judge_does vigil next moved
      rcases does with ⟨rfl | stopped, rfl⟩ | ⟨failed, running, rfl⟩
      · exact ⟨fun _ => .replaced attempt deaf upgrading returned, fun _ => rfl⟩
      · exact ⟨fun _ => .stopped attempt deaf failure upgrading returned stopped, fun _ => rfl⟩
      · refine ⟨nofun, fun ends => ?_⟩
        cases ends with
        | replaced other deaf' same succeeded =>
            cases upgrading.symm.trans same
            exact absurd (Option.some.inj (returned.symm.trans succeeded)) (by simpa using failed)
        | stopped _ _ _ _ _ stopped => exact absurd stopped running
  | stop =>
      cases moved
      exact ⟨fun ended => absurd ended awake, nofun⟩
  | act index act =>
      obtain ⟨handoff, acted, rfl⟩ := act_does vigil next index act moved
      exact ⟨fun ended => absurd ended awake, nofun⟩

theorem ready_claims (vigil : Vigil) (listening : vigil.watcher = .listening) (ready : vigil.handoff.state = .ready) :
    (vigil.run [.signal (some .upgrade), .decide, .act vigil.handoff.attempts.length .claim]).handoff.state = .requested := by
  obtain ⟨handoff, watcher⟩ := vigil
  cases listening
  have entered : handoff.enter.stage? handoff.attempts.length = some .entered := by
    simp [Handoff.stage?, Handoff.enter]
  have claimed : handoff.enter.claim handoff.attempts.length =
      some (({ handoff.enter with state := .requested } : Handoff).move handoff.attempts.length .preparing) := by
    rw [Handoff.claim, if_pos entered, if_pos (show handoff.enter.state = .ready from ready)]
  have decided : Watcher.decide handoff .deciding = some (.upgrading handoff.attempts.length false, handoff.enter) := by
    rw [Watcher.decide, if_pos (show handoff.state = .ready from ready)]
  simp only [run, List.foldl_cons, List.foldl_nil, step, move?, Watcher.receive, Option.map_some, Option.getD_some, ofWatcher,
    decided, Handoff.act?, claimed]
  rfl

theorem failed_listens (vigil : Vigil) (attempt : Nat) (deaf : Bool) (error : Error)
    (upgrading : vigil.watcher = .upgrading attempt deaf)
    (returned : vigil.handoff.stage? attempt = some (.returned (some error))) (running : vigil.handoff.state ≠ .stopped) :
    vigil.move? .judge = some { vigil with watcher := .listening } := by
  simp [move?, upgrading, Watcher.judge, returned, running]

theorem stopped_is_final (vigil : Vigil) (later : List Vigil.Move) (stopped : vigil.handoff.state = .stopped) :
    (vigil.run later).handoff.state = .stopped := by
  refine run_closed (· = .stopped) (fun state next way inside => ?_) vigil later stopped
  cases inside
  cases way
  rfl

theorem upgraded_gives_way_to_stop (vigil : Vigil) (later : List Vigil.Move) (upgraded : vigil.handoff.state = .upgraded) :
    (vigil.run later).handoff.state = .upgraded ∨ (vigil.run later).handoff.state = .stopped := by
  refine run_closed (fun state => state = .upgraded ∨ state = .stopped) (fun state next way inside => ?_) vigil later
    (Or.inl upgraded)
  rcases inside with rfl | rfl <;> cases way <;> exact Or.inr rfl

theorem failure_resumes (vigil : Vigil) (watched : Watched vigil) (attempt : Nat) (deaf : Bool) (error : Error)
    (upgrading : vigil.watcher = .upgrading attempt deaf)
    (returned : vigil.handoff.stage? attempt = some (.returned (some error))) (running : vigil.handoff.stopRequested = false) :
    vigil.handoff.state = .ready ∧ vigil.move? .judge = some { vigil with watcher := .listening } := by
  have behind := watched.behind
  rw [upgrading] at behind
  obtain ⟨replacement, found⟩ := Handoff.stage_found _ _ _ returned
  have ready : vigil.handoff.state = .ready := by
    refine failed_ready _ watched.exclusive (fun rival member => ?_) running
    exact (all_returned _ attempt _ _ found rfl behind.2 rival member).elim (fun same => ⟨error, same⟩) id
  exact ⟨ready, failed_listens vigil attempt deaf error upgrading returned (by rw [ready]; nofun)⟩

theorem listening_claims (vigil : Vigil) (watched : Watched vigil) (listening : vigil.watcher = .listening)
    (running : vigil.handoff.stopRequested = false) :
    (vigil.run [.signal (some .upgrade), .decide, .act vigil.handoff.attempts.length .claim]).handoff.state = .requested := by
  have behind := watched.behind
  rw [listening] at behind
  exact ready_claims vigil listening (failed_ready _ watched.exclusive behind running)

theorem refused_changes_nothing (vigil next : Vigil) (watched : Watched vigil) (index : Nat) (act : Act) (stage : Attempt.Stage)
    (moved : vigil.move? (.act index act) = some next) (stands : next.handoff.stage? index = some stage)
    (refusal : stage.isRefusal = true) :
    ∃ attempt, vigil.handoff.attempts[index]? = some attempt ∧
      next = { vigil with
        handoff := { vigil.handoff with attempts := vigil.handoff.attempts.set index { attempt with stage } } } := by
  obtain ⟨handoff, acted, rfl⟩ := act_does vigil next index act moved
  obtain ⟨attempt, after, turned⟩ := Handoff.act_turns _ _ index act acted
  cases (turned_stage _ _ index attempt after turned).symm.trans stands
  exact ⟨attempt, turned.found, congrArg (fun handoff => { vigil with handoff })
    (refusal_changes_nothing _ _ index attempt after watched.exclusive turned refusal)⟩

theorem signal_heard (vigil : Vigil) (signal : Option Signal)
    (hears : vigil.watcher = .listening ∨ ∃ attempt, vigil.watcher = .upgrading attempt false) :
    (vigil.move? (.signal signal)).isSome = true := by
  rcases hears with listening | ⟨attempt, upgrading⟩
  · rcases signal with _ | (_ | _) <;> simp [move?, listening, Watcher.receive]
  · rcases signal with _ | (_ | _) <;> simp [move?, upgrading, Watcher.receive]

theorem deciding_decides (vigil : Vigil) (deciding : vigil.watcher = .deciding) : (vigil.move? .decide).isSome = true := by
  by_cases ready : vigil.handoff.state = .ready <;> simp [move?, deciding, Watcher.decide, ready]

-- The state goes its way; a failure leaves the process ready and the watcher listening, a success is final, a refusal
-- changes nothing, and the watcher ends for one of four reasons only.
theorem watched_upgrades_keep_course (timeout : Nat) (handover : Bool) (moves : List Move) :
    let vigil := (begun timeout handover).run moves
    (∀ move next, vigil.move? move = some next →
      next.handoff.state = vigil.handoff.state ∨ State.Way vigil.handoff.state next.handoff.state) ∧
    (∀ later, vigil.handoff.state = .stopped → (vigil.run later).handoff.state = .stopped) ∧
    (∀ later, vigil.handoff.state = .upgraded →
      (vigil.run later).handoff.state = .upgraded ∨ (vigil.run later).handoff.state = .stopped) ∧
    (∀ (index : Nat) (attempt : Attempt), vigil.handoff.attempts[index]? = some attempt →
      (∀ failure, attempt.stage ≠ .returned failure) → ∃ deaf, vigil.watcher = .upgrading index deaf) ∧
    (∀ attempt deaf error, vigil.watcher = .upgrading attempt deaf →
      vigil.handoff.stage? attempt = some (.returned (some error)) → vigil.handoff.stopRequested = false →
        vigil.handoff.state = .ready ∧ vigil.move? .judge = some { vigil with watcher := .listening }) ∧
    (vigil.watcher = .listening → vigil.handoff.stopRequested = false →
      (vigil.run [.signal (some .upgrade), .decide, .act vigil.handoff.attempts.length .claim]).handoff.state = .requested) ∧
    (∀ attempt, vigil.handoff.stage? attempt = some (.returned none) →
      vigil.handoff.state = .upgraded ∨ vigil.handoff.state = .stopped) ∧
    (∀ (index : Nat) (act : Act) (next : Vigil) (stage : Attempt.Stage), vigil.move? (.act index act) = some next →
      next.handoff.stage? index = some stage → stage.isRefusal = true →
        ∃ attempt, vigil.handoff.attempts[index]? = some attempt ∧
          next = { vigil with
            handoff := { vigil.handoff with attempts := vigil.handoff.attempts.set index { attempt with stage } } }) ∧
    (∀ move next, vigil.watcher ≠ .ended → vigil.move? move = some next → (next.watcher = .ended ↔ Ends vigil move)) ∧
    (∀ signal, (vigil.watcher = .listening ∨ ∃ attempt, vigil.watcher = .upgrading attempt false) →
      (vigil.move? (.signal signal)).isSome = true) ∧
    (vigil.watcher = .deciding → (vigil.move? .decide).isSome = true) ∧
    (∀ attempt, vigil.watcher = .upgrading attempt true → .signal none ∈ moves) := by
  intro vigil
  have watched : Watched vigil := watched_run _ moves (watched_begun timeout handover)
  refine ⟨fun move next => move_way vigil next move, stopped_is_final vigil, upgraded_gives_way_to_stop vigil,
    current_attempt vigil watched, failure_resumes vigil watched, listening_claims vigil watched, ?_, ?_,
    fun move next awake moved => ends_iff vigil next move moved awake, signal_heard vigil, deciding_decides vigil, ?_⟩
  · intro index returned
    obtain ⟨replacement, found⟩ := Handoff.stage_found _ _ _ returned
    exact watched.exclusive.fits _ (List.mem_of_getElem? found)
  · intro index act next stage
    exact refused_changes_nothing vigil next watched index act stage
  · intro attempt upgrading
    have deaf : vigil.watcher.isDeaf = true := by
      rw [upgrading]
      rfl
    exact (deaf_after_end _ moves deaf).resolve_right Bool.false_ne_true

-- The first replacement exits early, and the stop comes while the second is starting.
def unlucky : List Move :=
  [.signal (some .upgrade), .decide, .act 0 .claim, .signal (some .upgrade), .act 0 (.prepare none), .act 0 .confirm,
    .act 0 (.spawn none), .act 0 (.attach none), .act 0 (.wake (.childExited (some 3))), .act 0 .reap, .act 0 .release,
    .act 0 .reset]

def interrupted : List Move :=
  [.judge, .signal (some .upgrade), .decide, .act 1 .claim, .act 1 (.prepare none), .act 1 .confirm, .act 1 (.spawn none),
    .act 1 (.attach none), .signal (some .stop), .act 1 (.wake .stopSeen), .act 1 .reap, .act 1 .release]

theorem watched_upgrades_keep_course_through_failure :
    let failed := (begun 60000 true).run unlucky
    let vigil := (begun 60000 true).run (unlucky ++ interrupted)
    failed.handoff.stage? 0 = some (.returned (some (.exited (some 3)))) ∧ failed.handoff.state = .ready ∧
      vigil.handoff.stage? 1 = some (.returned (some .aborted)) ∧ vigil.handoff.hasRunning = false ∧
      ((vigil.step .judge).watcher = .ended ↔ Ends vigil .judge) ∧ (vigil.step .judge).watcher = .ended := by
  intro failed vigil
  obtain ⟨_, _, _, _, ready, _⟩ := watched_upgrades_keep_course 60000 true unlucky
  obtain ⟨_, _, _, _, _, _, _, _, ends, _⟩ := watched_upgrades_keep_course 60000 true (unlucky ++ interrupted)
  refine ⟨by decide, (ready 0 false (.exited (some 3)) (by decide) (by decide) (by decide)).1, by decide, by decide, ?_, by decide⟩
  exact ends .judge _ (by decide) rfl

end Vigil

end ServiceHost.Upgrade
