import ServiceHost.Upgrade.Attempt

set_option autoImplicit false

namespace ServiceHost.Upgrade

inductive Act where
  | claim
  | report
  | prepare (refusal : Option String)
  | confirm
  | spawn (refusal : Option String)
  | attach (refusal : Option String)
  | wake (cause : Wake)
  | reap
  | forsake
  | finish
  | release
  | reset
deriving DecidableEq, Repr

inductive Move where
  | call
  | stop
  | act (index : Nat) (act : Act)
deriving DecidableEq, Repr

namespace Handoff

def act? (handoff : Handoff) (index : Nat) : Act → Option Handoff
  | .claim => handoff.claim index
  | .report => handoff.report index
  | .prepare refusal => handoff.prepare index refusal
  | .confirm => handoff.confirm index
  | .spawn refusal => handoff.spawn index refusal
  | .attach refusal => handoff.attach index refusal
  | .wake cause => handoff.wake index cause
  | .reap => handoff.reap index
  | .forsake => handoff.forsake index
  | .finish => handoff.finish index
  | .release => handoff.release index
  | .reset => handoff.reset index

def move? (handoff : Handoff) : Move → Option Handoff
  | .call => some handoff.enter
  | .stop => some handoff.stop
  | .act index act => handoff.act? index act

def step (handoff : Handoff) (move : Move) : Handoff := (handoff.move? move).getD handoff

def run (handoff : Handoff) (moves : List Move) : Handoff := moves.foldl step handoff

end Handoff

theorem run_snoc (handoff : Handoff) (moves : List Move) (move : Move) :
    handoff.run (moves ++ [move]) = (handoff.run moves).step move :=
  List.foldl_append

-- What can come of a replacement: the errors with which an attempt fails once it has been granted the claim.
def Error.isOutcome : Error → Bool
  | .timeout _ => true
  | .exited _ => true
  | .spawn _ => true
  | .aborted => true
  | _ => false

inductive Turn : State → Attempt.Stage → State → Attempt.Stage → Prop where
  | granted : Turn .ready .entered .requested .preparing
  | refused (state : State) : state ≠ .ready → Turn state .entered state .refused
  | reported (state : State) : Turn state .refused state (.returned (some (.inProgress state)))
  | unprepared (state : State) (cause : SpawnCause) : Turn state .preparing state (.failing (.spawn cause))
  | prepared (state : State) : Turn state .preparing state .prepared
  | confirmed : Turn .requested .prepared .upgrading .spawning
  | lost (state : State) : state ≠ .requested → Turn state .prepared state (.failing .aborted)
  | unspawned (state : State) (cause : SpawnCause) : Turn state .spawning state (.failing (.spawn cause))
  | spawned (state : State) : Turn state .spawning state .spawned
  | unattached (state : State) (cause : SpawnCause) : Turn state .spawned state (.failing (.spawn cause))
  | attached (state : State) : Turn state .spawned state .waiting
  | heard (state : State) : Turn state .waiting state .succeeded
  | dismissed (state : State) (error : Error) : error.isOutcome = true → (error = .aborted → state = .stopped) →
      Turn state .waiting state (.killing error)
  | dispatched (state : State) (error : Error) : Turn state (.killing error) state (.failing error)
  | handed : Turn .upgrading .succeeded .upgraded (.returned none)
  | overtaken (state : State) : state ≠ .upgrading → Turn state .succeeded state (.returned none)
  | aborted (state : State) : Turn state (.failing .aborted) state (.returned (some .aborted))
  | released (error : Error) : error ≠ .aborted → Turn .upgrading (.failing error) .ready (.resetting error)
  | unreleased (state : State) (error : Error) : error ≠ .aborted → state ≠ .upgrading →
      Turn state (.failing error) state (.resetting error)
  | reset (error : Error) : Turn .requested (.resetting error) .ready (.returned (some error))
  | unreset (state : State) (error : Error) : state ≠ .requested →
      Turn state (.resetting error) state (.returned (some error))

-- What a turn leaves of the replacement. One that has been killed counts as reaped only if the attempt could wait for it.
inductive Attempt.Leaves (attempt after : Attempt) : Prop where
  | kept (unspawned : attempt.stage = .spawning → after.stage ≠ .spawned) (same : after.replacement = attempt.replacement)
  | spawned (spawning : attempt.stage = .spawning) (reached : after.stage = .spawned) (running : after.replacement = some .running)
  | reaped (error : Error) (killing : attempt.stage = .killing error) (failing : after.stage = .failing error)
      (waited : after.replacement = some .reaped)

structure Turned (handoff next : Handoff) (index : Nat) (attempt after : Attempt) : Prop where
  found : handoff.attempts[index]? = some attempt
  turn : Turn handoff.state attempt.stage next.state after.stage
  leaves : attempt.Leaves after
  attempts : next.attempts = handoff.attempts.set index after
  timeout : next.timeout = handoff.timeout
  handover : next.handover = handoff.handover
  stopRequested : next.stopRequested = handoff.stopRequested
  succeeded : next.succeeded = handoff.succeeded + if after.stage = .returned none then 1 else 0
  silent : attempt.stage = .entered ∨ attempt.stage = .refused → next.failed = handoff.failed ∧ next.aborted = handoff.aborted

namespace Handoff

theorem stage_found (handoff : Handoff) (index : Nat) (stage : Attempt.Stage)
    (stands : handoff.stage? index = some stage) : ∃ replacement, handoff.attempts[index]? = some ⟨stage, replacement⟩ := by
  obtain ⟨⟨_, replacement⟩, found, rfl⟩ := Option.map_eq_some_iff.mp stands
  exact ⟨replacement, found⟩

theorem move_stage (handoff : Handoff) (index : Nat) (before stage : Attempt.Stage)
    (stands : handoff.stage? index = some before) : (handoff.move index stage).stage? index = some stage := by
  obtain ⟨replacement, found⟩ := stage_found handoff index before stands
  simp [stage?, move, found]

theorem modify_found (attempts : List Attempt) (index : Nat) (attempt : Attempt) (change : Attempt → Attempt)
    (found : attempts[index]? = some attempt) : attempts.modify index change = attempts.set index (change attempt) := by
  apply List.ext_getElem?
  intro other
  by_cases same : index = other
  · subst same
    rw [List.getElem?_modify_eq, found, List.getElem?_set_self (List.getElem?_eq_some_iff.mp found).1]
    rfl
  · rw [List.getElem?_modify_ne _ _ same, List.getElem?_set_ne same]

theorem move_attempts (handoff : Handoff) (index : Nat) (attempt : Attempt) (stage : Attempt.Stage)
    (found : handoff.attempts[index]? = some attempt) :
    (handoff.move index stage).attempts = handoff.attempts.set index { attempt with stage } :=
  modify_found _ index attempt _ found

theorem replace_attempts (handoff : Handoff) (index : Nat) (attempt : Attempt) (stage : Attempt.Stage)
    (replacement : Replacement) (found : handoff.attempts[index]? = some attempt) :
    ((handoff.setReplacement index replacement).move index stage).attempts =
      handoff.attempts.set index ⟨stage, some replacement⟩ := by
  have inside := (List.getElem?_eq_some_iff.mp found).1
  have before : (handoff.setReplacement index replacement).attempts =
      handoff.attempts.set index { attempt with replacement := some replacement } := modify_found _ index attempt _ found
  have changed : (handoff.setReplacement index replacement).attempts[index]? =
      some { attempt with replacement := some replacement } := by
    rw [before, List.getElem?_set_self inside]
  rw [Handoff.move, modify_found _ index _ _ changed, before, List.set_set]

theorem turned_move (handoff : Handoff) (index : Nat) (attempt : Attempt) (target : State) (stage : Attempt.Stage)
    (found : handoff.attempts[index]? = some attempt) (turn : Turn handoff.state attempt.stage target stage)
    (unspawned : attempt.stage = .spawning → stage ≠ .spawned) (unsuccessful : stage ≠ .returned none) :
    Turned handoff (({ handoff with state := target } : Handoff).move index stage) index attempt { attempt with stage } where
  found := found
  turn := turn
  leaves := .kept unspawned rfl
  attempts := move_attempts { handoff with state := target } index attempt stage found
  timeout := rfl
  handover := rfl
  stopRequested := rfl
  succeeded := by rw [if_neg unsuccessful]; rfl
  silent := fun _ => ⟨rfl, rfl⟩

def Turns (handoff next : Handoff) (index : Nat) : Prop := ∃ attempt after, Turned handoff next index attempt after

theorem claim_turns (handoff next : Handoff) (index : Nat) (claimed : handoff.claim index = some next) :
    Turns handoff next index := by
  unfold Handoff.claim at claimed
  split at claimed
  next stands =>
    obtain ⟨replacement, found⟩ := stage_found handoff index _ stands
    split at claimed
    next ready =>
      cases claimed
      exact ⟨_, _, turned_move handoff index _ .requested _ found (ready ▸ .granted) nofun nofun⟩
    next busy =>
      cases claimed
      exact ⟨_, _, turned_move handoff index _ handoff.state _ found (.refused _ busy) nofun nofun⟩
  next => cases claimed

theorem report_turns (handoff next : Handoff) (index : Nat) (reported : handoff.report index = some next) :
    Turns handoff next index := by
  unfold Handoff.report at reported
  split at reported
  next stands =>
    obtain ⟨replacement, found⟩ := stage_found handoff index _ stands
    cases reported
    exact ⟨_, _, turned_move handoff index _ handoff.state _ found (.reported _) nofun nofun⟩
  next => cases reported

theorem prepare_turns (handoff next : Handoff) (index : Nat) (refusal : Option String)
    (did : handoff.prepare index refusal = some next) : Turns handoff next index := by
  unfold Handoff.prepare at did
  split at did
  next stands =>
    obtain ⟨replacement, found⟩ := stage_found handoff index _ stands
    split at did
    · cases did
      exact ⟨_, _, turned_move handoff index _ handoff.state _ found (.unprepared _ _) nofun nofun⟩
    · cases refusal with
      | some text =>
          cases did
          exact ⟨_, _, turned_move handoff index _ handoff.state _ found (.unprepared _ _) nofun nofun⟩
      | none =>
          cases did
          exact ⟨_, _, turned_move handoff index _ handoff.state _ found (.prepared _) nofun nofun⟩
  next => cases did

theorem confirm_turns (handoff next : Handoff) (index : Nat) (confirmed : handoff.confirm index = some next) :
    Turns handoff next index := by
  unfold Handoff.confirm at confirmed
  split at confirmed
  next stands =>
    obtain ⟨replacement, found⟩ := stage_found handoff index _ stands
    split at confirmed
    next held =>
      cases confirmed
      exact ⟨_, _, turned_move handoff index _ .upgrading _ found (held ▸ .confirmed) nofun nofun⟩
    next gone =>
      cases confirmed
      exact ⟨_, _, turned_move handoff index _ handoff.state _ found (.lost _ gone) nofun nofun⟩
  next => cases confirmed

theorem spawn_turns (handoff next : Handoff) (index : Nat) (refusal : Option String)
    (did : handoff.spawn index refusal = some next) : Turns handoff next index := by
  unfold Handoff.spawn at did
  split at did
  next stands =>
    obtain ⟨replacement, found⟩ := stage_found handoff index _ stands
    cases refusal with
    | some text =>
        cases did
        exact ⟨_, _, turned_move handoff index _ handoff.state _ found (.unspawned _ _) nofun nofun⟩
    | none =>
        cases did
        exact ⟨_, _, found, .spawned _, .spawned rfl rfl rfl, replace_attempts handoff index _ _ .running found, rfl, rfl, rfl,
          rfl, fun _ => ⟨rfl, rfl⟩⟩
  next => cases did

theorem attach_turns (handoff next : Handoff) (index : Nat) (refusal : Option String)
    (did : handoff.attach index refusal = some next) : Turns handoff next index := by
  unfold Handoff.attach at did
  split at did
  next stands =>
    obtain ⟨replacement, found⟩ := stage_found handoff index _ stands
    cases refusal with
    | some text =>
        cases did
        exact ⟨_, _, turned_move handoff index _ handoff.state _ found (.unattached _ _) nofun nofun⟩
    | none =>
        cases did
        exact ⟨_, _, turned_move handoff index _ handoff.state _ found (.attached _) nofun nofun⟩
  next => cases did

theorem wake_turns (handoff next : Handoff) (index : Nat) (cause : Wake) (woken : handoff.wake index cause = some next) :
    Turns handoff next index := by
  unfold Handoff.wake at woken
  split at woken
  next stands =>
    obtain ⟨replacement, found⟩ := stage_found handoff index _ stands
    have dismisses (error : Error) (outcome : error.isOutcome = true) (stopped : error = .aborted → handoff.state = .stopped) :
        Turns handoff (handoff.move index (.killing error)) index :=
      ⟨_, _, turned_move handoff index _ handoff.state _ found (.dismissed _ error outcome stopped) nofun nofun⟩
    cases cause with
    | readinessByte =>
        cases woken
        exact ⟨_, _, turned_move handoff index _ handoff.state _ found (.heard _) nofun nofun⟩
    | socketClosed => cases woken; exact dismisses _ rfl nofun
    | socketFailed text => cases woken; exact dismisses _ rfl nofun
    | childExited code => cases woken; exact dismisses _ rfl nofun
    | timedOut => cases woken; exact dismisses _ rfl nofun
    | stopSeen =>
        simp only at woken
        split at woken
        next stopped => cases woken; exact dismisses _ rfl fun _ => stopped
        next => cases woken
  next => cases woken

theorem reap_turns (handoff next : Handoff) (index : Nat) (reaped : handoff.reap index = some next) :
    Turns handoff next index := by
  unfold Handoff.reap at reaped
  split at reaped
  next error stands =>
    obtain ⟨replacement, found⟩ := stage_found handoff index _ stands
    cases reaped
    exact ⟨_, _, found, .dispatched _ error, .reaped error rfl rfl rfl, replace_attempts handoff index _ _ .reaped found, rfl,
      rfl, rfl, rfl, nofun⟩
  next => cases reaped

theorem forsake_turns (handoff next : Handoff) (index : Nat) (forsaken : handoff.forsake index = some next) :
    Turns handoff next index := by
  unfold Handoff.forsake at forsaken
  split at forsaken
  next error stands =>
    obtain ⟨replacement, found⟩ := stage_found handoff index _ stands
    cases forsaken
    exact ⟨_, _, turned_move handoff index _ handoff.state _ found (.dispatched _ error) nofun nofun⟩
  next => cases forsaken

theorem finish_turns (handoff next : Handoff) (index : Nat) (finished : handoff.finish index = some next) :
    Turns handoff next index := by
  unfold Handoff.finish at finished
  split at finished
  next stands =>
    obtain ⟨replacement, found⟩ := stage_found handoff index _ stands
    cases finished
    unfold Handoff.transition
    split
    next held =>
      exact ⟨_, ⟨.returned none, replacement⟩, found, held ▸ .handed, .kept nofun rfl,
        move_attempts { handoff with state := .upgraded } index _ _ found, rfl, rfl, rfl, rfl, nofun⟩
    next gone =>
      exact ⟨_, ⟨.returned none, replacement⟩, found, .overtaken _ gone, .kept nofun rfl,
        move_attempts handoff index _ _ found, rfl, rfl, rfl, rfl, nofun⟩
  next => cases finished

theorem release_turns (handoff next : Handoff) (index : Nat) (released : handoff.release index = some next) :
    Turns handoff next index := by
  unfold Handoff.release at released
  split at released
  next stands =>
    obtain ⟨replacement, found⟩ := stage_found handoff index _ stands
    cases released
    exact ⟨_, ⟨.returned (some .aborted), replacement⟩, found, .aborted _, .kept nofun rfl,
      move_attempts handoff index _ _ found, rfl, rfl, rfl, rfl, nofun⟩
  next error other stands =>
    obtain ⟨replacement, found⟩ := stage_found handoff index _ stands
    cases released
    unfold Handoff.transition
    split
    next held => exact ⟨_, _, turned_move handoff index _ .ready _ found (held ▸ .released error other) nofun nofun⟩
    next gone => exact ⟨_, _, turned_move handoff index _ handoff.state _ found (.unreleased _ error other gone) nofun nofun⟩
  next => cases released

theorem reset_turns (handoff next : Handoff) (index : Nat) (did : handoff.reset index = some next) :
    Turns handoff next index := by
  unfold Handoff.reset at did
  split at did
  next error stands =>
    obtain ⟨replacement, found⟩ := stage_found handoff index _ stands
    cases did
    unfold Handoff.transition
    split
    next held =>
      exact ⟨_, ⟨.returned (some error), replacement⟩, found, held ▸ .reset error, .kept nofun rfl,
        move_attempts { handoff with state := .ready } index _ _ found, rfl, rfl, rfl, rfl, nofun⟩
    next gone =>
      exact ⟨_, ⟨.returned (some error), replacement⟩, found, .unreset _ error gone, .kept nofun rfl,
        move_attempts handoff index _ _ found, rfl, rfl, rfl, rfl, nofun⟩
  next => cases did

theorem act_turns (handoff next : Handoff) (index : Nat) (act : Act) (acted : handoff.act? index act = some next) :
    Turns handoff next index := by
  cases act with
  | claim => exact claim_turns handoff next index acted
  | report => exact report_turns handoff next index acted
  | prepare refusal => exact prepare_turns handoff next index refusal acted
  | confirm => exact confirm_turns handoff next index acted
  | spawn refusal => exact spawn_turns handoff next index refusal acted
  | attach refusal => exact attach_turns handoff next index refusal acted
  | wake cause => exact wake_turns handoff next index cause acted
  | reap => exact reap_turns handoff next index acted
  | forsake => exact forsake_turns handoff next index acted
  | finish => exact finish_turns handoff next index acted
  | release => exact release_turns handoff next index acted
  | reset => exact reset_turns handoff next index acted

end Handoff

theorem turned_found (handoff next : Handoff) (index other : Nat) (attempt after rival : Attempt)
    (turned : Turned handoff next index attempt after) (found : next.attempts[other]? = some rival) :
    other = index ∧ after = rival ∨ other ≠ index ∧ handoff.attempts[other]? = some rival := by
  rw [turned.attempts] at found
  by_cases same : other = index
  · subst same
    rw [List.getElem?_set_self (List.getElem?_eq_some_iff.mp turned.found).1] at found
    cases found
    exact Or.inl ⟨rfl, rfl⟩
  · rw [List.getElem?_set_ne (Ne.symm same)] at found
    exact Or.inr ⟨same, found⟩

theorem turned_own (handoff next : Handoff) (index : Nat) (attempt after : Attempt)
    (turned : Turned handoff next index attempt after) : next.attempts[index]? = some after := by
  rw [turned.attempts, List.getElem?_set_self (List.getElem?_eq_some_iff.mp turned.found).1]

theorem turned_other (handoff next : Handoff) (index other : Nat) (attempt after : Attempt)
    (turned : Turned handoff next index attempt after) (apart : other ≠ index) :
    next.attempts[other]? = handoff.attempts[other]? := by
  rw [turned.attempts, List.getElem?_set_ne (Ne.symm apart)]

theorem turned_stage (handoff next : Handoff) (index : Nat) (attempt after : Attempt)
    (turned : Turned handoff next index attempt after) : next.stage? index = some after.stage := by
  rw [Handoff.stage?, turned_own handoff next index attempt after turned]
  rfl

theorem attempt_stage (handoff : Handoff) (index : Nat) (attempt : Attempt) (found : handoff.attempts[index]? = some attempt) :
    handoff.stage? index = some attempt.stage := by
  rw [Handoff.stage?, found]
  rfl

theorem entered_found (handoff : Handoff) (index : Nat) (attempt : Attempt)
    (found : handoff.enter.attempts[index]? = some attempt) :
    handoff.attempts[index]? = some attempt ∨ index = handoff.attempts.length ∧ attempt = ({} : Attempt) := by
  rw [Handoff.enter, List.getElem?_append] at found
  split at found
  next => exact Or.inl found
  next beyond =>
    have first : index - handoff.attempts.length = 0 := by
      have := (List.getElem?_eq_some_iff.mp found).1
      simpa using this
    rw [first] at found
    cases found
    exact Or.inr ⟨by omega, rfl⟩

-- The stage at which an attempt takes a step.
def Act.isAt : Act → Attempt.Stage → Bool
  | .claim, .entered => true
  | .report, .refused => true
  | .prepare _, .preparing => true
  | .confirm, .prepared => true
  | .spawn _, .spawning => true
  | .attach _, .spawned => true
  | .wake _, .waiting => true
  | .reap, .killing _ => true
  | .forsake, .killing _ => true
  | .finish, .succeeded => true
  | .release, .failing _ => true
  | .reset, .resetting _ => true
  | _, _ => false

theorem act_stage (handoff next : Handoff) (index : Nat) (act : Act) (stage : Attempt.Stage)
    (acted : handoff.act? index act = some next) (stands : handoff.stage? index = some stage) : act.isAt stage = true := by
  cases act <;>
    simp only [Handoff.act?, Handoff.claim, Handoff.report, Handoff.prepare, Handoff.confirm, Handoff.spawn, Handoff.attach,
      Handoff.wake, Handoff.reap, Handoff.forsake, Handoff.finish, Handoff.release, Handoff.reset, stands] at acted <;>
    split at acted
  all_goals
    first
    | cases acted; done
    | next same => cases same; rfl

theorem entered_claims (handoff next : Handoff) (index : Nat) (act : Act) (acted : handoff.act? index act = some next)
    (entered : handoff.stage? index = some .entered) : act = .claim := by
  have due := act_stage handoff next index act _ acted entered
  cases act with
  | claim => rfl
  | _ => cases due

end ServiceHost.Upgrade
