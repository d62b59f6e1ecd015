import Mathlib.Data.List.Basic
import ServiceHost.Discovery.Cache
import ServiceHost.Registration.Key

set_option autoImplicit false

namespace ServiceHost

-- What goes on behind a channel: its follower reads the store, subscribes again after a pause, or comes to its end
-- because the process shuts down, and those who have the channel pick targets.
inductive Line.Work where
  | observe (now : Nat) (store : Store)
  | resubscribe (now : Nat) (store : Store)
  | quit
  | pick

def Line.work (line : Line) : Line.Work → Line
  | .observe now store =>
      match line.follower with
      | some follower =>
          let (follower, channel) := follower.observe now store line.channel
          { line with follower := some follower, channel }
      | none => line
  | .resubscribe now store =>
      match line.follower with
      | some follower =>
          if follower.due?.any (· ≤ now) then
            let (follower, _, channel) := follower.resubscribe now store line.channel
            { line with follower := some follower, channel }
          else line
      | none => line
  | .quit => line.stopFollower
  | .pick => { line with channel := line.channel.pick.2 }

-- Such work neither opens a channel again nor brings a follower back, and it gives no signals.
structure Line.Calms (before after : Line) : Prop where
  closed : after.channel.closed = before.channel.closed
  handle : after.handle = before.handle
  signalled : after.signalled = before.signalled
  followed : after.isFollowed = true → before.isFollowed = true

theorem Line.calms_refl (line : Line) : line.Calms line := ⟨rfl, rfl, rfl, id⟩

theorem Line.calms_stop (line : Line) : line.Calms line.stopFollower where
  closed := rfl
  handle := rfl
  signalled := rfl
  followed := by
    intro followed
    cases follower : line.follower <;> simp [isFollowed, stopFollower, Follower.stop, follower] at followed

section Worked

variable (lines : List Line) (number : Nat) (change : Line → Line) (calms : ∀ line : Line, line.Calms (change line))

include calms

theorem Line.worked_found (place : Nat) (line : Line) (found : lines[place]? = some line) :
    ∃ after, (lines.modify number change)[place]? = some after ∧ line.Calms after := by
  by_cases same : number = place
  · exact ⟨change line, by simp [same, found], calms line⟩
  · exact ⟨line, by simp [same, found], line.calms_refl⟩

theorem Line.worked_before (place : Nat) (after : Line) (present : (lines.modify number change)[place]? = some after) :
    ∃ line, lines[place]? = some line ∧ line.Calms after := by
  have inside : place < lines.length := by simpa using (List.getElem?_eq_some_iff.mp present).1
  have found := List.getElem?_eq_getElem inside
  obtain ⟨other, there, calm⟩ := worked_found lines number change calms place _ found
  cases present.symm.trans there
  exact ⟨lines[place], found, calm⟩

end Worked

theorem Follower.apply_closed (channel : Channel) (change : Change) : (apply channel change).closed = channel.closed := by
  unfold apply
  split
  · split <;> rfl
  · rfl

theorem Follower.observe_calms (now : Nat) (store : Store) (follower : Follower) (channel : Channel) :
    (follower.observe now store channel).2.closed = channel.closed ∧
      ((follower.observe now store channel).1.phase ≠ .stopped → follower.phase ≠ .stopped) := by
  unfold observe
  split
  next watch following =>
    refine ⟨?_, fun _ stopped => by rw [following] at stopped; cases stopped⟩
    split
    · exact apply_closed channel _
    · rfl
    · rfl
  next => exact ⟨rfl, id⟩

theorem Follower.subscribe_closed (now : Nat) (root : String) (store : Store) (channel : Channel) :
    (subscribe now root store channel).2.2.closed = channel.closed := by
  unfold subscribe
  split
  · rfl
  · split <;> rfl

theorem Follower.resubscribe_closed (now : Nat) (store : Store) (follower : Follower) (channel : Channel) :
    (follower.resubscribe now store channel).2.2.closed = channel.closed := by
  have subscribed := subscribe_closed now follower.root store channel
  unfold resubscribe
  split
  next same =>
    rw [same] at subscribed
    exact subscribed
  next same =>
    rw [same] at subscribed
    exact subscribed

theorem Channel.pick_closed (channel : Channel) : channel.pick.2.closed = channel.closed := by
  unfold pick
  split
  · rfl
  · split <;> rfl

theorem Line.work_calms (line : Line) (work : Line.Work) : line.Calms (line.work work) := by
  have same := line.calms_refl
  cases work with
  | observe now store =>
      cases held : line.follower with
      | none =>
          simp only [Line.work, held]
          exact same
      | some follower =>
          obtain ⟨closed, running⟩ := follower.observe_calms now store line.channel
          simp only [Line.work, held]
          exact ⟨closed, rfl, rfl, fun followed => by simpa [isFollowed, held] using running (by simpa [isFollowed] using followed)⟩
  | resubscribe now store =>
      cases held : line.follower with
      | none =>
          simp only [Line.work, held]
          exact same
      | some follower =>
          simp only [Line.work, held]
          split
          next due =>
            refine ⟨follower.resubscribe_closed now store line.channel, rfl, rfl, fun _ => ?_⟩
            rw [isFollowed, held, Option.any_some, decide_eq_true_eq]
            intro stopped
            simp [Follower.due?, stopped] at due
          next => exact same
  | quit => exact calms_stop line
  | pick => exact ⟨line.channel.pick_closed, rfl, rfl, id⟩

theorem Follower.observe_runs (now : Nat) (store : Store) (follower : Follower) (channel : Channel)
    (running : follower.phase ≠ .stopped) : (follower.observe now store channel).1.phase ≠ .stopped := by
  unfold observe
  split
  next => split <;> exact nofun
  next => exact running

theorem Follower.resubscribe_runs (now : Nat) (store : Store) (follower : Follower) (channel : Channel) :
    (follower.resubscribe now store channel).1.phase ≠ .stopped := by
  unfold resubscribe
  split <;> exact nofun

theorem Line.is_followed_iff (line : Line) :
    line.isFollowed = true ↔ ∃ follower, line.follower = some follower ∧ follower.phase ≠ .stopped := by
  simp [isFollowed, Option.any_eq_true]

theorem Line.work_follows (line : Line) (work : Line.Work) (goesOn : work ≠ .quit) (followed : line.isFollowed = true) :
    (line.work work).isFollowed = true := by
  obtain ⟨follower, held, running⟩ := line.is_followed_iff.mp followed
  rw [is_followed_iff]
  cases work with
  | observe now store =>
      simp only [Line.work, held]
      exact ⟨_, rfl, follower.observe_runs now store line.channel running⟩
  | resubscribe now store =>
      simp only [Line.work, held]
      split
      next => exact ⟨_, rfl, follower.resubscribe_runs now store line.channel⟩
      next => exact ⟨follower, held, running⟩
  | quit => exact absurd rfl goesOn
  | pick => exact ⟨follower, held, running⟩

namespace Cache

inductive Act where
  | checkOpen
  | lookUp
  | lock
  | lookAgain
  | refuse (failure : Failure)
  | connect (targets : Table Endpoint) (watch : Store.Watch)
  | keep
  | giveUp (failure : Failure)
  | hangUp
  | drop

inductive Move where
  | enter (inquiry : Inquiry)
  | act (index : Nat) (act : Act)
  | work (line : Nat) (work : Line.Work)
  | endFollower (line : Nat)
  | shutDown
  | shutStep (index : Nat)

-- The channel that a dial opens. Only a channel to discovered endpoints is followed.
def opening (root : String) (inquiry : Inquiry) (targets : Table Endpoint) (watch : Store.Watch) : Line :=
  match inquiry.endpoint with
  | some _ => { channel := { name := inquiry.name, targets } }
  | none =>
      { channel := { name := inquiry.name, targets }
        follower := some
          { root := Registration.serviceRoot root inquiry.service inquiry.rpc, phase := .following watch } }

theorem opening_unclosed (root : String) (inquiry : Inquiry) (targets : Table Endpoint) (watch : Store.Watch) :
    (opening root inquiry targets watch).channel.closed = false := by
  unfold opening
  split <;> rfl

def connect (cache : Cache) (index : Nat) (targets : Table Endpoint) (watch : Store.Watch) : Option Cache := do
  let errand ← cache.errands[index]?
  cache.open? index (opening cache.root errand.inquiry targets watch)

def act? (cache : Cache) (index : Nat) : Act → Option Cache
  | .checkOpen => cache.checkOpen index
  | .lookUp => cache.lookUp index
  | .lock => cache.lock index
  | .lookAgain => cache.lookAgain index
  | .refuse failure => cache.refuse index failure
  | .connect targets watch => cache.connect index targets watch
  | .keep => cache.keep index
  | .giveUp failure => cache.giveUp index failure
  | .hangUp => cache.hangUp index
  | .drop => cache.drop index

def move? (cache : Cache) : Move → Option Cache
  | .enter inquiry => some (cache.enter inquiry)
  | .act index act => cache.act? index act
  | .work line work => some { cache with lines := cache.lines.modify line (·.work work) }
  | .endFollower line => cache.endFollower line
  | .shutDown => some cache.shutDown
  | .shutStep index => cache.shutStep index

def step (cache : Cache) (move : Move) : Cache := (cache.move? move).getD cache

def run (cache : Cache) (moves : List Move) : Cache := moves.foldl step cache

end Cache

-- The caller is inside a dial, from its beginning until its channel has been kept or closed.
def Errand.isDialing (errand : Errand) : Bool :=
  match errand.stage with
  | .dialing _ => true
  | .hangingUp _ _ _ => true
  | _ => false

-- The stages at which a caller waits and can be dropped.
def Errand.Stage.isPending : Errand.Stage → Bool
  | .admitted => true
  | .queued => true
  | .dialing _ => true
  | .hangingUp _ _ _ => true
  | _ => false

def Errand.Stage.isOver : Errand.Stage → Bool
  | .returned _ => true
  | .dropped => true
  | _ => false

namespace Cache

def stage? (cache : Cache) (index : Nat) : Option Errand.Stage := (cache.errands[index]?).map (·.stage)

-- The steps of a caller: from one stage to another, with what else the step makes of the cache.
inductive Turn (cache : Cache) (inquiry : Inquiry) : Errand.Stage → Errand.Stage → Cache → Prop where
  | turnedAway : cache.closed = true → Turn cache inquiry .entered (.returned (.error (.dial .closed))) cache
  | admitted : cache.closed = false → Turn cache inquiry .entered .admitted cache
  | found (line : Nat) : cache.isFree = true → cache.find? inquiry.key = some line →
      Turn cache inquiry .admitted (.returned (.ok line)) cache
  | missed : cache.isFree = true → cache.find? inquiry.key = none → Turn cache inquiry .admitted .queued cache
  | locked : cache.isFree = true → Turn cache inquiry .queued .locked cache
  | foundAgain (line : Nat) : cache.find? inquiry.key = some line → Turn cache inquiry .locked (.returned (.ok line)) cache
  | dials : cache.find? inquiry.key = none →
      Turn cache inquiry .locked (.dialing none) { cache with dials := cache.dials + 1 }
  | refused (failure : Failure) :
      Turn cache inquiry (.dialing none) (.returned (.error failure)) { cache with failed := cache.failed + 1 }
  | connected (targets : Table Endpoint) (watch : Store.Watch) :
      Turn cache inquiry (.dialing none) (.dialing (some cache.lines.length))
        { cache with lines := cache.lines ++ [opening cache.root inquiry targets watch] }
  | kept (line : Nat) :
      Turn cache inquiry (.dialing (some line)) (.returned (.ok line))
        { cache with entries := cache.entries ++ [(inquiry.key, line)], connected := cache.connected + 1 }
  | gaveUp (line : Nat) (failure : Failure) :
      Turn cache inquiry (.dialing (some line)) (.hangingUp line .entered failure) cache
  | hangs (line : Nat) (closer later : Line.Closer) (failure : Failure) (found closing : Line) :
      cache.lines[line]? = some found → closer.step? found = some (later, closing) → later ≠ .returned →
      Turn cache inquiry (.hangingUp line closer failure) (.hangingUp line later failure)
        { cache with lines := cache.lines.set line closing }
  | hungUp (line : Nat) (closer : Line.Closer) (failure : Failure) (found closing : Line) :
      cache.lines[line]? = some found → closer.step? found = some (.returned, closing) →
      Turn cache inquiry (.hangingUp line closer failure) (.returned (.error failure))
        { cache with lines := cache.lines.set line closing, failed := cache.failed + 1 }
  | dropped (stage : Errand.Stage) : stage.isPending = true → Turn cache inquiry stage .dropped cache

structure Turned (cache next : Cache) (index : Nat) (errand : Errand) (stage : Errand.Stage) (after : Cache) : Prop where
  found : cache.errands[index]? = some errand
  turn : Turn cache errand.inquiry errand.stage stage after
  next : next = { after with errands := cache.errands.set index { errand with stage } }

def Turns (cache next : Cache) (index : Nat) (act : Act) : Prop :=
  ∃ errand stage after, Turned cache next index errand stage after ∧ (stage = .dropped → act = .drop)

theorem move_errand (cache : Cache) (index : Nat) (errand : Errand) (stage : Errand.Stage)
    (found : cache.errands[index]? = some errand) :
    cache.moveErrand index stage = { cache with errands := cache.errands.set index { errand with stage } } := by
  rw [moveErrand, List.modify_eq_set_getElem?, found]
  rfl

theorem turned_move (cache after : Cache) (index : Nat) (act : Act) (inquiry : Inquiry) (before stage : Errand.Stage)
    (found : cache.errands[index]? = some { inquiry, stage := before }) (same : after.errands = cache.errands)
    (turn : Turn cache inquiry before stage after) (undropped : stage = .dropped → act = .drop) :
    Turns cache (after.moveErrand index stage) index act :=
  ⟨_, stage, after, ⟨found, turn, by rw [move_errand after index _ stage (same ▸ found), same]⟩, undropped⟩

theorem check_open_turns (cache next : Cache) (index : Nat) (checked : cache.checkOpen index = some next) :
    Turns cache next index .checkOpen := by
  unfold checkOpen at checked
  split at checked
  next inquiry found =>
    cases checked
    cases closed : cache.closed with
    | true => exact turned_move cache cache index _ inquiry _ _ found rfl (.turnedAway closed) nofun
    | false => exact turned_move cache cache index _ inquiry _ _ found rfl (.admitted closed) nofun
  next => cases checked

theorem look_up_turns (cache next : Cache) (index : Nat) (looked : cache.lookUp index = some next) :
    Turns cache next index .lookUp := by
  unfold lookUp at looked
  split at looked
  next inquiry found =>
    split at looked
    next free =>
      cases looked
      split
      next line present => exact turned_move cache cache index _ inquiry _ _ found rfl (.found line free present) nofun
      next missing => exact turned_move cache cache index _ inquiry _ _ found rfl (.missed free missing) nofun
    next => cases looked
  next => cases looked

theorem lock_turns (cache next : Cache) (index : Nat) (locked : cache.lock index = some next) : Turns cache next index .lock := by
  unfold Cache.lock at locked
  split at locked
  next inquiry found =>
    split at locked
    next free =>
      cases locked
      exact turned_move cache cache index _ inquiry _ _ found rfl (.locked free) nofun
    next => cases locked
  next => cases locked

theorem look_again_turns (cache next : Cache) (index : Nat) (looked : cache.lookAgain index = some next) :
    Turns cache next index .lookAgain := by
  unfold lookAgain at looked
  split at looked
  next inquiry found =>
    split at looked
    next line present =>
      cases looked
      exact turned_move cache cache index _ inquiry _ _ found rfl (.foundAgain line present) nofun
    next missing =>
      cases looked
      exact turned_move cache { cache with dials := cache.dials + 1 } index _ inquiry _ _ found rfl (.dials missing) nofun
  next => cases looked

theorem refuse_turns (cache next : Cache) (index : Nat) (failure : Failure) (refused : cache.refuse index failure = some next) :
    Turns cache next index (.refuse failure) := by
  unfold refuse at refused
  split at refused
  next inquiry found =>
    cases refused
    exact turned_move cache { cache with failed := cache.failed + 1 } index _ inquiry _ _ found rfl (.refused failure) nofun
  next => cases refused

theorem connect_turns (cache next : Cache) (index : Nat) (targets : Table Endpoint) (watch : Store.Watch)
    (connected : cache.connect index targets watch = some next) : Turns cache next index (.connect targets watch) := by
  obtain ⟨errand, found, opened⟩ := Option.bind_eq_some_iff.mp connected
  unfold open? at opened
  split at opened
  next inquiry dialing =>
    cases found.symm.trans dialing
    cases opened
    exact turned_move cache { cache with lines := cache.lines ++ [opening cache.root inquiry targets watch] } index _ inquiry _ _
      dialing rfl (.connected targets watch) nofun
  next => cases opened

theorem keep_turns (cache next : Cache) (index : Nat) (kept : cache.keep index = some next) : Turns cache next index .keep := by
  unfold keep at kept
  split at kept
  next inquiry line found =>
    cases kept
    exact turned_move cache
      { cache with entries := cache.entries ++ [(inquiry.key, line)], connected := cache.connected + 1 } index _ inquiry _ _
      found rfl (.kept line) nofun
  next => cases kept

theorem give_up_turns (cache next : Cache) (index : Nat) (failure : Failure) (gave : cache.giveUp index failure = some next) :
    Turns cache next index (.giveUp failure) := by
  unfold giveUp at gave
  split at gave
  next inquiry line found =>
    cases gave
    exact turned_move cache cache index _ inquiry _ _ found rfl (.gaveUp line failure) nofun
  next => cases gave

theorem hang_up_turns (cache next : Cache) (index : Nat) (hung : cache.hangUp index = some next) : Turns cache next index .hangUp := by
  unfold hangUp at hung
  split at hung
  next inquiry line closer failure found =>
    obtain ⟨held, present, rest⟩ := Option.bind_eq_some_iff.mp hung
    obtain ⟨⟨later, closing⟩, stepped, done⟩ := Option.bind_eq_some_iff.mp rest
    simp only at done
    split at done
    next returned =>
      subst returned
      cases done
      exact turned_move cache
        { cache with lines := cache.lines.set line closing, failed := cache.failed + 1 } index _ inquiry _ _ found rfl
        (.hungUp line closer failure held closing present stepped) nofun
    next going =>
      cases done
      exact turned_move cache { cache with lines := cache.lines.set line closing } index _ inquiry _ _ found rfl
        (.hangs line closer later failure held closing present stepped going) nofun
  next => cases hung

theorem drop_turns (cache next : Cache) (index : Nat) (dropped : cache.drop index = some next) : Turns cache next index .drop := by
  unfold drop at dropped
  split at dropped
  next inquiry found =>
    cases dropped
    exact turned_move cache cache index _ inquiry _ _ found rfl (.dropped _ rfl) fun _ => rfl
  next inquiry found =>
    cases dropped
    exact turned_move cache cache index _ inquiry _ _ found rfl (.dropped _ rfl) fun _ => rfl
  next inquiry line found =>
    cases dropped
    exact turned_move cache cache index _ inquiry _ _ found rfl (.dropped _ rfl) fun _ => rfl
  next inquiry line closer failure found =>
    cases dropped
    exact turned_move cache cache index _ inquiry _ _ found rfl (.dropped _ rfl) fun _ => rfl
  next => cases dropped

theorem act_turns (cache next : Cache) (index : Nat) (act : Act) (acted : cache.act? index act = some next) :
    Turns cache next index act := by
  cases act with
  | checkOpen => exact check_open_turns cache next index acted
  | lookUp => exact look_up_turns cache next index acted
  | lock => exact lock_turns cache next index acted
  | lookAgain => exact look_again_turns cache next index acted
  | refuse failure => exact refuse_turns cache next index failure acted
  | connect targets watch => exact connect_turns cache next index targets watch acted
  | keep => exact keep_turns cache next index acted
  | giveUp failure => exact give_up_turns cache next index failure acted
  | hangUp => exact hang_up_turns cache next index acted
  | drop => exact drop_turns cache next index acted

inductive Does (cache : Cache) : Cache → Move → Prop where
  | entered (inquiry : Inquiry) : Does cache (cache.enter inquiry) (.enter inquiry)
  | turned (next after : Cache) (index : Nat) (act : Act) (errand : Errand) (stage : Errand.Stage) :
      Turned cache next index errand stage after → (stage = .dropped → act = .drop) → Does cache next (.act index act)
  | worked (move : Move) (number : Nat) (change : Line → Line) : (∀ line : Line, line.Calms (change line)) →
      (∀ line, cache.lines[number]? = some line → line.isFollowed = true → line.signalled = false →
        move ≠ .work number .quit → (change line).isFollowed = true) →
      Does cache { cache with lines := cache.lines.modify number change } move
  | asked : Does cache cache.shutDown .shutDown
  | marked (index : Nat) : cache.shutters[index]? = some .entered →
      Does cache { cache with closed := true, shutters := cache.shutters.set index .shut } (.shutStep index)
  | drained (index : Nat) : cache.shutters[index]? = some .shut → cache.isFree = true →
      Does cache
        { cache with entries := [], shutters := cache.shutters.set index (nextToClose (cache.entries.map (·.2))) }
        (.shutStep index)
  | closes (index line : Nat) (closer later : Line.Closer) (left : List Nat) (found closing : Line) :
      cache.shutters[index]? = some (.closing line closer left) → cache.lines[line]? = some found →
      closer.step? found = some (later, closing) →
      Does cache
        { cache with
          lines := cache.lines.set line closing
          shutters := cache.shutters.set index (if later = .returned then nextToClose left else .closing line later left) }
        (.shutStep index)

theorem end_follower_does (cache next : Cache) (line : Nat) (ended : cache.endFollower line = some next) :
    Does cache next (.endFollower line) := by
  unfold endFollower at ended
  split at ended
  next held found =>
    split at ended
    next signalled =>
      cases ended
      have stopped : cache.lines.set line held.stopFollower = cache.lines.modify line Line.stopFollower := by
        rw [List.modify_eq_set_getElem?, found]
        rfl
      rw [stopped]
      refine .worked _ line _ Line.calms_stop fun other same _ unsignalled => ?_
      cases same.symm.trans found
      cases signalled.symm.trans unsignalled
    next => cases ended
  next => cases ended

theorem shut_does (cache next : Cache) (index : Nat) (shut : cache.shutStep index = some next) :
    Does cache next (.shutStep index) := by
  unfold shutStep at shut
  split at shut
  next entered =>
    cases shut
    exact .marked index entered
  next waiting =>
    split at shut
    next free =>
      cases shut
      exact .drained index waiting free
    next => cases shut
  next line closer left closing =>
    obtain ⟨held, found, rest⟩ := Option.bind_eq_some_iff.mp shut
    obtain ⟨⟨later, after⟩, stepped, same⟩ := Option.bind_eq_some_iff.mp rest
    cases same
    exact .closes index line closer later left held after closing found stepped
  next => cases shut

theorem move_does (cache next : Cache) (move : Move) (moved : cache.move? move = some next) : Does cache next move := by
  cases move with
  | enter inquiry =>
      cases moved
      exact .entered inquiry
  | act index act =>
      obtain ⟨errand, stage, after, turned, undropped⟩ := act_turns cache next index act moved
      exact .turned next after index act errand stage turned undropped
  | work line work =>
      cases moved
      refine .worked _ line _ (fun held => held.work_calms work) fun held _ followed _ goesOn => ?_
      exact held.work_follows work (fun quits => goesOn (quits ▸ rfl)) followed
  | endFollower line => exact end_follower_does cache next line moved
  | shutDown =>
      cases moved
      exact .asked
  | shutStep index => exact shut_does cache next index moved

theorem unasked_does (cache next : Cache) (move : Move) (does : Does cache next move) (unasked : cache.shutters = [])
    (other : move ≠ .shutDown) :
    (∃ inquiry, next = cache.enter inquiry) ∨
      (∃ index act errand stage after, move = .act index act ∧ Turned cache next index errand stage after ∧
        (stage = .dropped → act = .drop)) ∨
      ∃ (number : Nat) (change : Line → Line), (∀ line : Line, line.Calms (change line)) ∧
        next = { cache with lines := cache.lines.modify number change } := by
  have nobody (index : Nat) (shutter : Shutter) (found : cache.shutters[index]? = some shutter) : False := by
    rw [unasked] at found
    cases found
  cases does with
  | entered inquiry => exact Or.inl ⟨inquiry, rfl⟩
  | turned _ after index act errand stage turned undropped =>
      exact Or.inr (Or.inl ⟨index, act, errand, stage, after, rfl, turned, undropped⟩)
  | worked _ number change calms _ => exact Or.inr (Or.inr ⟨number, change, calms, rfl⟩)
  | asked => exact absurd rfl other
  | marked index entered => exact (nobody index _ entered).elim
  | drained index waiting => exact (nobody index _ waiting).elim
  | closes index _ _ _ _ _ _ closing => exact (nobody index _ closing).elim

theorem find_mem (cache : Cache) (key : String) (line : Nat) (found : cache.find? key = some line) :
    (key, line) ∈ cache.entries := by
  obtain ⟨⟨other, number⟩, present, rfl⟩ := Option.map_eq_some_iff.mp found
  obtain rfl : other = key := by simpa using List.find?_some present
  exact List.mem_of_find?_eq_some present

theorem find_none (cache : Cache) (key : String) : cache.find? key = none ↔ ∀ line, (key, line) ∉ cache.entries := by
  rw [find?, Option.map_eq_none_iff, List.find?_eq_none]
  constructor
  · exact fun missing line member => missing _ member (by simp)
  · rintro missing ⟨other, line⟩ member same
    obtain rfl : other = key := by simpa using same
    exact missing line member

-- Only a dial that succeeds adds an entry. Anybody else who returns with a channel has found it.
theorem turn_entries (cache after : Cache) (inquiry : Inquiry) (before stage : Errand.Stage)
    (turn : Turn cache inquiry before stage after) :
    (∀ line, stage = .returned (.ok line) → cache.find? inquiry.key = some line) ∧ after.entries = cache.entries ∧
        after.connected = cache.connected ∨
      ∃ line, before = .dialing (some line) ∧ stage = .returned (.ok line) ∧
        after.entries = cache.entries ++ [(inquiry.key, line)] ∧ after.connected = cache.connected + 1 := by
  cases turn with
  | kept line => exact Or.inr ⟨line, rfl, rfl, rfl, rfl⟩
  | found line _ present =>
      refine Or.inl ⟨fun other same => ?_, rfl, rfl⟩
      cases same
      exact present
  | foundAgain line present =>
      refine Or.inl ⟨fun other same => ?_, rfl, rfl⟩
      cases same
      exact present
  | _ => exact Or.inl ⟨nofun, rfl, rfl⟩

theorem turn_over (cache after : Cache) (inquiry : Inquiry) (before stage : Errand.Stage)
    (turn : Turn cache inquiry before stage after) : before.isOver = false := by
  cases turn with
  | dropped _ pending => cases before <;> first | rfl | cases pending
  | _ => rfl

section Turned

variable {cache next after : Cache} {index : Nat} {errand : Errand} {stage : Errand.Stage}

theorem turned_found (turned : Turned cache next index errand stage after) (other : Nat) (rival : Errand)
    (found : next.errands[other]? = some rival) :
    other = index ∧ rival = { errand with stage } ∨ other ≠ index ∧ cache.errands[other]? = some rival := by
  rw [turned.next] at found
  by_cases same : other = index
  · subst same
    rw [List.getElem?_set_self (List.getElem?_eq_some_iff.mp turned.found).1] at found
    cases found
    exact Or.inl ⟨rfl, rfl⟩
  · rw [List.getElem?_set_ne (Ne.symm same)] at found
    exact Or.inr ⟨same, found⟩

theorem turned_stage (turned : Turned cache next index errand stage after) (other : Nat) (found : Errand.Stage)
    (stands : next.stage? other = some found) :
    other = index ∧ found = stage ∨ other ≠ index ∧ cache.stage? other = some found := by
  obtain ⟨rival, present, rfl⟩ := Option.map_eq_some_iff.mp stands
  rcases turned_found turned other rival present with ⟨same, rfl⟩ | ⟨apart, before⟩
  · exact Or.inl ⟨same, rfl⟩
  · exact Or.inr ⟨apart, by rw [stage?, before]; rfl⟩

theorem turned_own (turned : Turned cache next index errand stage after) :
    next.errands[index]? = some { errand with stage } := by
  rw [turned.next, List.getElem?_set_self (List.getElem?_eq_some_iff.mp turned.found).1]

theorem turned_other (turned : Turned cache next index errand stage after) (other : Nat) (apart : other ≠ index) :
    next.errands[other]? = cache.errands[other]? := by
  rw [turned.next, List.getElem?_set_ne (Ne.symm apart)]

theorem turned_mem (turned : Turned cache next index errand stage after) (rival : Errand) (member : rival ∈ next.errands) :
    rival = { errand with stage } ∨ rival ∈ cache.errands := by
  rw [turned.next] at member
  exact (List.mem_or_eq_of_mem_set member).symm

theorem turned_over (turned : Turned cache next index errand stage after) (other : Nat) (rival : Errand)
    (found : cache.errands[other]? = some rival) (ended : rival.stage.isOver = true) : next.errands[other]? = some rival := by
  rw [turned_other turned other, found]
  rintro rfl
  cases found.symm.trans turned.found
  cases (turn_over cache after _ _ stage turned.turn).symm.trans ended

theorem turned_lines (turned : Turned cache next index errand stage after) : next.lines = after.lines := by
  rw [turned.next]

-- No caller has a part in the closing of the cache.
theorem turned_keeps (turned : Turned cache next index errand stage after) :
    next.closed = cache.closed ∧ next.shutters = cache.shutters := by
  obtain ⟨inquiry, before⟩ := errand
  rw [turned.next]
  cases turned.turn <;> exact ⟨rfl, rfl⟩

theorem turned_entries (turned : Turned cache next index errand stage after) :
    (∀ line, stage = .returned (.ok line) → cache.find? errand.inquiry.key = some line) ∧ next.entries = cache.entries ∧
        next.connected = cache.connected ∨
      ∃ line, errand.stage = .dialing (some line) ∧ stage = .returned (.ok line) ∧
        next.entries = cache.entries ++ [(errand.inquiry.key, line)] ∧ next.connected = cache.connected + 1 := by
  rw [turned.next]
  exact turn_entries cache after errand.inquiry errand.stage stage turned.turn

theorem turned_grown (turned : Turned cache next index errand stage after) : cache.entries <+: next.entries := by
  rcases turned_entries turned with ⟨_, same, _⟩ | ⟨line, _, _, added, _⟩
  · exact same ▸ List.prefix_rfl
  · exact added ▸ List.prefix_append _ _

-- Whoever returns with a channel returns with one that is in the cache.
theorem turned_files (turned : Turned cache next index errand stage after) (line : Nat)
    (returned : stage = .returned (.ok line)) : (errand.inquiry.key, line) ∈ next.entries := by
  rcases turned_entries turned with ⟨finds, same, _⟩ | ⟨other, _, kept, added, _⟩
  · exact same ▸ find_mem cache _ line (finds line returned)
  · cases kept.symm.trans returned
    exact added ▸ List.mem_append_right _ List.mem_cons_self

end Turned

theorem entered_stage (cache : Cache) (inquiry : Inquiry) (index : Nat) (found : Errand.Stage)
    (stands : (cache.enter inquiry).stage? index = some found) :
    cache.stage? index = some found ∨ cache.stage? index = none ∧ found = .entered := by
  obtain ⟨errand, present, rfl⟩ := Option.map_eq_some_iff.mp stands
  rw [enter, List.getElem?_append] at present
  split at present
  next => exact Or.inl (by rw [stage?, present]; rfl)
  next beyond =>
    refine Or.inr ⟨by rw [stage?, List.getElem?_eq_none (Nat.le_of_not_lt beyond)]; rfl, ?_⟩
    rw [List.mem_singleton.mp (List.mem_of_getElem? present)]

theorem is_free_iff (cache : Cache) : cache.isFree = true ↔ ∀ errand ∈ cache.errands, errand.holdsLock = false := by
  simp [isFree]

theorem run_keeps (holds : Cache → Prop) (moves : List Move)
    (keeps : ∀ move ∈ moves, ∀ cache next : Cache, Does cache next move → holds cache → holds next) (cache : Cache)
    (begins : holds cache) : holds (cache.run moves) := by
  induction moves generalizing cache with
  | nil => exact begins
  | cons move rest ih =>
      refine ih (fun other member => keeps other (List.mem_cons_of_mem move member)) (cache.step move) ?_
      unfold step
      cases moved : cache.move? move with
      | none => exact begins
      | some next => exact keeps move List.mem_cons_self cache next (move_does cache next move moved) begins

theorem run_cons (cache : Cache) (move : Move) (rest : List Move) : cache.run (move :: rest) = (cache.step move).run rest := rfl

theorem run_append (cache : Cache) (first second : List Move) : cache.run (first ++ second) = (cache.run first).run second :=
  List.foldl_append

def withErrand (cache : Cache) (index : Nat) (inquiry : Inquiry) (stage : Errand.Stage) : Cache :=
  { cache with errands := cache.errands.set index { inquiry, stage } }

section Caller

variable (cache : Cache) (index : Nat) (inquiry : Inquiry) (inside : index < cache.errands.length)

theorem errand_set (stage : Errand.Stage) (found : cache.errands[index]? = some { inquiry, stage }) :
    cache.withErrand index inquiry stage = cache := by
  obtain ⟨inside, same⟩ := List.getElem?_eq_some_iff.mp found
  rw [withErrand, ← same, List.set_getElem_self inside]

include inside

theorem errand_found (stage : Errand.Stage) :
    (cache.withErrand index inquiry stage).errands[index]? = some { inquiry, stage } :=
  List.getElem?_set_self inside

theorem errand_moved (stage later : Errand.Stage) :
    (cache.withErrand index inquiry stage).moveErrand index later = cache.withErrand index inquiry later := by
  rw [move_errand _ index _ later (errand_found cache index inquiry inside stage)]
  simp [withErrand]

omit inside in
theorem errand_free (stage : Errand.Stage) (free : cache.isFree = true)
    (aside : Errand.holdsLock { inquiry, stage } = false) : (cache.withErrand index inquiry stage).isFree = true := by
  rw [is_free_iff] at free ⊢
  intro errand member
  rcases List.mem_or_eq_of_mem_set member with before | rfl
  · exact free errand before
  · exact aside

theorem entered_admitted (unclosed : cache.closed = false) :
    (cache.withErrand index inquiry .entered).step (.act index .checkOpen) = cache.withErrand index inquiry .admitted := by
  have still : (cache.withErrand index inquiry .entered).closed = false := unclosed
  simp only [step, move?, act?, checkOpen, errand_found cache index inquiry inside, still, Bool.false_eq_true, if_false,
    errand_moved cache index inquiry inside, Option.getD_some]

theorem admitted_queued (free : cache.isFree = true) (missing : cache.find? inquiry.key = none) :
    (cache.withErrand index inquiry .admitted).step (.act index .lookUp) = cache.withErrand index inquiry .queued := by
  have still : (cache.withErrand index inquiry .admitted).find? inquiry.key = none := missing
  simp only [step, move?, act?, lookUp, errand_found cache index inquiry inside,
    errand_free cache index inquiry .admitted free rfl, if_true, still, errand_moved cache index inquiry inside,
    Option.getD_some]

theorem queued_dialing (free : cache.isFree = true) (missing : cache.find? inquiry.key = none) :
    (cache.withErrand index inquiry .queued).run [.act index .lock, .act index .lookAgain] =
      ({ cache with dials := cache.dials + 1 } : Cache).withErrand index inquiry (.dialing none) := by
  have locks : (cache.withErrand index inquiry .queued).step (.act index .lock) = cache.withErrand index inquiry .locked := by
    simp only [step, move?, act?, Cache.lock, errand_found cache index inquiry inside,
      errand_free cache index inquiry .queued free rfl, if_true, errand_moved cache index inquiry inside, Option.getD_some]
  have looks : (cache.withErrand index inquiry .locked).step (.act index .lookAgain) =
      ({ cache with dials := cache.dials + 1 } : Cache).withErrand index inquiry (.dialing none) := by
    have still : (cache.withErrand index inquiry .locked).find? inquiry.key = none := missing
    simp only [step, move?, act?, lookAgain, errand_found cache index inquiry inside, still,
      errand_moved cache index inquiry inside, Option.getD_some]
    rfl
  rw [run, List.foldl_cons, List.foldl_cons, List.foldl_nil, locks, looks]

theorem dialing_connected (targets : Table Endpoint) (watch : Store.Watch) :
    (cache.withErrand index inquiry (.dialing none)).step (.act index (.connect targets watch)) =
      ({ cache with lines := cache.lines ++ [opening cache.root inquiry targets watch] } : Cache).withErrand index inquiry
        (.dialing (some cache.lines.length)) := by
  simp only [step, move?, act?, connect, errand_found cache index inquiry inside, Option.bind_eq_bind, Option.bind_some, open?,
    errand_moved cache index inquiry inside, Option.getD_some]
  rfl

theorem connected_kept (line : Nat) :
    (cache.withErrand index inquiry (.dialing (some line))).step (.act index .keep) =
      ({ cache with
        entries := cache.entries ++ [(inquiry.key, line)]
        connected := cache.connected + 1 } : Cache).withErrand index inquiry (.returned (.ok line)) := by
  simp only [step, move?, act?, keep, errand_found cache index inquiry inside, errand_moved cache index inquiry inside,
    Option.getD_some]
  rfl

end Caller

end Cache

end ServiceHost
