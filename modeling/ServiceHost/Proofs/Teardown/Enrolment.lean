import Mathlib.Data.List.Induction
import ServiceHost.Proofs.Teardown.Barrier

set_option autoImplicit false

namespace ServiceHost.Teardown

variable {β : Type}

-- The first step of a registration has read whether its hook is late.
structure Enrolment where
  name : String
  release : Bool
  late : Bool
  returned : Bool := false
deriving DecidableEq, Repr

-- The body of a hook is the number of its registration.
def Enrolment.hook (enrolment : Enrolment) (number : Nat) : Hook Nat :=
  { name := enrolment.name, release := enrolment.release, body := number }

def Enrolment.isOpen (enrolment : Enrolment) : Bool := !enrolment.late && !enrolment.returned

def Enrolment.isListed (enrolment : Enrolment) : Bool := !enrolment.late && enrolment.returned

-- What the late hooks do is logged aside.
structure Roll where
  session : Session Nat := { teardown := {} }
  enrolments : List Enrolment := []
  aside : List Event := []

inductive Step where
  | look (name : String) (release : Bool)
  | place (number : Nat)
  | shutdown (move : Move)
  | startLate (position : Nat)
  | finishLate (position : Nat) (panicked : Bool)
deriving DecidableEq, Repr

def place (teardown : Teardown β) (late : Bool) (hook : Hook β) : Teardown β :=
  if late then teardown.spawnLate hook else teardown.enlist hook

namespace Roll

def withTeardown (roll : Roll) (teardown : Teardown Nat) : Roll := { roll with session := { roll.session with teardown } }

def look (roll : Roll) (name : String) (release : Bool) : Roll :=
  { roll with enrolments := roll.enrolments ++ [{ name, release, late := roll.session.teardown.started }] }

def place (roll : Roll) (number : Nat) (enrolment : Enrolment) : Roll :=
  { roll.withTeardown (roll.session.teardown.place enrolment.late (enrolment.hook number)) with
    enrolments := roll.enrolments.set number { enrolment with returned := true } }

def step? (roll : Roll) : Step → Option Roll
  | .look name release => some (roll.look name release)
  | .place number =>
      match roll.enrolments[number]? with
      | some enrolment => if enrolment.returned then none else some (roll.place number enrolment)
      | none => none
  | .shutdown move => (roll.session.move? move).map fun session => { roll with session }
  | .startLate position =>
      match roll.session.teardown.late[position]? with
      | some { progress := .holding _, .. } =>
          some { roll.withTeardown (roll.session.teardown.startLate position) with aside := roll.aside ++ [.began position] }
      | _ => none
  | .finishLate position panicked =>
      match roll.session.teardown.late[position]? with
      | some { progress := .running, .. } =>
          some { roll.withTeardown (roll.session.teardown.finishLate position panicked) with
            aside := roll.aside ++ [.ended position panicked] }
      | _ => none

def step (roll : Roll) (step : Step) : Roll := (roll.step? step).getD roll

def run (roll : Roll) (steps : List Step) : Roll := steps.foldl Roll.step roll

-- Looked before the launch was claimed, and has not come to the list yet.
def isOpen (roll : Roll) (number : Nat) : Bool := roll.enrolments[number]?.any Enrolment.isOpen

def isListed (roll : Roll) (number : Nat) : Bool := roll.enrolments[number]?.any Enrolment.isListed

def hooks (roll : Roll) (late : Bool) : List (Hook Nat) :=
  if late then roll.session.teardown.late.map (·.hook)
  else roll.session.teardown.tasks.map (·.hook) ++ roll.session.teardown.hooks

end Roll

def Session.isLaunched (session : Session β) : Bool :=
  session.teardown.started && session.runs.all (fun run => !decide (run = .launching))

structure Stays (session next : Session β) : Prop where
  hooks : next.teardown.hooks = session.teardown.hooks
  tasks : next.teardown.tasks.map (·.hook) = session.teardown.tasks.map (·.hook)
  late : next.teardown.late = session.teardown.late
  launched : next.isLaunched = session.isLaunched

def Session.launch (session : Session β) (position : Nat) : Session β :=
  { session with
    teardown := session.teardown.launch, runs := session.runs.set position (.joining session.teardown.hooks.length) }

theorem all_set (runs : List Run) (position : Nat) (run after : Run) (test : Run → Bool)
    (found : runs[position]? = some run) (same : test after = test run) :
    (runs.set position after).all test = runs.all test := by
  induction runs generalizing position with
  | nil => rfl
  | cons first rest ih =>
      cases position with
      | zero =>
          cases found
          simp only [List.set_cons_zero, List.all_cons, same]
      | succ position =>
          simp only [List.set_cons_succ, List.all_cons, ih position found]

theorem launched_set (session : Session β) (position : Nat) (run after : Run) (teardown : Teardown β)
    (found : session.runs[position]? = some run) (started : teardown.started = session.teardown.started)
    (other : run ≠ .launching) (apart : after ≠ .launching) :
    ({ session with teardown, runs := session.runs.set position after } : Session β).isLaunched = session.isLaunched := by
  unfold Session.isLaunched
  rw [started, all_set session.runs position run after _ found (by simp [other, apart])]

theorem announced_stays (session : Session β) (position : Nat) (after : Run) (teardown : Teardown β)
    (found : session.runs[position]? = some .announced)
    (goes : Run.next? session.teardown .announced = some (after, teardown)) :
    Stays session { session with teardown, runs := session.runs.set position after } := by
  cases started : session.teardown.started with
  | true =>
      simp only [Run.next?, Teardown.claim, started, Bool.not_true] at goes
      cases goes
      exact ⟨rfl, rfl, rfl, launched_set session position _ _ _ found started.symm (by decide) (by decide)⟩
  | false =>
      simp only [Run.next?, Teardown.claim, started, Bool.not_false] at goes
      cases goes
      refine ⟨rfl, rfl, rfl, ?_⟩
      have claimed : Run.launching ∈ session.runs.set position .launching :=
        List.mem_set (List.getElem?_eq_some_iff.mp found).1 _
      have before : session.isLaunched = false := by simp [Session.isLaunched, started]
      rw [before]
      simpa [Session.isLaunched] using claimed

theorem advance_stays (session : Session β) (position : Nat) (run after : Run) (teardown : Teardown β)
    (found : session.runs[position]? = some run) (goes : run.next? session.teardown = some (after, teardown))
    (other : run ≠ .launching) : Stays session { session with teardown, runs := session.runs.set position after } := by
  have kept (apart : after ≠ .launching) (started : teardown.started = session.teardown.started) :=
    launched_set session position run after teardown found started other apart
  cases run with
  | called =>
      cases goes
      exact ⟨rfl, rfl, rfl, kept nofun rfl⟩
  | announced => exact announced_stays session position after teardown found goes
  | launching => exact absurd rfl other
  | joining left =>
      cases left with
      | zero =>
          cases goes
          exact ⟨rfl, rfl, rfl, kept nofun rfl⟩
      | succ left =>
          obtain ⟨_, same⟩ := Option.ite_none_right_eq_some.mp goes
          cases same
          exact ⟨rfl, rfl, rfl, kept nofun rfl⟩
  | waiting =>
      obtain ⟨_, same⟩ := Option.ite_none_right_eq_some.mp goes
      cases same
      exact ⟨rfl, rfl, rfl, kept nofun rfl⟩
  | returned => cases goes

theorem hook_stays (session : Session β) (position : Nat) (progress : Progress) (log : List Event) :
    Stays session { session with teardown := session.teardown.advance position progress, log } :=
  ⟨rfl, set_progress_hooks progress session.teardown.tasks position, rfl, rfl⟩

-- The hooks are moved by the launch and by nothing else.
theorem stays_or_launches (session next : Session β) (move : Move) (moved : session.move? move = some next) :
    Stays session next ∨
      ∃ position, move = .advance position ∧ session.runs[position]? = some .launching ∧ next = session.launch position := by
  cases move with
  | call =>
      cases moved
      refine .inl ⟨rfl, rfl, rfl, ?_⟩
      simp [Session.isLaunched]
  | advance position =>
      obtain ⟨run, after, teardown, found, goes, rfl⟩ := advance_does session next position moved
      by_cases same : run = .launching
      · subst same
        cases goes
        exact .inr ⟨position, rfl, found, rfl⟩
      · exact .inl (advance_stays session position run after teardown found goes same)
  | pass position =>
      obtain ⟨teardown, passed, rfl⟩ := Option.map_eq_some_iff.mp moved
      unfold Teardown.pass? at passed
      split at passed
      next =>
        obtain ⟨_, same⟩ := Option.ite_none_right_eq_some.mp passed
        cases same
        exact .inl (hook_stays session position _ _)
      next => cases passed
  | enter position =>
      obtain ⟨teardown, entered, rfl⟩ := Option.map_eq_some_iff.mp moved
      unfold Teardown.enter? at entered
      split at entered
      next =>
        obtain ⟨_, same⟩ := Option.ite_none_left_eq_some.mp entered
        cases same
        exact .inl (hook_stays session position _ _)
      next => cases entered
  | finish position panicked =>
      obtain ⟨teardown, finished, rfl⟩ := Option.map_eq_some_iff.mp moved
      unfold Teardown.finish at finished
      split at finished
      next =>
        cases finished
        exact .inl (hook_stays session position _ _)
      next => cases finished

theorem launching_claimed (hooks : List (Hook β)) (session : Session β) (phase : Phase hooks session) (position : Nat)
    (found : session.runs[position]? = some .launching) :
    session.teardown.started = true ∧ Untouched hooks session ∧ Led .launching session.runs := by
  have member := List.mem_of_getElem? found
  cases phase with
  | idle _ _ _ early => rcases early _ member with other | other <;> cases other
  | claimed started _ untouched led => exact ⟨started, untouched, led⟩
  | launched _ _ _ _ led => rcases led_all _ _ led _ member with aside | other <;> contradiction
  | complete _ _ _ _ runs => rcases runs _ member with aside | other <;> contradiction

theorem launched_among (session : Session β) (leader : Run) (started : session.teardown.started = true)
    (apart : leader ≠ .launching) (runs : ∀ run ∈ session.runs, run.isAside = true ∨ run = leader) :
    session.isLaunched = true := by
  refine Bool.and_eq_true_iff.mpr ⟨started, List.all_eq_true.mpr fun run member => ?_⟩
  have other : run ≠ .launching := by
    rintro rfl
    rcases runs _ member with aside | same
    · cases aside
    · exact apart same.symm
  simp [other]

theorem launch_launched (hooks : List (Hook β)) (session : Session β) (phase : Phase hooks session) (position : Nat)
    (found : session.runs[position]? = some .launching) : (session.launch position).isLaunched = true := by
  obtain ⟨started, _, led⟩ := launching_claimed hooks session phase position found
  obtain ⟨_, follows⟩ := led_follows _ _ (.joining session.teardown.hooks.length) _ position led found rfl
  exact launched_among (session.launch position) (.joining session.teardown.hooks.length) started nofun (led_all _ _ follows)

theorem returned_launched (hooks : List (Hook β)) (session : Session β) (phase : Phase hooks session)
    (returned : .returned ∈ session.runs) : session.isLaunched = true := by
  cases phase with
  | idle _ _ _ early => rcases early _ returned with other | other <;> cases other
  | claimed _ _ _ led => rcases led_all _ _ led _ returned with aside | other <;> contradiction
  | launched _ _ _ _ led => rcases led_all _ _ led _ returned with aside | other <;> contradiction
  | complete started _ _ _ runs => exact launched_among session .returned started nofun runs

theorem phase_late (hooks : List (Hook β)) (session : Session β) (late : List (Hook.Task β)) (phase : Phase hooks session) :
    Phase hooks { session with teardown := { session.teardown with late } } := by
  cases phase with
  | idle unstarted incomplete untouched early =>
      exact .idle unstarted incomplete ⟨untouched.hooks, untouched.tasks, untouched.log⟩ early
  | claimed started incomplete untouched led =>
      exact .claimed started incomplete ⟨untouched.hooks, untouched.tasks, untouched.log⟩ led
  | launched left started incomplete arranged led inside joined =>
      exact .launched left started incomplete arranged led inside joined
  | complete started completed arranged finished runs => exact .complete started completed arranged finished runs

theorem phase_enlisted (hooks : List (Hook β)) (session : Session β) (hook : Hook β) (phase : Phase hooks session) :
    ∃ known, Phase known { session with teardown := session.teardown.enlist hook } := by
  cases phase with
  | idle unstarted incomplete untouched early =>
      exact ⟨_, .idle unstarted incomplete ⟨rfl, untouched.tasks, untouched.log⟩ early⟩
  | claimed started incomplete untouched led =>
      exact ⟨_, .claimed started incomplete ⟨rfl, untouched.tasks, untouched.log⟩ led⟩
  | launched left started incomplete arranged led inside joined =>
      exact ⟨hooks, .launched left started incomplete arranged led inside joined⟩
  | complete started completed arranged finished runs =>
      exact ⟨hooks, .complete started completed arranged finished runs⟩

theorem phase_placed (hooks : List (Hook β)) (session : Session β) (late : Bool) (hook : Hook β) (phase : Phase hooks session) :
    ∃ known, Phase known { session with teardown := session.teardown.place late hook } := by
  cases late with
  | true => exact ⟨hooks, phase_late hooks session _ phase⟩
  | false => exact phase_enlisted hooks session hook phase

structure Logged (tasks : List (Hook.Task β)) (log : List Event) : Prop where
  recorded : ∀ position task, tasks[position]? = some task → Recorded position task.progress (trace position log)
  inside : ∀ event ∈ log, event.position < tasks.length

theorem logged_once (tasks : List (Hook.Task β)) (log : List Event) (logged : Logged tasks log) (position : Nat) :
    ∃ panicked, trace position log <+: [.began position, .ended position panicked] := by
  cases found : tasks[position]? with
  | none =>
      exact ⟨false, trace_outside _ position log logged.inside (List.getElem?_eq_none_iff.mp found) ▸ List.nil_prefix⟩
  | some task => exact recorded_once position task.progress _ (logged.recorded position task found)

theorem logged_spawned (tasks : List (Hook.Task β)) (log : List Event) (hook : Hook β) (logged : Logged tasks log) :
    Logged (tasks ++ [⟨hook, .holding 0⟩]) log where
  recorded := by
    intro position task found
    by_cases old : position < tasks.length
    · rw [List.getElem?_append_left old] at found
      exact logged.recorded position task found
    · rw [List.getElem?_append_right (Nat.le_of_not_lt old)] at found
      rw [List.mem_singleton.mp (List.mem_of_getElem? found)]
      exact trace_outside _ position log logged.inside (Nat.le_of_not_lt old)
  inside := by
    intro event member
    rw [List.length_append]
    exact Nat.lt_add_right _ (logged.inside event member)

theorem logged_progress (tasks : List (Hook.Task β)) (log : List Event) (position : Nat) (task : Hook.Task β)
    (progress : Progress) (event : Event) (found : tasks[position]? = some task) (own : event.position = position)
    (recorded : Recorded position progress (trace position log ++ [event])) (logged : Logged tasks log) :
    Logged (setProgress progress tasks position) (log ++ [event]) where
  recorded := by
    intro other changed present
    by_cases same : position = other
    · subst same
      rw [set_progress_found progress tasks position task found] at present
      cases present
      rw [trace_own position log event own]
      exact recorded
    · rw [set_progress_apart progress tasks position other same] at present
      rw [trace_elsewhere other log [event] fun new member => List.mem_singleton.mp member ▸ own ▸ same]
      exact logged.recorded other changed present
  inside := by
    intro new member
    rw [setProgress, List.length_modify]
    rcases List.mem_append.mp member with old | last
    · exact logged.inside new old
    · rw [List.mem_singleton.mp last, own]
      exact (List.getElem?_eq_some_iff.mp found).1

def Roll.stride (roll : Roll) (position : Nat) (progress : Progress) (event : Event) : Roll :=
  { roll.withTeardown { roll.session.teardown with late := setProgress progress roll.session.teardown.late position } with
    aside := roll.aside ++ [event] }

inductive Goes (roll : Roll) : Step → Roll → Prop where
  | looked (name : String) (release : Bool) : Goes roll (.look name release) (roll.look name release)
  | placed (number : Nat) (enrolment : Enrolment) (found : roll.enrolments[number]? = some enrolment)
      (pending : enrolment.returned = false) : Goes roll (.place number) (roll.place number enrolment)
  | stayed (move : Move) (session : Session Nat) (moved : roll.session.move? move = some session)
      (stays : Stays roll.session session) : Goes roll (.shutdown move) { roll with session }
  | launched (position : Nat) (moved : roll.session.move? (.advance position) = some (roll.session.launch position))
      (found : roll.session.runs[position]? = some .launching) :
      Goes roll (.shutdown (.advance position)) { roll with session := roll.session.launch position }
  | strode (step : Step) (position : Nat) (task : Hook.Task Nat) (progress : Progress) (event : Event)
      (found : roll.session.teardown.late[position]? = some task) (own : event.position = position)
      (follows : ∀ events, Recorded position task.progress events → Recorded position progress (events ++ [event])) :
      Goes roll step (roll.stride position progress event)

theorem step_goes (roll next : Roll) (step : Step) (stepped : roll.step? step = some next) : Goes roll step next := by
  cases step with
  | look name release =>
      cases stepped
      exact .looked name release
  | place number =>
      simp only [Roll.step?] at stepped
      split at stepped
      next enrolment found =>
        obtain ⟨pending, same⟩ := Option.ite_none_left_eq_some.mp stepped
        cases same
        exact .placed number enrolment found (Bool.eq_false_iff.mpr pending)
      next => cases stepped
  | shutdown move =>
      obtain ⟨session, moved, rfl⟩ := Option.map_eq_some_iff.mp stepped
      rcases stays_or_launches roll.session session move moved with stays | ⟨position, rfl, found, rfl⟩
      · exact .stayed move session moved stays
      · exact .launched position moved found
  | startLate position =>
      simp only [Roll.step?] at stepped
      split at stepped
      next hook due found =>
        cases stepped
        refine .strode _ position _ .running (.began position) found rfl fun events recorded => ?_
        rw [show events = [] from recorded]
        rfl
      next => cases stepped
  | finishLate position panicked =>
      simp only [Roll.step?] at stepped
      split at stepped
      next hook found =>
        cases stepped
        refine .strode _ position _ (.finished panicked) (.ended position panicked) found rfl fun events recorded => ?_
        rw [show events = [.began position] from recorded]
        rfl
      next => cases stepped

-- Where the hook of a registration is to be found, and how often.
def Enrolment.share (enrolment : Enrolment) (number : Nat) (late : Bool) : List (Hook Nat) :=
  if enrolment.returned && enrolment.late == late then [enrolment.hook number] else []

structure Shared (enrolments : List Enrolment) (hooks : Bool → List (Hook Nat)) : Prop where
  known : ∀ late, ∀ hook ∈ hooks late, hook.body < enrolments.length
  once : ∀ number enrolment, enrolments[number]? = some enrolment → ∀ late,
    (hooks late).filter (·.body = number) = enrolment.share number late

theorem share_pending (enrolment : Enrolment) (number : Nat) (late : Bool) (pending : enrolment.returned = false) :
    enrolment.share number late = [] := by
  simp [Enrolment.share, pending]

theorem shared_looked (enrolments : List Enrolment) (hooks : Bool → List (Hook Nat)) (enrolment : Enrolment)
    (pending : enrolment.returned = false) (shared : Shared enrolments hooks) : Shared (enrolments ++ [enrolment]) hooks where
  known := by
    intro late hook member
    rw [List.length_append]
    exact Nat.lt_add_right _ (shared.known late hook member)
  once := by
    intro number other found late
    by_cases old : number < enrolments.length
    · rw [List.getElem?_append_left old] at found
      exact shared.once number other found late
    · rw [List.getElem?_append_right (Nat.le_of_not_lt old)] at found
      rw [List.mem_singleton.mp (List.mem_of_getElem? found), share_pending enrolment number late pending]
      apply List.filter_eq_nil_iff.mpr
      intro hook member own
      have less := shared.known late hook member
      rw [of_decide_eq_true own] at less
      exact old less

theorem shared_placed (enrolments : List Enrolment) (before after : Bool → List (Hook Nat)) (number : Nat)
    (enrolment : Enrolment) (found : enrolments[number]? = some enrolment) (pending : enrolment.returned = false)
    (joins : ∀ late, after late = before late ++ if enrolment.late == late then [enrolment.hook number] else [])
    (shared : Shared enrolments before) : Shared (enrolments.set number { enrolment with returned := true }) after where
  known := by
    intro late hook member
    rw [List.length_set]
    rw [joins late] at member
    rcases List.mem_append.mp member with old | new
    · exact shared.known late hook old
    · split at new
      next =>
        rw [List.mem_singleton.mp new]
        exact (List.getElem?_eq_some_iff.mp found).1
      next => cases new
  once := by
    intro other changed present late
    rw [joins late, List.filter_append]
    by_cases same : number = other
    · subst same
      rw [List.getElem?_set_self (List.getElem?_eq_some_iff.mp found).1] at present
      cases present
      rw [shared.once number enrolment found late, share_pending enrolment number late pending]
      cases matches_ : enrolment.late == late <;> simp [Enrolment.share, Enrolment.hook, matches_]
    · rw [List.getElem?_set_ne same] at present
      rw [shared.once other changed present late]
      cases enrolment.late == late <;> simp [Enrolment.hook, same]

structure Kept (roll : Roll) : Prop where
  phase : ∃ hooks, Phase hooks roll.session
  shared : Shared roll.enrolments roll.hooks
  logged : Logged roll.session.teardown.late roll.aside

theorem placed_hooks (roll : Roll) (number : Nat) (enrolment : Enrolment) (late : Bool) :
    (roll.place number enrolment).hooks late =
      roll.hooks late ++ if enrolment.late == late then [enrolment.hook number] else [] := by
  cases late <;> cases enrolled : enrolment.late <;>
    simp [Roll.hooks, Roll.place, Roll.withTeardown, place, enrolled, spawnLate, enlist]

theorem logged_placed (roll : Roll) (number : Nat) (enrolment : Enrolment)
    (logged : Logged roll.session.teardown.late roll.aside) :
    Logged (roll.place number enrolment).session.teardown.late (roll.place number enrolment).aside := by
  cases late : enrolment.late with
  | true => simpa [Roll.place, Roll.withTeardown, place, late, spawnLate] using logged_spawned _ _ _ logged
  | false => simpa [Roll.place, Roll.withTeardown, place, late, enlist] using logged

theorem stayed_hooks (roll : Roll) (session : Session Nat) (stays : Stays roll.session session) :
    ({ roll with session } : Roll).hooks = roll.hooks := by
  funext late
  cases late <;> simp [Roll.hooks, stays.hooks, stays.tasks, stays.late]

theorem launched_hooks (roll : Roll) (position : Nat) (untouched : roll.session.teardown.tasks = []) :
    ({ roll with session := roll.session.launch position } : Roll).hooks = roll.hooks := by
  have listed := (arranged_launch roll.session.teardown).listed
  funext late
  cases late with
  | true => rfl
  | false => simp [Roll.hooks, Session.launch, listed, untouched, show roll.session.teardown.launch.hooks = [] from rfl]

theorem strode_hooks (roll : Roll) (position : Nat) (progress : Progress) (event : Event) :
    (roll.stride position progress event).hooks = roll.hooks := by
  have same := set_progress_hooks progress roll.session.teardown.late position
  funext late
  cases late with
  | true => exact same
  | false => rfl

theorem kept_goes (roll next : Roll) (step : Step) (goes : Goes roll step next) (kept : Kept roll) : Kept next := by
  obtain ⟨⟨hooks, phase⟩, shared, logged⟩ := kept
  cases goes with
  | looked name release => exact ⟨⟨hooks, phase⟩, shared_looked _ _ _ rfl shared, logged⟩
  | placed number enrolment found pending =>
      refine ⟨phase_placed hooks roll.session enrolment.late (enrolment.hook number) phase, ?_, ?_⟩
      · exact shared_placed _ _ _ number enrolment found pending (placed_hooks roll number enrolment) shared
      · exact logged_placed roll number enrolment logged
  | stayed move session moved stays =>
      refine ⟨⟨hooks, phase_move hooks _ session move moved phase⟩, ?_, stays.late ▸ logged⟩
      exact stayed_hooks roll session stays ▸ shared
  | launched position moved found =>
      have untouched := (launching_claimed hooks roll.session phase position found).2.1.tasks
      refine ⟨⟨hooks, phase_move hooks _ _ _ moved phase⟩, ?_, logged⟩
      exact launched_hooks roll position untouched ▸ shared
  | strode _ position task progress event found own follows =>
      refine ⟨⟨hooks, phase_late hooks roll.session _ phase⟩, strode_hooks roll position progress event ▸ shared, ?_⟩
      exact logged_progress _ _ position task progress event found own (follows _ (logged.recorded position task found)) logged

theorem kept_begun : Kept {} := by
  refine ⟨⟨[], .idle rfl rfl ⟨rfl, rfl, rfl⟩ nofun⟩, ⟨?_, nofun⟩, ⟨nofun, nofun⟩⟩
  intro late hook member
  cases late <;> cases member

theorem goes_or_rests (roll : Roll) (step : Step) : roll.step step = roll ∨ Goes roll step (roll.step step) := by
  unfold Roll.step
  cases stepped : roll.step? step with
  | none => exact .inl rfl
  | some next => exact .inr (step_goes roll next step stepped)

theorem kept_run (roll : Roll) (steps : List Step) (kept : Kept roll) : Kept (roll.run steps) := by
  induction steps generalizing roll with
  | nil => exact kept
  | cons step rest ih =>
      apply ih
      rcases goes_or_rests roll step with same | goes
      · exact same.symm ▸ kept
      · exact kept_goes roll _ step goes kept

-- What holds once the list has been taken, against the state at the launch.
structure Since (launch roll : Roll) : Prop where
  launched : roll.session.isLaunched = true
  taken : roll.session.teardown.tasks.map (·.hook) = launch.session.teardown.hooks
  pending : ∀ number, roll.isOpen number = true → launch.isOpen number = true
  stranded : ∀ number, number ∈ roll.session.teardown.hooks.map (·.body) ↔
    launch.isOpen number = true ∧ roll.isListed number = true

theorem any_added (enrolments : List Enrolment) (enrolment : Enrolment) (test : Enrolment → Bool)
    (fails : test enrolment = false) (number : Nat) :
    (enrolments ++ [enrolment])[number]?.any test = enrolments[number]?.any test := by
  by_cases old : number < enrolments.length
  · rw [List.getElem?_append_left old]
  · rw [List.getElem?_append_right (Nat.le_of_not_lt old), List.getElem?_eq_none (Nat.le_of_not_lt old)]
    cases number - enrolments.length <;> simp [fails]

theorem any_replaced (enrolments : List Enrolment) (enrolment after : Enrolment) (test : Enrolment → Bool) (number : Nat)
    (found : enrolments[number]? = some enrolment) (other : Nat) :
    (enrolments.set number after)[other]?.any test = if other = number then test after else enrolments[other]?.any test := by
  by_cases same : number = other
  · subst same
    simp [List.getElem?_set_self (List.getElem?_eq_some_iff.mp found).1]
  · simp [List.getElem?_set_ne same, Ne.symm same]

theorem open_excludes_listed (roll : Roll) (number : Nat) (pending : roll.isOpen number = true) :
    roll.isListed number = false := by
  unfold Roll.isOpen at pending
  unfold Roll.isListed
  cases found : roll.enrolments[number]? with
  | none => rfl
  | some enrolment =>
      simp only [found, Option.any_some, Enrolment.isOpen, Bool.and_eq_true, Bool.not_eq_true'] at pending
      simp [Enrolment.isListed, pending.2]

theorem since_launch (roll : Roll) (position : Nat) (kept : Kept roll)
    (found : roll.session.runs[position]? = some .launching) :
    Since roll { roll with session := roll.session.launch position } := by
  obtain ⟨hooks, phase⟩ := kept.phase
  refine ⟨launch_launched hooks roll.session phase position found, (arranged_launch _).listed, fun _ pending => pending, ?_⟩
  intro number
  refine ⟨nofun, fun ⟨pending, listed⟩ => ?_⟩
  exact absurd listed (Bool.eq_false_iff.mp (open_excludes_listed roll number pending))

theorem placed_open (roll : Roll) (number : Nat) (enrolment : Enrolment) (found : roll.enrolments[number]? = some enrolment)
    (other : Nat) : (roll.place number enrolment).isOpen other = if other = number then false else roll.isOpen other := by
  simp [Roll.isOpen, Roll.place, any_replaced _ enrolment _ _ number found, Enrolment.isOpen]

theorem placed_listed (roll : Roll) (number : Nat) (enrolment : Enrolment) (found : roll.enrolments[number]? = some enrolment)
    (other : Nat) :
    (roll.place number enrolment).isListed other = if other = number then !enrolment.late else roll.isListed other := by
  simp [Roll.isListed, Roll.place, any_replaced _ enrolment _ _ number found, Enrolment.isListed]

theorem placed_launched (roll : Roll) (number : Nat) (enrolment : Enrolment) :
    (roll.place number enrolment).session.isLaunched = roll.session.isLaunched := by
  cases late : enrolment.late <;>
    simp [Roll.place, Roll.withTeardown, place, late, spawnLate, enlist, Session.isLaunched]

theorem placed_tasks (roll : Roll) (number : Nat) (enrolment : Enrolment) :
    (roll.place number enrolment).session.teardown.tasks = roll.session.teardown.tasks := by
  cases late : enrolment.late <;> simp [Roll.place, Roll.withTeardown, place, late, spawnLate, enlist]

-- What was open at the launch and has come to the list since is stranded there.
theorem since_placed (launch roll : Roll) (number : Nat) (enrolment : Enrolment)
    (found : roll.enrolments[number]? = some enrolment) (pending : enrolment.returned = false) (since : Since launch roll) :
    Since launch (roll.place number enrolment) := by
  have unlisted : roll.isListed number = false := by simp [Roll.isListed, found, Enrolment.isListed, pending]
  have opens : roll.isOpen number = !enrolment.late := by simp [Roll.isOpen, found, Enrolment.isOpen, pending]
  have waiting : (roll.place number enrolment).session.teardown.hooks.map (·.body) =
      roll.session.teardown.hooks.map (·.body) ++ if enrolment.late then [] else [number] := by
    cases late : enrolment.late <;> simp [Roll.place, Roll.withTeardown, place, late, spawnLate, enlist, Enrolment.hook]
  have taken := placed_tasks roll number enrolment ▸ since.taken
  refine ⟨(placed_launched roll number enrolment).trans since.launched, taken, ?_, ?_⟩
  · intro other later
    rw [placed_open roll number enrolment found other] at later
    split at later
    next => cases later
    next => exact since.pending other later
  · intro other
    rw [placed_listed roll number enrolment found other, waiting, List.mem_append, since.stranded other]
    by_cases own : other = number
    · subst own
      cases late : enrolment.late with
      | true => simp [unlisted]
      | false =>
          have before := since.pending other (by rw [opens, late]; rfl)
          simp [before]
    · cases enrolment.late <;> simp [own]

theorem since_goes (launch roll next : Roll) (step : Step) (goes : Goes roll step next) (since : Since launch roll) :
    Since launch next := by
  cases goes with
  | looked name release =>
      have started := (Bool.and_eq_true_iff.mp since.launched).1
      have same (test : Enrolment → Bool) (fails : ∀ name release, test { name, release, late := true } = false)
          (number : Nat) : (roll.look name release).enrolments[number]?.any test = roll.enrolments[number]?.any test := by
        refine any_added _ _ test ?_ number
        rw [started]
        exact fails name release
      refine ⟨since.launched, since.taken, fun number pending => ?_, fun number => ?_⟩
      · exact since.pending number ((same _ (fun _ _ => rfl) number).symm.trans pending)
      · have listed : (roll.look name release).isListed number = roll.isListed number := same _ (fun _ _ => rfl) number
        rw [listed]
        exact since.stranded number
  | placed number enrolment found pending => exact since_placed launch roll number enrolment found pending since
  | stayed move session moved stays =>
      exact ⟨stays.launched.trans since.launched, stays.tasks.trans since.taken, since.pending,
        stays.hooks ▸ since.stranded⟩
  | launched position moved found =>
      have gone := List.all_eq_true.mp (Bool.and_eq_true_iff.mp since.launched).2 _ (List.mem_of_getElem? found)
      cases gone
  | strode _ position task progress event found own follows =>
      exact ⟨since.launched, since.taken, since.pending, since.stranded⟩

theorem goes_launched (roll next : Roll) (step : Step) (goes : Goes roll step next) :
    next.session.isLaunched = roll.session.isLaunched ∨
      ∃ position, step = .shutdown (.advance position) ∧ roll.session.runs[position]? = some .launching ∧
        next = { roll with session := roll.session.launch position } := by
  cases goes with
  | looked name release => exact .inl rfl
  | placed number enrolment found pending => exact .inl (placed_launched roll number enrolment)
  | stayed move session moved stays => exact .inl stays.launched
  | launched position moved found => exact .inr ⟨position, rfl, found, rfl⟩
  | strode _ position task progress event found own follows => exact .inl rfl

theorem roll_run_snoc (roll : Roll) (steps : List Step) (step : Step) :
    roll.run (steps ++ [step]) = (roll.run steps).step step := by
  simp [Roll.run]

theorem launched_since (steps : List Step) (launched : (Roll.run {} steps).session.isLaunched = true) :
    ∃ before position after, steps = before ++ .shutdown (.advance position) :: after ∧
      (Roll.run {} before).session.runs[position]? = some .launching ∧ Since (Roll.run {} before) (Roll.run {} steps) := by
  induction steps using List.reverseRecOn with
  | nil => cases launched
  | append_singleton steps step ih =>
      have kept : Kept (Roll.run {} steps) := kept_run {} steps kept_begun
      rw [roll_run_snoc] at launched
      rcases goes_or_rests (Roll.run {} steps) step with rests | goes
      · -- Nothing has moved, so the launch is among the earlier steps.
        obtain ⟨before, position, after, split, launching, since⟩ := ih (rests ▸ launched)
        refine ⟨before, position, after ++ [step], by simp [split], launching, ?_⟩
        rw [roll_run_snoc, rests]
        exact since
      · rcases goes_launched _ _ step goes with same | ⟨position, rfl, found, becomes⟩
        · obtain ⟨before, position, after, split, launching, since⟩ := ih (same ▸ launched)
          refine ⟨before, position, after ++ [step], by simp [split], launching, ?_⟩
          rw [roll_run_snoc]
          exact since_goes _ _ _ step goes since
        · refine ⟨steps, position, [], rfl, found, ?_⟩
          rw [roll_run_snoc, becomes]
          exact since_launch _ position kept found

theorem late_goes_on (roll : Roll) (position : Nat) (task : Hook.Task Nat)
    (found : roll.session.teardown.late[position]? = some task) (going : task.progress.isFinished = false) :
    (roll.step? (.startLate position)).isSome = true ∨
      ∀ panicked, (roll.step? (.finishLate position panicked)).isSome = true := by
  obtain ⟨hook, progress⟩ := task
  cases progress with
  | holding next => simp [Roll.step?, found]
  | running => simp [Roll.step?, found]
  | finished panicked => cases going

def Roll.Waiting (roll : Roll) (number : Nat) : Prop := number ∈ roll.session.teardown.hooks.map (·.body)

def Roll.Executed (roll : Roll) (number : Nat) : Prop :=
  ∃ (position : Nat) (task : Hook.Task Nat) (panicked : Bool), roll.session.teardown.tasks[position]? = some task ∧
    task.hook.body = number ∧ trace position roll.session.log = [.began position, .ended position panicked]

def Roll.Spawned (roll : Roll) (number : Nat) : Prop :=
  ∃ (position : Nat) (task : Hook.Task Nat), roll.session.teardown.late[position]? = some task ∧ task.hook.body = number

theorem returned_in_place (enrolments : List Enrolment) (hooks : Bool → List (Hook Nat)) (number : Nat) (enrolment : Enrolment)
    (shared : Shared enrolments hooks) (found : enrolments[number]? = some enrolment) (returned : enrolment.returned = true) :
    enrolment.hook number ∈ hooks enrolment.late := by
  have once := shared.once number enrolment found enrolment.late
  have one : enrolment.share number enrolment.late = [enrolment.hook number] := by simp [Enrolment.share, returned]
  have member : enrolment.hook number ∈ (hooks enrolment.late).filter (·.body = number) := by simp [once, one]
  exact (List.mem_filter.mp member).1

theorem task_of_hook (tasks : List (Hook.Task β)) (hook : Hook β) (member : hook ∈ tasks.map (·.hook)) :
    ∃ (position : Nat) (task : Hook.Task β), tasks[position]? = some task ∧ task.hook = hook := by
  obtain ⟨task, present, same⟩ := List.mem_map.mp member
  obtain ⟨position, found⟩ := List.getElem?_of_mem present
  exact ⟨position, task, found, same⟩

theorem returned_accounted (roll : Roll) (shared : Shared roll.enrolments roll.hooks)
    (executed : ∀ position < roll.session.teardown.tasks.length,
      ∃ panicked, trace position roll.session.log = [.began position, .ended position panicked])
    (number : Nat) (enrolment : Enrolment) (found : roll.enrolments[number]? = some enrolment)
    (returned : enrolment.returned = true) : roll.Waiting number ∨ roll.Executed number ∨ roll.Spawned number := by
  have member := returned_in_place _ _ number enrolment shared found returned
  cases late : enrolment.late with
  | true =>
      rw [late] at member
      obtain ⟨position, task, present, same⟩ := task_of_hook _ _ member
      exact .inr (.inr ⟨position, task, present, congrArg Hook.body same⟩)
  | false =>
      rw [late] at member
      rcases List.mem_append.mp member with taken | waiting
      · obtain ⟨position, task, present, same⟩ := task_of_hook _ _ taken
        obtain ⟨panicked, traced⟩ := executed position (List.getElem?_eq_some_iff.mp present).1
        exact .inr (.inl ⟨position, task, panicked, present, congrArg Hook.body same, traced⟩)
      · exact .inl (List.mem_map.mpr ⟨_, waiting, rfl⟩)

-- Once a run has returned, no hook waits but for those of the registrations that were open when the list was taken.
theorem returned_registrations_accounted (steps : List Step) :
    let roll := Roll.run {} steps
    Shared roll.enrolments roll.hooks ∧
      (∀ position, ∃ panicked, trace position roll.aside <+: [.began position, .ended position panicked]) ∧
      (∀ position task, roll.session.teardown.late[position]? = some task → task.progress.isFinished = false →
        (roll.step? (.startLate position)).isSome = true ∨
          ∀ panicked, (roll.step? (.finishLate position panicked)).isSome = true) ∧
      (.returned ∈ roll.session.runs →
        (∀ number enrolment, roll.enrolments[number]? = some enrolment → enrolment.returned = true →
          roll.Waiting number ∨ roll.Executed number ∨ roll.Spawned number) ∧
        ∃ before position after, steps = before ++ .shutdown (.advance position) :: after ∧
          (Roll.run {} before).session.runs[position]? = some .launching ∧
          roll.session.teardown.tasks.map (·.hook) = (Roll.run {} before).session.teardown.hooks ∧
          ∀ number, roll.Waiting number ↔ (Roll.run {} before).isOpen number = true ∧ roll.isListed number = true) := by
  intro roll
  have kept : Kept roll := kept_run {} steps kept_begun
  obtain ⟨hooks, phase⟩ := kept.phase
  refine ⟨kept.shared, logged_once _ _ kept.logged, late_goes_on roll, fun returned => ⟨?_, ?_⟩⟩
  · obtain ⟨arranged, finished⟩ := returned_finished hooks roll.session phase returned
    refine returned_accounted roll kept.shared fun position inside => ?_
    exact finished_recorded hooks _ _ position arranged (finished position (listed_length hooks _ _ arranged ▸ inside))
  · obtain ⟨before, position, after, split, launching, since⟩ :=
      launched_since steps (returned_launched hooks roll.session phase returned)
    exact ⟨before, position, after, split, launching, since.taken, since.stranded⟩

-- One registration is over before the run, one is open when the list is taken, and one begins behind the launch.
def aroundLaunch : List Step :=
  [.look "drain" false, .place 0, .look "deregister" false, .shutdown .call, .shutdown (.advance 0), .shutdown (.advance 0),
    .shutdown (.advance 0), .look "metrics" true, .place 2, .place 1, .startLate 0, .shutdown (.enter 0),
    .shutdown (.finish 0 true), .shutdown (.advance 0), .shutdown (.advance 0)]

theorem returned_registrations_accounted_around_launch :
    let roll := Roll.run {} aroundLaunch
    roll.session.runs = [.returned] ∧ roll.session.teardown.hooks.map (·.body) = [1] ∧
      (roll.Executed 0 ∨ roll.Spawned 0) ∧ (roll.Executed 2 ∨ roll.Spawned 2) ∧
      (∃ before position after, aroundLaunch = before ++ .shutdown (.advance position) :: after ∧
        (Roll.run {} before).isOpen 1 = true) := by
  intro roll
  obtain ⟨_, _, _, runs⟩ := returned_registrations_accounted aroundLaunch
  obtain ⟨accounted, before, position, after, split, _, _, stranded⟩ := runs (by decide)
  have waiting : roll.session.teardown.hooks.map (·.body) = [1] := by decide
  have moved (number : Nat) (other : number ≠ 1) : ¬roll.Waiting number := by
    rw [Roll.Waiting, waiting]
    simpa using other
  refine ⟨by decide, waiting, ?_, ?_, before, position, after, split, ?_⟩
  · exact (accounted 0 ⟨"drain", false, false, true⟩ (by decide) rfl).resolve_left (moved 0 (by decide))
  · exact (accounted 2 ⟨"metrics", true, true, true⟩ (by decide) rfl).resolve_left (moved 2 (by decide))
  · exact ((stranded 1).mp (by rw [Roll.Waiting, waiting]; exact List.mem_singleton.mpr rfl)).1

def NothingLost (roll : Roll) : Prop :=
  .returned ∈ roll.session.runs → roll.session.teardown.hooks = [] ∧
    ∀ number enrolment, roll.enrolments[number]? = some enrolment → enrolment.returned = true →
      roll.Executed number ∨ roll.Spawned number

-- A registration reads that the launch is not claimed, and puts its hook on the list when that has been taken.
def acrossLaunch : List Step :=
  [.look "deregister" false, .shutdown .call, .shutdown (.advance 0), .shutdown (.advance 0), .shutdown (.advance 0), .place 0,
    .shutdown (.advance 0)]

theorem registration_across_launch_is_lost :
    let roll := Roll.run {} acrossLaunch
    roll.session.runs = [.returned] ∧ roll.isListed 0 = true ∧ roll.Waiting 0 ∧ ¬roll.Executed 0 ∧ ¬roll.Spawned 0 ∧
      ¬∀ steps, NothingLost (Roll.run {} steps) := by
  intro roll
  have tasks : roll.session.teardown.tasks = [] := List.length_eq_zero_iff.mp (by decide)
  have late : roll.session.teardown.late = [] := List.length_eq_zero_iff.mp (by decide)
  have waiting : 0 ∈ roll.session.teardown.hooks.map (·.body) := by decide
  refine ⟨by decide, by decide, waiting, ?_, ?_, fun nothing => ?_⟩
  · rintro ⟨position, task, _, found, _⟩
    rw [tasks] at found
    cases found
  · rintro ⟨position, task, found, _⟩
    rw [late] at found
    cases found
  · have empty : roll.session.teardown.hooks.length = 0 := List.length_eq_zero_iff.mpr (nothing acrossLaunch (by decide)).1
    exact absurd empty (by decide)

end ServiceHost.Teardown
