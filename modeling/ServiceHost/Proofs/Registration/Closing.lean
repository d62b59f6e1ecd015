import ServiceHost.Registration.Supervision
import ServiceHost.Proofs.Registration.Surroundings

set_option autoImplicit false

namespace ServiceHost.Registration

open Store (Operation Reply perform)

-- `issued` are the calls made for the registration, in order; `answers` those given to the hook.
structure Closing where
  supervision : Supervision
  store : Store := {}
  issued : List Operation := []
  answers : List (Operation × Reply) := []

-- What a worker gets as an answer, and whether its call reached the store, may be anything. So may the
-- point at which it panics.
inductive Action where
  | signal
  | spawn
  | notice
  | relaunch
  | desist
  | tick (worker : Nat)
  | answer (worker : Nat) (now : Nat) (reached : Bool) (reply : Reply)
  | stop (worker : Nat)
  | panic (worker : Nat) (now : Nat) (reached : Bool)
  | remove
  | proceed
  | delete (now : Nat) (mishap : Option Mishap)
  | other (now : Nat) (operation : Operation)

namespace Closing

-- The registration is started once, and its hook is run once.
def begun (ttl : Nat) (entries : List Entry) (store : Store) : Closing :=
  { supervision := ({ entries, ttl } : Supervision).launch, store }

def adopt (closing : Closing) (supervision : Option Supervision) : Closing :=
  { closing with supervision := supervision.getD closing.supervision }

def follow (closing : Closing) (worker : Nat) : Option Supervision → Closing
  | none => closing
  | some supervision =>
      { closing with supervision, issued := closing.issued ++ (supervision.callOf worker).toList }

def deletion? (supervision : Supervision) : Option Operation := supervision.removers[0]?.bind (·.call?)

def pursue (closing : Closing) : Option Supervision → Closing
  | none => closing
  | some supervision => { closing with supervision, issued := closing.issued ++ (deletion? supervision).toList }

def ask (closing : Closing) : Closing :=
  if closing.supervision.removers = [] then closing.pursue (some closing.supervision.remove) else closing

def delete (closing : Closing) (now : Nat) (mishap : Option Mishap) : Closing :=
  match deletion? closing.supervision with
  | none => closing
  | some operation =>
      let (reply, store, _) := attempt now operation (closing.store, [{ mishap }])
      { closing with store, answers := closing.answers ++ [(operation, reply)] }.pursue (closing.supervision.delete? 0)

def carried (closing : Closing) (now : Nat) (reached : Bool) : Option Operation → Store
  | some operation => if reached then (perform now operation closing.store).2 else closing.store
  | none => closing.store

def step (closing : Closing) : Action → Closing
  | .signal => { closing with supervision := closing.supervision.signal }
  | .spawn => closing.adopt closing.supervision.spawn?
  | .notice => closing.adopt closing.supervision.notice?
  | .relaunch => closing.adopt closing.supervision.relaunch?
  | .desist => closing.adopt closing.supervision.desist?
  | .tick worker => closing.follow worker (closing.supervision.tick? worker)
  | .answer worker now reached reply =>
      { closing with store := closing.carried now reached (closing.supervision.callOf worker) }.follow worker
        (closing.supervision.answer? worker reply)
  | .stop worker => closing.follow worker (closing.supervision.stop? worker)
  | .panic worker now reached =>
      { closing with store := closing.carried now reached (closing.supervision.callOf worker) }.follow worker
        (closing.supervision.panic? worker)
  | .remove => closing.ask
  | .proceed => closing.pursue (closing.supervision.proceed? 0)
  | .delete now mishap => closing.delete now mishap
  | .other now operation => { closing with store := (perform now operation closing.store).2 }

def run (closing : Closing) (actions : List Action) : Closing := actions.foldl step closing

end Closing

def isUpkeep : Operation → Bool
  | .grant _ => true
  | .keepAlive _ => true
  | .put .. => true
  | _ => false

def deletion (entry : Entry) : Operation := .delete entry.key

-- How far the hook has come, with what has been issued for the registration and answered to the hook.
inductive Stage (entries : List Entry) : List Remover → Supervisor → List Operation → List Operation → Prop where
  | idle (supervisor : Supervisor) (upkeep : List Operation) (all : ∀ operation ∈ upkeep, isUpkeep operation = true) :
      Stage entries [] supervisor upkeep []
  | waiting (supervisor : Supervisor) (upkeep : List Operation) (all : ∀ operation ∈ upkeep, isUpkeep operation = true) :
      Stage entries [.waiting] supervisor upkeep []
  | removing (upkeep : List Operation) (all : ∀ operation ∈ upkeep, isUpkeep operation = true) (done left : List Entry)
      (split : done ++ left = entries) :
      Stage entries [Remover.ofEntries left] .ended
        (upkeep ++ done.map deletion ++ (Remover.ofEntries left).call?.toList) (done.map deletion)

def AliveAt (supervision : Supervision) (position : Nat) : Prop :=
  ∃ worker, supervision.workers[position]? = some worker ∧ worker.isAlive = true

structure Orderly (entries : List Entry) (closing : Closing) : Prop where
  kept : closing.supervision.entries = entries
  present : closing.supervision.supervisor ≠ .absent
  watched : ∀ position, closing.supervision.supervisor = .watching position →
    ∃ worker, closing.supervision.workers[position]? = some worker
  alone : ∀ position, AliveAt closing.supervision position → closing.supervision.supervisor = .watching position
  claimed : closing.supervision.claimed = true → closing.supervision.removers ≠ []
  stage : Stage entries closing.supervision.removers closing.supervision.supervisor closing.issued
    (closing.answers.map (·.1))

theorem begin_upkeep (ttl : Nat) (keeper : Keeper) (operation : Operation)
    (calls : (keeper.begin ttl).1 = .call operation) : isUpkeep operation = true := by
  unfold Keeper.begin at calls
  cases belief : keeper.belief with
  | unbound =>
      rw [belief] at calls
      cases calls
      rfl
  | bound id =>
      rw [belief] at calls
      cases calls
      rfl
  | renewing id =>
      rw [belief] at calls
      cases calls

theorem resume_upkeep (entries : List Entry) (reply : Reply) (keeper : Keeper) (operation : Operation)
    (calls : (keeper.resume entries reply).1 = .call operation) : isUpkeep operation = true := by
  unfold Keeper.resume at calls
  cases work : keeper.work with
  | idle => simp [work] at calls
  | granting =>
      rw [work] at calls
      cases reply with
      | lease id =>
          cases entries with
          | nil => cases calls
          | cons entry rest =>
              cases calls
              rfl
      | _ => cases calls
  | putting id entry rest failure =>
      rw [work] at calls
      cases rest with
      | nil =>
          simp only [Keeper.placed] at calls
          split at calls <;> cases calls
      | cons next rest =>
          cases calls
          rfl
  | renewing id =>
      simp only [work] at calls
      split at calls <;> cases calls

structure Moved (supervision : Supervision) (position : Nat) (next : Supervision) : Prop where
  alive : AliveAt supervision position
  changed : ∃ worker : Worker, next = supervision.replace position worker ∧
    ∀ operation, worker.call? = some operation → isUpkeep operation = true

theorem take_calls (answer : Next × Keeper) (operation : Operation) (calls : (Worker.take answer).call? = some operation) :
    answer.1 = .call operation := by
  obtain ⟨next, keeper⟩ := answer
  cases next with
  | call other =>
      cases calls
      rfl
  | done failure => cases calls

theorem tick_moved (supervision next : Supervision) (position : Nat) (ticked : supervision.tick? position = some next) :
    Moved supervision position next := by
  unfold Supervision.tick? at ticked
  split at ticked
  next keeper found =>
    split at ticked
    · cases ticked
    · cases ticked
      refine ⟨⟨_, found, rfl⟩, _, rfl, fun operation calls => ?_⟩
      exact begin_upkeep _ _ operation (take_calls _ operation calls)
  next => cases ticked

theorem answer_moved (supervision next : Supervision) (position : Nat) (reply : Reply)
    (answered : supervision.answer? position reply = some next) : Moved supervision position next := by
  unfold Supervision.answer? at answered
  split at answered
  next keeper call found =>
    cases answered
    refine ⟨⟨_, found, rfl⟩, _, rfl, fun operation calls => ?_⟩
    exact resume_upkeep _ reply _ operation (take_calls _ operation calls)
  next => cases answered

theorem stop_moved (supervision next : Supervision) (position : Nat) (stopped : supervision.stop? position = some next) :
    Moved supervision position next := by
  unfold Supervision.stop? at stopped
  split at stopped
  next keeper found =>
    split at stopped
    · cases stopped
      exact ⟨⟨_, found, rfl⟩, _, rfl, fun operation calls => by cases calls⟩
    · cases stopped
  next => cases stopped

theorem panic_moved (supervision next : Supervision) (position : Nat) (panicked : supervision.panic? position = some next) :
    Moved supervision position next := by
  unfold Supervision.panic? at panicked
  split at panicked
  next worker found =>
    split at panicked
    next alive =>
      cases panicked
      exact ⟨⟨worker, found, alive⟩, _, rfl, fun operation calls => by cases calls⟩
    next => cases panicked
  next => cases panicked

theorem stage_upkeep (entries : List Entry) (removers : List Remover) (supervisor other : Supervisor)
    (issued more answered : List Operation) (stage : Stage entries removers supervisor issued answered)
    (going : supervisor ≠ .ended) (upkeep : ∀ operation ∈ more, isUpkeep operation = true) :
    Stage entries removers other (issued ++ more) answered := by
  have both : (∀ operation ∈ issued, isUpkeep operation = true) →
      ∀ operation ∈ issued ++ more, isUpkeep operation = true := by
    intro all operation member
    rcases List.mem_append.mp member with old | new
    · exact all operation old
    · exact upkeep operation new
  cases stage with
  | idle _ _ all => exact .idle _ _ (both all)
  | waiting _ _ all => exact .waiting _ _ (both all)
  | removing => exact absurd rfl going

theorem stage_going (entries : List Entry) (removers : List Remover) (supervisor other : Supervisor)
    (issued answered : List Operation) (stage : Stage entries removers supervisor issued answered)
    (going : supervisor ≠ .ended) : Stage entries removers other issued answered := by
  have same := stage_upkeep entries removers supervisor other issued [] answered stage going (fun _ member => by cases member)
  rwa [List.append_nil] at same

theorem orderly_begun (ttl : Nat) (entries : List Entry) (store : Store) :
    Orderly entries (Closing.begun ttl entries store) where
  kept := rfl
  present := Supervisor.noConfusion
  watched := fun _ watching => Supervisor.noConfusion watching
  alone := fun _ ⟨_, found, _⟩ => by cases found
  claimed := fun claims => by cases claims
  stage := .idle _ [] (fun _ member => by cases member)

theorem orderly_store (entries : List Entry) (closing : Closing) (store : Store) (orderly : Orderly entries closing) :
    Orderly entries { closing with store } :=
  ⟨orderly.kept, orderly.present, orderly.watched, orderly.alone, orderly.claimed, orderly.stage⟩

theorem orderly_follow (entries : List Entry) (closing : Closing) (position : Nat) (taken : Option Supervision)
    (moves : ∀ next, taken = some next → Moved closing.supervision position next) (orderly : Orderly entries closing) :
    Orderly entries (closing.follow position taken) := by
  cases taken with
  | none => exact orderly
  | some next =>
      obtain ⟨alive, worker, rfl, calls⟩ := moves next rfl
      have watching := orderly.alone position alive
      have there : position < closing.supervision.workers.length := by
        obtain ⟨_, found, _⟩ := alive
        exact (List.getElem?_eq_some_iff.mp found).1
      have changed : (closing.supervision.workers.set position worker)[position]? = some worker :=
        List.getElem?_set_self there
      refine ⟨orderly.kept, orderly.present, ?_, ?_, orderly.claimed, ?_⟩
      · intro other watches
        have same : position = other := Supervisor.watching.inj (watching.symm.trans watches)
        exact ⟨worker, same ▸ changed⟩
      · rintro other ⟨found, present, living⟩
        by_cases same : position = other
        · exact same ▸ watching
        · have before : closing.supervision.workers[other]? = some found :=
            (List.getElem?_set_ne same).symm.trans present
          exact orderly.alone other ⟨found, before, living⟩
      · refine stage_upkeep entries _ _ _ _ _ _ orderly.stage (by simp [watching]) fun operation called => ?_
        have own : (closing.supervision.replace position worker).callOf position = worker.call? := by
          simp only [Supervision.callOf, Supervision.replace, changed, Option.bind_some]
        rw [own] at called
        exact calls operation (Option.mem_toList.mp called)

theorem orderly_supervisor (entries : List Entry) (closing : Closing) (supervisor : Supervisor)
    (quiet : ∀ position, ¬ AliveAt closing.supervision position) (going : closing.supervision.supervisor ≠ .ended)
    (present : supervisor ≠ .absent) (unwatched : ∀ position, supervisor ≠ .watching position)
    (orderly : Orderly entries closing) :
    Orderly entries { closing with supervision := { closing.supervision with supervisor } } where
  kept := orderly.kept
  present := present
  watched := fun position watching => absurd watching (unwatched position)
  alone := fun position alive => absurd alive (quiet position)
  claimed := orderly.claimed
  stage := stage_going entries _ _ supervisor _ _ orderly.stage going

theorem quiet_unless_watching (entries : List Entry) (closing : Closing) (orderly : Orderly entries closing)
    (unwatched : ∀ position, closing.supervision.supervisor ≠ .watching position) (position : Nat) :
    ¬ AliveAt closing.supervision position :=
  fun alive => unwatched position (orderly.alone position alive)

theorem orderly_spawn (entries : List Entry) (closing : Closing) (orderly : Orderly entries closing) :
    Orderly entries (closing.adopt closing.supervision.spawn?) := by
  by_cases launching : closing.supervision.supervisor = .launching
  · have quiet := quiet_unless_watching entries closing orderly (by simp [launching])
    simp only [Closing.adopt, Supervision.spawn?, if_pos launching, Option.getD_some]
    refine ⟨orderly.kept, Supervisor.noConfusion, ?_, ?_, orderly.claimed, ?_⟩
    · intro position watching
      cases watching
      exact ⟨{}, List.getElem?_concat_length⟩
    · rintro position ⟨worker, found, living⟩
      rcases Nat.lt_trichotomy position closing.supervision.workers.length with old | fresh | beyond
      · rw [List.getElem?_append_left old] at found
        exact absurd ⟨worker, found, living⟩ (quiet position)
      · exact congrArg Supervisor.watching fresh.symm
      · rw [List.getElem?_eq_none (by simp; omega)] at found
        cases found
    · exact stage_going entries _ _ _ _ _ orderly.stage (by simp [launching])
  · simp only [Closing.adopt, Supervision.spawn?, if_neg launching]
    exact orderly

theorem watched_at (supervision : Supervision) (worker : Worker) (watched : supervision.watched? = some worker) :
    ∃ position, supervision.supervisor = .watching position ∧ supervision.workers[position]? = some worker := by
  unfold Supervision.watched? at watched
  split at watched
  next position watching => exact ⟨position, watching, watched⟩
  next => cases watched

theorem orderly_noticed (entries : List Entry) (closing : Closing) (worker : Worker) (supervisor : Supervisor)
    (watched : closing.supervision.watched? = some worker) (dead : worker.isAlive = false)
    (present : supervisor ≠ .absent) (unwatched : ∀ position, supervisor ≠ .watching position)
    (orderly : Orderly entries closing) :
    Orderly entries { closing with supervision := { closing.supervision with supervisor } } := by
  obtain ⟨position, watching, found⟩ := watched_at closing.supervision worker watched
  apply orderly_supervisor entries closing supervisor _ (by simp [watching]) present unwatched orderly
  rintro other ⟨living, there, alive⟩
  have same := Supervisor.watching.inj (watching.symm.trans (orderly.alone other ⟨living, there, alive⟩))
  subst same
  rw [found] at there
  cases there
  rw [dead] at alive
  cases alive

theorem orderly_notice (entries : List Entry) (closing : Closing) (orderly : Orderly entries closing) :
    Orderly entries (closing.adopt closing.supervision.notice?) := by
  unfold Supervision.notice?
  split
  next watched => exact orderly_noticed entries closing _ .ended watched rfl (by simp) (by simp) orderly
  next watched => exact orderly_noticed entries closing _ .pausing watched rfl (by simp) (by simp) orderly
  next => exact orderly

theorem orderly_relaunch (entries : List Entry) (closing : Closing) (orderly : Orderly entries closing) :
    Orderly entries (closing.adopt closing.supervision.relaunch?) := by
  unfold Supervision.relaunch?
  split
  next pausing =>
    have quiet := quiet_unless_watching entries closing orderly (by simp [pausing])
    exact orderly_supervisor entries closing .launching quiet (by simp [pausing]) (by simp) (by simp) orderly
  next => exact orderly

theorem orderly_desist (entries : List Entry) (closing : Closing) (orderly : Orderly entries closing) :
    Orderly entries (closing.adopt closing.supervision.desist?) := by
  unfold Supervision.desist?
  split
  next ready =>
    have pausing : closing.supervision.supervisor = .pausing := by simpa using (Bool.and_eq_true_iff.mp ready).1
    have quiet := quiet_unless_watching entries closing orderly (by simp [pausing])
    exact orderly_supervisor entries closing .ended quiet (by simp [pausing]) (by simp) (by simp) orderly
  next => exact orderly

theorem orderly_ask (entries : List Entry) (closing : Closing) (orderly : Orderly entries closing) :
    Orderly entries closing.ask := by
  unfold Closing.ask
  by_cases asked : closing.supervision.removers = []
  · have unclaimed : closing.supervision.claimed = false :=
      Bool.eq_false_iff.mpr fun claims => orderly.claimed claims asked
    have waits : closing.supervision.remove = { closing.supervision with claimed := true, removers := [.waiting] } := by
      simp [Supervision.remove, unclaimed, orderly.present, asked]
    have stage := orderly.stage
    rw [if_pos asked, waits]
    rw [asked] at stage
    refine ⟨orderly.kept, orderly.present, orderly.watched, orderly.alone, fun _ => List.cons_ne_nil _ _, ?_⟩
    simp only [Closing.pursue, Closing.deletion?, List.getElem?_cons_zero, Option.bind_some, Remover.call?,
      Option.toList_none, List.append_nil]
    generalize closing.answers.map (·.1) = answered at stage ⊢
    cases stage with
    | idle _ _ all => exact .waiting _ _ all
  · rw [if_neg asked]
    exact orderly

theorem stage_waiting (entries : List Entry) (removers : List Remover) (supervisor : Supervisor)
    (issued answered : List Operation) (stage : Stage entries removers supervisor issued answered)
    (waiting : removers[0]? = some .waiting) :
    removers = [.waiting] ∧ answered = [] ∧ ∀ operation ∈ issued, isUpkeep operation = true := by
  cases stage with
  | idle => cases waiting
  | waiting _ _ all => exact ⟨rfl, rfl, all⟩
  | removing _ _ _ left => cases left <;> cases waiting

theorem stage_deleting (entries : List Entry) (removers : List Remover) (supervisor : Supervisor)
    (issued answered : List Operation) (operation : Operation)
    (stage : Stage entries removers supervisor issued answered)
    (deletes : removers[0]?.bind (·.call?) = some operation) :
    ∃ upkeep done entry left, (∀ operation ∈ upkeep, isUpkeep operation = true) ∧ done ++ entry :: left = entries ∧
      removers = [.deleting entry left] ∧ supervisor = .ended ∧ operation = deletion entry ∧
      issued = upkeep ++ (done ++ [entry]).map deletion ∧ answered = done.map deletion := by
  cases stage with
  | idle => cases deletes
  | waiting => cases deletes
  | removing upkeep all done left split =>
      cases left with
      | nil => cases deletes
      | cons entry left =>
          cases deletes
          exact ⟨upkeep, done, entry, left, all, split, rfl, rfl, rfl, by simp [Remover.ofEntries, Remover.call?, deletion], rfl⟩

theorem orderly_proceed (entries : List Entry) (closing : Closing) (orderly : Orderly entries closing) :
    Orderly entries (closing.pursue (closing.supervision.proceed? 0)) := by
  unfold Supervision.proceed?
  split
  next ready =>
    obtain ⟨waits, ended⟩ := Bool.and_eq_true_iff.mp ready
    have waiting : closing.supervision.removers[0]? = some .waiting := by simpa using waits
    have stopped : closing.supervision.supervisor = .ended := by simpa using ended
    obtain ⟨alone, unanswered, all⟩ := stage_waiting entries _ _ _ _ orderly.stage waiting
    have begins := Stage.removing closing.issued all [] entries rfl
    rw [List.map_nil, List.append_nil] at begins
    refine ⟨orderly.kept, orderly.present, orderly.watched, orderly.alone, ?_, ?_⟩
    · simp [Closing.pursue, alone]
    · simp only [Closing.pursue, Closing.deletion?, alone, stopped, unanswered, orderly.kept]
      exact begins
  next => exact orderly

theorem orderly_delete (entries : List Entry) (closing : Closing) (now : Nat) (mishap : Option Mishap)
    (orderly : Orderly entries closing) : Orderly entries (closing.delete now mishap) := by
  unfold Closing.delete
  cases deletes : Closing.deletion? closing.supervision with
  | none => exact orderly
  | some operation =>
      obtain ⟨upkeep, done, entry, left, all, split, removers, ended, rfl, issued, answered⟩ :=
        stage_deleting entries _ _ _ _ operation orderly.stage deletes
      have advanced : closing.supervision.delete? 0 =
          some { closing.supervision with removers := [Remover.ofEntries left] } := by
        simp [Supervision.delete?, removers]
      have goes := Stage.removing upkeep all (done ++ [entry]) left (by simpa using split)
      rw [advanced]
      refine ⟨orderly.kept, orderly.present, orderly.watched, orderly.alone, fun _ => List.cons_ne_nil _ _, ?_⟩
      simp only [Closing.pursue, Closing.deletion?, List.map_append, issued, answered, ended] at goes ⊢
      exact goes

theorem orderly_step (entries : List Entry) (closing : Closing) (action : Action) (orderly : Orderly entries closing) :
    Orderly entries (closing.step action) := by
  cases action with
  | signal => exact ⟨orderly.kept, orderly.present, orderly.watched, orderly.alone, orderly.claimed, orderly.stage⟩
  | spawn => exact orderly_spawn entries closing orderly
  | notice => exact orderly_notice entries closing orderly
  | relaunch => exact orderly_relaunch entries closing orderly
  | desist => exact orderly_desist entries closing orderly
  | tick worker =>
      exact orderly_follow entries closing worker _ (fun next => tick_moved _ next worker) orderly
  | answer worker now reached reply =>
      exact orderly_follow entries _ worker _ (fun next => answer_moved _ next worker reply)
        (orderly_store entries closing _ orderly)
  | stop worker =>
      exact orderly_follow entries closing worker _ (fun next => stop_moved _ next worker) orderly
  | panic worker now reached =>
      exact orderly_follow entries _ worker _ (fun next => panic_moved _ next worker)
        (orderly_store entries closing _ orderly)
  | remove => exact orderly_ask entries closing orderly
  | proceed => exact orderly_proceed entries closing orderly
  | delete now mishap => exact orderly_delete entries closing now mishap orderly
  | other now operation => exact orderly_store entries closing _ orderly

theorem orderly_run (entries : List Entry) (closing : Closing) (actions : List Action)
    (orderly : Orderly entries closing) : Orderly entries (closing.run actions) := by
  induction actions generalizing closing with
  | nil => exact orderly
  | cons action rest ih => exact ih _ (orderly_step entries closing action orderly)

end ServiceHost.Registration
