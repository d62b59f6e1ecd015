import ServiceHost.Proofs.Registration.Closing
import ServiceHost.Proofs.Store.Removal

set_option autoImplicit false

namespace ServiceHost.Registration

open Store (Operation Reply perform)

-- What a worker has still to do before it can stop, with every call refused.
def Worker.distance (worker : Worker) : Nat :=
  match worker.phase, worker.keeper.work with
  | .stopped, _ => 0
  | .panicked, _ => 1
  | .resting, _ => 1
  | .calling _, .putting _ _ rest _ => rest.length + 3
  | .calling _, _ => 2

def distance (supervision : Supervision) : Nat :=
  match supervision.supervisor with
  | .absent => 0
  | .ended => 0
  | .pausing => 1
  | .launching => 3
  | .watching position => supervision.workers[position]?.elim 0 Worker.distance + 1

structure Nearer (closing next : Closing) : Prop where
  signalled : next.supervision.signalled = true
  removers : next.supervision.removers = closing.supervision.removers
  nearer : distance next.supervision < distance closing.supervision

theorem refused_nearer (entries : List Entry) (keeper : Keeper) (operation : Operation) (error : StoreError) :
    (Worker.take (keeper.resume entries (.refused error))).distance <
      Worker.distance { keeper, phase := .calling operation } := by
  unfold Keeper.resume Worker.distance
  cases keeper.work with
  | idle => simp [Worker.take]
  | granting => simp [Worker.take]
  | renewing id => simp [Worker.take, Keeper.refusal?]
  | putting id entry rest failure =>
      cases rest with
      | nil => cases failure <;> simp [Worker.take, Keeper.placed, Keeper.refusal?]
      | cons next rest => simp [Worker.take, Keeper.placed, Keeper.refusal?]

theorem replaced_nearer (closing : Closing) (position : Nat) (worker next : Worker) (issued : List Operation)
    (signalled : closing.supervision.signalled = true)
    (watching : closing.supervision.supervisor = .watching position)
    (found : closing.supervision.workers[position]? = some worker) (nearer : next.distance < worker.distance) :
    Nearer closing { closing with supervision := closing.supervision.replace position next, issued } := by
  have there := (List.getElem?_eq_some_iff.mp found).1
  refine ⟨signalled, rfl, ?_⟩
  simp only [distance, Supervision.replace, watching, found, List.getElem?_set_self there, Option.elim_some]
  omega

theorem worker_nearer (closing : Closing) (position : Nat) (worker : Worker)
    (signalled : closing.supervision.signalled = true)
    (watching : closing.supervision.supervisor = .watching position)
    (found : closing.supervision.workers[position]? = some worker) :
    ∃ action, Nearer closing (closing.step action) := by
  obtain ⟨keeper, phase⟩ := worker
  have watched : closing.supervision.watched? = some { keeper, phase } := by
    simp only [Supervision.watched?, watching, found]
  cases phase with
  | resting =>
      refine ⟨.stop position, ?_⟩
      simp only [Closing.step, Supervision.stop?, found, signalled, if_true, Closing.follow]
      exact replaced_nearer closing position _ _ _ signalled watching found (by simp [Worker.distance])
  | calling operation =>
      refine ⟨.answer position 0 false (.refused .unavailable), ?_⟩
      have refused := refused_nearer closing.supervision.entries keeper operation .unavailable
      have unreached : closing.carried 0 false (closing.supervision.callOf position) = closing.store := by
        cases closing.supervision.callOf position <;> rfl
      simp only [Closing.step, Supervision.answer?, found, Closing.follow, unreached]
      exact replaced_nearer closing position _ _ _ signalled watching found refused
  | stopped =>
      refine ⟨.notice, ?_⟩
      simp only [Closing.step, Closing.adopt, Supervision.notice?, watched, Option.getD_some]
      exact ⟨signalled, rfl, by simp [distance, watching]⟩
  | panicked =>
      refine ⟨.notice, ?_⟩
      simp only [Closing.step, Closing.adopt, Supervision.notice?, watched, Option.getD_some]
      exact ⟨signalled, rfl, by simp [distance, watching, found, Worker.distance]⟩

theorem supervisor_nearer (entries : List Entry) (closing : Closing) (orderly : Orderly entries closing)
    (signalled : closing.supervision.signalled = true) (going : closing.supervision.supervisor ≠ .ended) :
    ∃ action, Nearer closing (closing.step action) := by
  cases supervisor : closing.supervision.supervisor with
  | absent => exact absurd supervisor orderly.present
  | ended => exact absurd supervisor going
  | launching =>
      refine ⟨.spawn, ?_⟩
      simp only [Closing.step, Closing.adopt, Supervision.spawn?, supervisor, if_true, Option.getD_some]
      exact ⟨signalled, rfl, by simp [distance, supervisor, Worker.distance]⟩
  | pausing =>
      refine ⟨.desist, ?_⟩
      simp only [Closing.step, Closing.adopt, Supervision.desist?, supervisor, signalled, decide_true, Bool.and_self,
        if_true, Option.getD_some]
      exact ⟨rfl, rfl, by simp [distance, supervisor]⟩
  | watching position =>
      obtain ⟨worker, found⟩ := orderly.watched position supervisor
      exact worker_nearer closing position worker signalled supervisor found

theorem run_append (closing : Closing) (first second : List Action) :
    closing.run (first ++ second) = (closing.run first).run second :=
  List.foldl_append

-- Induction on the distance: from wherever the supervisor is, a step brings its end nearer.
theorem supervisor_ends (entries : List Entry) (closing : Closing) (orderly : Orderly entries closing)
    (signalled : closing.supervision.signalled = true) :
    ∃ actions, (closing.run actions).supervision.supervisor = .ended ∧
      (closing.run actions).supervision.removers = closing.supervision.removers := by
  generalize far : distance closing.supervision = bound
  induction bound using Nat.strongRecOn generalizing closing with
  | ind bound ih =>
      by_cases ended : closing.supervision.supervisor = .ended
      · exact ⟨[], ended, rfl⟩
      · obtain ⟨action, nearer⟩ := supervisor_nearer entries closing orderly signalled ended
        obtain ⟨rest, stops, removers⟩ := ih _ (far ▸ nearer.nearer) (closing.step action)
          (orderly_step entries closing action orderly) nearer.signalled rfl
        exact ⟨action :: rest, stops, removers.trans nearer.removers⟩

def deletions (mishaps : List (Nat × Option Mishap)) : List Action :=
  mishaps.map fun (now, mishap) => .delete now mishap

theorem delete_advances (closing : Closing) (entry : Entry) (left : List Entry) (now : Nat) (mishap : Option Mishap)
    (removers : closing.supervision.removers = [.deleting entry left]) :
    (closing.delete now mishap).supervision.removers = [Remover.ofEntries left] := by
  simp [Closing.delete, Closing.deletion?, removers, Remover.call?, Closing.pursue, Supervision.delete?]

theorem deletions_finish (mishaps : List (Nat × Option Mishap)) (left : List Entry) (enough : left.length ≤ mishaps.length)
    (closing : Closing) (removers : closing.supervision.removers = [Remover.ofEntries left]) :
    (closing.run (deletions mishaps)).supervision.removers = [.returned] := by
  induction mishaps generalizing closing left with
  | nil =>
      rw [List.length_eq_zero_iff.mp (Nat.le_zero.mp enough)] at removers
      exact removers
  | cons mishap rest ih =>
      cases left with
      | nil =>
          have idle : closing.step (.delete mishap.1 mishap.2) = closing := by
            simp [Closing.step, Closing.delete, Closing.deletion?, removers, Remover.ofEntries, Remover.call?]
          exact ih [] (Nat.zero_le _) _ (idle.symm ▸ removers)
      | cons entry left =>
          exact ih left (Nat.le_of_succ_le_succ enough) _ (delete_advances closing entry left _ _ removers)

theorem proceed_begins (closing : Closing) (waiting : closing.supervision.removers = [.waiting])
    (ended : closing.supervision.supervisor = .ended) :
    (closing.step .proceed).supervision.removers = [Remover.ofEntries closing.supervision.entries] := by
  simp [Closing.step, Supervision.proceed?, waiting, ended, Closing.pursue]

theorem proceed_later (closing : Closing) (left : List Entry)
    (removers : closing.supervision.removers = [Remover.ofEntries left]) : closing.step .proceed = closing := by
  cases left <;> simp [Closing.step, Supervision.proceed?, removers, Remover.ofEntries, Closing.pursue]

theorem hook_finishes (entries : List Entry) (closing : Closing) (orderly : Orderly entries closing)
    (asked : closing.supervision.removers ≠ []) (ended : closing.supervision.supervisor = .ended)
    (mishaps : List (Nat × Option Mishap)) (enough : entries.length ≤ mishaps.length) :
    (closing.run (.proceed :: deletions mishaps)).supervision.removers = [.returned] := by
  have goes : closing.supervision.removers = [.waiting] ∨
      ∃ done left, closing.supervision.removers = [Remover.ofEntries left] ∧ done ++ left = entries := by
    have stage := orderly.stage
    generalize closing.supervision.removers = removers at stage asked ⊢
    generalize closing.supervision.supervisor = supervisor at stage
    generalize closing.issued = issued at stage
    generalize closing.answers.map (·.1) = answered at stage
    cases stage with
    | idle => exact absurd rfl asked
    | waiting => exact Or.inl rfl
    | removing _ _ done left split => exact Or.inr ⟨done, left, rfl, split⟩
  rcases goes with waiting | ⟨done, left, removers, split⟩
  · exact deletions_finish mishaps entries enough _ (orderly.kept ▸ proceed_begins closing waiting ended)
  · have fewer : left.length ≤ mishaps.length := by
      rw [← split, List.length_append] at enough
      omega
    exact deletions_finish mishaps left fewer _ ((proceed_later closing left removers).symm ▸ removers)

theorem absent_performed (now : Nat) (operation : Operation) (key : String) (store : Store)
    (silent : ∀ reply, Store.binds key operation reply = none) (absent : store.table.get? key = none) :
    (perform now operation store).2.table.get? key = none := by
  apply Option.eq_none_iff_forall_ne_some.mpr
  intro entry found
  rcases Store.perform_entry_origin now operation key store entry found with bound | ⟨_, before⟩
  · rw [silent] at bound
    cases bound
  · rw [absent] at before
    cases before

theorem unrelated_silent (entries : List Entry) (entry : Entry) (member : entry ∈ entries) (operation : Operation)
    (unrelated : Unrelated entries operation) (reply : Reply) : Store.binds entry.key operation reply = none := by
  cases operation with
  | put key value lease =>
      cases reply with
      | done => exact if_neg (Ne.symm (unrelated entry member))
      | _ => rfl
  | _ => rfl

theorem deleted_absent (now : Nat) (key : String) (store : Store) (done : (perform now (.delete key) store).1 = .done) :
    (perform now (.delete key) store).2.table.get? key = none := by
  have does := Store.perform_does now (.delete key) store
  rw [done] at does
  generalize (perform now (.delete key) store).2 = result at does ⊢
  generalize Store.foundBy now (.delete key) store = found at does
  cases does with
  | delete =>
      unfold Store.remove
      split
      next => rw [Table.lookup_erase, if_pos rfl]
      next missing =>
        apply Option.eq_none_iff_forall_ne_some.mpr
        exact fun entry present => missing ((Table.contains_iff _ key).mpr ⟨entry, present⟩)

theorem attempt_deletes (now : Nat) (mishap : Option Mishap) (key query : String) (store : Store)
    (gone : store.table.get? query = none ∨
      query = key ∧ (attempt now (.delete key) (store, [{ mishap }])).1 = .done) :
    (attempt now (.delete key) (store, [{ mishap }])).2.1.table.get? query = none := by
  rcases gone with absent | ⟨rfl, done⟩
  · have stays := absent_performed now (.delete key) query store (fun _ => rfl) absent
    exact attempt_by_cases (fun store => store.table.get? query = none) now (.delete key) (store, [{ mishap }]) absent stays
  · have served := attempt_served now (.delete query) (store, [{ mishap }]) (by rw [done]; rfl)
    rw [served] at done ⊢
    exact deleted_absent now query store done

-- The deletions that the store has answered with success have taken effect.
def Gone (entries : List Entry) (closing : Closing) : Prop :=
  ∀ entry ∈ entries, (deletion entry, .done) ∈ closing.answers → closing.store.table.get? entry.key = none

theorem follow_outside (closing : Closing) (worker : Nat) (taken : Option Supervision) :
    (closing.follow worker taken).store = closing.store ∧ (closing.follow worker taken).answers = closing.answers := by
  cases taken <;> exact ⟨rfl, rfl⟩

theorem pursue_outside (closing : Closing) (taken : Option Supervision) :
    (closing.pursue taken).store = closing.store ∧ (closing.pursue taken).answers = closing.answers := by
  cases taken <;> exact ⟨rfl, rfl⟩

theorem ask_outside (closing : Closing) : closing.ask.store = closing.store ∧ closing.ask.answers = closing.answers := by
  unfold Closing.ask
  split <;> exact ⟨rfl, rfl⟩

theorem gone_same (entries : List Entry) (closing next : Closing)
    (outside : next.store = closing.store ∧ next.answers = closing.answers) (gone : Gone entries closing) :
    Gone entries next := by
  unfold Gone
  rw [outside.1, outside.2]
  exact gone

theorem stage_unanswered (entries : List Entry) (removers : List Remover) (supervisor : Supervisor)
    (issued answered : List Operation) (stage : Stage entries removers supervisor issued answered)
    (going : supervisor ≠ .ended) : answered = [] := by
  cases stage with
  | idle => rfl
  | waiting => rfl
  | removing => exact absurd rfl going

theorem calling_alive (supervision : Supervision) (position : Nat) (operation : Operation)
    (calling : supervision.callOf position = some operation) : AliveAt supervision position := by
  obtain ⟨worker, found, calls⟩ := Option.bind_eq_some_iff.mp calling
  refine ⟨worker, found, ?_⟩
  unfold Worker.call? at calls
  unfold Worker.isAlive
  split at calls
  next phase => rw [phase]
  next => cases calls

-- A worker still has a call open only before the first deletion.
theorem gone_carried (entries : List Entry) (closing : Closing) (position now : Nat) (reached : Bool)
    (orderly : Orderly entries closing) (gone : Gone entries closing) :
    Gone entries { closing with store := closing.carried now reached (closing.supervision.callOf position) } := by
  cases calling : closing.supervision.callOf position with
  | none => exact gone
  | some operation =>
      have watching := orderly.alone position (calling_alive _ position operation calling)
      have unanswered := stage_unanswered entries _ _ _ _ orderly.stage (by simp [watching])
      intro entry _ answered
      rw [List.map_eq_nil_iff.mp unanswered] at answered
      cases answered

theorem gone_delete (entries : List Entry) (closing : Closing) (now : Nat) (mishap : Option Mishap)
    (orderly : Orderly entries closing) (gone : Gone entries closing) : Gone entries (closing.delete now mishap) := by
  unfold Closing.delete
  cases deletes : Closing.deletion? closing.supervision with
  | none => exact gone
  | some operation =>
      obtain ⟨_, _, entry, _, _, _, _, _, rfl, _, _⟩ := stage_deleting entries _ _ _ _ operation orderly.stage deletes
      refine gone_same entries _ _ (pursue_outside _ _) fun other member answered => ?_
      apply attempt_deletes now mishap entry.key other.key closing.store
      rcases List.mem_append.mp answered with before | fresh
      · exact Or.inl (gone other member before)
      · obtain ⟨same, reply⟩ := Prod.mk.inj (List.mem_singleton.mp fresh)
        exact Or.inr ⟨Operation.delete.inj same, reply.symm⟩

theorem gone_step (entries : List Entry) (closing : Closing) (action : Action)
    (unrelated : ∀ now operation, action = .other now operation → Unrelated entries operation)
    (orderly : Orderly entries closing) (gone : Gone entries closing) : Gone entries (closing.step action) := by
  cases action with
  | answer worker now reached reply =>
      exact gone_same entries _ _ (follow_outside _ worker _) (gone_carried entries closing worker now reached orderly gone)
  | panic worker now reached =>
      exact gone_same entries _ _ (follow_outside _ worker _) (gone_carried entries closing worker now reached orderly gone)
  | tick worker => exact gone_same entries _ _ (follow_outside closing worker _) gone
  | stop worker => exact gone_same entries _ _ (follow_outside closing worker _) gone
  | remove => exact gone_same entries _ _ (ask_outside closing) gone
  | proceed => exact gone_same entries _ _ (pursue_outside closing _) gone
  | delete now mishap => exact gone_delete entries closing now mishap orderly gone
  | other now operation =>
      intro entry member answered
      refine absent_performed now operation entry.key closing.store ?_ (gone entry member answered)
      exact unrelated_silent entries entry member operation (unrelated now operation rfl)
  | _ => exact gone

theorem gone_run (entries : List Entry) (closing : Closing) (actions : List Action)
    (unrelated : ∀ now operation, .other now operation ∈ actions → Unrelated entries operation)
    (orderly : Orderly entries closing) (gone : Gone entries closing) : Gone entries (closing.run actions) := by
  induction actions generalizing closing with
  | nil => exact gone
  | cons action rest ih =>
      refine ih _ (fun now operation later => unrelated now operation (List.mem_cons_of_mem _ later))
        (orderly_step entries closing action orderly) ?_
      refine gone_step entries closing action (fun now operation same => ?_) orderly gone
      exact unrelated now operation (same ▸ List.mem_cons_self)

theorem answers_same (closing next : Closing) (same : next.answers = closing.answers) :
    closing.answers <+: next.answers :=
  same ▸ List.prefix_rfl

theorem answers_kept (closing : Closing) (action : Action) : closing.answers <+: (closing.step action).answers := by
  cases action with
  | tick worker => exact answers_same _ _ (follow_outside closing worker _).2
  | answer worker now reached reply => exact answers_same _ _ (follow_outside _ worker _).2
  | stop worker => exact answers_same _ _ (follow_outside closing worker _).2
  | panic worker now reached => exact answers_same _ _ (follow_outside _ worker _).2
  | remove => exact answers_same _ _ (ask_outside closing).2
  | proceed => exact answers_same _ _ (pursue_outside closing _).2
  | delete now mishap =>
      simp only [Closing.step, Closing.delete]
      split
      · exact List.prefix_rfl
      · rw [(pursue_outside _ _).2]
        exact List.prefix_append _ _
  | _ => exact List.prefix_rfl

theorem answers_run (closing : Closing) (actions : List Action) : closing.answers <+: (closing.run actions).answers := by
  induction actions generalizing closing with
  | nil => exact List.prefix_rfl
  | cons action rest ih => exact (answers_kept closing action).trans (ih _)

theorem stage_order (entries : List Entry) (removers : List Remover) (supervisor : Supervisor)
    (issued answered : List Operation) (stage : Stage entries removers supervisor issued answered) :
    ∃ upkeep count, issued = upkeep ++ (entries.take count).map deletion ∧
      ∀ operation ∈ upkeep, isUpkeep operation = true := by
  cases stage with
  | idle _ _ all => exact ⟨issued, 0, (List.append_nil _).symm, all⟩
  | waiting _ _ all => exact ⟨issued, 0, (List.append_nil _).symm, all⟩
  | removing upkeep all done left split =>
      subst split
      cases left with
      | nil => exact ⟨upkeep, done.length, by simp [Remover.ofEntries, Remover.call?], all⟩
      | cons entry left =>
          refine ⟨upkeep, done.length + 1, ?_, all⟩
          have reached : (done ++ entry :: left).take (done.length + 1) = done ++ [entry] := by
            rw [List.take_length_add_append, List.take_one, List.head?_cons, Option.toList_some]
          rw [reached, List.map_append, ← List.append_assoc]
          rfl

theorem stage_returned (entries : List Entry) (supervisor : Supervisor) (issued answered : List Operation)
    (stage : Stage entries [.returned] supervisor issued answered) : answered = entries.map deletion := by
  generalize removers : [Remover.returned] = current at stage
  cases stage with
  | idle => cases removers
  | waiting => cases removers
  | removing _ _ done left split =>
      cases left with
      | nil => rw [← split, List.append_nil]
      | cons entry left => cases removers

theorem deregistration_is_final (ttl : Nat) (entries : List Entry) (store : Store) (actions : List Action) :
    let closing := (Closing.begun ttl entries store).run actions
    (∀ first second, AliveAt closing.supervision first → AliveAt closing.supervision second → first = second) ∧
    (∃ upkeep count, closing.issued = upkeep ++ (entries.take count).map deletion ∧
      ∀ operation ∈ upkeep, isUpkeep operation = true) ∧
    (closing.supervision.removers = [.returned] → closing.answers.map (·.1) = entries.map deletion) ∧
    (closing.supervision.removers ≠ [] → closing.supervision.signalled = true →
      ∃ later, (closing.run later).supervision.removers = [.returned]) ∧
    (closing.supervision.removers ≠ [] → closing.supervision.supervisor = .ended →
      ∀ mishaps, entries.length ≤ mishaps.length →
        (closing.run (.proceed :: deletions mishaps)).supervision.removers = [.returned]) ∧
    (∀ later, (∀ now operation, .other now operation ∈ actions ++ later → Unrelated entries operation) →
      ∀ entry ∈ entries, (deletion entry, .done) ∈ closing.answers →
        (closing.run later).store.table.get? entry.key = none) := by
  intro closing
  have orderly : Orderly entries closing := orderly_run entries _ actions (orderly_begun ttl entries store)
  refine ⟨?_, ?_, ?_, ?_, ?_, ?_⟩
  · intro first second one other
    exact Supervisor.watching.inj ((orderly.alone first one).symm.trans (orderly.alone second other))
  · exact stage_order entries _ _ _ _ orderly.stage
  · intro returned
    have stage := orderly.stage
    rw [returned] at stage
    exact stage_returned entries _ _ _ stage
  · intro asked signalled
    obtain ⟨ending, ended, removers⟩ := supervisor_ends entries closing orderly signalled
    have enough : entries.length ≤ (entries.map fun _ => ((0, none) : Nat × Option Mishap)).length := by simp
    refine ⟨ending ++ .proceed :: deletions (entries.map fun _ => (0, none)), ?_⟩
    rw [run_append]
    exact hook_finishes entries _ (orderly_run entries closing ending orderly) (removers ▸ asked) ended _ enough
  · intro asked ended mishaps enough
    exact hook_finishes entries closing orderly asked ended mishaps enough
  · intro later unrelated entry member answered
    have gone : Gone entries ((Closing.begun ttl entries store).run (actions ++ later)) :=
      gone_run entries _ _ unrelated (orderly_begun ttl entries store) (fun _ _ none => by cases none)
    rw [run_append] at gone
    exact gone entry member ((answers_run closing later).subset answered)

def listed : List Entry := [{ key := "a", value := [1] }, { key := "b", value := [2] }]

-- The first worker panics in a put that is carried out all the same, after the signal has come and the hook
-- has begun. The second one is spawned before the supervisor sees the signal, and stops before its first
-- tick. The first of the two deletions is refused.
def departure : List Action :=
  [.spawn, .tick 0, .answer 0 1 true (.lease 1), .answer 0 2 true .done, .signal, .remove, .panic 0 3 true, .notice,
    .relaunch, .spawn, .stop 1, .proceed, .notice, .proceed, .delete 4 (some (.refused .unavailable)), .delete 5 none]

def aftermath : List Action := [.other 6 (.put "c" [3] none), .spawn, .tick 1, .relaunch, .delete 7 none]

theorem deregistration_is_final_after_panic :
    let closing := (Closing.begun 10 listed {}).run departure
    closing.supervision.removers = [.returned] ∧
      closing.issued = [.grant 10, .put "a" [1] (some 1), .put "b" [2] (some 1), .delete "a", .delete "b"] ∧
      closing.answers.map (·.1) = listed.map deletion ∧
      closing.store.table.get? "a" = some { value := [1], lease := some 1 } ∧
      (closing.run aftermath).store.table.get? "b" = none := by
  have returned : ((Closing.begun 10 listed {}).run departure).supervision.removers = [.returned] := by decide +kernel
  obtain ⟨_, _, everything, _, _, gone⟩ := deregistration_is_final 10 listed {} departure
  have others : ∀ now operation, .other now operation ∈ departure ++ aftermath → Unrelated listed operation := by
    intro now operation member
    simp [departure, aftermath] at member
    obtain ⟨rfl, rfl⟩ := member
    decide
  exact ⟨returned, by decide +kernel, everything returned, by decide +kernel,
    gone aftermath others { key := "b", value := [2] } (by decide) (by decide +kernel)⟩

end ServiceHost.Registration
