import ServiceHost.Proofs.Registration.Surroundings
import ServiceHost.Proofs.Registration.Tick

set_option autoImplicit false

namespace ServiceHost.Registration

open Store (Operation Reply Coherent perform after word idAfter)

structure Course where
  store : Store := {}
  keeper : Keeper := {}

inductive Event where
  | tick (circumstances : List Circumstance)
  | other (operation : Operation)
deriving DecidableEq, Repr

def Event.others : Event → List Operation
  | .tick circumstances => circumstances.flatMap (·.others)
  | .other operation => [operation]

def Event.mishaps : Event → List Mishap
  | .tick circumstances => circumstances.filterMap (·.mishap)
  | .other _ => []

namespace Course

def tick (ttl : Nat) (entries : List Entry) (now : Nat) (circumstances : List Circumstance) (course : Course) : Course :=
  let (_, keeper, store, _) := Keeper.tick (attempt now) ttl entries course.keeper (course.store, circumstances)
  { store, keeper }

def step (ttl : Nat) (entries : List Entry) (course : Course) (event : Nat × Event) : Course :=
  match event.2 with
  | .tick circumstances => course.tick ttl entries event.1 circumstances
  | .other operation => { course with store := (perform event.1 operation course.store).2 }

def run (ttl : Nat) (entries : List Entry) (course : Course) (events : List (Nat × Event)) : Course :=
  events.foldl (step ttl entries) course

end Course

-- A loop on its way through the entries: as long as nothing has failed, the entries so far are bound.
structure Placing (ttl : Nat) (done : List Entry) (id : LeaseId) (left : Nat) (failure : Option RegistrationError)
    (state : Store × List Circumstance) : Prop where
  sound : Sound state.1
  spared : Spared id (grantCount (around state.2) + left) state.1
  justified : failure = none → Justified ttl done id state.1

theorem justified_put (ttl : Nat) (done : List Entry) (id : LeaseId) (now : Nat) (entry : Entry) (store : Store)
    (coherent : Coherent store) (fresh : ∀ old ∈ done, old.key ≠ entry.key) (justified : Justified ttl done id store)
    (accepted : Keeper.refusal? (perform now (Keeper.putCall id entry) store).1 = none) :
    Justified ttl (done ++ [entry]) id (perform now (Keeper.putCall id entry) store).2 := by
  have found := Store.found_by_cases (Justified ttl done id) now (Keeper.putCall id entry) store justified
    (justified_sweep ttl done id now store coherent justified)
  have does := Store.perform_does now (Keeper.putCall id entry) store
  unfold Keeper.putCall at does accepted found ⊢
  generalize Store.foundBy now (.put entry.key entry.value (some id)) store = before at found does
  generalize (perform now (.put entry.key entry.value (some id)) store).1 = reply at does accepted
  generalize (perform now (.put entry.key entry.value (some id)) store).2 = result at does ⊢
  cases does with
  | refuse operation error => cases accepted
  | put key value lease live =>
      refine ⟨found.term, ?_⟩
      intro known other member
      simp only [Store.write, Table.lookup_insert]
      rcases List.mem_append.mp member with old | new
      · rw [if_neg (fresh other old)]
        exact found.bound known other old
      · rw [List.mem_singleton.mp new, if_pos rfl]

theorem placing_step (ttl : Nat) (done : List Entry) (id : LeaseId) (left now : Nat) (entry : Entry)
    (failure : Option RegistrationError) (state : Store × List Circumstance)
    (unrelated : ∀ operation ∈ around state.2, Unrelated done operation) (fresh : ∀ old ∈ done, old.key ≠ entry.key)
    (placing : Placing ttl done id left failure state) :
    Placing ttl (done ++ [entry]) id left
      (failure.or ((Keeper.refusal? (attempt now (Keeper.putCall id entry) state).1).map (.put entry.key)))
      (attempt now (Keeper.putCall id entry) state).2 := by
  refine ⟨sound_attempt now _ state placing.sound, spared_attempt now _ rfl id left state placing.spared, ?_⟩
  intro none
  obtain ⟨before, accepted⟩ := Option.or_eq_none_iff.mp none
  rw [Option.map_eq_none_iff] at accepted
  have found := justified_reached ttl done now id left state unrelated placing.sound placing.spared
    (placing.justified before)
  have sound : Sound (reached now state) := sound_together now _ state.1 placing.sound
  have served := attempt_served now (Keeper.putCall id entry) state accepted
  rw [served] at accepted ⊢
  exact justified_put ttl done id now entry _ sound.coherent fresh found accepted

theorem fresh_key (done rest : List Entry) (entry : Entry) (distinct : ((done ++ entry :: rest).map (·.key)).Nodup) :
    ∀ old ∈ done, old.key ≠ entry.key := by
  intro old member same
  rw [List.map_append, List.map_cons] at distinct
  exact (List.nodup_append.mp distinct).2.2 old.key (List.mem_map_of_mem member) entry.key List.mem_cons_self same

theorem placing_all (ttl : Nat) (done rest : List Entry) (id : LeaseId) (left now : Nat)
    (failure : Option RegistrationError) (state : Store × List Circumstance)
    (unrelated : ∀ operation ∈ around state.2, Unrelated (done ++ rest) operation)
    (distinct : ((done ++ rest).map (·.key)).Nodup) (placing : Placing ttl done id left failure state) :
    Placing ttl (done ++ rest) id left (Keeper.placeAll (attempt now) id rest failure state).1
      (Keeper.placeAll (attempt now) id rest failure state).2 := by
  induction rest generalizing done failure state with
  | nil => simpa [Keeper.placeAll] using placing
  | cons entry rest ih =>
      have fresh := fresh_key done rest entry distinct
      have soFar : ∀ operation ∈ around state.2, Unrelated done operation := fun operation member =>
        unrelated_fewer _ done operation (fun _ => List.mem_append_left _) (unrelated operation member)
      have step := placing_step ttl done id left now entry failure state soFar fresh placing
      rw [List.append_cons] at unrelated distinct ⊢
      apply ih (done ++ [entry]) _ _ _ distinct step
      rw [attempt_rest]
      intro operation member
      apply unrelated operation
      rw [around_next]
      exact List.mem_append_right _ member

structure Kept (ttl : Nat) (entries : List Entry) (left : Nat) (course : Course) : Prop where
  sound : Sound course.store
  belief : course.keeper = {} ∨ ∃ id, course.keeper = { belief := .bound id } ∧
    Justified ttl entries id course.store ∧ Spared id left course.store

theorem justified_grant (ttl now : Nat) (id : LeaseId) (store : Store)
    (granted : (perform now (.grant ttl) store).1 = .lease id) :
    Justified ttl [] id (perform now (.grant ttl) store).2 ∧ id = store.nextLease ∧
      (perform now (.grant ttl) store).2.nextLease = idAfter id := by
  have next := found_next now (.grant ttl) store
  have does := Store.perform_does now (.grant ttl) store
  generalize Store.foundBy now (.grant ttl) store = found at next does
  generalize (perform now (.grant ttl) store).1 = reply at does granted
  generalize (perform now (.grant ttl) store).2 = result at does ⊢
  cases does with
  | refuse operation error => cases granted
  | grant ttl _ =>
      cases granted
      refine ⟨⟨?_, fun _ _ none => by cases none⟩, next, rfl⟩
      intro lease member same
      rcases List.mem_append.mp member with kept | fresh
      · exact False.elim (by simpa [same] using (List.mem_filter.mp kept).2)
      · rw [List.mem_singleton.mp fresh]

theorem placing_granted (ttl now left : Nat) (id : LeaseId) (state : Store × List Circumstance) (sound : Sound state.1)
    (few : grantCount (around state.2) + left < 0x10000000000000000)
    (granted : (attempt now (.grant ttl) state).1 = .lease id) :
    Placing ttl [] id left none (attempt now (.grant ttl) state).2 := by
  have fewer : grantCount (around state.2.tail) + left < 0x10000000000000000 := by
    rw [around_next, grants_append] at few
    omega
  have found : Sound (reached now state) := sound_together now _ state.1 sound
  obtain ⟨n, counted⟩ := found.counted
  have served := attempt_served now (.grant ttl) state (by rw [granted]; rfl)
  rw [served] at granted ⊢
  obtain ⟨justified, first, next⟩ := justified_grant ttl now id _ granted
  have numbered : id = word n := first.trans counted
  rw [numbered] at justified next ⊢
  exact ⟨sound_perform now _ _ found, spared_granted n _ fewer _ next, fun _ => justified⟩

theorem kept_settled (ttl : Nat) (entries : List Entry) (id : LeaseId) (left : Nat)
    (result : Option RegistrationError × Store × List Circumstance)
    (placing : Placing ttl entries id left result.1 result.2) :
    Kept ttl entries left
      { store := (Keeper.settled id result).2.2.1, keeper := (Keeper.settled id result).2.1 } := by
  obtain ⟨failure, store, circumstances⟩ := result
  have spared := spared_fewer id _ left (Nat.le_add_left _ _) store placing.spared
  cases failure with
  | none => exact ⟨placing.sound, Or.inr ⟨id, rfl, placing.justified rfl, spared⟩⟩
  | some error => exact ⟨placing.sound, Or.inl rfl⟩

-- A tick in which something fails ends without a lease; one in which nothing fails has bound every entry.
theorem kept_tick (ttl : Nat) (entries : List Entry) (left now : Nat) (circumstances : List Circumstance) (course : Course)
    (distinct : (entries.map (·.key)).Nodup)
    (unrelated : ∀ operation ∈ around circumstances, Unrelated entries operation)
    (few : grantCount (around circumstances) + left < 0x10000000000000000)
    (kept : Kept ttl entries (grantCount (around circumstances) + left) course) :
    Kept ttl entries left (course.tick ttl entries now circumstances) := by
  obtain ⟨store, keeper⟩ := course
  rcases kept.belief with unbound | ⟨id, held, justified, spared⟩
  · dsimp only at unbound
    subst unbound
    have sound := sound_attempt now (.grant ttl) (store, circumstances) kept.sound
    have granted := fun id => placing_granted ttl now left id (store, circumstances) kept.sound few
    have rest := attempt_rest now (.grant ttl) (store, circumstances)
    have later : ∀ operation ∈ around circumstances.tail, Unrelated entries operation := by
      intro operation member
      apply unrelated operation
      rw [around_next]
      exact List.mem_append_right _ member
    unfold Course.tick
    rw [Keeper.tick_unbound]
    generalize attempt now (.grant ttl) (store, circumstances) = answered at sound granted rest ⊢
    obtain ⟨reply, state⟩ := answered
    dsimp only at sound granted rest ⊢
    cases reply with
    | lease id =>
        rw [← rest] at later
        have placing := placing_all ttl [] entries id left now none state later distinct (granted id rfl)
        exact kept_settled ttl entries id left _ placing
    | _ => exact ⟨sound, Or.inl rfl⟩
  · dsimp only at held justified spared
    subst held
    have sound := sound_attempt now (.keepAlive id) (store, circumstances) kept.sound
    have stillSpared := spared_fewer id _ left (Nat.le_add_left _ _) _
      (spared_attempt now (.keepAlive id) rfl id left (store, circumstances) spared)
    have stillJustified := justified_attempt ttl entries now (.keepAlive id) id left (store, circumstances) rfl trivial
      unrelated kept.sound spared justified
    unfold Course.tick
    rw [Keeper.tick_bound]
    dsimp only
    cases Keeper.refusal? (attempt now (.keepAlive id) (store, circumstances)).1 with
    | none => exact ⟨sound, Or.inr ⟨id, rfl, stillJustified, stillSpared⟩⟩
    | some error => exact ⟨sound, Or.inl rfl⟩

theorem kept_other (ttl : Nat) (entries : List Entry) (left now : Nat) (operation : Operation) (course : Course)
    (unrelated : Unrelated entries operation) (kept : Kept ttl entries (grantCount [operation] + left) course) :
    Kept ttl entries left { course with store := (perform now operation course.store).2 } := by
  refine ⟨sound_perform now operation course.store kept.sound, ?_⟩
  rcases kept.belief with unbound | ⟨id, held, justified, spared⟩
  · exact Or.inl unbound
  · have backed := backed_perform ttl entries id left now operation course.store unrelated ⟨kept.sound, justified, spared⟩
    exact Or.inr ⟨id, held, backed.justified, backed.spared⟩

def othersIn (events : List (Nat × Event)) : List Operation := events.flatMap (·.2.others)

theorem kept_run (ttl : Nat) (entries : List Entry) (left : Nat) (events : List (Nat × Event)) (course : Course)
    (distinct : (entries.map (·.key)).Nodup) (unrelated : ∀ operation ∈ othersIn events, Unrelated entries operation)
    (few : grantCount (othersIn events) + left < 0x10000000000000000)
    (kept : Kept ttl entries (grantCount (othersIn events) + left) course) :
    Kept ttl entries left (course.run ttl entries events) := by
  induction events generalizing course with
  | nil =>
      refine ⟨kept.sound, kept.belief.imp_right ?_⟩
      rintro ⟨id, held, justified, spared⟩
      exact ⟨id, held, justified, spared_fewer id _ left (Nat.le_add_left _ _) _ spared⟩
  | cons head rest ih =>
      obtain ⟨now, event⟩ := head
      have parts : othersIn ((now, event) :: rest) = event.others ++ othersIn rest := rfl
      rw [parts] at unrelated few kept
      rw [grants_append, Nat.add_assoc] at few kept
      have own : ∀ operation ∈ event.others, Unrelated entries operation :=
        fun operation member => unrelated operation (List.mem_append_left _ member)
      apply ih _ (fun operation member => unrelated operation (List.mem_append_right _ member)) (by omega)
      cases event with
      | tick circumstances => exact kept_tick ttl entries _ now circumstances course distinct own few kept
      | other operation => exact kept_other ttl entries _ now operation course (own operation List.mem_cons_self) kept

theorem kept_initial (ttl : Nat) (entries : List Entry) (left : Nat) (history : Store.History) :
    Kept ttl entries left { store := after history {} } :=
  ⟨⟨Store.coherent_after history, _, (Store.granted_words history {} 1 rfl).2⟩, Or.inl rfl⟩

end ServiceHost.Registration
