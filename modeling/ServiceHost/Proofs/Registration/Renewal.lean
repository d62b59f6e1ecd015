import ServiceHost.Proofs.Registration.Upkeep

set_option autoImplicit false

namespace ServiceHost.Registration

open Store (Operation Reply Coherent perform after)

def Calm : Operation → Prop
  | .revoke _ => False
  | .setAvailable available => available = true
  | _ => True

instance : (operation : Operation) → Decidable (Calm operation)
  | .revoke _ => .isFalse id
  | .setAvailable available => inferInstanceAs (Decidable (available = true))
  | .grant _ => .isTrue trivial
  | .keepAlive _ => .isTrue trivial
  | .put .. => .isTrue trivial
  | .delete _ => .isTrue trivial
  | .list _ => .isTrue trivial
  | .leaseOf _ => .isTrue trivial
  | .leaseCount => .isTrue trivial

structure Lasting (id : LeaseId) (expiry : Nat) (store : Store) : Prop where
  held : ∃ lease ∈ store.leases, lease.id = id ∧ expiry ≤ lease.deadline
  available : store.available = true

structure Firm (ttl : Nat) (entries : List Entry) (id : LeaseId) (left expiry : Nat) (store : Store) : Prop where
  backed : Backed ttl entries id left store
  lasting : Lasting id expiry store

theorem available_perform (now : Nat) (operation : Operation) (store : Store) (calm : Calm operation)
    (available : store.available = true) : (perform now operation store).2.available = true := by
  have found := Store.found_by_cases (fun found => found.available = true) now operation store available
    ((Store.sweep_available now store).trans available)
  have does := Store.perform_does now operation store
  generalize Store.foundBy now operation store = before at found does
  generalize (perform now operation store).1 = reply at does
  generalize (perform now operation store).2 = result at does ⊢
  cases does with
  | delete key =>
      unfold Store.remove
      split <;> exact found
  | setAvailable => exact calm
  | _ => exact found

theorem held_sweep (now expiry : Nat) (id : LeaseId) (store : Store) (before : now < expiry)
    (held : ∃ lease ∈ store.leases, lease.id = id ∧ expiry ≤ lease.deadline) :
    ∃ lease ∈ (Store.sweep now store).leases, lease.id = id ∧ expiry ≤ lease.deadline := by
  obtain ⟨lease, member, same, later⟩ := held
  refine ⟨lease, ?_, same, later⟩
  rw [Store.sweep_leases]
  exact List.mem_filter.mpr ⟨member, by simpa using Nat.lt_of_lt_of_le before later⟩

theorem held_perform (ttl : Nat) (id : LeaseId) (now expiry : Nat) (operation : Operation) (store : Store)
    (calm : Calm operation) (before : now < expiry) (within : expiry ≤ now + ttl)
    (apart : isGrant operation = true → store.nextLease ≠ id)
    (term : ∀ lease ∈ store.leases, lease.id = id → lease.ttl = ttl)
    (held : ∃ lease ∈ store.leases, lease.id = id ∧ expiry ≤ lease.deadline) :
    ∃ lease ∈ (perform now operation store).2.leases, lease.id = id ∧ expiry ≤ lease.deadline := by
  have next := found_next now operation store
  have found := Store.found_by_cases (fun found => ∃ lease ∈ found.leases, lease.id = id ∧ expiry ≤ lease.deadline)
    now operation store held (held_sweep now expiry id store before held)
  have known : ∀ lease ∈ (Store.foundBy now operation store).leases, lease.id = id → lease.ttl = ttl :=
    fun lease member => term lease (Store.found_leases now operation store lease member)
  have does := Store.perform_does now operation store
  rw [← next] at apart
  generalize Store.foundBy now operation store = before at found known does apart
  generalize (perform now operation store).1 = reply at does
  generalize (perform now operation store).2 = result at does ⊢
  obtain ⟨lease, member, same, later⟩ := found
  cases does with
  | grant other _ =>
      have different : lease.id ≠ before.nextLease := fun equal => apart rfl (equal.symm.trans same)
      have kept : lease ∈ before.leases.filter (·.id ≠ before.nextLease) :=
        List.mem_filter.mpr ⟨member, by simpa using different⟩
      exact ⟨lease, List.mem_append_left _ kept, same, later⟩
  | keepAlive renewed _ _ =>
      by_cases hit : lease.id = renewed
      · refine ⟨{ lease with deadline := now + lease.ttl }, ?_, same, ?_⟩
        · exact List.mem_map.mpr ⟨lease, member, by rw [if_pos hit]⟩
        · rw [known lease member same]
          exact within
      · exact ⟨lease, List.mem_map.mpr ⟨lease, member, by rw [if_neg hit]⟩, same, later⟩
  | delete key =>
      rw [Store.remove_leases]
      exact ⟨lease, member, same, later⟩
  | revoke => exact False.elim calm
  | _ => exact ⟨lease, member, same, later⟩

theorem firm_perform (ttl : Nat) (entries : List Entry) (id : LeaseId) (left expiry now : Nat) (operation : Operation)
    (store : Store) (unrelated : Unrelated entries operation) (calm : Calm operation) (before : now < expiry)
    (within : expiry ≤ now + ttl) (firm : Firm ttl entries id (grantCount [operation] + left) expiry store) :
    Firm ttl entries id left expiry (perform now operation store).2 := by
  refine ⟨backed_perform ttl entries id left now operation store unrelated firm.backed, ?_,
    available_perform now operation store calm firm.lasting.available⟩
  exact held_perform ttl id now expiry operation store calm before within
    (granted_apart id left operation store firm.backed.spared) firm.backed.justified.term firm.lasting.held

theorem firm_together (ttl : Nat) (entries : List Entry) (id : LeaseId) (left expiry now : Nat)
    (operations : List Operation) (store : Store) (unrelated : ∀ operation ∈ operations, Unrelated entries operation)
    (calm : ∀ operation ∈ operations, Calm operation) (before : now < expiry) (within : expiry ≤ now + ttl)
    (firm : Firm ttl entries id (grantCount operations + left) expiry store) :
    Firm ttl entries id left expiry (together now operations store) := by
  induction operations generalizing store with
  | nil =>
      have spared := spared_fewer id _ left (Nat.le_add_left _ _) store firm.backed.spared
      exact ⟨⟨firm.backed.sound, firm.backed.justified, spared⟩, firm.lasting⟩
  | cons operation rest ih =>
      rw [grants_cons, Nat.add_assoc] at firm
      have stepped := firm_perform ttl entries id _ expiry now operation store (unrelated operation List.mem_cons_self)
        (calm operation List.mem_cons_self) before within firm
      exact ih _ (fun other member => unrelated other (List.mem_cons_of_mem _ member))
        (fun other member => calm other (List.mem_cons_of_mem _ member)) stepped

theorem available_together (now : Nat) (operations : List Operation) (store : Store)
    (calm : ∀ operation ∈ operations, Calm operation) (available : store.available = true) :
    (together now operations store).available = true := by
  induction operations generalizing store with
  | nil => exact available
  | cons operation rest ih =>
      have stepped := available_perform now operation store (calm operation List.mem_cons_self) available
      exact ih _ (fun other member => calm other (List.mem_cons_of_mem _ member)) stepped

structure Undisturbed (entries : List Entry) (circumstances : List Circumstance) : Prop where
  plain : ∀ circumstance ∈ circumstances, circumstance.mishap = none
  unrelated : ∀ operation ∈ around circumstances, Unrelated entries operation
  calm : ∀ operation ∈ around circumstances, Calm operation

theorem undisturbed_now (entries : List Entry) (circumstances : List Circumstance)
    (undisturbed : Undisturbed entries circumstances) :
    (circumstances.head?.getD {}).mishap = none ∧
      (∀ operation ∈ (circumstances.head?.getD {}).others, Unrelated entries operation) ∧
      ∀ operation ∈ (circumstances.head?.getD {}).others, Calm operation := by
  obtain ⟨plain, unrelated, calm⟩ := undisturbed
  rw [around_next] at unrelated calm
  refine ⟨?_, fun operation member => unrelated operation (List.mem_append_left _ member),
    fun operation member => calm operation (List.mem_append_left _ member)⟩
  cases circumstances with
  | nil => rfl
  | cons circumstance rest => exact plain circumstance List.mem_cons_self

theorem undisturbed_later (entries : List Entry) (circumstances : List Circumstance)
    (undisturbed : Undisturbed entries circumstances) : Undisturbed entries circumstances.tail := by
  obtain ⟨plain, unrelated, calm⟩ := undisturbed
  rw [around_next] at unrelated calm
  exact ⟨fun circumstance member => plain circumstance (List.mem_of_mem_tail member),
    fun operation member => unrelated operation (List.mem_append_right _ member),
    fun operation member => calm operation (List.mem_append_right _ member)⟩

theorem put_accepted (id : LeaseId) (expiry now : Nat) (entry : Entry) (store : Store) (before : now < expiry)
    (lasting : Lasting id expiry store) : Keeper.refusal? (perform now (Keeper.putCall id entry) store).1 = none := by
  obtain ⟨lease, member, same, _⟩ := held_sweep now expiry id store before lasting.held
  have live : (Store.sweep now store).isLive id = true := (Store.is_live_iff _ id).mpr ⟨lease, member, same⟩
  simp [Keeper.putCall, perform, Store.put, lasting.available, Option.filter, live, Reply.ofExcept, Keeper.refusal?]

theorem firm_put (ttl : Nat) (done : List Entry) (id : LeaseId) (left expiry now : Nat) (entry : Entry) (store : Store)
    (fresh : ∀ old ∈ done, old.key ≠ entry.key) (before : now < expiry) (within : expiry ≤ now + ttl)
    (firm : Firm ttl done id left expiry store) :
    Firm ttl (done ++ [entry]) id left expiry (perform now (Keeper.putCall id entry) store).2 := by
  have accepted := put_accepted id expiry now entry store before firm.lasting
  refine ⟨⟨sound_perform now _ store firm.backed.sound, ?_, ?_⟩, ?_, ?_⟩
  · exact justified_put ttl done id now entry store firm.backed.sound.coherent fresh firm.backed.justified accepted
  · exact spared_perform now _ id left store (by simpa [grantCount, Keeper.putCall, isGrant] using firm.backed.spared)
  · exact held_perform ttl id now expiry _ store trivial before within (fun grants => by cases grants)
      firm.backed.justified.term firm.lasting.held
  · exact available_perform now _ store trivial firm.lasting.available

theorem firm_reached (ttl : Nat) (entries : List Entry) (id : LeaseId) (left expiry now : Nat)
    (state : Store × List Circumstance) (undisturbed : Undisturbed entries state.2) (before : now < expiry)
    (within : expiry ≤ now + ttl) (firm : Firm ttl entries id (grantCount (around state.2) + left) expiry state.1) :
    Firm ttl entries id (grantCount (around state.2.tail) + left) expiry (reached now state) := by
  obtain ⟨_, unrelated, calm⟩ := undisturbed_now entries state.2 undisturbed
  rw [around_next, grants_append, Nat.add_assoc] at firm
  exact firm_together ttl entries id _ expiry now _ state.1 unrelated calm before within firm

theorem undisturbed_fewer (more fewer : List Entry) (part : ∀ entry ∈ fewer, entry ∈ more)
    (circumstances : List Circumstance) (undisturbed : Undisturbed more circumstances) :
    Undisturbed fewer circumstances :=
  ⟨undisturbed.plain, fun operation member => unrelated_fewer more fewer operation part (undisturbed.unrelated operation member),
    undisturbed.calm⟩

theorem firm_placing (ttl : Nat) (done rest : List Entry) (id : LeaseId) (left expiry now : Nat)
    (state : Store × List Circumstance) (undisturbed : Undisturbed (done ++ rest) state.2)
    (distinct : ((done ++ rest).map (·.key)).Nodup) (before : now < expiry) (within : expiry ≤ now + ttl)
    (firm : Firm ttl done id (grantCount (around state.2) + left) expiry state.1) :
    (Keeper.placeAll (attempt now) id rest none state).1 = none ∧
      Firm ttl (done ++ rest) id left expiry (Keeper.placeAll (attempt now) id rest none state).2.1 := by
  induction rest generalizing done state with
  | nil =>
      have spared := spared_fewer id _ left (Nat.le_add_left _ _) _ firm.backed.spared
      rw [List.append_nil]
      exact ⟨rfl, ⟨firm.backed.sound, firm.backed.justified, spared⟩, firm.lasting⟩
  | cons entry rest ih =>
      have fresh := fresh_key done rest entry distinct
      have soFar := undisturbed_fewer _ done (fun _ => List.mem_append_left _) state.2 undisturbed
      have found := firm_reached ttl done id left expiry now state soFar before within firm
      have accepted := put_accepted id expiry now entry _ before found.lasting
      have stepped := firm_put ttl done id _ expiry now entry _ fresh before within found
      have later := undisturbed_later _ state.2 undisturbed
      rw [List.append_cons] at later distinct ⊢
      have answered := attempt_plain now (Keeper.putCall id entry) state (undisturbed_now _ state.2 soFar).1
      simp only [Keeper.placeAll, answered, accepted, Option.map_none, Option.or_none]
      exact ih (done ++ [entry]) _ later distinct stepped

theorem firm_granted (ttl left now : Nat) (store : Store) (few : left < 0x10000000000000000) (sound : Sound store)
    (available : store.available = true) :
    (perform now (.grant ttl) store).1 = .lease store.nextLease ∧
      Firm ttl [] store.nextLease left (now + ttl) (perform now (.grant ttl) store).2 := by
  have granted : perform now (.grant ttl) store =
      (.lease store.nextLease, Store.issue now ttl (Store.sweep now store)) := by
    simp [perform, Store.grant, available, Reply.ofExcept]
  obtain ⟨justified, _, next⟩ := justified_grant ttl now store.nextLease store (by rw [granted])
  obtain ⟨n, counted⟩ := sound.counted
  have spared : Spared store.nextLease left (perform now (.grant ttl) store).2 := by
    rw [counted] at next ⊢
    exact spared_granted n left few _ next
  refine ⟨by rw [granted], ⟨sound_perform now _ store sound, justified, spared⟩, ?_,
    available_perform now _ store trivial available⟩
  rw [granted]
  refine ⟨_, List.mem_append_right _ (List.mem_singleton.mpr rfl), ?_, Nat.le_refl _⟩
  exact Store.sweep_next_lease now store

theorem available_reached (entries : List Entry) (now : Nat) (state : Store × List Circumstance)
    (undisturbed : Undisturbed entries state.2) (available : state.1.available = true) :
    (reached now state).available = true :=
  available_together now _ state.1 (undisturbed_now entries state.2 undisturbed).2.2 available

theorem tick_registers (ttl : Nat) (entries : List Entry) (left now : Nat) (circumstances : List Circumstance)
    (store : Store) (distinct : (entries.map (·.key)).Nodup) (term : 0 < ttl)
    (undisturbed : Undisturbed entries circumstances)
    (few : grantCount (around circumstances) + left < 0x10000000000000000) (sound : Sound store)
    (available : store.available = true) :
    ∃ id, (Course.tick ttl entries now circumstances { store }).keeper = { belief := .bound id } ∧
      Firm ttl entries id left (now + ttl) (Course.tick ttl entries now circumstances { store }).store := by
  have fewer : grantCount (around circumstances.tail) + left < 0x10000000000000000 := by
    rw [around_next, grants_append] at few
    omega
  have found : Sound (reached now (store, circumstances)) := sound_together now _ store sound
  obtain ⟨granted, firm⟩ := firm_granted ttl _ now _ fewer found
    (available_reached entries now (store, circumstances) undisturbed available)
  have answered := attempt_plain now (.grant ttl) (store, circumstances) (undisturbed_now entries circumstances undisturbed).1
  have later := undisturbed_later entries circumstances undisturbed
  obtain ⟨accepted, complete⟩ := firm_placing ttl [] entries _ left (now + ttl) now (_, circumstances.tail) later distinct
    (Nat.lt_add_of_pos_right term) (Nat.le_refl _) firm
  refine ⟨(reached now (store, circumstances)).nextLease, ?_⟩
  unfold Course.tick
  rw [Keeper.tick_unbound, answered, granted]
  dsimp only
  generalize Keeper.placeAll (attempt now) _ entries none _ = placed at accepted complete ⊢
  obtain ⟨failure, state⟩ := placed
  dsimp only at accepted complete
  subst accepted
  exact ⟨rfl, complete⟩

theorem keep_alive_answer (id : LeaseId) (now : Nat) (store : Store) (available : store.available = true) :
    perform now (.keepAlive id) store =
      match (Store.sweep now store).leases.find? (·.id = id) with
      | none => (.refused (.leaseNotFound id), Store.sweep now store)
      | some lease => (.remaining lease.ttl, Store.renew now id (Store.sweep now store)) := by
  simp only [perform, Store.keepAlive, available, Bool.not_true, Bool.false_eq_true, if_false]
  cases (Store.sweep now store).leases.find? (·.id = id) <;> rfl

theorem renewed_lasts (ttl : Nat) (entries : List Entry) (id : LeaseId) (left now : Nat) (store : Store)
    (backed : Backed ttl entries id left store) (available : store.available = true)
    (accepted : Keeper.refusal? (perform now (.keepAlive id) store).1 = none) :
    Firm ttl entries id left (now + ttl) (perform now (.keepAlive id) store).2 := by
  have plain : grantCount [.keepAlive id] + left = left := Nat.zero_add left
  have kept := backed_perform ttl entries id left now (.keepAlive id) store trivial (by rw [plain]; exact backed)
  refine ⟨kept, ?_, available_perform now _ store trivial available⟩
  have term := (justified_sweep ttl entries id now store backed.sound.coherent backed.justified).term
  rw [keep_alive_answer id now store available] at accepted ⊢
  cases known : (Store.sweep now store).leases.find? (·.id = id) with
  | none =>
      rw [known] at accepted
      cases accepted
  | some lease =>
      have member := List.mem_of_find?_eq_some known
      have same : lease.id = id := by simpa using List.find?_some known
      refine ⟨{ lease with deadline := now + lease.ttl }, List.mem_map.mpr ⟨lease, member, by rw [if_pos same]⟩, same, ?_⟩
      exact Nat.le_of_eq (congrArg (now + ·) (term lease member same).symm)

theorem keep_alive_accepted (id : LeaseId) (expiry now : Nat) (store : Store) (before : now < expiry)
    (lasting : Lasting id expiry store) : Keeper.refusal? (perform now (.keepAlive id) store).1 = none := by
  obtain ⟨lease, member, same, _⟩ := held_sweep now expiry id store before lasting.held
  rw [keep_alive_answer id now store lasting.available]
  cases known : (Store.sweep now store).leases.find? (·.id = id) with
  | none => exact False.elim (List.find?_eq_none.mp known lease member (by simpa using same))
  | some lease => rfl

theorem tick_renews (ttl : Nat) (entries : List Entry) (id : LeaseId) (left now expiry : Nat)
    (circumstances : List Circumstance) (store : Store) (undisturbed : Undisturbed entries circumstances)
    (before : now < expiry) (within : expiry ≤ now + ttl)
    (firm : Firm ttl entries id (grantCount (around circumstances) + left) expiry store) :
    (Course.tick ttl entries now circumstances { store, keeper := { belief := .bound id } }).keeper =
        { belief := .bound id } ∧
      Firm ttl entries id left (now + ttl)
        (Course.tick ttl entries now circumstances { store, keeper := { belief := .bound id } }).store := by
  have found := firm_reached ttl entries id left expiry now (store, circumstances) undisturbed before within firm
  have accepted := keep_alive_accepted id expiry now _ before found.lasting
  have renewed := renewed_lasts ttl entries id _ now _ found.backed found.lasting.available accepted
  have answered := attempt_plain now (.keepAlive id) (store, circumstances) (undisturbed_now entries circumstances undisturbed).1
  unfold Course.tick
  rw [Keeper.tick_bound, answered]
  dsimp only
  rw [accepted]
  have spared := spared_fewer id _ left (Nat.le_add_left _ _) _ renewed.backed.spared
  exact ⟨rfl, ⟨renewed.backed.sound, renewed.backed.justified, spared⟩, renewed.lasting⟩

-- No lease at all, or one that lasts: what a belief is worth once it has been put to the test.
structure Settled (ttl : Nat) (entries : List Entry) (left expiry : Nat) (course : Course) : Prop where
  sound : Sound course.store
  available : course.store.available = true
  belief : course.keeper = {} ∨
    ∃ id, course.keeper = { belief := .bound id } ∧ Firm ttl entries id left expiry course.store

theorem tick_settles (ttl : Nat) (entries : List Entry) (left now : Nat) (circumstances : List Circumstance)
    (course : Course) (distinct : (entries.map (·.key)).Nodup) (term : 0 < ttl)
    (undisturbed : Undisturbed entries circumstances)
    (few : grantCount (around circumstances) + left < 0x10000000000000000)
    (kept : Kept ttl entries (grantCount (around circumstances) + left) course)
    (available : course.store.available = true) :
    Settled ttl entries left (now + ttl) (course.tick ttl entries now circumstances) := by
  obtain ⟨store, keeper⟩ := course
  have sound := (kept_tick ttl entries left now circumstances _ distinct undisturbed.unrelated few kept).sound
  rcases kept.belief with unbound | ⟨id, held, justified, spared⟩
  · dsimp only at unbound
    subst unbound
    obtain ⟨id, bound, firm⟩ := tick_registers ttl entries left now circumstances store distinct term undisturbed few
      kept.sound available
    exact ⟨sound, firm.lasting.available, Or.inr ⟨id, bound, firm⟩⟩
  · dsimp only at held justified spared available
    subst held
    have found : Backed ttl entries id left (reached now (store, circumstances)) :=
      ⟨sound_together now _ store kept.sound,
        justified_reached ttl entries now id left (store, circumstances) undisturbed.unrelated kept.sound spared justified,
        spared_fewer id _ left (Nat.le_add_left _ _) _ (spared_reached now id left (store, circumstances) spared)⟩
    have reachable := available_reached entries now (store, circumstances) undisturbed available
    have renewed := renewed_lasts ttl entries id left now _ found reachable
    have still := available_perform now (.keepAlive id) _ trivial reachable
    have answered := attempt_plain now (.keepAlive id) (store, circumstances) (undisturbed_now entries circumstances undisturbed).1
    unfold Course.tick at sound ⊢
    rw [Keeper.tick_bound, answered] at sound ⊢
    dsimp only at sound ⊢
    generalize perform now (.keepAlive id) (reached now (store, circumstances)) = result at sound renewed still ⊢
    cases refused : Keeper.refusal? result.1 with
    | none =>
        rw [refused] at sound
        exact ⟨sound, (renewed refused).lasting.available, Or.inr ⟨id, rfl, renewed refused⟩⟩
    | some error =>
        rw [refused] at sound
        exact ⟨sound, still, Or.inl rfl⟩

end ServiceHost.Registration
