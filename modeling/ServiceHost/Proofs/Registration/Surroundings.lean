import ServiceHost.Proofs.Store.Leases
import ServiceHost.Registration.Keeper

set_option autoImplicit false

namespace ServiceHost.Registration

open Store (Operation Reply Coherent perform after word idAfter)

-- A call that is refused does not reach the store. One whose answer is lost has been carried out.
inductive Mishap where
  | refused (error : StoreError)
  | lost (error : StoreError)
deriving DecidableEq, Repr

-- What surrounds a call: what others do just before it, and what happens to it.
structure Circumstance where
  others : List Operation := []
  mishap : Option Mishap := none
deriving DecidableEq, Repr

def together (now : Nat) (operations : List Operation) (store : Store) : Store :=
  after (operations.map (now, ·)) store

-- A call of the loop. When the circumstances have been used up there are no special ones.
def attempt (now : Nat) (operation : Operation) (state : Store × List Circumstance) :
    Reply × Store × List Circumstance :=
  let circumstance := state.2.head?.getD {}
  let store := together now circumstance.others state.1
  match circumstance.mishap with
  | none => ((perform now operation store).1, (perform now operation store).2, state.2.tail)
  | some (.refused error) => (.refused error, store, state.2.tail)
  | some (.lost error) => (.refused error, (perform now operation store).2, state.2.tail)

def Unrelated (entries : List Entry) : Operation → Prop
  | .put key _ _ => ∀ entry ∈ entries, entry.key ≠ key
  | .delete key => ∀ entry ∈ entries, entry.key ≠ key
  | _ => True

instance (entries : List Entry) : (operation : Operation) → Decidable (Unrelated entries operation)
  | .put key _ _ => inferInstanceAs (Decidable (∀ entry ∈ entries, entry.key ≠ key))
  | .delete key => inferInstanceAs (Decidable (∀ entry ∈ entries, entry.key ≠ key))
  | .grant _ => .isTrue trivial
  | .keepAlive _ => .isTrue trivial
  | .list _ => .isTrue trivial
  | .leaseOf _ => .isTrue trivial
  | .leaseCount => .isTrue trivial
  | .revoke _ => .isTrue trivial
  | .setAvailable _ => .isTrue trivial

def isGrant : Operation → Bool
  | .grant _ => true
  | _ => false

def grantCount (operations : List Operation) : Nat := operations.countP isGrant

def ahead : Nat → LeaseId → LeaseId
  | 0, id => id
  | count + 1, id => ahead count (idAfter id)

-- None of the next grants brings the lease back.
def Spared (id : LeaseId) (left : Nat) (store : Store) : Prop := ∀ count < left, ahead count store.nextLease ≠ id

-- What the store has to show for the belief that a lease is held. A lease that has run out unnoticed may
-- be gone, and the keys with it.
structure Justified (ttl : Nat) (entries : List Entry) (id : LeaseId) (store : Store) : Prop where
  term : ∀ lease ∈ store.leases, lease.id = id → lease.ttl = ttl
  bound : store.isLive id = true →
    ∀ entry ∈ entries, store.table.get? entry.key = some { value := entry.value, lease := some id }

structure Sound (store : Store) : Prop where
  coherent : Coherent store
  counted : ∃ n, store.nextLease = word n

theorem ahead_word (count n : Nat) : ahead count (word n) = word (n + count) := by
  induction count generalizing n with
  | zero => rfl
  | succ count ih => rw [ahead, Store.id_after_word, ih, Nat.add_right_comm, Nat.add_assoc]

-- Ids come around after as many grants as there are words.
theorem word_comes_around (n count : Nat) (few : count + 1 < 0x10000000000000000) : word (n + (count + 1)) ≠ word n := by
  unfold word
  intro same
  have difference := Int.bmod_eq_bmod_iff_bmod_sub_eq_zero.mp same
  rw [show ((n + (count + 1) : Nat) : Int) - (n : Int) = ((count + 1 : Nat) : Int) by omega] at difference
  have divides := Int.dvd_of_bmod_eq_zero difference
  have bound := Int.le_of_dvd (by omega) divides
  omega

theorem spared_granted (n left : Nat) (few : left < 0x10000000000000000) (store : Store)
    (next : store.nextLease = idAfter (word n)) : Spared (word n) left store := by
  intro count bound
  rw [next, Store.id_after_word, ahead_word, Nat.add_assoc, Nat.add_comm 1]
  exact word_comes_around n count (by omega)

theorem spared_fewer (id : LeaseId) (more left : Nat) (fewer : left ≤ more) (store : Store)
    (spared : Spared id more store) : Spared id left store :=
  fun count bound => spared count (Nat.lt_of_lt_of_le bound fewer)

theorem found_next (now : Nat) (operation : Operation) (store : Store) :
    (Store.foundBy now operation store).nextLease = store.nextLease :=
  Store.found_by_cases (fun found => found.nextLease = store.nextLease) now operation store rfl
    (Store.sweep_next_lease now store)

theorem perform_next (now : Nat) (operation : Operation) (store : Store) :
    (perform now operation store).2.nextLease = store.nextLease ∨
      isGrant operation = true ∧ (perform now operation store).2.nextLease = idAfter store.nextLease := by
  have next := found_next now operation store
  have does := Store.perform_does now operation store
  rw [← next]
  generalize Store.foundBy now operation store = found at does ⊢
  generalize (perform now operation store).1 = reply at does
  generalize (perform now operation store).2 = result at does ⊢
  cases does with
  | grant ttl _ => exact Or.inr ⟨rfl, rfl⟩
  | delete key =>
      left
      unfold Store.remove
      split <;> rfl
  | _ => exact Or.inl rfl

theorem sound_perform (now : Nat) (operation : Operation) (store : Store) (sound : Sound store) :
    Sound (perform now operation store).2 := by
  refine ⟨Store.coherent_perform now operation store sound.coherent, ?_⟩
  obtain ⟨n, next⟩ := sound.counted
  rcases perform_next now operation store with same | ⟨_, after⟩
  · exact ⟨n, same.trans next⟩
  · exact ⟨n + 1, by rw [after, next, Store.id_after_word]⟩

theorem spared_perform (now : Nat) (operation : Operation) (id : LeaseId) (left : Nat) (store : Store)
    (spared : Spared id (grantCount [operation] + left) store) : Spared id left (perform now operation store).2 := by
  rcases perform_next now operation store with same | ⟨grants, after⟩
  · have kept := spared_fewer id _ left (Nat.le_add_left _ _) store spared
    unfold Spared at kept ⊢
    rw [same]
    exact kept
  · intro count bound
    have more : count + 1 < grantCount [operation] + left := by
      simp only [grantCount, List.countP_singleton, grants, if_true]
      omega
    rw [after]
    exact spared (count + 1) more

theorem drop_keys_spares (ids : List LeaseId) (id : LeaseId) (apart : id ∉ ids) (store : Store) (key : String)
    (value : List UInt8) (found : store.table.get? key = some { value, lease := some id }) :
    (Store.dropKeys ids store).table.get? key = some { value, lease := some id } := by
  rw [Store.drop_keys_table, Table.lookup_keep, found]
  simp [Option.filter, Store.boundTo, apart]

theorem justified_carried (ttl : Nat) (entries : List Entry) (id : LeaseId) (before after : Store)
    (justified : Justified ttl entries id before)
    (leases : ∀ lease ∈ after.leases, lease.id = id → ∃ old ∈ before.leases, old.id = id ∧ old.ttl = lease.ttl)
    (table : after.isLive id = true → ∀ entry ∈ entries,
      before.table.get? entry.key = some { value := entry.value, lease := some id } →
        after.table.get? entry.key = some { value := entry.value, lease := some id }) :
    Justified ttl entries id after := by
  refine ⟨?_, ?_⟩
  · intro lease member same
    obtain ⟨old, oldMember, oldSame, term⟩ := leases lease member same
    exact term.symm.trans (justified.term old oldMember oldSame)
  · intro live entry member
    obtain ⟨lease, leaseMember, same⟩ := (Store.is_live_iff after id).mp live
    obtain ⟨old, oldMember, oldSame, _⟩ := leases lease leaseMember same
    have known : before.isLive id = true := (Store.is_live_iff before id).mpr ⟨old, oldMember, oldSame⟩
    exact table live entry member (justified.bound known entry member)

theorem justified_sweep (ttl : Nat) (entries : List Entry) (id : LeaseId) (now : Nat) (store : Store)
    (coherent : Coherent store) (justified : Justified ttl entries id store) :
    Justified ttl entries id (Store.sweep now store) := by
  have fewer : ∀ lease ∈ (Store.sweep now store).leases, lease ∈ store.leases := by
    intro lease member
    rw [Store.sweep_leases] at member
    exact (List.mem_filter.mp member).1
  apply justified_carried ttl entries id store _ justified
  · exact fun lease member same => ⟨lease, fewer lease member, same, rfl⟩
  · intro live entry _ found
    obtain ⟨lease, member, same⟩ := (Store.is_live_iff _ id).mp live
    have known : store.isLive id = true := (Store.is_live_iff store id).mpr ⟨lease, fewer lease member, same⟩
    have apart := (Store.live_or_expired now store coherent id known).mp live
    rw [Store.sweep_eq]
    exact drop_keys_spares _ id apart _ entry.key entry.value found

theorem justified_perform (ttl : Nat) (entries : List Entry) (id : LeaseId) (now : Nat) (operation : Operation)
    (store : Store) (coherent : Coherent store) (unrelated : Unrelated entries operation)
    (apart : isGrant operation = true → store.nextLease ≠ id) (justified : Justified ttl entries id store) :
    Justified ttl entries id (perform now operation store).2 := by
  have next := found_next now operation store
  have found := Store.found_by_cases (Justified ttl entries id) now operation store justified
    (justified_sweep ttl entries id now store coherent justified)
  have does := Store.perform_does now operation store
  rw [← next] at apart
  generalize Store.foundBy now operation store = before at found does apart
  generalize (perform now operation store).1 = reply at does
  generalize (perform now operation store).2 = result at does ⊢
  cases does with
  | grant term _ =>
      apply justified_carried ttl entries id before _ found
      · intro lease member same
        rcases List.mem_append.mp member with kept | fresh
        · exact ⟨lease, (List.mem_filter.mp kept).1, same, rfl⟩
        · rw [List.mem_singleton.mp fresh] at same
          exact False.elim (apart rfl same)
      · exact fun _ _ _ present => present
  | keepAlive renewed _ _ =>
      apply justified_carried ttl entries id before _ found
      · intro lease member same
        obtain ⟨old, inside, rfl⟩ := List.mem_map.mp member
        refine ⟨old, inside, ?_, ?_⟩
        · by_cases hit : old.id = renewed <;> simpa [hit] using same
        · by_cases hit : old.id = renewed <;> simp [hit]
      · exact fun _ _ _ present => present
  | put key value lease _ =>
      apply justified_carried ttl entries id before _ found
      · exact fun lease member same => ⟨lease, member, same, rfl⟩
      · intro _ entry member present
        simp only [Store.write, Table.lookup_insert, if_neg (unrelated entry member)]
        exact present
  | delete key =>
      apply justified_carried ttl entries id before _ found
      · rw [Store.remove_leases]
        exact fun lease member same => ⟨lease, member, same, rfl⟩
      · intro _ entry member present
        unfold Store.remove
        split
        · simp only [Table.lookup_erase, if_neg (unrelated entry member)]
          exact present
        · exact present
  | revoke revoked =>
      apply justified_carried ttl entries id before _ found
      · exact fun lease member same => ⟨lease, (List.mem_filter.mp member).1, same, rfl⟩
      · intro live entry _ present
        obtain ⟨lease, member, same⟩ := (Store.is_live_iff _ id).mp live
        have other : lease.id ≠ revoked := by simpa using (List.mem_filter.mp member).2
        rw [same] at other
        exact drop_keys_spares [revoked] id (by simpa using other) _ entry.key entry.value present
  | setAvailable available =>
      apply justified_carried ttl entries id before _ found
      · exact fun lease member same => ⟨lease, member, same, rfl⟩
      · exact fun _ _ _ present => present
  | _ => exact found

structure Backed (ttl : Nat) (entries : List Entry) (id : LeaseId) (left : Nat) (store : Store) : Prop where
  sound : Sound store
  justified : Justified ttl entries id store
  spared : Spared id left store

theorem granted_apart (id : LeaseId) (left : Nat) (operation : Operation) (store : Store)
    (spared : Spared id (grantCount [operation] + left) store) : isGrant operation = true → store.nextLease ≠ id := by
  intro grants
  have first : 0 < grantCount [operation] + left := by
    simp only [grantCount, List.countP_singleton, grants, if_true]
    omega
  exact spared 0 first

theorem backed_perform (ttl : Nat) (entries : List Entry) (id : LeaseId) (left now : Nat) (operation : Operation)
    (store : Store) (unrelated : Unrelated entries operation)
    (backed : Backed ttl entries id (grantCount [operation] + left) store) :
    Backed ttl entries id left (perform now operation store).2 := by
  have apart := granted_apart id left operation store backed.spared
  exact ⟨sound_perform now operation store backed.sound,
    justified_perform ttl entries id now operation store backed.sound.coherent unrelated apart backed.justified,
    spared_perform now operation id left store backed.spared⟩

theorem grants_append (first second : List Operation) : grantCount (first ++ second) = grantCount first + grantCount second :=
  List.countP_append

theorem grants_cons (operation : Operation) (rest : List Operation) :
    grantCount (operation :: rest) = grantCount [operation] + grantCount rest :=
  grants_append [operation] rest

theorem sound_together (now : Nat) (operations : List Operation) (store : Store) (sound : Sound store) :
    Sound (together now operations store) := by
  induction operations generalizing store with
  | nil => exact sound
  | cons operation rest ih => exact ih _ (sound_perform now operation store sound)

theorem spared_together (now : Nat) (operations : List Operation) (id : LeaseId) (left : Nat) (store : Store)
    (spared : Spared id (grantCount operations + left) store) : Spared id left (together now operations store) := by
  induction operations generalizing store with
  | nil => exact spared_fewer id _ left (Nat.le_add_left _ _) store spared
  | cons operation rest ih =>
      rw [grants_cons, Nat.add_assoc] at spared
      exact ih _ (spared_perform now operation id _ store spared)

theorem backed_together (ttl : Nat) (entries : List Entry) (id : LeaseId) (left now : Nat) (operations : List Operation)
    (store : Store) (unrelated : ∀ operation ∈ operations, Unrelated entries operation)
    (backed : Backed ttl entries id (grantCount operations + left) store) :
    Backed ttl entries id left (together now operations store) := by
  induction operations generalizing store with
  | nil => exact ⟨backed.sound, backed.justified, spared_fewer id _ left (Nat.le_add_left _ _) store backed.spared⟩
  | cons operation rest ih =>
      rw [grants_cons, Nat.add_assoc] at backed
      apply ih _ fun other member => unrelated other (List.mem_cons_of_mem _ member)
      exact backed_perform ttl entries id _ now operation store (unrelated operation List.mem_cons_self) backed

def around (circumstances : List Circumstance) : List Operation := circumstances.flatMap (·.others)

def reached (now : Nat) (state : Store × List Circumstance) : Store :=
  together now (state.2.head?.getD {}).others state.1

theorem around_next (circumstances : List Circumstance) :
    around circumstances = (circumstances.head?.getD {}).others ++ around circumstances.tail := by
  cases circumstances <;> rfl

theorem attempt_rest (now : Nat) (operation : Operation) (state : Store × List Circumstance) :
    (attempt now operation state).2.2 = state.2.tail := by
  unfold attempt
  dsimp only
  split <;> rfl

theorem attempt_plain (now : Nat) (operation : Operation) (state : Store × List Circumstance)
    (plain : (state.2.head?.getD {}).mishap = none) :
    attempt now operation state =
      ((perform now operation (reached now state)).1, (perform now operation (reached now state)).2, state.2.tail) := by
  simp only [attempt, plain, reached]

theorem attempt_served (now : Nat) (operation : Operation) (state : Store × List Circumstance)
    (accepted : Keeper.refusal? (attempt now operation state).1 = none) :
    attempt now operation state =
      ((perform now operation (reached now state)).1, (perform now operation (reached now state)).2, state.2.tail) := by
  cases mishap : (state.2.head?.getD {}).mishap with
  | none => exact attempt_plain now operation state mishap
  | some mishap' => cases mishap' <;> simp [attempt, mishap, Keeper.refusal?] at accepted

theorem attempt_by_cases (P : Store → Prop) (now : Nat) (operation : Operation) (state : Store × List Circumstance)
    (found : P (reached now state)) (performed : P (perform now operation (reached now state)).2) :
    P (attempt now operation state).2.1 := by
  unfold reached at found performed
  unfold attempt
  dsimp only
  split
  next => exact performed
  next => exact found
  next => exact performed

theorem sound_attempt (now : Nat) (operation : Operation) (state : Store × List Circumstance) (sound : Sound state.1) :
    Sound (attempt now operation state).2.1 := by
  have found : Sound (reached now state) := sound_together now _ state.1 sound
  exact attempt_by_cases Sound now operation state found (sound_perform now operation _ found)

theorem spared_reached (now : Nat) (id : LeaseId) (left : Nat) (state : Store × List Circumstance)
    (spared : Spared id (grantCount (around state.2) + left) state.1) :
    Spared id (grantCount (around state.2.tail) + left) (reached now state) := by
  rw [around_next, grants_append, Nat.add_assoc] at spared
  exact spared_together now _ id _ state.1 spared

theorem spared_attempt (now : Nat) (operation : Operation) (plain : isGrant operation = false) (id : LeaseId) (left : Nat)
    (state : Store × List Circumstance) (spared : Spared id (grantCount (around state.2) + left) state.1) :
    Spared id (grantCount (around (attempt now operation state).2.2) + left) (attempt now operation state).2.1 := by
  have found := spared_reached now id left state spared
  have performed : Spared id (grantCount (around state.2.tail) + left) (perform now operation (reached now state)).2 := by
    apply spared_perform now operation id
    simpa [grantCount, plain] using found
  rw [attempt_rest]
  exact attempt_by_cases (Spared id _) now operation state found performed

theorem justified_reached (ttl : Nat) (entries : List Entry) (now : Nat) (id : LeaseId) (left : Nat)
    (state : Store × List Circumstance) (unrelated : ∀ operation ∈ around state.2, Unrelated entries operation)
    (sound : Sound state.1) (spared : Spared id (grantCount (around state.2) + left) state.1)
    (justified : Justified ttl entries id state.1) : Justified ttl entries id (reached now state) := by
  rw [around_next] at unrelated spared
  rw [grants_append, Nat.add_assoc] at spared
  have foreign : ∀ operation ∈ (state.2.head?.getD {}).others, Unrelated entries operation :=
    fun operation member => unrelated operation (List.mem_append_left _ member)
  exact (backed_together ttl entries id _ now _ state.1 foreign ⟨sound, justified, spared⟩).justified

theorem unrelated_fewer (more fewer : List Entry) (operation : Operation) (part : ∀ entry ∈ fewer, entry ∈ more)
    (unrelated : Unrelated more operation) : Unrelated fewer operation := by
  cases operation with
  | put key value lease => exact fun entry member => unrelated entry (part entry member)
  | delete key => exact fun entry member => unrelated entry (part entry member)
  | _ => trivial

theorem justified_attempt (ttl : Nat) (entries : List Entry) (now : Nat) (operation : Operation) (id : LeaseId)
    (left : Nat) (state : Store × List Circumstance) (plain : isGrant operation = false)
    (own : Unrelated entries operation) (unrelated : ∀ other ∈ around state.2, Unrelated entries other)
    (sound : Sound state.1) (spared : Spared id (grantCount (around state.2) + left) state.1)
    (justified : Justified ttl entries id state.1) : Justified ttl entries id (attempt now operation state).2.1 := by
  have found := justified_reached ttl entries now id left state unrelated sound spared justified
  have coherent : Coherent (reached now state) := (sound_together now _ state.1 sound).coherent
  have performed := justified_perform ttl entries id now operation _ coherent own (fun grants => by simp [plain] at grants) found
  exact attempt_by_cases (Justified ttl entries id) now operation state found performed

end ServiceHost.Registration
