import Mathlib.Data.List.Nodup
import ServiceHost.Proofs.Store.Operation

set_option autoImplicit false

namespace ServiceHost.Store

structure Coherent (store : Store) : Prop where
  distinct : (store.leases.map (·.id)).Nodup
  bound : ∀ key entry id, store.table.get? key = some entry → entry.lease = some id → store.isLive id = true

theorem is_live_iff (store : Store) (id : LeaseId) : store.isLive id = true ↔ ∃ lease ∈ store.leases, lease.id = id := by
  simp [isLive]

theorem mem_expired_iff (now : Nat) (store : Store) (id : LeaseId) :
    id ∈ expired now store ↔ ∃ lease ∈ store.leases, lease.id = id ∧ lease.deadline ≤ now := by
  simp only [expired, List.mem_map, List.mem_filter, decide_eq_true_eq]
  constructor
  · rintro ⟨lease, ⟨member, due⟩, same⟩
    exact ⟨lease, member, same, due⟩
  · rintro ⟨lease, member, same, due⟩
    exact ⟨lease, ⟨member, due⟩, same⟩

theorem bound_to_iff (ids : List LeaseId) (entry : Entry) :
    boundTo ids entry = true ↔ ∃ id, entry.lease = some id ∧ id ∈ ids := by
  cases lease : entry.lease <;> simp [boundTo, lease]

theorem same_id_same_lease (store : Store) (coherent : Coherent store) (a b : Lease) (inA : a ∈ store.leases)
    (inB : b ∈ store.leases) (same : a.id = b.id) : a = b :=
  List.inj_on_of_nodup_map coherent.distinct inA inB same

theorem sweep_live_iff (now : Nat) (store : Store) (id : LeaseId) :
    (sweep now store).isLive id = true ↔ ∃ lease ∈ store.leases, lease.id = id ∧ now < lease.deadline := by
  simp only [is_live_iff, sweep_leases, List.mem_filter, decide_eq_true_eq]
  constructor
  · rintro ⟨lease, ⟨member, left⟩, same⟩
    exact ⟨lease, member, same, left⟩
  · rintro ⟨lease, member, same, left⟩
    exact ⟨lease, ⟨member, left⟩, same⟩

theorem live_or_expired (now : Nat) (store : Store) (coherent : Coherent store) (id : LeaseId)
    (present : store.isLive id = true) : (sweep now store).isLive id = true ↔ id ∉ expired now store := by
  obtain ⟨lease, member, same⟩ := (is_live_iff store id).mp present
  rw [sweep_live_iff, mem_expired_iff]
  constructor
  · rintro ⟨other, otherMember, otherSame, left⟩ ⟨third, thirdMember, thirdSame, due⟩
    have equal := same_id_same_lease store coherent other third otherMember thirdMember (otherSame.trans thirdSame.symm)
    rw [equal] at left
    omega
  · intro notDue
    exact ⟨lease, member, same, Nat.lt_of_not_le fun due => notDue ⟨lease, member, same, due⟩⟩

theorem drop_keys_bound (store : Store) (ids : List LeaseId) (left : List Lease)
    (bound : ∀ key entry id, store.table.get? key = some entry → entry.lease = some id →
      id ∉ ids → ∃ lease ∈ left, lease.id = id) :
    ∀ key entry id, (dropKeys ids { store with leases := left }).table.get? key = some entry → entry.lease = some id →
      (dropKeys ids { store with leases := left }).isLive id = true := by
  intro key entry id found lease
  rw [drop_keys_table, Table.lookup_keep, Option.filter_eq_some_iff] at found
  refine (is_live_iff _ id).mpr (bound key entry id found.1 lease ?_)
  intro inside
  have dropped := (bound_to_iff ids entry).mpr ⟨id, lease, inside⟩
  simp [dropped] at found

theorem coherent_sweep (now : Nat) (store : Store) (coherent : Coherent store) : Coherent (sweep now store) := by
  refine ⟨?_, ?_⟩
  · rw [sweep_leases]
    exact coherent.distinct.sublist (List.filter_sublist.map _)
  · rw [sweep_eq]
    apply drop_keys_bound
    intro key entry id found lease notDue
    have live := (live_or_expired now store coherent id (coherent.bound key entry id found lease)).mpr notDue
    simpa only [sweep_leases] using (is_live_iff _ id).mp live

theorem coherent_issue (now ttl : Nat) (store : Store) (coherent : Coherent store) : Coherent (issue now ttl store) := by
  refine ⟨?_, ?_⟩
  · simp only [issue, List.map_append, List.map_cons, List.map_nil]
    apply List.nodup_append.mpr
    refine ⟨coherent.distinct.sublist (List.filter_sublist.map _), List.nodup_singleton _, ?_⟩
    intro id member next single
    obtain ⟨lease, kept, rfl⟩ := List.mem_map.mp member
    rw [List.mem_singleton.mp single]
    simpa using (List.mem_filter.mp kept).2
  · intro key entry id found lease
    obtain ⟨old, member, same⟩ := (is_live_iff store id).mp (coherent.bound key entry id found lease)
    rw [is_live_iff]
    by_cases reused : id = store.nextLease
    · exact ⟨_, List.mem_append_right _ (List.mem_singleton.mpr rfl), reused.symm⟩
    · refine ⟨old, List.mem_append_left _ (List.mem_filter.mpr ⟨member, ?_⟩), same⟩
      simpa [same] using reused

theorem coherent_renew (now : Nat) (id : LeaseId) (store : Store) (coherent : Coherent store) :
    Coherent (renew now id store) := by
  have ids : (renew now id store).leases.map (·.id) = store.leases.map (·.id) := by
    rw [renew, List.map_map]
    apply List.map_congr_left
    intro lease _
    by_cases same : lease.id = id <;> simp [same]
  refine ⟨by rw [ids]; exact coherent.distinct, ?_⟩
  intro key entry other found lease
  have live := coherent.bound key entry other found lease
  simp only [is_live_iff] at live ⊢
  simpa [← List.mem_map, ids] using live

theorem coherent_write (key : String) (value : List UInt8) (lease : Option LeaseId) (store : Store)
    (live : ∀ id, lease = some id → store.isLive id = true) (coherent : Coherent store) :
    Coherent (write key value lease store) := by
  refine ⟨coherent.distinct, ?_⟩
  intro query entry id found holder
  simp only [write, Table.lookup_insert] at found
  split at found
  · cases found
    exact live id holder
  · exact coherent.bound query entry id found holder

theorem coherent_remove (key : String) (store : Store) (coherent : Coherent store) : Coherent (remove key store) := by
  have same : (remove key store).leases = store.leases := remove_leases key store
  refine ⟨same ▸ coherent.distinct, ?_⟩
  intro query entry id found holder
  rw [isLive, same]
  exact coherent.bound query entry id (remove_entries key query store entry found) holder

theorem coherent_revoke (id : LeaseId) (store : Store) (coherent : Coherent store) : Coherent (revoke id store) := by
  refine ⟨coherent.distinct.sublist (List.filter_sublist.map _), ?_⟩
  apply drop_keys_bound
  intro key entry other found holder different
  obtain ⟨lease, member, same⟩ := (is_live_iff store other).mp (coherent.bound key entry other found holder)
  refine ⟨lease, List.mem_filter.mpr ⟨member, ?_⟩, same⟩
  simpa [same] using different

theorem coherent_keeps (now : Nat) (operation : Operation) : Keeps now operation Coherent where
  sweep := coherent_sweep now
  issue := fun ttl store _ => coherent_issue now ttl store
  renew := fun id store _ => coherent_renew now id store
  write := fun key value lease store _ => coherent_write key value lease store
  remove := fun key store _ => coherent_remove key store
  revoke := fun id store _ => coherent_revoke id store
  setAvailable := fun _ _ coherent => ⟨coherent.distinct, coherent.bound⟩

theorem coherent_initial : Coherent {} := by
  refine ⟨List.nodup_nil, ?_⟩
  intro key entry id found
  cases found

theorem coherent_perform (now : Nat) (operation : Operation) (store : Store) (coherent : Coherent store) :
    Coherent (perform now operation store).2 :=
  perform_keeps now operation Coherent (coherent_keeps now operation) store coherent

theorem coherent_after (history : History) : Coherent (after history {}) :=
  after_keeps history Coherent (fun entry _ => coherent_keeps entry.1 entry.2) {} coherent_initial

end ServiceHost.Store
