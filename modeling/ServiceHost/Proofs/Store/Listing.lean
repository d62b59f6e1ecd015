import ServiceHost.Proofs.Table
import ServiceHost.Proofs.Text.Order
import ServiceHost.Store.Basic

set_option autoImplicit false

namespace ServiceHost

theorem Table.mem_under_iff {α : Type} (table : Table α) (root key : String) (value : α) :
    (key, value) ∈ table.under root ↔ Utf8.encode root <+: Utf8.encode key ∧ table.get? key = some value := by
  rw [under_filter, List.mem_filter, lies_under_iff, lookup_some_iff, Utf8.encode_prefix_iff, and_comm]

theorem Table.under_ascending {α : Type} (table : Table α) (root : String) : Ascending (table.under root) := by
  rw [under_filter]
  exact table.ascending.sublist List.filter_sublist

namespace Store

theorem list_available (store : Store) (now : Nat) (root : String) (available : store.available = true) :
    store.list now root =
      (.ok (((sweep now store).table.under root).map fun pair => (pair.1, pair.2.value)), sweep now store) := by
  rw [list, available]
  rfl

-- Whatever the table holds and whatever the root is, a listing has each key that begins with the root once, in the order of
-- the bytes.
theorem listing_exact (store : Store) (now : Nat) (root : String) (available : store.available = true) :
    ∃ found, (store.list now root).1 = .ok found ∧
      (∀ key value, (key, value) ∈ found ↔ Utf8.encode root <+: Utf8.encode key ∧
        ∃ entry, (store.list now root).2.table.get? key = some entry ∧ entry.value = value) ∧
      found.Pairwise (fun a b => Utf8.encode a.1 < Utf8.encode b.1) ∧ (found.map (·.1)).Nodup := by
  rw [list_available store now root available]
  have ordered : (((sweep now store).table.under root).map fun pair => (pair.1, pair.2.value)).Pairwise
      fun a b => Utf8.encode a.1 < Utf8.encode b.1 :=
    List.pairwise_map.mpr (((sweep now store).table.under_ascending root).imp fun less => (Utf8.encode_less_iff _ _).mpr less)
  refine ⟨_, rfl, fun key value => ?_, ordered, ?_⟩
  · rw [List.mem_map]
    constructor
    · rintro ⟨⟨name, entry⟩, inside, same⟩
      obtain ⟨rfl, rfl⟩ := Prod.mk.inj same
      obtain ⟨begins, held⟩ := (Table.mem_under_iff _ root name entry).mp inside
      exact ⟨begins, entry, held, rfl⟩
    · rintro ⟨begins, entry, held, rfl⟩
      exact ⟨(key, entry), (Table.mem_under_iff _ root key entry).mpr ⟨begins, held⟩, rfl⟩
  · refine List.pairwise_map.mpr (ordered.imp fun {a b} less same => ?_)
    rw [same] at less
    exact List.lt_irrefl _ less

-- The root is a key itself, keys stand before it and behind the last of those under it, and the lease of one has run out.
def neighbours : Store where
  table := .ofList [("a", ⟨[1], none⟩), ("a/", ⟨[2], none⟩), ("a/b", ⟨[3], some 1⟩), ("a/é", ⟨[4], none⟩), ("a0", ⟨[5], none⟩)]
  leases := [{ id := 1, ttl := 5, deadline := 5 }]

theorem listing_exact_among_neighbours : neighbours.available = true ∧
    (neighbours.list 9 "a/").1 = .ok [("a/", [2]), ("a/é", [4])] ∧
      ∀ key value, (key, value) ∈ [("a/", [2]), ("a/é", [4])] ↔ Utf8.encode "a/" <+: Utf8.encode key ∧
        ∃ entry, (neighbours.list 9 "a/").2.table.get? key = some entry ∧ entry.value = value := by
  obtain ⟨found, answered, listed, -⟩ := listing_exact neighbours 9 "a/" rfl
  have shown : (neighbours.list 9 "a/").1 = .ok [("a/", [2]), ("a/é", [4])] := by decide +kernel
  cases answered.symm.trans shown
  exact ⟨rfl, shown, listed⟩

end Store

end ServiceHost
