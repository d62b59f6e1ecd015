import ServiceHost.Proofs.Store.Leases

set_option autoImplicit false

namespace ServiceHost.Store

def binds (key : String) : Operation → Reply → Option (Option LeaseId)
  | .put put _ lease, .done => if put = key then some lease else none
  | _, _ => none

def bindings (key : String) : History → Store → List (Option LeaseId)
  | [], _ => []
  | (now, operation) :: rest, store =>
      (binds key operation (perform now operation store).1).toList ++
        bindings key rest (perform now operation store).2

def latestBinding (key : String) (history : History) (store : Store) : Option (Option LeaseId) :=
  (bindings key history store).getLast?

def namesOne (ids : List LeaseId) (binding : Option (Option LeaseId)) : Bool := binding.any (·.any (ids.contains ·))

structure Removes (ids : List LeaseId) (latest : String → Option (Option LeaseId)) (before after : Store) : Prop where
  table : after.table = before.table.keep fun key _ => !namesOne ids (latest key)
  changes : after.changes.toList =
    before.changes.toList ++ (before.table.keys.filter fun key => namesOne ids (latest key)).map .delete
  ordered : (before.table.keys.filter fun key => namesOne ids (latest key)).Pairwise (· < ·)

theorem perform_entry_origin (now : Nat) (operation : Operation) (key : String) (store : Store) (entry : Entry)
    (found : (perform now operation store).2.table.get? key = some entry) :
    binds key operation (perform now operation store).1 = some entry.lease ∨
      binds key operation (perform now operation store).1 = none ∧ store.table.get? key = some entry := by
  have old := found_entries now operation store key entry
  have does := perform_does now operation store
  generalize foundBy now operation store = before at does old
  generalize (perform now operation store).1 = reply at does ⊢
  generalize (perform now operation store).2 = result at does found
  cases does with
  | put put value lease _ =>
      simp only [write, Table.lookup_insert] at found
      by_cases same : key = put
      · rw [if_pos same] at found
        cases found
        exact Or.inl (if_pos same.symm)
      · rw [if_neg same] at found
        exact Or.inr ⟨if_neg (Ne.symm same), old found⟩
  | refuse operation error => exact Or.inr ⟨by cases operation <;> rfl, old found⟩
  | delete removed => exact Or.inr ⟨rfl, old (remove_entries removed key before entry found)⟩
  | revoke id => exact Or.inr ⟨rfl, old (drop_keys_entries [id] key _ entry found)⟩
  | _ => exact Or.inr ⟨rfl, old found⟩

theorem latest_binding_from (history : History) (key : String) (earlier : List (Option LeaseId)) (store : Store)
    (known : ∀ entry, store.table.get? key = some entry → earlier.getLast? = some entry.lease) :
    ∀ entry, (after history store).table.get? key = some entry →
      (earlier ++ bindings key history store).getLast? = some entry.lease := by
  induction history generalizing store earlier with
  | nil => simpa [bindings, after] using known
  | cons head rest ih =>
      obtain ⟨now, operation⟩ := head
      rw [bindings, ← List.append_assoc]
      apply ih
      intro entry found
      rcases perform_entry_origin now operation key store entry found with bound | ⟨unbound, before⟩
      · rw [bound]
        exact List.getLast?_concat
      · rw [unbound, Option.toList_none, List.append_nil]
        exact known entry before

theorem latest_binding (history : History) (key : String) (entry : Entry)
    (found : (after history {}).table.get? key = some entry) : latestBinding key history {} = some entry.lease :=
  latest_binding_from history key [] {} (fun _ found => by cases found) entry found

theorem keys_keep (table : Table Entry) (wanted : String → Bool) :
    (table.keep fun key _ => wanted key).keys = table.keys.filter wanted := by
  rw [Table.keys, Table.keys, List.filter_map]
  rfl

theorem drop_keys_removes (ids : List LeaseId) (latest : String → Option (Option LeaseId)) (store : Store)
    (left : List Lease) (known : ∀ key entry, store.table.get? key = some entry → latest key = some entry.lease) :
    Removes ids latest store (dropKeys ids { store with leases := left }) := by
  have doomed : ∀ key entry, store.table.get? key = some entry → boundTo ids entry = namesOne ids (latest key) := by
    intro key entry found
    rw [known key entry found]
    rfl
  refine ⟨?_, ?_, (Table.keys_ascending _).sublist List.filter_sublist⟩
  · exact store.table.keep_congr _ _ fun key entry found => congrArg (!·) (doomed key entry found)
  · rw [drop_keys_changes, store.table.keep_congr _ _ doomed, keys_keep]

theorem names_one_perm (a b : List LeaseId) (shuffled : a.Perm b) : namesOne a = namesOne b := by
  funext binding
  simp only [namesOne, shuffled.contains_eq]

theorem removes_perm (a b : List LeaseId) (shuffled : a.Perm b) (latest : String → Option (Option LeaseId))
    (before after : Store) (removes : Removes a latest before after) : Removes b latest before after := by
  have same := names_one_perm a b shuffled
  exact ⟨same ▸ removes.table, same ▸ removes.changes, same ▸ removes.ordered⟩

theorem sweep_removes (now : Nat) (latest : String → Option (Option LeaseId)) (store : Store) (order : List Lease)
    (shuffled : order.Perm store.leases)
    (known : ∀ key entry, store.table.get? key = some entry → latest key = some entry.lease) :
    Removes (expired now store) latest store (sweep now { store with leases := order }) := by
  rw [sweep_eq]
  refine removes_perm _ _ ((shuffled.filter _).map _) latest store _ ?_
  exact drop_keys_removes _ latest store _ known

theorem revoke_removes (id : LeaseId) (latest : String → Option (Option LeaseId)) (store : Store) (order : List Lease)
    (known : ∀ key entry, store.table.get? key = some entry → latest key = some entry.lease) :
    Removes [id] latest store (revoke id { store with leases := order }) :=
  drop_keys_removes [id] latest store _ known

-- Ids are words. After fewer than 2 ^ 63 grants all of them are distinct; the last of these words has
-- no greater one behind it, so the next id is the greatest as long as one more grant stays in range.
theorem reachable_store_sound (history : History) :
    (∀ key entry id, (after history {}).table.get? key = some entry → entry.lease = some id →
      (after history {}).isLive id = true) ∧
    ((granted history {}).length + 1 < 0x8000000000000000 →
      ∀ lease ∈ (after history {}).leases, lease.id < (after history {}).nextLease) ∧
    ((granted history {}).length < 0x8000000000000000 → (granted history {}).Nodup) ∧
    (∀ id ∈ granted history {}, ∀ now, ¬ LiveAt now id (after history {}) →
      ∀ later : History, (∀ entry ∈ later, now ≤ entry.1) → (granted (history ++ later) {}).length < 0x8000000000000000 →
        ∀ instant, now ≤ instant → ¬ LiveAt instant id (after (history ++ later) {})) ∧
    (∀ now instant id, ¬ LiveAt instant id (perform now (.revoke id) (after history {})).2) ∧
    (∀ now order, order.Perm (after history {}).leases →
      Removes (expired now (after history {})) (fun key => latestBinding key history {}) (after history {})
        (sweep now { after history {} with leases := order })) ∧
    (∀ id order, order.Perm (after history {}).leases →
      Removes [id] (fun key => latestBinding key history {}) (after history {})
        (revoke id { after history {} with leases := order })) := by
  have known : ∀ key entry, (after history {}).table.get? key = some entry →
      latestBinding key history {} = some entry.lease := fun key entry found => latest_binding history key entry found
  refine ⟨(coherent_after history).bound, ids_below_next history, granted_distinct history, ?_, ?_, ?_, ?_⟩
  · intro id issued now ended later times few instant order
    rw [after_append]
    exact ended_never_live history later id now instant issued ended times order few
  · exact fun now instant id => revoked_not_live now instant id _
  · exact fun now order shuffled => sweep_removes now _ _ order shuffled known
  · exact fun id order _ => revoke_removes id _ _ order known

end ServiceHost.Store
