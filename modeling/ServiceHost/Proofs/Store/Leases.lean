import ServiceHost.Proofs.Store.Coherence

set_option autoImplicit false

namespace ServiceHost.Store

def Reply.granted? : Reply → Option LeaseId
  | .lease id => some id
  | _ => none

def granted (history : History) (store : Store) : List LeaseId := (replies history store).filterMap Reply.granted?

def LiveAt (now : Nat) (id : LeaseId) (store : Store) : Prop :=
  ∃ lease ∈ store.leases, lease.id = id ∧ now < lease.deadline

def word (n : Nat) : LeaseId := (n : Int).bmod 0x10000000000000000

theorem id_after_word (n : Nat) : idAfter (word n) = word (n + 1) :=
  Int.bmod_add_bmod.trans (congrArg (fun i : Int => i.bmod 0x10000000000000000) (Int.natCast_succ n).symm)

theorem word_small (n : Nat) (small : n < 0x8000000000000000) : word n = n := by
  unfold word
  exact Int.bmod_eq_of_le (by omega) (by omega)

theorem perform_next_lease (now : Nat) (operation : Operation) (store : Store) :
    (perform now operation store).1.granted? = some store.nextLease ∧
        (perform now operation store).2.nextLease = idAfter store.nextLease ∨
      (perform now operation store).1.granted? = none ∧
        (perform now operation store).2.nextLease = store.nextLease := by
  have next : (foundBy now operation store).nextLease = store.nextLease :=
    found_by_cases (fun found => found.nextLease = store.nextLease) now operation store rfl (sweep_next_lease now store)
  have does := perform_does now operation store
  rw [← next]
  generalize foundBy now operation store = found at does ⊢
  generalize (perform now operation store).1 = reply at does ⊢
  generalize (perform now operation store).2 = result at does ⊢
  cases does with
  | grant ttl _ => exact Or.inl ⟨rfl, rfl⟩
  | delete key =>
      refine Or.inr ⟨rfl, ?_⟩
      unfold remove
      split <;> rfl
  | _ => exact Or.inr ⟨rfl, rfl⟩

theorem granted_words (history : History) (store : Store) (first : Nat) (next : store.nextLease = word first) :
    granted history store = (List.range' first (granted history store).length).map word ∧
      (after history store).nextLease = word (first + (granted history store).length) := by
  induction history generalizing store first with
  | nil => exact ⟨rfl, next⟩
  | cons head rest ih =>
      obtain ⟨now, operation⟩ := head
      rcases perform_next_lease now operation store with ⟨reply, stepped⟩ | ⟨reply, stepped⟩
      · have front : granted ((now, operation) :: rest) store =
            word first :: granted rest (perform now operation store).2 := by
          simp only [granted, replies, List.filterMap_cons, reply, next]
        obtain ⟨ids, last⟩ := ih (perform now operation store).2 (first + 1) (by rw [stepped, next, id_after_word])
        rw [front, List.length_cons, List.range'_succ, List.map_cons, ← ids]
        refine ⟨rfl, ?_⟩
        rw [after, last, Nat.add_assoc, Nat.add_comm 1]
      · have same : granted ((now, operation) :: rest) store = granted rest (perform now operation store).2 := by
          simp only [granted, replies, List.filterMap_cons, reply]
        rw [same, after]
        exact ih (perform now operation store).2 first (stepped.trans next)

theorem granted_append (first second : History) (store : Store) :
    granted (first ++ second) store = granted first store ++ granted second (after first store) := by
  induction first generalizing store with
  | nil => rfl
  | cons head rest ih =>
      obtain ⟨now, operation⟩ := head
      have step := ih (perform now operation store).2
      simp only [granted] at step
      simp only [List.cons_append, granted, replies, after, List.filterMap_cons, step]
      cases (perform now operation store).1.granted? <;> rfl

theorem granted_distinct (history : History) (few : (granted history {}).length < 0x8000000000000000) :
    (granted history {}).Nodup := by
  rw [(granted_words history {} 1 rfl).1]
  refine List.Nodup.map_on ?_ List.nodup_range'
  intro a inA b inB same
  have boundA := List.mem_range'_1.mp inA
  have boundB := List.mem_range'_1.mp inB
  rw [word_small a (by omega), word_small b (by omega)] at same
  exact Int.ofNat.inj same

-- Where a lease comes from: it is unchanged, or it has been renewed before it ran out.
def OldLease (now : Nat) (store : Store) (lease : Lease) : Prop :=
  ∃ old ∈ store.leases, old.id = lease.id ∧ (lease = old ∨ now < old.deadline)

theorem found_leases (now : Nat) (operation : Operation) (store : Store) :
    ∀ lease ∈ (foundBy now operation store).leases, lease ∈ store.leases := by
  apply found_by_cases (fun found => ∀ lease ∈ found.leases, lease ∈ store.leases) now operation store
  · exact fun lease member => member
  · intro lease member
    rw [sweep_leases] at member
    exact (List.mem_filter.mp member).1

theorem perform_lease_origin (now : Nat) (operation : Operation) (store : Store) :
    ∀ lease ∈ (perform now operation store).2.leases,
      (perform now operation store).1.granted? = some lease.id ∨ OldLease now store lease := by
  have unchanged : ∀ lease ∈ (foundBy now operation store).leases, OldLease now store lease := fun lease member =>
    ⟨lease, found_leases now operation store lease member, rfl, Or.inl rfl⟩
  have old := found_leases now operation store
  have does := perform_does now operation store
  generalize foundBy now operation store = found at does unchanged old
  generalize (perform now operation store).1 = reply at does ⊢
  generalize (perform now operation store).2 = result at does ⊢
  cases does with
  | grant ttl _ =>
      intro lease member
      rcases List.mem_append.mp member with kept | fresh
      · exact Or.inr (unchanged lease (List.mem_filter.mp kept).1)
      · rw [List.mem_singleton.mp fresh]
        exact Or.inl rfl
  | keepAlive id _ swept =>
      intro lease member
      obtain ⟨before, inside, rfl⟩ := List.mem_map.mp member
      refine Or.inr ⟨before, old before inside, ?_, Or.inr (swept before inside)⟩
      split <;> rfl
  | delete key =>
      rw [remove_leases]
      exact fun lease member => Or.inr (unchanged lease member)
  | revoke id => exact fun lease member => Or.inr (unchanged lease (List.mem_filter.mp member).1)
  | _ => exact fun lease member => Or.inr (unchanged lease member)

theorem lease_ids_granted (history : History) (store : Store) :
    ∀ lease ∈ (after history store).leases,
      lease.id ∈ granted history store ∨ ∃ old ∈ store.leases, old.id = lease.id := by
  induction history generalizing store with
  | nil => exact fun lease member => Or.inr ⟨lease, member, rfl⟩
  | cons head rest ih =>
      obtain ⟨now, operation⟩ := head
      have parts := granted_append [(now, operation)] rest store
      rw [List.singleton_append] at parts
      intro lease member
      rw [parts, List.mem_append]
      rcases ih _ lease member with later | ⟨old, oldMember, same⟩
      · exact Or.inl (Or.inr later)
      · rcases perform_lease_origin now operation store old oldMember with fresh | ⟨first, firstMember, equal, _⟩
        · refine Or.inl (Or.inl ?_)
          rw [← same]
          exact List.mem_filterMap.mpr ⟨_, List.mem_singleton.mpr rfl, fresh⟩
        · exact Or.inr ⟨first, firstMember, equal.trans same⟩

theorem ids_below_next (history : History) (few : (granted history {}).length + 1 < 0x8000000000000000) :
    ∀ lease ∈ (after history {}).leases, lease.id < (after history {}).nextLease := by
  intro lease member
  obtain ⟨words, next⟩ := granted_words history {} 1 rfl
  rcases lease_ids_granted history {} lease member with issued | ⟨old, inside, _⟩
  · rw [words] at issued
    obtain ⟨n, bounds, same⟩ := List.mem_map.mp issued
    have range := List.mem_range'_1.mp bounds
    rw [next, ← same, word_small n (by omega), word_small _ (by omega)]
    exact Int.ofNat_lt.mpr (by omega)
  · cases inside

-- Once every lease of an id has run out, only a grant of that id could bring it back: a renewal sweeps
-- first, and so finds nothing to renew.
theorem stays_ended (later : History) (store : Store) (id : LeaseId) (now : Nat) (fresh : id ∉ granted later store)
    (times : ∀ entry ∈ later, now ≤ entry.1) (ended : ∀ lease ∈ store.leases, lease.id = id → lease.deadline ≤ now) :
    ∀ lease ∈ (after later store).leases, lease.id = id → lease.deadline ≤ now := by
  induction later generalizing store with
  | nil => exact ended
  | cons head rest ih =>
      obtain ⟨time, operation⟩ := head
      have order : now ≤ time := times (time, operation) List.mem_cons_self
      have parts := granted_append [(time, operation)] rest store
      rw [List.singleton_append] at parts
      rw [parts, List.mem_append, not_or] at fresh
      refine ih _ fresh.2 (fun entry member => times entry (List.mem_cons_of_mem _ member)) ?_
      intro lease member same
      rcases perform_lease_origin time operation store lease member with issued | ⟨old, oldMember, equal, origin⟩
      · rw [same] at issued
        exact False.elim (fresh.1 (List.mem_filterMap.mpr ⟨_, List.mem_singleton.mpr rfl, issued⟩))
      · have due := ended old oldMember (equal.trans same)
        rcases origin with rfl | left
        · exact due
        · omega

theorem ended_never_live (history later : History) (id : LeaseId) (now instant : Nat) (issued : id ∈ granted history {})
    (ended : ¬ LiveAt now id (after history {})) (times : ∀ entry ∈ later, now ≤ entry.1) (order : now ≤ instant)
    (few : (granted (history ++ later) {}).length < 0x8000000000000000) : ¬ LiveAt instant id (after later (after history {})) := by
  have distinct := granted_distinct (history ++ later) few
  rw [granted_append] at distinct
  have fresh : id ∉ granted later (after history {}) := fun again =>
    (List.nodup_append.mp distinct).2.2 id issued id again rfl
  rintro ⟨lease, member, same, left⟩
  have due := stays_ended later (after history {}) id now fresh times
    (fun lease member same => Nat.le_of_not_lt fun left => ended ⟨lease, member, same, left⟩) lease member same
  omega

theorem revoked_not_live (now instant : Nat) (id : LeaseId) (store : Store) :
    ¬ LiveAt instant id (perform now (.revoke id) store).2 := by
  rintro ⟨lease, member, same, _⟩
  simpa [same] using (List.mem_filter.mp member).2

end ServiceHost.Store
