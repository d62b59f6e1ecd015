import ServiceHost.Proofs.Table
import ServiceHost.Store.Basic

set_option autoImplicit false

namespace ServiceHost.Store

def expired (now : Nat) (store : Store) : List LeaseId :=
  (store.leases.filter fun lease => lease.deadline ≤ now).map (·.id)

def Swept (now : Nat) (store : Store) : Prop := ∀ lease ∈ store.leases, now < lease.deadline

theorem push_all (doomed : List String) (changes : Array Change) :
    (doomed.foldl (fun changes key => changes.push (.delete key)) changes).toList =
      changes.toList ++ doomed.map .delete := by
  simp

theorem drop_keys_table (ids : List LeaseId) (store : Store) :
    (dropKeys ids store).table = store.table.keep fun _ entry => !boundTo ids entry := rfl

theorem drop_keys_changes (ids : List LeaseId) (store : Store) :
    (dropKeys ids store).changes.toList =
      store.changes.toList ++ (store.table.keep fun _ entry => boundTo ids entry).keys.map .delete :=
  push_all _ _

theorem drop_keys_none (store : Store) : dropKeys [] store = store := by
  have unbound : ∀ entry, boundTo [] entry = false := by
    intro entry
    cases lease : entry.lease <;> simp [boundTo, lease]
  have same : (store.table.keep fun _ _ => true) = store.table :=
    store.table.keep_everything _ fun _ _ _ => rfl
  have nothing : (store.table.keep fun _ _ => false).keys = [] := by
    simp [Table.keep, Table.keys]
  simp [dropKeys, unbound, same, nothing]

theorem sweep_eq (now : Nat) (store : Store) :
    sweep now store =
      dropKeys (expired now store)
        { store with leases := store.leases.filter fun lease => now < lease.deadline } := by
  have flip : (fun lease : Lease => !decide (lease.deadline ≤ now)) = fun lease => decide (now < lease.deadline) := by
    funext lease
    by_cases due : lease.deadline ≤ now
    · simp [due]
    · simp [due, Nat.lt_of_not_le due]
  unfold sweep
  simp only [flip]
  split
  next none =>
    have nothing : expired now store = [] := List.isEmpty_iff.mp none
    have everything : store.leases.filter (fun lease => decide (now < lease.deadline)) = store.leases := by
      apply List.filter_eq_self.mpr
      intro lease member
      have notDue : ¬ lease.deadline ≤ now := by
        simpa using List.filter_eq_nil_iff.mp (List.map_eq_nil_iff.mp nothing) lease member
      simpa using notDue
    rw [nothing, drop_keys_none, everything]
  next => rfl

@[simp] theorem sweep_leases (now : Nat) (store : Store) :
    (sweep now store).leases = store.leases.filter fun lease => now < lease.deadline := by
  rw [sweep_eq]
  rfl

@[simp] theorem sweep_table (now : Nat) (store : Store) :
    (sweep now store).table = store.table.keep fun _ entry => !boundTo (expired now store) entry := by
  rw [sweep_eq]
  rfl

@[simp] theorem sweep_next_lease (now : Nat) (store : Store) : (sweep now store).nextLease = store.nextLease := by
  rw [sweep_eq]
  rfl

@[simp] theorem sweep_available (now : Nat) (store : Store) : (sweep now store).available = store.available := by
  rw [sweep_eq]
  rfl

theorem sweep_swept (now : Nat) (store : Store) : Swept now (sweep now store) := by
  intro lease member
  rw [sweep_leases] at member
  simpa using (List.mem_filter.mp member).2

def needsStore : Operation → Bool
  | .leaseOf _ => false
  | .leaseCount => false
  | .revoke _ => false
  | .setAvailable _ => false
  | _ => true

theorem refuse_unavailable (now : Nat) (operation : Operation) (store : Store)
    (refused : (needsStore operation && !store.available) = true) :
    perform now operation store = (.refused .unavailable, store) := by
  obtain ⟨needs, gone⟩ := Bool.and_eq_true_iff.mp refused
  cases operation with
  | grant ttl => simp only [perform, grant, gone, if_true]; rfl
  | keepAlive id => simp only [perform, keepAlive, gone, if_true]; rfl
  | put key value lease => simp only [perform, put, gone, if_true]; rfl
  | delete key => simp only [perform, delete, gone, if_true]; rfl
  | list root => simp only [perform, list, gone, if_true]; rfl
  | _ => cases needs

def sweeps (operation : Operation) (store : Store) : Bool :=
  match operation with
  | .revoke _ => false
  | .setAvailable _ => false
  | .leaseOf _ => true
  | .leaseCount => true
  | _ => store.available

-- The store as an operation finds it, once it has swept if it sweeps.
def foundBy (now : Nat) (operation : Operation) (store : Store) : Store :=
  if sweeps operation store then sweep now store else store

-- All that an operation can reply and leave, from the store as it finds it. Everything that is proved of
-- single operations is proved over these cases.
inductive Does (now : Nat) (found : Store) : Operation → Reply → Store → Prop where
  | refuse (operation : Operation) (error : StoreError) : Does now found operation (.refused error) found
  | grant (ttl : Nat) (swept : Swept now found) :
      Does now found (.grant ttl) (.lease found.nextLease) (issue now ttl found)
  | keepAlive (id : LeaseId) (left : Nat) (swept : Swept now found) :
      Does now found (.keepAlive id) (.remaining left) (renew now id found)
  | put (key : String) (value : List UInt8) (lease : Option LeaseId)
      (live : ∀ id, lease = some id → found.isLive id = true) :
      Does now found (.put key value lease) .done (write key value lease found)
  | delete (key : String) : Does now found (.delete key) .done (remove key found)
  | list (root : String) (entries : List (String × List UInt8)) : Does now found (.list root) (.entries entries) found
  | leaseOf (key : String) (holder : Option LeaseId) : Does now found (.leaseOf key) (.holder holder) found
  | leaseCount (n : Nat) : Does now found .leaseCount (.count n) found
  | revoke (id : LeaseId) : Does now found (.revoke id) .done (revoke id found)
  | setAvailable (available : Bool) :
      Does now found (.setAvailable available) .done (setAvailable available found)

theorem perform_does (now : Nat) (operation : Operation) (store : Store) :
    Does now (foundBy now operation store) operation (perform now operation store).1 (perform now operation store).2 := by
  have swept := sweep_swept now store
  by_cases refused : (needsStore operation && !store.available) = true
  · have unswept : foundBy now operation store = store := by
      obtain ⟨needs, gone⟩ := Bool.and_eq_true_iff.mp refused
      have away : store.available = false := by simpa using gone
      cases operation <;> simp [needsStore] at needs <;> simp [foundBy, sweeps, away]
    rw [refuse_unavailable now operation store refused, unswept]
    exact Does.refuse operation .unavailable
  · cases operation with
    | grant ttl =>
        have available : store.available = true := by simpa [needsStore] using refused
        simp only [perform, grant, foundBy, sweeps, available, Bool.not_true, Bool.false_eq_true, if_true, if_false]
        exact Does.grant ttl swept
    | keepAlive id =>
        have available : store.available = true := by simpa [needsStore] using refused
        simp only [perform, keepAlive, foundBy, sweeps, available, Bool.not_true, Bool.false_eq_true, if_true, if_false]
        split
        · exact Does.refuse _ _
        · exact Does.keepAlive id _ swept
    | put key value lease =>
        have available : store.available = true := by simpa [needsStore] using refused
        simp only [perform, put, foundBy, sweeps, available, Bool.not_true, Bool.false_eq_true, if_true, if_false]
        split
        next => exact Does.refuse _ _
        next live =>
          refine Does.put key value lease ?_
          rintro id rfl
          simpa [Option.filter] using live
    | delete key =>
        have available : store.available = true := by simpa [needsStore] using refused
        simp only [perform, delete, foundBy, sweeps, available, Bool.not_true, Bool.false_eq_true, if_true, if_false]
        exact Does.delete key
    | list root =>
        have available : store.available = true := by simpa [needsStore] using refused
        simp only [perform, list, foundBy, sweeps, available, Bool.not_true, Bool.false_eq_true, if_true, if_false]
        exact Does.list root _
    | leaseOf key => exact Does.leaseOf key _
    | leaseCount => exact Does.leaseCount _
    | revoke id => exact Does.revoke id
    | setAvailable available => exact Does.setAvailable available

theorem found_by_cases (P : Store → Prop) (now : Nat) (operation : Operation) (store : Store) (same : P store)
    (swept : P (sweep now store)) : P (foundBy now operation store) := by
  unfold foundBy
  split
  · exact swept
  · exact same

theorem remove_leases (key : String) (store : Store) : (remove key store).leases = store.leases := by
  unfold remove
  split <;> rfl

theorem remove_entries (key query : String) (store : Store) (entry : Entry)
    (found : (remove key store).table.get? query = some entry) : store.table.get? query = some entry := by
  unfold remove at found
  split at found
  · rw [Table.lookup_erase] at found
    split at found
    · cases found
    · exact found
  · exact found

theorem drop_keys_entries (ids : List LeaseId) (query : String) (store : Store) (entry : Entry)
    (found : (dropKeys ids store).table.get? query = some entry) : store.table.get? query = some entry := by
  rw [drop_keys_table, Table.lookup_keep] at found
  exact (Option.filter_eq_some_iff.mp found).1

theorem found_entries (now : Nat) (operation : Operation) (store : Store) (key : String) (entry : Entry) :
    (foundBy now operation store).table.get? key = some entry → store.table.get? key = some entry := by
  apply found_by_cases (fun found => found.table.get? key = some entry → store.table.get? key = some entry)
  · exact fun found => found
  · intro found
    rw [sweep_eq] at found
    exact drop_keys_entries _ key _ entry found

-- What each kind of change has to keep. Every condition may use which operation is being performed.
structure Keeps (now : Nat) (operation : Operation) (P : Store → Prop) : Prop where
  sweep : ∀ store, P store → P (sweep now store)
  issue : ∀ ttl store, operation = .grant ttl → P store → P (issue now ttl store)
  renew : ∀ id store, operation = .keepAlive id → P store → P (renew now id store)
  write : ∀ key value lease store, operation = .put key value lease →
    (∀ id, lease = some id → store.isLive id = true) → P store → P (write key value lease store)
  remove : ∀ key store, operation = .delete key → P store → P (remove key store)
  revoke : ∀ id store, operation = .revoke id → P store → P (revoke id store)
  setAvailable : ∀ available store, P store → P (setAvailable available store)

theorem perform_keeps (now : Nat) (operation : Operation) (P : Store → Prop) (keeps : Keeps now operation P)
    (store : Store) (holds : P store) : P (perform now operation store).2 := by
  have found := found_by_cases P now operation store holds (keeps.sweep store holds)
  have does := perform_does now operation store
  generalize foundBy now operation store = before at found does
  generalize (perform now operation store).1 = reply at does
  generalize (perform now operation store).2 = result at does
  cases does with
  | grant ttl _ => exact keeps.issue ttl before rfl found
  | keepAlive id _ _ => exact keeps.renew id before rfl found
  | put key value lease live => exact keeps.write key value lease before rfl live found
  | delete key => exact keeps.remove key before rfl found
  | revoke id => exact keeps.revoke id before rfl found
  | setAvailable available => exact keeps.setAvailable available before found
  | _ => exact found

abbrev History := List (Nat × Operation)

-- The clock never runs backwards.
abbrev Clocked (history : History) : Prop := history.Pairwise fun a b => a.1 ≤ b.1

def after : History → Store → Store
  | [], store => store
  | (now, operation) :: rest, store => after rest (perform now operation store).2

def replies : History → Store → List Reply
  | [], _ => []
  | (now, operation) :: rest, store =>
      (perform now operation store).1 :: replies rest (perform now operation store).2

theorem after_append (first second : History) (store : Store) :
    after (first ++ second) store = after second (after first store) := by
  induction first generalizing store with
  | nil => rfl
  | cons head rest ih => exact ih _

theorem after_keeps (history : History) (P : Store → Prop)
    (keeps : ∀ entry ∈ history, Keeps entry.1 entry.2 P) (store : Store) (holds : P store) :
    P (after history store) := by
  induction history generalizing store with
  | nil => exact holds
  | cons head rest ih =>
      have stepped := perform_keeps head.1 head.2 P (keeps head List.mem_cons_self) store holds
      exact ih (fun entry member => keeps entry (List.mem_cons_of_mem _ member)) _ stepped

end ServiceHost.Store
