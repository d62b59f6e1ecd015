import ServiceHost.Proofs.Store.Coherence

set_option autoImplicit false

namespace ServiceHost.Store

structure Exact where
  table : Table Entry := ∅
  leases : List Lease := []
  nextLease : LeaseId := 1
  available : Bool := true

namespace Exact

def holds (id : LeaseId) (exact : Exact) : Bool := exact.leases.any (·.id = id)

-- What is left at an instant: the leases whose deadline is still to come, and the keys that are not
-- bound or are bound to one of these.
def elapse (now : Nat) (exact : Exact) : Exact :=
  let left := exact.leases.filter fun lease => now < lease.deadline
  { exact with
    leases := left
    table := exact.table.keep fun _ entry => entry.lease.all fun id => left.any (·.id = id) }

-- An operation at an instant, on what is left then. Every refusal leaves the state as it is.
def serve (latest now : Nat) (operation : Operation) (exact : Exact) : Option Reply × Exact :=
  match operation with
  | .grant ttl =>
      let id := exact.nextLease
      let taken := { exact with nextLease := idAfter id }
      if latest < now + ttl then (none, taken)
      else
        (some (.lease id),
          { taken with leases := exact.leases.filter (·.id ≠ id) ++ [{ id, ttl, deadline := now + ttl }] })
  | .keepAlive id =>
      match exact.leases.find? (·.id = id) with
      | none => (some (.refused (.leaseNotFound id)), exact)
      | some lease =>
          if latest < now + lease.ttl then (none, exact)
          else
            (some (.remaining lease.ttl),
              { exact with
                leases := exact.leases.map fun l => if l.id = id then { l with deadline := now + l.ttl } else l })
  | .put key value none => (some .done, { exact with table := exact.table.insert key { value, lease := none } })
  | .put key value (some id) =>
      if exact.holds id then
        (some .done, { exact with table := exact.table.insert key { value, lease := some id } })
      else (some (.refused (.leaseNotFound id)), exact)
  | .delete key => (some .done, { exact with table := exact.table.erase key })
  | .list root =>
      (some (.entries ((exact.table.entries.filter fun pair => Table.liesUnder root pair.1).map
        fun (key, entry) => (key, entry.value))), exact)
  | .leaseOf key => (some (.holder ((exact.table.get? key).bind (·.lease))), exact)
  | .leaseCount => (some (.count exact.leases.length), exact)
  | .revoke id =>
      (some .done,
        { exact with
          leases := exact.leases.filter (·.id ≠ id)
          table := exact.table.keep fun _ entry => entry.lease ≠ some id })
  | .setAvailable available => (some .done, { exact with available })

def call (latest now : Nat) (operation : Operation) (exact : Exact) : Option Reply × Exact :=
  let exact := exact.elapse now
  if needsStore operation && !exact.available then (some (.refused .unavailable), exact)
  else serve latest now operation exact

def calls (latest : Nat) : History → Exact → List (Option Reply)
  | [], _ => []
  | (now, operation) :: rest, exact =>
      (exact.call latest now operation).1 :: calls latest rest (exact.call latest now operation).2

theorem refusal_changes_nothing (latest now : Nat) (operation : Operation) (exact : Exact) (error : StoreError)
    (refused : (exact.call latest now operation).1 = some (.refused error)) :
    (exact.call latest now operation).2 = exact.elapse now := by
  dsimp only [call] at refused ⊢
  split at refused
  next unavailable => rw [if_pos unavailable]
  next served =>
    rw [if_neg served]
    cases operation with
    | grant ttl =>
        simp only [serve] at refused
        split at refused <;> cases refused
    | keepAlive id =>
        simp only [serve] at refused ⊢
        split at refused
        next => rfl
        next => split at refused <;> cases refused
    | put key value lease =>
        cases lease with
        | none => cases refused
        | some id =>
            simp only [serve] at refused ⊢
            split at refused
            · cases refused
            · next dead => rw [if_neg dead]
    | _ => cases refused

theorem elapse_elapse (earlier later : Nat) (order : earlier ≤ later) (exact : Exact) :
    (exact.elapse earlier).elapse later = exact.elapse later := by
  have leases : (exact.leases.filter fun lease => earlier < lease.deadline).filter (fun lease => later < lease.deadline) =
      exact.leases.filter fun lease => later < lease.deadline := by
    rw [List.filter_filter]
    apply List.filter_congr
    intro lease _
    by_cases left : later < lease.deadline
    · have already : earlier < lease.deadline := by omega
      simp [left, already]
    · simp [left]
  simp only [elapse, leases, Table.keep_keep, Exact.mk.injEq, and_true]
  apply Table.keep_congr
  intro key entry _
  cases entry.lease with
  | none => rfl
  | some id =>
      simp only [Option.all_some, Bool.and_eq_right_iff_imp, List.any_eq_true, List.mem_filter, decide_eq_true_eq]
      rintro ⟨lease, ⟨member, left⟩, same⟩
      exact ⟨lease, ⟨member, by omega⟩, same⟩

end Exact

def exactly (store : Store) : Exact :=
  { table := store.table, leases := store.leases, nextLease := store.nextLease, available := store.available }

theorem exactly_sweep (now : Nat) (store : Store) (coherent : Coherent store) :
    exactly (sweep now store) = (exactly store).elapse now := by
  simp only [exactly, Exact.elapse, sweep_leases, sweep_table, sweep_next_lease, sweep_available, Exact.mk.injEq,
    and_true]
  apply Table.keep_congr
  intro key entry found
  cases holder : entry.lease with
  | none => simp [boundTo, holder]
  | some id =>
      have left := live_or_expired now store coherent id (coherent.bound key entry id found holder)
      simp only [isLive, sweep_leases] at left
      rw [Option.all_some, Bool.eq_iff_iff, left]
      simp [boundTo, holder]

theorem exactly_remove (key : String) (store : Store) :
    exactly (remove key store) = { exactly store with table := store.table.erase key } := by
  unfold remove
  split
  next => rfl
  next missing =>
    have absent : store.table.get? key = none := by simpa [Table.contains] using missing
    simp only [exactly, Table.erase_absent store.table key absent]

-- A revocation does not sweep. What has run out by then disappears with the next look all the same.
theorem exactly_revoke (latest now : Nat) (id : LeaseId) (store : Store) :
    (Exact.serve latest now (.revoke id) ((exactly store).elapse now)).2.elapse now =
      (exactly (revoke id store)).elapse now := by
  have leases : ((store.leases.filter fun lease => now < lease.deadline).filter (·.id ≠ id)).filter
      (fun lease => now < lease.deadline) =
        (store.leases.filter (·.id ≠ id)).filter fun lease => now < lease.deadline := by
    simp only [List.filter_filter]
    apply List.filter_congr
    intro lease _
    cases decide (now < lease.deadline) <;> simp
  simp only [Exact.serve, exactly, revoke, dropKeys, Exact.elapse, leases, Table.keep_keep, Exact.mk.injEq, and_true]
  apply Table.keep_congr
  intro key entry _
  cases holder : entry.lease with
  | none => simp [boundTo, holder]
  | some other =>
      simp only [boundTo, holder, Option.all_some, Option.any_some]
      by_cases same : other = id
      · simp [same]
      · rw [Bool.eq_iff_iff]
        simp only [ne_eq, Option.some.injEq, same, not_false_eq_true, decide_true, Bool.and_true, List.contains_cons,
          List.contains_nil, Bool.or_false, beq_eq_false_iff_ne, Bool.not_eq_true', Bool.and_eq_true,
          List.any_eq_true, List.mem_filter, decide_eq_true_eq, true_and]
        constructor
        · rintro ⟨_, ⟨lease, ⟨⟨member, kept⟩, left⟩, equal⟩⟩
          exact ⟨lease, ⟨⟨member, kept⟩, left⟩, equal⟩
        · rintro ⟨lease, ⟨⟨member, kept⟩, left⟩, equal⟩
          exact ⟨⟨lease, ⟨member, left⟩, equal⟩, ⟨lease, ⟨⟨member, kept⟩, left⟩, equal⟩⟩

def calls (latest : Nat) : History → Store → List (Option Reply)
  | [], _ => []
  | (now, operation) :: rest, store =>
      (call latest now operation store).1 :: calls latest rest (call latest now operation store).2

theorem call_performs (latest now : Nat) (operation : Operation) (store : Store)
    (fits : overruns latest now operation store = false) :
    call latest now operation store = (some (perform now operation store).1, (perform now operation store).2) := by
  unfold call
  rw [fits]
  rfl

theorem call_abandons (latest now : Nat) (operation : Operation) (store : Store)
    (late : overruns latest now operation store = true) :
    call latest now operation store = (none, abandon now operation store) := by
  unfold call
  rw [late]
  rfl

-- On what is left at an instant the reference replies as the store does, and leaves what the store leaves.
def Agrees (latest now : Nat) (operation : Operation) (store : Store) : Prop :=
  (Exact.serve latest now operation (exactly (sweep now store))).1 = (call latest now operation store).1 ∧
    (Exact.serve latest now operation (exactly (sweep now store))).2.elapse now =
      (exactly (call latest now operation store).2).elapse now

section

variable (latest now : Nat) (store : Store) (available : store.available = true)

include available

theorem grant_agrees (ttl : Nat) : Agrees latest now (.grant ttl) store := by
  unfold Agrees
  by_cases late : latest < now + ttl
  · rw [call_abandons latest now (.grant ttl) store (by simp [overruns, available, late])]
    simp only [Exact.serve, late, if_true]
    exact ⟨trivial, rfl⟩
  · rw [call_performs latest now (.grant ttl) store (by simp [overruns, late])]
    simp only [Exact.serve, late, perform, grant, available, Bool.not_true, Bool.false_eq_true, if_false]
    exact ⟨rfl, rfl⟩

theorem keep_alive_agrees (id : LeaseId) : Agrees latest now (.keepAlive id) store := by
  have same : (exactly (sweep now store)).leases = (sweep now store).leases := rfl
  simp only [Agrees, Exact.serve, same]
  cases found : (sweep now store).leases.find? (·.id = id) with
  | none =>
      rw [call_performs latest now (.keepAlive id) store (by simp only [overruns, found]; simp)]
      simp only [perform, keepAlive, available, found, Bool.not_true, Bool.false_eq_true, if_false]
      exact ⟨rfl, trivial⟩
  | some lease =>
      by_cases late : latest < now + lease.ttl
      · rw [call_abandons latest now (.keepAlive id) store (by simp only [overruns, found]; simp [available, late])]
        simp only [late, if_true]
        exact ⟨trivial, rfl⟩
      · rw [call_performs latest now (.keepAlive id) store (by simp only [overruns, found]; simp [late])]
        simp only [late, perform, keepAlive, available, found, Bool.not_true, Bool.false_eq_true, if_false]
        exact ⟨rfl, rfl⟩

theorem put_agrees (key : String) (value : List UInt8) (lease : Option LeaseId) :
    Agrees latest now (.put key value lease) store := by
  unfold Agrees
  rw [call_performs latest now _ store rfl]
  simp only [perform, put, available, Bool.not_true, Bool.false_eq_true, if_false]
  cases lease with
  | none => exact ⟨rfl, rfl⟩
  | some id =>
      cases live : (sweep now store).isLive id with
      | true =>
          have held : (exactly (sweep now store)).holds id = true := live
          simp only [Exact.serve, held, if_true, Option.filter, live, Bool.not_true, Bool.false_eq_true, if_false]
          exact ⟨rfl, rfl⟩
      | false =>
          have gone : (exactly (sweep now store)).holds id = false := live
          simp only [Exact.serve, gone, Bool.false_eq_true, if_false, Option.filter, live, Bool.not_false, if_true]
          exact ⟨rfl, trivial⟩

theorem delete_agrees (key : String) : Agrees latest now (.delete key) store := by
  unfold Agrees
  rw [call_performs latest now _ store rfl]
  simp only [perform, delete, available, Bool.not_true, Bool.false_eq_true, if_false]
  exact ⟨rfl, congrArg (Exact.elapse now) (exactly_remove key (sweep now store)).symm⟩

theorem list_agrees (root : String) : Agrees latest now (.list root) store := by
  unfold Agrees
  rw [call_performs latest now _ store rfl]
  simp only [perform, list, available, Bool.not_true, Bool.false_eq_true, if_false, Table.under_filter]
  exact ⟨rfl, rfl⟩

end

theorem serve_exact (latest now : Nat) (operation : Operation) (store : Store)
    (served : (needsStore operation && !store.available) = false) (coherent : Coherent store) :
    Agrees latest now operation store := by
  have settled : (exactly (sweep now store)).elapse now = (exactly store).elapse now := by
    rw [exactly_sweep now store coherent, Exact.elapse_elapse now now (Nat.le_refl now)]
  have available (needs : needsStore operation = true) : store.available = true := by simpa [needs] using served
  cases operation with
  | grant ttl => exact grant_agrees latest now store (available rfl) ttl
  | keepAlive id => exact keep_alive_agrees latest now store (available rfl) id
  | put key value lease => exact put_agrees latest now store (available rfl) key value lease
  | delete key => exact delete_agrees latest now store (available rfl) key
  | list root => exact list_agrees latest now store (available rfl) root
  | leaseOf key => exact ⟨rfl, rfl⟩
  | leaseCount => exact ⟨rfl, rfl⟩
  | revoke id =>
      refine ⟨rfl, ?_⟩
      rw [exactly_sweep now store coherent]
      exact exactly_revoke latest now id store
  | setAvailable given => exact ⟨rfl, congrArg (fun exact : Exact => { exact with available := given }) settled⟩

theorem refused_in_time (latest now : Nat) (operation : Operation) (store : Store)
    (refused : (needsStore operation && !store.available) = true) : overruns latest now operation store = false := by
  obtain ⟨-, gone⟩ := Bool.and_eq_true_iff.mp refused
  have away : store.available = false := by simpa using gone
  cases operation with
  | grant ttl => simp [overruns, away]
  | keepAlive id => simp [overruns, away]
  | _ => rfl

theorem call_exact (latest now : Nat) (operation : Operation) (store : Store) (coherent : Coherent store) :
    ((exactly store).call latest now operation).1 = (call latest now operation store).1 ∧
      ((exactly store).call latest now operation).2.elapse now =
        (exactly (call latest now operation store).2).elapse now := by
  dsimp only [Exact.call]
  split
  next refused =>
    rw [call_performs latest now operation store (refused_in_time latest now operation store refused),
      refuse_unavailable now operation store refused]
    exact ⟨rfl, Exact.elapse_elapse now now (Nat.le_refl now) _⟩
  next served =>
    rw [← exactly_sweep now store coherent]
    exact serve_exact latest now operation store (Bool.eq_false_iff.mpr served) coherent

theorem coherent_abandon (now : Nat) (operation : Operation) (store : Store) (coherent : Coherent store) :
    Coherent (abandon now operation store) := by
  have swept := coherent_sweep now store coherent
  cases operation with
  | grant ttl => exact ⟨swept.distinct, swept.bound⟩
  | _ => exact swept

theorem coherent_call (latest now : Nat) (operation : Operation) (store : Store) (coherent : Coherent store) :
    Coherent (call latest now operation store).2 := by
  cases late : overruns latest now operation store with
  | true =>
      rw [call_abandons latest now operation store late]
      exact coherent_abandon now operation store coherent
  | false =>
      rw [call_performs latest now operation store late]
      exact coherent_perform now operation store coherent

-- The two states need not be equal. What carries the run is that they agree on what is left at the
-- time of the latest operation, and therefore at every later time.
theorem calls_exact (latest : Nat) (history : History) (clocked : Clocked history) (then_ : Nat)
    (later : ∀ entry ∈ history, then_ ≤ entry.1) (store : Store) (exact : Exact) (coherent : Coherent store)
    (agree : exact.elapse then_ = (exactly store).elapse then_) :
    calls latest history store = exact.calls latest history := by
  induction history generalizing then_ store exact with
  | nil => rfl
  | cons head rest ih =>
      obtain ⟨now, operation⟩ := head
      have ⟨above, tail⟩ := List.pairwise_cons.mp clocked
      have order : then_ ≤ now := later (now, operation) List.mem_cons_self
      have agreeNow : exact.elapse now = (exactly store).elapse now := by
        rw [← Exact.elapse_elapse then_ now order exact, agree, Exact.elapse_elapse then_ now order]
      have same : exact.call latest now operation = (exactly store).call latest now operation := by
        simp only [Exact.call, agreeNow]
      obtain ⟨reply, state⟩ := call_exact latest now operation store coherent
      rw [calls, Exact.calls, same, reply]
      congr 1
      exact ih tail now above _ _ (coherent_call latest now operation store coherent) state

section

variable (now longest : Nat) (operation : Operation) (granted : ∀ ttl, operation = .grant ttl → ttl ≤ longest)

include granted

theorem keeps_lifetimes : Keeps now operation fun store => ∀ lease ∈ store.leases, lease.ttl ≤ longest where
  sweep store bounded := by
    rw [sweep_leases]
    exact fun lease member => bounded lease (List.mem_filter.mp member).1
  issue ttl store same bounded := by
    intro lease member
    rcases List.mem_append.mp member with old | new
    · exact bounded lease (List.mem_filter.mp old).1
    · rw [List.mem_singleton.mp new]
      exact granted ttl same
  renew id store _ bounded := by
    intro lease member
    obtain ⟨before, inside, rfl⟩ := List.mem_map.mp member
    split <;> exact bounded before inside
  write _ _ _ _ _ _ bounded := bounded
  remove key store _ bounded := by
    rw [remove_leases]
    exact bounded
  revoke _ _ _ bounded := fun lease member => bounded lease (List.mem_filter.mp member).1
  setAvailable _ _ bounded := bounded

theorem lifetimes_fit (latest : Nat) (store : Store) (room : now + longest ≤ latest)
    (bounded : ∀ lease ∈ store.leases, lease.ttl ≤ longest) : overruns latest now operation store = false := by
  cases operation with
  | grant ttl =>
      have short := granted ttl rfl
      have fits : ¬ latest < now + ttl := by omega
      simp [overruns, fits]
  | keepAlive id =>
      have swept := (keeps_lifetimes now longest (.keepAlive id) granted).sweep store bounded
      simp only [overruns, Bool.and_eq_false_iff, Option.any_eq_false_iff_get, decide_eq_false_iff_not]
      refine .inr fun found => ?_
      have short := swept _ (List.mem_of_find?_eq_some (Option.some_get found).symm)
      omega
  | _ => rfl

end

theorem calls_reply (latest longest : Nat) (history : History) (room : ∀ entry ∈ history, entry.1 + longest ≤ latest)
    (granted : ∀ entry ∈ history, ∀ ttl, entry.2 = .grant ttl → ttl ≤ longest) (store : Store)
    (bounded : ∀ lease ∈ store.leases, lease.ttl ≤ longest) :
    calls latest history store = (replies history store).map some := by
  induction history generalizing store with
  | nil => rfl
  | cons head rest ih =>
      obtain ⟨now, operation⟩ := head
      rw [List.forall_mem_cons] at room granted
      have fits := lifetimes_fit now longest operation granted.1 latest store room.1 bounded
      have kept := perform_keeps now operation _ (keeps_lifetimes now longest operation granted.1) store bounded
      rw [calls, replies, List.map_cons, call_performs latest now operation store fits, ih room.2 granted.2 _ kept]

-- The last part says that nothing but a deadline behind the last instant keeps a call from replying.
theorem lazy_expiry_unobservable (latest : Nat) (history : History) (clocked : Clocked history) :
    calls latest history {} = Exact.calls latest history {} ∧
      (∀ (now : Nat) (operation : Operation) (exact : Exact) (error : StoreError),
        (exact.call latest now operation).1 = some (.refused error) →
          (exact.call latest now operation).2 = exact.elapse now) ∧
      ∀ longest, (∀ entry ∈ history, entry.1 + longest ≤ latest) →
        (∀ entry ∈ history, ∀ ttl, entry.2 = .grant ttl → ttl ≤ longest) →
          calls latest history {} = (replies history {}).map some := by
  refine ⟨?_, Exact.refusal_changes_nothing latest, fun longest room granted => ?_⟩
  · exact calls_exact latest history clocked 0 (fun _ _ => Nat.zero_le _) {} {} coherent_initial rfl
  · exact calls_reply latest longest history room granted {} nofun

-- A lease that runs out during an outage, and one that would outlast the clock.
def outage : History :=
  [(0, .grant 5), (1, .put "a" [1] (some 1)), (2, .put "b" [2] none), (3, .grant 98), (4, .setAvailable false), (5, .list ""),
    (5, .leaseCount), (5, .leaseOf "a"), (6, .setAvailable true), (6, .put "a" [3] (some 1)), (6, .grant 94), (6, .list "")]

theorem lazy_expiry_unobservable_in_outage : Exact.calls 100 outage {} =
    [some (.lease 1), some .done, some .done, none, some .done, some (.refused .unavailable), some (.count 0),
      some (.holder none), some .done, some (.refused (.leaseNotFound 1)), some (.lease 3), some (.entries [("b", [2])])] :=
  (lazy_expiry_unobservable 100 outage (by decide)).1.symm.trans (by decide +kernel)

end ServiceHost.Store
