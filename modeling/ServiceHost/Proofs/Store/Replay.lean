import Mathlib.Data.List.Nodup
import ServiceHost.Proofs.Store.Operation

set_option autoImplicit false

namespace ServiceHost.Store

section Replay

variable {α : Type} (decode : List UInt8 → Option α)

def amend (table : Table α) : Change → Table α
  | .put key value =>
      match decode value with
      | some item => table.insert key item
      | none => table
  | .delete key => table.erase key

def replay (changes : List Change) (table : Table α) : Table α := changes.foldl (amend decode) table

-- What a change leaves under a key: nothing said, or the new state of that key.
def effectOn (key : String) : Change → Option (Option α)
  | .put k value => if k = key then (decode value).map some else none
  | .delete k => if k = key then some none else none

def lastEffect (key : String) (changes : List Change) : Option (Option α) :=
  (changes.filterMap (effectOn decode key)).getLast?

theorem lookup_amend (table : Table α) (change : Change) (key : String) :
    (amend decode table change).get? key = (effectOn decode key change).getD (table.get? key) := by
  cases change with
  | put k value =>
      cases decoded : decode value with
      | none => by_cases hit : k = key <;> simp [amend, effectOn, decoded, hit]
      | some item =>
          simp only [amend, effectOn, decoded, Table.lookup_insert]
          by_cases hit : k = key
          · simp [hit]
          · simp [hit, Ne.symm hit]
  | delete k =>
      simp only [amend, effectOn, Table.lookup_erase]
      by_cases hit : k = key
      · simp [hit]
      · simp [hit, Ne.symm hit]

theorem lookup_replay (changes : List Change) (table : Table α) (key : String) :
    (replay decode changes table).get? key = (lastEffect decode key changes).getD (table.get? key) := by
  induction changes generalizing table with
  | nil => rfl
  | cons change rest ih =>
      have step := ih (amend decode table change)
      rw [lookup_amend] at step
      rw [replay, List.foldl_cons]
      refine step.trans ?_
      unfold lastEffect
      rw [List.filterMap_cons]
      cases effect : effectOn decode key change with
      | none => rfl
      | some state =>
          rw [List.getLast?_cons]
          cases (rest.filterMap (effectOn decode key)).getLast? <;> rfl

theorem replay_append (first second : List Change) (table : Table α) :
    replay decode (first ++ second) table = replay decode second (replay decode first table) :=
  List.foldl_append

theorem replay_twice (changes : List Change) (table : Table α) :
    replay decode changes (replay decode changes table) = replay decode changes table := by
  apply Table.ext_lookup
  intro key
  rw [lookup_replay, lookup_replay]
  cases lastEffect decode key changes <;> rfl

def Readable : Change → Prop
  | .put _ value => ∃ item, decode value = some item
  | .delete _ => True

def decoded (table : Table (List UInt8)) : Table α := table.filterMapValues fun _ value => decode value

theorem lookup_decoded (table : Table (List UInt8)) (key : String) :
    (decoded decode table).get? key = (table.get? key).bind decode :=
  Table.lookup_filter_map_values table _ key

theorem decode_amend (table : Table (List UInt8)) (change : Change) (readable : Readable decode change) :
    decoded decode (amend some table change) = amend decode (decoded decode table) change := by
  apply Table.ext_lookup
  intro key
  rw [lookup_decoded, lookup_amend, lookup_amend, lookup_decoded]
  cases change with
  | put k value =>
      obtain ⟨item, found⟩ := readable
      by_cases hit : k = key <;> simp [effectOn, found, hit]
  | delete k => by_cases hit : k = key <;> simp [effectOn, hit]

theorem decode_replay (changes : List Change) (readable : ∀ change ∈ changes, Readable decode change)
    (table : Table (List UInt8)) :
    decoded decode (replay some changes table) = replay decode changes (decoded decode table) := by
  induction changes generalizing table with
  | nil => rfl
  | cons change rest ih =>
      have first := decode_amend decode table change (readable change List.mem_cons_self)
      have others := ih (fun other member => readable other (.tail _ member)) (amend some table change)
      exact others.trans (congrArg (replay decode rest) first)

theorem replay_origin (changes : List Change) (table : Table (List UInt8)) (key : String) (value : List UInt8)
    (found : (replay some changes table).get? key = some value) :
    table.get? key = some value ∨ .put key value ∈ changes := by
  rw [lookup_replay] at found
  cases last : lastEffect some key changes with
  | none =>
      rw [last] at found
      exact .inl found
  | some state =>
      rw [last] at found
      obtain ⟨change, member, effect⟩ := List.mem_filterMap.mp (List.mem_of_getLast? last)
      right
      cases change with
      | put k v =>
          by_cases hit : k = key
          · simp_all [effectOn]
          · simp [effectOn, hit] at effect
      | delete k =>
          by_cases hit : k = key
          · simp_all [effectOn]
          · simp [effectOn, hit] at effect

end Replay

def under (root : String) (change : Change) : Bool := Table.liesUnder root change.key

def restrict {α : Type} (root : String) (table : Table α) : Table α := table.keep fun key _ => Table.liesUnder root key

theorem lookup_restrict {α : Type} (root : String) (table : Table α) (key : String) :
    (restrict root table).get? key = if Table.liesUnder root key then table.get? key else none := by
  rw [restrict, Table.lookup_keep]
  cases Table.liesUnder root key <;> cases table.get? key <;> rfl

theorem effect_elsewhere {α : Type} (decode : List UInt8 → Option α) (key : String) (change : Change)
    (different : change.key ≠ key) : effectOn decode key change = none := by
  cases change with
  | put k value => exact if_neg different
  | delete k => exact if_neg different

theorem last_effect_under {α : Type} (decode : List UInt8 → Option α) (root key : String) (changes : List Change) :
    lastEffect decode key (changes.filter (under root)) =
      if Table.liesUnder root key then lastEffect decode key changes else none := by
  unfold lastEffect
  split
  next inside =>
    rw [List.filterMap_filter]
    congr 1
    apply List.filterMap_congr
    intro change _
    by_cases same : change.key = key
    · simp [under, same, inside]
    · simp [effect_elsewhere decode key change same]
  next outside =>
    rw [List.getLast?_eq_none_iff, List.filterMap_eq_nil_iff]
    intro change member
    apply effect_elsewhere
    rintro rfl
    exact outside (List.mem_filter.mp member).2

theorem restrict_replay {α : Type} (decode : List UInt8 → Option α) (root : String) (changes : List Change)
    (table : Table α) :
    restrict root (replay decode changes table) = replay decode (changes.filter (under root)) (restrict root table) := by
  apply Table.ext_lookup
  intro key
  rw [lookup_restrict, lookup_replay, lookup_replay, last_effect_under, lookup_restrict]
  split <;> rfl

def values (store : Store) : Table (List UInt8) := store.table.mapValues fun _ entry => entry.value

theorem lookup_values (store : Store) (key : String) :
    (values store).get? key = (store.table.get? key).map (·.value) := by
  rw [values, Table.lookup_map_values]

def lost (before after : Store) : List Change :=
  (before.table.keys.filter fun key => !after.table.contains key).map .delete

def written : Operation → Reply → List Change
  | .put key value _, .done => [.put key value]
  | _, _ => []

-- The changes that an operation makes, read off the tables before and after it: first what the sweep
-- takes away, then what the operation itself does.
def changesMade (now : Nat) (operation : Operation) (store : Store) : List Change :=
  let found := foundBy now operation store
  let (reply, result) := perform now operation store
  lost store found ++ lost found result ++ written operation reply

theorem put_made (now : Nat) (operation : Operation) (store : Store) (key : String) (value : List UInt8)
    (made : .put key value ∈ changesMade now operation store) : ∃ lease, operation = .put key value lease := by
  have not_lost : ∀ before after : Store, .put key value ∉ lost before after := by
    intro before after member
    obtain ⟨_, _, equal⟩ := List.mem_map.mp member
    cases equal
  unfold changesMade at made
  dsimp only at made
  simp only [List.mem_append, not_lost, false_or] at made
  cases operation with
  | put k v lease =>
      cases reply : (perform now (.put k v lease) store).1 with
      | done =>
          rw [reply] at made
          cases List.mem_singleton.mp made
          exact ⟨lease, rfl⟩
      | _ =>
          rw [reply] at made
          cases made
  | _ => cases made

theorem lost_nothing (before after : Store)
    (kept : ∀ key, before.table.contains key = true → after.table.contains key = true) : lost before after = [] := by
  rw [lost, List.map_eq_nil_iff, List.filter_eq_nil_iff]
  intro key member
  have present := (Table.contains_iff _ _).mpr ((Table.mem_keys_iff before.table key).mp member)
  simp [kept key present]

theorem lost_same (before after : Store) (same : after.table = before.table) : lost before after = [] := by
  apply lost_nothing
  intro key present
  rw [same]
  exact present

theorem lost_keep (before after : Store) (wanted : Entry → Bool)
    (kept : after.table = before.table.keep fun _ entry => !wanted entry) :
    lost before after = (before.table.keep fun _ entry => wanted entry).keys.map .delete := by
  have gone : before.table.keys.filter (fun key => !after.table.contains key) =
      (before.table.keep fun _ entry => wanted entry).keys := by
    rw [Table.keys, List.filter_map]
    change _ = (before.table.entries.filter fun pair => wanted pair.2).map (·.1)
    congr 1
    apply List.filter_congr
    intro pair member
    have found := (Table.lookup_some_iff before.table pair.1 pair.2).mpr member
    simp only [Function.comp_apply, kept, Table.contains, Table.lookup_keep, found]
    cases absent : wanted pair.2 <;> simp [Option.filter, absent]
  rw [lost, gone]

theorem lost_erase (before : Store) (key : String) (present : before.table.contains key = true) :
    lost before { before with table := before.table.erase key } = [.delete key] := by
  have member := (Table.mem_keys_iff before.table key).mpr ((Table.contains_iff _ _).mp present)
  have only : before.table.keys.filter (fun k => !(before.table.erase key).contains k) =
      before.table.keys.filter (· == key) := by
    apply List.filter_congr
    intro k inside
    obtain ⟨value, found⟩ := (Table.mem_keys_iff before.table k).mp inside
    rw [Table.contains, Table.lookup_erase]
    by_cases same : k = key <;> simp [same, found]
  rw [lost, only, List.filter_beq, List.count_eq_one_of_mem (Table.keys_distinct before.table) member]
  rfl

theorem sweep_changes (now : Nat) (store : Store) :
    (sweep now store).changes.toList = store.changes.toList ++ lost store (sweep now store) := by
  rw [lost_keep store (sweep now store) (boundTo (expired now store)) (sweep_table now store), sweep_eq,
    drop_keys_changes]

theorem revoke_changes (id : LeaseId) (store : Store) :
    (revoke id store).changes.toList = store.changes.toList ++ lost store (revoke id store) := by
  rw [lost_keep store (revoke id store) (boundTo [id]) rfl]
  exact drop_keys_changes _ _

theorem remove_changes (key : String) (store : Store) :
    (remove key store).changes.toList = store.changes.toList ++ lost store (remove key store) := by
  unfold remove
  split
  next present =>
    have gone := lost_erase store key present
    rw [Array.toList_push]
    exact congrArg (store.changes.toList ++ ·) gone.symm
  next => rw [lost_same store store rfl, List.append_nil]

theorem write_keeps_keys (key : String) (value : List UInt8) (lease : Option LeaseId) (store : Store) :
    lost store (write key value lease store) = [] := by
  apply lost_nothing
  intro k present
  obtain ⟨entry, found⟩ := (Table.contains_iff _ _).mp present
  rw [write, Table.contains, Table.lookup_insert]
  by_cases same : k = key <;> simp [same, found]

theorem found_changes (now : Nat) (operation : Operation) (store : Store) :
    (foundBy now operation store).changes.toList = store.changes.toList ++ lost store (foundBy now operation store) := by
  apply found_by_cases (fun found => found.changes.toList = store.changes.toList ++ lost store found) now operation store
  · rw [lost_same store store rfl, List.append_nil]
  · exact sweep_changes now store

theorem perform_changes (now : Nat) (operation : Operation) (store : Store) :
    (perform now operation store).2.changes.toList = store.changes.toList ++ changesMade now operation store := by
  have found := found_changes now operation store
  have does := perform_does now operation store
  unfold changesMade
  dsimp only
  rw [List.append_assoc, ← List.append_assoc store.changes.toList, ← found]
  generalize foundBy now operation store = before at does ⊢
  generalize (perform now operation store).1 = reply at does ⊢
  generalize (perform now operation store).2 = result at does ⊢
  cases does with
  | refuse operation error =>
      rw [lost_same before before rfl]
      cases operation <;> exact (List.append_nil _).symm
  | put key value lease _ =>
      rw [write_keeps_keys]
      exact Array.toList_push
  | delete key =>
      rw [remove_changes]
      exact congrArg _ (List.append_nil _).symm
  | revoke id =>
      rw [revoke_changes]
      exact congrArg _ (List.append_nil _).symm
  | _ =>
      rw [lost_same before]
      · exact (List.append_nil _).symm
      · rfl

theorem perform_grows (now : Nat) (operation : Operation) (store : Store) :
    store.changes.size ≤ (perform now operation store).2.changes.size := by
  have lengths := congrArg List.length (perform_changes now operation store)
  simp only [Array.length_toList, List.length_append] at lengths
  omega

theorem last_effect_deletions {α : Type} (decode : List UInt8 → Option α) (keys : List String) (key : String) :
    lastEffect decode key (keys.map .delete) = if key ∈ keys then some none else none := by
  induction keys with
  | nil => rfl
  | cons head rest ih =>
      unfold lastEffect at ih ⊢
      rw [List.map_cons, List.filterMap_cons]
      by_cases hit : head = key
      · simp only [effectOn, hit, if_true, List.getLast?_cons, ih, List.mem_cons, true_or]
        by_cases again : key ∈ rest <;> simp [again]
      · simp only [effectOn, hit, if_false, ih, List.mem_cons, Ne.symm hit, false_or]

theorem replay_lost (before after : Store)
    (subset : ∀ key entry, after.table.get? key = some entry → before.table.get? key = some entry) :
    replay some (lost before after) (values before) = values after := by
  apply Table.ext_lookup
  intro key
  rw [lookup_replay, lost, last_effect_deletions, lookup_values, lookup_values]
  by_cases gone : key ∈ before.table.keys.filter fun key => !after.table.contains key
  · have absent : after.table.get? key = none := by simpa [Table.contains] using (List.mem_filter.mp gone).2
    rw [if_pos gone, absent]
    rfl
  · rw [if_neg gone]
    cases still : after.table.get? key with
    | some entry => rw [subset key entry still]; rfl
    | none =>
        have never : before.table.get? key = none := by
          rw [List.mem_filter, not_and_or] at gone
          rcases gone with missing | kept
          · rw [Table.mem_keys_iff] at missing
            exact Option.eq_none_iff_forall_ne_some.mpr fun entry found => missing ⟨entry, found⟩
          · simp [Table.contains, still] at kept
        rw [never]
        rfl

theorem replay_write (key : String) (value : List UInt8) (lease : Option LeaseId) (store : Store) :
    replay some [.put key value] (values store) = values (write key value lease store) := by
  apply Table.ext_lookup
  intro query
  simp only [replay, List.foldl_cons, List.foldl_nil, amend, Table.lookup_insert, lookup_values, write]
  split <;> rfl

theorem perform_replays (now : Nat) (operation : Operation) (store : Store) :
    replay some (changesMade now operation store) (values store) = values (perform now operation store).2 := by
  have swept : replay some (lost store (foundBy now operation store)) (values store) = values (foundBy now operation store) :=
    replay_lost _ _ fun key entry => found_entries now operation store key entry
  have does := perform_does now operation store
  unfold changesMade
  dsimp only
  rw [replay_append, replay_append, swept]
  generalize foundBy now operation store = before at does ⊢
  generalize (perform now operation store).1 = reply at does ⊢
  generalize (perform now operation store).2 = result at does ⊢
  have unwritten : written operation reply = [] →
      (∀ key entry, result.table.get? key = some entry → before.table.get? key = some entry) →
        replay some (written operation reply) (replay some (lost before result) (values before)) = values result := by
    intro nothing subset
    rw [nothing, replay_lost before result subset]
    rfl
  cases does with
  | refuse operation error => exact unwritten (by cases operation <;> rfl) fun _ _ found => found
  | put key value lease _ =>
      rw [write_keeps_keys]
      exact replay_write key value lease before
  | delete key =>
      exact unwritten rfl fun k entry => remove_entries key k before entry
  | revoke id =>
      exact unwritten rfl fun k entry => drop_keys_entries [id] k _ entry
  | _ => exact unwritten rfl fun _ _ found => found

end ServiceHost.Store
