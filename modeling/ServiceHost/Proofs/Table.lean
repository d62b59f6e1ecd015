import ServiceHost.Table

set_option autoImplicit false

namespace ServiceHost.Table

variable {α β : Type}

theorem find_ascending (key : String) (value : α) (entries : List (String × α)) (sorted : Ascending entries) :
    (entries.find? (·.1 == key)).map (·.2) = some value ↔ (key, value) ∈ entries := by
  induction entries with
  | nil => simp
  | cons head rest ih =>
      obtain ⟨k, v⟩ := head
      have ⟨above, tail⟩ := List.pairwise_cons.mp sorted
      by_cases same : k = key
      · subst same
        have absent : (k, value) ∉ rest := fun inside => String.lt_irrefl k (above _ inside)
        simp [absent, eq_comm]
      · have later : (key, value) ∈ (k, v) :: rest ↔ (key, value) ∈ rest := by
          simp [List.mem_cons, Ne.symm same]
        rw [later, ← ih tail, List.find?_cons_of_neg (by simpa using same)]

theorem lookup_some_iff (table : Table α) (key : String) (value : α) :
    table.get? key = some value ↔ (key, value) ∈ table.entries :=
  find_ascending key value table.entries table.ascending

section

variable (key : β → String)

theorem ascending_distinct (items : List β) (sorted : items.Pairwise fun a b => key a < key b) : items.Nodup := by
  refine sorted.imp ?_
  rintro item _ less rfl
  exact String.lt_irrefl _ less

-- What is in order is determined by its members.
theorem ascending_same (first second : List β) (one : first.Pairwise fun a b => key a < key b)
    (two : second.Pairwise fun a b => key a < key b) (members : ∀ item, item ∈ first ↔ item ∈ second) : first = second := by
  have shuffled : first.Perm second :=
    (List.perm_ext_iff_of_nodup (ascending_distinct key first one) (ascending_distinct key second two)).mpr members
  refine shuffled.eq_of_pairwise ?_ one two
  intro a b _ _ less greater
  exact False.elim (String.lt_irrefl _ (String.lt_trans less greater))

end

theorem ext_lookup {a b : Table α} (same : ∀ key, a.get? key = b.get? key) : a = b := by
  refine ext_entries (ascending_same (·.1) a.entries b.entries a.ascending b.ascending fun pair => ?_)
  rw [← lookup_some_iff a pair.1 pair.2, ← lookup_some_iff b pair.1 pair.2, same]

theorem find_cons (key query : String) (value : α) (rest : List (String × α)) :
    (((key, value) :: rest).find? (·.1 == query)).map (·.2) =
      if query = key then some value else (rest.find? (·.1 == query)).map (·.2) := by
  by_cases hit : query = key
  · subst hit
    simp
  · rw [if_neg hit, List.find?_cons_of_neg (by simpa using Ne.symm hit)]

theorem find_place (key query : String) (value : α) (entries : List (String × α)) :
    ((place key value entries).find? (·.1 == query)).map (·.2) =
      if query = key then some value else (entries.find? (·.1 == query)).map (·.2) := by
  induction entries with
  | nil => exact find_cons key query value []
  | cons head rest ih =>
      obtain ⟨k, v⟩ := head
      unfold place
      split
      · exact find_cons key query value _
      · split
        next same =>
          subst same
          rw [find_cons, find_cons]
          by_cases hit : query = key <;> simp only [hit, if_true, if_false]
        next different =>
          rw [find_cons, find_cons, ih]
          by_cases hit : query = k
          · have missed : query ≠ key := fun equal => different (equal.symm.trans hit)
            rw [if_pos hit, if_neg missed, if_pos hit]
          · rw [if_neg hit, if_neg hit]

theorem lookup_insert (table : Table α) (key query : String) (value : α) :
    (table.insert key value).get? query = if query = key then some value else table.get? query :=
  find_place key query value table.entries

theorem lookup_keep (table : Table α) (wanted : String → α → Bool) (key : String) :
    (table.keep wanted).get? key = (table.get? key).filter (wanted key) := by
  apply Option.ext
  intro value
  rw [lookup_some_iff, Option.filter_eq_some_iff, lookup_some_iff]
  exact List.mem_filter

theorem keep_keep (table : Table α) (first second : String → α → Bool) :
    (table.keep first).keep second = table.keep fun key value => first key value && second key value :=
  ext_entries (by simp [keep, List.filter_filter, Bool.and_comm])

theorem keep_congr (table : Table α) (first second : String → α → Bool)
    (same : ∀ key value, table.get? key = some value → first key value = second key value) :
    table.keep first = table.keep second :=
  ext_entries (List.filter_congr fun pair inside => same pair.1 pair.2 ((lookup_some_iff _ _ _).mpr inside))

theorem keep_everything (table : Table α) (wanted : String → α → Bool)
    (all : ∀ key value, table.get? key = some value → wanted key value = true) : table.keep wanted = table :=
  ext_entries (List.filter_eq_self.mpr fun pair inside => all pair.1 pair.2 ((lookup_some_iff _ _ _).mpr inside))

theorem lookup_erase (table : Table α) (key query : String) :
    (table.erase key).get? query = if query = key then none else table.get? query := by
  rw [erase, lookup_keep]
  by_cases hit : query = key <;> cases table.get? query <;> simp [hit, Option.filter]

theorem erase_absent (table : Table α) (key : String) (absent : table.get? key = none) : table.erase key = table := by
  apply keep_everything
  intro k value found
  have different : k ≠ key := by
    rintro rfl
    rw [absent] at found
    cases found
  simpa using different

theorem lookup_map_values (table : Table α) (f : String → α → β) (key : String) :
    (table.mapValues f).get? key = (table.get? key).map (f key) := by
  apply Option.ext
  intro value
  rw [lookup_some_iff, Option.map_eq_some_iff]
  simp only [lookup_some_iff, mapValues, List.mem_map, Prod.mk.injEq]
  constructor
  · rintro ⟨⟨k, v⟩, inside, rfl, result⟩
    exact ⟨v, inside, result⟩
  · rintro ⟨v, inside, result⟩
    exact ⟨(key, v), inside, rfl, result⟩

theorem lookup_filter_map_values (table : Table α) (f : String → α → Option β) (key : String) :
    (table.filterMapValues f).get? key = (table.get? key).bind (f key) := by
  apply Option.ext
  intro value
  rw [lookup_some_iff, Option.bind_eq_some_iff]
  simp only [lookup_some_iff, filterMapValues, List.mem_filterMap, Option.map_eq_some_iff, Prod.mk.injEq]
  constructor
  · rintro ⟨⟨k, v⟩, inside, result, found, rfl, rfl⟩
    exact ⟨v, inside, found⟩
  · rintro ⟨v, inside, found⟩
    exact ⟨(key, v), inside, value, found, rfl, rfl⟩

theorem contains_iff (table : Table α) (key : String) : table.contains key = true ↔ ∃ value, table.get? key = some value :=
  Option.isSome_iff_exists

theorem mem_keys_iff (table : Table α) (key : String) : key ∈ table.keys ↔ ∃ value, table.get? key = some value := by
  simp [keys, lookup_some_iff]

theorem keys_ascending (table : Table α) : table.keys.Pairwise (· < ·) :=
  List.pairwise_map.mpr table.ascending

theorem keys_distinct (table : Table α) : table.keys.Nodup := ascending_distinct id table.keys (keys_ascending table)

theorem insert_known_keys (table : Table α) (key : String) (value : α) (known : key ∈ table.keys) :
    (table.insert key value).keys = table.keys := by
  refine ascending_same id _ _ (keys_ascending _) (keys_ascending _) fun query => ?_
  rw [mem_keys_iff, mem_keys_iff, lookup_insert]
  split
  · subst query
    exact iff_of_true ⟨value, rfl⟩ ((mem_keys_iff table key).mp known)
  · exact Iff.rfl

theorem place_last (key : String) (value : α) (entries : List (String × α)) (below : ∀ pair ∈ entries, pair.1 < key) :
    place key value entries = entries ++ [(key, value)] := by
  induction entries with
  | nil => rfl
  | cons head rest ih =>
      obtain ⟨k, v⟩ := head
      have less : k < key := below (k, v) List.mem_cons_self
      have notLess : ¬ key < k := fun greater => String.lt_irrefl _ (String.lt_trans less greater)
      have different : key ≠ k := fun same => String.lt_irrefl _ (same ▸ less)
      rw [place, if_neg notLess, if_neg different, ih fun pair inside => below pair (List.mem_cons_of_mem _ inside)]
      rfl

theorem insert_all_ascending (table : Table α) (pairs : List (String × α))
    (sorted : Ascending (table.entries ++ pairs)) :
    (pairs.foldl (fun table pair => table.insert pair.1 pair.2) table).entries = table.entries ++ pairs := by
  induction pairs generalizing table with
  | nil => exact (List.append_nil _).symm
  | cons head rest ih =>
      have below : ∀ pair ∈ table.entries, pair.1 < head.1 := fun pair inside =>
        (List.pairwise_append.mp sorted).2.2 pair inside head List.mem_cons_self
      have placed : (table.insert head.1 head.2).entries = table.entries ++ [head] := place_last _ _ _ below
      rw [List.foldl_cons, ih _ (by simpa [placed] using sorted), placed, List.append_assoc, List.singleton_append]

theorem of_list_ascending (pairs : List (String × α)) (sorted : Ascending pairs) : (ofList pairs).entries = pairs :=
  insert_all_ascending empty pairs sorted

theorem of_list_entries (table : Table α) : ofList table.entries = table :=
  ext_entries (of_list_ascending table.entries table.ascending)

theorem lookup_insert_all (table : Table α) (pairs : List (String × α)) (key : String) :
    (pairs.foldl (fun table pair => table.insert pair.1 pair.2) table).get? key =
      ((pairs.reverse.find? (·.1 == key)).map (·.2)).or (table.get? key) := by
  induction pairs generalizing table with
  | nil => rfl
  | cons head rest ih =>
      obtain ⟨k, v⟩ := head
      rw [List.foldl_cons, ih, lookup_insert, List.reverse_cons, List.find?_append]
      cases rest.reverse.find? (·.1 == key) with
      | some later => rfl
      | none =>
          by_cases hit : key = k
          · subst hit
            simp
          · simp [hit, Ne.symm hit]

theorem lookup_of_list (pairs : List (String × α)) (key : String) :
    (ofList pairs).get? key = (pairs.reverse.find? (·.1 == key)).map (·.2) :=
  (lookup_insert_all empty pairs key).trans (Option.or_none ..)

theorem of_list_origin (pairs : List (String × α)) (key : String) (value : α) (found : (ofList pairs).get? key = some value) :
    (key, value) ∈ pairs := by
  rw [lookup_of_list] at found
  obtain ⟨⟨other, last⟩, finds, rfl⟩ := Option.map_eq_some_iff.mp found
  obtain rfl : other = key := by simpa using List.find?_some finds
  exact List.mem_reverse.mp (List.mem_of_find?_eq_some finds)

theorem prefix_not_less (root key : List Char) (under : root <+: key) : ¬ key < root := by
  induction root generalizing key with
  | nil => exact List.not_lt_nil key
  | cons c root ih =>
      obtain ⟨tail, rfl⟩ := under
      intro less
      rcases List.cons_lt_cons_iff.mp less with smaller | ⟨_, smaller⟩
      · exact Char.lt_irrefl c smaller
      · exact ih (root ++ tail) (List.prefix_append root tail) smaller

theorem prefix_between (root a b : List Char) (reached : ¬ a < root) (less : a < b) (under : root <+: b) :
    root <+: a := by
  induction root generalizing a b with
  | nil => exact List.nil_prefix
  | cons c root ih =>
      obtain ⟨tail, rfl⟩ := under
      cases a with
      | nil => exact False.elim (reached (List.nil_lt_cons c root))
      | cons d a =>
          rcases List.cons_lt_cons_iff.mp less with smaller | ⟨rfl, smaller⟩
          · exact False.elim (reached (List.cons_lt_cons_iff.mpr (Or.inl smaller)))
          · have reachedTail : ¬ a < root := fun behind =>
              reached (List.cons_lt_cons_iff.mpr (Or.inr ⟨rfl, behind⟩))
            have inside := ih a (root ++ tail) reachedTail smaller (List.prefix_append root tail)
            exact List.cons_prefix_cons.mpr ⟨rfl, inside⟩

theorem lies_under_iff (root key : String) : liesUnder root key = true ↔ root.toList <+: key.toList :=
  List.isPrefixOf_iff_prefix

theorem take_while_under (root : String) (entries : List (String × α)) (sorted : Ascending entries)
    (reached : ∀ pair ∈ entries, ¬ pair.1 < root) :
    entries.takeWhile (fun pair => liesUnder root pair.1) = entries.filter fun pair => liesUnder root pair.1 := by
  induction entries with
  | nil => rfl
  | cons head rest ih =>
      have ⟨above, tail⟩ := List.pairwise_cons.mp sorted
      by_cases inside : liesUnder root head.1 = true
      · rw [List.takeWhile_cons, List.filter_cons, if_pos inside, if_pos inside,
          ih tail fun pair member => reached pair (List.mem_cons_of_mem _ member)]
      · -- A key behind one that left the root does not come back under it.
        have outside : ∀ pair ∈ rest, ¬ liesUnder root pair.1 = true := by
          intro pair member under
          exact inside ((lies_under_iff _ _).mpr (prefix_between _ _ _ (reached head List.mem_cons_self)
            (above pair member) ((lies_under_iff _ _).mp under)))
        rw [List.takeWhile_cons, List.filter_cons, if_neg inside, if_neg inside, List.filter_eq_nil_iff.mpr outside]

theorem under_filter (table : Table α) (root : String) :
    table.under root = table.entries.filter fun pair => liesUnder root pair.1 := by
  obtain ⟨entries, sorted⟩ := table
  change (entries.dropWhile _).takeWhile _ = _
  induction entries with
  | nil => rfl
  | cons head rest ih =>
      have ⟨above, tail⟩ := List.pairwise_cons.mp sorted
      by_cases before : head.1 < root
      · have outside : ¬ liesUnder root head.1 = true := fun under =>
          prefix_not_less _ _ ((lies_under_iff _ _).mp under) before
        rw [List.dropWhile_cons_of_pos (by simpa using before), List.filter_cons, if_neg outside]
        exact ih tail
      · rw [List.dropWhile_cons_of_neg (by simpa using before)]
        apply take_while_under root _ sorted
        intro pair member less
        rcases List.mem_cons.mp member with rfl | later
        · exact before less
        · exact before (String.lt_trans (above pair later) less)

end ServiceHost.Table
