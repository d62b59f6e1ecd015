/-!
Ordered tables with text keys. The keys stand in ascending order, which for Unicode text is both
the order of scalar values and the byte order of UTF-8. The order is part of the type, so a table
is determined by its entries and every listing of it is sorted.
-/

set_option autoImplicit false

namespace ServiceHost

abbrev Ascending {α : Type} (entries : List (String × α)) : Prop :=
  entries.Pairwise fun a b => a.1 < b.1

structure Table (α : Type) where
  entries : List (String × α)
  ascending : Ascending entries

namespace Table

variable {α β : Type}

theorem ext_entries {a b : Table α} (same : a.entries = b.entries) : a = b := by
  cases a; cases b; cases same; rfl

instance [BEq α] : BEq (Table α) := ⟨fun a b => a.entries == b.entries⟩

def empty : Table α := ⟨[], .nil⟩

instance : Inhabited (Table α) := ⟨empty⟩
instance : EmptyCollection (Table α) := ⟨empty⟩

def keys (table : Table α) : List String := table.entries.map (·.1)
def values (table : Table α) : List α := table.entries.map (·.2)
def size (table : Table α) : Nat := table.entries.length
def isEmpty (table : Table α) : Bool := table.entries.isEmpty

def get? (table : Table α) (key : String) : Option α :=
  (table.entries.find? (·.1 == key)).map (·.2)

def contains (table : Table α) (key : String) : Bool := (table.get? key).isSome

def place (key : String) (value : α) : List (String × α) → List (String × α)
  | [] => [(key, value)]
  | (k, v) :: rest =>
      if key < k then (key, value) :: (k, v) :: rest
      else if key = k then (key, value) :: rest
      else (k, v) :: place key value rest

theorem mem_place (key : String) (value : α) (entries : List (String × α)) (pair : String × α)
    (member : pair ∈ place key value entries) : pair = (key, value) ∨ pair ∈ entries := by
  induction entries with
  | nil => exact Or.inl (List.mem_singleton.mp member)
  | cons head rest ih =>
      obtain ⟨k, v⟩ := head
      unfold place at member
      split at member
      · exact List.mem_cons.mp member
      · split at member
        · rcases List.mem_cons.mp member with same | inside
          · exact Or.inl same
          · exact Or.inr (List.mem_cons_of_mem _ inside)
        · rcases List.mem_cons.mp member with same | inside
          · exact Or.inr (same ▸ List.mem_cons_self)
          · exact (ih inside).imp id (List.mem_cons_of_mem _)

theorem lt_of_not_lt_of_ne {a b : String} (notLess : ¬ a < b) (different : a ≠ b) : b < a := by
  by_cases less : b < a
  · exact less
  · exact absurd (String.le_antisymm (String.not_lt.mp less) (String.not_lt.mp notLess)) different

theorem place_ascending (key : String) (value : α) (entries : List (String × α))
    (sorted : Ascending entries) : Ascending (place key value entries) := by
  induction entries with
  | nil => exact List.pairwise_singleton _ _
  | cons head rest ih =>
      obtain ⟨k, v⟩ := head
      have ⟨above, tail⟩ := List.pairwise_cons.mp sorted
      unfold place
      split
      next less =>
        refine List.pairwise_cons.mpr ⟨fun pair inside => ?_, sorted⟩
        rcases List.mem_cons.mp inside with same | inside
        · exact same ▸ less
        · exact String.lt_trans less (above pair inside)
      next notLess =>
        split
        next same => exact List.pairwise_cons.mpr ⟨fun pair inside => same ▸ above pair inside, tail⟩
        next different =>
          refine List.pairwise_cons.mpr ⟨fun pair inside => ?_, ih tail⟩
          rcases mem_place key value rest pair inside with same | inside
          · exact same ▸ lt_of_not_lt_of_ne notLess different
          · exact above pair inside

def insert (table : Table α) (key : String) (value : α) : Table α :=
  ⟨place key value table.entries, place_ascending key value table.entries table.ascending⟩

def keep (table : Table α) (wanted : String → α → Bool) : Table α :=
  ⟨table.entries.filter fun pair => wanted pair.1 pair.2, table.ascending.sublist List.filter_sublist⟩

def erase (table : Table α) (key : String) : Table α := table.keep fun k _ => k != key

def ofList (pairs : List (String × α)) : Table α :=
  pairs.foldl (fun table pair => table.insert pair.1 pair.2) empty

def mapValues (table : Table α) (f : String → α → β) : Table β :=
  ⟨table.entries.map fun pair => (pair.1, f pair.1 pair.2),
    List.pairwise_map.mpr (table.ascending.imp fun less => less)⟩

def filterMapValues (table : Table α) (f : String → α → Option β) : Table β :=
  ⟨table.entries.filterMap fun pair => (f pair.1 pair.2).map (pair.1, ·), by
    refine table.ascending.filterMap _ ?_
    intro a b less x fromA y fromB
    cases ha : f a.1 a.2 with
    | none => simp [ha] at fromA
    | some _ =>
        cases hb : f b.1 b.2 with
        | none => simp [hb] at fromB
        | some _ =>
            simp [ha] at fromA
            simp [hb] at fromB
            exact fromA ▸ fromB ▸ less⟩

def liesUnder (root key : String) : Bool := root.toList.isPrefixOf key.toList

-- All entries whose key begins with `root`, found by scanning from `root` on: in key order they
-- stand together, so the scan stops at the first key that does not begin with it.
def under (table : Table α) (root : String) : List (String × α) :=
  (table.entries.dropWhile fun pair => pair.1 < root).takeWhile fun pair => liesUnder root pair.1

end Table

end ServiceHost
