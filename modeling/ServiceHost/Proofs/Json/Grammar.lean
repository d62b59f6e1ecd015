import Mathlib.Data.List.Forall2
import ServiceHost.Proofs.Json.Literal
import ServiceHost.Proofs.Json.Number

set_option autoImplicit false

namespace ServiceHost.Json

def Blank (bytes : List UInt8) : Prop := ∀ byte ∈ bytes, isSpace byte = true

theorem blank_nil : Blank [] := List.forall_mem_nil _

mutual
inductive Writes : Syntax → List UInt8 → Prop where
  | null : Writes .null [0x6E, 0x75, 0x6C, 0x6C]
  | yes : Writes (.bool true) [0x74, 0x72, 0x75, 0x65]
  | no : Writes (.bool false) [0x66, 0x61, 0x6C, 0x73, 0x65]
  | number {numeral : Numeral} {bytes : List UInt8} (written : WritesUnsigned false numeral bytes) :
      Writes (.number numeral) bytes
  | negative {numeral : Numeral} {bytes : List UInt8} (written : WritesUnsigned true numeral bytes) :
      Writes (.number numeral) (0x2D :: bytes)
  | text {literal : Literal} {bytes : List UInt8} (spelt : SpellsAll literal bytes) :
      Writes (.text literal) (0x22 :: (bytes ++ [0x22]))
  | noItems {space : List UInt8} (blank : Blank space) : Writes (.array []) (0x5B :: (space ++ [0x5D]))
  | items {items : List Syntax} {bytes : List UInt8} (listed : WritesItems items bytes) :
      Writes (.array items) (0x5B :: bytes)
  | noMembers {space : List UInt8} (blank : Blank space) : Writes (.object []) (0x7B :: (space ++ [0x7D]))
  | members {members : List (Literal × Syntax)} {bytes : List UInt8} (listed : WritesMembers members bytes) :
      Writes (.object members) (0x7B :: bytes)

inductive Padded : Syntax → List UInt8 → Prop where
  | between {tree : Syntax} {before bytes after : List UInt8} (blank : Blank before)
      (written : Writes tree bytes) (blankAfter : Blank after) : Padded tree (before ++ (bytes ++ after))

inductive WritesItems : List Syntax → List UInt8 → Prop where
  | last {item : Syntax} {bytes : List UInt8} (one : Padded item bytes) : WritesItems [item] (bytes ++ [0x5D])
  | more {item : Syntax} {items : List Syntax} {bytes others : List UInt8} (one : Padded item bytes)
      (listed : WritesItems items others) : WritesItems (item :: items) (bytes ++ 0x2C :: others)

inductive WritesMember : Literal × Syntax → List UInt8 → Prop where
  | named {name : Literal} {item : Syntax} {before spelling between bytes : List UInt8} (blank : Blank before)
      (spelt : SpellsAll name spelling) (blankBetween : Blank between) (one : Padded item bytes) :
      WritesMember (name, item) (before ++ 0x22 :: (spelling ++ 0x22 :: (between ++ 0x3A :: bytes)))

inductive WritesMembers : List (Literal × Syntax) → List UInt8 → Prop where
  | last {member : Literal × Syntax} {bytes : List UInt8} (one : WritesMember member bytes) :
      WritesMembers [member] (bytes ++ [0x7D])
  | more {member : Literal × Syntax} {members : List (Literal × Syntax)} {bytes others : List UInt8}
      (one : WritesMember member bytes) (listed : WritesMembers members others) :
      WritesMembers (member :: members) (bytes ++ 0x2C :: others)
end

theorem skip_blank (space rest : List UInt8) (blank : Blank space) : skipSpace (space ++ rest) = skipSpace rest := by
  induction space with
  | nil => rfl
  | cons byte more ih =>
      rw [List.cons_append, skipSpace, if_pos (blank byte List.mem_cons_self)]
      exact ih fun other inside => blank other (List.mem_cons_of_mem _ inside)

theorem skip_nothing (byte : UInt8) (rest : List UInt8) (solid : isSpace byte = false) :
    skipSpace (byte :: rest) = byte :: rest := by
  simp [skipSpace, solid]

theorem skip_twice (bytes : List UInt8) : skipSpace (skipSpace bytes) = skipSpace bytes := by
  induction bytes with
  | nil => rfl
  | cons byte rest ih =>
      by_cases space : isSpace byte = true
      · simpa [skipSpace, space] using ih
      · simp [skipSpace, space]

theorem space_cases (byte : UInt8) (space : isSpace byte = true) :
    byte = 0x20 ∨ byte = 0x0A ∨ byte = 0x0D ∨ byte = 0x09 := by
  simpa [isSpace, or_assoc] using space

theorem ends_behind_blank (space rest : List UInt8) (blank : Blank space) (ends : Ends rest) :
    Ends (space ++ rest) := by
  cases space with
  | nil => exact ends
  | cons byte more =>
      intro first head
      cases head
      rcases space_cases byte (blank byte List.mem_cons_self) with rfl | rfl | rfl | rfl <;> decide

theorem unsigned_head (negative : Bool) (numeral : Numeral) (bytes : List UInt8)
    (written : WritesUnsigned negative numeral bytes) :
    ∃ byte more, bytes = byte :: more ∧ isDigit byte = true := by
  cases written with
  | parts digits _ _ _ =>
      obtain ⟨byte, more, rfl⟩ := List.exists_cons_of_ne_nil digits.1
      exact ⟨byte, _, rfl, digits.2 byte List.mem_cons_self⟩

theorem digit_differs (byte other : UInt8) (digit : isDigit byte = true) (none : isDigit other = false) :
    byte ≠ other := by
  intro equal
  rw [equal, none] at digit
  cases digit

theorem digit_no_space (byte : UInt8) (digit : isDigit byte = true) : isSpace byte = false := by
  cases space : isSpace byte with
  | false => rfl
  | true =>
      rcases space_cases byte space with rfl | rfl | rfl | rfl <;> cases digit

-- The first byte is none that the reader skips, and none that ends a list.
theorem writes_head (tree : Syntax) (bytes : List UInt8) (written : Writes tree bytes) :
    ∃ byte more, bytes = byte :: more ∧ isSpace byte = false ∧ byte ≠ 0x5D := by
  cases written with
  | number written =>
      obtain ⟨byte, more, rfl, digit⟩ := unsigned_head _ _ _ written
      exact ⟨byte, more, rfl, digit_no_space byte digit, digit_differs byte _ digit rfl⟩
  | _ => exact ⟨_, _, rfl, by decide, by decide⟩

theorem padded_head (item : Syntax) (bytes rest : List UInt8) (written : Padded item bytes) :
    ∃ byte more, skipSpace (bytes ++ rest) = byte :: more ∧ byte ≠ 0x5D := by
  cases written with
  | between blank one _ =>
      obtain ⟨byte, more, rfl, solid, notEnd⟩ := writes_head _ _ one
      rw [List.append_assoc, skip_blank _ _ blank, List.append_assoc, List.cons_append, skip_nothing _ _ solid]
      exact ⟨byte, _, rfl, notEnd⟩

theorem items_head (items : List Syntax) (bytes rest : List UInt8) (written : WritesItems items bytes) :
    ∃ byte more, skipSpace (bytes ++ rest) = byte :: more ∧ byte ≠ 0x5D := by
  cases written with
  | last one => exact List.append_assoc .. ▸ padded_head _ _ _ one
  | more one _ => exact List.append_assoc .. ▸ padded_head _ _ _ one

theorem member_head (member : Literal × Syntax) (bytes rest : List UInt8) (written : WritesMember member bytes) :
    ∃ more, skipSpace (bytes ++ rest) = 0x22 :: more := by
  cases written with
  | named blank _ _ _ =>
      rw [List.append_assoc, skip_blank _ _ blank]
      exact ⟨_, rfl⟩

theorem members_head (members : List (Literal × Syntax)) (bytes rest : List UInt8)
    (written : WritesMembers members bytes) : ∃ more, skipSpace (bytes ++ rest) = 0x22 :: more := by
  cases written with
  | last one => exact List.append_assoc .. ▸ member_head _ _ _ one
  | more one _ => exact List.append_assoc .. ▸ member_head _ _ _ one

theorem items_skipped (fuel : Nat) (found : List Syntax) (input : List UInt8) :
    readItems fuel found (skipSpace input) = readItems fuel found input := by
  cases fuel with
  | zero => rfl
  | succ fuel => rw [readItems, readItems, skip_twice]

theorem members_skipped (fuel : Nat) (found : List (Literal × Syntax)) (input : List UInt8) :
    readMembers fuel found (skipSpace input) = readMembers fuel found input := by
  cases fuel with
  | zero => rfl
  | succ fuel => rw [readMembers, readMembers, skip_twice]

-- What the reader does with trees of a fuel, for the lists of such trees.
def ReadsTrees (fuel : Nat) : Prop :=
  ∀ tree bytes, Writes tree bytes → 2 * bytes.length ≤ fuel → ∀ rest, Ends rest →
    readTree fuel (bytes ++ rest) = some (tree, rest)

def ReadsItems (fuel : Nat) : Prop :=
  ∀ items bytes, WritesItems items bytes → 2 * bytes.length + 1 ≤ fuel → ∀ found rest,
    readItems fuel found (bytes ++ rest) = some (.array (found.reverse ++ items), rest)

def ReadsMembers (fuel : Nat) : Prop :=
  ∀ members bytes, WritesMembers members bytes → 2 * bytes.length + 1 ≤ fuel → ∀ found rest,
    readMembers fuel found (bytes ++ rest) = some (.object (found.reverse ++ members), rest)

theorem read_padded (fuel : Nat) (reads : ReadsTrees fuel) (item : Syntax) (bytes rest : List UInt8)
    (written : Padded item bytes) (enough : 2 * bytes.length ≤ fuel) (ends : Ends rest) :
    ∃ behind, readTree fuel (skipSpace (bytes ++ rest)) = some (item, behind) ∧
      skipSpace behind = skipSpace rest := by
  cases written with
  | @between _ before body after blank written blankAfter =>
      have short : 2 * body.length ≤ fuel := by simp at enough; omega
      have read := reads item body written short (after ++ rest) (ends_behind_blank _ _ blankAfter ends)
      obtain ⟨byte, more, rfl, solid, _⟩ := writes_head _ _ written
      refine ⟨after ++ rest, ?_, skip_blank _ _ blankAfter⟩
      rw [List.append_assoc, skip_blank _ _ blank, List.append_assoc, List.cons_append, skip_nothing _ _ solid]
      exact read

theorem ends_at (byte : UInt8) (rest : List UInt8)
    (mark : byte = 0x2C ∨ byte = 0x5D ∨ byte = 0x7D) : Ends (byte :: rest) := by
  intro first head
  cases head
  rcases mark with rfl | rfl | rfl <;> decide

theorem read_items_step (fuel : Nat) (trees : ReadsTrees fuel) (items : ReadsItems fuel) : ReadsItems (fuel + 1) := by
  intro listed bytes written enough found rest
  cases written with
  | @last item body one =>
      have short : 2 * body.length ≤ fuel := by simp at enough; omega
      obtain ⟨behind, read, skipped⟩ := read_padded fuel trees item body (0x5D :: rest) one short
        (ends_at _ _ (by decide))
      rw [List.append_assoc, List.singleton_append, readItems, read]
      simp only [skipped, skip_nothing 0x5D rest rfl, List.reverse_cons]
  | @more item others body tail one listed =>
      have short : 2 * body.length ≤ fuel := by simp at enough; omega
      have shorter : 2 * tail.length + 1 ≤ fuel := by simp at enough; omega
      obtain ⟨behind, read, skipped⟩ := read_padded fuel trees item body (0x2C :: (tail ++ rest)) one short
        (ends_at _ _ (by decide))
      have more := items others tail listed shorter (item :: found) rest
      rw [List.append_assoc, List.cons_append, readItems, read]
      simp only [skipped, skip_nothing 0x2C _ rfl, more, List.reverse_cons, List.append_assoc, List.singleton_append]

theorem read_member (fuel : Nat) (trees : ReadsTrees fuel) (name : Literal) (item : Syntax) (bytes rest : List UInt8)
    (written : WritesMember (name, item) bytes) (enough : 2 * bytes.length ≤ fuel) (ends : Ends rest) :
    ∃ after inner behind, skipSpace (bytes ++ rest) = 0x22 :: after ∧ readLiteral [] after = some (name, inner) ∧
      (∃ value, skipSpace inner = 0x3A :: value ∧ readTree fuel (skipSpace value) = some (item, behind)) ∧
      skipSpace behind = skipSpace rest := by
  cases written with
  | @named _ _ before spelling between body blank spelt blankBetween one =>
      have short : 2 * body.length ≤ fuel := by simp at enough; omega
      obtain ⟨behind, read, skipped⟩ := read_padded fuel trees item body rest one short ends
      refine ⟨spelling ++ 0x22 :: (between ++ 0x3A :: (body ++ rest)), between ++ 0x3A :: (body ++ rest), behind, ?_,
        read_spelt name spelling spelt [] _, ⟨body ++ rest, ?_, read⟩, skipped⟩
      · rw [List.append_assoc, skip_blank _ _ blank, List.cons_append, skip_nothing _ _ rfl, List.append_assoc,
          List.cons_append, List.append_assoc, List.cons_append]
      · rw [skip_blank _ _ blankBetween, skip_nothing _ _ rfl]

theorem read_members_step (fuel : Nat) (trees : ReadsTrees fuel) (members : ReadsMembers fuel) :
    ReadsMembers (fuel + 1) := by
  intro listed bytes written enough found rest
  cases written with
  | @last member body one =>
      have short : 2 * body.length ≤ fuel := by simp at enough; omega
      obtain ⟨after, inner, behind, quoted, named, ⟨value, colon, read⟩, skipped⟩ :=
        read_member fuel trees member.1 member.2 body (0x7D :: rest) one short (ends_at _ _ (by decide))
      rw [List.append_assoc, List.singleton_append, readMembers, quoted]
      simp only [named, colon, read, skipped, skip_nothing 0x7D rest rfl, List.reverse_cons]
  | @more member others body tail one listed =>
      have short : 2 * body.length ≤ fuel := by simp at enough; omega
      have shorter : 2 * tail.length + 1 ≤ fuel := by simp at enough; omega
      obtain ⟨after, inner, behind, quoted, named, ⟨value, colon, read⟩, skipped⟩ :=
        read_member fuel trees member.1 member.2 body (0x2C :: (tail ++ rest)) one short (ends_at _ _ (by decide))
      have more := members others tail listed shorter (member :: found) rest
      rw [List.append_assoc, List.cons_append, readMembers, quoted]
      simp only [named, colon, read, skipped, skip_nothing 0x2C _ rfl, more, List.reverse_cons, List.append_assoc,
        List.singleton_append]

theorem read_trees_step (fuel : Nat) (items : ReadsItems fuel) (members : ReadsMembers fuel) :
    ReadsTrees (fuel + 1) := by
  intro tree bytes written enough rest ends
  cases written with
  | null => rfl
  | yes => rfl
  | no => rfl
  | text spelt => simp [readTree, read_spelt _ _ spelt]
  | number written =>
      have read := read_unsigned false _ _ rest written ends
      obtain ⟨byte, more, rfl, digit⟩ := unsigned_head _ _ _ written
      have other := fun mark => digit_differs byte mark digit
      rw [List.cons_append] at read ⊢
      simp [readTree, other 0x22 rfl, other 0x5B rfl, other 0x7B rfl, other 0x2D rfl, digit, read]
  | negative written =>
      have read := read_unsigned true _ _ rest written ends
      simp [readTree, read]
  | noItems blank => simp [readTree, skip_blank _ _ blank, skip_nothing 0x5D _ rfl]
  | noMembers blank => simp [readTree, skip_blank _ _ blank, skip_nothing 0x7D _ rfl]
  | @items listed body written =>
      have short : 2 * body.length + 1 ≤ fuel := by simp at enough; omega
      have read := items listed body written short [] rest
      obtain ⟨byte, more, first, notEnd⟩ := items_head _ _ rest written
      rw [← items_skipped, first] at read
      rw [List.cons_append, readTree, if_neg (by decide), if_pos rfl, first]
      split
      next equal => exact absurd (List.cons.inj equal).1 notEnd
      next => exact read
  | @members listed body written =>
      have short : 2 * body.length + 1 ≤ fuel := by simp at enough; omega
      have read := members listed body written short [] rest
      obtain ⟨more, first⟩ := members_head _ _ rest written
      rw [← members_skipped, first] at read
      simp [readTree, first, read]

theorem reads (fuel : Nat) : ReadsTrees fuel ∧ ReadsItems fuel ∧ ReadsMembers fuel := by
  induction fuel with
  | zero =>
      refine ⟨?_, fun _ _ _ enough => absurd enough (by omega), fun _ _ _ enough => absurd enough (by omega)⟩
      intro tree bytes written enough
      obtain ⟨byte, more, rfl, _⟩ := writes_head tree bytes written
      simp at enough
  | succ fuel ih =>
      obtain ⟨trees, items, members⟩ := ih
      exact ⟨read_trees_step fuel items members, read_items_step fuel trees items,
        read_members_step fuel trees members⟩

theorem read_written (tree : Syntax) (bytes : List UInt8) (written : Padded tree bytes) :
    read bytes = some tree := by
  have enough : 2 * bytes.length ≤ 2 * bytes.length + 2 := Nat.le_add_right _ 2
  have nothing : Ends [] := fun _ head => nomatch head
  obtain ⟨behind, found, skipped⟩ := read_padded (2 * bytes.length + 2) (reads _).1 tree bytes [] written enough nothing
  rw [List.append_nil] at found
  simp [read, found, skipped, skipSpace]

def bytesOf (chars : List Char) : List UInt8 := chars.flatMap String.utf8EncodeChar

@[simp] theorem bytes_of_append (a b : List Char) : bytesOf (a ++ b) = bytesOf a ++ bytesOf b := List.flatMap_append

@[simp] theorem bytes_of_cons (c : Char) (rest : List Char) :
    bytesOf (c :: rest) = String.utf8EncodeChar c ++ bytesOf rest := rfl

theorem member_written (name : String) (item : Value) (tree : Syntax) (written : Writes tree (bytesOf item.chars)) :
    ∃ literal, WritesMember (literal, tree) (bytesOf (quote name ++ ':' :: item.chars)) ∧ StandsFor literal name.toList := by
  obtain ⟨literal, spelling, spells, spelt, stands⟩ := quote_spells name
  have member := WritesMember.named blank_nil spelt blank_nil (.between blank_nil written blank_nil)
  have colon : String.utf8EncodeChar ':' = [0x3A] := rfl
  refine ⟨literal, ?_, stands⟩
  rw [bytes_of_append, bytes_of_cons, colon, bytesOf, spells]
  simpa using member

theorem members_written (relation : Syntax → Value → Prop) (pairs : List (String × Value)) (some_pair : pairs ≠ [])
    (items : ∀ pair ∈ pairs, ∃ tree, Writes tree (bytesOf pair.2.chars) ∧ relation tree pair.2) :
    ∃ members, WritesMembers members (bytesOf (memberChars pairs) ++ [0x7D]) ∧
      List.Forall₂ (fun member pair => StandsFor member.1 pair.1.toList ∧ relation member.2 pair.2) members pairs := by
  induction pairs with
  | nil => exact absurd rfl some_pair
  | cons pair rest ih =>
      obtain ⟨name, item⟩ := pair
      obtain ⟨tree, written, related⟩ := items _ List.mem_cons_self
      obtain ⟨literal, member, stands⟩ := member_written name item tree written
      cases rest with
      | nil => exact ⟨[(literal, tree)], .last member, .cons ⟨stands, related⟩ .nil⟩
      | cons second others =>
          obtain ⟨members, listed, all⟩ := ih (List.cons_ne_nil _ _) fun pair inside => items pair (.tail _ inside)
          refine ⟨(literal, tree) :: members, ?_, .cons ⟨stands, related⟩ all⟩
          have more := WritesMembers.more member listed
          rw [memberChars, bytes_of_append, bytes_of_cons, List.append_assoc]
          · exact more
          · exact List.cons_ne_nil _ _

end ServiceHost.Json
