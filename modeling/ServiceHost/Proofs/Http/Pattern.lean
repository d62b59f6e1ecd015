import ServiceHost.Http.Pattern

set_option autoImplicit false

namespace ServiceHost.Http

theorem split_two (text : List Char) (slash : '/' ∈ text) :
    ∃ first second others, text.splitOn '/' = first :: second :: others := by
  obtain ⟨first, rest, rfl, free⟩ := List.eq_append_cons_of_mem slash
  obtain ⟨second, others, split⟩ := List.exists_cons_of_ne_nil (List.splitOn_ne_nil '/' rest)
  exact ⟨first, second, others, by rw [List.splitOn_append_cons_self_of_not_mem free, split]⟩

namespace Segment

-- What may stand in the place of a segment that is the last of its pattern.
def Covers : Segment → List Char → Prop
  | .literal text, tail => '/' ∉ tail ∧ tail = text
  | .capture stem _, tail => '/' ∉ tail ∧ ∃ taken, taken ≠ [] ∧ tail = stem ++ taken
  | .remainder stem _, tail => ∃ taken, taken ≠ [] ∧ tail = stem ++ taken

def IsPlain (text : List Char) : Prop :=
  text.head? ≠ some ':' ∧ text.head? ≠ some '*' ∧ '\x7b' ∉ text ∧ '\x7d' ∉ text

instance (text : List Char) : Decidable (IsPlain text) := inferInstanceAs (Decidable (_ ∧ _ ∧ _ ∧ _))

theorem read_stem_plain (text : List Char) (unopened : '\x7b' ∉ text) (unclosed : '\x7d' ∉ text) :
    readStem text = some (text, []) := by
  induction text with
  | nil => rfl
  | cons c rest ih =>
      have opening : c ≠ '\x7b' := fun same => unopened (same ▸ List.mem_cons_self)
      have closing : c ≠ '\x7d' := fun same => unclosed (same ▸ List.mem_cons_self)
      have read := ih (fun inside => unopened (.tail _ inside)) fun inside => unclosed (.tail _ inside)
      rw [readStem, read]
      · rfl
      all_goals simp [opening, closing]

theorem plain_literal (text : List Char) (plain : IsPlain text) : ofChars? text = some (.literal text) := by
  obtain ⟨noColon, noStar, unopened, unclosed⟩ := plain
  simp [ofChars?, noColon, noStar, read_stem_plain text unopened unclosed]

end Segment

namespace Pattern

theorem after_stem_iff (stem part : List Char) :
    (afterStem? stem part).isSome = true ↔ ∃ taken, taken ≠ [] ∧ part = stem ++ taken := by
  have fits : (afterStem? stem part).isSome = true ↔ stem <+: part ∧ stem.length < part.length := by
    unfold afterStem?
    split <;> simp_all
  rw [fits]
  constructor
  · rintro ⟨⟨taken, rfl⟩, longer⟩
    refine ⟨taken, fun none => ?_, rfl⟩
    simp [none] at longer
  · rintro ⟨taken, some_taken, rfl⟩
    exact ⟨List.prefix_append _ _, by simpa using List.length_pos_iff.mpr some_taken⟩

theorem last_captures (segment : Segment) (tail : List Char) :
    (captures? [segment] (tail.splitOn '/')).isSome = true ↔ segment.Covers tail := by
  by_cases slash : '/' ∈ tail
  · obtain ⟨first, second, others, split⟩ := split_two tail slash
    have whole : ['/'].intercalate (first :: second :: others) = tail := split ▸ List.intercalate_splitOn '/'
    cases segment with
    | literal text => simp [split, captures?, Segment.Covers, slash]
    | capture stem name => simp [split, captures?, Segment.Covers, slash]
    | remainder stem name => rw [split, captures?, whole, Option.isSome_map, after_stem_iff, Segment.Covers]
  · rw [List.splitOn_eq_singleton slash]
    cases segment with
    | literal text =>
        by_cases same : text = tail
        · simp [captures?, Segment.Covers, slash, same]
        · simp [captures?, Segment.Covers, slash, same, Ne.symm same]
    | capture stem name =>
        have found : (captures? [.capture stem name] [tail]).isSome = (afterStem? stem tail).isSome := by
          rw [captures?]
          cases afterStem? stem tail <;> rfl
        simp [found, Segment.Covers, slash, after_stem_iff]
    | remainder stem name => simp [captures?, Segment.Covers, after_stem_iff]

theorem literal_first (name : List Char) (pattern : Pattern) (parts : List (List Char)) :
    (captures? (.literal name :: pattern) parts).isSome = true ↔
      ∃ rest, parts = name :: rest ∧ (captures? pattern rest).isSome = true := by
  cases parts with
  | nil => simp [captures?]
  | cons part rest =>
      by_cases same : part = name
      · simp [captures?, same]
      · simp [captures?, same, Ne.symm same]

theorem segments_iff (path : List Char) (parts : List (List Char)) :
    segments? path = some parts ↔ ∃ body, path = '/' :: body ∧ body.splitOn '/' = parts := by
  unfold segments?
  split <;> simp_all

theorem name_captures (name : List Char) (segment : Segment) (path : List Char) (free : '/' ∉ name) :
    ((segments? path).bind (captures? [.literal name, segment])).isSome = true ↔
      ∃ tail, path = '/' :: (name ++ '/' :: tail) ∧ segment.Covers tail := by
  constructor
  · intro matched
    obtain ⟨captures, bound⟩ := Option.isSome_iff_exists.mp matched
    obtain ⟨parts, parted, taken⟩ := Option.bind_eq_some_iff.mp bound
    obtain ⟨body, rfl, split⟩ := (segments_iff path parts).mp parted
    obtain ⟨rest, rfl, left⟩ := (literal_first name [segment] parts).mp (Option.isSome_of_eq_some taken)
    have some_rest : rest ≠ [] := by
      rintro rfl
      cases segment <;> simp [captures?] at left
    have rejoined : ['/'].intercalate (body.splitOn '/') = body := List.intercalate_splitOn '/'
    have spelt : body = name ++ '/' :: ['/'].intercalate rest := by
      rw [split, List.intercalate_cons_of_ne_nil some_rest] at rejoined
      simpa using rejoined.symm
    rw [spelt, List.splitOn_append_cons_self_of_not_mem free] at split
    rw [← (List.cons.inj split).2, last_captures] at left
    exact ⟨_, congrArg _ spelt, left⟩
  · rintro ⟨tail, rfl, covered⟩
    have split : segments? ('/' :: (name ++ '/' :: tail)) = some (name :: tail.splitOn '/') :=
      congrArg some (List.splitOn_append_cons_self_of_not_mem free tail)
    rw [split, Option.bind_some, literal_first]
    exact ⟨_, rfl, (last_captures segment tail).mpr covered⟩

theorem conflicts_behind_name (name : List Char) (a b : Segment) :
    conflicts [.literal name, a] [.literal name, b] = conflicts [a] [b] := by
  simp [conflicts]

end Pattern

end ServiceHost.Http
