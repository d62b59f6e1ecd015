import ServiceHost.Json.Printer
import ServiceHost.Json.Reader
import ServiceHost.Proofs.Text.Utf8

set_option autoImplicit false

namespace ServiceHost.Json

inductive Spells : Glyph → List UInt8 → Prop where
  | plain (byte : UInt8) (shown : ¬ byte < 0x20) (noQuote : byte ≠ 0x22) (noEscape : byte ≠ 0x5C) :
      Spells (.byte byte) [byte]
  | short (letter byte : UInt8) (named : shortEscape? letter = some byte) : Spells (.byte byte) [0x5C, letter]
  | code (a b c d : UInt8) (w x y z : Nat) (first : hexValue? a = some w) (second : hexValue? b = some x)
      (third : hexValue? c = some y) (fourth : hexValue? d = some z) :
      Spells (.unit (((w * 16 + x) * 16 + y) * 16 + z)) [0x5C, 0x75, a, b, c, d]

inductive SpellsAll : Literal → List UInt8 → Prop where
  | nil : SpellsAll [] []
  | cons {glyph : Glyph} {rest : Literal} {bytes more : List UInt8} (one : Spells glyph bytes)
      (others : SpellsAll rest more) : SpellsAll (glyph :: rest) (bytes ++ more)

theorem spells_all_append {a b : Literal} {bytes more : List UInt8} (first : SpellsAll a bytes)
    (second : SpellsAll b more) : SpellsAll (a ++ b) (bytes ++ more) := by
  induction first with
  | nil => exact second
  | cons one _ ih => exact List.append_assoc .. ▸ .cons one ih

theorem read_glyph (glyph : Glyph) (bytes : List UInt8) (spelt : Spells glyph bytes) (found : Literal)
    (rest : List UInt8) : readLiteral found (bytes ++ rest) = readLiteral (glyph :: found) rest := by
  cases spelt with
  | plain byte shown noQuote noEscape =>
      have plain : ¬ (byte < 0x20 ∨ byte = 0x5C) := not_or.mpr ⟨shown, noEscape⟩
      rw [List.singleton_append, readLiteral]
      · simp [plain]
      · exact noQuote
      · exact fun _ _ _ _ _ equal _ => noEscape equal
      · exact fun _ _ equal _ => noEscape equal
  | short letter byte named =>
      have notCode : letter ≠ 0x75 := by
        intro equal
        rw [equal] at named
        cases named
      simp only [List.cons_append, List.nil_append]
      rw [readLiteral]
      · simp [named]
      · exact fun _ _ _ _ _ equal _ => notCode equal
  | code a b c d w x y z first second third fourth =>
      simp only [List.cons_append, List.nil_append]
      rw [readLiteral]
      simp [first, second, third, fourth]

theorem read_spelt (literal : Literal) (bytes : List UInt8) (spelt : SpellsAll literal bytes) (found : Literal)
    (rest : List UInt8) :
    readLiteral found (bytes ++ 0x22 :: rest) = some (found.reverse ++ literal, rest) := by
  induction spelt generalizing found with
  | nil => rw [List.nil_append, readLiteral, List.append_nil]
  | cons one _ ih =>
      rw [List.append_assoc, read_glyph _ _ one, ih, List.reverse_cons, List.append_assoc]
      rfl

-- The literal stands for these bytes, whatever literal follows.
def Denotes (literal : Literal) (bytes : List UInt8) : Prop :=
  ∀ found rest, Literal.bytes found (literal ++ rest) = Literal.bytes (bytes.reverse ++ found) rest

theorem denotes_append (a b : Literal) (first second : List UInt8) (one : Denotes a first) (other : Denotes b second) :
    Denotes (a ++ b) (first ++ second) := by
  intro found rest
  rw [List.append_assoc, one, other, List.reverse_append, List.append_assoc]

theorem denotes_bytes (bytes : List UInt8) : Denotes (bytes.map .byte) bytes := by
  induction bytes with
  | nil => exact fun _ _ => rfl
  | cons byte rest ih => exact denotes_append [.byte byte] _ [byte] rest (fun _ _ => rfl) ih

-- A code unit that is no half of a surrogate pair stands for itself, whatever follows it.
theorem denotes_unit (code : Nat) (whole : code < 0xD800 ∨ 0xDFFF < code) :
    Denotes [.unit code] (String.utf8EncodeChar (Char.ofNat code)) := by
  have single : Literal.isLeading code = false ∧ Literal.isTrailing code = false := by
    simp [Literal.isLeading, Literal.isTrailing]
    omega
  intro found rest
  match rest with
  | [] => simp [Literal.bytes, single]
  | .byte _ :: _ => simp [Literal.bytes, single]
  | .unit _ :: _ => simp [Literal.bytes, single]

def leadingOf (c : Char) : Nat := 0xD800 + (c.toNat - 0x10000) / 0x400

def trailingOf (c : Char) : Nat := 0xDC00 + (c.toNat - 0x10000) % 0x400

theorem scalar_of_halves (c : Char) (large : 0x10000 ≤ c.toNat) :
    Literal.scalarOfPair (leadingOf c) (trailingOf c) = c := by
  have code : 0x10000 + (leadingOf c - 0xD800) * 0x400 + (trailingOf c - 0xDC00) = c.toNat := by
    simp only [leadingOf, trailingOf]
    omega
  rw [Literal.scalarOfPair, code, Char.ofNat_toNat]

theorem denotes_pair (c : Char) (large : 0x10000 ≤ c.toNat) :
    Denotes [.unit (leadingOf c), .unit (trailingOf c)] (String.utf8EncodeChar c) := by
  have scalar : c.toNat < 0xD800 ∨ 0xDFFF < c.toNat ∧ c.toNat < 0x110000 := c.valid
  have leading : Literal.isLeading (leadingOf c) = true := by
    simp only [Literal.isLeading, Bool.and_eq_true, decide_eq_true_eq]
    unfold leadingOf
    omega
  have trailing : Literal.isTrailing (trailingOf c) = true := by
    simp only [Literal.isTrailing, Bool.and_eq_true, decide_eq_true_eq]
    unfold trailingOf
    omega
  intro found rest
  simp [Literal.bytes, leading, trailing, scalar_of_halves c large]

-- The literals that stand for a text. A character is given by its bytes, plainly or by short escapes, by its code, or by
-- the two halves of its surrogate pair.
inductive StandsFor : Literal → List Char → Prop where
  | nil : StandsFor [] []
  | bytes (c : Char) {literal : Literal} {text : List Char} (others : StandsFor literal text) :
      StandsFor ((String.utf8EncodeChar c).map .byte ++ literal) (c :: text)
  | code (c : Char) {literal : Literal} {text : List Char} (small : c.toNat < 0x10000) (others : StandsFor literal text) :
      StandsFor (.unit c.toNat :: literal) (c :: text)
  | pair (c : Char) {literal : Literal} {text : List Char} (large : 0x10000 ≤ c.toNat) (others : StandsFor literal text) :
      StandsFor (.unit (leadingOf c) :: .unit (trailingOf c) :: literal) (c :: text)

theorem stands_for_denotes (literal : Literal) (text : List Char) (stands : StandsFor literal text) :
    Denotes literal (text.flatMap String.utf8EncodeChar) := by
  induction stands with
  | nil => exact fun _ _ => rfl
  | bytes c _ ih => exact denotes_append _ _ _ _ (denotes_bytes _) ih
  | code c small _ ih =>
      have scalar : c.toNat < 0xD800 ∨ 0xDFFF < c.toNat ∧ c.toNat < 0x110000 := c.valid
      have one := denotes_unit c.toNat (scalar.imp_right And.left)
      rw [Char.ofNat_toNat] at one
      exact denotes_append _ _ _ _ one ih
  | pair c large _ ih => exact denotes_append _ _ _ _ (denotes_pair c large) ih

theorem stands_append (first second : Literal) (text more : List Char) (one : StandsFor first text)
    (other : StandsFor second more) : StandsFor (first ++ second) (text ++ more) := by
  induction one with
  | nil => exact other
  | bytes c _ ih => exact List.append_assoc .. ▸ .bytes c ih
  | code c small _ ih => exact .code c small ih
  | pair c large _ ih => exact .pair c large ih

theorem stands_plain (text : List Char) : StandsFor ((text.flatMap String.utf8EncodeChar).map .byte) text := by
  induction text with
  | nil => exact .nil
  | cons c rest ih =>
      rw [List.flatMap_cons, List.map_append]
      exact .bytes c ih

theorem text_of_stands (literal : Literal) (text : String) (stands : StandsFor literal text.toList) :
    literal.text? = some text := by
  have bytes := stands_for_denotes literal text.toList stands [] []
  rw [List.append_nil, List.append_nil] at bytes
  have decoded : Utf8.decode? (text.toList.flatMap String.utf8EncodeChar) = some text := Utf8.decode_encode text
  simp [Literal.text?, bytes, Literal.bytes, decoded]

theorem spells_bytes (bytes : List UInt8)
    (plain : ∀ byte ∈ bytes, ¬ byte < 0x20 ∧ byte ≠ 0x22 ∧ byte ≠ 0x5C) : SpellsAll (bytes.map .byte) bytes := by
  induction bytes with
  | nil => exact .nil
  | cons byte rest ih =>
      have first := plain byte List.mem_cons_self
      exact .cons (.plain byte first.1 first.2.1 first.2.2) (ih fun other inside => plain other (.tail _ inside))

theorem hex_digit_read : ∀ n < 16, String.utf8EncodeChar (Text.hexDigit n) = [UInt8.ofNat (Text.hexDigit n).toNat] ∧
    hexValue? (UInt8.ofNat (Text.hexDigit n).toNat) = some n := by
  decide

theorem plain_bytes (c : Char) (shown : ¬ c.toNat < 0x20) (noQuote : c ≠ '"') (noEscape : c ≠ '\\') :
    ∀ byte ∈ String.utf8EncodeChar c, ¬ byte < 0x20 ∧ byte ≠ 0x22 ∧ byte ≠ 0x5C := by
  intro byte inside
  have differs : ∀ other : UInt8, byte.toNat ≠ other.toNat → byte ≠ other := fun other apart equal => apart (equal ▸ rfl)
  by_cases high : 0x7F < c.toNat
  · have large := Utf8.high_bytes c high byte inside
    exact ⟨fun below => absurd (UInt8.lt_iff_toNat_lt.mp below) (by simp; omega), differs _ (by simp; omega),
      differs _ (by simp; omega)⟩
  · rw [Utf8.bytes_of_char, if_pos (by omega), List.mem_singleton] at inside
    have value : byte.toNat = c.toNat := inside ▸ Nat.mod_eq_of_lt (by omega)
    have quote : c.toNat ≠ 0x22 := fun equal => noQuote (Char.toNat_inj.mp equal)
    have escape : c.toNat ≠ 0x5C := fun equal => noEscape (Char.toNat_inj.mp equal)
    exact ⟨fun below => absurd (UInt8.lt_iff_toNat_lt.mp below) (by simp; omega), differs _ (by simp; omega),
      differs _ (by simp; omega)⟩

-- What the printer writes for one character. Short escapes come first, as in the printer.
theorem escape_spells (c : Char) : ∃ literal,
    SpellsAll literal ((escapeChar c).flatMap String.utf8EncodeChar) ∧ StandsFor literal [c] := by
  have short : ∀ letter byte, shortEscape? letter = some byte →
      SpellsAll [.byte byte] [0x5C, letter] := fun letter byte named => .cons (.short letter byte named) .nil
  unfold escapeChar
  split
  next equal => exact ⟨_, short 0x22 0x22 rfl, equal ▸ stands_plain ['"']⟩
  split
  next equal => exact ⟨_, short 0x5C 0x5C rfl, equal ▸ stands_plain ['\\']⟩
  split
  next equal => exact ⟨_, short 0x62 0x08 rfl, equal ▸ stands_plain ['\x08']⟩
  split
  next equal => exact ⟨_, short 0x66 0x0C rfl, equal ▸ stands_plain ['\x0c']⟩
  split
  next equal => exact ⟨_, short 0x6E 0x0A rfl, equal ▸ stands_plain ['\n']⟩
  split
  next equal => exact ⟨_, short 0x72 0x0D rfl, equal ▸ stands_plain ['\r']⟩
  split
  next equal => exact ⟨_, short 0x74 0x09 rfl, equal ▸ stands_plain ['\t']⟩
  split
  next control =>
    obtain ⟨high, highRead⟩ := hex_digit_read (c.toNat / 16) (by omega)
    obtain ⟨low, lowRead⟩ := hex_digit_read (c.toNat % 16) (by omega)
    have value : ((0 * 16 + 0) * 16 + c.toNat / 16) * 16 + c.toNat % 16 = c.toNat := by omega
    have code := Spells.code 0x30 0x30 _ _ 0 0 _ _ rfl rfl highRead lowRead
    rw [value] at code
    refine ⟨[.unit c.toNat], ?_, .code c (by omega) .nil⟩
    simp only [List.flatMap_cons, List.flatMap_nil, high, low]
    have spelt : SpellsAll [.unit c.toNat] (_ ++ []) := .cons code .nil
    exact spelt
  next quote escape _ _ _ _ _ control =>
    refine ⟨_, ?_, stands_plain [c]⟩
    simp only [List.flatMap_cons, List.flatMap_nil, List.append_nil]
    exact spells_bytes _ (plain_bytes c control quote escape)

theorem escapes_spell (text : List Char) : ∃ literal,
    SpellsAll literal ((text.flatMap escapeChar).flatMap String.utf8EncodeChar) ∧ StandsFor literal text := by
  induction text with
  | nil => exact ⟨[], .nil, .nil⟩
  | cons c rest ih =>
      obtain ⟨first, spelt, stands⟩ := escape_spells c
      obtain ⟨more, speltMore, standsMore⟩ := ih
      refine ⟨first ++ more, ?_, stands_append _ _ _ _ stands standsMore⟩
      rw [List.flatMap_cons, List.flatMap_append]
      exact spells_all_append spelt speltMore

theorem quote_spells (text : String) : ∃ literal spelling,
    (quote text).flatMap String.utf8EncodeChar = 0x22 :: (spelling ++ [0x22]) ∧ SpellsAll literal spelling ∧
      StandsFor literal text.toList := by
  obtain ⟨literal, spelt, stands⟩ := escapes_spell text.toList
  refine ⟨literal, _, ?_, spelt, stands⟩
  rw [quote, List.cons_append, List.flatMap_cons, List.flatMap_append]
  rfl

end ServiceHost.Json
