import ServiceHost.Text.Utf8

set_option autoImplicit false

namespace ServiceHost.Utf8

-- The first byte of two, three and four. Three and four bytes never spell what fewer bytes can, and
-- three never spell a surrogate, so the first of them narrows the range of the second.
theorem lead_two : ∀ n < 32, 2 ≤ n → lead (UInt8.ofNat (n + 0xC0)) = some (.inr (.within 1 0x80 0xBF n)) := by
  decide

theorem lead_three : ∀ n < 16, lead (UInt8.ofNat (n + 0xE0)) =
    some (.inr (.within 2 (if n = 0 then 0xA0 else 0x80) (if n = 13 then 0x9F else 0xBF) n)) := by
  decide

theorem lead_four : ∀ n < 5, lead (UInt8.ofNat (n + 0xF0)) =
    some (.inr (.within 3 (if n = 0 then 0x90 else 0x80) (if n = 4 then 0x8F else 0xBF) n)) := by
  decide

theorem lead_one (n : Nat) (small : n ≤ 0x7F) : lead (UInt8.ofNat n) = some (.inl (Char.ofNat n)) := by
  have value : (UInt8.ofNat n).toNat = n := Nat.mod_eq_of_lt (by omega)
  have below : UInt8.ofNat n < 0x80 := UInt8.lt_iff_toNat_lt.mpr (by rw [value]; exact Nat.lt_succ_of_le small)
  simp only [lead, below, if_true, value]

-- A byte that follows, in the range that the bytes before it leave.
theorem step_within (remaining value n : Nat) (low high : UInt8) (small : n < 64)
    (above : low.toNat ≤ n + 0x80) (below : n + 0x80 ≤ high.toNat) :
    step (.within remaining low high value) (UInt8.ofNat (n + 0x80)) =
      if remaining ≤ 1 then (.idle, [.scalar (Char.ofNat (value * 64 + n))])
      else (.within (remaining - 1) 0x80 0xBF (value * 64 + n), []) := by
  have byte : (UInt8.ofNat (n + 0x80)).toNat = n + 0x80 := Nat.mod_eq_of_lt (by omega)
  have inside : low ≤ UInt8.ofNat (n + 0x80) ∧ UInt8.ofNat (n + 0x80) ≤ high := by
    simp only [UInt8.le_iff_toNat_le, byte]
    exact ⟨above, below⟩
  simp only [step, if_pos inside, byte, Nat.add_sub_cancel]

theorem run_idle (found : List Piece) (byte : UInt8) (rest : List UInt8) (scan : Scan)
    (first : lead byte = some (.inr scan)) : run .idle found (byte :: rest) = run scan found rest := by
  simp only [run, step, start, first, List.reverse_nil, List.nil_append]

theorem run_more (found : List Piece) (rest : List UInt8) (remaining value n : Nat) (low high : UInt8)
    (small : n < 64) (above : low.toNat ≤ n + 0x80) (below : n + 0x80 ≤ high.toNat) :
    run (.within (remaining + 2) low high value) found (UInt8.ofNat (n + 0x80) :: rest) =
      run (.within (remaining + 1) 0x80 0xBF (value * 64 + n)) found rest := by
  have long : ¬ remaining + 2 ≤ 1 := by omega
  rw [run, step_within _ _ _ _ _ small above below, if_neg long]
  rfl

theorem run_last (found : List Piece) (rest : List UInt8) (value n : Nat) (low high : UInt8)
    (small : n < 64) (above : low.toNat ≤ n + 0x80) (below : n + 0x80 ≤ high.toNat) :
    run (.within 1 low high value) found (UInt8.ofNat (n + 0x80) :: rest) =
      run .idle (.scalar (Char.ofNat (value * 64 + n)) :: found) rest := by
  rw [run, step_within _ _ _ _ _ small above below, if_pos (Nat.le_refl 1)]
  rfl

theorem bytes_of_char (c : Char) : String.utf8EncodeChar c =
    if c.toNat ≤ 0x7F then [UInt8.ofNat c.toNat]
    else if c.toNat ≤ 0x7FF then
      [UInt8.ofNat (c.toNat / 64 % 32 + 0xC0), UInt8.ofNat (c.toNat % 64 + 0x80)]
    else if c.toNat ≤ 0xFFFF then
      [UInt8.ofNat (c.toNat / 4096 % 16 + 0xE0), UInt8.ofNat (c.toNat / 64 % 64 + 0x80),
        UInt8.ofNat (c.toNat % 64 + 0x80)]
    else
      [UInt8.ofNat (c.toNat / 262144 % 8 + 0xF0), UInt8.ofNat (c.toNat / 4096 % 64 + 0x80),
        UInt8.ofNat (c.toNat / 64 % 64 + 0x80), UInt8.ofNat (c.toNat % 64 + 0x80)] := rfl

theorem ascii_byte (c : Char) (ascii : c.toNat < 128) :
    String.utf8EncodeChar c = [UInt8.ofNat c.toNat] ∧ (UInt8.ofNat c.toNat).toNat = c.toNat := by
  refine ⟨?_, Nat.mod_eq_of_lt (by omega)⟩
  rw [bytes_of_char, if_pos (by omega)]

theorem char_of_ascii (byte : UInt8) (ascii : byte.toNat < 128) :
    String.utf8EncodeChar (Char.ofNat byte.toNat) = [byte] := by
  have code : (Char.ofNat byte.toNat).toNat = byte.toNat := by
    rw [Char.ofNat, dif_pos (Or.inl (by omega) : byte.toNat.isValidChar)]
    rfl
  rw [(ascii_byte _ (by omega)).1, code, UInt8.ofNat_toNat]

theorem high_bytes (c : Char) (high : 0x7F < c.toNat) (byte : UInt8) (inside : byte ∈ String.utf8EncodeChar c) :
    0x80 ≤ byte.toNat := by
  have shifted : ∀ n k, n + k < 256 → 0x80 ≤ k → 0x80 ≤ (UInt8.ofNat (n + k)).toNat := by
    intro n k small large
    have value : (UInt8.ofNat (n + k)).toNat = n + k := Nat.mod_eq_of_lt small
    omega
  rw [bytes_of_char, if_neg (by omega)] at inside
  split at inside
  next =>
    simp only [List.mem_cons, List.not_mem_nil, or_false] at inside
    rcases inside with rfl | rfl <;> exact shifted _ _ (by omega) (by omega)
  next =>
    split at inside
    next =>
      simp only [List.mem_cons, List.not_mem_nil, or_false] at inside
      rcases inside with rfl | rfl | rfl <;> exact shifted _ _ (by omega) (by omega)
    next =>
      simp only [List.mem_cons, List.not_mem_nil, or_false] at inside
      rcases inside with rfl | rfl | rfl | rfl <;> exact shifted _ _ (by omega) (by omega)

-- The cases are the lengths of the encoding.
theorem run_scalar (c : Char) (found : List Piece) (rest : List UInt8) :
    run .idle found (String.utf8EncodeChar c ++ rest) = run .idle (.scalar c :: found) rest := by
  have scalar : c.toNat < 0xD800 ∨ 0xDFFF < c.toNat ∧ c.toNat < 0x110000 := c.valid
  have same : ∀ n, n = c.toNat → Char.ofNat n = c := fun n equal => equal ▸ Char.ofNat_toNat c
  rw [bytes_of_char]
  generalize c.toNat = v at scalar same
  by_cases one : v ≤ 0x7F
  · rw [if_pos one, List.singleton_append, run, step, start, lead_one v one, same v rfl]
    rfl
  rw [if_neg one]
  by_cases two : v ≤ 0x7FF
  · rw [if_pos two]
    simp only [List.cons_append, List.nil_append]
    rw [run_idle _ _ _ _ (lead_two _ (by omega) (by omega)),
      run_last _ _ _ _ _ _ (by omega) (by simp) (by simp; omega), same _ (by omega)]
  rw [if_neg two]
  by_cases three : v ≤ 0xFFFF
  · -- Fewer bytes would do below 0x800, and a surrogate stands between 0xD800 and 0xDFFF.
    have low : (if v / 4096 % 16 = 0 then 0xA0 else 0x80 : UInt8).toNat ≤ v / 64 % 64 + 0x80 := by
      split
      · exact (by omega : 0xA0 ≤ v / 64 % 64 + 0x80)
      · exact Nat.le_add_left _ _
    have high : v / 64 % 64 + 0x80 ≤ (if v / 4096 % 16 = 13 then 0x9F else 0xBF : UInt8).toNat := by
      split
      · exact (by omega : v / 64 % 64 + 0x80 ≤ 0x9F)
      · exact (by omega : v / 64 % 64 + 0x80 ≤ 0xBF)
    rw [if_pos three]
    simp only [List.cons_append, List.nil_append]
    rw [run_idle _ _ _ _ (lead_three _ (by omega)), run_more _ _ _ _ _ _ _ (by omega) low high,
      run_last _ _ _ _ _ _ (by omega) (by simp) (by simp; omega), same _ (by omega)]
  -- Fewer bytes would do below 0x10000, and nothing stands above 0x10FFFF.
  have low : (if v / 262144 % 8 = 0 then 0x90 else 0x80 : UInt8).toNat ≤ v / 4096 % 64 + 0x80 := by
    split
    · exact (by omega : 0x90 ≤ v / 4096 % 64 + 0x80)
    · exact Nat.le_add_left _ _
  have high : v / 4096 % 64 + 0x80 ≤ (if v / 262144 % 8 = 4 then 0x8F else 0xBF : UInt8).toNat := by
    split
    · exact (by omega : v / 4096 % 64 + 0x80 ≤ 0x8F)
    · exact (by omega : v / 4096 % 64 + 0x80 ≤ 0xBF)
  rw [if_neg three]
  simp only [List.cons_append, List.nil_append]
  rw [run_idle _ _ _ _ (lead_four _ (by omega)), run_more _ _ _ _ _ _ _ (by omega) low high,
    run_more _ _ _ _ _ _ _ (by omega) (by simp) (by simp; omega),
    run_last _ _ _ _ _ _ (by omega) (by simp) (by simp; omega), same _ (by omega)]

theorem run_encoded (text : List Char) (found : List Piece) :
    run .idle found (text.flatMap String.utf8EncodeChar) = found.reverse ++ text.map .scalar := by
  induction text generalizing found with
  | nil => rfl
  | cons c rest ih =>
      rw [List.flatMap_cons, run_scalar, ih, List.reverse_cons, List.append_assoc]
      rfl

theorem scalars_all (text : List Char) : (text.map Piece.scalar).mapM Piece.scalar? = some text := by
  induction text with
  | nil => rfl
  | cons c rest ih => simp [Piece.scalar?, ih]

theorem decode_lossy_encode (text : String) : decodeLossy (encode text) = text := by
  rw [decodeLossy, pieces, encode, run_encoded, List.reverse_nil, List.nil_append, List.map_map]
  exact (congrArg String.ofList (List.map_id _)).trans String.ofList_toList

theorem decode_encode (text : String) : decode? (encode text) = some text := by
  rw [decode?, pieces, encode, run_encoded, List.reverse_nil, List.nil_append, scalars_all]
  exact congrArg some String.ofList_toList

end ServiceHost.Utf8
