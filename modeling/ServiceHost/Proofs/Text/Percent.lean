import ServiceHost.Proofs.Text.Utf8
import ServiceHost.Text.Percent

set_option autoImplicit false

namespace ServiceHost.Percent

theorem upper_digit_range : ∀ n < 16, 48 ≤ (upperHexDigit n).toNat ∧ (upperHexDigit n).toNat ≤ 70 := by
  decide

theorem signed_pair_digits : ∀ high < 16, ∀ low < 16,
    signedPairValue (upperHexDigit high) (upperHexDigit low) = some (UInt8.ofNat (high * 16 + low)) := by
  decide +kernel

theorem byte_halves (byte : UInt8) : byte.toNat / 16 < 16 ∧ byte.toNat % 16 < 16 ∧
    UInt8.ofNat (byte.toNat / 16 * 16 + byte.toNat % 16) = byte := by
  have small : byte.toNat < 256 := byte.toNat_lt_size
  refine ⟨by omega, by omega, ?_⟩
  rw [Nat.div_add_mod', UInt8.ofNat_toNat]

-- The digits of an escape, read as a number that might have had a sign, are the byte it was written for.
theorem signed_pair_read (byte : UInt8) :
    signedPairValue (upperHexDigit (byte.toNat / 16)) (upperHexDigit (byte.toNat % 16)) = some byte := by
  obtain ⟨high, low, whole⟩ := byte_halves byte
  rw [signed_pair_digits _ high _ low, whole]

theorem escape_bytes (byte : UInt8) : (escape byte).flatMap String.utf8EncodeChar =
    [37, UInt8.ofNat (upperHexDigit (byte.toNat / 16)).toNat, UInt8.ofNat (upperHexDigit (byte.toNat % 16)).toNat] := by
  obtain ⟨high, low, -⟩ := byte_halves byte
  have first := upper_digit_range _ high
  have second := upper_digit_range _ low
  rw [escape, List.flatMap_cons, List.flatMap_cons, List.flatMap_singleton,
    (Utf8.ascii_byte (upperHexDigit (byte.toNat / 16)) (by omega)).1,
    (Utf8.ascii_byte (upperHexDigit (byte.toNat % 16)) (by omega)).1]
  rfl

section

variable (pair : Char → Char → Option UInt8)

theorem decode_plain (byte : UInt8) (rest : List UInt8) (noSign : byte ≠ 37) :
    decode pair (byte :: rest) = byte :: decode pair rest := by
  rw [decode]
  rintro _ _ _ rfl
  exact absurd rfl noSign

theorem decode_escape (byte : UInt8) (rest : List UInt8)
    (reads : pair (upperHexDigit (byte.toNat / 16)) (upperHexDigit (byte.toNat % 16)) = some byte) :
    decode pair ((escape byte).flatMap String.utf8EncodeChar ++ rest) = byte :: decode pair rest := by
  obtain ⟨high, low, -⟩ := byte_halves byte
  have first := upper_digit_range _ high
  have second := upper_digit_range _ low
  rw [escape_bytes]
  simp only [List.cons_append, List.nil_append, decode]
  rw [(Utf8.ascii_byte _ (by omega)).2, (Utf8.ascii_byte _ (by omega)).2, Char.ofNat_toNat, Char.ofNat_toNat, reads]

variable (plain : UInt8 → Bool)

theorem decode_encode (escaped : plain 37 = false) (ascii : ∀ byte, plain byte = true → byte.toNat < 128)
    (reads : ∀ byte : UInt8, pair (upperHexDigit (byte.toNat / 16)) (upperHexDigit (byte.toNat % 16)) = some byte)
    (bytes : List UInt8) : decode pair ((encode plain bytes).flatMap String.utf8EncodeChar) = bytes := by
  induction bytes with
  | nil => rfl
  | cons byte rest ih =>
      rw [encode] at ih ⊢
      rw [List.flatMap_cons, List.flatMap_append]
      by_cases stands : plain byte = true
      · have noSign : byte ≠ 37 := by
          rintro rfl
          rw [escaped] at stands
          cases stands
        rw [if_pos stands, List.flatMap_singleton, Utf8.char_of_ascii byte (ascii byte stands), List.singleton_append,
          decode_plain pair byte _ noSign, ih]
      · rw [if_neg stands, decode_escape pair byte _ (reads byte), ih]

theorem encode_bytes (ascii : ∀ byte, plain byte = true → byte.toNat < 128) (bytes : List UInt8) (written : UInt8)
    (inside : written ∈ (encode plain bytes).flatMap String.utf8EncodeChar) :
    plain written = true ∨ written = 37 ∨ 48 ≤ written.toNat ∧ written.toNat ≤ 70 := by
  obtain ⟨c, among, spelt⟩ := List.mem_flatMap.mp inside
  obtain ⟨byte, -, piece⟩ := List.mem_flatMap.mp among
  split at piece
  next stands =>
    rw [List.mem_singleton.mp piece, Utf8.char_of_ascii byte (ascii byte stands), List.mem_singleton] at spelt
    exact .inl (spelt ▸ stands)
  next =>
    obtain ⟨high, low, -⟩ := byte_halves byte
    have digit (n : Nat) (small : n < 16) : 48 ≤ (UInt8.ofNat (upperHexDigit n).toNat).toNat ∧
        (UInt8.ofNat (upperHexDigit n).toNat).toNat ≤ 70 := by
      have range := upper_digit_range n small
      rw [(Utf8.ascii_byte _ (by omega)).2]
      exact range
    have listed := List.mem_flatMap.mpr ⟨c, piece, spelt⟩
    rw [escape_bytes] at listed
    simp only [List.mem_cons, List.not_mem_nil, or_false] at listed
    rcases listed with rfl | rfl | rfl
    · exact .inr (.inl rfl)
    · exact .inr (.inr (digit _ high))
    · exact .inr (.inr (digit _ low))

end

end ServiceHost.Percent
