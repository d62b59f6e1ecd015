import ServiceHost.Proofs.Json.Grammar
import ServiceHost.Proofs.Text.Decimal

set_option autoImplicit false

namespace ServiceHost.Json

theorem digits_value (n : Nat) : digitsValue (Nat.toDigits 10 n) = n := by
  have same : digitsValue (Nat.toDigits 10 n) = Nat.ofDigitChars 10 (Nat.toDigits 10 n) 0 := by
    simp only [digitsValue, Nat.ofDigitChars, Nat.mul_comm]
    rfl
  rw [same, Nat.ofDigitChars_toDigits (by decide) (by decide)]

theorem digit_byte (c : Char) (digit : c.isDigit = true) :
    String.utf8EncodeChar c = [UInt8.ofNat c.toNat] ∧ isDigit (UInt8.ofNat c.toNat) = true ∧
      charOf (UInt8.ofNat c.toNat) = c := by
  have range : 48 ≤ c.toNat ∧ c.toNat ≤ 57 := by
    simpa [Char.isDigit, UInt32.le_iff_toNat_le] using digit
  obtain ⟨bytes, value⟩ := Utf8.ascii_byte c (by omega)
  refine ⟨bytes, ?_, ?_⟩
  · simp only [isDigit, Bool.and_eq_true, decide_eq_true_eq, UInt8.le_iff_toNat_le, value]
    exact range
  · rw [charOf, value, Char.ofNat_toNat]

theorem digit_bytes (text : List Char) (digits : ∀ c ∈ text, c.isDigit = true) :
    (∀ byte ∈ bytesOf text, isDigit byte = true) ∧ (bytesOf text).map charOf = text := by
  induction text with
  | nil => exact ⟨nofun, rfl⟩
  | cons c rest ih =>
      obtain ⟨bytes, digit, read⟩ := digit_byte c (digits c List.mem_cons_self)
      obtain ⟨others, all⟩ := ih fun other inside => digits other (.tail _ inside)
      rw [bytes_of_cons, bytes, List.singleton_append, List.map_cons, read, all]
      exact ⟨List.forall_mem_cons.mpr ⟨digit, others⟩, rfl⟩

theorem nat_chars (n : Nat) : Tree.chars (.ofNat n) = Nat.toDigits 10 n := by
  simp [Tree.ofNat, Tree.chars, Numeral.text, Nat.toString_eq_repr, Nat.toList_repr]

theorem nat_written (n : Nat) : Writes (.number { whole := n }) (bytesOf (Tree.chars (.ofNat n))) := by
  have all : ∀ c ∈ Nat.toDigits 10 n, c.isDigit = true := fun c => Nat.isDigit_of_mem_toDigits (by decide) (by decide)
  obtain ⟨digits, read⟩ := digit_bytes _ all
  rw [nat_chars]
  have some_digit : bytesOf (Nat.toDigits 10 n) ≠ [] := fun none =>
    Nat.toDigits_ne_nil (by rw [← read, none]; rfl : Nat.toDigits 10 n = [])
  have canonical : (bytesOf (Nat.toDigits 10 n)).head? = some 0x30 → (bytesOf (Nat.toDigits 10 n)).length = 1 := by
    intro first
    have zero := Decimal.first_zero n (by rw [← read, List.head?_map, first]; rfl)
    subst zero
    rfl
  have written : WritesUnsigned false _ _ := .parts ⟨some_digit, digits⟩ canonical .none .none
  rw [read, digits_value, List.append_nil, List.append_nil] at written
  exact .number written

end ServiceHost.Json
