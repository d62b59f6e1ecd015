import ServiceHost.Address.Ip
import ServiceHost.Proofs.Text.Decimal

set_option autoImplicit false

namespace ServiceHost.Address

open Decimal

section

variable (radix value count : Nat)

theorem take_number_splits (input : List Char) : ∃ digits, input = digits ++ (takeNumber radix value count input).2.2 ∧
    digits.foldl (extend radix) (some value) = some (takeNumber radix value count input).1 ∧
      (takeNumber radix value count input).2.1 = count + digits.length := by
  induction input generalizing value count with
  | nil => exact ⟨[], rfl, rfl, rfl⟩
  | cons c rest ih =>
      rw [takeNumber]
      cases read : digit? radix c with
      | none => exact ⟨[], rfl, rfl, rfl⟩
      | some d =>
          obtain ⟨digits, split, spelt, length⟩ := ih (value * radix + d) (count + 1)
          refine ⟨c :: digits, congrArg (c :: ·) split, ?_, ?_⟩
          · rw [List.foldl_cons, extend, Option.bind_some, read]
            exact spelt
          · exact length.trans (Nat.succ_add_eq_add_succ count digits.length)

theorem take_number_digits (digits rest : List Char) (result : Nat)
    (spelt : digits.foldl (extend radix) (some value) = some result) (ends : NoDigit radix rest) :
    takeNumber radix value count (digits ++ rest) = (result, count + digits.length, rest) := by
  induction digits generalizing value count with
  | nil =>
      cases spelt
      cases rest with
      | nil => rfl
      | cons c more => simp only [List.nil_append, takeNumber, ends c rfl, List.length_nil, Nat.add_zero]
  | cons c more ih =>
      rw [List.foldl_cons, extend, Option.bind_some] at spelt
      rw [List.cons_append, takeNumber]
      cases read : digit? radix c with
      | none =>
          rw [read, Option.map_none, extend_none] at spelt
          cases spelt
      | some d =>
          rw [read] at spelt
          exact (ih _ _ spelt).trans (by rw [List.length_cons, Nat.succ_add_eq_add_succ])

end

section

variable (radix bound : Nat) (most : Option Nat)

theorem number_splits (value : Nat) (input rest : List Char) (read : number? radix bound most input = some (value, rest)) :
    ∃ digits, input = digits ++ rest ∧ Spells radix digits value ∧ value < bound := by
  obtain ⟨digits, split, spelt, length⟩ := take_number_splits radix 0 0 input
  simp only [number?] at read
  split at read
  · cases read
  next fits =>
    cases read
    simp only [Bool.or_eq_true, decide_eq_true_eq, not_or, Nat.not_le] at fits
    refine ⟨digits, split, ⟨?_, spelt⟩, fits.2⟩
    rintro rfl
    exact fits.1.1 length

theorem number_read (digits rest : List Char) (value : Nat) (spelt : Spells radix digits value) (small : value < bound)
    (short : ∀ length, most = some length → digits.length ≤ length) (ends : NoDigit radix rest) :
    number? radix bound most (digits ++ rest) = some (value, rest) := by
  have taken := take_number_digits radix 0 0 digits rest value spelt.2 ends
  have some_digit : digits.length ≠ 0 := fun none => spelt.1 (List.length_eq_zero_iff.mp none)
  have room : most.any (· < digits.length) = false := by
    cases most with
    | none => rfl
    | some length => simpa using short length rfl
  simp [number?, taken, some_digit, room, small]

theorem number_written (n : Nat) (rest : List Char) (two : 1 < radix) (few : radix ≤ 16) (small : n < bound)
    (short : ∀ length, most = some length → (Nat.toDigits radix n).length ≤ length) (ends : NoDigit radix rest) :
    number? radix bound most (Nat.toDigits radix n ++ rest) = some (n, rest) :=
  number_read radix bound most _ rest n (digits_spell radix n two few) small short ends

theorem number_missing (input : List Char) (ends : NoDigit radix input) : number? radix bound most input = none := by
  have taken := take_number_digits radix 0 0 [] input 0 rfl ends
  rw [List.nil_append] at taken
  simp [number?, taken]

end

theorem v4_missing (input : List Char) (ends : NoDigit 10 input) : Ipv4.read? input = none := by
  simp [Ipv4.read?, Ipv4.octet?, number_missing 10 256 (some 3) input ends]

end ServiceHost.Address
