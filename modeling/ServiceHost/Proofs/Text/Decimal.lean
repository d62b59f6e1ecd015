import Mathlib.Data.List.Basic
import ServiceHost.Text.Decimal

set_option autoImplicit false

namespace ServiceHost

namespace Decimal

def extend (radix : Nat) (value : Option Nat) (c : Char) : Option Nat :=
  value.bind fun n => (digit? radix c).map (n * radix + ·)

def Spells (radix : Nat) (digits : List Char) (value : Nat) : Prop :=
  digits ≠ [] ∧ digits.foldl (extend radix) (some 0) = some value

-- No digit at the front, so that a number ends before this text.
def NoDigit (radix : Nat) (text : List Char) : Prop := ∀ c, text.head? = some c → digit? radix c = none

theorem no_digit_nil (radix : Nat) : NoDigit radix [] := fun _ => nofun

theorem no_digit_cons (radix : Nat) (c : Char) (text : List Char) (other : digit? radix c = none) :
    NoDigit radix (c :: text) := by
  rintro _ ⟨⟩
  exact other

theorem digit_value_read : ∀ d < 16, digitValue (Nat.digitChar d) = some d := by decide

theorem digit_read (radix d : Nat) (small : d < radix) (few : radix ≤ 16) : digit? radix (Nat.digitChar d) = some d := by
  rw [digit?, digit_value_read d (Nat.lt_of_lt_of_le small few), Option.filter_some, if_pos (decide_eq_true small)]

theorem no_digit_below (radix more : Nat) (c : Char) (le : radix ≤ more) (other : digit? more c = none) :
    digit? radix c = none := by
  cases value : digitValue c with
  | none => rw [digit?, value, Option.filter_none]
  | some d =>
      rw [digit?, value, Option.filter_some] at other ⊢
      have above : ¬ d < more := fun small => by simp [small] at other
      exact if_neg (by simpa using Nat.le_trans le (Nat.not_lt.mp above))

theorem extend_none (radix : Nat) (digits : List Char) : digits.foldl (extend radix) none = none := by
  induction digits with
  | nil => rfl
  | cons c rest ih => exact ih

theorem spelt_digits (radix value result : Nat) (digits : List Char)
    (spelt : digits.foldl (extend radix) (some value) = some result) : ∀ c ∈ digits, (digit? radix c).isSome = true := by
  induction digits generalizing value with
  | nil => exact nofun
  | cons c rest ih =>
      rw [List.foldl_cons, extend, Option.bind_some] at spelt
      cases read : digit? radix c with
      | none =>
          rw [read, Option.map_none, extend_none] at spelt
          cases spelt
      | some d =>
          rw [read] at spelt
          exact List.forall_mem_cons.mpr ⟨by rw [read]; rfl, ih _ spelt⟩

theorem digits_spell (radix n : Nat) (two : 1 < radix) (few : radix ≤ 16) : Spells radix (Nat.toDigits radix n) n := by
  refine ⟨Nat.toDigits_ne_nil, ?_⟩
  induction n using Nat.strongRecOn with
  | ind n ih =>
      rw [Nat.toDigits_eq_if two]
      split
      next small => simp [extend, digit_read radix n small few]
      next large =>
        have less : n / radix < n := Nat.div_lt_self (by omega) two
        rw [List.foldl_append, ih _ less, List.foldl_cons, List.foldl_nil, extend, Option.bind_some,
          digit_read radix _ (Nat.mod_lt n (by omega)) few, Option.map_some, Nat.div_add_mod']

theorem first_zero (n : Nat) (first : (Nat.toDigits 10 n).head? = some '0') : n = 0 := by
  induction n using Nat.strongRecOn with
  | ind n ih =>
      rw [Nat.toDigits_eq_if (by decide)] at first
      split at first
      · rename_i small
        have code := congrArg Char.toNat (Option.some.inj first)
        rw [Nat.toNat_digitChar_of_lt_ten small] at code
        exact Nat.add_left_cancel code
      · rename_i large
        rw [List.head?_append_of_ne_nil _ Nat.toDigits_ne_nil] at first
        have less := ih (n / 10) (by omega) first
        omega

theorem digits_read (radix value : Nat) (digits : List Char) (spelt : Spells radix digits value) :
    digits? radix digits = some value := by
  obtain ⟨some_digit, same⟩ := spelt
  cases digits with
  | nil => exact absurd rfl some_digit
  | cons c rest => exact same

theorem read_spells (radix value : Nat) (digits : List Char) (read : digits? radix digits = some value) :
    Spells radix digits value := by
  cases digits with
  | nil => cases read
  | cons c rest => exact ⟨List.cons_ne_nil c rest, read⟩

theorem unsigned_splits (bound value : Nat) (text : List Char) (read : unsigned? bound 10 text = some value) :
    ∃ sign digits, text = sign ++ digits ∧ (sign = [] ∨ sign = ['+']) ∧ Spells 10 digits value ∧ value < bound := by
  unfold unsigned? at read
  obtain ⟨spelt, small⟩ := Option.filter_eq_some_iff.mp read
  obtain ⟨sign, digits, split, signed, spelt⟩ : ∃ sign digits, text = sign ++ digits ∧ (sign = [] ∨ sign = ['+']) ∧
      digits? 10 digits = some value := by
    split at spelt
    next rest => exact ⟨['+'], rest, rfl, .inr rfl, spelt⟩
    next => exact ⟨[], text, rfl, .inl rfl, spelt⟩
  exact ⟨sign, digits, split, signed, read_spells 10 value digits spelt, of_decide_eq_true small⟩

end Decimal

end ServiceHost
