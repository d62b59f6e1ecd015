import Mathlib.Data.List.Basic
import ServiceHost.Proofs.Text.Utf8
import ServiceHost.Table

set_option autoImplicit false

namespace ServiceHost.Utf8

-- Byte sequences that differ in some byte before either ends, where the first has the smaller one.
inductive Below : List UInt8 → List UInt8 → Prop where
  | part (small large : UInt8) (first second : List UInt8) (less : small < large) : Below (small :: first) (large :: second)
  | share (byte : UInt8) (first second : List UInt8) (below : Below first second) : Below (byte :: first) (byte :: second)

section

variable {first second : List UInt8} (below : Below first second)

include below

theorem below_append (more others : List UInt8) : Below (first ++ more) (second ++ others) := by
  induction below with
  | part small large first second less => exact .part small large _ _ less
  | share byte first second _ ih => exact .share byte _ _ ih

theorem below_less : first < second := by
  induction below with
  | part small large first second less => exact List.cons_lt_cons_iff.mpr (.inl less)
  | share byte first second _ ih => exact List.cons_lt_cons_iff.mpr (.inr ⟨rfl, ih⟩)

theorem below_apart : ¬ first <+: second ∧ ¬ second <+: first := by
  induction below with
  | part small large first second less =>
      have different : small ≠ large := UInt8.ne_of_lt less
      exact ⟨fun within => different (List.cons_prefix_cons.mp within).1,
        fun within => different (List.cons_prefix_cons.mp within).1.symm⟩
  | share byte first second _ ih =>
      exact ⟨fun within => ih.1 (List.cons_prefix_cons.mp within).2, fun within => ih.2 (List.cons_prefix_cons.mp within).2⟩

end

theorem byte_less (small large : Nat) (less : small < large) (byte : large < 256) : UInt8.ofNat small < UInt8.ofNat large := by
  have one : (UInt8.ofNat small).toNat = small := Nat.mod_eq_of_lt (Nat.lt_trans less byte)
  have two : (UInt8.ofNat large).toNat = large := Nat.mod_eq_of_lt byte
  rwa [UInt8.lt_iff_toNat_lt, one, two]

theorem below_digit (small large mark : Nat) (first second : List UInt8) (byte : large + mark < 256)
    (order : small < large ∨ small = large ∧ Below first second) :
    Below (UInt8.ofNat (small + mark) :: first) (UInt8.ofNat (large + mark) :: second) := by
  rcases order with less | ⟨rfl, below⟩
  · exact .part _ _ _ _ (byte_less _ _ (Nat.add_lt_add_right less mark) byte)
  · exact .share _ _ _ below

theorem below_last (small large mark : Nat) (byte : large + mark < 256) (less : small < large) :
    Below [UInt8.ofNat (small + mark)] [UInt8.ofNat (large + mark)] :=
  below_digit small large mark [] [] byte (.inl less)

-- An encoding that is shorter begins with a smaller byte. Of two that are equally long the digits decide, the first of them
-- that differ.
theorem char_below (c d : Char) (less : c.toNat < d.toNat) : Below (String.utf8EncodeChar c) (String.utf8EncodeChar d) := by
  have bound : d.toNat < 0x110000 := by
    rcases d.valid with low | high
    · exact Nat.lt_trans low (by decide)
    · exact high.2
  rw [bytes_of_char, bytes_of_char]
  generalize c.toNat = v at less
  generalize d.toNat = w at less bound
  have shorter (small large : Nat) (first second : List UInt8) (smaller : small < large) (byte : large < 256) :
      Below (UInt8.ofNat small :: first) (UInt8.ofNat large :: second) := .part _ _ _ _ (byte_less small large smaller byte)
  by_cases one : v ≤ 0x7F
  · rw [if_pos one]
    split
    · exact shorter _ _ _ _ less (by omega)
    split
    · exact shorter _ _ _ _ (by omega) (by omega)
    split <;> exact shorter _ _ _ _ (by omega) (by omega)
  rw [if_neg one, if_neg (by omega : ¬ w ≤ 0x7F)]
  by_cases two : v ≤ 0x7FF
  · rw [if_pos two]
    split
    · have order : v / 64 % 32 < w / 64 % 32 ∨ v / 64 % 32 = w / 64 % 32 ∧ v % 64 < w % 64 := by omega
      exact below_digit _ _ _ _ _ (by omega) (order.imp_right (.imp_right (below_last _ _ _ (by omega))))
    split <;> exact shorter _ _ _ _ (by omega) (by omega)
  rw [if_neg two, if_neg (by omega : ¬ w ≤ 0x7FF)]
  by_cases three : v ≤ 0xFFFF
  · rw [if_pos three]
    split
    · have order : v / 4096 % 16 < w / 4096 % 16 ∨ v / 4096 % 16 = w / 4096 % 16 ∧
          (v / 64 % 64 < w / 64 % 64 ∨ v / 64 % 64 = w / 64 % 64 ∧ v % 64 < w % 64) := by omega
      exact below_digit _ _ _ _ _ (by omega) (order.imp_right (.imp_right fun later => below_digit _ _ _ _ _ (by omega)
        (later.imp_right (.imp_right (below_last _ _ _ (by omega))))))
    · exact shorter _ _ _ _ (by omega) (by omega)
  rw [if_neg three, if_neg (by omega : ¬ w ≤ 0xFFFF)]
  have order : v / 262144 % 8 < w / 262144 % 8 ∨ v / 262144 % 8 = w / 262144 % 8 ∧
      (v / 4096 % 64 < w / 4096 % 64 ∨ v / 4096 % 64 = w / 4096 % 64 ∧
        (v / 64 % 64 < w / 64 % 64 ∨ v / 64 % 64 = w / 64 % 64 ∧ v % 64 < w % 64)) := by
    have digits (n : Nat) : n / 4096 = n / 64 / 64 ∧ n / 262144 = n / 64 / 64 / 64 := by omega
    rw [(digits v).1, (digits w).1, (digits v).2, (digits w).2]
    omega
  exact below_digit _ _ _ _ _ (by omega) (order.imp_right (.imp_right fun later => below_digit _ _ _ _ _ (by omega)
    (later.imp_right (.imp_right fun later => below_digit _ _ _ _ _ (by omega)
      (later.imp_right (.imp_right (below_last _ _ _ (by omega))))))))

theorem chars_apart (c d : Char) (different : c ≠ d) :
    Below (String.utf8EncodeChar c) (String.utf8EncodeChar d) ∨ Below (String.utf8EncodeChar d) (String.utf8EncodeChar c) := by
  rcases Nat.lt_or_gt_of_ne fun same => different (Char.toNat_inj.mp same) with less | greater
  · exact .inl (char_below c d less)
  · exact .inr (char_below d c greater)

theorem char_bytes (c : Char) (rest : List UInt8) : ∃ byte more, String.utf8EncodeChar c ++ rest = byte :: more := by
  obtain ⟨byte, more, same⟩ := List.exists_cons_of_ne_nil (String.utf8EncodeChar_ne_nil (c := c))
  exact ⟨byte, more ++ rest, by rw [same, List.cons_append]⟩

theorem chars_less (text more : List Char) (less : text < more) :
    text.flatMap String.utf8EncodeChar < more.flatMap String.utf8EncodeChar := by
  induction text generalizing more with
  | nil =>
      cases more with
      | nil => exact absurd less (List.not_lt_nil _)
      | cons d more =>
          obtain ⟨byte, rest, spelt⟩ := char_bytes d (more.flatMap String.utf8EncodeChar)
          rw [List.flatMap_nil, List.flatMap_cons, spelt]
          exact List.nil_lt_cons byte rest
  | cons c text ih =>
      cases more with
      | nil => exact absurd less (List.not_lt_nil _)
      | cons d more =>
          rw [List.flatMap_cons, List.flatMap_cons]
          rcases List.cons_lt_cons_iff.mp less with smaller | ⟨rfl, later⟩
          · exact below_less (below_append (char_below c d smaller) _ _)
          · exact List.append_left_lt (ih more later)

theorem encode_less_iff (a b : String) : encode a < encode b ↔ a < b := by
  refine ⟨fun less => ?_, chars_less a.toList b.toList⟩
  by_contra other
  rcases Decidable.em (a = b) with rfl | different
  · exact List.lt_irrefl _ less
  · exact List.lt_asymm less (chars_less _ _ (Table.lt_of_not_lt_of_ne other different))

theorem chars_begin (text more : List Char)
    (begins : text.flatMap String.utf8EncodeChar <+: more.flatMap String.utf8EncodeChar) : text <+: more := by
  induction text generalizing more with
  | nil => exact List.nil_prefix
  | cons c text ih =>
      cases more with
      | nil =>
          obtain ⟨byte, rest, spelt⟩ := char_bytes c (text.flatMap String.utf8EncodeChar)
          rw [List.flatMap_nil, List.flatMap_cons, spelt] at begins
          exact absurd (List.prefix_nil.mp begins) (List.cons_ne_nil byte rest)
      | cons d more =>
          rw [List.flatMap_cons, List.flatMap_cons] at begins
          by_cases same : c = d
          · subst same
            exact List.cons_prefix_cons.mpr ⟨rfl, ih more ((List.prefix_append_right_inj _).mp begins)⟩
          · rcases chars_apart c d same with below | below
            · exact absurd begins (below_apart (below_append below _ _)).1
            · exact absurd begins (below_apart (below_append below _ _)).2

theorem encode_prefix_iff (a b : String) : encode a <+: encode b ↔ a.toList <+: b.toList := by
  refine ⟨chars_begin a.toList b.toList, ?_⟩
  rintro ⟨rest, same⟩
  exact ⟨rest.flatMap String.utf8EncodeChar, by rw [encode, encode, ← same, List.flatMap_append]⟩

end ServiceHost.Utf8
