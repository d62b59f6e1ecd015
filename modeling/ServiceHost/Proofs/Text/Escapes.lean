import Mathlib.Data.List.Basic
import ServiceHost.Proofs.Text.Percent

set_option autoImplicit false

namespace ServiceHost.Percent

variable (pair : Char → Char → Option UInt8)

def escapeAt? (bytes : List UInt8) (place : Nat) : Option UInt8 := do
  let sign ← bytes[place]?
  let high ← bytes[place + 1]?
  let low ← bytes[place + 2]?
  if sign = 37 then pair (Char.ofNat high.toNat) (Char.ofNat low.toNat) else none

-- A place that belongs to an escape which began before it.
def isCovered (bytes : List UInt8) (place : Nat) : Bool :=
  (List.range place).any fun start => decide (place < start + 3) && (escapeAt? pair bytes start).isSome

def yieldAt (bytes : List UInt8) (place : Nat) : List UInt8 :=
  match escapeAt? pair bytes place with
  | some byte => [byte]
  | none => if isCovered pair bytes place then [] else bytes[place]?.toList

def unescaped (bytes : List UInt8) : List UInt8 := (List.range bytes.length).flatMap (yieldAt pair bytes)

def escapeCount (bytes : List UInt8) : Nat :=
  (List.range bytes.length).countP fun place => (escapeAt? pair bytes place).isSome

theorem escape_some_iff (bytes : List UInt8) (place : Nat) (byte : UInt8) :
    escapeAt? pair bytes place = some byte ↔ ∃ high low, bytes[place]? = some 37 ∧ bytes[place + 1]? = some high ∧
      bytes[place + 2]? = some low ∧ pair (Char.ofNat high.toNat) (Char.ofNat low.toNat) = some byte := by
  simp only [escapeAt?, Option.bind_eq_bind, Option.bind_eq_some_iff, ite_eq_iff, reduceCtorEq, and_false, or_false]
  constructor
  · rintro ⟨sign, first, high, second, low, third, rfl, reads⟩
    exact ⟨high, low, first, second, third, reads⟩
  · rintro ⟨high, low, first, second, third, reads⟩
    exact ⟨37, first, high, second, low, third, rfl, reads⟩

-- To know that a text has no escapes it is enough to look at the places that it has.
theorem escape_absent (bytes : List UInt8) (looked : ∀ place < bytes.length, escapeAt? pair bytes place = none) (place : Nat) :
    escapeAt? pair bytes place = none := by
  rcases Nat.lt_or_ge place bytes.length with inside | behind
  · exact looked place inside
  · rw [escapeAt?, List.getElem?_eq_none behind]
    rfl

theorem covered_iff (bytes : List UInt8) (place : Nat) : isCovered pair bytes place = true ↔
    ∃ start, start < place ∧ place < start + 3 ∧ (escapeAt? pair bytes start).isSome = true := by
  simp only [isCovered, List.any_eq_true, List.mem_range, Bool.and_eq_true, decide_eq_true_eq]

def Parted (front rest : List UInt8) : Prop :=
  ∀ start < front.length, (escapeAt? pair (front ++ rest) start).isSome = true → start + 3 ≤ front.length

section

variable (front rest : List UInt8)

theorem escape_behind (place : Nat) :
    escapeAt? pair (front ++ rest) (front.length + place) = escapeAt? pair rest place := by
  simp only [escapeAt?, Nat.add_assoc, List.getElem?_append_right (Nat.le_add_right _ _), Nat.add_sub_cancel_left]

variable (parted : Parted pair front rest)

include parted

theorem covered_behind (place : Nat) :
    isCovered pair (front ++ rest) (front.length + place) = isCovered pair rest place := by
  rw [Bool.eq_iff_iff, covered_iff, covered_iff]
  constructor
  · rintro ⟨start, before, within, begins⟩
    rcases Nat.lt_or_ge start front.length with inside | behind
    · have ends := parted start inside begins
      omega
    · obtain ⟨start, rfl⟩ := Nat.exists_eq_add_of_le behind
      rw [escape_behind] at begins
      exact ⟨start, by omega, by omega, begins⟩
  · rintro ⟨start, before, within, begins⟩
    exact ⟨front.length + start, by omega, by omega, by rwa [escape_behind]⟩

theorem yield_behind (place : Nat) : yieldAt pair (front ++ rest) (front.length + place) = yieldAt pair rest place := by
  rw [yieldAt, yieldAt, escape_behind, covered_behind pair front rest parted, List.getElem?_append_right (Nat.le_add_right _ _),
    Nat.add_sub_cancel_left]

theorem unescaped_append : unescaped pair (front ++ rest) =
    (List.range front.length).flatMap (yieldAt pair (front ++ rest)) ++ unescaped pair rest := by
  rw [unescaped, List.length_append, List.range_add, List.flatMap_append, List.flatMap_map]
  simp only [yield_behind pair front rest parted, unescaped]

end

theorem count_append (front rest : List UInt8) : escapeCount pair (front ++ rest) =
    ((List.range front.length).countP fun place => (escapeAt? pair (front ++ rest) place).isSome) + escapeCount pair rest := by
  rw [escapeCount, List.length_append, List.range_add, List.countP_append, List.countP_map]
  simp only [Function.comp_def, escape_behind, escapeCount]

section

variable (byte : UInt8) (rest : List UInt8) (plain : escapeAt? pair (byte :: rest) 0 = none)

include plain

theorem unescaped_plain : unescaped pair (byte :: rest) = byte :: unescaped pair rest := by
  have parted : Parted pair [byte] rest := by
    intro start inside begins
    obtain rfl : start = 0 := Nat.lt_one_iff.mp inside
    simp [plain] at begins
  have first : yieldAt pair (byte :: rest) 0 = [byte] := by
    rw [yieldAt, plain]
    rfl
  rw [← List.singleton_append, unescaped_append pair [byte] rest parted, List.singleton_append, List.length_singleton,
    List.range_one, List.flatMap_singleton, first, List.singleton_append]

theorem count_plain : escapeCount pair (byte :: rest) = escapeCount pair rest := by
  rw [← List.singleton_append, count_append, List.singleton_append]
  simp [plain]

end

-- The percent sign is no part of a pair.
def Signless : Prop := ∀ other, pair '%' other = none ∧ pair other '%' = none

section

variable {pair} (signless : Signless pair) (high low byte : UInt8) (rest : List UInt8)
  (reads : pair (Char.ofNat high.toNat) (Char.ofNat low.toNat) = some byte)

include signless reads

theorem escape_within : escapeAt? pair (37 :: high :: low :: rest) 0 = some byte ∧
    escapeAt? pair (37 :: high :: low :: rest) 1 = none ∧ escapeAt? pair (37 :: high :: low :: rest) 2 = none := by
  have highSign : high ≠ 37 := by
    rintro rfl
    exact nomatch reads.symm.trans (signless _).1
  have lowSign : low ≠ 37 := by
    rintro rfl
    exact nomatch reads.symm.trans (signless _).2
  refine ⟨by simp [escapeAt?, reads], ?_, ?_⟩ <;> simp [escapeAt?, highSign, lowSign]

theorem unescaped_escape : unescaped pair (37 :: high :: low :: rest) = byte :: unescaped pair rest := by
  obtain ⟨first, second, third⟩ := escape_within signless high low byte rest reads
  have parted : Parted pair [37, high, low] rest := by
    intro start inside begins
    rcases start with - | - | - | start
    · exact Nat.le_refl 3
    · simp [second] at begins
    · simp [third] at begins
    · exact absurd inside (by simp)
  have covered (place : Nat) (above : 0 < place) (below : place < 3) :
      isCovered pair (37 :: high :: low :: rest) place = true :=
    (covered_iff pair _ place).mpr ⟨0, above, below, by rw [first]; rfl⟩
  have whole := unescaped_append pair [37, high, low] rest parted
  simpa [List.range_succ, yieldAt, first, second, third, covered] using whole

theorem count_escape : escapeCount pair (37 :: high :: low :: rest) = escapeCount pair rest + 1 := by
  obtain ⟨first, second, third⟩ := escape_within signless high low byte rest reads
  have whole := count_append pair [37, high, low] rest
  simpa [List.range_succ, first, second, third, Nat.add_comm] using whole

end

theorem plain_start (byte : UInt8) (rest : List UInt8)
    (other : ∀ high low tail, byte = 37 → rest = high :: low :: tail → False) : escapeAt? pair (byte :: rest) 0 = none := by
  refine Option.eq_none_iff_forall_ne_some.mpr fun value begins => ?_
  obtain ⟨high, low, first, second, third, -⟩ := (escape_some_iff pair _ 0 value).mp begins
  rcases rest with - | ⟨one, - | ⟨two, tail⟩⟩
  · exact nomatch second
  · exact nomatch third
  · exact other one two tail (Option.some.inj first) rfl

-- What is said of a reader of escapes: it finds every one of them, and each makes the text two bytes shorter.
def Replaces (bytes : List UInt8) : Prop :=
  decode pair bytes = unescaped pair bytes ∧ (decode pair bytes).length + 2 * escapeCount pair bytes = bytes.length

theorem replaces_plain (byte : UInt8) (rest : List UInt8) (plain : escapeAt? pair (byte :: rest) 0 = none)
    (keeps : decode pair (byte :: rest) = byte :: decode pair rest) (replaces : Replaces pair rest) :
    Replaces pair (byte :: rest) := by
  obtain ⟨same, length⟩ := replaces
  rw [Replaces, keeps, unescaped_plain pair byte rest plain, count_plain pair byte rest plain, ← same]
  refine ⟨rfl, ?_⟩
  rw [List.length_cons, List.length_cons, ← length, Nat.add_right_comm]

theorem replaces_escape (signless : Signless pair) (high low byte : UInt8) (rest : List UInt8)
    (reads : pair (Char.ofNat high.toNat) (Char.ofNat low.toNat) = some byte) (replaces : Replaces pair rest) :
    Replaces pair (37 :: high :: low :: rest) := by
  obtain ⟨same, length⟩ := replaces
  rw [Replaces, unescaped_escape signless high low byte rest reads, count_escape signless high low byte rest reads, ← same,
    decode, reads]
  refine ⟨rfl, ?_⟩
  simp only [List.length_cons, ← length]
  omega

theorem decode_replaces (signless : Signless pair) (bytes : List UInt8) : Replaces pair bytes := by
  fun_induction decode pair bytes with
  | case1 high low rest byte reads ih => exact replaces_escape pair signless high low byte rest reads ih
  | case2 high low rest reads ih =>
      exact replaces_plain pair 37 _ (by simp [escapeAt?, reads]) (by rw [decode, reads]) ih
  | case3 byte rest other ih =>
      exact replaces_plain pair byte rest (plain_start pair byte rest other) (by rw [decode]; exact other) ih
  | case4 => exact ⟨rfl, rfl⟩

theorem counts_agree (few more : Nat → Bool) (places : List Nat) (fewer : ∀ place, few place = true → more place = true)
    (counts : places.countP few = places.countP more) (place : Nat) (listed : place ∈ places) (chosen : more place = true) :
    few place = true := by
  have part : List.Sublist (places.filter few) (places.filter more) := List.monotone_filter_right places fewer
  rw [List.countP_eq_length_filter, List.countP_eq_length_filter] at counts
  have kept := List.mem_filter.mpr ⟨listed, chosen⟩
  rw [← part.eq_of_length counts] at kept
  exact (List.mem_filter.mp kept).2

section

variable (few more : Char → Char → Option UInt8)
  (knows : ∀ high low byte, few high low = some byte → more high low = some byte) (bytes : List UInt8)

include knows

theorem escape_known (place : Nat) (byte : UInt8) (begins : escapeAt? few bytes place = some byte) :
    escapeAt? more bytes place = some byte := by
  obtain ⟨high, low, first, second, third, reads⟩ := (escape_some_iff few bytes place byte).mp begins
  exact (escape_some_iff more bytes place byte).mpr ⟨high, low, first, second, third, knows _ _ _ reads⟩

theorem decode_eq_iff (signlessFew : Signless few) (signlessMore : Signless more) :
    decode more bytes = decode few bytes ↔ ∀ place, escapeAt? more bytes place = escapeAt? few bytes place := by
  obtain ⟨fewSame, fewLength⟩ := decode_replaces few signlessFew bytes
  obtain ⟨moreSame, moreLength⟩ := decode_replaces more signlessMore bytes
  constructor
  · intro same place
    have counts : escapeCount few bytes = escapeCount more bytes := by
      rw [same] at moreLength
      omega
    have fewer (start : Nat) (begins : (escapeAt? few bytes start).isSome = true) :
        (escapeAt? more bytes start).isSome = true := by
      obtain ⟨byte, begins⟩ := Option.isSome_iff_exists.mp begins
      exact Option.isSome_iff_exists.mpr ⟨byte, escape_known few more knows bytes start byte begins⟩
    cases begins : escapeAt? more bytes place with
    | none =>
        refine (Option.eq_none_iff_forall_ne_some.mpr fun byte sooner => ?_).symm
        exact nomatch begins.symm.trans (escape_known few more knows bytes place byte sooner)
    | some byte =>
        obtain ⟨-, -, first, -⟩ := (escape_some_iff more bytes place byte).mp begins
        have inside : place ∈ List.range bytes.length := List.mem_range.mpr (List.getElem?_eq_some_iff.mp first).1
        obtain ⟨value, sooner⟩ := Option.isSome_iff_exists.mp
          (counts_agree _ _ _ fewer counts place inside (Option.isSome_iff_exists.mpr ⟨byte, begins⟩))
        rw [sooner, ← begins, escape_known few more knows bytes place value sooner]
  · intro same
    rw [fewSame, moreSame, unescaped, unescaped]
    refine congrArg (List.range bytes.length).flatMap (funext fun place => ?_)
    rw [yieldAt, yieldAt, isCovered, isCovered, funext same]

end

theorem escapes_apart (signless : Signless pair) (bytes : List UInt8) (first second : Nat) (one two : UInt8)
    (before : first < second) (begins : escapeAt? pair bytes first = some one)
    (follows : escapeAt? pair bytes second = some two) : first + 3 ≤ second := by
  obtain ⟨high, low, -, behind, beyond, reads⟩ := (escape_some_iff pair bytes first one).mp begins
  obtain ⟨-, -, sign, -⟩ := (escape_some_iff pair bytes second two).mp follows
  rcases (by omega : second = first + 1 ∨ second = first + 2 ∨ first + 3 ≤ second) with rfl | rfl | apart
  · obtain rfl := Option.some.inj (behind.symm.trans sign)
    exact nomatch reads.symm.trans (signless _).1
  · obtain rfl := Option.some.inj (beyond.symm.trans sign)
    exact nomatch reads.symm.trans (signless _).2
  · exact apart

theorem digit_small (radix : Nat) (c : Char) (d : Nat) (read : Decimal.digit? radix c = some d) : d < radix :=
  of_decide_eq_true (Option.filter_eq_some_iff.mp read).2

-- The reader that takes a pair for a number takes a plus sign and one digit too.
theorem signed_pair_value (high low : Char) : signedPairValue high low =
    if high = '+' then (Decimal.digit? 16 low).map UInt8.ofNat else pairValue high low := by
  by_cases sign : high = '+'
  · subst sign
    rw [if_pos rfl]
    cases read : Decimal.digit? 16 low with
    | none => simp [signedPairValue, Decimal.unsigned?, Decimal.digits?, read]
    | some d =>
        have small := digit_small 16 low d read
        simp [signedPairValue, Decimal.unsigned?, Decimal.digits?, read, Option.filter, show d < 256 by omega]
  · have digits : Decimal.unsigned? 256 16 [high, low] = (Decimal.digits? 16 [high, low]).filter (· < 256) := by
      unfold Decimal.unsigned?
      split
      next same => exact absurd (List.cons.inj same).1 sign
      next => rfl
    rw [if_neg sign, signedPairValue, digits, pairValue]
    simp only [Decimal.digits?, List.foldl_cons, List.foldl_nil, Option.bind_some, Option.bind_eq_bind]
    cases first : Decimal.digit? 16 high with
    | none => rfl
    | some h =>
        cases second : Decimal.digit? 16 low with
        | none => rfl
        | some l =>
            have one := digit_small 16 high h first
            have two := digit_small 16 low l second
            simp [Option.filter, show h * 16 + l < 256 by omega]

theorem pair_known (high low : Char) (byte : UInt8) (reads : pairValue high low = some byte) :
    signedPairValue high low = some byte := by
  have digit : high ≠ '+' := by
    rintro rfl
    exact nomatch reads
  rw [signed_pair_value, if_neg digit, reads]

theorem pair_signless : Signless pairValue := by
  refine fun other => ⟨rfl, ?_⟩
  simp only [pairValue, show Decimal.digit? 16 '%' = none from rfl, Option.bind_eq_bind, Option.bind_none, Option.bind_fun_none]

theorem signed_pair_signless : Signless signedPairValue := by
  intro other
  obtain ⟨first, second⟩ := pair_signless other
  rw [signed_pair_value, signed_pair_value, if_neg (by decide), first, second]
  exact ⟨rfl, ite_self none⟩

def plusPair (high low : Char) : Option UInt8 := if high = '+' then (Decimal.digit? 16 low).map UInt8.ofNat else none

theorem escape_signed (bytes : List UInt8) (place : Nat) : escapeAt? signedPairValue bytes place =
    (escapeAt? pairValue bytes place).or (escapeAt? plusPair bytes place) := by
  have split (high low : Char) : signedPairValue high low = (pairValue high low).or (plusPair high low) := by
    rw [signed_pair_value, plusPair]
    split
    next sign =>
      subst sign
      rfl
    next => rw [Option.or_none]
  simp only [escapeAt?, Option.bind_eq_bind]
  cases bytes[place]? <;> cases bytes[place + 1]? <;> cases bytes[place + 2]? <;>
    simp only [Option.bind_some, Option.bind_none, Option.or_none]
  split
  · exact split _ _
  · rfl

theorem plus_unpaired (bytes : List UInt8) (place : Nat) (value : UInt8) (plus : escapeAt? plusPair bytes place = some value) :
    escapeAt? pairValue bytes place = none := by
  refine Option.eq_none_iff_forall_ne_some.mpr fun byte begins => ?_
  obtain ⟨high, low, -, second, -, reads⟩ := (escape_some_iff pairValue bytes place byte).mp begins
  obtain ⟨other, digit, -, same, -, sign⟩ := (escape_some_iff plusPair bytes place value).mp plus
  obtain rfl := Option.some.inj (second.symm.trans same)
  have signed : Char.ofNat high.toNat = '+' := by
    by_contra different
    rw [plusPair, if_neg different] at sign
    exact nomatch sign
  rw [signed] at reads
  exact nomatch reads

theorem decode_signed_iff (bytes : List UInt8) : decode signedPairValue bytes = decode pairValue bytes ↔
    ∀ place, escapeAt? plusPair bytes place = none := by
  rw [decode_eq_iff pairValue signedPairValue pair_known bytes pair_signless signed_pair_signless]
  refine forall_congr' fun place => ?_
  rw [escape_signed]
  constructor
  · refine fun same => Option.eq_none_iff_forall_ne_some.mpr fun value plus => ?_
    rw [plus_unpaired bytes place value plus, plus] at same
    exact nomatch same
  · intro unsigned
    rw [unsigned, Option.or_none]

end ServiceHost.Percent
