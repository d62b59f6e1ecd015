import ServiceHost.Json.Reader

set_option autoImplicit false

namespace ServiceHost.Json

def charOf (byte : UInt8) : Char := Char.ofNat byte.toNat

def Digits (bytes : List UInt8) : Prop := bytes ≠ [] ∧ ∀ byte ∈ bytes, isDigit byte = true

inductive WritesFraction : Option String → List UInt8 → Prop where
  | none : WritesFraction none []
  | some (bytes : List UInt8) (digits : Digits bytes) :
      WritesFraction (some (String.ofList (bytes.map charOf))) (0x2E :: bytes)

inductive WritesExponent : Option Int → List UInt8 → Prop where
  | none : WritesExponent none []
  | bare (mark : UInt8) (bytes : List UInt8) (marked : mark = 0x65 ∨ mark = 0x45) (digits : Digits bytes) :
      WritesExponent (some (digitsValue (bytes.map charOf))) (mark :: bytes)
  | plus (mark : UInt8) (bytes : List UInt8) (marked : mark = 0x65 ∨ mark = 0x45) (digits : Digits bytes) :
      WritesExponent (some (digitsValue (bytes.map charOf))) (mark :: 0x2B :: bytes)
  | minus (mark : UInt8) (bytes : List UInt8) (marked : mark = 0x65 ∨ mark = 0x45) (digits : Digits bytes) :
      WritesExponent (some (-digitsValue (bytes.map charOf))) (mark :: 0x2D :: bytes)

-- A whole part of several digits does not begin with zero.
inductive WritesUnsigned (negative : Bool) : Numeral → List UInt8 → Prop where
  | parts {whole first second : List UInt8} {fraction : Option String} {exponent : Option Int}
      (digits : Digits whole) (noZero : whole.head? = some 0x30 → whole.length = 1)
      (before : WritesFraction fraction first) (after : WritesExponent exponent second) :
      WritesUnsigned negative
        { negative, whole := digitsValue (whole.map charOf), fraction, exponent }
        (whole ++ (first ++ second))

-- What may follow a number, so that the number ends there.
def Ends (rest : List UInt8) : Prop :=
  ∀ byte, rest.head? = some byte → isDigit byte = false ∧ byte ≠ 0x2E ∧ byte ≠ 0x65 ∧ byte ≠ 0x45

theorem take_digits (bytes rest : List UInt8) (digits : ∀ byte ∈ bytes, isDigit byte = true)
    (stops : ∀ byte, rest.head? = some byte → isDigit byte = false) (found : List Char) :
    takeDigits found (bytes ++ rest) = (found.reverse ++ bytes.map charOf, rest) := by
  induction bytes generalizing found with
  | nil =>
      cases rest with
      | nil => simp [takeDigits]
      | cons byte more => simp [takeDigits, stops byte rfl]
  | cons byte more ih =>
      have first : isDigit byte = true := digits byte List.mem_cons_self
      have others := ih (fun other inside => digits other (List.mem_cons_of_mem _ inside))
        (charOf byte :: found)
      rw [List.cons_append, takeDigits, if_pos first]
      exact others.trans (by simp)

theorem read_fraction (fraction : Option String) (bytes rest : List UInt8)
    (written : WritesFraction fraction bytes)
    (stops : ∀ byte, rest.head? = some byte → isDigit byte = false ∧ byte ≠ 0x2E) :
    readFraction (bytes ++ rest) = some (fraction, rest) := by
  cases written with
  | none =>
      rw [List.nil_append, readFraction]
      exact fun more equal => (stops 0x2E (equal ▸ rfl)).2 rfl
  | some bytes digits =>
      have taken := take_digits bytes rest digits.2 (fun byte first => (stops byte first).1) []
      have some_digit : (bytes.map charOf).isEmpty = false := by simp [digits.1]
      rw [List.cons_append, readFraction]
      simp [taken, digits.1]

theorem read_exponent_digits (negative : Bool) (bytes rest : List UInt8) (digits : Digits bytes)
    (stops : ∀ byte, rest.head? = some byte → isDigit byte = false) :
    readExponentDigits negative (bytes ++ rest) =
      some (some (if negative then -(digitsValue (bytes.map charOf) : Int) else digitsValue (bytes.map charOf)), rest) := by
  simp [readExponentDigits, take_digits bytes rest digits.2 stops, digits.1]

theorem read_exponent (exponent : Option Int) (bytes rest : List UInt8) (written : WritesExponent exponent bytes)
    (ends : Ends rest) : readExponent (bytes ++ rest) = some (exponent, rest) := by
  have stops : ∀ byte, rest.head? = some byte → isDigit byte = false := fun byte first => (ends byte first).1
  cases written with
  | none =>
      cases rest with
      | nil => rfl
      | cons byte more =>
          have noMark := (ends byte rfl).2.2
          simp [readExponent, noMark.1, noMark.2]
  | bare mark bytes marked digits =>
      obtain ⟨byte, more, rfl⟩ := List.exists_cons_of_ne_nil digits.1
      have digit := digits.2 byte List.mem_cons_self
      have value := read_exponent_digits false _ rest digits stops
      have noPlus : byte ≠ 0x2B := fun equal => by cases equal; cases digit
      have noMinus : byte ≠ 0x2D := fun equal => by cases equal; cases digit
      rw [List.cons_append, readExponent, if_pos (by simpa using marked)]
      · exact value
      · exact fun _ equal => noPlus (List.cons.inj equal).1
      · exact fun _ equal => noMinus (List.cons.inj equal).1
  | plus mark bytes marked digits =>
      have value := read_exponent_digits false bytes rest digits stops
      rw [List.cons_append, List.cons_append, readExponent, if_pos (by simpa using marked)]
      exact value
  | minus mark bytes marked digits =>
      have value := read_exponent_digits true bytes rest digits stops
      rw [List.cons_append, List.cons_append, readExponent, if_pos (by simpa using marked)]
      exact value

theorem char_of_zero (byte : UInt8) (zero : charOf byte = '0') : byte = 0x30 := by
  have valid : byte.toNat.isValidChar := Or.inl (Nat.lt_trans byte.toNat_lt (by decide))
  have same : (Char.ofNat byte.toNat).toNat = byte.toNat := by
    rw [Char.ofNat, dif_pos valid]
    rfl
  exact UInt8.toNat_inj.mp (same.symm.trans (congrArg Char.toNat zero))

theorem mark_no_digit (byte : UInt8) (marked : byte = 0x65 ∨ byte = 0x45) : isDigit byte = false ∧ byte ≠ 0x2E := by
  cases marked with
  | inl small => cases small; decide
  | inr large => cases large; decide

theorem read_unsigned (negative : Bool) (numeral : Numeral) (bytes rest : List UInt8)
    (written : WritesUnsigned negative numeral bytes) (ends : Ends rest) :
    readNumber negative (bytes ++ rest) = some (numeral, rest) := by
  cases written with
  | @parts whole first second fraction exponent digits noZero before after =>
      have behindFraction : ∀ byte, (second ++ rest).head? = some byte → isDigit byte = false ∧ byte ≠ 0x2E := by
        intro byte head
        cases after with
        | none => exact ⟨(ends byte head).1, (ends byte head).2.1⟩
        | bare mark bytes marked _ => exact mark_no_digit byte (Option.some.inj head ▸ marked)
        | plus mark bytes marked _ => exact mark_no_digit byte (Option.some.inj head ▸ marked)
        | minus mark bytes marked _ => exact mark_no_digit byte (Option.some.inj head ▸ marked)
      have behindWhole : ∀ byte, (first ++ (second ++ rest)).head? = some byte → isDigit byte = false := by
        intro byte head
        cases before with
        | none => exact (behindFraction byte head).1
        | some bytes _ =>
            cases head
            rfl
      have canonical : ∀ byte, whole.head? = some byte → charOf byte = '0' → whole.length ≤ 1 :=
        fun byte head zero => Nat.le_of_eq (noZero (char_of_zero byte zero ▸ head))
      rw [List.append_assoc, List.append_assoc, readNumber, take_digits _ _ digits.2 behindWhole]
      simpa [digits.1, read_fraction _ _ _ before behindFraction, read_exponent _ _ _ after ends] using canonical

end ServiceHost.Json
