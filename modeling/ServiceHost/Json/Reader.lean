import ServiceHost.Json.Basic

set_option autoImplicit false

namespace ServiceHost.Json

def isSpace (byte : UInt8) : Bool := byte = 0x20 || byte = 0x0A || byte = 0x0D || byte = 0x09

def skipSpace : List UInt8 → List UInt8
  | [] => []
  | byte :: rest => if isSpace byte then skipSpace rest else byte :: rest

def isDigit (byte : UInt8) : Bool := 0x30 ≤ byte && byte ≤ 0x39

def hexValue? (byte : UInt8) : Option Nat :=
  if isDigit byte then some (byte.toNat - 0x30)
  else if 0x61 ≤ byte && byte ≤ 0x66 then some (byte.toNat - 0x57)
  else if 0x41 ≤ byte && byte ≤ 0x46 then some (byte.toNat - 0x37)
  else none

def shortEscape? (letter : UInt8) : Option UInt8 :=
  if letter = 0x22 then some 0x22
  else if letter = 0x5C then some 0x5C
  else if letter = 0x2F then some 0x2F
  else if letter = 0x62 then some 0x08
  else if letter = 0x66 then some 0x0C
  else if letter = 0x6E then some 0x0A
  else if letter = 0x72 then some 0x0D
  else if letter = 0x74 then some 0x09
  else none

def readLiteral (found : Literal) : List UInt8 → Option (Literal × List UInt8)
  | [] => none
  | 0x22 :: rest => some (found.reverse, rest)
  | 0x5C :: 0x75 :: a :: b :: c :: d :: rest => do
      let code ← (do
        let a ← hexValue? a
        let b ← hexValue? b
        let c ← hexValue? c
        let d ← hexValue? d
        return ((a * 16 + b) * 16 + c) * 16 + d)
      readLiteral (.unit code :: found) rest
  | 0x5C :: letter :: rest => do
      let byte ← shortEscape? letter
      readLiteral (.byte byte :: found) rest
  | byte :: rest =>
      if byte < 0x20 || byte = 0x5C then none else readLiteral (.byte byte :: found) rest

def takeDigits (found : List Char) : List UInt8 → List Char × List UInt8
  | [] => (found.reverse, [])
  | byte :: rest =>
      if isDigit byte then takeDigits (Char.ofNat byte.toNat :: found) rest
      else (found.reverse, byte :: rest)

def digitsValue (digits : List Char) : Nat := digits.foldl (fun acc c => acc * 10 + (c.toNat - 48)) 0

def readFraction : List UInt8 → Option (Option String × List UInt8)
  | 0x2E :: rest =>
      let (digits, rest) := takeDigits [] rest
      if digits.isEmpty then none else some (some (String.ofList digits), rest)
  | rest => some (none, rest)

def readExponentDigits (negative : Bool) (input : List UInt8) : Option (Option Int × List UInt8) :=
  let (digits, rest) := takeDigits [] input
  if digits.isEmpty then none
  else
    let size : Int := digitsValue digits
    some (some (if negative then -size else size), rest)

def readExponent : List UInt8 → Option (Option Int × List UInt8)
  | byte :: rest =>
      if byte = 0x65 || byte = 0x45 then
        match rest with
        | 0x2B :: digits => readExponentDigits false digits
        | 0x2D :: digits => readExponentDigits true digits
        | digits => readExponentDigits false digits
      else some (none, byte :: rest)
  | [] => some (none, [])

def readNumber (negative : Bool) (input : List UInt8) : Option (Numeral × List UInt8) := do
  let (digits, rest) := takeDigits [] input
  if digits.isEmpty || (digits.head? = some '0' && digits.length > 1) then none
  let (fraction, rest) ← readFraction rest
  let (exponent, rest) ← readExponent rest
  return ({ negative, whole := digitsValue digits, fraction, exponent }, rest)

def readWord (word : String) (input : List UInt8) : Option (List UInt8) :=
  let bytes := Utf8.encode word
  if bytes.isPrefixOf input then some (input.drop bytes.length) else none

mutual
def readTree (fuel : Nat) (input : List UInt8) : Option (Syntax × List UInt8) :=
  match fuel, input with
  | 0, _ => none
  | _, [] => none
  | fuel + 1, byte :: rest =>
      if byte = 0x22 then (readLiteral [] rest).map fun (t, rest) => (.text t, rest)
      else if byte = 0x5B then
        match skipSpace rest with
        | 0x5D :: rest => some (.array [], rest)
        | rest => readItems fuel [] rest
      else if byte = 0x7B then
        match skipSpace rest with
        | 0x7D :: rest => some (.object [], rest)
        | rest => readMembers fuel [] rest
      else if byte = 0x2D then (readNumber true rest).map fun (n, rest) => (.number n, rest)
      else if isDigit byte then (readNumber false (byte :: rest)).map fun (n, rest) => (.number n, rest)
      else if byte = 0x6E then (readWord "null" (byte :: rest)).map fun rest => (.null, rest)
      else if byte = 0x74 then (readWord "true" (byte :: rest)).map fun rest => (.bool true, rest)
      else if byte = 0x66 then (readWord "false" (byte :: rest)).map fun rest => (.bool false, rest)
      else none

def readItems (fuel : Nat) (found : List Syntax) (input : List UInt8) : Option (Syntax × List UInt8) :=
  match fuel with
  | 0 => none
  | fuel + 1 =>
      match readTree fuel (skipSpace input) with
      | none => none
      | some (item, rest) =>
          match skipSpace rest with
          | 0x2C :: rest => readItems fuel (item :: found) rest
          | 0x5D :: rest => some (.array (item :: found).reverse, rest)
          | _ => none

def readMembers (fuel : Nat) (found : List (Literal × Syntax)) (input : List UInt8) :
    Option (Syntax × List UInt8) :=
  match fuel with
  | 0 => none
  | fuel + 1 =>
      match skipSpace input with
      | 0x22 :: rest =>
          match readLiteral [] rest with
          | none => none
          | some (name, rest) =>
              match skipSpace rest with
              | 0x3A :: rest =>
                  match readTree fuel (skipSpace rest) with
                  | none => none
                  | some (item, rest) =>
                      match skipSpace rest with
                      | 0x2C :: rest => readMembers fuel ((name, item) :: found) rest
                      | 0x7D :: rest => some (.object ((name, item) :: found).reverse, rest)
                      | _ => none
              | _ => none
      | _ => none
end

-- The tree that the whole text writes. Each step reads a byte, so twice the length is fuel enough.
def read (input : List UInt8) : Option Syntax := do
  let (tree, rest) ← readTree (2 * input.length + 2) (skipSpace input)
  if (skipSpace rest).isEmpty then some tree else none

def readValue (input : List UInt8) : Option Value := (read input).bind Tree.value?

end ServiceHost.Json
