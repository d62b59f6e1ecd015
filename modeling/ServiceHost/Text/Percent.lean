import ServiceHost.Text.Decimal
import ServiceHost.Text.Utf8

set_option autoImplicit false

namespace ServiceHost.Percent

def upperHexDigit (n : Nat) : Char := if n < 10 then Char.ofNat (48 + n) else Char.ofNat (55 + n)

def escape (byte : UInt8) : List Char :=
  ['%', upperHexDigit (byte.toNat / 16), upperHexDigit (byte.toNat % 16)]

def encode (plain : UInt8 → Bool) (bytes : List UInt8) : List Char :=
  bytes.flatMap fun byte => if plain byte then [Char.ofNat byte.toNat] else escape byte

def pairValue (high low : Char) : Option UInt8 := do
  let h ← Decimal.digit? 16 high
  let l ← Decimal.digit? 16 low
  return UInt8.ofNat (h * 16 + l)

-- A pair read as a number of up to two digits, which may have a plus sign.
def signedPairValue (high low : Char) : Option UInt8 :=
  (Decimal.unsigned? 256 16 [high, low]).map UInt8.ofNat

def decode (pair : Char → Char → Option UInt8) : List UInt8 → List UInt8
  | 37 :: high :: low :: rest =>
      match pair (Char.ofNat high.toNat) (Char.ofNat low.toNat) with
      | some byte => byte :: decode pair rest
      | none => 37 :: decode pair (high :: low :: rest)
  | byte :: rest => byte :: decode pair rest
  | [] => []

end ServiceHost.Percent
