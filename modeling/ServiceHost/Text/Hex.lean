import ServiceHost.Text.Decimal
import ServiceHost.Text.Quoted

set_option autoImplicit false

namespace ServiceHost.Hex

def encode (bytes : List UInt8) : String :=
  String.ofList (bytes.flatMap fun b => [Text.hexDigit (b.toNat / 16), Text.hexDigit (b.toNat % 16)])

def digit (c : Char) : Nat := (Decimal.digit? 16 c).getD 0

def decode : List Char → List UInt8
  | high :: low :: rest => UInt8.ofNat (digit high * 16 + digit low) :: decode rest
  | _ => []

end ServiceHost.Hex
