import ServiceHost.Address.Authority
import ServiceHost.Address.Url

set_option autoImplicit false

namespace ServiceHost.Address

def hasSchemeMark : List Char → Bool
  | ':' :: '/' :: '/' :: _ => true
  | _ :: rest => hasSchemeMark rest
  | [] => false

def isUrl (endpoint : String) : Bool := hasSchemeMark endpoint.toList

def reduce? (toAscii : Url.ToAscii) (endpoint : String) : Option String :=
  if isUrl endpoint then do
    let parts ← Url.parse? toAscii endpoint
    let port ← parts.port
    return parts.host ++ ":" ++ toString port.toNat
  else if Authority.isValid endpoint && (Authority.port? endpoint.toList).isSome
      && !(Authority.host endpoint.toList).isEmpty then
    some endpoint
  else none

def dialable? (endpoint : String) : Option String := reduce? Url.foldedAscii? endpoint

end ServiceHost.Address
