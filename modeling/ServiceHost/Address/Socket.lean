import ServiceHost.Address.Ip

set_option autoImplicit false

namespace ServiceHost.Address

inductive Socket where
  | v4 (ip : Ipv4) (port : UInt16)
  | v6 (ip : Ipv6) (scope : UInt32) (port : UInt16)
deriving DecidableEq

namespace Socket

def port : Socket → UInt16
  | .v4 _ port => port
  | .v6 _ _ port => port

def ip : Socket → Ip
  | .v4 ip _ => .v4 ip
  | .v6 ip _ _ => .v6 ip

def ofIp (ip : Ip) (port : UInt16) : Socket :=
  match ip with
  | .v4 ip => .v4 ip port
  | .v6 ip => .v6 ip 0 port

def port? : List Char → Option UInt16
  | ':' :: rest =>
      match number? 10 65536 none rest with
      | some (value, []) => some (UInt16.ofNat value)
      | _ => none
  | _ => none

def scope? : List Char → Option (UInt32 × List Char)
  | '%' :: rest => (number? 10 4294967296 none rest).map fun (value, rest) => (UInt32.ofNat value, rest)
  | rest => some (0, rest)

def parseV4? (input : List Char) : Option Socket := do
  let (ip, rest) ← Ipv4.read? input
  let port ← port? rest
  return .v4 ip port

def parseV6? : List Char → Option Socket
  | '[' :: input => do
      let (ip, rest) ← Ipv6.read? input
      let (scope, rest) ← scope? rest
      match rest with
      | ']' :: rest =>
          let port ← port? rest
          return .v6 ip scope port
      | _ => none
  | _ => none

def parse? (text : String) : Option Socket :=
  (parseV4? text.toList).or (parseV6? text.toList)

def text : Socket → String
  | .v4 ip port => ip.text ++ ":" ++ toString port.toNat
  | .v6 ip scope port =>
      "[" ++ ip.text ++ (if scope = 0 then "" else "%" ++ toString scope.toNat) ++ "]:" ++ toString port.toNat

def syntaxMessage : String := "invalid socket address syntax"

end Socket

end ServiceHost.Address
