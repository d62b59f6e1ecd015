import ServiceHost.Text.Decimal
import ServiceHost.Text.Quoted

set_option autoImplicit false

namespace ServiceHost.Address

structure Ipv4 where
  a : UInt8
  b : UInt8
  c : UInt8
  d : UInt8
deriving DecidableEq, Repr

structure Ipv6 where
  groups : List UInt16
  eight : groups.length = 8
deriving DecidableEq

inductive Ip where
  | v4 (ip : Ipv4)
  | v6 (ip : Ipv6)
deriving DecidableEq

def takeNumber (radix : Nat) (value count : Nat) : List Char → Nat × Nat × List Char
  | [] => (value, count, [])
  | c :: rest =>
      match Decimal.digit? radix c with
      | some d => takeNumber radix (value * radix + d) (count + 1) rest
      | none => (value, count, c :: rest)

def number? (radix bound : Nat) (most : Option Nat) (input : List Char) : Option (Nat × List Char) :=
  let (value, count, rest) := takeNumber radix 0 0 input
  if count = 0 || most.any (· < count) || bound ≤ value then none else some (value, rest)

namespace Ipv4

def octet? (input : List Char) : Option (UInt8 × List Char) :=
  match number? 10 256 (some 3) input with
  | none => none
  | some (value, rest) =>
      if input.head? = some '0' && input.length - rest.length > 1 then none
      else some (UInt8.ofNat value, rest)

def dot? : List Char → Option (List Char)
  | '.' :: rest => some rest
  | _ => none

def read? (input : List Char) : Option (Ipv4 × List Char) := do
  let (a, rest) ← octet? input
  let rest ← dot? rest
  let (b, rest) ← octet? rest
  let rest ← dot? rest
  let (c, rest) ← octet? rest
  let rest ← dot? rest
  let (d, rest) ← octet? rest
  return (⟨a, b, c, d⟩, rest)

def text (ip : Ipv4) : String :=
  s!"{ip.a.toNat}.{ip.b.toNat}.{ip.c.toNat}.{ip.d.toNat}"

def high (ip : Ipv4) : UInt16 := UInt16.ofNat (ip.a.toNat * 256 + ip.b.toNat)
def low (ip : Ipv4) : UInt16 := UInt16.ofNat (ip.c.toNat * 256 + ip.d.toNat)

def ofWords (high low : UInt16) : Ipv4 :=
  ⟨UInt8.ofNat (high.toNat / 256), UInt8.ofNat (high.toNat % 256),
    UInt8.ofNat (low.toNat / 256), UInt8.ofNat (low.toNat % 256)⟩

def loopback : Ipv4 := ⟨127, 0, 0, 1⟩

end Ipv4

namespace Ipv6

def separated {α : Type} (first : Bool) (read : List Char → Option (α × List Char)) (input : List Char) :
    Option (α × List Char) :=
  if first then read input
  else match input with
    | ':' :: rest => read rest
    | _ => none

-- Up to `room` groups, the last two possibly written as an IPv4 address. The flag says whether they
-- were.
def readGroups (first : Bool) : Nat → List Char → List UInt16 × Bool × List Char
  | 0, input => ([], false, input)
  | room + 1, input =>
      let embedded := if room = 0 then none else separated first Ipv4.read? input
      match embedded with
      | some (ip, rest) => ([ip.high, ip.low], true, rest)
      | none =>
          match separated first (number? 16 65536 (some 4)) input with
          | none => ([], false, input)
          | some (value, rest) =>
              let (groups, dotted, rest) := readGroups false room rest
              (UInt16.ofNat value :: groups, dotted, rest)

def ofGroups? (groups : List UInt16) : Option Ipv6 :=
  if h : groups.length = 8 then some ⟨groups, h⟩ else none

def read? (input : List Char) : Option (Ipv6 × List Char) :=
  let (head, dotted, rest) := readGroups true 8 input
  if head.length = 8 then (ofGroups? head).map (·, rest)
  else if dotted then none
  else match rest with
    | ':' :: ':' :: rest =>
        let (tail, _, rest) := readGroups true (8 - (head.length + 1)) rest
        (ofGroups? (head ++ List.replicate (8 - head.length - tail.length) 0 ++ tail)).map (·, rest)
    | _ => none

def mapped? (ip : Ipv6) : Option Ipv4 :=
  match ip.groups with
  | [0, 0, 0, 0, 0, 0xFFFF, high, low] => some (.ofWords high low)
  | _ => none

def longestZeros (position start length : Nat) (best : Nat × Nat) : List UInt16 → Nat × Nat
  | [] => best
  | group :: rest =>
      if group = 0 then
        let start := if length = 0 then position else start
        let length := length + 1
        longestZeros (position + 1) start length (if best.2 < length then (start, length) else best) rest
      else longestZeros (position + 1) 0 0 best rest

def groupsText (groups : List UInt16) : String :=
  ":".intercalate (groups.map fun group => Text.hex group.toNat)

def hexText (ip : Ipv6) : String :=
  let (start, length) := longestZeros 0 0 0 (0, 0) ip.groups
  if 1 < length then
    groupsText (ip.groups.take start) ++ "::" ++ groupsText (ip.groups.drop (start + length))
  else groupsText ip.groups

def text (ip : Ipv6) : String :=
  match ip.mapped? with
  | some v4 => "::ffff:" ++ v4.text
  | none => ip.hexText

end Ipv6

namespace Ip

def text : Ip → String
  | .v4 ip => ip.text
  | .v6 ip => ip.text

def isUnspecified : Ip → Bool
  | .v4 ip => ip = ⟨0, 0, 0, 0⟩
  | .v6 ip => ip.groups.all (· = 0)

end Ip

end ServiceHost.Address
