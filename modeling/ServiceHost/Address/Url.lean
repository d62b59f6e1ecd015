import ServiceHost.Address.Ip
import ServiceHost.Text.Percent
import ServiceHost.Text.Punycode
import ServiceHost.Text.Blank

/-!
Absolute URLs, as far as they name a host and a port. The schemes of the web have a default port;
their hosts are domain names or IP addresses in any of the notations that browsers accept. How a
domain name goes over to ASCII depends on tables of Unicode, and is a parameter.
-/

set_option autoImplicit false

namespace ServiceHost.Address.Url

structure Parts where
  scheme : String
  host : String
  port : Option UInt16
deriving DecidableEq, Repr

def defaultPort (scheme : String) : Option UInt16 :=
  if scheme = "http" ∨ scheme = "ws" then some 80
  else if scheme = "https" ∨ scheme = "wss" then some 443
  else if scheme = "ftp" then some 21
  else none

def isSpecial (scheme : String) : Bool := (defaultPort scheme).isSome || scheme = "file"

def isControlOrSpace (c : Char) : Bool := c.toNat ≤ 0x20

def strip (text : String) : List Char :=
  (Text.trimChars isControlOrSpace text.toList).filter fun c => c ≠ '\t' && c ≠ '\n' && c ≠ '\r'

def takeScheme (found : List Char) : List Char → Option (String × List Char)
  | [] => none
  | ':' :: rest => if found.isEmpty then none else some (String.ofList found.reverse, rest)
  | c :: rest =>
      if c.isAlpha || (!found.isEmpty && (c.isDigit || c = '+' || c = '-' || c = '.')) then
        takeScheme (c.toLower :: found) rest
      else none

def endsAuthority (special : Bool) (c : Char) : Bool :=
  c = '/' || c = '?' || c = '#' || (special && c = '\\')

def withoutUser (special : Bool) (input : List Char) : List Char :=
  let authority := input.takeWhile (!endsAuthority special ·)
  (authority.reverse.takeWhile (· ≠ '@')).reverse ++ input.dropWhile (!endsAuthority special ·)

def takeHost (special : Bool) (inside : Bool) : List Char → List Char × List Char
  | [] => ([], [])
  | c :: rest =>
      if (c = ':' && !inside) || endsAuthority special c then ([], c :: rest)
      else
        let (host, rest) := takeHost special (if c = '[' then true else if c = ']' then false else inside) rest
        (c :: host, rest)

-- The port after a colon, `none` inside when the colon is followed by no digit.
def takePort (value : Nat) (digits : Bool) : List Char → Option (Option UInt16)
  | [] => some (if digits then some (UInt16.ofNat value) else none)
  | c :: rest =>
      match Decimal.digit? 10 c with
      | some d => if value * 10 + d < 65536 then takePort (value * 10 + d) true rest else none
      | none =>
          if c = '/' || c = '\\' || c = '?' || c = '#' then
            some (if digits then some (UInt16.ofNat value) else none)
          else none

def bracketed? (host : List Char) : Option String :=
  match host with
  | '[' :: rest =>
      if rest.getLast? = some ']' then
        match Ipv6.read? rest.dropLast with
        | some (ip, []) => some ("[" ++ ip.hexText ++ "]")
        | _ => none
      else none
  | _ => none

def isForbidden (c : Char) : Bool :=
  c.toNat = 0 || "\t\n\r #/:<>?@[\\]^|".toList.contains c

def isForbiddenInDomain (c : Char) : Bool := isForbidden c || c.toNat < 0x20 || c = '%' || c.toNat = 0x7F

-- A part of a dotted IPv4 address in decimal, octal or hexadecimal. The outer `none` means no
-- number, the inner one a number too large.
def ipv4Number? (part : List Char) : Option (Option Nat) :=
  let parse (radix : Nat) (digits : List Char) : Option (Option Nat) :=
    if digits.isEmpty then some (some 0)
    else (Decimal.digits? radix digits).map fun n => if n < 4294967296 then some n else none
  match part with
  | [] => none
  | '0' :: 'x' :: rest => parse 16 rest
  | '0' :: 'X' :: rest => parse 16 rest
  | '0' :: c :: rest => parse 8 (c :: rest)
  | digits => parse 10 digits

def endsInNumber (domain : List Char) : Bool :=
  let parts := (Text.splitChars '.' domain).reverse
  let last := match parts with
    | [] :: part :: _ => some part
    | [[]] => none
    | part :: _ => some part
    | [] => none
  match last with
  | none => false
  | some part => (!part.isEmpty && part.all Char.isDigit) || (ipv4Number? part).isSome

def ipv4? (domain : List Char) : Option Ipv4 := do
  let parts := Text.splitChars '.' domain
  let parts := if parts.getLast? = some [] then parts.dropLast else parts
  if 4 < parts.length then none
  let numbers ← parts.mapM fun part => (ipv4Number? part).join
  let last ← numbers.getLast?
  let front := numbers.dropLast
  if last * Nat.pow 256 front.length ≥ 4294967296 then none
  if front.any (255 < ·) then none
  let value := front.zipIdx.foldl (fun sum (n, i) => sum + n * Nat.pow 256 (3 - i)) last
  return .ofWords (UInt16.ofNat (value / 65536)) (UInt16.ofNat (value % 65536))

-- The bytes of a domain name and its ASCII form, if it has one.
abbrev ToAscii := List UInt8 → Option (List Char)

-- Upper-case letters of the European scripts and full-width forms, in their plain form. Characters
-- that do not count have none.
def fold (c : Char) : Option Char :=
  let n := c.toNat
  if n = 0xAD || n = 0x200B || n = 0x2060 || n = 0xFEFF then none
  else if n = 0x3002 || n = 0xFF0E || n = 0xFF61 then some '.'
  else if 0xFF01 ≤ n && n ≤ 0xFF5E then some (Char.ofNat (n - 0xFEE0)).toLower
  else if 0xC0 ≤ n && n ≤ 0xDE && n ≠ 0xD7 then some (Char.ofNat (n + 32))
  else if 0x100 ≤ n && n ≤ 0x137 && n % 2 = 0 && n ≠ 0x130 then some (Char.ofNat (n + 1))
  else if 0x14A ≤ n && n ≤ 0x177 && n % 2 = 0 then some (Char.ofNat (n + 1))
  else if 0x391 ≤ n && n ≤ 0x3A9 then some (Char.ofNat (n + 32))
  else if 0x410 ≤ n && n ≤ 0x42F then some (Char.ofNat (n + 32))
  else if 0x400 ≤ n && n ≤ 0x40F then some (Char.ofNat (n + 80))
  else some c.toLower

def isUnnamable (c : Char) : Bool :=
  (0x80 ≤ c.toNat && c.toNat < 0xA0) || Text.isBlank c || c = '\uFFFD'

def asciiLabel? (label : List Char) : Option (List Char) :=
  if label.all (·.toNat < 128) then
    match label with
    | 'x' :: 'n' :: '-' :: '-' :: rest =>
        match Punycode.decode? rest with
        | some decoded => if decoded.all (·.toNat < 128) then none else some label
        | none => none
    | _ => some label
  else some ("xn--".toList ++ Punycode.encode label)

-- Right for names that the tables of Unicode change in no other way than `fold`.
def foldedAscii? : ToAscii := fun name => do
  let folded := (Utf8.decodeLossy name).toList.filterMap fold
  if folded.any isUnnamable then none
  let labels ← (Text.splitChars '.' folded).mapM asciiLabel?
  let domain := ['.'].intercalate labels
  if domain.any isForbiddenInDomain then none
  return domain

def domain? (toAscii : ToAscii) (host : List Char) : Option String := do
  let domain ← toAscii (Percent.decode Percent.pairValue (Utf8.encode (String.ofList host)))
  if domain.isEmpty then none
  if endsInNumber domain then (ipv4? domain).map Ipv4.text else some (String.ofList domain)

def opaqueHost? (host : List Char) : Option String :=
  if host.any isForbidden then none
  else
    let plain : UInt8 → Bool := fun byte => 0x20 ≤ byte && byte < 0x7F
    some (String.ofList (Percent.encode plain (Utf8.encode (String.ofList host))))

def host? (toAscii : ToAscii) (special : Bool) (host : List Char) : Option String :=
  if host.isEmpty then none
  else if host.head? = some '[' then bracketed? host
  else if special then domain? toAscii host
  else opaqueHost? host

def authority? (toAscii : ToAscii) (scheme : String) (input : List Char) : Option Parts := do
  let special := isSpecial scheme
  let (host, rest) := takeHost special false (withoutUser special input)
  let host ← host? toAscii special host
  let port ← match rest with
    | ':' :: digits => takePort 0 false digits
    | _ => some none
  return { scheme, host, port := port.or (defaultPort scheme) }

def parse? (toAscii : ToAscii) (text : String) : Option Parts := do
  let (scheme, rest) ← takeScheme [] (strip text)
  if scheme = "file" then none
  else if isSpecial scheme then authority? toAscii scheme (rest.dropWhile fun c => c = '/' || c = '\\')
  else match rest with
    | '/' :: '/' :: rest => authority? toAscii scheme rest
    | _ => none

end ServiceHost.Address.Url
