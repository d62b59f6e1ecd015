import ServiceHost.Text.Decimal

set_option autoImplicit false

namespace ServiceHost.Address.Authority

structure Scan where
  colons : Nat := 0
  opened : Bool := false
  closed : Bool := false
  percent : Bool := false
  endsWithAt : Bool := false
deriving Repr

def maxColons : Nat := 8

def isPlain (c : Char) : Bool :=
  c.isAlphanum || "!$&'()*+,-.;=_~".toList.contains c

def step (scan : Scan) (c : Char) : Option Scan :=
  let scan := { scan with endsWithAt := false }
  if c = ':' then
    if maxColons ≤ scan.colons then none else some { scan with colons := scan.colons + 1 }
  else if c = '[' then
    if scan.percent || scan.opened then none else some { scan with opened := true }
  else if c = ']' then
    if !scan.opened || scan.closed then none
    else some { scan with closed := true, colons := 0, percent := false }
  else if c = '@' then some { scan with colons := 0, percent := false, endsWithAt := true }
  else if c = '%' then some { scan with percent := true }
  else if isPlain c then some scan
  else none

def scan (text : List Char) : Option Scan := text.foldl (fun acc c => acc.bind fun s => step s c) (some {})

def isValid (text : String) : Bool :=
  match scan text.toList with
  | none => false
  | some s => text ≠ "" && s.opened = s.closed && s.colons ≤ 1 && !s.endsWithAt && !s.percent

def hostAndPort (text : List Char) : List Char := (text.reverse.takeWhile (· ≠ '@')).reverse

def host (text : List Char) : List Char :=
  match hostAndPort text with
  | '[' :: rest => '[' :: rest.takeWhile (· ≠ ']') ++ [']']
  | other => other.takeWhile (· ≠ ':')

def port? (text : List Char) : Option UInt16 :=
  if ':' ∈ text then Decimal.port? (text.reverse.takeWhile (· ≠ ':')).reverse else none

end ServiceHost.Address.Authority
