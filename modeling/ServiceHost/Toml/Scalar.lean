import ServiceHost.Json.Basic
import ServiceHost.Text.Decimal

set_option autoImplicit false

namespace ServiceHost.Toml

abbrev Input := List Char

def skipBlanks : Input → Input
  | ' ' :: rest => skipBlanks rest
  | '\t' :: rest => skipBlanks rest
  | rest => rest

def isCommentChar (c : Char) : Bool := c = '\t' || 0x20 ≤ c.toNat

def skipComment : Input → Input
  | '#' :: rest => rest.dropWhile isCommentChar
  | rest => rest

def newline? : Input → Option Input
  | '\n' :: rest => some rest
  | '\r' :: '\n' :: rest => some rest
  | _ => none

def skipLines : Nat → Input → Input
  | 0, input => input
  | fuel + 1, input =>
      match skipBlanks input with
      | '#' :: rest =>
          match newline? (rest.dropWhile isCommentChar) with
          | some rest => skipLines fuel rest
          | none => '#' :: rest
      | rest =>
          match newline? rest with
          | some rest => skipLines fuel rest
          | none => rest

def hexValue? (digits : List Char) : Option Nat := Decimal.digits? 16 digits

def codePoint? (count : Nat) (input : Input) : Option (Char × Input) := do
  let digits := input.take count
  if digits.length ≠ count then none
  let n ← hexValue? digits
  if n.isValidChar then some (Char.ofNat n, input.drop count) else none

def escape? : Input → Option (Char × Input)
  | 'b' :: rest => some ('\x08', rest)
  | 't' :: rest => some ('\t', rest)
  | 'n' :: rest => some ('\n', rest)
  | 'f' :: rest => some ('\x0c', rest)
  | 'r' :: rest => some ('\r', rest)
  | '"' :: rest => some ('"', rest)
  | '\\' :: rest => some ('\\', rest)
  | 'u' :: rest => codePoint? 4 rest
  | 'U' :: rest => codePoint? 8 rest
  | _ => none

def isStringChar (c : Char) : Bool := c = '\t' || (0x20 ≤ c.toNat && c.toNat ≠ 0x7F)

def basicString : Nat → List Char → Input → Option (String × Input)
  | 0, _, _ => none
  | fuel + 1, found, input =>
      match input with
      | '"' :: rest => some (String.ofList found.reverse, rest)
      | '\\' :: rest => do
          let (c, rest) ← escape? rest
          basicString fuel (c :: found) rest
      | c :: rest => if isStringChar c then basicString fuel (c :: found) rest else none
      | [] => none

def literalString (found : List Char) : Input → Option (String × Input)
  | '\'' :: rest => some (String.ofList found.reverse, rest)
  | c :: rest => if isStringChar c then literalString (c :: found) rest else none
  | [] => none

def skipFolded (crossed : Bool) : Nat → Input → Option Input
  | 0, _ => none
  | fuel + 1, input =>
      match input with
      | ' ' :: rest => skipFolded crossed fuel rest
      | '\t' :: rest => skipFolded crossed fuel rest
      | rest =>
          match newline? rest with
          | some rest => skipFolded true fuel rest
          | none => if crossed then some rest else none

def multiLine (quote : Char) : Nat → List Char → Input → Option (String × Input)
  | 0, _, _ => none
  | fuel + 1, found, input =>
      match input with
      | [] => none
      | c :: rest =>
          if c = quote then
            let run := (input.takeWhile (· = quote)).length
            if run < 3 then multiLine quote fuel (List.replicate run quote ++ found) (input.drop run)
            else
              let kept := min (run - 3) 2
              some (String.ofList (List.replicate kept quote ++ found).reverse, input.drop (kept + 3))
          else if c = '\\' && quote = '"' then
            match skipFolded false (rest.length + 1) rest with
            | some rest => multiLine quote fuel found rest
            | none => do
                let (c, rest) ← escape? rest
                multiLine quote fuel (c :: found) rest
          else
            match newline? input with
            | some rest => multiLine quote fuel ('\n' :: found) rest
            | none => if isStringChar c then multiLine quote fuel (c :: found) rest else none

def openMultiLine (quote : Char) (input : Input) : Option (String × Input) :=
  let body := (newline? input).getD input
  multiLine quote (body.length + 1) [] body

def string? : Input → Option (String × Input)
  | '"' :: '"' :: '"' :: rest => openMultiLine '"' rest
  | '\'' :: '\'' :: '\'' :: rest => openMultiLine '\'' rest
  | '"' :: rest => basicString (rest.length + 1) [] rest
  | '\'' :: rest => literalString [] rest
  | _ => none

def digitRun (radix : Nat) (found : List Char) : Input → Option (List Char × Input)
  | c :: rest =>
      if (Decimal.digit? radix c).isSome then digitRun radix (c :: found) rest
      else if c = '_' then
        match found, rest with
        | _ :: _, d :: rest =>
            if (Decimal.digit? radix d).isSome then digitRun radix (d :: found) rest else none
        | _, _ => none
      else if found.isEmpty then none
      else some (found.reverse, c :: rest)
  | [] => if found.isEmpty then none else some (found.reverse, [])

def plainDigits : Input → Option (List Char × Input)
  | '0' :: rest => some (['0'], rest)
  | input => digitRun 10 [] input

def takeSign : Input → Bool × Input
  | '+' :: rest => (false, rest)
  | '-' :: rest => (true, rest)
  | rest => (false, rest)

def valueOf (digits : List Char) : Nat := digits.foldl (fun acc c => acc * 10 + (c.toNat - 48)) 0

def fitsWord (n : Int) : Option Int := if -0x8000000000000000 ≤ n ∧ n < 0x8000000000000000 then some n else none

def radixInteger (radix : Nat) (input : Input) : Option (Int × Input) := do
  let (digits, rest) ← digitRun radix [] input
  let n ← Decimal.digits? radix digits
  let n ← fitsWord n
  return (n, rest)

def integer? : Input → Option (Int × Input)
  | '0' :: 'x' :: rest => radixInteger 16 rest
  | '0' :: 'o' :: rest => radixInteger 8 rest
  | '0' :: 'b' :: rest => radixInteger 2 rest
  | input => do
      let (negative, rest) := takeSign input
      let (digits, rest) ← plainDigits rest
      let size : Int := valueOf digits
      let n ← fitsWord (if negative then -size else size)
      return (n, rest)

def exponent? : Input → Option (Int × Input)
  | c :: rest => do
      if c ≠ 'e' && c ≠ 'E' then none
      let (negative, rest) := takeSign rest
      let (digits, rest) ← digitRun 10 [] rest
      let size : Int := valueOf digits
      return (if negative then -size else size, rest)
  | [] => none

-- A number with a fraction or an exponent. One above the range of doubles is refused, one below it
-- is not.
def decimal? (input : Input) : Option Input := do
  let (negative, rest) := takeSign input
  let (digits, rest) ← plainDigits rest
  let (fraction, rest) ← match rest with
    | '.' :: rest => do
        let (fraction, rest) ← digitRun 10 [] rest
        pure (some (String.ofList fraction), rest)
    | rest => pure (none, rest)
  let (exponent, rest) := match exponent? rest with
    | some (e, rest) => (some e, rest)
    | none => (none, rest)
  if fraction.isNone && exponent.isNone then none
  let numeral : Json.Numeral := { negative, whole := valueOf digits, fraction, exponent }
  if negative || numeral.isFinite then some rest else none

def specialReal? (input : Input) : Option Input :=
  match (takeSign input).2 with
  | 'i' :: 'n' :: 'f' :: rest => some rest
  | 'n' :: 'a' :: 'n' :: rest => some rest
  | _ => none

def real? (input : Input) : Option Input := (decimal? input).or (specialReal? input)

def field? (count low high : Nat) (input : Input) : Option (Nat × Input) :=
  let digits := input.take count
  if digits.length = count && digits.all Char.isDigit then
    let n := valueOf digits
    if low ≤ n && n ≤ high then some (n, input.drop count) else none
  else none

def expect? (c : Char) : Input → Option Input
  | d :: rest => if d = c then some rest else none
  | [] => none

def daysIn (year month : Nat) : Nat :=
  if month = 2 then (if year % 4 = 0 ∧ (year % 100 ≠ 0 ∨ year % 400 = 0) then 29 else 28)
  else if month = 4 ∨ month = 6 ∨ month = 9 ∨ month = 11 then 30
  else 31

def day? (input : Input) : Option Input := do
  let (year, rest) ← field? 4 0 9999 input
  let rest ← expect? '-' rest
  let (month, rest) ← field? 2 1 12 rest
  let rest ← expect? '-' rest
  let (day, rest) ← field? 2 1 31 rest
  if day ≤ daysIn year month then some rest else none

def fraction? : Input → Option Input
  | '.' :: rest => if (rest.takeWhile Char.isDigit).isEmpty then none else some (rest.dropWhile Char.isDigit)
  | _ => none

def time? (input : Input) : Option Input := do
  let (_, rest) ← field? 2 0 23 input
  let rest ← expect? ':' rest
  let (_, rest) ← field? 2 0 59 rest
  let rest ← expect? ':' rest
  let (_, rest) ← field? 2 0 60 rest
  return (fraction? rest).getD rest

def offset? : Input → Option Input
  | 'Z' :: rest => some rest
  | 'z' :: rest => some rest
  | c :: rest => do
      if c ≠ '+' && c ≠ '-' then none
      let (_, rest) ← field? 2 0 23 rest
      let rest ← expect? ':' rest
      let (_, rest) ← field? 2 0 59 rest
      return rest
  | [] => none

def clock? : Input → Option Input
  | c :: rest => do
      if c ≠ 'T' && c ≠ 't' && c ≠ ' ' then none
      let rest ← time? rest
      return (offset? rest).getD rest
  | [] => none

def date? (input : Input) : Option Input :=
  match day? input with
  | some rest => some ((clock? rest).getD rest)
  | none => time? input

end ServiceHost.Toml
