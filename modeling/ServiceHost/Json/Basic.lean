import ServiceHost.Table
import ServiceHost.Text.Utf8

/-!
The data of the JSON notation. A tree is read with its string literals as written and keeps them so
until somebody asks for their text: a literal that denotes no text is an error only where its text
is wanted. A value is a tree whose literals have been resolved.
-/

set_option autoImplicit false

namespace ServiceHost.Json

structure Numeral where
  negative : Bool := false
  whole : Nat
  fraction : Option String := none
  exponent : Option Int := none
deriving DecidableEq, Repr

namespace Numeral

def ofInt (n : Int) : Numeral := { negative := n < 0, whole := n.natAbs }

-- The whole number meant by a numeral without fraction and exponent. Minus zero is not one.
def toInt? (n : Numeral) : Option Int :=
  if n.fraction.isNone && n.exponent.isNone && !(n.negative && n.whole = 0) then
    some (if n.negative then -(n.whole : Int) else n.whole)
  else none

def toI64? (n : Numeral) : Option Int :=
  n.toInt?.filter fun i => decide (-0x8000000000000000 ≤ i ∧ i < 0x8000000000000000)

def toU64? (n : Numeral) : Option Nat :=
  (n.toInt?.filter fun i => decide (0 ≤ i ∧ i < 0x10000000000000000)).map Int.toNat

-- The least magnitude that rounds to no double: half a unit above the greatest double.
def doubleLimit : Nat := Nat.pow 2 1024 - Nat.pow 2 970

def isFinite (n : Numeral) : Bool :=
  let fraction := n.fraction.getD ""
  let digits := fraction.toList.foldl (fun acc c => acc * 10 + (c.toNat - 48)) n.whole
  let scale := n.exponent.getD 0 - fraction.length
  if digits = 0 then true
  else if scale > 400 then false
  else if scale ≥ 0 then digits * Nat.pow 10 scale.toNat < doubleLimit
  else if scale < -(100000 : Int) then true
  else digits < doubleLimit * Nat.pow 10 scale.natAbs

def text (n : Numeral) : String :=
  (if n.negative then "-" else "") ++ toString n.whole
    ++ (match n.fraction with
        | some digits => "." ++ digits
        | none => "")
    ++ (match n.exponent with
        | some e => "e" ++ toString e
        | none => "")

end Numeral

inductive Glyph where
  | byte (b : UInt8)
  | unit (code : Nat)
deriving DecidableEq, Repr

abbrev Literal := List Glyph

namespace Literal

def ofString (text : String) : Literal := (Utf8.encode text).map .byte

def isLeading (code : Nat) : Bool := 0xD800 ≤ code && code ≤ 0xDBFF
def isTrailing (code : Nat) : Bool := 0xDC00 ≤ code && code ≤ 0xDFFF

def scalarOfPair (leading trailing : Nat) : Char :=
  Char.ofNat (0x10000 + (leading - 0xD800) * 0x400 + (trailing - 0xDC00))

-- The bytes meant, a leading and a trailing surrogate together being one scalar value.
def bytes (found : List UInt8) : Literal → Option (List UInt8)
  | [] => some found.reverse
  | .byte b :: rest => bytes (b :: found) rest
  | .unit a :: .unit b :: rest =>
      if isLeading a then
        if isTrailing b then bytes ((String.utf8EncodeChar (scalarOfPair a b)).reverse ++ found) rest
        else none
      else if isTrailing a then none
      else bytes ((String.utf8EncodeChar (Char.ofNat a)).reverse ++ found) (.unit b :: rest)
  | .unit a :: rest =>
      if isLeading a || isTrailing a then none
      else bytes ((String.utf8EncodeChar (Char.ofNat a)).reverse ++ found) rest

def text? (literal : Literal) : Option String := (bytes [] literal).bind Utf8.decode?

end Literal

inductive Tree (α : Type) where
  | null
  | bool (b : Bool)
  | number (n : Numeral)
  | text (t : α)
  | array (items : List (Tree α))
  | object (members : List (α × Tree α))
deriving Inhabited

abbrev Syntax := Tree Literal
abbrev Value := Tree String

-- How deep a value may nest. Syntax may nest to any depth.
def maxDepth : Nat := 127

mutual
def Tree.resolve (depth : Nat) : Syntax → Option Value
  | .null => some .null
  | .bool b => some (.bool b)
  | .number n => if n.isFinite then some (.number n) else none
  | .text t => (Literal.text? t).map .text
  | .array items => if depth = 0 then none else (resolveItems (depth - 1) items).map .array
  | .object members => if depth = 0 then none else (resolveMembers (depth - 1) members).map .object

def resolveItems (depth : Nat) : List Syntax → Option (List Value)
  | [] => some []
  | item :: rest => do
      let value ← item.resolve depth
      let values ← resolveItems depth rest
      return value :: values

def resolveMembers (depth : Nat) : List (Literal × Syntax) → Option (List (String × Value))
  | [] => some []
  | (name, item) :: rest => do
      let text ← name.text?
      let value ← item.resolve depth
      let values ← resolveMembers depth rest
      return (text, value) :: values
end

def Tree.value? (tree : Syntax) : Option Value := tree.resolve maxDepth

namespace Tree

def ofInt {α : Type} (n : Int) : Tree α := .number (.ofInt n)
def ofNat {α : Type} (n : Nat) : Tree α := .number { whole := n }

def toI64? {α : Type} : Tree α → Option Int
  | .number n => n.toI64?
  | _ => none

def member? (name : String) : Value → Option Value
  | .object members => (members.reverse.find? (·.1 == name)).map (·.2)
  | _ => none

mutual
def sorted : Value → Value
  | .array items => .array (sortedItems items)
  | .object members => .object (Table.ofList (sortedMembers members)).entries
  | other => other

def sortedItems : List Value → List Value
  | [] => []
  | item :: rest => item.sorted :: sortedItems rest

def sortedMembers : List (String × Value) → List (String × Value)
  | [] => []
  | (name, item) :: rest => (name, item.sorted) :: sortedMembers rest
end

end Tree

end ServiceHost.Json
