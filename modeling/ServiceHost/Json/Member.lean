import ServiceHost.Json.Basic
import ServiceHost.Text.Hex

set_option autoImplicit false

namespace ServiceHost.Json.Tree

def field (value : Value) (name : String) : Value := (value.member? name).getD .null

def text? (value : Value) (name : String) : Option String :=
  match value.field name with
  | .text t => some t
  | _ => none

def textAt (value : Value) (name : String) : String := (value.text? name).getD ""

def int? (value : Value) (name : String) : Option Int :=
  match value.field name with
  | .number n => n.toInt?
  | _ => none

def natAt (value : Value) (name : String) (default : Nat) : Nat :=
  ((value.int? name).map Int.toNat).getD default

def boolAt (value : Value) (name : String) (default : Bool) : Bool :=
  match value.field name with
  | .bool b => b
  | _ => default

def items : Value → List Value
  | .array items => items
  | _ => []

def itemsAt (value : Value) (name : String) : List Value := (value.field name).items

def asText : Value → String
  | .text t => t
  | _ => ""

def textsAt (value : Value) (name : String) : List String := (value.itemsAt name).map asText

def asPair : Value → String × String
  | .array [.text a, .text b] => (a, b)
  | _ => ("", "")

def pairsAt (value : Value) (name : String) : List (String × String) := (value.itemsAt name).map asPair

def bytesAt (value : Value) (name : String) : List UInt8 :=
  match value.text? (name ++ "_hex") with
  | some digits => Hex.decode digits.toList
  | none => Utf8.encode (value.textAt name)

def ofBytes (bytes : List UInt8) : Value :=
  match Utf8.decode? bytes with
  | some t => .text t
  | none => .object [("hex", .text (Hex.encode bytes))]

def ofOption {α : Type} (f : α → Value) : Option α → Value
  | some a => f a
  | none => .null

end ServiceHost.Json.Tree
