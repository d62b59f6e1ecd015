import ServiceHost.Json.Basic
import ServiceHost.Text.Quoted

set_option autoImplicit false

namespace ServiceHost.Json

def escapeChar (c : Char) : List Char :=
  if c = '"' then ['\\', '"']
  else if c = '\\' then ['\\', '\\']
  else if c = '\x08' then ['\\', 'b']
  else if c = '\x0c' then ['\\', 'f']
  else if c = '\n' then ['\\', 'n']
  else if c = '\r' then ['\\', 'r']
  else if c = '\t' then ['\\', 't']
  else if c.toNat < 0x20 then ['\\', 'u', '0', '0', Text.hexDigit (c.toNat / 16), Text.hexDigit (c.toNat % 16)]
  else [c]

def quote (text : String) : List Char := '"' :: text.toList.flatMap escapeChar ++ ['"']

mutual
def Tree.chars : Value → List Char
  | .null => ['n', 'u', 'l', 'l']
  | .bool true => ['t', 'r', 'u', 'e']
  | .bool false => ['f', 'a', 'l', 's', 'e']
  | .number n => n.text.toList
  | .text t => quote t
  | .array items => '[' :: itemChars items ++ [']']
  | .object members => '\x7b' :: memberChars members ++ ['\x7d']

def itemChars : List Value → List Char
  | [] => []
  | [item] => item.chars
  | item :: rest => item.chars ++ ',' :: itemChars rest

def memberChars : List (String × Value) → List Char
  | [] => []
  | [(name, item)] => quote name ++ ':' :: item.chars
  | (name, item) :: rest => quote name ++ ':' :: item.chars ++ ',' :: memberChars rest
end

def Tree.render (value : Value) : String := String.ofList value.chars

def Tree.renderBytes (value : Value) : List UInt8 := Utf8.encode value.render

end ServiceHost.Json
