import ServiceHost.Text.Utf8
import ServiceHost.Text.Quoted

set_option autoImplicit false

namespace ServiceHost.Http

abbrev Headers := List (String × List UInt8)

namespace Headers

def sameName (a b : String) : Bool := a.toLower == b.toLower

def get? (headers : Headers) (name : String) : Option (List UInt8) :=
  (headers.find? fun header => sameName header.1 name).map (·.2)

def all (headers : Headers) (name : String) : List (List UInt8) :=
  (headers.filter fun header => sameName header.1 name).map (·.2)

def set (headers : Headers) (name : String) (value : List UInt8) : Headers :=
  headers.filter (fun header => !sameName header.1 name) ++ [(name, value)]

def setText (headers : Headers) (name value : String) : Headers := headers.set name (Utf8.encode value)

def isValueByte (byte : UInt8) : Bool := byte = 9 || (0x20 ≤ byte && byte ≠ 0x7F)

def isVisible (byte : UInt8) : Bool := byte = 9 || (0x20 ≤ byte && byte < 0x7F)

def readable? (value : List UInt8) : Option String :=
  if value.all isVisible then some (String.ofList (value.map fun byte => Char.ofNat byte.toNat)) else none

end Headers

inductive Method where
  | get | head | post | put | delete | options | patch | trace | connect
  | other (name : String)
deriving DecidableEq, Repr

namespace Method

def ofName (name : String) : Method :=
  if name = "GET" then .get
  else if name = "HEAD" then .head
  else if name = "POST" then .post
  else if name = "PUT" then .put
  else if name = "DELETE" then .delete
  else if name = "OPTIONS" then .options
  else if name = "PATCH" then .patch
  else if name = "TRACE" then .trace
  else if name = "CONNECT" then .connect
  else .other name

def name : Method → String
  | .get => "GET"
  | .head => "HEAD"
  | .post => "POST"
  | .put => "PUT"
  | .delete => "DELETE"
  | .options => "OPTIONS"
  | .patch => "PATCH"
  | .trace => "TRACE"
  | .connect => "CONNECT"
  | .other name => name

end Method

structure Request where
  method : Method := .get
  path : String
  query : Option String := none
  headers : Headers := []
  body : List UInt8 := []

inductive Fault where
  | validation (message : String)
  | internal (message : String)
deriving DecidableEq, Repr

-- A response remembers the fault it stands for until a plane has rendered it. What frames a message on its way, such as its
-- length, is not among the headers.
structure Response where
  status : Nat := 200
  headers : Headers := []
  body : List UInt8 := []
  fault : Option Fault := none
deriving DecidableEq

namespace Response

def ofText (text : String) : Response :=
  { headers := [("content-type", Utf8.encode "text/plain; charset=utf-8")], body := Utf8.encode text }

def ofBytes (bytes : List UInt8) : Response :=
  { headers := [("content-type", Utf8.encode "application/octet-stream")], body := bytes }

end Response

end ServiceHost.Http
