import ServiceHost.Http.Message

set_option autoImplicit false

namespace ServiceHost.Http

inductive TargetError where
  | character
  | tooLong
deriving DecidableEq, Repr

def TargetError.message : TargetError → String
  | .character => "invalid uri character"
  | .tooLong => "uri too long"

namespace Target

def maxSize : Nat := 65534

def isPathByte (byte : UInt8) : Bool :=
  byte = 0x21 || byte = 0x22 || (0x24 ≤ byte && byte ≤ 0x3B) || byte = 0x3D || (0x40 ≤ byte && byte ≤ 0x5F)
    || (0x61 ≤ byte && byte ≤ 0x7E) || 0x7F ≤ byte

def isQueryByte (byte : UInt8) : Bool :=
  byte = 0x21 || (0x24 ≤ byte && byte ≤ 0x3B) || byte = 0x3D || 0x3F ≤ byte

def withoutFragment (target : List Char) : List Char := target.takeWhile (· ≠ '#')

def path (target : List Char) : List Char := (withoutFragment target).takeWhile (· ≠ '?')

def query? (target : List Char) : Option (List Char) :=
  match (withoutFragment target).dropWhile (· ≠ '?') with
  | _ :: query => some query
  | [] => none

def fault? (target : String) : Option TargetError :=
  if maxSize < target.utf8ByteSize then some .tooLong
  else if ((path target.toList).flatMap String.utf8EncodeChar).all isPathByte
      && (((query? target.toList).getD []).flatMap String.utf8EncodeChar).all isQueryByte then none
  else some .character

end Target

def Request.ofTarget (method : Method) (target : String) (headers : Headers) (body : List UInt8) : Request :=
  { method, headers, body
    path := String.ofList (Target.path target.toList)
    query := (Target.query? target.toList).map String.ofList }

end ServiceHost.Http
