import ServiceHost.Text.Blank
import ServiceHost.Text.Percent

set_option autoImplicit false

namespace ServiceHost.Http.Query

def decode (text : List Char) : String :=
  let bytes := (text.map fun c => if c = '+' then ' ' else c).flatMap String.utf8EncodeChar
  Utf8.decodeLossy (Percent.decode Percent.pairValue bytes)

def pair (part : List Char) : String × String :=
  (decode (part.takeWhile (· ≠ '=')), decode ((part.dropWhile (· ≠ '=')).drop 1))

def pairs (query : String) : List (String × String) :=
  ((query.toList.splitOn '&').filter (· ≠ [])).map pair

def all (name : String) (query : String) : List String :=
  ((pairs query).filter (·.1 == name)).map (·.2)

end ServiceHost.Http.Query
