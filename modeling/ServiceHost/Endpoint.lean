import ServiceHost.Table
import ServiceHost.Json.Reader
import ServiceHost.Json.Printer

set_option autoImplicit false

namespace ServiceHost

structure Endpoint where
  address : String
  metadata : Table String := ∅

namespace Endpoint

instance : BEq Endpoint := ⟨fun a b => a.address == b.address && a.metadata == b.metadata⟩

def toJson (endpoint : Endpoint) : Json.Value :=
  .object [("Addr", .text endpoint.address),
    ("Metadata", .object (endpoint.metadata.entries.map fun (key, value) => (key, .text value)))]

def encode (endpoint : Endpoint) : List UInt8 := endpoint.toJson.renderBytes

def text? : Json.Syntax → Option String
  | .text literal => literal.text?
  | _ => none

def metadata? : Json.Syntax → Option (Table String)
  | .null => some ∅
  | .object members => do
      let pairs ← members.mapM fun (name, item) => do
        let key ← name.text?
        let value ← text? item
        return (key, value)
      return Table.ofList pairs
  | _ => none

def readMember (found : Option String × Option (Table String)) (member : Json.Literal × Json.Syntax) :
    Option (Option String × Option (Table String)) := do
  let name ← member.1.text?
  if name = "Addr" then
    if found.1.isSome then none
    let address ← text? member.2
    return (some address, found.2)
  else if name = "Metadata" then
    if found.2.isSome then none
    let metadata ← metadata? member.2
    return (found.1, some metadata)
  else return found

def ofSyntax? : Json.Syntax → Option Endpoint
  | .object members => do
      let (address, metadata) ← members.foldlM readMember (none, none)
      return { address := ← address, metadata := metadata.getD ∅ }
  | .array [address] => (text? address).map fun address => { address }
  | .array [address, metadata] => do return { address := ← text? address, metadata := ← metadata? metadata }
  | _ => none

def decode? (bytes : List UInt8) : Option Endpoint := (Json.read bytes).bind ofSyntax?

end Endpoint

end ServiceHost
