import ServiceHost.Json.Reader

set_option autoImplicit false

namespace ServiceHost.Json

def Tree.textOf? : Syntax → Option String
  | .text literal => literal.text?
  | _ => none

def readOnly (wanted : String) (found : Option String) (member : Literal × Syntax) : Option (Option String) := do
  let name ← member.1.text?
  if name = wanted then
    if found.isSome then none
    (Tree.textOf? member.2).map some
  else return found

def onlyText? (name : String) (missing : Option String) : Syntax → Option String
  | .object members => do (← members.foldlM (readOnly name) none).or missing
  | .array [] => missing
  | .array [item] => Tree.textOf? item
  | _ => none

end ServiceHost.Json
