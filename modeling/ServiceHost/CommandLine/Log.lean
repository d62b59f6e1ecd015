import ServiceHost.Text.Blank

set_option autoImplicit false

namespace ServiceHost.CommandLine.Log

def commandTarget : String := "servicekit"

inductive Directive where
  | forAll (shown : Bool)
  | forTarget (target : String) (shown : Bool)
  | forSpan
deriving DecidableEq, Repr

def level? (text : String) : Option Bool :=
  let name := text.toLower
  if name = "off" ∨ name = "0" then some false
  else if name ∈ ["error", "warn", "info", "debug", "trace", "1", "2", "3", "4", "5"] then some true
  else none

def isTargetChar (c : Char) : Bool := c.isAlphanum || c = '_' || c = ':' || c = '-' || 0x80 ≤ c.toNat

def ofText? (text : String) : Option Directive :=
  match level? text with
  | some shown => some (.forAll shown)
  | none =>
      let chars := text.toList
      let target := chars.takeWhile isTargetChar
      match target, chars.dropWhile isTargetChar with
      | _, '[' :: _ => some .forSpan
      | [], _ => none
      | _, [] => some (.forTarget (String.ofList target) true)
      | _, ['='] => some (.forTarget (String.ofList target) true)
      | _, '=' :: value => (level? (String.ofList value)).map (.forTarget (String.ofList target) ·)
      | _, _ => none

def parts (filter : String) : List String := (Text.split ',' filter).filter (· ≠ "")

def fit? (target : String) : Directive → Option (Nat × Bool)
  | .forAll shown => some (0, shown)
  | .forTarget name shown => if target.startsWith name then some (name.length, shown) else none
  | .forSpan => none

def showsErrorsOf (target : String) (directives : List Directive) : Bool :=
  if directives.isEmpty then true
  else
    ((directives.filterMap (fit? target)).foldl
      (fun best found =>
        match best with
        | none => some found
        | some chosen => if chosen.1 ≤ found.1 then some found else some chosen)
      none).any (·.2)

def defaultFilter (level : String) : String := commandTarget ++ "=" ++ level ++ "," ++ level

-- Whether errors of the command are shown. A filter from the environment counts instead of the level if
-- it can be read throughout; in the other, directives that cannot be read are skipped.
def showsErrors (filter : Option String) (level : String) : Bool :=
  let fallback := showsErrorsOf commandTarget ((parts (defaultFilter level)).filterMap ofText?)
  match filter with
  | none => fallback
  | some text =>
      match (parts text).mapM ofText? with
      | some directives => showsErrorsOf commandTarget directives
      | none => fallback

end ServiceHost.CommandLine.Log
