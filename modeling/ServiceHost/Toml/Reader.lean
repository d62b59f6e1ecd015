import ServiceHost.Toml.Basic
import ServiceHost.Toml.Scalar

set_option autoImplicit false

namespace ServiceHost.Toml

def depthLimit : Nat := 80

def isBareChar (c : Char) : Bool := c.isAlphanum || c = '_' || c = '-'

def keyPart? : Input → Option (String × Input)
  | '"' :: rest => basicString (rest.length + 1) [] rest
  | '\'' :: rest => literalString [] rest
  | input =>
      let word := input.takeWhile isBareChar
      if word.isEmpty then none else some (String.ofList word, input.dropWhile isBareChar)

def keyParts : Nat → List String → Input → Option (List String × Input)
  | 0, _, _ => none
  | fuel + 1, found, input => do
      let (part, rest) ← keyPart? (skipBlanks input)
      match skipBlanks rest with
      | '.' :: rest => keyParts fuel (part :: found) rest
      | rest => some ((part :: found).reverse, rest)

def key? (input : Input) : Option (List String × Input) := do
  let (path, rest) ← keyParts (input.length + 1) [] input
  if path.length < depthLimit then some (path, rest) else none

def word? (word : String) (input : Input) : Option Input :=
  if word.toList.isPrefixOf input then some (input.drop word.length) else none

def scalar? (input : Input) : Option (Value × Input) :=
  match input with
  | [] => none
  | c :: _ =>
      if c = '"' || c = '\'' then (string? input).map fun (t, rest) => (.text t, rest)
      else if c = 't' then (word? "true" input).map fun rest => (.bool true, rest)
      else if c = 'f' then (word? "false" input).map fun rest => (.bool false, rest)
      else if c = 'i' || c = 'n' then (specialReal? input).map fun rest => (.real, rest)
      else if c = '+' || c = '-' || c.isDigit then
        match date? input with
        | some rest => some (.date, rest)
        | none =>
            match real? input with
            | some rest => some (.real, rest)
            | none => (integer? input).map fun (n, rest) => (.integer n, rest)
      else none

mutual
def value? (fuel depth : Nat) (input : Input) : Option (Value × Input) :=
  match fuel with
  | 0 => none
  | fuel + 1 =>
      match input with
      | '[' :: rest =>
          if depth ≤ 1 then none
          else
            match skipLines rest.length rest with
            | ']' :: rest => some (.array [], rest)
            | rest => items? fuel (depth - 1) [] rest
      | '\x7b' :: rest =>
          if depth ≤ 1 then none
          else
            match skipBlanks rest with
            | '\x7d' :: rest => some (.table [], rest)
            | rest => members? fuel (depth - 1) [] rest
      | other => scalar? other

def items? (fuel depth : Nat) (found : List Value) (input : Input) : Option (Value × Input) :=
  match fuel with
  | 0 => none
  | fuel + 1 =>
      match value? fuel depth input with
      | none => none
      | some (item, rest) =>
          match skipLines rest.length rest with
          | ']' :: rest => some (.array (item :: found).reverse, rest)
          | ',' :: rest =>
              match skipLines rest.length rest with
              | ']' :: rest => some (.array (item :: found).reverse, rest)
              | rest => items? fuel depth (item :: found) rest
          | _ => none

def members? (fuel depth : Nat) (found : Members) (input : Input) : Option (Value × Input) :=
  match fuel with
  | 0 => none
  | fuel + 1 =>
      match key? input with
      | none => none
      | some (path, '=' :: rest) =>
          match value? fuel depth (skipBlanks rest) with
          | none => none
          | some (item, rest) =>
              match Members.assign path item found with
              | none => none
              | some found =>
                  match skipBlanks rest with
                  | '\x7d' :: rest => some (.table (freezeMembers found), rest)
                  | ',' :: rest => members? fuel depth found rest
                  | _ => none
      | some _ => none
end

def endLine? (input : Input) : Option Input :=
  match skipComment (skipBlanks input) with
  | [] => some []
  | rest => newline? rest

def line? (draft : Draft) (input : Input) : Option (Draft × Input) :=
  match input with
  | '#' :: _ => (endLine? input).map (draft, ·)
  | '\n' :: _ => (endLine? input).map (draft, ·)
  | '\r' :: _ => (endLine? input).map (draft, ·)
  | '[' :: '[' :: rest => do
      let (path, rest) ← key? rest
      match rest with
      | ']' :: ']' :: rest =>
          let draft ← draft.openElement path
          let rest ← endLine? rest
          return (draft, rest)
      | _ => none
  | '[' :: rest => do
      let (path, rest) ← key? rest
      match rest with
      | ']' :: rest =>
          let draft ← draft.openTable path
          let rest ← endLine? rest
          return (draft, rest)
      | _ => none
  | _ => do
      let (path, rest) ← key? input
      match rest with
      | '=' :: rest =>
          let rest := skipBlanks rest
          let (item, rest) ← value? (2 * rest.length + 2) depthLimit rest
          let draft ← draft.assign path item
          let rest ← endLine? rest
          return (draft, rest)
      | _ => none

def lines? : Nat → Draft → Input → Option Draft
  | 0, _, _ => none
  | fuel + 1, draft, input =>
      match skipBlanks input with
      | [] => some draft
      | rest => do
          let (draft, rest) ← line? draft rest
          lines? fuel draft rest

def read (text : String) : Option Value := do
  let input := match text.toList with
    | '\uFEFF' :: rest => rest
    | other => other
  let draft ← lines? (input.length + 1) {} input
  draft.finish

end ServiceHost.Toml
