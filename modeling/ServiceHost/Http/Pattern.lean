/-!
Path patterns. A segment of a pattern is literal text, or text followed by a capture that stands for
one or more further characters of the segment; a capture at the very end may take the rest of the
path, slashes included. Captures are written in braces, the second kind with a star, and a doubled
brace stands for the brace itself.
-/

set_option autoImplicit false

namespace ServiceHost.Http

abbrev Captures := List (String × List Char)

inductive Segment where
  | literal (text : List Char)
  | capture (stem : List Char) (name : String)
  | remainder (stem : List Char) (name : String)
deriving DecidableEq, Repr

abbrev Pattern := List Segment

def segments? : List Char → Option (List (List Char))
  | '/' :: path => some (path.splitOn '/')
  | _ => none

namespace Segment

def readStem : List Char → Option (List Char × List Char)
  | '\x7b' :: '\x7b' :: rest => (readStem rest).map fun (stem, left) => ('\x7b' :: stem, left)
  | '\x7b' :: rest => some ([], '\x7b' :: rest)
  | '\x7d' :: '\x7d' :: rest => (readStem rest).map fun (stem, left) => ('\x7d' :: stem, left)
  | '\x7d' :: _ => none
  | c :: rest => (readStem rest).map fun (stem, left) => (c :: stem, left)
  | [] => some ([], [])

def readName : List Char → Option (List Char × List Char)
  | '\x7b' :: '\x7b' :: rest => (readName rest).map fun (name, left) => ('\x7b' :: name, left)
  | '\x7d' :: '\x7d' :: rest => (readName rest).map fun (name, left) => ('\x7d' :: name, left)
  | '\x7d' :: rest => some ([], rest)
  | '*' :: _ => none
  | c :: rest => (readName rest).map fun (name, left) => (c :: name, left)
  | [] => none

def finishName : Option (List Char × List Char) → Option String
  | some (c :: name, []) => if c = '\x7d' then none else some (String.ofList (c :: name))
  | _ => none

def ofChars? (text : List Char) : Option Segment :=
  if text.head? = some ':' || text.head? = some '*' then none
  else
    match readStem text with
    | some (stem, []) => some (.literal stem)
    | some (stem, _ :: '*' :: name) => (finishName (readName name)).map (.remainder stem)
    | some (stem, _ :: name) => (finishName (readName name)).map (.capture stem)
    | none => none

def takesRemainder : Segment → Bool
  | .remainder _ _ => true
  | _ => false

def precedes : Segment → Segment → Bool
  | .literal _, .literal _ => false
  | .literal _, _ => true
  | _, .literal _ => false
  | .capture a _, .capture b _ => b.length < a.length
  | .capture a _, .remainder b _ => b.length < a.length
  | .remainder a _, .capture b _ => b.length < a.length
  | .remainder a _, .remainder b _ => b.length < a.length

end Segment

namespace Pattern

def ofSegments? : List (List Char) → Option Pattern
  | [] => some []
  | part :: parts => do
      let segment ← Segment.ofChars? part
      let pattern ← ofSegments? parts
      if segment.takesRemainder && !pattern.isEmpty then none else return segment :: pattern

def ofText? (text : String) : Option Pattern := (segments? text.toList).bind ofSegments?

def afterStem? (stem part : List Char) : Option (List Char) :=
  if stem.isPrefixOf part && stem.length < part.length then some (part.drop stem.length) else none

def captures? : Pattern → List (List Char) → Option Captures
  | [], [] => some []
  | .literal text :: pattern, part :: parts => if text = part then captures? pattern parts else none
  | .capture stem name :: pattern, part :: parts => do
      let taken ← afterStem? stem part
      let captures ← captures? pattern parts
      return (name, taken) :: captures
  | .remainder stem name :: _, part :: parts =>
      (afterStem? stem (['/'].intercalate (part :: parts))).map fun taken => [(name, taken)]
  | _, _ => none

def precedes : Pattern → Pattern → Bool
  | a :: as, b :: bs => a.precedes b || (!b.precedes a && precedes as bs)
  | _, _ => false

def conflicts : Pattern → Pattern → Bool
  | [], [] => true
  | .literal a :: as, .literal b :: bs => a = b && conflicts as bs
  | .capture a _ :: as, .capture b _ :: bs => a = b && conflicts as bs
  | .remainder a _ :: _, .remainder b _ :: _ => a = b
  | .remainder a _ :: _, .capture b _ :: _ => a = b
  | .capture a _ :: _, .remainder b _ :: _ => a = b
  | _, _ => false

end Pattern

end ServiceHost.Http
