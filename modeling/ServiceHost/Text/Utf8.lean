/-!
UTF-8. A byte sequence is read in one pass by an automaton whose state is the part of a scalar value
seen so far together with the range of bytes that may follow. A byte outside that range ends the
piece as broken and is read again from the start, so every maximal broken piece is reported once.
-/

set_option autoImplicit false

namespace ServiceHost.Utf8

inductive Scan where
  | idle
  | within (remaining : Nat) (low high : UInt8) (value : Nat)
deriving DecidableEq

inductive Piece where
  | scalar (c : Char)
  | broken
deriving DecidableEq

def lead (byte : UInt8) : Option (Sum Char Scan) :=
  if byte < 0x80 then some (.inl (Char.ofNat byte.toNat))
  else if byte < 0xC2 then none
  else if byte < 0xE0 then some (.inr (.within 1 0x80 0xBF (byte.toNat - 0xC0)))
  else if byte = 0xE0 then some (.inr (.within 2 0xA0 0xBF 0))
  else if byte = 0xED then some (.inr (.within 2 0x80 0x9F 0xD))
  else if byte < 0xF0 then some (.inr (.within 2 0x80 0xBF (byte.toNat - 0xE0)))
  else if byte = 0xF0 then some (.inr (.within 3 0x90 0xBF 0))
  else if byte < 0xF4 then some (.inr (.within 3 0x80 0xBF (byte.toNat - 0xF0)))
  else if byte = 0xF4 then some (.inr (.within 3 0x80 0x8F 4))
  else none

def start (byte : UInt8) : Scan × List Piece :=
  match lead byte with
  | none => (.idle, [.broken])
  | some (.inl c) => (.idle, [.scalar c])
  | some (.inr scan) => (scan, [])

def step : Scan → UInt8 → Scan × List Piece
  | .idle, byte => start byte
  | .within remaining low high value, byte =>
      if low ≤ byte ∧ byte ≤ high then
        let grown := value * 64 + (byte.toNat - 0x80)
        if remaining ≤ 1 then (.idle, [.scalar (Char.ofNat grown)])
        else (.within (remaining - 1) 0x80 0xBF grown, [])
      else
        let again := start byte
        (again.1, .broken :: again.2)

def finish : Scan → List Piece
  | .idle => []
  | .within .. => [.broken]

def run (scan : Scan) (found : List Piece) : List UInt8 → List Piece
  | [] => found.reverse ++ finish scan
  | byte :: rest =>
      let next := step scan byte
      run next.1 (next.2.reverse ++ found) rest

def pieces (bytes : List UInt8) : List Piece := run .idle [] bytes

def Piece.scalar? : Piece → Option Char
  | .scalar c => some c
  | .broken => none

def decode? (bytes : List UInt8) : Option String :=
  ((pieces bytes).mapM Piece.scalar?).map String.ofList

def decodeLossy (bytes : List UInt8) : String :=
  String.ofList ((pieces bytes).map fun piece => piece.scalar?.getD '\uFFFD')

def encode (text : String) : List UInt8 := text.toList.flatMap String.utf8EncodeChar

end ServiceHost.Utf8
