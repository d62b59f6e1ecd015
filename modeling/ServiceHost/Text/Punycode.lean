set_option autoImplicit false

namespace ServiceHost.Punycode

def digitChar (d : Nat) : Char := if d < 26 then Char.ofNat (97 + d) else Char.ofNat (22 + d)

def digitValue? (c : Char) : Option Nat :=
  let n := c.toNat
  if 97 ≤ n ∧ n ≤ 122 then some (n - 97)
  else if 65 ≤ n ∧ n ≤ 90 then some (n - 65)
  else if 48 ≤ n ∧ n ≤ 57 then some (n - 22)
  else none

def threshold (position bias : Nat) : Nat :=
  if position ≤ bias then 1 else if bias + 26 ≤ position then 26 else position - bias

def adaptSteps : Nat → Nat → Nat → Nat
  | 0, delta, steps => steps + 36 * delta / (delta + 38)
  | fuel + 1, delta, steps =>
      if 455 < delta then adaptSteps fuel (delta / 35) (steps + 36) else steps + 36 * delta / (delta + 38)

def adapt (delta count : Nat) (first : Bool) : Nat :=
  let delta := if first then delta / 700 else delta / 2
  adaptSteps 64 (delta + delta / count) 0

def encodeDelta (bias : Nat) : Nat → Nat → Nat → List Char
  | 0, _, _ => []
  | fuel + 1, position, q =>
      let t := threshold position bias
      if q < t then [digitChar q]
      else digitChar (t + (q - t) % (36 - t)) :: encodeDelta bias fuel (position + 36) ((q - t) / (36 - t))

structure State where
  next : Nat := 128
  delta : Nat := 0
  bias : Nat := 72
  handled : Nat

def encodePass (m basic : Nat) (label : List Nat) (state : State) : State × List Char :=
  label.foldl
    (fun (state, out) c =>
      if c < m then ({ state with delta := state.delta + 1 }, out)
      else if c = m then
        let digits := encodeDelta state.bias 16 36 state.delta
        ({ state with
            delta := 0
            bias := adapt state.delta (state.handled + 1) (state.handled = basic)
            handled := state.handled + 1 }, out ++ digits)
      else (state, out))
    (state, [])

def encodeFrom (basic : Nat) (label : List Nat) : Nat → State → List Char
  | 0, _ => []
  | fuel + 1, state =>
      match (label.filter (state.next ≤ ·)).min? with
      | none => []
      | some m =>
          let state := { state with delta := state.delta + (m - state.next) * (state.handled + 1), next := m }
          let (state, out) := encodePass m basic label state
          out ++ encodeFrom basic label fuel { state with delta := state.delta + 1, next := m + 1 }

def encode (label : List Char) : List Char :=
  let basic := label.filter (·.toNat < 128)
  let codes := label.map Char.toNat
  basic ++ (if basic.isEmpty then [] else ['-'])
    ++ encodeFrom basic.length codes codes.length { handled := basic.length }

def decodeDelta (bias position weight total : Nat) : List Char → Option (Nat × List Char)
  | [] => none
  | c :: rest => do
      let d ← digitValue? c
      let total := total + d * weight
      let t := threshold position bias
      if d < t then some (total, rest) else decodeDelta bias (position + 36) (weight * (36 - t)) total rest

def decodeFrom (basic : Nat) : Nat → Nat → Nat → Nat → List Nat → List Char → Option (List Nat)
  | _, _, _, _, found, [] => some found
  | 0, _, _, _, _, _ => none
  | fuel + 1, next, index, bias, found, digits => do
      let (delta, rest) ← decodeDelta bias 36 1 0 digits
      let index := index + delta
      let size := found.length + 1
      let code := next + index / size
      if 0x10FFFF < code then none
      let place := index % size
      decodeFrom basic fuel code (place + 1) (adapt delta size (found.length = basic))
        (found.take place ++ code :: found.drop place) rest

def decode? (label : List Char) : Option (List Char) := do
  let reversed := label.reverse
  let digits := (reversed.takeWhile (· ≠ '-')).reverse
  let basic := ((reversed.dropWhile (· ≠ '-')).drop 1).reverse
  let codes ← decodeFrom basic.length (digits.length + 1) 128 0 72 (basic.map Char.toNat) digits
  if codes.all fun n => n.isValidChar then some (codes.map Char.ofNat) else none

end ServiceHost.Punycode
