set_option autoImplicit false

namespace ServiceHost.Decimal

def digitValue (c : Char) : Option Nat :=
  let n := c.toNat
  if 48 ≤ n ∧ n ≤ 57 then some (n - 48)
  else if 97 ≤ n ∧ n ≤ 122 then some (n - 87)
  else if 65 ≤ n ∧ n ≤ 90 then some (n - 55)
  else none

def digit? (radix : Nat) (c : Char) : Option Nat := (digitValue c).filter (· < radix)

def digits? (radix : Nat) : List Char → Option Nat
  | [] => none
  | c :: rest => (c :: rest).foldl (fun acc c => acc.bind fun n => (digit? radix c).map (n * radix + ·)) (some 0)

def unsigned? (bound : Nat) (radix : Nat) (text : List Char) : Option Nat :=
  (match text with
    | '+' :: rest => digits? radix rest
    | other => digits? radix other).filter (· < bound)

def signed? (width : Nat) (text : List Char) : Option Int :=
  let value := match text with
    | '-' :: rest => (digits? 10 rest).map fun n => -(n : Int)
    | '+' :: rest => (digits? 10 rest).map Int.ofNat
    | other => (digits? 10 other).map Int.ofNat
  value.filter fun n => decide (-(Nat.pow 2 (width - 1) : Int) ≤ n ∧ n < Nat.pow 2 (width - 1))

def port? (text : List Char) : Option UInt16 := (unsigned? 65536 10 text).map UInt16.ofNat

end ServiceHost.Decimal
