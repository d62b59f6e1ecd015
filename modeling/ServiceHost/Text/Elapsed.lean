set_option autoImplicit false

namespace ServiceHost.Elapsed

def decimals (width : Nat) (count : Nat) : String :=
  let digits := (toString count).toList
  let padded := List.replicate (width - digits.length) '0' ++ digits
  let kept := (padded.reverse.dropWhile (· = '0')).reverse
  if kept.isEmpty then "" else "." ++ String.ofList kept

def text (nanos : Nat) : String :=
  if 1000000000 ≤ nanos then toString (nanos / 1000000000) ++ decimals 9 (nanos % 1000000000) ++ "s"
  else if 1000000 ≤ nanos then toString (nanos / 1000000) ++ decimals 6 (nanos % 1000000) ++ "ms"
  else if 1000 ≤ nanos then toString (nanos / 1000) ++ decimals 3 (nanos % 1000) ++ "µs"
  else toString nanos ++ "ns"

def ofMillis (millis : Nat) : String := text (millis * 1000000)

end ServiceHost.Elapsed
