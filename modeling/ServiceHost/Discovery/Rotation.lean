set_option autoImplicit false

namespace ServiceHost

structure Rotation where
  turn : UInt64 := 0
deriving DecidableEq, Repr

namespace Rotation

def next {α : Type} (rotation : Rotation) (items : List α) : Option α × Rotation :=
  if items.isEmpty then (none, rotation)
  else (items[rotation.turn.toNat % items.length]?, { turn := rotation.turn + 1 })

end Rotation

end ServiceHost
