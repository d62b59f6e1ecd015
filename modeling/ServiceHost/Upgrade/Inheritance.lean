import ServiceHost.Plane.Listener
import ServiceHost.Text.Decimal

set_option autoImplicit false

namespace ServiceHost.Upgrade

structure Inheritance where
  listener : Option Nat := none
  parent : Option Nat := none
  hasParent : Bool := false
  told : Bool := false
deriving DecidableEq, Repr

namespace Inheritance

def descriptor? (value : Option String) : Option Nat := do
  let number ← Decimal.signed? 32 (← value).toList
  if number < 0 then none else some number.toNat

def ofVariables (listener ready : Option String) : Inheritance :=
  { listener := descriptor? listener
    parent := descriptor? ready
    hasParent := (descriptor? listener).isSome }

def listen (host : Host) (address : String) (inheritance : Inheritance) :
    Except ListenerError (Address.Socket × Bool) × Inheritance :=
  match inheritance.listener with
  | some descriptor => ((host.adopt descriptor).map (·, true), { inheritance with listener := none })
  | none => ((host.bind address).map (·, false), inheritance)

def ready (inheritance : Inheritance) : Inheritance :=
  { inheritance with parent := none, told := inheritance.told || inheritance.parent.isSome }

end Inheritance

end ServiceHost.Upgrade
