import Mathlib.Data.List.Forall2
import ServiceHost.Proofs.Http.Router
import ServiceHost.Proofs.Rpc.Status
import ServiceHost.Rpc.Services

set_option autoImplicit false

namespace ServiceHost

open Http

-- Two outcomes that differ in nothing but what a panic says.
inductive Http.Outcome.Alike : Outcome → Outcome → Prop where
  | answered (response : Response) : Alike (.answered response) (.answered response)
  | panicked (panic another : Panic) : Alike (.panicked panic) (.panicked another)

namespace Rpc

def hushed (handler : Handler) : Handler := fun call =>
  match handler call with
  | .answered response => .answered response
  | .panicked _ => .panicked .other

def Service.hushed (service : Service) : Service := { service with handler := Rpc.hushed service.handler }

-- Two services that differ in nothing but what their handlers say when they panic.
structure Service.Alike (a b : Service) : Prop where
  descriptor : a.descriptor = b.descriptor
  gateway : a.gateway = b.gateway
  handler : ∀ call, (a.handler call).Alike (b.handler call)

namespace Service

end Service

namespace Services

def hushed (services : Services) : Services := { registered := services.registered.map Service.hushed }

def Alike (services others : Services) : Prop := List.Forall₂ Service.Alike services.registered others.registered

end Services

end Rpc

end ServiceHost
