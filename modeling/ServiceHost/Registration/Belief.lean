import ServiceHost.Store.Error

set_option autoImplicit false

namespace ServiceHost.Registration

inductive Belief where
  | unbound
  | bound (id : LeaseId)
  | renewing (id : LeaseId)
deriving DecidableEq, Repr

namespace Belief

def bind (_ : Belief) (id : LeaseId) : Belief := .bound id

def beginRenewal : Belief → Option LeaseId × Belief
  | .bound id => (some id, .renewing id)
  | other => (none, other)

def renewed : Belief → Belief
  | .renewing id => .bound id
  | other => other

def reset (_ : Belief) : Belief := .unbound

end Belief

end ServiceHost.Registration
