set_option autoImplicit false

namespace ServiceHost

abbrev LeaseId := Int

inductive StoreError where
  | unavailable
  | leaseNotFound (id : LeaseId)
  | backend (text : String)
  | codec (text : String)
deriving DecidableEq, Repr

def StoreError.message : StoreError → String
  | .unavailable => "coordination store unavailable"
  | .leaseNotFound id => s!"lease {id} not found or expired"
  | .backend text => "store backend error: " ++ text
  | .codec text => "codec error: " ++ text

end ServiceHost
