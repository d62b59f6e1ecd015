import ServiceHost.Name
import ServiceHost.Settings.Error
import ServiceHost.Table

set_option autoImplicit false

namespace ServiceHost.Rpc

structure Descriptor where
  name : String
  methods : List String := []
  metadata : Table String := ∅

namespace Descriptor

def path (descriptor : Descriptor) (method : String) : String := "/" ++ descriptor.name ++ "/" ++ method

def methodFault? (name : String) (earlier : List String) : List String → Option ConfigError
  | [] => none
  | method :: rest =>
      if method = "" ∨ '/' ∈ method.toList then
        some (.invalid ("invalid method " ++ Text.quoted method ++ " on " ++ name))
      else if method ∈ earlier then
        some (.invalid ("duplicate method " ++ Text.quoted method ++ " on " ++ name))
      else methodFault? name (method :: earlier) rest

def fault? (descriptor : Descriptor) : Option ConfigError :=
  if !Name.isValid descriptor.name then
    some (.invalid ("invalid rpc service name " ++ Text.quoted descriptor.name))
  else methodFault? descriptor.name [] descriptor.methods

end Descriptor

end ServiceHost.Rpc
