set_option autoImplicit false

namespace ServiceHost.Registration

def serviceRoot (root service rpc : String) : String := root ++ "/" ++ service ++ "/" ++ rpc

def key (root service rpc identity : String) : String := serviceRoot root service rpc ++ "/" ++ identity

def identity (host : String) (pid : Nat) : String := host ++ "-pid-" ++ toString pid

end ServiceHost.Registration
