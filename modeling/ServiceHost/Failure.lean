import ServiceHost.Discovery.DialError
import ServiceHost.Settings.Error
import ServiceHost.Upgrade.State

set_option autoImplicit false

namespace ServiceHost

inductive ListenerError where
  | bind (cause : String)
  | accept (cause : String)
deriving DecidableEq, Repr

namespace ListenerError

def cause : ListenerError → String
  | .bind cause => cause
  | .accept cause => cause

def message : ListenerError → String
  | .bind cause => "Failed to bind: " ++ cause
  | .accept cause => "Failed to accept: " ++ cause

end ListenerError

inductive RegistrationError where
  | grant (error : StoreError)
  | put (key : String) (error : StoreError)
  | leaseExpired (id : LeaseId) (error : StoreError)
deriving DecidableEq, Repr

def RegistrationError.message : RegistrationError → String
  | .grant error => "lease grant failed: " ++ error.message
  | .put key error => "put " ++ key ++ " failed: " ++ error.message
  | .leaseExpired id error => s!"lease {id} expired: " ++ error.message

inductive Failure where
  | config (error : ConfigError)
  | bind (cause : String)
  | dial (error : DialError)
  | store (error : StoreError)
  | upgrade (error : Upgrade.Error)
  | io (cause : String)
deriving DecidableEq, Repr

namespace Failure

def ofListener (error : ListenerError) : Failure := .bind error.cause

def message : Failure → String
  | .config error => "configuration error: " ++ error.message
  | .bind cause => "bind error: " ++ cause
  | .dial error => "dial error: " ++ error.message
  | .store error => "store error: " ++ error.message
  | .upgrade error => "upgrade error: " ++ error.message
  | .io cause => "io error: " ++ cause

end Failure

end ServiceHost
