import ServiceHost.Address.Dialable
import ServiceHost.Rpc.Status
import ServiceHost.Store.Error
import ServiceHost.Text.Elapsed
import ServiceHost.Text.Quoted

set_option autoImplicit false

namespace ServiceHost

inductive DialError where
  | timeout (nanos : Nat)
  | noEndpoints (channel : String)
  | connect (address cause : String)
  | closed
  | invalidEndpoint (text : String)
  | rpc (status : Rpc.Status)
  | request (text : String)
  | store (error : StoreError)
deriving DecidableEq, Repr

def DialError.message : DialError → String
  | .timeout nanos => "no reachable endpoint after " ++ Elapsed.text nanos
  | .noEndpoints channel => "no endpoints registered for " ++ channel
  | .connect address cause => "connect to " ++ address ++ " failed: " ++ cause
  | .closed => "channel closed"
  | .invalidEndpoint text => "invalid endpoint " ++ Text.quoted text
  | .rpc status => "rpc failed: " ++ status.text
  | .request text => "request failed: " ++ text
  | .store error => "discovery failed: " ++ error.message

def Address.reduce (toAscii : Url.ToAscii) (endpoint : String) : Except DialError String :=
  match reduce? toAscii endpoint with
  | some address => .ok address
  | none => .error (.invalidEndpoint endpoint)

def Address.dialable (endpoint : String) : Except DialError String := reduce Url.foldedAscii? endpoint

end ServiceHost
