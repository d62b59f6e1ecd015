import ServiceHost.Http.Message
import ServiceHost.Json.Printer

set_option autoImplicit false

namespace ServiceHost.Http

namespace Fault

def message : Fault → String
  | .validation message => message
  | .internal message => message

def status : Fault → Nat
  | .validation _ => 400
  | .internal _ => 500

def response (fault : Fault) : Response := { status := fault.status, fault := some fault }

end Fault

inductive Panic where
  | text (message : String)
  | other
deriving DecidableEq, Repr

def Panic.message : Panic → String
  | .text message => message
  | .other => "non-string panic payload"

structure ErrorBody where
  status : Nat
  message : String
  requestId : String
deriving DecidableEq, Repr

def ErrorBody.toJson (body : ErrorBody) : Json.Value :=
  .object [("status", .ofNat body.status), ("message", .text body.message),
    ("request_id", .text body.requestId)]

def Response.ofJson (value : Json.Value) : Response :=
  { headers := [("content-type", Utf8.encode "application/json")], body := value.renderBytes }

def errorResponse (status : Nat) (message requestId : String) : Response :=
  { Response.ofJson (ErrorBody.toJson { status, message, requestId }) with status }

def requestIdHeader : String := "x-request-id"

def requestId (headers : Headers) : String :=
  ((headers.get? requestIdHeader).bind Headers.readable?).getD "unknown"

def serviceHeader : String := "x-service"

def serviceIdentity? (name version build : String) : Option (List UInt8) :=
  let value := Utf8.encode (name ++ "/" ++ version ++ "/" ++ build)
  if value.all Headers.isValueByte then some value else none

end ServiceHost.Http
