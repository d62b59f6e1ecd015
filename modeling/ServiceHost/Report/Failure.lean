import ServiceHost.Failure
import ServiceHost.Json.Member
import ServiceHost.Plane.Listener

set_option autoImplicit false

namespace ServiceHost

namespace Report

def failed (kind : String) : Json.Value := .object [("error", .text kind)]

def failedWith (kind message : String) : Json.Value :=
  .object [("error", .text kind), ("message", .text message)]

def violations (violations : List Violation) : Json.Value :=
  .array (violations.map fun v => .array [.text v.field, .text v.message])

end Report

open Report

def ConfigError.report (error : ConfigError) : Json.Value :=
  match error with
  | .io _ => failed "Io"
  | .parse _ => failed "Parse"
  | .validation broken =>
      .object [("error", .text "Validation"), ("message", .text error.message), ("errors", violations broken)]
  | .invalid _ => failedWith "Invalid" error.message
  | .storeNotConfigured => failedWith "StoreNotConfigured" error.message

def StoreError.kind : StoreError → String
  | .unavailable => "Unavailable"
  | .leaseNotFound _ => "LeaseNotFound"
  | .backend _ => "Backend"
  | .codec _ => "Codec"

def StoreError.report (error : StoreError) : Json.Value := failedWith error.kind error.message

def DialError.report (error : DialError) : Json.Value :=
  match error with
  | .timeout _ => failedWith "Timeout" error.message
  | .noEndpoints _ => failedWith "NoEndpoints" error.message
  | .connect address _ => failedWith "Connect" address
  | .closed => failedWith "Closed" error.message
  | .invalidEndpoint _ => failedWith "InvalidEndpoint" error.message
  | .rpc _ => failedWith "Rpc" error.message
  | .request _ => failed "Request"
  | .store inner =>
      .object [("error", .text "Store"), ("message", .text error.message), ("store", inner.report)]

def ListenerError.report (error : ListenerError) : Json.Value :=
  let kind := match error with
    | .bind _ => "Bind"
    | .accept _ => "Accept"
  if error.cause = Address.Socket.syntaxMessage then failedWith kind error.message else failed kind

def Upgrade.Error.report (error : Upgrade.Error) : Json.Value :=
  match error with
  | .timeout _ => failedWith "Timeout" error.message
  | .exited _ => failed "ChildExited"
  | .spawn .noListener => failedWith "Spawn" error.message
  | .spawn (.system _) => failed "Spawn"
  | .unsupported => failedWith "Unsupported" error.message
  | .inProgress _ => failedWith "InProgress" error.message
  | .aborted => failedWith "Aborted" error.message

def Failure.report : Failure → Json.Value
  | .config error => error.report
  | .bind _ => failed "Bind"
  | .dial error => error.report
  | .store error => error.report
  | .upgrade error => error.report
  | .io _ => failed "Io"

end ServiceHost
