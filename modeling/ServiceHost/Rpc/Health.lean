import ServiceHost.Http.Handler
import ServiceHost.Json.Record
import ServiceHost.Rpc.Services

set_option autoImplicit false

namespace ServiceHost

inductive Serving where
  | serving
  | notServing
deriving DecidableEq, Repr

def Serving.name : Serving → String
  | .serving => "SERVING"
  | .notServing => "NOT_SERVING"

namespace Rpc

structure Health where
  known : List String
  stopping : Bool := false

namespace Health

def ofNames (service : String) (rpc : List String) : Health := { known := "" :: service :: rpc }

def stop (health : Health) : Health := { health with stopping := true }

def check (health : Health) (service : String) : Except Status Serving :=
  if service ∉ health.known then .error { code := .notFound, message := "unknown service " ++ service }
  else .ok (if health.stopping then .notServing else .serving)

def descriptor : Descriptor := { name := "grpc.health.v1.Health", methods := ["Check"] }

def asked? (body : List UInt8) : Option String :=
  if body.isEmpty then some "" else (Json.read body).bind (Json.onlyText? "service" (some ""))

def respond : Except Status Serving → Http.Response
  | .ok answer => .ofJson (.object [("status", .text answer.name)])
  | .error status => status.response

def malformed : Status := { code := .invalidArgument, message := "malformed health check" }

def handler (health : Health) : Http.Handler := fun call =>
  .answered (match asked? call.request.body with
    | some service => respond (health.check service)
    | none => malformed.response)

def service (health : Health) : Service := { descriptor, handler := Http.Accepts.post.only health.handler }

end Health

end Rpc

namespace Http

structure HealthReport where
  service : String
  version : String
  pid : Nat
deriving DecidableEq, Repr

namespace HealthReport

def toJson (report : HealthReport) : Json.Value :=
  .object [("status", .text "ok"), ("service", .text report.service), ("version", .text report.version),
    ("pid", .ofNat report.pid)]

def path : String := "/health"

def routes (report : HealthReport) : Router Handler :=
  ((Pattern.ofText? path).map fun pattern =>
    { pattern, accepts := Accepts.get, handler := fun _ => .answered (.ofJson report.toJson) }).toList

end HealthReport

end Http

end ServiceHost
