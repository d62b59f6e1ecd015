import ServiceHost.Http.Query
import ServiceHost.Json.Record
import ServiceHost.Sample
import ServiceHost.Service.Basic

set_option autoImplicit false

namespace ServiceHost.Demo

def echoName : String := "echo.v1.Echo"

def greeting (name : String) (pid : Nat) : Http.Handler := fun _ =>
  .answered (.ofText s!"hello from {name} (pid {pid})\n")

def refusal (status : Nat) (text : String) : Http.Response := { Http.Response.ofText text with status }

def count? (query : String) : Option Nat :=
  match Http.Query.all "count" query with
  | [] => some 20
  | [value] => Decimal.unsigned? 0x100000000 10 value.toList
  | _ => none

def chunk (pid : Nat) (index : Nat) : String := s!"chunk {index} from pid {pid}\n"

def stream (pid : Nat) : Http.Handler := fun call =>
  match count? (call.request.query.getD "") with
  | none => .answered (refusal 400 "Failed to deserialize query string")
  | some count => .answered { body := Utf8.encode (String.join ((List.range count).map (chunk pid))) }

def isJson (headers : Http.Headers) : Bool :=
  match (headers.get? "content-type").bind Http.Headers.readable? with
  | none => false
  | some value =>
      let kind := ((value.takeWhile (· ≠ ';')).toString.trimAscii.toString).toLower
      kind = "application/json" || (kind.startsWith "application/" && kind.endsWith "+json")

def reply (message : String) (pid : Nat) : Http.Response :=
  .ofJson (.object [("message", .text message), ("pid", .ofNat pid)])

def say (pid : Nat) : Http.Handler := fun call =>
  if !isJson call.request.headers then
    .answered (refusal 415 "Expected request with \x60Content-Type: application/json\x60")
  else
    match Json.read call.request.body with
    | none => .answered (refusal 400 "Failed to parse the request body as JSON")
    | some body =>
        match Json.onlyText? "message" none body with
        | none => .answered (refusal 422 "Failed to deserialize the JSON body into the target type")
        | some "" => .answered (Http.Fault.validation "message must not be empty").response
        | some message => .answered (reply message pid)

def echo (pid : Nat) : Rpc.Service :=
  { descriptor := { name := echoName, methods := ["Say"] }
    handler := Http.Accepts.post.only (say pid)
    gateway := some (Sample.gateway
      [{ route := "/v1/echo/\x7bmessage\x7d", service := echoName, method := "Say" }]) }

def routes? (name : String) (pid : Nat) : Option (Http.Router Http.Handler) := do
  let home ← Http.Pattern.ofText? "/"
  let chunks ← Http.Pattern.ofText? "/stream"
  return [{ pattern := home, accepts := .get, handler := greeting name pid },
    { pattern := chunks, accepts := .get, handler := stream pid }]

def install (pid : Nat) (service : Service) : Except Rpc.RegisterError Service := do
  let rpc ← service.rpc.register (echo pid)
  return { service with rpc, web := (routes? service.name pid).getD [] }

end ServiceHost.Demo
