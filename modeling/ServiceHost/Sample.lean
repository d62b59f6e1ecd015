import ServiceHost.Http.Handler
import ServiceHost.Json.Member
import ServiceHost.Json.Reader
import ServiceHost.Rpc.Services

set_option autoImplicit false

namespace ServiceHost

inductive Sample where
  | text (value : String)
  | echo
  | requestId
  | fault (fault : Http.Fault)
  | panic (panic : Http.Panic)
  | status (status : Rpc.Status)
  | plain (status : Nat) (body : String)
  | add
deriving DecidableEq, Repr

namespace Sample

def isI64 (n : Int) : Bool := decide (-0x8000000000000000 ≤ n ∧ n < 0x8000000000000000)

def sum (body : List UInt8) : Except Http.Fault Int :=
  match Json.readValue body with
  | none => .error (.validation "not json")
  | some value =>
      match (value.member? "a").bind Json.Tree.toI64?, (value.member? "b").bind Json.Tree.toI64? with
      | some a, some b => if isI64 (a + b) then .ok (a + b) else .error (.validation "overflow")
      | _, _ => .error (.validation "a and b are required")

def handler (sample : Sample) : Http.Handler := fun call =>
  match sample with
  | .text value => .answered (.ofText value)
  | .echo => .answered (.ofBytes call.request.body)
  | .requestId => .answered (.ofText (Http.requestId call.request.headers))
  | .fault raised => .answered raised.response
  | .panic payload => .panicked payload
  | .status returned => .answered returned.response
  | .plain code body => .answered { Http.Response.ofText body with status := code }
  | .add =>
      match sum call.request.body with
      | .ok n => .answered (.ofJson (.object [("sum", .ofInt n)]))
      | .error problem => .answered problem.response

def decoded? (captured : List Char) : Option String :=
  Utf8.decode? (Percent.decode Percent.pairValue (captured.flatMap String.utf8EncodeChar))

def unreadable (name : String) : Http.Response :=
  { Http.Response.ofText ("Invalid URL: Invalid UTF-8 in \x60" ++ name ++ "\x60") with status := 400 }

structure Forward where
  route : String
  service : String
  method : String
deriving DecidableEq, Repr

def Forward.handler (forward : Forward) (plane : Rpc.Plane) : Http.Handler := fun call =>
  match call.captures with
  | (name, captured) :: _ =>
      match decoded? captured with
      | some message =>
          .answered (plane.invoke forward.service forward.method (.object [("message", .text message)]))
      | none => .answered (unreadable name)
  | [] => .answered { status := 500 }

def gateway (forwards : List Forward) : Rpc.Gateway := fun plane =>
  forwards.filterMap fun forward =>
    (Http.Pattern.ofText? forward.route).map fun pattern =>
      { pattern, accepts := .get, handler := forward.handler plane }

def ofReport (report : Json.Value) : Sample :=
  let message := report.textAt "message"
  let kind := report.textAt "kind"
  if kind = "text" then .text (report.textAt "value")
  else if kind = "echo" then .echo
  else if kind = "request_id" then .requestId
  else if kind = "validation" then .fault (.validation message)
  else if kind = "internal" then .fault (.internal message)
  else if kind = "status" then .status { code := .ofInt ((report.int? "code").getD 0), message }
  else if kind = "http" then .plain (report.natAt "status" 200) (report.textAt "body")
  else if kind = "add" then .add
  else .panic (if report.textAt "payload" = "other" then .other else .text message)

def Forward.ofReport (report : Json.Value) : Forward :=
  { route := report.textAt "route", service := report.textAt "service", method := report.textAt "method" }

def descriptorOf (report : Json.Value) : Rpc.Descriptor :=
  { name := report.textAt "name", methods := report.textsAt "methods",
    metadata := .ofList (report.pairsAt "metadata") }

def serviceOf (report : Json.Value) : Rpc.Service :=
  { descriptor := descriptorOf report
    handler := Http.Accepts.post.only (ofReport (report.field "handler")).handler
    gateway := match report.field "gateway" with
      | .array forwards => some (gateway (forwards.map Forward.ofReport))
      | _ => none }

def routeOf? (report : Json.Value) : Option (Http.Route Http.Handler) :=
  (Http.Pattern.ofText? (report.textAt "path")).map fun pattern =>
    { pattern
      accepts := match report.text? "method" with
        | some "POST" => .post
        | some "ANY" => .any
        | _ => .get
      handler := (ofReport (report.field "handler")).handler }

def routesOf? (reports : List Json.Value) : Option (Http.Router Http.Handler) := do
  Http.Router.addAll? [] (← reports.mapM routeOf?)

end Sample

end ServiceHost
