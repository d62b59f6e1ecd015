import ServiceHost.Http.Message
import ServiceHost.Json.Member

set_option autoImplicit false

namespace ServiceHost.Http

namespace Headers

def valueOf : Json.Value → List UInt8
  | .text t => Utf8.encode t
  | other => Hex.decode (other.textAt "hex").toList

def ofReport (report : Json.Value) : Headers :=
  report.items.filterMap fun pair =>
    match pair with
    | .array [.text name, value] => some (name, valueOf value)
    | _ => none

def report (shown : List String) (headers : Headers) : Json.Value :=
  .object (shown.filterMap fun name =>
    match headers.all name with
    | [] => none
    | values => some (name, .ofBytes (([10] : List UInt8).intercalate values)))

end Headers

def Response.report (shown : List String) (response : Response) : Json.Value :=
  .object [("status", .ofNat response.status), ("headers", response.headers.report shown),
    ("body", .ofBytes response.body)]

end ServiceHost.Http
