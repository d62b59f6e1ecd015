import ServiceHost.Http.Handler
import ServiceHost.Http.Target
import ServiceHost.Rpc.Descriptor
import ServiceHost.Rpc.Status

set_option autoImplicit false

namespace ServiceHost.Rpc

abbrev Plane := Http.Request → Http.Response

abbrev Gateway := Plane → List (Http.Route Http.Handler)

structure Service where
  descriptor : Descriptor
  handler : Http.Handler
  gateway : Option Gateway := none

namespace Service

-- One path for each method; without declared methods, any one segment below the name.
def paths (service : Service) : List String :=
  match service.descriptor.methods with
  | [] => [service.descriptor.path "\x7bmethod\x7d"]
  | methods => methods.map service.descriptor.path

def routes? (service : Service) : Option (Http.Router Http.Handler) := do
  let patterns ← service.paths.mapM Http.Pattern.ofText?
  Http.Router.addAll? [] (patterns.map fun pattern =>
    { pattern, accepts := .any, handler := service.handler })

end Service

inductive RegisterError where
  | config (error : ConfigError)
  | route
deriving DecidableEq, Repr

structure Services where
  registered : List Service := []

namespace Services

def names (services : Services) : List String := services.registered.map (·.descriptor.name)

def register (services : Services) (service : Service) : Except RegisterError Services :=
  match service.descriptor.fault? with
  | some error => .error (.config error)
  | none =>
      if service.descriptor.name ∈ services.names then
        .error (.config (.invalid ("rpc service " ++ service.descriptor.name ++ " registered twice")))
      else if service.routes?.isNone then .error .route
      else .ok { registered := services.registered ++ [service] }

def registerAll (services : Services) : List Service → Option (List (Option ConfigError) × Services)
  | [] => some ([], services)
  | service :: rest =>
      match services.register service with
      | .ok services => (registerAll services rest).map fun (told, services) => (none :: told, services)
      | .error (.config error) =>
          (registerAll services rest).map fun (told, services) => (some error :: told, services)
      | .error .route => none

def text (services : Services) : String := Text.quotedList services.names

def router (services : Services) : Http.Router Http.Handler :=
  services.registered.flatMap fun service => service.routes?.getD []

def panicMessage : String := "internal error"

def unimplemented : Http.Handler := fun call =>
  .answered (Status.response { code := .unimplemented, message := "unknown method " ++ call.request.path })

def recover : Http.Outcome → Http.Response
  | .answered response =>
      match response.fault with
      | some fault => (Status.ofFault fault).response
      | none => response
  | .panicked _ => Status.response { code := .internal, message := panicMessage }

def plane (services : Services) : Plane := fun request =>
  (recover (services.router.dispatch unimplemented request)).trim request.method

def gateways (services : Services) : List Gateway := services.registered.filterMap (·.gateway)

def gatewayRouter? (services : Services) : Option (Http.Router Http.Handler) :=
  Http.Router.addAll? [] (services.gateways.flatMap fun gateway => gateway services.plane)

end Services

def Plane.invoke (plane : Plane) (service method : String) (payload : Json.Value) : Http.Response :=
  let target := "/" ++ service ++ "/" ++ method
  match Http.Target.fault? target with
  | some error => (Http.Fault.validation error.message).response
  | none =>
      plane (.ofTarget .post target [("content-type", Utf8.encode "application/json")] payload.renderBytes)

end ServiceHost.Rpc
