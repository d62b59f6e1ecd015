import ServiceHost.Failure
import ServiceHost.Http.Label
import ServiceHost.Rpc.Health
import ServiceHost.Settings.Finalize
import ServiceHost.Store.Basic

set_option autoImplicit false

namespace ServiceHost

structure Service where
  settings : Settings
  store : Option Store := none
  rpc : Rpc.Services := {}
  web : Http.Router Http.Handler := []

namespace Service

structure Surroundings where
  own : Address.Ip
  nanos : Nat
  environment : Settings.Environment := fun _ => none
  pid : Nat := 0
  metrics : String := ""

-- This library has no store to connect to: a service that is to use one is handed it.
def connectStore (settings : Settings) : Except ConfigError (Option Store) :=
  if settings.store.isConfigured then
    .error (.invalid "store endpoints are configured but the etcd feature is disabled")
  else .ok none

def configure (surroundings : Surroundings) (settings : Settings) (store : Option Store) :
    Except ConfigError Service := do
  let settings ← settings.finalize surroundings.own surroundings.nanos surroundings.environment
  return { settings, store }

def connect (surroundings : Surroundings) (settings : Settings) : Except ConfigError Service := do
  let service ← configure surroundings settings none
  return { service with store := ← connectStore service.settings }

def name (service : Service) : String := service.settings.service.name

def identity (service : Service) : List UInt8 :=
  let settings := service.settings.service
  (Http.serviceIdentity? settings.name settings.version settings.build).getD (Utf8.encode "servicekit")

def rpcServices (service : Service) (stopping : Bool) : Rpc.Services :=
  let health : Rpc.Health := { Rpc.Health.ofNames service.name service.rpc.names with stopping }
  match service.rpc.register health.service with
  | .ok services => services
  | .error _ => service.rpc

def rpcPlane (service : Service) (stopping : Bool) : String → Http.Request → Http.Response :=
  Http.labelled service.identity (service.rpcServices stopping).plane

def metricsRoute (surroundings : Surroundings) : Http.Router Http.Handler :=
  ((Http.Pattern.ofText? "/metrics").map fun pattern =>
    { pattern
      accepts := Http.Accepts.get
      handler := fun _ => .answered {
        headers := [("content-type", Utf8.encode "text/plain; version=0.0.4")]
        body := Utf8.encode surroundings.metrics } }).toList

def webRouter? (surroundings : Surroundings) (service : Service) : Option (Http.Router Http.Handler) :=
  let settings := service.settings
  let report : Http.HealthReport :=
    { service := service.name, version := settings.service.version, pid := surroundings.pid }
  let metrics := if settings.observability.metricsEnabled then metricsRoute surroundings else []
  Http.Router.addAll? service.web (report.routes ++ metrics)

def webApp? (surroundings : Surroundings) (stopping : Bool) (service : Service) :
    Option (Http.Request → Http.Response) := do
  let gateways ← (service.rpcServices stopping).gatewayRouter?
  let web ← service.webRouter? surroundings
  return fun request =>
    let fallback : Http.Handler := fun call => web.dispatch Http.Web.notFound call.request
    (Http.Web.recover (Http.requestId request.headers) (gateways.dispatch fallback request)).trim request.method

def webPlane? (surroundings : Surroundings) (stopping : Bool) (service : Service) :
    Option (String → Http.Request → Http.Response) :=
  (service.webApp? surroundings stopping).map (Http.labelled service.identity)

def text (service : Service) : String :=
  let server := Text.openRecord "Server" [("name", Text.quoted service.name),
    ("address", Text.quoted service.settings.http.address), ("rpc", service.rpc.text)]
  Text.openRecord "Service" [("name", Text.quoted service.name), ("server", server)]

end Service

end ServiceHost
