import ServiceHost.Json.Basic

set_option autoImplicit false

namespace ServiceHost

structure IdentitySettings where
  name : String := ""
  version : String := ""
  build : String := ""
  description : String := ""
deriving DecidableEq, Repr

structure HttpSettings where
  address : String := "0.0.0.0:5001"
  advertised : Option String := none
  requestTimeoutSecs : Nat := 30
  readHeaderTimeoutSecs : Nat := 30
  maxConnections : Nat := 10000
deriving DecidableEq, Repr

structure RegistrySettings where
  root : String := "servicekit/register"
  leaseTtlMs : Nat := 10000
  keepaliveIntervalMs : Nat := 5000
  cooldownMs : Nat := 10000
deriving DecidableEq, Repr

structure ClientSettings where
  dialTimeoutMs : Nat := 5000
deriving DecidableEq, Repr

structure UpgradeSettings where
  timeoutSecs : Nat := 60
deriving DecidableEq, Repr

structure StoreSettings where
  endpoints : List String := []
  username : Option String := none
  password : Option String := none
deriving DecidableEq, Repr

def StoreSettings.isConfigured (store : StoreSettings) : Bool := !store.endpoints.isEmpty

structure ObservabilitySettings where
  logLevel : String := "info"
  metricsEnabled : Bool := true
deriving DecidableEq, Repr

structure Settings where
  service : IdentitySettings := {}
  http : HttpSettings := {}
  registry : RegistrySettings := {}
  client : ClientSettings := {}
  upgrade : UpgradeSettings := {}
  store : StoreSettings := {}
  observability : ObservabilitySettings := {}
deriving DecidableEq, Repr

namespace Settings

def optional (text : Option String) : Json.Value :=
  match text with
  | some t => .text t
  | none => .null

def toJson (settings : Settings) : Json.Value :=
  let s := settings
  .object [
    ("service", .object [("name", .text s.service.name), ("version", .text s.service.version),
      ("build", .text s.service.build), ("description", .text s.service.description)]),
    ("http", .object [("address", .text s.http.address), ("advertised_address", optional s.http.advertised),
      ("request_timeout_secs", .ofNat s.http.requestTimeoutSecs),
      ("read_header_timeout_secs", .ofNat s.http.readHeaderTimeoutSecs),
      ("max_connections", .ofNat s.http.maxConnections)]),
    ("registry", .object [("prefix", .text s.registry.root), ("lease_ttl_ms", .ofNat s.registry.leaseTtlMs),
      ("keepalive_interval_ms", .ofNat s.registry.keepaliveIntervalMs),
      ("cooldown_ms", .ofNat s.registry.cooldownMs)]),
    ("client", .object [("dial_timeout_ms", .ofNat s.client.dialTimeoutMs)]),
    ("upgrade", .object [("timeout_secs", .ofNat s.upgrade.timeoutSecs)]),
    ("store", .object [("endpoints", .array (s.store.endpoints.map .text)),
      ("username", optional s.store.username), ("password", optional s.store.password)]),
    ("observability", .object [("log_level", .text s.observability.logLevel),
      ("metrics_enabled", .bool s.observability.metricsEnabled)])]

def millis (settings : Settings) : List (String × Nat) :=
  [("request_timeout", settings.http.requestTimeoutSecs * 1000),
    ("read_header_timeout", settings.http.readHeaderTimeoutSecs * 1000),
    ("lease_ttl", settings.registry.leaseTtlMs),
    ("keepalive_interval", settings.registry.keepaliveIntervalMs),
    ("cooldown", settings.registry.cooldownMs),
    ("dial_timeout", settings.client.dialTimeoutMs),
    ("upgrade_timeout", settings.upgrade.timeoutSecs * 1000)]

end Settings

end ServiceHost
