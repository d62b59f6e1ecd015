import ServiceHost.Address.Socket
import ServiceHost.Name
import ServiceHost.Settings.Error
import ServiceHost.Settings.Schema

set_option autoImplicit false

namespace ServiceHost.Settings

structure Rule where
  field : String
  message : Settings → String
  holds : Settings → Bool

def positive (field : String) (value : Settings → Nat) : Rule :=
  { field, message := fun _ => "must be greater than zero", holds := fun s => 0 < value s }

def rules : List Rule := [
  { field := "service.name"
    message := fun s =>
      "invalid service name " ++ Text.quoted s.service.name ++ ", expected ^[a-zA-Z0-9\\-\\_\\.]+$"
    holds := fun s => Name.isValid s.service.name },
  { field := "http.address"
    message := fun s => "invalid listen address " ++ Text.quoted s.http.address
    holds := fun s => (Address.Socket.parse? s.http.address).isSome },
  { field := "http.advertised_address"
    message := fun _ => "must not be empty when set"
    holds := fun s => s.http.advertised ≠ some "" },
  { field := "registry.prefix"
    message := fun _ => "must be non-empty without a trailing '/'"
    holds := fun s => s.registry.root ≠ "" && s.registry.root.toList.getLast? ≠ some '/' },
  positive "registry.lease_ttl_ms" (·.registry.leaseTtlMs),
  positive "registry.keepalive_interval_ms" (·.registry.keepaliveIntervalMs),
  positive "registry.cooldown_ms" (·.registry.cooldownMs),
  positive "client.dial_timeout_ms" (·.client.dialTimeoutMs),
  positive "upgrade.timeout_secs" (·.upgrade.timeoutSecs),
  positive "http.request_timeout_secs" (·.http.requestTimeoutSecs),
  positive "http.max_connections" (·.http.maxConnections),
  { field := "registry.keepalive_interval_ms"
    message := fun _ => "must be shorter than the lease TTL"
    holds := fun s => s.registry.keepaliveIntervalMs < s.registry.leaseTtlMs }]

def violations (settings : Settings) : List Violation :=
  (rules.filter fun rule => !rule.holds settings).map fun rule =>
    { field := rule.field, message := rule.message settings }

end ServiceHost.Settings
