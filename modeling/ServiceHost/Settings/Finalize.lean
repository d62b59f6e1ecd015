import ServiceHost.Address.Advertised
import ServiceHost.Settings.Rules
import ServiceHost.Settings.Source
import ServiceHost.Text.Blank

set_option autoImplicit false

namespace ServiceHost.Settings

abbrev Environment := String → Option String

def defaultName : String := "servicekit-default"
def defaultVersion : String := "v0.0.1"

def Environment.nonEmpty (env : Environment) (name : String) : Option String :=
  (env name).filter (· ≠ "")

def splitList (text : String) : List String :=
  ((Text.split ',' text).map Text.trim).filter (· ≠ "")

-- Name and version are taken from the environment only if they are not set; all else there wins.
def override (env : Environment) (settings : Settings) : Settings :=
  let service := settings.service
  let store := settings.store
  { settings with
    service := { service with
      name := if service.name = "" then (env.nonEmpty "SERVICEKIT_NAME").getD "" else service.name
      version :=
        if service.version = "" then (env.nonEmpty "SERVICEKIT_VERSION").getD "" else service.version }
    http := { settings.http with
      advertised := (env.nonEmpty "SERVICEKIT_ADVERTISED_ADDR").or settings.http.advertised }
    store := { store with
      endpoints := ((env.nonEmpty "SERVICEKIT_ETCD").map splitList).getD store.endpoints
      username := (env.nonEmpty "SERVICEKIT_ETCD_USER").or store.username
      password := (env.nonEmpty "SERVICEKIT_ETCD_PASSWORD").or store.password } }

def generatedBuild (nanos : Nat) : String := "dev-" ++ toString nanos

def complete (nanos : Nat) (settings : Settings) : Settings :=
  let service := settings.service
  { settings with
    service := { service with
      name := if service.name = "" then defaultName else service.name
      version := if service.version = "" then defaultVersion else service.version
      build := if service.build = "" then generatedBuild nanos else service.build } }

def deriveAdvertised (own : Address.Ip) (settings : Settings) : Except ConfigError Settings :=
  match settings.http.advertised with
  | some _ => .ok settings
  | none =>
      match Address.advertise? own settings.http.address with
      | some address => .ok { settings with http := { settings.http with advertised := some address } }
      | none => .error (.invalid ("invalid address: " ++ Address.Socket.syntaxMessage))

def finalize (own : Address.Ip) (nanos : Nat) (env : Environment) (settings : Settings) :
    Except ConfigError Settings :=
  let settings := complete nanos (override env settings)
  match violations settings with
  | [] => deriveAdvertised own settings
  | broken => .error (.validation broken)

def parse (document : List UInt8) : Except ConfigError Settings :=
  match Utf8.decode? document with
  | none => .error (.io "stream did not contain valid UTF-8")
  | some text =>
      match ofToml? text with
      | some settings => .ok settings
      | none => .error (.parse "TOML parse error")

end ServiceHost.Settings
