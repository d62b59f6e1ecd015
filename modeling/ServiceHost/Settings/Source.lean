import ServiceHost.Settings.Schema
import ServiceHost.Toml.Reader

set_option autoImplicit false

namespace ServiceHost

namespace Settings

inductive Source where
  | null
  | bool (b : Bool)
  | integer (n : Int)
  | real
  | date
  | text (t : String)
  | list (items : List Source)
  | table (members : List (String × Source))
deriving Inhabited

mutual
def Source.ofToml : Toml.Value → Source
  | .text t => .text t
  | .integer n => .integer n
  | .real => .real
  | .bool b => .bool b
  | .date => .date
  | .array items => .list (sourcesOfToml items)
  | .table members => .table (membersOfToml members)

def sourcesOfToml : List Toml.Value → List Source
  | [] => []
  | item :: rest => .ofToml item :: sourcesOfToml rest

def membersOfToml : List (String × Toml.Value) → List (String × Source)
  | [] => []
  | (name, item) :: rest => (name, .ofToml item) :: membersOfToml rest
end

mutual
def Source.ofJson : Json.Value → Source
  | .null => .null
  | .bool b => .bool b
  | .number n =>
      match n.toInt? with
      | some i => .integer i
      | none => .real
  | .text t => .text t
  | .array items => .list (sourcesOfJson items)
  | .object members => .table (membersOfJson members)

def sourcesOfJson : List Json.Value → List Source
  | [] => []
  | item :: rest => .ofJson item :: sourcesOfJson rest

def membersOfJson : List (String × Json.Value) → List (String × Source)
  | [] => []
  | (name, item) :: rest => (name, .ofJson item) :: membersOfJson rest
end

def text? : Source → Option String
  | .text t => some t
  | _ => none

def optionalText? : Source → Option (Option String)
  | .null => some none
  | .text t => some (some t)
  | _ => none

def word? : Source → Option Nat
  | .integer n => if 0 ≤ n ∧ n < 0x10000000000000000 then some n.toNat else none
  | _ => none

def flag? : Source → Option Bool
  | .bool b => some b
  | _ => none

def texts? : Source → Option (List String)
  | .list items => items.mapM text?
  | _ => none

abbrev Section (σ : Type) := List (String × (Source → σ → Option σ))

namespace Section

variable {σ : Type}

def setMember (layout : Section σ) (current : σ) (member : String × Source) : Option σ :=
  match layout.find? (·.1 == member.1) with
  | some (_, set) => set member.2 current
  | none => some current

def setItems (exact : Bool) : Section σ → List Source → σ → Option σ
  | _, [], current => some current
  | [], _ :: _, current => if exact then none else some current
  | (_, set) :: layout, item :: items, current => (set item current).bind (setItems exact layout items)

-- A date is a table with one member that no section has.
def read (exact : Bool) (layout : Section σ) (start : σ) : Source → Option σ
  | .table members => members.foldlM (setMember layout) start
  | .list items => setItems exact layout items start
  | .date => some start
  | _ => none

end Section

end Settings

def IdentitySettings.layout : Settings.Section IdentitySettings := [
  ("name", fun v s => (Settings.text? v).map fun name => { s with name }),
  ("version", fun v s => (Settings.text? v).map fun version => { s with version }),
  ("build", fun v s => (Settings.text? v).map fun build => { s with build }),
  ("description", fun v s => (Settings.text? v).map fun description => { s with description })]

def HttpSettings.layout : Settings.Section HttpSettings := [
  ("address", fun v s => (Settings.text? v).map fun address => { s with address }),
  ("advertised_address", fun v s => (Settings.optionalText? v).map fun advertised => { s with advertised }),
  ("request_timeout_secs", fun v s => (Settings.word? v).map fun n => { s with requestTimeoutSecs := n }),
  ("read_header_timeout_secs", fun v s => (Settings.word? v).map fun n => { s with readHeaderTimeoutSecs := n }),
  ("max_connections", fun v s => (Settings.word? v).map fun n => { s with maxConnections := n })]

def RegistrySettings.layout : Settings.Section RegistrySettings := [
  ("prefix", fun v s => (Settings.text? v).map fun root => { s with root }),
  ("lease_ttl_ms", fun v s => (Settings.word? v).map fun n => { s with leaseTtlMs := n }),
  ("keepalive_interval_ms", fun v s => (Settings.word? v).map fun n => { s with keepaliveIntervalMs := n }),
  ("cooldown_ms", fun v s => (Settings.word? v).map fun n => { s with cooldownMs := n })]

def ClientSettings.layout : Settings.Section ClientSettings := [
  ("dial_timeout_ms", fun v s => (Settings.word? v).map fun n => { s with dialTimeoutMs := n })]

def UpgradeSettings.layout : Settings.Section UpgradeSettings := [
  ("timeout_secs", fun v s => (Settings.word? v).map fun n => { s with timeoutSecs := n })]

def StoreSettings.layout : Settings.Section StoreSettings := [
  ("endpoints", fun v s => (Settings.texts? v).map fun endpoints => { s with endpoints }),
  ("username", fun v s => (Settings.optionalText? v).map fun username => { s with username }),
  ("password", fun v s => (Settings.optionalText? v).map fun password => { s with password })]

def ObservabilitySettings.layout : Settings.Section ObservabilitySettings := [
  ("log_level", fun v s => (Settings.text? v).map fun logLevel => { s with logLevel }),
  ("metrics_enabled", fun v s => (Settings.flag? v).map fun metricsEnabled => { s with metricsEnabled })]

namespace Settings

def sections (exact : Bool) : Section Settings := [
  ("service", fun v s => (IdentitySettings.layout.read exact {} v).map fun service => { s with service }),
  ("http", fun v s => (HttpSettings.layout.read exact {} v).map fun http => { s with http }),
  ("registry", fun v s => (RegistrySettings.layout.read exact {} v).map fun registry => { s with registry }),
  ("client", fun v s => (ClientSettings.layout.read exact {} v).map fun client => { s with client }),
  ("upgrade", fun v s => (UpgradeSettings.layout.read exact {} v).map fun upgrade => { s with upgrade }),
  ("store", fun v s => (StoreSettings.layout.read exact {} v).map fun store => { s with store }),
  ("observability", fun v s => (ObservabilitySettings.layout.read exact {} v).map fun observability =>
    { s with observability })]

def ofJson? (value : Json.Value) : Option Settings := (sections true).read true {} (.ofJson value)

def ofToml? (text : String) : Option Settings :=
  (Toml.read text).bind fun value => (sections false).read false {} (.ofToml value)

def registryOfJson? (value : Json.Value) : Option RegistrySettings := RegistrySettings.layout.read true {} (.ofJson value)

end Settings

end ServiceHost
