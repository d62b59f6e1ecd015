import ServiceHost.Plane.Preface
import ServiceHost.Table

set_option autoImplicit false

namespace ServiceHost.Metrics

inductive Event where
  | request (plane method : String) (status : Nat)
  | connection (plane : String)
  | dial (result : String)
  | lease (event : String)
  | upgrade (result : String)
deriving DecidableEq, Repr

def escapeLabel (text : String) : String :=
  String.join (text.toList.map fun c =>
    if c = '\\' then "\\\\" else if c = '"' then "\\\"" else if c = '\n' then "\\n" else c.toString)

def series (name : String) (labels : List (String × String)) : String :=
  name ++ "\x7b"
    ++ ",".intercalate (labels.map fun label => label.1 ++ "=\"" ++ escapeLabel label.2 ++ "\"") ++ "\x7d"

def counted : Event → List String
  | .request plane method status =>
      [series "servicekit_requests_total" [("method", method), ("plane", plane), ("status", toString status)],
        series "servicekit_request_duration_seconds_count" [("plane", plane)]]
  | .connection plane => [series "servicekit_connections_total" [("plane", plane)]]
  | .dial result => [series "servicekit_dials_total" [("result", result)]]
  | .lease event => [series "servicekit_lease_events_total" [("event", event)]]
  | .upgrade result => [series "servicekit_upgrades_total" [("result", result)]]

def increment (counters : Table Nat) (name : String) : Table Nat :=
  counters.insert name ((counters.get? name).getD 0 + 1)

def record (counters : Table Nat) (event : Event) : Table Nat := (counted event).foldl increment counters

end ServiceHost.Metrics
