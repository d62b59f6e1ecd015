import ServiceHost.Discovery.Channel
import ServiceHost.Report.Failure

set_option autoImplicit false

namespace ServiceHost

def Table.report (table : Table String) : Json.Value :=
  .object (table.entries.map fun (key, value) => (key, .text value))

def Target.report (target : Target) : Json.Value :=
  .object [("key", .text target.key), ("address", .text target.address), ("metadata", target.metadata.report)]

namespace Channel

def endpointsReport (channel : Channel) : Json.Value := .array (channel.endpoints.map .text)

def report (channel : Channel) : Json.Value :=
  .object [("name", .text channel.name), ("endpoints", channel.endpointsReport)]

def pickReport : Except DialError Target → Json.Value
  | .ok target => target.report
  | .error error => error.report

def callReport : Except DialError String → Json.Value
  | .ok address => (DialError.request address).report
  | .error error => error.report

end Channel

end ServiceHost
