import ServiceHost.CommandLine.Run
import ServiceHost.Json.Reader
import ServiceHost.Report.Http

set_option autoImplicit false

namespace ServiceHost.Command

def variableNames : List String :=
  ["SERVICEKIT_NAME", "SERVICEKIT_VERSION", "SERVICEKIT_ADVERTISED_ADDR", "SERVICEKIT_ETCD",
    "SERVICEKIT_ETCD_USER", "SERVICEKIT_ETCD_PASSWORD", "SERVICEKIT_LISTEN_FD", "SERVICEKIT_READY_FD"]

def readVariables : IO Settings.Environment := do
  let found ← variableNames.filterMapM fun name => do
    return (← IO.getEnv name).map (name, ·)
  return fun name => (found.find? (·.1 == name)).map (·.2)

def readDocument (path : String) : IO (Option (List UInt8)) := do
  try
    let bytes ← IO.FS.readBinFile path
    return some bytes.toList
  catch _ => return none

def findSite (arguments : List String) : IO CommandLine.Site := do
  let environment ← readVariables
  let document ← match CommandLine.Arguments.parse arguments with
    | .run { config := some path, .. } => readDocument path
    | _ => pure none
  return {
    document? := fun _ => document
    surroundings := { own := .v4 .loopback, nanos := ← IO.monoNanosNow, environment }
    circumstances := {
      inheritance := .ofVariables (environment "SERVICEKIT_LISTEN_FD") (environment "SERVICEKIT_READY_FD")
      identity := Registration.identity "localhost" 0 } }

def requestOf (line : Json.Value) : Http.Request :=
  .ofTarget (.ofName ((line.text? "method").getD "GET")) (line.textAt "path") (.ofReport (line.field "headers"))
    (line.bytesAt "body")

partial def answerAll (plane : String → Http.Request → Http.Response) (count : Nat) : IO Unit := do
  let line ← (← IO.getStdin).getLine
  if line.isEmpty then return
  match Json.readValue (Utf8.encode line) with
  | some request =>
      let response := plane ("request-" ++ toString count) (requestOf request)
      IO.println (response.report (response.headers.map (·.1.toLower))).render
  | none => IO.eprintln "not JSON"
  answerAll plane (count + 1)

def main (arguments : List String) : IO UInt32 := do
  let site ← findSite arguments
  let verdict := CommandLine.run site arguments
  match verdict with
  | .help => IO.print CommandLine.Arguments.usage
  | .usage => IO.eprint CommandLine.Arguments.usage
  | .serving service _ =>
      match service.webPlane? site.surroundings false with
      | some plane => answerAll plane 0
      | none => pure ()
  | failed =>
      match failed.errorRecord? none with
      | some record => IO.println ("ERROR " ++ record)
      | none => pure ()
  return UInt32.ofNat (verdict.exitCode?.getD 0)

end ServiceHost.Command

def main (arguments : List String) : IO UInt32 := ServiceHost.Command.main arguments
