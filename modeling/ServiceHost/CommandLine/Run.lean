import ServiceHost.CommandLine.Arguments
import ServiceHost.CommandLine.Log
import ServiceHost.Demo
import ServiceHost.Service.Start

set_option autoImplicit false

namespace ServiceHost.CommandLine

structure Site where
  document? : String → Option (List UInt8)
  surroundings : Service.Surroundings
  circumstances : Service.Circumstances

inductive Verdict where
  | help
  | usage
  | invalid (failure : Failure)
  | fatal (failure : Failure) (level : String)
  | panicked
  | serving (service : Service) (effects : Service.Effects)

def readSettings (site : Site) : Option String → Except ConfigError Settings
  | none => .ok {}
  | some path =>
      match site.document? path with
      | none => .error (.io "No such file or directory (os error 2)")
      | some document => Settings.parse document

def load (site : Site) (arguments : Arguments) : Except ConfigError Settings := do
  let settings ← readSettings site arguments.config
  let address := arguments.address.getD settings.http.address
  let settings := { settings with http := { settings.http with address } }
  settings.finalize site.surroundings.own site.surroundings.nanos site.surroundings.environment

def serve (site : Site) (settings : Settings) : Verdict :=
  let fatal (failure : Failure) : Verdict := .fatal failure settings.observability.logLevel
  match Service.connect site.surroundings settings with
  | .error error => fatal (.config error)
  | .ok service =>
      match Demo.install site.surroundings.pid service with
      | .error (.config error) => fatal (.config error)
      | .error .route => .panicked
      | .ok service =>
          match service.start site.surroundings site.circumstances with
          | (.started, effects) => .serving service effects
          | (.failed failure, _) => fatal failure
          | (.panicked, _) => .panicked

def run (site : Site) (arguments : List String) : Verdict :=
  match Arguments.parse arguments with
  | .help => .help
  | .wrong => .usage
  | .run arguments =>
      match load site arguments with
      | .error error => .invalid (.config error)
      | .ok settings => serve site settings

namespace Verdict

def exitCode? : Verdict → Option Nat
  | .help => some 0
  | .usage => some 2
  | .invalid _ => some 1
  | .fatal _ _ => some 1
  | .panicked => some 101
  | .serving _ _ => none

def errorRecord? (filter : Option String) : Verdict → Option String
  | .invalid failure =>
      if Log.showsErrors filter "info" then
        some (Log.commandTarget ++ ": Invalid configuration error=" ++ failure.message)
      else none
  | .fatal failure level =>
      if Log.showsErrors filter level then
        some (Log.commandTarget ++ ": Fatal error error=" ++ failure.message)
      else none
  | _ => none

end Verdict

end ServiceHost.CommandLine
