import ServiceHost.Text.Elapsed
import ServiceHost.Text.Quoted

set_option autoImplicit false

namespace ServiceHost.Upgrade

inductive State where
  | ready
  | requested
  | upgrading
  | upgraded
  | stopped
deriving DecidableEq, Repr

namespace State

def all : List State := [.ready, .requested, .upgrading, .upgraded, .stopped]

def name : State → String
  | .ready => "Ready"
  | .requested => "UpgradeRequested"
  | .upgrading => "Upgrading"
  | .upgraded => "Upgraded"
  | .stopped => "Stopped"

def ofName? (name : String) : Option State := all.find? fun state => state.name == name

def isTerminal : State → Bool
  | .upgraded => true
  | .stopped => true
  | _ => false

end State

inductive SpawnCause where
  | noListener
  | system (text : String)
deriving DecidableEq, Repr

def SpawnCause.message : SpawnCause → String
  | .noListener => "no listener to hand off"
  | .system text => text

inductive Error where
  | timeout (nanos : Nat)
  | exited (code : Option Int)
  | spawn (cause : SpawnCause)
  | unsupported
  | inProgress (state : State)
  | aborted
deriving DecidableEq, Repr

def exitCodeText : Option Int → String
  | none => "None"
  | some code => "Some(" ++ toString code ++ ")"

def Error.message : Error → String
  | .timeout nanos => "replacement process not ready after " ++ Elapsed.text nanos
  | .exited code => "replacement process exited early (code " ++ exitCodeText code ++ ")"
  | .spawn cause => "failed to spawn replacement process: " ++ cause.message
  | .unsupported => "live upgrade not supported on this platform"
  | .inProgress state => "upgrade not possible in state " ++ state.name
  | .aborted => "upgrade aborted by stop"

end ServiceHost.Upgrade
