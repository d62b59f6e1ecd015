set_option autoImplicit false

namespace ServiceHost

structure Violation where
  field : String
  message : String
deriving DecidableEq, Repr

def Violation.text (violation : Violation) : String := violation.field ++ ": " ++ violation.message

inductive ConfigError where
  | io (text : String)
  | parse (text : String)
  | validation (violations : List Violation)
  | invalid (text : String)
  | storeNotConfigured
deriving DecidableEq, Repr

def ConfigError.message : ConfigError → String
  | .io text => "IO error: " ++ text
  | .parse text => "Parse error: " ++ text
  | .validation violations => "Validation failed: " ++ ", ".intercalate (violations.map Violation.text)
  | .invalid text => "Invalid configuration: " ++ text
  | .storeNotConfigured => "coordination store not configured"

end ServiceHost
