set_option autoImplicit false

namespace ServiceHost.CommandLine

structure Arguments where
  config : Option String := none
  address : Option String := none
deriving DecidableEq, Repr

inductive Parsed where
  | run (arguments : Arguments)
  | help
  | wrong
deriving DecidableEq, Repr

inductive Item where
  | config
  | address
deriving DecidableEq, Repr

namespace Arguments

def set? (arguments : Arguments) (item : Item) (value : List Char) : Option Arguments :=
  match item with
  | .config =>
      if arguments.config.isSome || value.isEmpty then none
      else some { arguments with config := some (String.ofList value) }
  | .address =>
      if arguments.address.isSome then none else some { arguments with address := some (String.ofList value) }

def longItem? (name : List Char) : Option Item :=
  if name = "config".toList then some .config
  else if name = "address".toList then some .address
  else none

def shortItem? (c : Char) : Option Item :=
  if c = 'c' then some .config
  else if c = 'a' then some .address
  else none

def isValue : List Char → Bool
  | '-' :: _ :: _ => false
  | _ => true

inductive Request where
  | help
  | joined (item : Item) (value : List Char)
  | awaiting (item : Item)
  | wrong
deriving DecidableEq, Repr

def ofShort (c : Char) (rest : List Char) : Request :=
  if c = 'h' then .help
  else
    match shortItem? c, rest with
    | some item, [] => .awaiting item
    | some item, '=' :: value => .joined item value
    | some item, value => .joined item value
    | none, _ => .wrong

def ofLong (text : List Char) : Request :=
  if text = "help".toList then .help
  else
    match longItem? (text.takeWhile (· ≠ '=')), text.dropWhile (· ≠ '=') with
    | some item, [] => .awaiting item
    | some item, _ :: value => .joined item value
    | none, _ => .wrong

def request : List Char → Request
  | '-' :: '-' :: text => ofLong text
  | '-' :: c :: rest => ofShort c rest
  | _ => .wrong

def read (arguments : Arguments) : List (List Char) → Parsed
  | [] => .run arguments
  | text :: rest =>
      if text = ['-', '-'] then (if rest.isEmpty then .run arguments else .wrong)
      else
        match request text, rest with
        | .help, _ => .help
        | .wrong, _ => .wrong
        | .joined item value, rest =>
            match arguments.set? item value with
            | some arguments => read arguments rest
            | none => .wrong
        | .awaiting _, [] => .wrong
        | .awaiting item, value :: rest =>
            if !isValue value then .wrong
            else
              match arguments.set? item value with
              | some arguments => read arguments rest
              | none => .wrong

def parse (arguments : List String) : Parsed := read {} (arguments.map (·.toList))

def usage : String :=
  "Dual-protocol service with live upgrades\n\nUsage: servicekit [OPTIONS]\n\nOptions:\n" ++
  "  -c, --config <CONFIG>    TOML configuration file\n" ++
  "  -a, --address <ADDRESS>  Listen address, overriding the configuration file\n" ++
  "  -h, --help               Print help\n"

end Arguments

end ServiceHost.CommandLine
