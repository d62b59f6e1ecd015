import ServiceHost.Http.Message
import ServiceHost.Text.Percent

set_option autoImplicit false

namespace ServiceHost.Rpc

inductive Code where
  | ok | cancelled | unknown | invalidArgument | deadlineExceeded | notFound | alreadyExists
  | permissionDenied | resourceExhausted | failedPrecondition | aborted | outOfRange | unimplemented
  | internal | unavailable | dataLoss | unauthenticated
deriving DecidableEq, Repr

namespace Code

def all : List Code :=
  [.ok, .cancelled, .unknown, .invalidArgument, .deadlineExceeded, .notFound, .alreadyExists,
    .permissionDenied, .resourceExhausted, .failedPrecondition, .aborted, .outOfRange, .unimplemented,
    .internal, .unavailable, .dataLoss, .unauthenticated]

def number : Code → Nat
  | .ok => 0
  | .cancelled => 1
  | .unknown => 2
  | .invalidArgument => 3
  | .deadlineExceeded => 4
  | .notFound => 5
  | .alreadyExists => 6
  | .permissionDenied => 7
  | .resourceExhausted => 8
  | .failedPrecondition => 9
  | .aborted => 10
  | .outOfRange => 11
  | .unimplemented => 12
  | .internal => 13
  | .unavailable => 14
  | .dataLoss => 15
  | .unauthenticated => 16

def ofInt (n : Int) : Code := (all.find? fun code => (code.number : Int) = n).getD .unknown

def name : Code → String
  | .ok => "Ok"
  | .cancelled => "Cancelled"
  | .unknown => "Unknown"
  | .invalidArgument => "InvalidArgument"
  | .deadlineExceeded => "DeadlineExceeded"
  | .notFound => "NotFound"
  | .alreadyExists => "AlreadyExists"
  | .permissionDenied => "PermissionDenied"
  | .resourceExhausted => "ResourceExhausted"
  | .failedPrecondition => "FailedPrecondition"
  | .aborted => "Aborted"
  | .outOfRange => "OutOfRange"
  | .unimplemented => "Unimplemented"
  | .internal => "Internal"
  | .unavailable => "Unavailable"
  | .dataLoss => "DataLoss"
  | .unauthenticated => "Unauthenticated"

end Code

structure Status where
  code : Code
  message : String
deriving DecidableEq, Repr

namespace Status

def text (status : Status) : String := s!"{status.code.name} ({status.code.number}): {status.message}"

def codeHeader : String := "grpc-status"
def messageHeader : String := "grpc-message"

def isPlainByte (byte : UInt8) : Bool := 0x20 ≤ byte && byte ≤ 0x7E && byte ≠ 0x25

def encodeMessage (message : String) : String :=
  String.ofList (Percent.encode isPlainByte (Utf8.encode message))

def decodeMessage (text : String) : String :=
  Utf8.decodeLossy (Percent.decode Percent.signedPairValue (Utf8.encode text))

-- A message whose encoding makes no header value is left out.
def headers (status : Status) : Http.Headers :=
  let message := Utf8.encode (encodeMessage status.message)
  [("content-type", Utf8.encode "application/grpc"), (codeHeader, Utf8.encode (toString status.code.number))] ++
    if message.all Http.Headers.isValueByte then [(messageHeader, message)] else []

def response (status : Status) : Http.Response := { headers := status.headers }

-- The status that the headers carry, if they have a readable code. A message that cannot be read
-- counts as empty.
def ofHeaders? (headers : Http.Headers) : Option Status := do
  let value ← headers.get? codeHeader
  let text ← Http.Headers.readable? value
  let number ← Decimal.signed? 32 text.toList
  let message := ((headers.get? messageHeader).bind Http.Headers.readable?).map decodeMessage
  return { code := .ofInt number, message := message.getD "" }

def ofFault : Http.Fault → Status
  | .validation message => { code := .invalidArgument, message }
  | .internal message => { code := .internal, message }

end Status

end ServiceHost.Rpc
