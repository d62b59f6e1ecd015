import ServiceHost.Proofs.Rpc.Recovery
import ServiceHost.Proofs.Rpc.Routing
import ServiceHost.Proofs.Service.WebFailures

set_option autoImplicit false

namespace ServiceHost.Service

open Http

-- The ways to an RPC service. Over the network the common layers see the request first and the response last.
inductive Way where
  | within
  | network (fresh : String)

namespace Way

def admitted (way : Way) (request : Request) : Request :=
  match way with
  | .within => request
  | .network fresh => request.identified fresh

def label (service : Service) (request : Request) (way : Way) (response : Response) : Response :=
  match way with
  | .within => response
  | .network fresh => response.labelled (request.identified fresh) service.identity

def answer (service : Service) (stopping : Bool) (way : Way) (request : Request) : Response :=
  match way with
  | .within => (service.rpcServices stopping).plane request
  | .network fresh => service.rpcPlane stopping fresh request

end Way

-- Two services that differ in nothing but what the handlers of their RPC services say when they panic.
structure Alike (a b : Service) : Prop where
  settings : a.settings = b.settings
  store : a.store = b.store
  web : a.web = b.web
  rpc : a.rpc.Alike b.rpc

def touchy (words : String) : Handler := fun call =>
  if call.request.body.isEmpty then .panicked (.text words) else .answered (Fault.validation "50% café").response

def asked (body : List UInt8) : Request := { method := .post, path := "/calc/Add", body }

def relay : Rpc.Gateway := fun plane =>
  [{ pattern := [.literal "add".toList], accepts := .get, handler := fun _ => .answered (plane (asked [0x78])) }]

def adding : Rpc.Descriptor := { name := "calc", methods := ["Add"] }

def calculator (words : String) : Rpc.Service := { descriptor := adding, handler := touchy words, gateway := some relay }

end ServiceHost.Service
