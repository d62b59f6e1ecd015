import ServiceHost.Http.Fault

set_option autoImplicit false

namespace ServiceHost.Http

def Request.identified (fresh : String) (request : Request) : Request :=
  if (request.headers.get? requestIdHeader).isSome then request
  else { request with headers := request.headers ++ [(requestIdHeader, Utf8.encode fresh)] }

def Response.labelled (request : Request) (identity : List UInt8) (response : Response) : Response :=
  let headers := response.headers.set serviceHeader identity
  if (headers.get? requestIdHeader).isSome then { response with headers }
  else
    { response with
      headers := headers ++ ((request.headers.get? requestIdHeader).map fun id => (requestIdHeader, id)).toList }

def labelled (identity : List UInt8) (plane : Request → Response) (fresh : String) (request : Request) : Response :=
  let request := request.identified fresh
  (plane request).labelled request identity

end ServiceHost.Http
