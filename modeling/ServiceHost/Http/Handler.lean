import ServiceHost.Http.Fault
import ServiceHost.Http.Router

set_option autoImplicit false

namespace ServiceHost.Http

inductive Outcome where
  | answered (response : Response)
  | panicked (panic : Panic)
deriving DecidableEq

structure Call where
  request : Request
  captures : Captures := []

abbrev Handler := Call → Outcome

def notAllowed (allow : List String) : Response :=
  { status := 405, headers := [("allow", Utf8.encode (",".intercalate allow))] }

-- A handler that answers calls of other methods by naming its own.
def Accepts.only (accepts : Accepts) (handler : Handler) : Handler := fun call =>
  if accepts.serves call.request.method then handler call else .answered (notAllowed accepts.allowed)

def Router.dispatch (router : Router Handler) (fallback : Handler) (request : Request) : Outcome :=
  match router.find request.method request.path with
  | .served handler captures => handler { request, captures }
  | .refused allow => .answered (notAllowed allow)
  | .unknown => fallback { request }

-- A response to HEAD has no body, and neither has an accepted CONNECT.
def Response.trim (method : Method) (response : Response) : Response :=
  match method with
  | .head => { response with body := [] }
  | .connect => if response.status / 100 = 2 then { response with body := [] } else response
  | _ => response

namespace Web

def panicMessage : String := "internal server error"
def notFoundMessage : String := "not found"

def notFound : Handler := fun call =>
  .answered (errorResponse 404 notFoundMessage (requestId call.request.headers))

def recover (id : String) : Outcome → Response
  | .answered response =>
      match response.fault with
      | some fault => errorResponse fault.status fault.message id
      | none => response
  | .panicked _ => errorResponse 500 panicMessage id

def respond (router : Router Handler) (request : Request) : Response :=
  (recover (requestId request.headers) (router.dispatch notFound request)).trim request.method

end Web

def respondBare (router : Router Handler) (request : Request) : Outcome :=
  match router.dispatch (fun _ => .answered { status := 404 }) request with
  | .answered response => .answered (response.trim request.method)
  | .panicked panic => .panicked panic

end ServiceHost.Http
