import ServiceHost.Http.Message
import ServiceHost.Http.Pattern

/-!
Routers. A router is a list of routes no two of which get in each other's way. A path that no pattern
matches is unknown; one that is known under other methods is refused together with the methods it
does allow. What is served for GET is served for HEAD as well.
-/

set_option autoImplicit false

namespace ServiceHost.Http

inductive Accepts where
  | any
  | get
  | post
deriving DecidableEq, Repr

namespace Accepts

def serves : Accepts → Method → Bool
  | .any, _ => true
  | .get, method => method = .get || method = .head
  | .post, method => method = .post

def allowed : Accepts → List String
  | .any => []
  | .get => ["GET", "HEAD"]
  | .post => ["POST"]

end Accepts

structure Route (α : Type) where
  pattern : Pattern
  accepts : Accepts
  handler : α

abbrev Router (α : Type) := List (Route α)

inductive Routed (α : Type) where
  | served (handler : α) (captures : Captures)
  | refused (allow : List String)
  | unknown

namespace Router

variable {α : Type}

def clashes (a b : Route α) : Bool :=
  if a.pattern = b.pattern then a.accepts = b.accepts else a.pattern.conflicts b.pattern

def add? (router : Router α) (route : Route α) : Option (Router α) :=
  if router.any (clashes route) then none else some (router ++ [route])

def addAll? (router : Router α) (routes : List (Route α)) : Option (Router α) := routes.foldlM add? router

def preferred? (router : Router α) (parts : List (List Char)) : Option (Pattern × Captures) :=
  (router.filterMap fun route => (route.pattern.captures? parts).map (route.pattern, ·)).foldl
    (fun best found =>
      match best with
      | none => some found
      | some chosen => if found.1.precedes chosen.1 then some found else some chosen)
    none

def find (router : Router α) (method : Method) (path : String) : Routed α :=
  match (segments? path.toList).bind router.preferred? with
  | none => .unknown
  | some (pattern, captures) =>
      let here := router.filter fun route => route.pattern = pattern
      let exact := here.find? fun route => route.accepts ≠ .any && route.accepts.serves method
      match exact.or (here.find? fun route => route.accepts = .any) with
      | some route => .served route.handler captures
      | none => .refused (here.flatMap fun route => route.accepts.allowed)

end Router

end ServiceHost.Http
