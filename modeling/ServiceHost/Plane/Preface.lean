import ServiceHost.Text.Utf8

/-!
Which plane a connection belongs to. A client of the RPC plane opens with the connection preface of
HTTP/2; everything else is the web plane's. Looks at a connection show some of its first bytes and leave
them where they are, so whoever serves the connection reads it from its first byte on.
-/

set_option autoImplicit false

namespace ServiceHost

inductive Plane where
  | rpc
  | web
deriving DecidableEq, Repr

namespace Plane

def name : Plane → String
  | .rpc => "rpc"
  | .web => "web"

def preface : List UInt8 := Utf8.encode "PRI * HTTP/2.0\r\n\r\nSM\r\n\r\n"

-- The plane that the first bytes decide on, or `none` while they could still become the preface.
def classify (bytes : List UInt8) : Option Plane :=
  let shown := min bytes.length preface.length
  if bytes.take shown ≠ preface.take shown then some .web
  else if shown = preface.length then some .rpc
  else none

inductive Look where
  | bytes (received : List UInt8)
  | ended
  | failed
  | timedOut
deriving DecidableEq, Repr

def sniff : List Look → Plane
  | [] => .web
  | .bytes [] :: _ => .web
  | .bytes received :: rest => (classify (received.take 24)).getD (sniff rest)
  | _ :: _ => .web

def Look.decides : Look → Option Plane
  | .bytes [] => some .web
  | .bytes received => classify (received.take 24)
  | _ => some .web

end Plane

-- A connection whose plane is sought: what has come and has not been read, whether the client has ended
-- the stream, what the looks have shown, and the plane once one is decided on.
structure Sniffing where
  unread : List UInt8 := []
  ended : Bool := false
  looks : List Plane.Look := []
  plane : Option Plane := none
deriving DecidableEq, Repr

namespace Sniffing

def arrive (sniffing : Sniffing) (chunk : List UInt8) : Option Sniffing :=
  if sniffing.ended then none else some { sniffing with unread := sniffing.unread ++ chunk }

def finish (sniffing : Sniffing) : Sniffing := { sniffing with ended := true }

def see (sniffing : Sniffing) (look : Plane.Look) : Option Sniffing :=
  if sniffing.plane = none then some { sniffing with looks := sniffing.looks ++ [look], plane := look.decides }
  else none

-- What a look shows that gets `count` bytes into its buffer of 24. It waits until there is something to
-- be seen, bytes or the end of the stream.
def shown (sniffing : Sniffing) (count : Nat) : Option Plane.Look :=
  if sniffing.unread = [] then if sniffing.ended then some .ended else none
  else if count = 0 then none
  else some (.bytes (sniffing.unread.take (min count 24)))

def look (sniffing : Sniffing) (count : Nat) : Option Sniffing := (sniffing.shown count).bind sniffing.see

def lookAll (sniffing : Sniffing) : Sniffing := (sniffing.look 24).getD sniffing

def watch (chunks : List (List UInt8)) (silent : Bool) : Sniffing :=
  let sent := chunks.foldl (fun sniffing chunk => ((sniffing.arrive chunk).getD sniffing).lookAll) ({} : Sniffing)
  let left := if silent then sent else sent.finish.lookAll
  (left.see .timedOut).getD left

end Sniffing

def Plane.looks (chunks : List (List UInt8)) (silent : Bool) : List Plane.Look := (Sniffing.watch chunks silent).looks

end ServiceHost
