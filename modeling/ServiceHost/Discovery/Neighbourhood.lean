import ServiceHost.Discovery.Cache
import ServiceHost.Discovery.Reach
import ServiceHost.Registration.Key

set_option autoImplicit false

namespace ServiceHost

abbrev Network := String → Reach.Attempt

namespace Network

def isolated : Network := fun _ => .fails 0

def probe (network : Network) (limit : Nat) (address : String) : Except DialError Unit :=
  match network address with
  | .succeeds after => if after < limit then .ok () else .error (.timeout (limit * 1000000))
  | .fails after =>
      if after < limit then .error (.connect address "connection refused") else .error (.timeout (limit * 1000000))
  | .silent => .error (.timeout (limit * 1000000))

end Network

structure Neighbourhood where
  cache : Cache
  store : Option Store := none
  network : Network := .isolated
  now : Nat := 0
  triggered : Bool := false
  coming : List Store.Operation := []

namespace Neighbourhood

def settleLine (neighbourhood : Neighbourhood) (line : Line) : Line :=
  if neighbourhood.triggered || line.signalled then line.stopFollower
  else
    match line.follower, neighbourhood.store with
    | some follower, some store =>
        let (follower, channel) :=
          follower.catchUp neighbourhood.now store (follower.backlog store) line.channel
        { line with follower := some follower, channel }
    | _, _ => line

def settle (neighbourhood : Neighbourhood) : Neighbourhood :=
  { neighbourhood with
    cache := { neighbourhood.cache with lines := neighbourhood.cache.lines.map neighbourhood.settleLine } }

def perform (neighbourhood : Neighbourhood) (operation : Store.Operation) : Option Store.Reply × Neighbourhood :=
  match neighbourhood.store with
  | none => (none, neighbourhood)
  | some store =>
      let (reply, store) := store.perform neighbourhood.now operation
      (some reply, settle { neighbourhood with store := some store })

def befall (neighbourhood : Neighbourhood) : Neighbourhood :=
  neighbourhood.coming.foldl (fun neighbourhood operation => (neighbourhood.perform operation).2)
    { neighbourhood with coming := [] }

def dialGiven (neighbourhood : Neighbourhood) (name endpoint : String) : Except Failure Line :=
  match Address.dialable endpoint with
  | .error error => .error (.dial error)
  | .ok address =>
      match neighbourhood.network.probe neighbourhood.cache.dialTimeout address with
      | .error error => .error (.dial error)
      | .ok _ => .ok { channel := Channel.upsert { name } address { address } }

def follow (neighbourhood : Neighbourhood) (inquiry : Inquiry) : Except Failure Line × Neighbourhood :=
  match neighbourhood.store with
  | none => (.error (.config .storeNotConfigured), neighbourhood)
  | some store =>
      let root := Registration.serviceRoot neighbourhood.cache.root inquiry.service inquiry.rpc
      match Follower.begin neighbourhood.now root store { name := inquiry.name } with
      | (.ok follower, store, channel) =>
          (.ok { channel, follower := some follower }, { neighbourhood with store := some store })
      | (.error error, store, _) => (.error (.dial (.store error)), { neighbourhood with store := some store })

def advance (neighbourhood : Neighbourhood) (step : Cache → Option Cache) : Neighbourhood :=
  { neighbourhood with cache := (step neighbourhood.cache).getD neighbourhood.cache }

def hangUp (neighbourhood : Neighbourhood) (index line : Nat) : Neighbourhood :=
  let close (neighbourhood : Neighbourhood) : Neighbourhood := neighbourhood.advance (·.hangUp index)
  close ((close (close (close neighbourhood))).advance (·.endFollower line))

def waitReachable (neighbourhood : Neighbourhood) (index line : Nat) : Neighbourhood :=
  let neighbourhood := neighbourhood.befall
  let timeout := neighbourhood.cache.dialTimeout
  match neighbourhood.cache.lines[line]? with
  | none => neighbourhood
  | some found =>
      match Reach.wait found.channel.name timeout (found.channel.endpoints.map neighbourhood.network) with
      | .ok _ => neighbourhood.advance (·.keep index)
      | .error error =>
          let neighbourhood := { neighbourhood with now := neighbourhood.now + timeout }
          (neighbourhood.advance (·.giveUp index (.dial error))).hangUp index line

def dial (neighbourhood : Neighbourhood) (index : Nat) (inquiry : Inquiry) : Neighbourhood :=
  let line := neighbourhood.cache.lines.length
  match inquiry.endpoint with
  | some endpoint =>
      match neighbourhood.dialGiven inquiry.name endpoint with
      | .error failure => neighbourhood.advance (·.refuse index failure)
      | .ok found => (neighbourhood.advance (·.open? index found)).advance (·.keep index)
  | none =>
      match neighbourhood.follow inquiry with
      | (.error failure, neighbourhood) => neighbourhood.advance (·.refuse index failure)
      | (.ok found, neighbourhood) => (neighbourhood.advance (·.open? index found)).waitReachable index line

def serve (inquiry : Inquiry) (neighbourhood : Neighbourhood) (index : Nat) : Neighbourhood :=
  let neighbourhood := ((neighbourhood.advance (·.lookUp index)).advance (·.lock index)).advance (·.lookAgain index)
  match neighbourhood.cache.errands[index]? with
  | some { stage := .dialing none, .. } => neighbourhood.dial index inquiry
  | _ => neighbourhood

def resolve (neighbourhood : Neighbourhood) (inquiry : Inquiry) (times : Nat) :
    Except Failure Nat × Neighbourhood :=
  let first := neighbourhood.cache.errands.length
  let callers := (List.range times).map (first + ·)
  let entered := callers.foldl (fun n _ => { n with cache := n.cache.enter inquiry }) neighbourhood
  let admitted := callers.foldl (fun n index => n.advance (·.checkOpen index)) entered
  let done := (callers.foldl (serve inquiry) admitted).befall
  match done.cache.errands.getLast? with
  | some { stage := .returned result, .. } => (result, done)
  | _ => (.error (.dial .closed), done)

def endFollowers (neighbourhood : Neighbourhood) : Neighbourhood :=
  (List.range neighbourhood.cache.lines.length).foldl (fun n line => n.advance (·.endFollower line)) neighbourhood

def closeBound (neighbourhood : Neighbourhood) : Nat := 4 * neighbourhood.cache.entries.length + 2

def close (neighbourhood : Neighbourhood) : Neighbourhood :=
  let index := neighbourhood.cache.shutters.length
  let asked := { neighbourhood with cache := neighbourhood.cache.shutDown }
  (List.range neighbourhood.closeBound).foldl (fun n _ => (n.advance (·.shutStep index)).endFollowers) asked

def trigger (neighbourhood : Neighbourhood) : Neighbourhood := settle { neighbourhood with triggered := true }

def setChannel (neighbourhood : Neighbourhood) (line : Nat) (channel : Channel) : Neighbourhood :=
  { neighbourhood with
    cache := { neighbourhood.cache with
      lines := neighbourhood.cache.lines.modify line fun found => { found with channel } } }

end Neighbourhood

end ServiceHost
