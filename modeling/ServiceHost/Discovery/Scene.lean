import ServiceHost.Discovery.Follower
import ServiceHost.Store.Session

set_option autoImplicit false

namespace ServiceHost

structure Scene where
  now : Nat := 0
  store : Store := {}
  channel : Channel
  followers : List Follower := []
  triggered : Bool := false

namespace Scene

def isOver (scene : Scene) : Bool := scene.triggered || scene.channel.closed

def runFollower (scene : Scene) (follower : Follower) : Scene :=
  if scene.isOver then { scene with followers := scene.followers ++ [follower.stop] }
  else
    let (follower, channel) := follower.catchUp scene.now scene.store (follower.backlog scene.store) scene.channel
    { scene with channel, followers := scene.followers ++ [follower] }

def settle (scene : Scene) : Scene :=
  scene.followers.foldl runFollower { scene with followers := [] }

def wake (scene : Scene) (follower : Follower) : Scene :=
  if follower.due?.any (· ≤ scene.now) then
    let (follower, store, channel) := follower.resubscribe scene.now scene.store scene.channel
    { scene with store, channel, followers := scene.followers ++ [follower] }
  else { scene with followers := scene.followers ++ [follower] }

def nextDue (scene : Scene) : Option Nat := (scene.followers.filterMap Follower.due?).min?

-- Ends the pauses that are due up to a time. A pause takes a second, so there are no more of them than
-- seconds for each follower.
def fireUntil (limit : Nat) : Nat → Scene → Scene
  | 0, scene => scene
  | fuel + 1, scene =>
      match scene.nextDue with
      | some due =>
          if due ≤ limit then
            let scene := { scene with now := due }
            fireUntil limit fuel (settle (scene.followers.foldl wake { scene with followers := [] }))
          else scene
      | none => scene

def sleep (scene : Scene) (millis : Nat) : Scene :=
  let target := scene.now + millis
  let fuel := scene.followers.length * (millis / Follower.resubscribeDelay + 2)
  { fireUntil target fuel scene with now := target }

def perform (scene : Scene) (operation : Store.Operation) : Store.Reply × Scene :=
  let (reply, store) := scene.store.perform scene.now operation
  (reply, settle { scene with store })

def performAll (scene : Scene) (operations : List Store.Operation) : Scene :=
  { scene with
    store := operations.foldl (fun store operation => (store.perform scene.now operation).2) scene.store }

def burst (scene : Scene) (stem : String) (count : Nat) (deleted : List String) (again : Nat) : Scene :=
  let puts (count : Nat) : List Store.Operation :=
    (List.range count).map fun index => .put (stem ++ toString index) [0x78] none
  settle (scene.performAll (puts count ++ deleted.map .delete ++ puts again))

def start (scene : Scene) (root : String) : Except DialError Unit × Scene :=
  match Follower.begin scene.now root scene.store scene.channel with
  | (.ok follower, store, channel) =>
      (.ok (), settle { scene with store, channel, followers := scene.followers ++ [follower] })
  | (.error error, store, channel) => (.error (.store error), { scene with store, channel })

def trigger (scene : Scene) : Scene := settle { scene with triggered := true }

def close (scene : Scene) : Scene := settle { scene with channel := scene.channel.close }

def pick (scene : Scene) : Except DialError Target × Scene :=
  let (result, channel) := scene.channel.pick
  (result, { scene with channel })

end Scene

end ServiceHost
