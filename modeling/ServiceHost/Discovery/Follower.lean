import ServiceHost.Discovery.Channel
import ServiceHost.Store.Watch

/-!
Following the store on behalf of a channel. A follower subscribes to the changes under a root and then
lists the keys there, so that no change between the two is lost; afterwards it applies one change after
the other. When its watch fails or ends it pauses and subscribes and lists anew.
-/

set_option autoImplicit false

namespace ServiceHost

namespace Follower

inductive Phase where
  | following (watch : Store.Watch)
  | pausing (due : Nat)
  | stopped
deriving DecidableEq, Repr

end Follower

structure Follower where
  root : String
  phase : Follower.Phase
deriving DecidableEq, Repr

namespace Follower

def resubscribeDelay : Nat := 1000

def targetsOf (listing : List (String × List UInt8)) : List (String × Endpoint) :=
  listing.filterMap fun (key, value) => (Endpoint.decode? value).map (key, ·)

def subscribe (now : Nat) (root : String) (store : Store) (channel : Channel) :
    Except StoreError Store.Watch × Store × Channel :=
  match store.watch root with
  | .error error => (.error error, store, channel)
  | .ok watch =>
      match store.list now root with
      | (.error error, store) => (.error error, store, channel)
      | (.ok listing, store) => (.ok watch, store, channel.replaceAll (targetsOf listing))

-- A value that is no endpoint leaves the target of its key as it was.
def apply (channel : Channel) : Change → Channel
  | .put key value =>
      match Endpoint.decode? value with
      | some endpoint => channel.upsert key endpoint
      | none => channel
  | .delete key => channel.remove key

def begin (now : Nat) (root : String) (store : Store) (channel : Channel) :
    Except StoreError Follower × Store × Channel :=
  match subscribe now root store channel with
  | (.error error, store, channel) => (.error error, store, channel)
  | (.ok watch, store, channel) => (.ok { root, phase := .following watch }, store, channel)

def observe (now : Nat) (store : Store) (follower : Follower) (channel : Channel) : Follower × Channel :=
  match follower.phase with
  | .following watch =>
      match watch.read store.changes true with
      | (.change change, watch) => ({ follower with phase := .following watch }, apply channel change)
      | (.pending, watch) => ({ follower with phase := .following watch }, channel)
      | _ => ({ follower with phase := .pausing (now + resubscribeDelay) }, channel)
  | _ => (follower, channel)

def resubscribe (now : Nat) (store : Store) (follower : Follower) (channel : Channel) :
    Follower × Store × Channel :=
  match subscribe now follower.root store channel with
  | (.ok watch, store, channel) => ({ follower with phase := .following watch }, store, channel)
  | (.error _, store, channel) =>
      ({ follower with phase := .pausing (now + resubscribeDelay) }, store, channel)

def stop (follower : Follower) : Follower := { follower with phase := .stopped }

def backlog (store : Store) (follower : Follower) : Nat :=
  match follower.phase with
  | .following watch => store.changes.size - watch.position + 1
  | _ => 0

def catchUp (now : Nat) (store : Store) : Nat → Follower → Channel → Follower × Channel
  | 0, follower, channel => (follower, channel)
  | fuel + 1, follower, channel =>
      let (follower, channel) := follower.observe now store channel
      catchUp now store fuel follower channel

def due? (follower : Follower) : Option Nat :=
  match follower.phase with
  | .pausing due => some due
  | _ => none

end Follower

end ServiceHost
