import ServiceHost.Plane.Listener
import ServiceHost.Plane.Preface
import ServiceHost.Plane.Tracker

/-!
From accepting to draining. The accept loop takes one connection after the other, counts it in and hands
it to a task of its own, which finds out the plane and puts the connection into the queue of that plane; the
serve loop of the plane takes it from there. Once shutdown is signalled the accept loop ends, the serve loops
end when nobody can put anything into their queues any more, and whoever drains the server waits for the three
loops and then for the last connection.
-/

set_option autoImplicit false

namespace ServiceHost

-- Where an accepted connection stands. It has its permit until it is served, and its guard from when it
-- is counted in until the end.
inductive Connection.Stage where
  | accepted
  | sniffing
  | classified (plane : Plane)
  | queued (plane : Plane)
  | serving (plane : Plane)
  | served
  | ended
  | lost
deriving DecidableEq, Repr

structure Connection where
  permit : Nat
  guard : Nat := 0
  stage : Connection.Stage := .accepted
deriving DecidableEq, Repr

def Connection.isSender (connection : Connection) : Bool :=
  match connection.stage with
  | .accepted | .sniffing | .classified _ => true
  | _ => false

inductive Drain.Waiter where
  | loops
  | connections
  | returned
deriving DecidableEq, Repr

structure Drain where
  listener : Listener
  tracker : Tracker := {}
  signalled : Bool := false
  accepting : Bool := true
  connections : List Connection := []
  queues : Plane → List Nat := fun _ => []
  receiving : Plane → Bool := fun _ => true
  routed : Plane → Nat := fun _ => 0
  waiter : Drain.Waiter := .loops

namespace Drain

def queueCapacity : Nat := 1024

def stage? (drain : Drain) (index : Nat) : Option Connection.Stage := (drain.connections[index]?).map (·.stage)

def move (drain : Drain) (index : Nat) (stage : Connection.Stage) : Drain :=
  { drain with connections := drain.connections.modify index fun connection => { connection with stage } }

def update {α : Type} (f : Plane → α) (plane : Plane) (value : α) : Plane → α :=
  fun other => if other = plane then value else f other

def signal (drain : Drain) : Drain := { drain with signalled := true }

def arrive (drain : Drain) : Drain := { drain with listener := drain.listener.arrive }

def isBusy (drain : Drain) : Bool := drain.connections.any (·.stage = .accepted)

def accept (drain : Drain) : Option Drain :=
  if drain.accepting && !drain.isBusy then
    drain.listener.accept?.map fun listener =>
      { drain with listener, connections := drain.connections ++ [{ permit := drain.listener.accepted }] }
  else none

def track (drain : Drain) (index : Nat) : Option Drain :=
  if drain.stage? index = some .accepted then
    let (guard, tracker) := drain.tracker.track
    some { drain with
      tracker
      connections := drain.connections.modify index fun connection =>
        { connection with guard, stage := .sniffing } }
  else none

def stopAccepting (drain : Drain) : Option Drain :=
  if drain.signalled && drain.accepting && !drain.isBusy then some { drain with accepting := false } else none

def classify (drain : Drain) (index : Nat) (looks : List Plane.Look) : Option Drain :=
  if drain.stage? index = some .sniffing then
    let plane := Plane.sniff looks
    some { drain.move index (.classified plane) with
      routed := update drain.routed plane (drain.routed plane + 1) }
  else none

-- Puts a connection into the queue of its plane as soon as there is room. It is lost if nobody takes
-- anything from the queue any more.
def enqueue (drain : Drain) (index : Nat) : Option Drain :=
  match drain.stage? index with
  | some (.classified plane) =>
      if !drain.receiving plane then some (drain.move index .lost)
      else if (drain.queues plane).length < queueCapacity then
        some { drain.move index (.queued plane) with
          queues := update drain.queues plane (drain.queues plane ++ [index]) }
      else none
  | _ => none

def receive (drain : Drain) (plane : Plane) : Option Drain :=
  match drain.receiving plane, drain.queues plane with
  | true, index :: rest =>
      some { drain.move index (.serving plane) with queues := update drain.queues plane rest }
  | _, _ => none

def stopReceiving (drain : Drain) (plane : Plane) : Option Drain :=
  if drain.receiving plane && (drain.queues plane).isEmpty && !drain.accepting
      && !drain.connections.any Connection.isSender then
    some { drain with receiving := update drain.receiving plane false }
  else none

def finish (drain : Drain) (index : Nat) : Option Drain :=
  match drain.connections[index]? with
  | some { permit, stage := .serving _, .. } =>
      some { drain.move index .served with
        listener := (drain.listener.release? permit).getD drain.listener }
  | _ => none

def leave (drain : Drain) (index : Nat) : Option Drain :=
  match drain.connections[index]? with
  | some { guard, stage := .served, .. } =>
      some { drain.move index .ended with tracker := (drain.tracker.drop guard).getD drain.tracker }
  | _ => none

def wait (drain : Drain) : Option Drain :=
  match drain.waiter with
  | .loops =>
      if drain.accepting || drain.receiving .rpc || drain.receiving .web then none
      else some { drain with waiter := .connections }
  | .connections => if drain.tracker.isIdle then some { drain with waiter := .returned } else none
  | .returned => none

def runOut (drain : Drain) : Drain :=
  [stopAccepting, (stopReceiving · .rpc), (stopReceiving · .web), wait, wait].foldl
    (fun drain step => (step drain).getD drain) drain

end Drain

end ServiceHost
