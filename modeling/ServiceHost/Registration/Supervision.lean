import ServiceHost.Registration.Keeper

/-!
Who keeps a registration up, and who ends it. A supervisor spawns a worker, which does what the keeper says,
and waits for its end; a worker that panics is replaced after a pause. When shutdown is signalled the worker
stops before its next tick, and the supervisor with it. Whoever takes the keys away waits for that end first,
and then deletes the keys one after the other, whatever comes of it.

The answers of the store and the time at which a step is taken come from outside.
-/

set_option autoImplicit false

namespace ServiceHost.Registration

-- A worker waits for its next tick or for the answer to a call, until it ends in one way or the other.
inductive Worker.Phase where
  | resting
  | calling (operation : Store.Operation)
  | stopped
  | panicked
deriving DecidableEq, Repr

structure Worker where
  keeper : Keeper := {}
  phase : Worker.Phase := .resting
deriving DecidableEq, Repr

namespace Worker

def isAlive (worker : Worker) : Bool :=
  match worker.phase with
  | .resting => true
  | .calling _ => true
  | _ => false

def call? (worker : Worker) : Option Store.Operation :=
  match worker.phase with
  | .calling operation => some operation
  | _ => none

def take : Next × Keeper → Worker
  | (.call operation, keeper) => { keeper, phase := .calling operation }
  | (.done _, keeper) => { keeper }

end Worker

inductive Supervisor where
  | absent
  | launching
  | watching (worker : Nat)
  | pausing
  | ended
deriving DecidableEq, Repr

inductive Remover where
  | waiting
  | deleting (entry : Entry) (left : List Entry)
  | returned
deriving DecidableEq, Repr

namespace Remover

def ofEntries : List Entry → Remover
  | [] => .returned
  | entry :: left => .deleting entry left

def call? : Remover → Option Store.Operation
  | .deleting entry _ => some (.delete entry.key)
  | _ => none

end Remover

-- The workers are kept in the order in which they were spawned, those that have ended too. `claimed` says
-- whether somebody has already undertaken to wait for the supervisor.
structure Supervision where
  entries : List Entry
  ttl : Nat
  signalled : Bool := false
  supervisor : Supervisor := .absent
  workers : List Worker := []
  claimed : Bool := false
  removers : List Remover := []
deriving DecidableEq, Repr

namespace Supervision

def signal (supervision : Supervision) : Supervision := { supervision with signalled := true }

def launch (supervision : Supervision) : Supervision :=
  { supervision with supervisor := .launching, claimed := false }

def watched? (supervision : Supervision) : Option Worker :=
  match supervision.supervisor with
  | .watching position => supervision.workers[position]?
  | _ => none

def callOf (supervision : Supervision) (position : Nat) : Option Store.Operation :=
  supervision.workers[position]?.bind (·.call?)

def replace (supervision : Supervision) (position : Nat) (worker : Worker) : Supervision :=
  { supervision with workers := supervision.workers.set position worker }

def spawn? (supervision : Supervision) : Option Supervision :=
  if supervision.supervisor = .launching then
    some { supervision with
      supervisor := .watching supervision.workers.length, workers := supervision.workers ++ [{}] }
  else none

def tick? (supervision : Supervision) (position : Nat) : Option Supervision :=
  match supervision.workers[position]? with
  | some { keeper, phase := .resting } =>
      if supervision.signalled then none
      else some (supervision.replace position (.take (keeper.begin supervision.ttl)))
  | _ => none

def stop? (supervision : Supervision) (position : Nat) : Option Supervision :=
  match supervision.workers[position]? with
  | some { keeper, phase := .resting } =>
      if supervision.signalled then some (supervision.replace position { keeper, phase := .stopped }) else none
  | _ => none

def answer? (supervision : Supervision) (position : Nat) (reply : Store.Reply) : Option Supervision :=
  match supervision.workers[position]? with
  | some { keeper, phase := .calling _ } =>
      some (supervision.replace position (.take (keeper.resume supervision.entries reply)))
  | _ => none

def panic? (supervision : Supervision) (position : Nat) : Option Supervision :=
  match supervision.workers[position]? with
  | some worker =>
      if worker.isAlive then some (supervision.replace position { worker with phase := .panicked }) else none
  | none => none

def notice? (supervision : Supervision) : Option Supervision :=
  match supervision.watched? with
  | some { phase := .stopped, .. } => some { supervision with supervisor := .ended }
  | some { phase := .panicked, .. } => some { supervision with supervisor := .pausing }
  | _ => none

def relaunch? (supervision : Supervision) : Option Supervision :=
  if supervision.supervisor = .pausing then some { supervision with supervisor := .launching } else none

def desist? (supervision : Supervision) : Option Supervision :=
  if supervision.supervisor = .pausing && supervision.signalled then some { supervision with supervisor := .ended }
  else none

-- Someone wants the keys taken away. Only the first one waits for the supervisor.
def remove (supervision : Supervision) : Supervision :=
  if supervision.claimed || supervision.supervisor = .absent then
    { supervision with removers := supervision.removers ++ [Remover.ofEntries supervision.entries] }
  else { supervision with claimed := true, removers := supervision.removers ++ [.waiting] }

def proceed? (supervision : Supervision) (remover : Nat) : Option Supervision :=
  if supervision.removers[remover]? = some .waiting && supervision.supervisor = .ended then
    some { supervision with
      removers := supervision.removers.set remover (Remover.ofEntries supervision.entries) }
  else none

def delete? (supervision : Supervision) (remover : Nat) : Option Supervision :=
  match supervision.removers[remover]? with
  | some (.deleting _ left) =>
      some { supervision with removers := supervision.removers.set remover (Remover.ofEntries left) }
  | _ => none

end Supervision

end ServiceHost.Registration
