import ServiceHost.Endpoint
import ServiceHost.Failure
import ServiceHost.Registration.Belief
import ServiceHost.Registration.Key
import ServiceHost.Rpc.Descriptor
import ServiceHost.Settings.Schema
import ServiceHost.Store.Basic

/-!
The registration loop, one call to the store at a time. At each tick the keeper either obtains a lease
and puts every entry under it, or renews the lease it holds. A put that fails does not keep the others
from being tried, but the lease is given up; so is one that cannot be renewed. The next tick starts
from scratch.
-/

set_option autoImplicit false

namespace ServiceHost.Registration

structure Entry where
  key : String
  value : List UInt8
deriving DecidableEq, Repr

def entries (root service address identity : String) (descriptors : List Rpc.Descriptor) : List Entry :=
  descriptors.map fun descriptor =>
    { key := key root service descriptor.name identity
      value := Endpoint.encode { address, metadata := descriptor.metadata } }

inductive Work where
  | idle
  | granting
  | putting (id : LeaseId) (entry : Entry) (rest : List Entry) (failure : Option RegistrationError)
  | renewing (id : LeaseId)
deriving DecidableEq, Repr

structure Keeper where
  belief : Belief := .unbound
  work : Work := .idle
deriving DecidableEq, Repr

inductive Next where
  | call (operation : Store.Operation)
  | done (failure : Option RegistrationError)
deriving DecidableEq, Repr

namespace Keeper

def putCall (id : LeaseId) (entry : Entry) : Store.Operation := .put entry.key entry.value (some id)

def begin (ttl : Nat) (keeper : Keeper) : Next × Keeper :=
  match keeper.belief with
  | .unbound => (.call (.grant ttl), { keeper with work := .granting })
  | held =>
      match held.beginRenewal with
      | (some id, belief) => (.call (.keepAlive id), { belief, work := .renewing id })
      | (none, belief) => (.done none, { belief := belief.reset, work := .idle })

def granted (entries : List Entry) (id : LeaseId) (keeper : Keeper) : Next × Keeper :=
  match entries with
  | [] => (.done none, { belief := keeper.belief.bind id, work := .idle })
  | entry :: rest => (.call (putCall id entry), { keeper with work := .putting id entry rest none })

def placed (id : LeaseId) (entry : Entry) (rest : List Entry) (failure : Option RegistrationError)
    (error : Option StoreError) (keeper : Keeper) : Next × Keeper :=
  let failure := failure.or (error.map (.put entry.key))
  match rest with
  | next :: rest => (.call (putCall id next), { keeper with work := .putting id next rest failure })
  | [] =>
      match failure with
      | none => (.done none, { belief := keeper.belief.bind id, work := .idle })
      | some failure => (.done (some failure), { keeper with work := .idle })

def refusal? : Store.Reply → Option StoreError
  | .refused error => some error
  | _ => none

def resume (entries : List Entry) (reply : Store.Reply) (keeper : Keeper) : Next × Keeper :=
  match keeper.work, reply with
  | .idle, _ => (.done none, keeper)
  | .granting, .lease id => keeper.granted entries id
  | .granting, reply => (.done ((refusal? reply).map .grant), { keeper with work := .idle })
  | .putting id entry rest failure, reply => keeper.placed id entry rest failure (refusal? reply)
  | .renewing id, reply =>
      match refusal? reply with
      | none => (.done none, { belief := keeper.belief.renewed, work := .idle })
      | some error => (.done (some (.leaseExpired id error)), { belief := keeper.belief.reset, work := .idle })

-- Calls in a tick: one for the lease and one for each entry.
def callBound (entries : List Entry) : Nat := entries.length + 1

def run {σ : Type} (perform : Store.Operation → σ → Store.Reply × σ) (entries : List Entry) :
    Nat → Next × Keeper → σ → Option RegistrationError × Keeper × σ
  | _, (.done failure, keeper), state => (failure, keeper, state)
  | 0, (.call _, keeper), state => (none, keeper, state)
  | fuel + 1, (.call operation, keeper), state =>
      let (reply, state) := perform operation state
      run perform entries fuel (keeper.resume entries reply) state

def tick {σ : Type} (perform : Store.Operation → σ → Store.Reply × σ) (ttl : Nat) (entries : List Entry)
    (keeper : Keeper) (state : σ) : Option RegistrationError × Keeper × σ :=
  run perform entries (callBound entries) (keeper.begin ttl) state

end Keeper

end ServiceHost.Registration
