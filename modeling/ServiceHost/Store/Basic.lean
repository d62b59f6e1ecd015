import ServiceHost.Store.Error
import ServiceHost.Table

/-!
The coordination store: an ordered table of keys, and leases to which keys can be bound. A lease runs
out at its deadline, and its keys with it. This is noticed at the start of the next operation that
looks at keys or leases, which comes to the same thing as noticing it at once. The store records every
change in order, so that watchers can be told.
-/

set_option autoImplicit false

namespace ServiceHost

inductive Change where
  | put (key : String) (value : List UInt8)
  | delete (key : String)
deriving DecidableEq, Repr

def Change.key : Change → String
  | .put key _ => key
  | .delete key => key

structure Lease where
  id : LeaseId
  ttl : Nat
  deadline : Nat
deriving DecidableEq, Repr

namespace Store

structure Entry where
  value : List UInt8
  lease : Option LeaseId
deriving DecidableEq, Repr

end Store

-- All times are counts of one unit on one clock that never runs backwards.
structure Store where
  table : Table Store.Entry := ∅
  leases : List Lease := []
  nextLease : LeaseId := 1
  available : Bool := true
  changes : Array Change := #[]

namespace Store

def isLive (store : Store) (id : LeaseId) : Bool := store.leases.any (·.id = id)

def boundTo (ids : List LeaseId) (entry : Entry) : Bool := entry.lease.any (ids.contains ·)

def dropKeys (ids : List LeaseId) (store : Store) : Store :=
  let doomed := (store.table.keep fun _ entry => boundTo ids entry).keys
  { store with
    table := store.table.keep fun _ entry => !boundTo ids entry
    changes := doomed.foldl (fun changes key => changes.push (.delete key)) store.changes }

def sweep (now : Nat) (store : Store) : Store :=
  let expired := (store.leases.filter fun lease => lease.deadline ≤ now).map (·.id)
  if expired.isEmpty then store
  else dropKeys expired { store with leases := store.leases.filter fun lease => !(lease.deadline ≤ now) }

-- Ids are 64-bit words: behind the greatest of them stands the least.
def idAfter (id : LeaseId) : LeaseId := (id + 1).bmod 0x10000000000000000

-- That the clock can hold the deadline is seen to by `call`, here and in `renew`.
def issue (now ttl : Nat) (store : Store) : Store :=
  let id := store.nextLease
  { store with
    leases := store.leases.filter (·.id ≠ id) ++ [{ id, ttl, deadline := now + ttl }]
    nextLease := idAfter id }

def renew (now : Nat) (id : LeaseId) (store : Store) : Store :=
  { store with
    leases := store.leases.map fun lease =>
      if lease.id = id then { lease with deadline := now + lease.ttl } else lease }

def write (key : String) (value : List UInt8) (lease : Option LeaseId) (store : Store) : Store :=
  { store with
    table := store.table.insert key { value, lease }
    changes := store.changes.push (.put key value) }

def remove (key : String) (store : Store) : Store :=
  if store.table.contains key then
    { store with table := store.table.erase key, changes := store.changes.push (.delete key) }
  else store

def grant (now ttl : Nat) (store : Store) : Except StoreError LeaseId × Store :=
  if !store.available then (.error .unavailable, store)
  else
    let store := sweep now store
    (.ok store.nextLease, issue now ttl store)

def keepAlive (now : Nat) (id : LeaseId) (store : Store) : Except StoreError Nat × Store :=
  if !store.available then (.error .unavailable, store)
  else
    let store := sweep now store
    match store.leases.find? (·.id = id) with
    | none => (.error (.leaseNotFound id), store)
    | some lease => (.ok lease.ttl, renew now id store)

def put (now : Nat) (key : String) (value : List UInt8) (lease : Option LeaseId) (store : Store) :
    Except StoreError Unit × Store :=
  if !store.available then (.error .unavailable, store)
  else
    let store := sweep now store
    match lease.filter fun id => !store.isLive id with
    | some id => (.error (.leaseNotFound id), store)
    | none => (.ok (), write key value lease store)

def delete (now : Nat) (key : String) (store : Store) : Except StoreError Unit × Store :=
  if !store.available then (.error .unavailable, store)
  else (.ok (), remove key (sweep now store))

def list (now : Nat) (root : String) (store : Store) :
    Except StoreError (List (String × List UInt8)) × Store :=
  if !store.available then (.error .unavailable, store)
  else
    let store := sweep now store
    (.ok ((store.table.under root).map fun (key, entry) => (key, entry.value)), store)

def leaseOf (now : Nat) (key : String) (store : Store) : Option LeaseId × Store :=
  let store := sweep now store
  ((store.table.get? key).bind (·.lease), store)

def leaseCount (now : Nat) (store : Store) : Nat × Store :=
  let store := sweep now store
  (store.leases.length, store)

def revoke (id : LeaseId) (store : Store) : Store :=
  dropKeys [id] { store with leases := store.leases.filter (·.id ≠ id) }

def setAvailable (available : Bool) (store : Store) : Store := { store with available }

inductive Operation where
  | grant (ttl : Nat)
  | keepAlive (lease : LeaseId)
  | put (key : String) (value : List UInt8) (lease : Option LeaseId)
  | delete (key : String)
  | list (root : String)
  | leaseOf (key : String)
  | leaseCount
  | revoke (lease : LeaseId)
  | setAvailable (available : Bool)
deriving DecidableEq, Repr

inductive Reply where
  | lease (id : LeaseId)
  | remaining (ttl : Nat)
  | done
  | entries (found : List (String × List UInt8))
  | holder (lease : Option LeaseId)
  | count (n : Nat)
  | refused (error : StoreError)
deriving DecidableEq, Repr

def Reply.ofExcept {α : Type} (f : α → Reply) : Except StoreError α → Reply
  | .ok a => f a
  | .error e => .refused e

def perform (now : Nat) (operation : Operation) (store : Store) : Reply × Store :=
  match operation with
  | .grant ttl => let (r, s) := store.grant now ttl; (.ofExcept .lease r, s)
  | .keepAlive lease => let (r, s) := store.keepAlive now lease; (.ofExcept .remaining r, s)
  | .put key value lease => let (r, s) := store.put now key value lease; (.ofExcept (fun _ => .done) r, s)
  | .delete key => let (r, s) := store.delete now key; (.ofExcept (fun _ => .done) r, s)
  | .list root => let (r, s) := store.list now root; (.ofExcept .entries r, s)
  | .leaseOf key => let (r, s) := store.leaseOf now key; (.holder r, s)
  | .leaseCount => let (r, s) := store.leaseCount now; (.count r, s)
  | .revoke lease => (.done, store.revoke lease)
  | .setAvailable available => (.done, store.setAvailable available)

-- Deadlines are instants of a clock that has a last one. Whoever asks for a later deadline gets no reply.
def overruns (latest now : Nat) (operation : Operation) (store : Store) : Bool :=
  match operation with
  | .grant ttl => store.available && latest < now + ttl
  | .keepAlive id =>
      store.available && ((sweep now store).leases.find? (·.id = id)).any fun lease => latest < now + lease.ttl
  | _ => false

-- By then the store has been swept, and the id of a lease that was to be granted is gone.
def abandon (now : Nat) (operation : Operation) (store : Store) : Store :=
  match operation with
  | .grant _ =>
      let store := sweep now store
      { store with nextLease := idAfter store.nextLease }
  | _ => sweep now store

def call (latest now : Nat) (operation : Operation) (store : Store) : Option Reply × Store :=
  if overruns latest now operation store then (none, abandon now operation store)
  else
    let (reply, store) := perform now operation store
    (some reply, store)

end Store

end ServiceHost
