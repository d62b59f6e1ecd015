import ServiceHost.Store.Basic

/-!
Watching the keys under a root. A watcher reads the changes from the moment it subscribed, one after
the other. The store remembers only the latest changes, whatever keys they concern; a watcher that has
fallen further behind is told so once, and its stream ends.
-/

set_option autoImplicit false

namespace ServiceHost.Store

def watchCapacity : Nat := 1024

structure Watch where
  root : String
  position : Nat
  ended : Bool := false
deriving DecidableEq, Repr

inductive Seen where
  | change (c : Change)
  | failed (error : StoreError)
  | pending
  | ended
deriving DecidableEq, Repr

def watch (root : String) (store : Store) : Except StoreError Watch :=
  if store.available then .ok { root, position := store.changes.size } else .error .unavailable

def lagMessage (missed : Nat) : String := s!"watch lagged, {missed} events skipped"

-- Takes the next unread change, which is seen only if its key lies under the root. `open?` says
-- whether the store still exists: a watcher of a store that is gone comes to an end once it has read
-- everything.
def Watch.receive (changes : Array Change) (open? : Bool) (watch : Watch) : Option Seen × Watch :=
  if watch.ended then (some .ended, watch)
  else
    let unread := changes.size - watch.position
    if watchCapacity < unread then
      (some (.failed (.backend (lagMessage (unread - watchCapacity)))), { watch with ended := true })
    else
      match changes[watch.position]? with
      | some change =>
          (if Table.liesUnder watch.root change.key then some (.change change) else none,
            { watch with position := watch.position + 1 })
      | none => if open? then (some .pending, watch) else (some .ended, { watch with ended := true })

def firstUnder (root : String) (position : Nat) : List Change → Option (Change × Nat)
  | [] => none
  | change :: rest =>
      if Table.liesUnder root change.key then some (change, position + 1)
      else firstUnder root (position + 1) rest

def Watch.read (changes : Array Change) (open? : Bool) (watch : Watch) : Seen × Watch :=
  if watch.ended then (.ended, watch)
  else
    let unread := changes.size - watch.position
    if watchCapacity < unread then
      (.failed (.backend (lagMessage (unread - watchCapacity))), { watch with ended := true })
    else
      match firstUnder watch.root watch.position (changes.toList.drop watch.position) with
      | some (change, position) => (.change change, { watch with position })
      | none =>
          let watch := { watch with position := changes.size }
          if open? then (.pending, watch) else (.ended, { watch with ended := true })

end ServiceHost.Store
