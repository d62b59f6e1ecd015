/-!
Counting live connections, so that shutdown can wait for them. Each connection holds a guard. Dropping
a guard takes two steps: the count goes down, and if it reached zero everyone who waits is woken. A
waiter registers before it looks at the count, so that no wake-up between the two is missed.
-/

set_option autoImplicit false

namespace ServiceHost

-- Where a waiter stands: about to register, registered and about to look, with what it has seen, asleep,
-- or done. Once it has registered it can be woken, and does not fall asleep any more when it has been.
inductive Waiter where
  | entered
  | registered (woken : Bool)
  | looked (count : UInt64) (woken : Bool)
  | parked (woken : Bool)
  | returned
deriving DecidableEq, Repr

namespace Waiter

def wake : Waiter → Waiter
  | .registered _ => .registered true
  | .looked count _ => .looked count true
  | .parked _ => .parked true
  | waiter => waiter

def next? (count : UInt64) : Waiter → Option Waiter
  | .entered => some (.registered false)
  | .registered woken => some (.looked count woken)
  | .looked seen woken => some (if seen = 0 then .returned else .parked woken)
  | .parked true => some .entered
  | .parked false => none
  | .returned => none

end Waiter

-- The guards that are alive, and the word that counts them. `notifying` drops have brought the count to
-- zero and not yet woken anybody.
structure Tracker where
  issued : Nat := 0
  live : List Nat := []
  count : UInt64 := 0
  notifying : Nat := 0
  waiters : List Waiter := []
deriving DecidableEq, Repr

namespace Tracker

-- Every guard holds a reference to the tracker, and a process that would come to hold more of them than
-- this is aborted.
def maxGuards : Nat := 0x7FFFFFFFFFFFFFFF

def active (tracker : Tracker) : Nat := tracker.live.length

def isIdle (tracker : Tracker) : Bool := tracker.active = 0

def track (tracker : Tracker) : Nat × Tracker :=
  (tracker.issued, { tracker with
    issued := tracker.issued + 1
    live := tracker.live ++ [tracker.issued]
    count := tracker.count + 1 })

def decrement (tracker : Tracker) (guard : Nat) : Option Tracker :=
  if guard ∈ tracker.live then
    some { tracker with
      live := tracker.live.erase guard
      count := tracker.count - 1
      notifying := if tracker.count = 1 then tracker.notifying + 1 else tracker.notifying }
  else none

def notify (tracker : Tracker) : Option Tracker :=
  if tracker.notifying = 0 then none
  else some { tracker with notifying := tracker.notifying - 1, waiters := tracker.waiters.map Waiter.wake }

def drop (tracker : Tracker) (guard : Nat) : Option Tracker :=
  (tracker.decrement guard).map fun next => (if tracker.count = 1 then next.notify else none).getD next

def wait (tracker : Tracker) : Tracker := { tracker with waiters := tracker.waiters ++ [.entered] }

def advance (tracker : Tracker) (waiter : Nat) : Option Tracker :=
  (tracker.waiters[waiter]?.bind (Waiter.next? tracker.count)).map fun next =>
    { tracker with waiters := tracker.waiters.set waiter next }

end Tracker

end ServiceHost
