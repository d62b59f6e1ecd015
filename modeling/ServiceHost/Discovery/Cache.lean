import ServiceHost.Discovery.Line
import ServiceHost.Failure

/-!
The cache of dialed channels. Each inquiry has a key; the first who asks for a key dials, and everyone
who asks after that gets the same channel. Every caller moves in steps between which others may run: it
looks whether the cache is open, looks for its key, waits for the lock, looks again, and dials while it
holds the lock. A caller may be dropped wherever it waits.

The outcome of a dial comes from outside: the steps take it as an argument.
-/

set_option autoImplicit false

namespace ServiceHost

structure Inquiry where
  service : String
  rpc : String
  endpoint : Option String := none
deriving DecidableEq, Repr

namespace Inquiry

def name (inquiry : Inquiry) : String := inquiry.service ++ "/" ++ inquiry.rpc

def key (inquiry : Inquiry) : String :=
  match inquiry.endpoint with
  | some endpoint => inquiry.name ++ "@" ++ endpoint
  | none => inquiry.name

end Inquiry

-- Where a caller stands. A caller that is dialing or hanging up holds the lock. Lines are named by
-- their number.
inductive Errand.Stage where
  | entered
  | admitted
  | queued
  | locked
  | dialing (line : Option Nat)
  | hangingUp (line : Nat) (closer : Line.Closer) (failure : Failure)
  | returned (result : Except Failure Nat)
  | dropped

structure Errand where
  inquiry : Inquiry
  stage : Errand.Stage := .entered

namespace Errand

def holdsLock (errand : Errand) : Bool :=
  match errand.stage with
  | .locked | .dialing _ | .hangingUp _ _ _ => true
  | _ => false

end Errand

inductive Shutter where
  | entered
  | shut
  | closing (line : Nat) (closer : Line.Closer) (left : List Nat)
  | returned
deriving DecidableEq, Repr

structure Cache where
  root : String
  dialTimeout : Nat
  closed : Bool := false
  dials : Nat := 0
  connected : Nat := 0
  failed : Nat := 0
  entries : List (String × Nat) := []
  lines : List Line := []
  errands : List Errand := []
  shutters : List Shutter := []

namespace Cache

def find? (cache : Cache) (key : String) : Option Nat := (cache.entries.find? (·.1 == key)).map (·.2)

def isFree (cache : Cache) : Bool := !cache.errands.any Errand.holdsLock

def moveErrand (cache : Cache) (index : Nat) (stage : Errand.Stage) : Cache :=
  { cache with errands := cache.errands.modify index fun errand => { errand with stage } }

def enter (cache : Cache) (inquiry : Inquiry) : Cache :=
  { cache with errands := cache.errands ++ [{ inquiry }] }

def checkOpen (cache : Cache) (index : Nat) : Option Cache :=
  match cache.errands[index]? with
  | some { stage := .entered, .. } =>
      some (cache.moveErrand index (if cache.closed then .returned (.error (.dial .closed)) else .admitted))
  | _ => none

def lookUp (cache : Cache) (index : Nat) : Option Cache :=
  match cache.errands[index]? with
  | some { inquiry, stage := .admitted } =>
      if cache.isFree then
        some (cache.moveErrand index (match cache.find? inquiry.key with
          | some line => .returned (.ok line)
          | none => .queued))
      else none
  | _ => none

def lock (cache : Cache) (index : Nat) : Option Cache :=
  match cache.errands[index]? with
  | some { stage := .queued, .. } => if cache.isFree then some (cache.moveErrand index .locked) else none
  | _ => none

def lookAgain (cache : Cache) (index : Nat) : Option Cache :=
  match cache.errands[index]? with
  | some { inquiry, stage := .locked } =>
      match cache.find? inquiry.key with
      | some line => some (cache.moveErrand index (.returned (.ok line)))
      | none => some { cache.moveErrand index (.dialing none) with dials := cache.dials + 1 }
  | _ => none

def refuse (cache : Cache) (index : Nat) (failure : Failure) : Option Cache :=
  match cache.errands[index]? with
  | some { stage := .dialing none, .. } =>
      some { cache.moveErrand index (.returned (.error failure)) with failed := cache.failed + 1 }
  | _ => none

def open? (cache : Cache) (index : Nat) (line : Line) : Option Cache :=
  match cache.errands[index]? with
  | some { stage := .dialing none, .. } =>
      some { cache.moveErrand index (.dialing (some cache.lines.length)) with lines := cache.lines ++ [line] }
  | _ => none

def keep (cache : Cache) (index : Nat) : Option Cache :=
  match cache.errands[index]? with
  | some { inquiry, stage := .dialing (some line) } =>
      some { cache.moveErrand index (.returned (.ok line)) with
        entries := cache.entries ++ [(inquiry.key, line)]
        connected := cache.connected + 1 }
  | _ => none

def giveUp (cache : Cache) (index : Nat) (failure : Failure) : Option Cache :=
  match cache.errands[index]? with
  | some { stage := .dialing (some line), .. } =>
      some (cache.moveErrand index (.hangingUp line .entered failure))
  | _ => none

def hangUp (cache : Cache) (index : Nat) : Option Cache :=
  match cache.errands[index]? with
  | some { stage := .hangingUp line closer failure, .. } => do
      let (closer, closing) ← closer.step? (← cache.lines[line]?)
      let cache := { cache with lines := cache.lines.set line closing }
      if closer = .returned then
        return { cache.moveErrand index (.returned (.error failure)) with failed := cache.failed + 1 }
      else return cache.moveErrand index (.hangingUp line closer failure)
  | _ => none

-- A caller is dropped where it waits. It lets go of the lock; what it was dialing is left alone.
def drop (cache : Cache) (index : Nat) : Option Cache :=
  match cache.errands[index]? with
  | some { stage := .admitted, .. } => some (cache.moveErrand index .dropped)
  | some { stage := .queued, .. } => some (cache.moveErrand index .dropped)
  | some { stage := .dialing _, .. } => some (cache.moveErrand index .dropped)
  | some { stage := .hangingUp _ _ _, .. } => some (cache.moveErrand index .dropped)
  | _ => none

def endFollower (cache : Cache) (line : Nat) : Option Cache :=
  match cache.lines[line]? with
  | some found =>
      if found.signalled then some { cache with lines := cache.lines.set line found.stopFollower } else none
  | none => none

def shutDown (cache : Cache) : Cache := { cache with shutters := cache.shutters ++ [.entered] }

def nextToClose : List Nat → Shutter
  | [] => .returned
  | line :: left => .closing line .entered left

def shutStep (cache : Cache) (index : Nat) : Option Cache :=
  match cache.shutters[index]? with
  | some .entered => some { cache with closed := true, shutters := cache.shutters.set index .shut }
  | some .shut =>
      if cache.isFree then
        some { cache with
          entries := []
          shutters := cache.shutters.set index (nextToClose (cache.entries.map (·.2))) }
      else none
  | some (.closing line closer left) => do
      let (closer, closing) ← closer.step? (← cache.lines[line]?)
      let shutter := if closer = .returned then nextToClose left else .closing line closer left
      return { cache with lines := cache.lines.set line closing, shutters := cache.shutters.set index shutter }
  | _ => none

def text (cache : Cache) : String :=
  Text.openRecord "ConnectionCache" [("prefix", Text.quoted cache.root),
    ("dial_timeout", Elapsed.text (cache.dialTimeout * 1000000)), ("dials", toString cache.dials)]

end Cache

end ServiceHost
