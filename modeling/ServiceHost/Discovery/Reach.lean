import ServiceHost.Discovery.DialError

/-!
Waiting until one of several endpoints can be reached. The endpoints are tried one after the other in
the order of their keys, each for as long as the dial timeout allows; after a round without success
there is a pause, which a change of the endpoints cuts short, and the next round tries those that there
are then, until the time is up.
-/

set_option autoImplicit false

namespace ServiceHost.Reach

inductive Attempt where
  | succeeds (after : Nat)
  | fails (after : Nat)
  | silent
deriving DecidableEq, Repr

def pause : Nat := 50

def Attempt.within (dialTimeout : Nat) : Attempt → Nat × Bool
  | .succeeds after => if after < dialTimeout then (after, true) else (dialTimeout, false)
  | .fails after => (min after dialTimeout, false)
  | .silent => (dialTimeout, false)

-- The endpoints as they come and go, from the beginning of the wait: those at first, and those from each
-- change on.
structure Course where
  first : List Attempt
  changes : List (Nat × List Attempt)
  ordered : changes.Pairwise fun earlier later => earlier.1 ≤ later.1

namespace Course

def steady (attempts : List Attempt) : Course := { first := attempts, changes := [], ordered := .nil }

def standing (course : Course) (time : Nat) : List Attempt :=
  ((course.changes.takeWhile (·.1 ≤ time)).getLast?.map (·.2)).getD course.first

def changeAfter? (course : Course) (time : Nat) : Option Nat :=
  (course.changes.find? (time < ·.1)).map (·.1)

-- When a round is to begin after one without success: at once if the endpoints have changed during that
-- round, else at their next change, or when the pause is over.
def resume (course : Course) (now finish : Nat) : Nat :=
  match course.changeAfter? now with
  | some change => max finish (min change (finish + pause))
  | none => finish + pause

end Course

def round (dialTimeout : Nat) : Nat → List Attempt → Nat × Bool
  | now, [] => (now, false)
  | now, attempt :: rest =>
      match attempt.within dialTimeout with
      | (taken, true) => (now + taken, true)
      | (taken, false) => round dialTimeout (now + taken) rest

-- The rounds from the given time on. Each begins later than the one before.
def rounds (dialTimeout limit : Nat) (course : Course) : Nat → Nat → Bool
  | 0, _ => false
  | fuel + 1, now =>
      match round dialTimeout now (course.standing now) with
      | (finish, true) => finish < limit
      | (finish, false) => finish < limit && rounds dialTimeout limit course fuel (course.resume now finish)

def waitThrough (channel : String) (dialTimeout limit : Nat) (course : Course) : Except DialError Unit :=
  if rounds dialTimeout limit course (limit + 1) 0 then .ok ()
  else if (course.standing limit).isEmpty then .error (.noEndpoints channel)
  else .error (.timeout (limit * 1000000))

def wait (channel : String) (dialTimeout : Nat) (attempts : List Attempt) : Except DialError Unit :=
  waitThrough channel dialTimeout dialTimeout (.steady attempts)

end ServiceHost.Reach
