import ServiceHost.Discovery.Follower

/-!
A channel in use, together with the follower that keeps it current, and what closing it takes. Whoever
closes a channel first marks it, signals its follower, takes the handle of the follower and waits for its
end. Anyone who comes later finds it marked and has nothing to do.
-/

set_option autoImplicit false

namespace ServiceHost

-- `signalled` tells the follower to stop. The `handle` is what one can wait for its end with.
structure Line where
  channel : Channel
  follower : Option Follower := none
  handle : Bool := follower.isSome
  signalled : Bool := false

namespace Line

def isFollowed (line : Line) : Bool := line.follower.any fun follower => decide (follower.phase ≠ .stopped)

def stopFollower (line : Line) : Line := { line with follower := line.follower.map Follower.stop }

inductive Closer where
  | entered
  | marked
  | signalled
  | waiting
  | returned
deriving DecidableEq, Repr

def Closer.step? (line : Line) : Closer → Option (Closer × Line)
  | .entered =>
      if line.channel.closed then some (.returned, line)
      else some (.marked, { line with channel := line.channel.close })
  | .marked => some (.signalled, { line with signalled := true })
  | .signalled => if line.handle then some (.waiting, { line with handle := false }) else some (.returned, line)
  | .waiting => if line.isFollowed then none else some (.returned, line)
  | .returned => none

end Line

end ServiceHost
