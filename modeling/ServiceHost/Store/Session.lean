import ServiceHost.Store.Watch

set_option autoImplicit false

namespace ServiceHost.Store

inductive Step where
  | perform (operation : Operation)
  | fill (stem : String) (count : Nat)
  | watch (root : String)
  | next (watch : Nat) (most : Option Nat)
  | advance (millis : Nat)
  | drop
deriving DecidableEq, Repr

inductive Outcome where
  | reply (r : Reply)
  | panicked
  | watcher (index : Nat)
  | seen (reads : List Seen)
  | unknownWatcher
deriving DecidableEq, Repr

-- The clock counts milliseconds here, and its seconds are signed 64-bit words.
structure Session where
  store : Store := {}
  now : Nat := 0
  latest : Nat := 0x7FFFFFFFFFFFFFFF * 1000 + 999
  watches : List Watch := []
  alive : Bool := true

namespace Session

def fill (now : Nat) (stem : String) (store : Store) : Nat → Nat → Reply × Store
  | 0, _ => (.done, store)
  | count + 1, index =>
      match store.put now (stem ++ toString index) [0x78] none with
      | (.ok _, store) => fill now stem store count (index + 1)
      | (.error error, store) => (.refused error, store)

def reads (changes : Array Change) (alive : Bool) : Nat → Watch → List Seen × Watch
  | 0, watch => ([], watch)
  | fuel + 1, watch =>
      match watch.read changes alive with
      | (.pending, watch) => ([.pending], watch)
      | (.ended, watch) => ([.ended], watch)
      | (seen, watch) =>
          let (more, watch) := reads changes alive fuel watch
          (seen :: more, watch)

def step (session : Session) : Step → Outcome × Session
  | .perform operation =>
      let (reply, store) := session.store.call session.latest session.now operation
      ((reply.map Outcome.reply).getD .panicked, { session with store })
  | .fill stem count =>
      let (reply, store) := fill session.now stem session.store count 0
      (.reply reply, { session with store })
  | .watch root =>
      match session.store.watch root with
      | .ok watch => (.watcher session.watches.length, { session with watches := session.watches ++ [watch] })
      | .error error => (.reply (.refused error), session)
  | .next index most =>
      match session.watches[index]? with
      | none => (.unknownWatcher, session)
      | some watch =>
          let fuel := most.getD (session.store.changes.size + 2)
          let (seen, watch) := reads session.store.changes session.alive fuel watch
          (.seen seen, { session with watches := session.watches.set index watch })
  | .advance millis => (.reply .done, { session with now := session.now + millis })
  | .drop => (.reply .done, { session with alive := false })

def run (session : Session) : List Step → List Outcome
  | [] => []
  | s :: rest =>
      let (outcome, session) := session.step s
      outcome :: run session rest

end Session

end ServiceHost.Store
