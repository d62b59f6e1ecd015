import Mathlib.Data.List.Basic
import ServiceHost.Plane.Drain
import ServiceHost.Proofs.Shares

set_option autoImplicit false

namespace ServiceHost

-- How many steps a connection has before it.
def Connection.Stage.ahead : Connection.Stage → Nat
  | .accepted => 6
  | .sniffing => 5
  | .classified _ => 4
  | .queued _ => 3
  | .serving _ => 2
  | .served => 1
  | .ended => 0
  | .lost => 0

namespace Drain

inductive Move where
  | arrive
  | signal
  | accept
  | track (index : Nat)
  | classify (index : Nat) (looks : List Plane.Look)
  | enqueue (index : Nat)
  | receive (plane : Plane)
  | finish (index : Nat)
  | leave (index : Nat)
  | stopAccepting
  | stopReceiving (plane : Plane)
  | wait

def move? (drain : Drain) : Move → Option Drain
  | .arrive => some drain.arrive
  | .signal => some drain.signal
  | .accept => drain.accept
  | .track index => drain.track index
  | .classify index looks => drain.classify index looks
  | .enqueue index => drain.enqueue index
  | .receive plane => drain.receive plane
  | .finish index => drain.finish index
  | .leave index => drain.leave index
  | .stopAccepting => drain.stopAccepting
  | .stopReceiving plane => drain.stopReceiving plane
  | .wait => drain.wait

-- The steps of a connection: what it becomes, with what else the step makes of the drain.
inductive Turn (drain : Drain) (index : Nat) (connection : Connection) : Move → Connection → Drain → Prop where
  | tracked : connection.stage = .accepted →
      Turn drain index connection (.track index) { connection with guard := drain.tracker.issued, stage := .sniffing }
        { drain with tracker := drain.tracker.track.2 }
  | classified (looks : List Plane.Look) : connection.stage = .sniffing →
      Turn drain index connection (.classify index looks) { connection with stage := .classified (Plane.sniff looks) }
        { drain with routed := update drain.routed (Plane.sniff looks) (drain.routed (Plane.sniff looks) + 1) }
  | enqueued (plane : Plane) : connection.stage = .classified plane → (drain.queues plane).length < queueCapacity →
      Turn drain index connection (.enqueue index) { connection with stage := .queued plane }
        { drain with queues := update drain.queues plane (drain.queues plane ++ [index]) }
  | received (plane : Plane) (rest : List Nat) : connection.stage = .queued plane → drain.queues plane = index :: rest →
      Turn drain index connection (.receive plane) { connection with stage := .serving plane }
        { drain with queues := update drain.queues plane rest }
  | finished (plane : Plane) : connection.stage = .serving plane →
      Turn drain index connection (.finish index) { connection with stage := .served }
        { drain with listener := (drain.listener.release? connection.permit).getD drain.listener }
  | left : connection.stage = .served →
      Turn drain index connection (.leave index) { connection with stage := .ended }
        { drain with tracker := (drain.tracker.drop connection.guard).getD drain.tracker }

-- What a move does. That no connection is lost shows here already: nobody puts one into a queue that nobody takes from.
inductive Does (drain : Drain) : Move → Drain → Prop where
  | arrived : Does drain .arrive drain.arrive
  | signalled : Does drain .signal drain.signal
  | accepted : drain.accepting = true → drain.listener.held.length < drain.listener.limit →
      Does drain .accept
        { drain with
          listener := { drain.listener with
            pending := drain.listener.pending - 1
            accepted := drain.listener.accepted + 1
            held := drain.listener.held ++ [drain.listener.accepted] }
          connections := drain.connections ++ [{ permit := drain.listener.accepted }] }
  | turned (move : Move) (index : Nat) (connection later : Connection) (after : Drain) :
      drain.connections[index]? = some connection → Turn drain index connection move later after →
      Does drain move { after with connections := drain.connections.set index later }
  | stoppedAccepting : drain.accepting = true → Does drain .stopAccepting { drain with accepting := false }
  | stoppedReceiving (plane : Plane) : drain.receiving plane = true → drain.queues plane = [] → drain.accepting = false →
      (∀ connection ∈ drain.connections, connection.isSender = false) →
      Does drain (.stopReceiving plane) { drain with receiving := update drain.receiving plane false }
  | joined : drain.waiter = .loops → drain.accepting = false → (∀ plane, drain.receiving plane = false) →
      Does drain .wait { drain with waiter := .connections }
  | returned : drain.waiter = .connections → drain.tracker.live = [] → Does drain .wait { drain with waiter := .returned }

-- A queue holds the connections that stand in it, each once. A serve loop has ended only if nobody can put anything into its
-- queue any more, and whoever drains the server has waited for all loops.
structure Orderly (drain : Drain) : Prop where
  lined : ∀ plane index, (drain.queues plane).count index = if drain.stage? index = some (.queued plane) then 1 else 0
  unheeded : ∀ plane, drain.receiving plane = false →
    drain.accepting = false ∧ (∀ connection ∈ drain.connections, connection.isSender = false) ∧ drain.queues plane = []
  waited : drain.waiter ≠ .loops → ∀ plane, drain.receiving plane = false

theorem move_connection (drain : Drain) (index : Nat) (connection : Connection) (change : Connection → Connection)
    (found : drain.connections[index]? = some connection) :
    drain.connections.modify index change = drain.connections.set index (change connection) := by
  rw [List.modify_eq_set_getElem?, found]
  rfl

theorem found_stage (drain : Drain) (index : Nat) (connection : Connection) (found : drain.connections[index]? = some connection) :
    drain.stage? index = some connection.stage := by
  rw [stage?, found]
  rfl

theorem stage_found (drain : Drain) (index : Nat) (stage : Connection.Stage) (stands : drain.stage? index = some stage) :
    ∃ connection, drain.connections[index]? = some connection ∧ connection.stage = stage :=
  Option.map_eq_some_iff.mp stands

-- Who can still put something into a queue finds somebody who takes it out.
theorem sender_heeded (drain : Drain) (orderly : Orderly drain) (connection : Connection) (member : connection ∈ drain.connections)
    (sender : connection.isSender = true) (plane : Plane) : drain.receiving plane = true := by
  by_contra ended
  have still := (orderly.unheeded plane (Bool.eq_false_iff.mpr ended)).2.1 connection member
  cases still.symm.trans sender

theorem mem_queue (drain : Drain) (orderly : Orderly drain) (plane : Plane) (index : Nat) :
    index ∈ drain.queues plane ↔ drain.stage? index = some (.queued plane) := by
  rw [← List.count_pos_iff, orderly.lined plane index]
  split
  next stands => simp [stands]
  next elsewhere => simp [elsewhere]

theorem accept_does (drain next : Drain) (accepted : drain.accept = some next) : Does drain .accept next := by
  unfold accept at accepted
  split at accepted
  next ready =>
    obtain ⟨listener, taken, rfl⟩ := Option.map_eq_some_iff.mp accepted
    unfold Listener.accept? at taken
    split at taken
    next => cases taken
    next free =>
      cases taken
      refine .accepted (Bool.and_eq_true_iff.mp ready).1 ?_
      simp only [Bool.or_eq_true, decide_eq_true_eq, not_or] at free
      rw [Listener.available] at free
      omega
  next => cases accepted

theorem track_does (drain next : Drain) (index : Nat) (tracked : drain.track index = some next) : Does drain (.track index) next := by
  unfold track at tracked
  split at tracked
  next stands =>
    obtain ⟨connection, found, stage⟩ := stage_found drain index _ stands
    cases tracked
    rw [move_connection drain index connection _ found]
    exact .turned _ index connection _ _ found (.tracked stage)
  next => cases tracked

theorem classify_does (drain next : Drain) (index : Nat) (looks : List Plane.Look)
    (classified : drain.classify index looks = some next) : Does drain (.classify index looks) next := by
  unfold classify at classified
  split at classified
  next stands =>
    obtain ⟨connection, found, stage⟩ := stage_found drain index _ stands
    cases classified
    simp only [move]
    rw [move_connection drain index connection _ found]
    exact .turned _ index connection _ _ found (.classified looks stage)
  next => cases classified

theorem enqueue_does (drain next : Drain) (index : Nat) (orderly : Orderly drain) (enqueued : drain.enqueue index = some next) :
    Does drain (.enqueue index) next := by
  unfold enqueue at enqueued
  split at enqueued
  next plane stands =>
    obtain ⟨connection, found, stage⟩ := stage_found drain index _ stands
    have heeded := sender_heeded drain orderly connection (List.mem_of_getElem? found) (by simp [Connection.isSender, stage]) plane
    rw [heeded, Bool.not_true, if_neg Bool.false_ne_true] at enqueued
    split at enqueued
    next room =>
      cases enqueued
      simp only [move]
      rw [move_connection drain index connection _ found]
      exact .turned _ index connection _ _ found (.enqueued plane stage room)
    next => cases enqueued
  next => cases enqueued

theorem receive_does (drain next : Drain) (plane : Plane) (orderly : Orderly drain) (received : drain.receive plane = some next) :
    Does drain (.receive plane) next := by
  unfold receive at received
  split at received
  next index rest _ queue =>
    have head : index ∈ drain.queues plane := queue ▸ List.mem_cons_self
    obtain ⟨connection, found, stage⟩ := stage_found drain index _ ((mem_queue drain orderly plane index).mp head)
    cases received
    simp only [move]
    rw [move_connection drain index connection _ found]
    exact .turned _ index connection _ _ found (.received plane rest stage queue)
  next => cases received

theorem finish_does (drain next : Drain) (index : Nat) (finished : drain.finish index = some next) :
    Does drain (.finish index) next := by
  unfold finish at finished
  split at finished
  next permit guard plane found =>
    cases finished
    simp only [move]
    rw [move_connection drain index _ _ found]
    exact .turned _ index _ _ _ found (.finished plane rfl)
  next => cases finished

theorem leave_does (drain next : Drain) (index : Nat) (left : drain.leave index = some next) : Does drain (.leave index) next := by
  unfold leave at left
  split at left
  next permit guard found =>
    cases left
    simp only [move]
    rw [move_connection drain index _ _ found]
    exact .turned _ index _ _ _ found (.left rfl)
  next => cases left

theorem wait_does (drain next : Drain) (waited : drain.wait = some next) : Does drain .wait next := by
  unfold wait at waited
  split at waited
  next loops =>
    split at waited
    next => cases waited
    next closed =>
      cases waited
      simp only [Bool.or_eq_true, not_or, Bool.not_eq_true] at closed
      exact .joined loops closed.1.1 fun plane => by cases plane <;> simp [closed]
  next connections =>
    split at waited
    next idle =>
      cases waited
      exact .returned connections (by simpa [Tracker.isIdle, Tracker.active] using idle)
    next => cases waited
  next => cases waited

theorem move_does (drain next : Drain) (move : Move) (orderly : Orderly drain) (moved : drain.move? move = some next) :
    Does drain move next := by
  cases move with
  | arrive =>
      cases moved
      exact .arrived
  | signal =>
      cases moved
      exact .signalled
  | accept => exact accept_does drain next moved
  | track index => exact track_does drain next index moved
  | classify index looks => exact classify_does drain next index looks moved
  | enqueue index => exact enqueue_does drain next index orderly moved
  | receive plane => exact receive_does drain next plane orderly moved
  | finish index => exact finish_does drain next index moved
  | leave index => exact leave_does drain next index moved
  | stopAccepting =>
      simp only [move?, stopAccepting, Bool.and_eq_true] at moved
      split at moved
      next ready =>
        cases moved
        exact .stoppedAccepting ready.1.2
      next => cases moved
  | stopReceiving plane =>
      simp only [move?, stopReceiving] at moved
      split at moved
      next closed =>
        cases moved
        simp only [Bool.and_eq_true, Bool.not_eq_true', List.isEmpty_iff, List.any_eq_false, Bool.not_eq_true] at closed
        exact .stoppedReceiving plane closed.1.1.1 closed.1.1.2 closed.1.2 closed.2
      next => cases moved
  | wait => exact wait_does drain next moved

section Turn

variable {drain after : Drain} {index : Nat} {connection later : Connection} {move : Move}

theorem turn_loops (turn : Turn drain index connection move later after) :
    after.connections = drain.connections ∧ after.accepting = drain.accepting ∧ after.receiving = drain.receiving ∧
      after.signalled = drain.signalled ∧ after.waiter = drain.waiter := by
  cases turn <;> exact ⟨rfl, rfl, rfl, rfl, rfl⟩

theorem turn_advances (turn : Turn drain index connection move later after) : later.stage.ahead + 1 = connection.stage.ahead := by
  cases turn with
  | tracked stage => rw [stage]; rfl
  | classified looks stage => rw [stage]; rfl
  | enqueued plane stage => rw [stage]; rfl
  | received plane rest stage => rw [stage]; rfl
  | finished plane stage => rw [stage]; rfl
  | left stage => rw [stage]; rfl

theorem turn_sender (turn : Turn drain index connection move later after) (sender : later.isSender = true) :
    connection.isSender = true := by
  cases turn with
  | tracked stage => simp [Connection.isSender, stage]
  | classified looks stage => simp [Connection.isSender, stage]
  | _ => cases sender

theorem stage_set (stage : Connection.Stage) (found : drain.connections[index]? = some connection) (other : Nat) :
    ((drain.connections.set index later)[other]?).map (·.stage) = some stage ↔
      other = index ∧ later.stage = stage ∨ other ≠ index ∧ drain.stage? other = some stage := by
  by_cases same : other = index
  · subst same
    simp [List.getElem?_set_self (List.getElem?_eq_some_iff.mp found).1]
  · simp [List.getElem?_set_ne (Ne.symm same), same, stage?]

-- The queues follow the stages.
theorem turn_lined (turn : Turn drain index connection move later after) (found : drain.connections[index]? = some connection)
    (lined : ∀ plane other, (drain.queues plane).count other = if drain.stage? other = some (.queued plane) then 1 else 0)
    (plane : Plane) (other : Nat) :
    (after.queues plane).count other =
      if ((drain.connections.set index later)[other]?).map (·.stage) = some (.queued plane) then 1 else 0 := by
  have before := lined plane other
  have stood := found_stage drain index connection found
  simp only [stage_set (.queued plane) found]
  by_cases same : other = index
  · subst same
    rw [stood] at before
    cases turn with
    | tracked stage => simpa [stage] using before
    | classified looks stage => simpa [stage] using before
    | enqueued queue stage room =>
        by_cases mine : plane = queue
        · subst mine
          simpa [update, stage, List.count_append] using before
        · simpa [update, stage, mine, Ne.symm mine] using before
    | received queue rest stage head =>
        by_cases mine : plane = queue
        · subst mine
          simpa [update, stage, head] using before
        · simpa [update, stage, mine, Ne.symm mine] using before
    | finished queue stage => simpa [stage] using before
    | left stage => simpa [stage] using before
  · have kept : (after.queues plane).count other = (drain.queues plane).count other := by
      cases turn with
      | enqueued queue stage room =>
          by_cases mine : plane = queue
          · subst mine
            simp [update, List.count_append, Ne.symm same]
          · simp [update, mine]
      | received queue rest stage head =>
          by_cases mine : plane = queue
          · subst mine
            simp [update, head, Ne.symm same]
          · simp [update, mine]
      | _ => rfl
    rw [kept, before]
    simp [same]

theorem turn_unheeded (turn : Turn drain index connection move later after) (found : drain.connections[index]? = some connection)
    (orderly : Orderly drain) (plane : Plane) (ended : drain.receiving plane = false) : after.queues plane = [] := by
  obtain ⟨_, silent, empty⟩ := orderly.unheeded plane ended
  cases turn with
  | enqueued queue stage room =>
      have sender := silent connection (List.mem_of_getElem? found)
      simp [Connection.isSender, stage] at sender
  | received queue rest stage head =>
      by_cases mine : plane = queue
      · subst mine
        cases head.symm.trans empty
      · simp [update, mine, empty]
  | _ => exact empty

end Turn

theorem orderly_fresh (address : Address.Socket) (limit : Nat) : Orderly { listener := { address, limit } } where
  lined := fun _ _ => rfl
  unheeded := fun _ ended => by cases ended
  waited := fun closed => absurd rfl closed

theorem orderly_turned (drain after : Drain) (index : Nat) (connection later : Connection) (move : Move)
    (found : drain.connections[index]? = some connection) (turn : Turn drain index connection move later after)
    (orderly : Orderly drain) : Orderly { after with connections := drain.connections.set index later } := by
  obtain ⟨_, accepting, receiving, _, waiter⟩ := turn_loops turn
  have lined := turn_lined turn found orderly.lined
  refine ⟨lined, fun plane ended => ?_, fun closed => ?_⟩
  · rw [receiving] at ended
    obtain ⟨stopped, silent, _⟩ := orderly.unheeded plane ended
    refine ⟨accepting.trans stopped, fun other member => ?_, turn_unheeded turn found orderly plane ended⟩
    rcases List.mem_or_eq_of_mem_set member with before | rfl
    · exact silent other before
    · have still := silent connection (List.mem_of_getElem? found)
      exact Bool.eq_false_iff.mpr fun sender => Bool.eq_false_iff.mp still (turn_sender turn sender)
  · rw [waiter] at closed
    rw [receiving]
    exact orderly.waited closed

theorem accepted_stage (drain : Drain) (permit index : Nat) (stage : Connection.Stage) (other : stage ≠ .accepted) :
    ((drain.connections ++ [{ permit := permit }])[index]?).map (·.stage) = some stage ↔ drain.stage? index = some stage := by
  rw [stage?, List.getElem?_append]
  split
  next => exact Iff.rfl
  next beyond =>
    rw [List.getElem?_eq_none (Nat.le_of_not_lt beyond)]
    cases index - drain.connections.length with
    | zero => simpa using fun same => other same.symm
    | succ => simp

theorem orderly_does (drain next : Drain) (move : Move) (does : Does drain move next) (orderly : Orderly drain) : Orderly next := by
  obtain ⟨lined, unheeded, waited⟩ := orderly
  cases does with
  | arrived => exact ⟨lined, unheeded, waited⟩
  | signalled => exact ⟨lined, unheeded, waited⟩
  | accepted accepting =>
      refine ⟨fun plane index => ?_, fun plane ended => ?_, waited⟩
      · refine (lined plane index).trans (if_congr ?_ rfl rfl)
        exact (accepted_stage drain _ index (.queued plane) nofun).symm
      · cases accepting.symm.trans (unheeded plane ended).1
  | turned _ index connection later after found turn =>
      exact orderly_turned drain after index connection later move found turn ⟨lined, unheeded, waited⟩
  | stoppedAccepting => exact ⟨lined, fun plane ended => ⟨rfl, (unheeded plane ended).2⟩, waited⟩
  | stoppedReceiving plane heeded empty stopped silent =>
      refine ⟨lined, fun other ended => ?_, fun closed other => ?_⟩
      · by_cases mine : other = plane
        · subst mine
          exact ⟨stopped, silent, empty⟩
        · simp only [update, mine, if_false] at ended
          exact unheeded other ended
      · cases heeded.symm.trans (waited closed plane)
  | joined _ _ closed => exact ⟨lined, unheeded, fun _ => closed⟩
  | returned connections => exact ⟨lined, unheeded, fun _ => waited (by rw [connections]; nofun)⟩

end Drain

end ServiceHost
