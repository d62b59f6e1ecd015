import ServiceHost.Proofs.Plane.Conservation

set_option autoImplicit false

namespace ServiceHost

namespace Drain

def Waiter.ahead : Waiter → Nat
  | .loops => 2
  | .connections => 1
  | .returned => 0

-- The steps that are left if no connection is accepted any more.
def remaining (drain : Drain) : Nat :=
  (drain.connections.map (·.stage.ahead)).sum + drain.accepting.toNat + (drain.receiving .rpc).toNat +
    (drain.receiving .web).toNat + drain.waiter.ahead

-- The steps of the server that bring it nearer to its end. Clients and the signal come from outside.
def Move.isOwn : Move → Bool
  | .arrive | .signal | .accept => false
  | _ => true

theorem own_lowers (drain next : Drain) (move : Move) (does : Does drain move next) (own : move.isOwn = true) :
    next.remaining < drain.remaining := by
  cases does with
  | arrived => cases own
  | signalled => cases own
  | accepted => cases own
  | turned _ index connection later after found turn =>
      obtain ⟨_, accepting, receiving, _, waiter⟩ := turn_loops turn
      have changed := sum_set drain.connections index connection later found (·.stage.ahead)
      have further := turn_advances turn
      simp only [remaining, accepting, receiving, waiter]
      omega
  | stoppedAccepting accepting => simp [remaining, accepting]
  | stoppedReceiving plane heeded =>
      cases plane <;> simp [remaining, update, heeded]
  | joined loops => simp [remaining, loops, Waiter.ahead]
  | returned connections => simp [remaining, connections, Waiter.ahead]

theorem signal_stays (drain next : Drain) (move : Move) (does : Does drain move next) (signalled : drain.signalled = true) :
    next.signalled = true := by
  cases does with
  | turned _ index connection later after found turn => exact (turn_loops turn).2.2.2.1.trans signalled
  | signalled => rfl
  | _ => exact signalled

theorem receive_possible (drain : Drain) (plane : Plane) (heeded : drain.receiving plane = true)
    (waiting : drain.queues plane ≠ []) : ∃ next, drain.move? (.receive plane) = some next := by
  obtain ⟨index, rest, queue⟩ := List.exists_cons_of_ne_nil waiting
  exact ⟨_, by simp only [move?, receive, heeded, queue]; rfl⟩

-- A connection that has not ended can go on, or the one before it in its queue can.
theorem connection_possible (drain : Drain) (orderly : Orderly drain) (index : Nat) (connection : Connection)
    (found : drain.connections[index]? = some connection) (kept : connection.stage ≠ .lost) (going : connection.stage ≠ .ended) :
    ∃ move next, Move.isOwn move = true ∧ drain.move? move = some next := by
  have stands := found_stage drain index connection found
  obtain ⟨permit, guard, stage⟩ := connection
  cases stage with
  | accepted => exact ⟨.track index, _, rfl, by simp only [move?, track, stands, if_true]; rfl⟩
  | sniffing => exact ⟨.classify index [], _, rfl, by simp only [move?, classify, stands, if_true]; rfl⟩
  | classified plane =>
      have heeded := sender_heeded drain orderly _ (List.mem_of_getElem? found) rfl plane
      by_cases room : (drain.queues plane).length < queueCapacity
      · exact ⟨.enqueue index, _, rfl, by simp only [move?, enqueue, stands, heeded, room, if_true]; rfl⟩
      · have waiting : drain.queues plane ≠ [] := by
          intro empty
          rw [empty] at room
          exact room (by decide)
        obtain ⟨next, received⟩ := receive_possible drain plane heeded waiting
        exact ⟨.receive plane, next, rfl, received⟩
  | queued plane =>
      have waiting : drain.queues plane ≠ [] := List.ne_nil_of_mem ((mem_queue drain orderly plane index).mpr stands)
      have heeded : drain.receiving plane = true := by
        by_contra closed
        exact waiting (orderly.unheeded plane (Bool.eq_false_iff.mpr closed)).2.2
      obtain ⟨next, received⟩ := receive_possible drain plane heeded waiting
      exact ⟨.receive plane, next, rfl, received⟩
  | serving plane => exact ⟨.finish index, _, rfl, by simp only [move?, finish, found]; rfl⟩
  | served => exact ⟨.leave index, _, rfl, by simp only [move?, leave, found]; rfl⟩
  | ended => exact absurd rfl going
  | lost => exact absurd rfl kept

-- When no connection is left the loops can end, and then whoever waits for them can return.
theorem loops_possible (drain : Drain) (orderly : Orderly drain) (signalled : drain.signalled = true)
    (idle : drain.tracker.live = []) (closed : ∀ connection ∈ drain.connections, connection.stage = .ended)
    (waits : drain.waiter ≠ .returned) : ∃ move next, Move.isOwn move = true ∧ drain.move? move = some next := by
  have quiet : drain.isBusy = false := by
    rw [isBusy, List.any_eq_false]
    exact fun connection member => by simp [closed connection member]
  have silent : drain.connections.any Connection.isSender = false := by
    rw [List.any_eq_false]
    exact fun connection member => by simp [Connection.isSender, closed connection member]
  have empty (plane : Plane) : drain.queues plane = [] := by
    refine List.eq_nil_iff_forall_not_mem.mpr fun index member => ?_
    obtain ⟨connection, found, stage⟩ := stage_found drain index _ ((mem_queue drain orderly plane index).mp member)
    cases stage.symm.trans (closed connection (List.mem_of_getElem? found))
  by_cases accepting : drain.accepting = true
  · exact ⟨.stopAccepting, _, rfl, by simp only [move?, stopAccepting, signalled, accepting, quiet]; rfl⟩
  · have stopped := Bool.eq_false_iff.mpr accepting
    by_cases heeded : ∃ plane, drain.receiving plane = true
    · obtain ⟨plane, heeded⟩ := heeded
      exact ⟨.stopReceiving plane, _, rfl, by simp only [move?, stopReceiving, heeded, empty, stopped, silent]; rfl⟩
    · have unheeded (plane : Plane) : drain.receiving plane = false := Bool.eq_false_iff.mpr fun here => heeded ⟨plane, here⟩
      cases waiter : drain.waiter with
      | loops => exact ⟨.wait, _, rfl, by simp only [move?, wait, waiter, stopped, unheeded]; rfl⟩
      | connections =>
          exact ⟨.wait, _, rfl, by simp only [move?, wait, waiter, Tracker.isIdle, Tracker.active, idle]; rfl⟩
      | returned => exact absurd waiter waits

end Drain

namespace Course

open Drain (Move)

-- After the signal some task can take a step until the drain is over.
theorem own_possible (limit : Nat) (course : Course) (sound : Sound limit course) (signalled : course.drain.signalled = true)
    (waits : course.drain.waiter ≠ .returned) : ∃ move next, Move.isOwn move = true ∧ course.drain.move? move = some next := by
  by_cases closed : ∀ connection ∈ course.drain.connections, connection.stage = .ended
  · refine Drain.loops_possible course.drain sound.orderly signalled ?_ closed waits
    have guarded := sound.guarded
    have none : course.drain.connections.flatMap Connection.guards = [] :=
      List.flatMap_eq_nil_iff.mpr fun connection member => by simp [Connection.guards, Connection.isTracked, closed connection member]
    rw [Guarded, none] at guarded
    exact guarded.eq_nil
  · simp only [not_forall] at closed
    obtain ⟨connection, member, going⟩ := closed
    obtain ⟨index, found⟩ := List.getElem?_of_mem member
    refine Drain.connection_possible course.drain sound.orderly index connection found (fun lost => ?_) going
    have account := sound.recorded.accounted index connection found
    rw [lost] at account
    exact account

theorem drain_completes (limit : Nat) (course : Course) (sound : Sound limit course) (signalled : course.drain.signalled = true) :
    ∃ more, (∀ move ∈ more, Move.isOwn move = true) ∧ (course.run more).drain.waiter = .returned := by
  induction left : course.drain.remaining using Nat.strongRecOn generalizing course with
  | ind left ih =>
      by_cases returned : course.drain.waiter = .returned
      · exact ⟨[], nofun, returned⟩
      · obtain ⟨move, next, own, moved⟩ := own_possible limit course sound signalled returned
        have does := Drain.move_does _ next move sound.orderly moved
        have stepped : course.step move = course.record move next := by
          rw [step, moved]
        have fewer := Drain.own_lowers _ next move does own
        obtain ⟨more, owns, reached⟩ := ih next.remaining (left ▸ fewer) (course.record move next)
          (sound_does limit course next move does sound) (Drain.signal_stays _ next move does signalled) rfl
        refine ⟨move :: more, fun other member => ?_, ?_⟩
        · rcases List.mem_cons.mp member with rfl | rest
          · exact own
          · exact owns other rest
        · rw [run, List.foldl_cons, stepped]
          exact reached

-- Over every schedule each accepted connection has been assigned and delivered as its stage says: once to the plane that its
-- first bytes decided, and then once to the serve loop of that plane. Those whose serving has not ended are within the limit,
-- those that have been tracked are counted, and the counters of the planes add up to the classified ones. When whoever drains
-- the server returns, every connection has ended and none is accepted afterwards; and from the signal on that can be reached.
theorem drain_loses_no_connection (address : Address.Socket) (limit : Nat) (moves : List Move) :
    let course := ({ drain := { listener := { address, limit } } } : Course).run moves
    (∀ (index : Nat) (connection : Connection), course.drain.connections[index]? = some connection →
        connection.stage.Accounted (planesOf course.classified index) (planesOf course.delivered index)) ∧
      (∀ index, course.drain.connections.length ≤ index →
        planesOf course.classified index = [] ∧ planesOf course.delivered index = []) ∧
      course.drain.connections.countP Connection.isUnserved ≤ limit ∧
      course.drain.tracker.active = course.drain.connections.countP Connection.isTracked ∧
      (course.drain.tracker.active ≤ Tracker.maxGuards → course.drain.tracker.count.toNat = course.drain.tracker.active) ∧
      (∀ plane, course.drain.routed plane = course.classified.countP (·.2 == plane)) ∧
      course.drain.routed .rpc + course.drain.routed .web = course.drain.connections.countP Connection.isClassified ∧
      (course.drain.waiter = .returned →
        (∀ connection ∈ course.drain.connections, connection.stage = .ended) ∧ course.drain.tracker.active = 0 ∧
          course.drain.tracker.count = 0 ∧
          ∀ more, (course.run more).drain.connections = course.drain.connections ∧ (course.run more).drain.accept = none) ∧
      (course.drain.signalled = true →
        ∃ more, (∀ move ∈ more, Move.isOwn move = true) ∧ (course.run more).drain.waiter = .returned) := by
  intro course
  have sound : Sound limit course := run_sound limit moves _ (sound_fresh address limit)
  have unserved : course.drain.listener.held.length = course.drain.connections.countP Connection.isUnserved := by
    rw [sound.permitted.permits.length_eq]
    refine share_length _ _ _ fun connection => ?_
    unfold Connection.permits
    cases connection.isUnserved <;> rfl
  have tracked : course.drain.tracker.active = course.drain.connections.countP Connection.isTracked := by
    rw [Tracker.active, sound.guarded.length_eq]
    refine share_length _ _ _ fun connection => ?_
    unfold Connection.guards
    cases connection.isTracked <;> rfl
  have routed := sound.recorded.routed
  refine ⟨sound.recorded.accounted, sound.recorded.unknown, unserved ▸ sound.permitted.within, tracked,
    Tracker.count_exact sound.counted, routed, ?_, fun returned => ?_, drain_completes limit course sound⟩
  · rw [routed, routed, planes_sum, sound.recorded.counted]
  · have idle : course.drain.tracker.active = 0 := by
      rw [tracked, List.countP_eq_zero]
      exact fun connection member => by simp [Connection.isTracked, sound.ended returned connection member]
    have zero : course.drain.tracker.count = .ofNat course.drain.tracker.active := sound.counted
    refine ⟨sound.ended returned, idle, by rw [zero, idle]; rfl, fun more => ?_⟩
    obtain ⟨still, same⟩ := returned_run limit more course sound returned
    have later := run_sound limit more course sound
    have stopped := (later.orderly.unheeded .rpc (later.orderly.waited (by simp [still]) .rpc)).1
    exact ⟨same, by rw [Drain.accept, stopped]; rfl⟩

-- Two connections share one permit, and the signal comes while the second one is being classified.
def relay : List Move :=
  [.arrive, .arrive, .accept, .track 0, .classify 0 [.bytes Plane.preface], .enqueue 0, .receive .rpc, .finish 0, .accept,
    .track 1, .signal, .classify 1 [.timedOut], .enqueue 1, .stopAccepting, .receive .web, .leave 0, .stopReceiving .rpc,
    .stopReceiving .web, .wait, .finish 1, .leave 1, .wait]

theorem drain_loses_no_connection_relay :
    let course := ({ drain := { listener := { address := .v4 ⟨127, 0, 0, 1⟩ 8080, limit := 1 } } } : Course).run relay
    course.drain.connections.length = 2 ∧ (∀ connection ∈ course.drain.connections, connection.stage = .ended) ∧
      course.drain.tracker.count = 0 ∧ planesOf course.delivered 0 = [.rpc] ∧ planesOf course.delivered 1 = [.web] := by
  intro course
  have returned : course.drain.waiter = .returned := by decide +kernel
  obtain ⟨_, _, _, _, _, _, _, closed, _⟩ := drain_loses_no_connection (.v4 ⟨127, 0, 0, 1⟩ 8080) 1 relay
  obtain ⟨ended, _, zero, _⟩ := closed returned
  exact ⟨by decide +kernel, ended, zero, by decide +kernel, by decide +kernel⟩

end Course

end ServiceHost
