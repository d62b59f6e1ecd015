import ServiceHost.Proofs.Plane.Passage
import ServiceHost.Proofs.Plane.Waking

set_option autoImplicit false

namespace ServiceHost

def Connection.isUnserved (connection : Connection) : Bool :=
  match connection.stage with
  | .accepted | .sniffing | .classified _ | .queued _ | .serving _ => true
  | _ => false

def Connection.isTracked (connection : Connection) : Bool :=
  match connection.stage with
  | .sniffing | .classified _ | .queued _ | .serving _ | .served => true
  | _ => false

def Connection.isClassified (connection : Connection) : Bool :=
  match connection.stage with
  | .classified _ | .queued _ | .serving _ | .served | .ended => true
  | _ => false

def Connection.permits (connection : Connection) : List Nat := if connection.isUnserved then [connection.permit] else []

def Connection.guards (connection : Connection) : List Nat := if connection.isTracked then [connection.guard] else []

-- To which planes a connection at this stage has been assigned, and to which it has been delivered.
def Connection.Stage.Accounted : Connection.Stage → List Plane → List Plane → Prop
  | .accepted, assigned, delivered => assigned = [] ∧ delivered = []
  | .sniffing, assigned, delivered => assigned = [] ∧ delivered = []
  | .classified plane, assigned, delivered => assigned = [plane] ∧ delivered = []
  | .queued plane, assigned, delivered => assigned = [plane] ∧ delivered = []
  | .serving plane, assigned, delivered => assigned = [plane] ∧ delivered = [plane]
  | .served, assigned, delivered => ∃ plane, assigned = [plane] ∧ delivered = [plane]
  | .ended, assigned, delivered => ∃ plane, assigned = [plane] ∧ delivered = [plane]
  | .lost, _, _ => False

-- A drain with the log of its course: which connection was assigned to which plane, and which was taken over by which serve
-- loop.
structure Course where
  drain : Drain
  classified : List (Nat × Plane) := []
  delivered : List (Nat × Plane) := []

namespace Course

open Drain (Move Turn Does Orderly)

def verdict? : Move → Option (Nat × Plane)
  | .classify index looks => some (index, Plane.sniff looks)
  | _ => none

def delivery? (drain : Drain) : Move → Option (Nat × Plane)
  | .receive plane => (drain.queues plane).head?.map (·, plane)
  | _ => none

def record (course : Course) (move : Move) (next : Drain) : Course where
  drain := next
  classified := course.classified ++ (verdict? move).toList
  delivered := course.delivered ++ (delivery? course.drain move).toList

def step (course : Course) (move : Move) : Course :=
  match course.drain.move? move with
  | some next => course.record move next
  | none => course

def run (course : Course) (moves : List Move) : Course := moves.foldl step course

def planesOf (log : List (Nat × Plane)) (index : Nat) : List Plane := (log.filter (·.1 == index)).map (·.2)

theorem planes_append (log : List (Nat × Plane)) (planes : List Plane) (index other : Nat) :
    planesOf (log ++ planes.map (index, ·)) other = planesOf log other ++ if other = index then planes else [] := by
  have own : planesOf (planes.map (index, ·)) other = if other = index then planes else [] := by
    rw [planesOf, List.filter_map, List.map_map]
    split
    next same => simp [same, Function.comp_def]
    next apart => simp [Ne.symm apart, Function.comp_def]
  rw [← own, planesOf, List.filter_append, List.map_append]
  rfl

theorem planes_sum (log : List (Nat × Plane)) : log.countP (·.2 == .rpc) + log.countP (·.2 == .web) = log.length := by
  induction log with
  | nil => rfl
  | cons head rest ih =>
      obtain ⟨index, plane⟩ := head
      cases plane <;> simp <;> omega

structure Permitted (limit : Nat) (drain : Drain) : Prop where
  limited : drain.listener.limit = limit
  within : drain.listener.held.length ≤ limit
  permits : drain.listener.held.Perm (drain.connections.flatMap Connection.permits)

theorem turn_permits (drain after : Drain) (index : Nat) (connection later : Connection) (move : Move)
    (turn : Turn drain index connection move later after) :
    after.listener = drain.listener ∧ later.permits = connection.permits ∨
      after.listener = (drain.listener.release? connection.permit).getD drain.listener ∧
        connection.permits = [connection.permit] ∧ later.permits = [] := by
  cases turn with
  | finished plane stage => exact Or.inr ⟨rfl, by simp [Connection.permits, Connection.isUnserved, stage], rfl⟩
  | tracked stage => exact Or.inl ⟨rfl, by simp [Connection.permits, Connection.isUnserved, stage]⟩
  | classified looks stage => exact Or.inl ⟨rfl, by simp [Connection.permits, Connection.isUnserved, stage]⟩
  | enqueued plane stage => exact Or.inl ⟨rfl, by simp [Connection.permits, Connection.isUnserved, stage]⟩
  | received plane rest stage => exact Or.inl ⟨rfl, by simp [Connection.permits, Connection.isUnserved, stage]⟩
  | left stage => exact Or.inl ⟨rfl, by simp [Connection.permits, Connection.isUnserved, stage]⟩

theorem release_held (listener : Listener) (permit : Nat) (others : List Nat) (held : listener.held.Perm (permit :: others)) :
    ((listener.release? permit).getD listener).limit = listener.limit ∧
      ((listener.release? permit).getD listener).held.Perm others := by
  have member : permit ∈ listener.held := held.mem_iff.mpr List.mem_cons_self
  rw [Listener.release?, if_pos member]
  refine ⟨rfl, ?_⟩
  have erased := held.erase permit
  rwa [List.erase_cons_head] at erased

theorem permitted_does (limit : Nat) (drain next : Drain) (move : Move) (does : Does drain move next)
    (permitted : Permitted limit drain) : Permitted limit next := by
  obtain ⟨limited, within, permits⟩ := permitted
  cases does with
  | accepted _ free =>
      refine ⟨limited, ?_, ?_⟩
      · rw [List.length_append, List.length_singleton, ← limited]
        exact free
      · rw [List.flatMap_append]
        exact permits.append_right _
  | turned _ index connection later after found turn =>
      obtain ⟨others, mine, theirs⟩ := flat_map_set drain.connections index connection later found Connection.permits
      rcases turn_permits drain after index connection later move turn with ⟨listener, same⟩ | ⟨listener, own, none⟩
      · refine ⟨listener ▸ limited, listener ▸ within, ?_⟩
        rw [same] at theirs
        exact listener ▸ permits.trans (mine.trans theirs.symm)
      · rw [own] at mine
        rw [none] at theirs
        obtain ⟨same, rest⟩ := release_held drain.listener connection.permit others (permits.trans mine)
        refine ⟨listener ▸ same.trans limited, ?_, listener ▸ rest.trans theirs.symm⟩
        have fewer := (permits.trans mine).length_eq
        rw [listener, rest.length_eq]
        simp only [List.length_append, List.length_singleton] at fewer
        omega
  | _ => exact ⟨limited, within, permits⟩

-- The guards that are alive are those of the connections that have been counted in and have not ended.
def Guarded (drain : Drain) : Prop := drain.tracker.live.Perm (drain.connections.flatMap Connection.guards)

theorem turn_guards (drain after : Drain) (index : Nat) (connection later : Connection) (move : Move)
    (turn : Turn drain index connection move later after) :
    after.tracker = drain.tracker ∧ later.guards = connection.guards ∨
      after.tracker = drain.tracker.track.2 ∧ connection.guards = [] ∧ later.guards = [drain.tracker.issued] ∨
        after.tracker = (drain.tracker.drop connection.guard).getD drain.tracker ∧
          connection.guards = [connection.guard] ∧ later.guards = [] := by
  cases turn with
  | tracked stage => exact Or.inr (Or.inl ⟨rfl, by simp [Connection.guards, Connection.isTracked, stage], rfl⟩)
  | left stage => exact Or.inr (Or.inr ⟨rfl, by simp [Connection.guards, Connection.isTracked, stage], rfl⟩)
  | finished plane stage => exact Or.inl ⟨rfl, by simp [Connection.guards, Connection.isTracked, stage]⟩
  | classified looks stage => exact Or.inl ⟨rfl, by simp [Connection.guards, Connection.isTracked, stage]⟩
  | enqueued plane stage => exact Or.inl ⟨rfl, by simp [Connection.guards, Connection.isTracked, stage]⟩
  | received plane rest stage => exact Or.inl ⟨rfl, by simp [Connection.guards, Connection.isTracked, stage]⟩

theorem drop_live (tracker : Tracker) (guard : Nat) (others : List Nat) (live : tracker.live.Perm (guard :: others)) :
    ((tracker.drop guard).getD tracker).live.Perm others := by
  have member : guard ∈ tracker.live := live.mem_iff.mpr List.mem_cons_self
  have erased := live.erase guard
  rw [List.erase_cons_head] at erased
  rw [Tracker.drop, Tracker.decrement, if_pos member]
  simp only [Option.map_some, Option.getD_some]
  split
  next =>
    rw [Tracker.notify]
    split
    next => exact erased
    next => exact erased
  next => exact erased

theorem guarded_does (drain next : Drain) (move : Move) (does : Does drain move next) (guarded : Guarded drain) : Guarded next := by
  unfold Guarded at *
  cases does with
  | accepted =>
      rw [List.flatMap_append]
      exact guarded.trans (.of_eq (List.append_nil _).symm)
  | turned _ index connection later after found turn =>
      obtain ⟨others, mine, theirs⟩ := flat_map_set drain.connections index connection later found Connection.guards
      rcases turn_guards drain after index connection later move turn with
        ⟨tracker, same⟩ | ⟨tracker, none, own⟩ | ⟨tracker, own, none⟩
      · rw [same] at theirs
        exact tracker ▸ guarded.trans (mine.trans theirs.symm)
      · rw [none] at mine
        rw [own] at theirs
        rw [tracker]
        exact (guarded.trans mine).append_right [drain.tracker.issued] |>.trans (List.perm_append_comm.trans theirs.symm)
      · rw [own] at mine
        rw [none] at theirs
        rw [tracker]
        exact (drop_live drain.tracker connection.guard others (guarded.trans mine)).trans theirs.symm
  | _ => exact guarded

def Counted (drain : Drain) : Prop := drain.tracker.count = .ofNat drain.tracker.active

theorem counted_does (drain next : Drain) (move : Move) (does : Does drain move next) (counted : Counted drain) : Counted next := by
  unfold Counted at *
  cases does with
  | turned _ index connection later after _ turn =>
      rcases turn_guards drain after index connection later move turn with ⟨tracker, -⟩ | ⟨tracker, -⟩ | ⟨tracker, -⟩
      · exact tracker ▸ counted
      · exact tracker ▸ Tracker.track_count counted
      · exact tracker ▸ Tracker.drop_count connection.guard counted
  | _ => exact counted

structure Recorded (course : Course) : Prop where
  accounted : ∀ (index : Nat) (connection : Connection), course.drain.connections[index]? = some connection →
    connection.stage.Accounted (planesOf course.classified index) (planesOf course.delivered index)
  unknown : ∀ index, course.drain.connections.length ≤ index →
    planesOf course.classified index = [] ∧ planesOf course.delivered index = []
  routed : ∀ plane, course.drain.routed plane = course.classified.countP (·.2 == plane)
  counted : course.classified.length = course.drain.connections.countP Connection.isClassified

structure Adds (drain after : Drain) (index : Nat) (connection later : Connection) (move : Move) (assigned delivered : List Plane) :
    Prop where
  verdict : (verdict? move).toList = assigned.map (index, ·)
  delivery : (delivery? drain move).toList = delivered.map (index, ·)
  accounted : ∀ known given, connection.stage.Accounted known given →
    later.stage.Accounted (known ++ assigned) (given ++ delivered)
  routed : ∀ plane, after.routed plane = drain.routed plane + assigned.count plane
  counted : assigned.length + connection.isClassified.toNat = later.isClassified.toNat

theorem adds_nothing (drain after : Drain) (index : Nat) (connection later : Connection) (move : Move)
    (silent : verdict? move = none) (undelivered : delivery? drain move = none) (routed : after.routed = drain.routed)
    (accounted : ∀ known given, connection.stage.Accounted known given → later.stage.Accounted known given)
    (counted : connection.isClassified = later.isClassified) : Adds drain after index connection later move [] [] where
  verdict := by rw [silent]; rfl
  delivery := by rw [undelivered]; rfl
  accounted := fun known given before => by simpa only [List.append_nil] using accounted known given before
  routed := fun plane => by rw [routed]; rfl
  counted := by rw [counted]; exact Nat.zero_add _

theorem turn_adds (drain after : Drain) (index : Nat) (connection later : Connection) (move : Move)
    (turn : Turn drain index connection move later after) :
    ∃ assigned delivered, Adds drain after index connection later move assigned delivered := by
  cases turn with
  | tracked stage =>
      refine ⟨[], [], adds_nothing _ _ _ _ _ _ rfl rfl rfl (fun known given before => ?_) (by simp [Connection.isClassified, stage])⟩
      rw [stage] at before
      exact before
  | classified looks stage =>
      refine ⟨[Plane.sniff looks], [], rfl, rfl, fun known given before => ?_, fun plane => ?_,
        by simp [Connection.isClassified, stage]⟩
      · rw [stage] at before
        obtain ⟨rfl, rfl⟩ := before
        exact ⟨rfl, rfl⟩
      · simp only [Drain.update, List.count_singleton]
        by_cases same : plane = Plane.sniff looks
        · simp [same]
        · simp [same, Ne.symm same]
  | enqueued plane stage =>
      refine ⟨[], [], adds_nothing _ _ _ _ _ _ rfl rfl rfl (fun known given before => ?_) (by simp [Connection.isClassified, stage])⟩
      rw [stage] at before
      exact before
  | received plane rest stage queue =>
      refine ⟨[], [plane], rfl, by simp [delivery?, queue], fun known given before => ?_, fun _ => rfl,
        by simp [Connection.isClassified, stage]⟩
      rw [stage] at before
      obtain ⟨rfl, rfl⟩ := before
      exact ⟨rfl, rfl⟩
  | finished plane stage =>
      refine ⟨[], [], adds_nothing _ _ _ _ _ _ rfl rfl rfl (fun known given before => ?_) (by simp [Connection.isClassified, stage])⟩
      rw [stage] at before
      exact ⟨plane, before⟩
  | left stage =>
      refine ⟨[], [], adds_nothing _ _ _ _ _ _ rfl rfl rfl (fun known given before => ?_) (by simp [Connection.isClassified, stage])⟩
      rw [stage] at before
      exact before

theorem recorded_turned (course : Course) (after : Drain) (index : Nat) (connection later : Connection) (move : Move)
    (found : course.drain.connections[index]? = some connection) (turn : Turn course.drain index connection move later after)
    (recorded : Recorded course) :
    Recorded (course.record move { after with connections := course.drain.connections.set index later }) := by
  obtain ⟨accounted, unknown, routed, counted⟩ := recorded
  obtain ⟨assigned, delivered, adds⟩ := turn_adds course.drain after index connection later move turn
  have inside := (List.getElem?_eq_some_iff.mp found).1
  have verdicts (other : Nat) : planesOf (course.classified ++ (verdict? move).toList) other =
      planesOf course.classified other ++ if other = index then assigned else [] := by
    rw [adds.verdict, planes_append]
  have deliveries (other : Nat) : planesOf (course.delivered ++ (delivery? course.drain move).toList) other =
      planesOf course.delivered other ++ if other = index then delivered else [] := by
    rw [adds.delivery, planes_append]
  refine ⟨fun other rival present => ?_, fun other beyond => ?_, fun plane => ?_, ?_⟩
  · simp only [record, verdicts, deliveries]
    by_cases same : other = index
    · subst same
      cases (List.getElem?_set_self inside).symm.trans present
      rw [if_pos rfl, if_pos rfl]
      exact adds.accounted _ _ (accounted other connection found)
    · have before : course.drain.connections[other]? = some rival := by
        rw [← present]
        exact (List.getElem?_set_ne (Ne.symm same)).symm
      rw [if_neg same, if_neg same, List.append_nil, List.append_nil]
      exact accounted other rival before
  · have outside : course.drain.connections.length ≤ other := by simpa [record] using beyond
    have apart : other ≠ index := by omega
    simp only [record, verdicts, deliveries, if_neg apart, List.append_nil]
    exact unknown other outside
  · simp only [record, adds.verdict, adds.routed, List.countP_append, List.countP_map, routed]
    rfl
  · have changed := count_set Connection.isClassified course.drain.connections index connection later found
    have more := adds.counted
    simp only [record, adds.verdict, List.length_append, List.length_map, counted]
    omega

theorem recorded_does (course : Course) (next : Drain) (move : Move) (does : Does course.drain move next)
    (recorded : Recorded course) : Recorded (course.record move next) := by
  have turned := fun after index connection later found turn =>
    recorded_turned course after index connection later move found turn recorded
  obtain ⟨accounted, unknown, routed, counted⟩ := recorded
  have still (log : List (Nat × Plane)) : log ++ (none : Option (Nat × Plane)).toList = log := List.append_nil log
  cases does with
  | turned _ index connection later after found turn => exact turned after index connection later found turn
  | accepted accepting free =>
      refine ⟨fun index connection found => ?_, fun index beyond => ?_, fun plane => ?_, ?_⟩
      · simp only [record, verdict?, delivery?, still]
        rw [record, List.getElem?_append] at found
        split at found
        next => exact accounted index connection found
        next beyond =>
          rw [List.mem_singleton.mp (List.mem_of_getElem? found)]
          exact unknown index (Nat.le_of_not_lt beyond)
      · simp only [record, verdict?, delivery?, still]
        have outside : course.drain.connections.length ≤ index := by
          simp only [record, List.length_append, List.length_singleton] at beyond
          omega
        exact unknown index outside
      · simpa only [record, verdict?, still] using routed plane
      · simpa [record, verdict?, Connection.isClassified] using counted
  | _ =>
      simp only [record, verdict?, delivery?, still]
      exact ⟨accounted, unknown, routed, counted⟩

structure Sound (limit : Nat) (course : Course) : Prop where
  orderly : Orderly course.drain
  permitted : Permitted limit course.drain
  guarded : Guarded course.drain
  counted : Counted course.drain
  recorded : Recorded course
  ended : course.drain.waiter = .returned → ∀ connection ∈ course.drain.connections, connection.stage = .ended

theorem sound_fresh (address : Address.Socket) (limit : Nat) : Sound limit { drain := { listener := { address, limit } } } where
  orderly := Drain.orderly_fresh address limit
  permitted := ⟨rfl, Nat.zero_le limit, .refl _⟩
  guarded := .refl _
  counted := rfl
  recorded := ⟨fun _ _ found => (nomatch found), fun _ _ => ⟨rfl, rfl⟩, fun _ => rfl, rfl⟩
  ended := fun _ _ member => (nomatch member)

-- When the loops have ended and nothing is tracked any more, there is nowhere left for a connection to stand.
theorem idle_ended (limit : Nat) (course : Course) (sound : Sound limit course) (idle : course.drain.tracker.live = [])
    (closed : ∀ plane, course.drain.receiving plane = false) (connection : Connection)
    (member : connection ∈ course.drain.connections) : connection.stage = .ended := by
  obtain ⟨index, found⟩ := List.getElem?_of_mem member
  obtain ⟨_, silent, _⟩ := sound.orderly.unheeded .rpc (closed .rpc)
  have still := silent connection member
  have stands := Drain.found_stage course.drain index connection found
  have untracked : connection.guards = [] := by
    have guarded := sound.guarded
    rw [Guarded, idle] at guarded
    exact List.flatMap_eq_nil_iff.mp guarded.symm.eq_nil connection member
  have account := sound.recorded.accounted index connection found
  cases stage : connection.stage with
  | accepted => simp [Connection.isSender, stage] at still
  | sniffing => simp [Connection.isSender, stage] at still
  | classified plane => simp [Connection.isSender, stage] at still
  | queued plane =>
      have listed := (Drain.mem_queue course.drain sound.orderly plane index).mpr (stage ▸ stands)
      rw [(sound.orderly.unheeded plane (closed plane)).2.2] at listed
      cases listed
  | serving plane => simp [Connection.guards, Connection.isTracked, stage] at untracked
  | served => simp [Connection.guards, Connection.isTracked, stage] at untracked
  | ended => rfl
  | lost =>
      rw [stage] at account
      exact account.elim

theorem returned_stays (limit : Nat) (course : Course) (next : Drain) (move : Move) (sound : Sound limit course)
    (returned : course.drain.waiter = .returned) (does : Does course.drain move next) :
    next.waiter = .returned ∧ next.connections = course.drain.connections := by
  have closed := sound.orderly.waited (by rw [returned]; nofun)
  have stopped := (sound.orderly.unheeded .rpc (closed .rpc)).1
  cases does with
  | accepted accepting => cases accepting.symm.trans stopped
  | turned _ index connection later after found turn =>
      have further := Drain.turn_advances turn
      rw [sound.ended returned connection (List.mem_of_getElem? found)] at further
      cases further
  | stoppedAccepting accepting => cases accepting.symm.trans stopped
  | stoppedReceiving plane heeded => cases heeded.symm.trans (closed plane)
  | joined loops => cases loops.symm.trans returned
  | returned connections => cases connections.symm.trans returned
  | arrived => exact ⟨returned, rfl⟩
  | signalled => exact ⟨returned, rfl⟩

theorem sound_does (limit : Nat) (course : Course) (next : Drain) (move : Move) (does : Does course.drain move next)
    (sound : Sound limit course) : Sound limit (course.record move next) := by
  refine ⟨Drain.orderly_does _ next move does sound.orderly, permitted_does limit _ next move does sound.permitted,
    guarded_does _ next move does sound.guarded, counted_does _ next move does sound.counted, recorded_does course next move does sound.recorded, fun returned => ?_⟩
  by_cases before : course.drain.waiter = .returned
  · have same := (returned_stays limit course next move sound before does).2
    simp only [record, same]
    exact sound.ended before
  · cases does with
    | returned connections idle =>
        exact idle_ended limit course sound idle (sound.orderly.waited (by rw [connections]; nofun))
    | turned _ index connection later after found turn =>
        exact absurd ((Drain.turn_loops turn).2.2.2.2.symm.trans returned) before
    | joined => cases returned
    | _ => exact absurd returned before

theorem step_sound (limit : Nat) (course : Course) (move : Move) (sound : Sound limit course) : Sound limit (course.step move) := by
  unfold step
  split
  next drain moved => exact sound_does limit course drain move (Drain.move_does _ drain move sound.orderly moved) sound
  next => exact sound

theorem run_sound (limit : Nat) (moves : List Move) (course : Course) (sound : Sound limit course) :
    Sound limit (course.run moves) := by
  induction moves generalizing course with
  | nil => exact sound
  | cons move rest ih => exact ih (course.step move) (step_sound limit course move sound)

theorem returned_run (limit : Nat) (moves : List Move) (course : Course) (sound : Sound limit course)
    (returned : course.drain.waiter = .returned) :
    (course.run moves).drain.waiter = .returned ∧ (course.run moves).drain.connections = course.drain.connections := by
  induction moves generalizing course with
  | nil => exact ⟨returned, rfl⟩
  | cons move rest ih =>
      have kept : (course.step move).drain.waiter = .returned ∧
          (course.step move).drain.connections = course.drain.connections := by
        unfold step
        split
        next drain moved =>
          exact returned_stays limit course drain move sound returned (Drain.move_does _ drain move sound.orderly moved)
        next => exact ⟨returned, rfl⟩
      obtain ⟨later, same⟩ := ih (course.step move) (step_sound limit course move sound) kept.1
      exact ⟨later, same.trans kept.2⟩

end Course

end ServiceHost
