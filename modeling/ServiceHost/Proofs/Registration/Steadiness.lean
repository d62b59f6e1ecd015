import Mathlib.Data.List.Chain
import ServiceHost.Proofs.Registration.Recovery

set_option autoImplicit false

namespace ServiceHost.Registration

open Store (Operation Reply perform after)

def isTick : Event → Bool
  | .tick _ => true
  | .other _ => false

def tickTimes (events : List (Nat × Event)) : List Nat := (events.filter fun event => isTick event.2).map (·.1)

def latestTick (first : Nat) (events : List (Nat × Event)) : Nat := (tickTimes events).getLastD first

def Within (ttl earlier later : Nat) : Prop := later < earlier + ttl

structure Steady (ttl : Nat) (entries : List Entry) (first : Nat) (events : List (Nat × Event)) : Prop where
  plain : ∀ event ∈ events, event.2.mishaps = []
  unrelated : ∀ operation ∈ othersIn events, Unrelated entries operation
  calm : ∀ operation ∈ othersIn events, Calm operation
  clocked : (first :: events.map (·.1)).Pairwise (· ≤ ·)
  gaps : (first :: tickTimes events).IsChain (Within ttl)

theorem steady_prefix (ttl : Nat) (entries : List Entry) (first : Nat) (seen events : List (Nat × Event))
    (part : seen <+: events) (steady : Steady ttl entries first events) : Steady ttl entries first seen := by
  obtain ⟨later, rfl⟩ := part
  have parts : othersIn (seen ++ later) = othersIn seen ++ othersIn later := List.flatMap_append
  refine ⟨fun event member => steady.plain event (List.mem_append_left _ member), ?_, ?_, ?_, ?_⟩
  · intro operation member
    exact steady.unrelated operation (by rw [parts]; exact List.mem_append_left _ member)
  · intro operation member
    exact steady.calm operation (by rw [parts]; exact List.mem_append_left _ member)
  · refine steady.clocked.sublist (List.Sublist.cons_cons first ?_)
    rw [List.map_append]
    exact List.sublist_append_left _ _
  · have gaps := steady.gaps
    rw [tickTimes, List.filter_append, List.map_append, ← List.cons_append] at gaps
    exact gaps.left_of_append

theorem latest_tick_last (first : Nat) (events : List (Nat × Event)) :
    (first :: tickTimes events).getLast? = some (latestTick first events) := by
  rw [List.getLast?_cons, latestTick, List.getLastD_eq_getLast?]

theorem latest_tick_mem (first : Nat) (events : List (Nat × Event)) : latestTick first events ∈ first :: events.map (·.1) := by
  rcases List.mem_cons.mp (List.mem_of_getLast? (latest_tick_last first events)) with only | tick
  · rw [only]
    exact List.mem_cons_self
  · exact List.mem_cons_of_mem _ ((List.filter_sublist.map _).subset tick)

-- Nothing happens later than the next tick, or than the instant at which somebody looks.
theorem before_expiry (ttl first now instant : Nat) (ticks : List Nat)
    (gaps : (first :: (ticks ++ [instant])).IsChain (Within ttl)) (later : ∀ time ∈ ticks ++ [instant], now ≤ time) :
    now < first + ttl := by
  cases ticks with
  | nil =>
      have close : instant < first + ttl := (List.isChain_cons_cons.mp gaps).1
      exact Nat.lt_of_le_of_lt (later instant List.mem_cons_self) close
  | cons next rest =>
      have close : next < first + ttl := (List.isChain_cons_cons.mp gaps).1
      exact Nat.lt_of_le_of_lt (later next List.mem_cons_self) close

theorem tick_undisturbed (entries : List Entry) (circumstances : List Circumstance)
    (plain : (Event.tick circumstances).mishaps = [])
    (unrelated : ∀ operation ∈ around circumstances, Unrelated entries operation)
    (calm : ∀ operation ∈ around circumstances, Calm operation) : Undisturbed entries circumstances := by
  refine ⟨?_, unrelated, calm⟩
  intro circumstance member
  exact List.filterMap_eq_nil_iff.mp plain circumstance member

theorem firm_run (ttl : Nat) (entries : List Entry) (id : LeaseId) (left first instant : Nat)
    (events : List (Nat × Event)) (course : Course) (plain : ∀ event ∈ events, event.2.mishaps = [])
    (unrelated : ∀ operation ∈ othersIn events, Unrelated entries operation)
    (calm : ∀ operation ∈ othersIn events, Calm operation)
    (clocked : (first :: (events.map (·.1) ++ [instant])).Pairwise (· ≤ ·))
    (gaps : (first :: (tickTimes events ++ [instant])).IsChain (Within ttl))
    (held : course.keeper = { belief := .bound id })
    (firm : Firm ttl entries id (grantCount (othersIn events) + left) (first + ttl) course.store) :
    Firm ttl entries id left (latestTick first events + ttl) (course.run ttl entries events).store := by
  induction events generalizing first course with
  | nil =>
      rw [show grantCount (othersIn []) + left = left from Nat.zero_add left] at firm
      exact firm
  | cons head rest ih =>
      obtain ⟨now, event⟩ := head
      have parts : othersIn ((now, event) :: rest) = event.others ++ othersIn rest := rfl
      rw [parts] at unrelated calm firm
      rw [grants_append, Nat.add_assoc] at firm
      have quiet := fun other member => plain other (List.mem_cons_of_mem (now, event) member)
      have foreign := fun other member => unrelated other (List.mem_append_right event.others member)
      have peaceful := fun other member => calm other (List.mem_append_right event.others member)
      obtain ⟨after_, tail⟩ := List.pairwise_cons.mp clocked
      have order : first ≤ now := after_ now List.mem_cons_self
      cases event with
      | tick circumstances =>
          have close : now < first + ttl := (List.isChain_cons_cons.mp gaps).1
          have undisturbed := tick_undisturbed entries circumstances (plain _ List.mem_cons_self)
            (fun other member => unrelated other (List.mem_append_left _ member))
            (fun other member => calm other (List.mem_append_left _ member))
          obtain ⟨store, keeper⟩ := course
          dsimp only at held
          subst held
          obtain ⟨bound, renewed⟩ := tick_renews ttl entries id _ now (first + ttl) circumstances store undisturbed close
            (by omega) firm
          have same : latestTick first ((now, .tick circumstances) :: rest) = latestTick now rest := List.getLastD_cons
          rw [same]
          exact ih now _ quiet foreign peaceful tail (List.isChain_cons_cons.mp gaps).2 bound renewed
      | other operation =>
          have upcoming : ∀ time ∈ tickTimes rest ++ [instant], now ≤ time := by
            intro time member
            apply (List.pairwise_cons.mp tail).1 time
            rcases List.mem_append.mp member with tick | last
            · exact List.mem_append_left _ ((List.filter_sublist.map _).subset tick)
            · exact List.mem_append_right _ last
          have close : now < first + ttl := before_expiry ttl first now instant (tickTimes rest) gaps upcoming
          have stepped := firm_perform ttl entries id _ (first + ttl) now operation course.store
            (unrelated operation (List.mem_append_left _ List.mem_cons_self))
            (calm operation (List.mem_append_left _ List.mem_cons_self)) close (by omega) firm
          have onwards := clocked.sublist ((List.sublist_cons_self now _).cons_cons first)
          exact ih first _ quiet foreign peaceful onwards gaps held stepped

theorem firm_visible (ttl : Nat) (entries : List Entry) (id : LeaseId) (left expiry instant : Nat) (store : Store)
    (before : instant < expiry) (firm : Firm ttl entries id left expiry store) :
    ∀ entry ∈ entries, (perform instant (.leaseOf entry.key) store).1 = .holder (some id) ∧
      ∀ root, Table.liesUnder root entry.key = true → ∃ found,
        (perform instant (.list root) store).1 = .entries found ∧ (entry.key, entry.value) ∈ found := by
  have swept := justified_sweep ttl entries id instant store firm.backed.sound.coherent firm.backed.justified
  obtain ⟨lease, member, same, _⟩ := held_sweep instant expiry id store before firm.lasting.held
  have live : (Store.sweep instant store).isLive id = true := (Store.is_live_iff _ id).mpr ⟨lease, member, same⟩
  intro entry inside
  have present := swept.bound live entry inside
  refine ⟨?_, ?_⟩
  · simp only [perform, Store.leaseOf, present, Option.bind_some]
  · intro root under
    refine ⟨((Store.sweep instant store).table.under root).map fun pair => (pair.1, pair.2.value), ?_, ?_⟩
    · simp [perform, Store.list, firm.lasting.available, Reply.ofExcept]
    · have stored := (Table.lookup_some_iff _ _ _).mp present
      rw [Table.under_filter]
      exact List.mem_map.mpr ⟨_, List.mem_filter.mpr ⟨stored, under⟩, rfl⟩

-- The instants between two ticks, and that of the next tick before it begins, are among those less than one
-- term after the latest tick seen.
theorem registration_never_flaps (ttl : Nat) (entries : List Entry) (history : Store.History) (first : Nat)
    (opening : List Circumstance) (events : List (Nat × Event)) (distinct : (entries.map (·.key)).Nodup)
    (available : (after history {}).available = true) (firstTick : Undisturbed entries opening)
    (steady : Steady ttl entries first events)
    (few : grantCount (around opening ++ othersIn events) < 0x10000000000000000) :
    let once := Course.tick ttl entries first opening { store := after history {} }
    ∃ id, ∀ seen, seen <+: events → ∀ instant, (∀ time ∈ first :: seen.map (·.1), time ≤ instant) →
      instant < latestTick first seen + ttl →
        ∀ entry ∈ entries,
          (perform instant (.leaseOf entry.key) (once.run ttl entries seen).store).1 = .holder (some id) ∧
          ∀ root, Table.liesUnder root entry.key = true → ∃ found,
            (perform instant (.list root) (once.run ttl entries seen).store).1 = .entries found ∧
              (entry.key, entry.value) ∈ found := by
  intro once
  rcases Nat.eq_zero_or_pos ttl with none | term
  · refine ⟨0, fun seen _ instant later before => ?_⟩
    have reached : latestTick first seen ≤ instant := later _ (latest_tick_mem first seen)
    omega
  · rw [grants_append] at few
    have sound := (kept_initial ttl entries 0 history).sound
    obtain ⟨id, bound, firm⟩ := tick_registers ttl entries _ first opening (after history {}) distinct term firstTick few
      sound available
    refine ⟨id, fun seen part instant later before => ?_⟩
    have soFar := steady_prefix ttl entries first seen events part steady
    have clocked : (first :: (seen.map (·.1) ++ [instant])).Pairwise (· ≤ ·) := by
      rw [← List.cons_append]
      exact List.pairwise_append.mpr ⟨soFar.clocked, List.pairwise_singleton _ _, by simpa using later⟩
    have gaps : (first :: (tickTimes seen ++ [instant])).IsChain (Within ttl) := by
      rw [← List.cons_append]
      refine soFar.gaps.append (List.isChain_singleton instant) ?_
      intro latest last next only
      rw [latest_tick_last] at last
      cases last
      cases only
      exact before
    have fewer : grantCount (othersIn seen) ≤ grantCount (othersIn events) := by
      obtain ⟨rest, rfl⟩ := part
      rw [show othersIn (seen ++ rest) = othersIn seen ++ othersIn rest from List.flatMap_append, grants_append]
      exact Nat.le_add_right _ _
    have enough : Firm ttl entries id (grantCount (othersIn seen) + 0) (first + ttl) once.store :=
      ⟨⟨firm.backed.sound, firm.backed.justified, spared_fewer id _ _ fewer _ firm.backed.spared⟩, firm.lasting⟩
    have lasting := firm_run ttl entries id 0 first instant seen once soFar.plain soFar.unrelated soFar.calm clocked gaps
      bound enough
    exact firm_visible ttl entries id 0 _ instant _ before lasting

-- Every tick comes at the last moment, and so does the look at the end.
def brinkmanship : List (Nat × Event) :=
  [(105, .other (.put "x" [0] none)), (109, .tick []), (118, .other .leaseCount),
    (118, .tick [{ others := [.list "", .delete "x"] }]), (125, .other (.grant 3))]

theorem registration_never_flaps_on_the_brink :
    let once := Course.tick 10 couple 100 [{}, { others := [.list ""] }] { store := after [(0, .put "a" [9] none)] {} }
    ∃ id, ∀ entry ∈ couple,
      (perform 127 (.leaseOf entry.key) (once.run 10 couple brinkmanship).store).1 = .holder (some id) ∧
      ∀ root, Table.liesUnder root entry.key = true → ∃ found,
        (perform 127 (.list root) (once.run 10 couple brinkmanship).store).1 = .entries found ∧
          (entry.key, entry.value) ∈ found := by
  have steady : Steady 10 couple 100 brinkmanship :=
    ⟨by decide, by decide, by decide, by decide, by unfold Within; decide⟩
  obtain ⟨id, visible⟩ := registration_never_flaps 10 couple [(0, .put "a" [9] none)] 100 [{}, { others := [.list ""] }]
    brinkmanship (by decide) (by decide +kernel) ⟨by decide, by decide, by decide⟩ steady (by decide)
  exact ⟨id, visible brinkmanship List.prefix_rfl 127 (by decide) (by decide)⟩

end ServiceHost.Registration
