import ServiceHost.Proofs.Registration.Renewal

set_option autoImplicit false

namespace ServiceHost.Registration

open Store (Operation LiveAt perform after)

theorem settled_other (ttl : Nat) (entries : List Entry) (left expiry now : Nat) (operation : Operation) (course : Course)
    (unrelated : Unrelated entries operation) (calm : Calm operation) (before : now < expiry)
    (within : expiry ≤ now + ttl) (settled : Settled ttl entries (grantCount [operation] + left) expiry course) :
    Settled ttl entries left expiry { course with store := (perform now operation course.store).2 } := by
  refine ⟨sound_perform now operation course.store settled.sound,
    available_perform now operation course.store calm settled.available, ?_⟩
  rcases settled.belief with unbound | ⟨id, held, firm⟩
  · exact Or.inl unbound
  · exact Or.inr ⟨id, held, firm_perform ttl entries id left expiry now operation course.store unrelated calm before within firm⟩

theorem settled_after (ttl : Nat) (entries : List Entry) (left expiry first : Nat) (history : Store.History)
    (course : Course) (unrelated : ∀ entry ∈ history, Unrelated entries entry.2) (calm : ∀ entry ∈ history, Calm entry.2)
    (times : ∀ entry ∈ history, first ≤ entry.1 ∧ entry.1 < expiry) (within : expiry ≤ first + ttl)
    (settled : Settled ttl entries (grantCount (history.map (·.2)) + left) expiry course) :
    Settled ttl entries left expiry { course with store := after history course.store } := by
  induction history generalizing course with
  | nil =>
      rw [List.map_nil, show grantCount [] + left = left from Nat.zero_add left] at settled
      exact settled
  | cons head rest ih =>
      obtain ⟨now, operation⟩ := head
      obtain ⟨later, before⟩ := times (now, operation) List.mem_cons_self
      rw [List.map_cons, grants_cons, Nat.add_assoc] at settled
      have stepped := settled_other ttl entries _ expiry now operation course (unrelated _ List.mem_cons_self)
        (calm _ List.mem_cons_self) before (by omega) settled
      exact ih _ (fun entry member => unrelated entry (List.mem_cons_of_mem _ member))
        (fun entry member => calm entry (List.mem_cons_of_mem _ member))
        (fun entry member => times entry (List.mem_cons_of_mem _ member)) stepped

theorem tick_completes (ttl : Nat) (entries : List Entry) (left now expiry : Nat) (circumstances : List Circumstance)
    (course : Course) (distinct : (entries.map (·.key)).Nodup) (undisturbed : Undisturbed entries circumstances)
    (few : grantCount (around circumstances) + left < 0x10000000000000000) (before : now < expiry)
    (within : expiry ≤ now + ttl)
    (settled : Settled ttl entries (grantCount (around circumstances) + left) expiry course) :
    ∃ id, (course.tick ttl entries now circumstances).keeper = { belief := .bound id } ∧
      Firm ttl entries id left (now + ttl) (course.tick ttl entries now circumstances).store := by
  obtain ⟨store, keeper⟩ := course
  rcases settled.belief with unbound | ⟨id, held, firm⟩
  · dsimp only at unbound
    subst unbound
    exact tick_registers ttl entries left now circumstances store distinct (by omega) undisturbed few settled.sound
      settled.available
  · dsimp only at held
    subst held
    exact ⟨id, tick_renews ttl entries id left now expiry circumstances store undisturbed before within firm⟩

theorem firm_registered (ttl : Nat) (entries : List Entry) (id : LeaseId) (left expiry now : Nat) (store : Store)
    (before : now < expiry) (firm : Firm ttl entries id left expiry store) :
    LiveAt now id store ∧
      ∀ entry ∈ entries, store.table.get? entry.key = some { value := entry.value, lease := some id } := by
  obtain ⟨lease, member, same, later⟩ := firm.lasting.held
  have live : store.isLive id = true := (Store.is_live_iff store id).mpr ⟨lease, member, same⟩
  exact ⟨⟨lease, member, same, Nat.lt_of_lt_of_le before later⟩, firm.backed.justified.bound live⟩

-- The ids of leases are words, so the lease that the loop holds could be granted again to another after as
-- many grants as there are words. What the loop itself is granted does not count towards these.
theorem registration_recovers (ttl : Nat) (entries : List Entry) (before : List (Nat × Event)) (first second : Nat)
    (one two : List Circumstance) (between : Store.History) (distinct : (entries.map (·.key)).Nodup)
    (unrelated : ∀ operation ∈ othersIn before, Unrelated entries operation)
    (available : (Course.run ttl entries {} before).store.available = true)
    (firstTick : Undisturbed entries one) (secondTick : Undisturbed entries two)
    (quiet : ∀ entry ∈ between,
      Unrelated entries entry.2 ∧ Calm entry.2 ∧ first ≤ entry.1 ∧ entry.1 ≤ second)
    (order : first ≤ second) (near : second < first + ttl)
    (few : grantCount (othersIn before ++ around one ++ between.map (·.2) ++ around two) < 0x10000000000000000) :
    let once := (Course.run ttl entries {} before).tick ttl entries first one
    let final := { once with store := after between once.store }.tick ttl entries second two
    ∃ id, final.keeper.belief = .bound id ∧ LiveAt second id final.store ∧
      ∀ entry ∈ entries, final.store.table.get? entry.key = some { value := entry.value, lease := some id } := by
  intro once final
  have term : 0 < ttl := by omega
  rw [grants_append, grants_append, grants_append, Nat.add_assoc, Nat.add_assoc] at few
  have kept := kept_run ttl entries _ before {} distinct unrelated few (kept_initial ttl entries _ [])
  have settled := tick_settles ttl entries _ first one _ distinct term firstTick (by omega) kept available
  have waited := settled_after ttl entries _ (first + ttl) first between once (fun entry member => (quiet entry member).1)
    (fun entry member => (quiet entry member).2.1)
    (fun entry member => ⟨(quiet entry member).2.2.1, Nat.lt_of_le_of_lt (quiet entry member).2.2.2 near⟩)
    (Nat.le_refl _) settled
  obtain ⟨id, bound, firm⟩ := tick_completes ttl entries 0 second (first + ttl) two _ distinct secondTick
    (by omega) near (by omega) waited
  obtain ⟨live, registered⟩ := firm_registered ttl entries id 0 (second + ttl) second _ (by omega) firm
  exact ⟨id, congrArg Keeper.belief bound, live, registered⟩

def couple : List Entry := [{ key := "a", value := [1] }, { key := "b", value := [2] }]

-- A put that fails, an outage past the term of a lease, and a lease that is revoked behind the back of the
-- loop, which believes in it until the first of the two ticks.
def troubled : List (Nat × Event) :=
  [(0, .tick [{}, { mishap := some (.refused .unavailable) }]), (3, .tick []), (4, .other (.setAvailable false)),
    (9, .tick []), (30, .other (.setAvailable true)), (31, .tick []), (32, .other (.revoke 3))]

def meanwhile : Store.History := [(36, .list ""), (40, .put "c" [3] none)]

theorem registration_recovers_from_trouble :
    let once := (Course.run 10 couple {} troubled).tick 10 couple 35 []
    let final := { once with store := after meanwhile once.store }.tick 10 couple 44 [{ others := [.grant 1] }]
    once.keeper.belief = .unbound ∧
      ∃ id, final.keeper.belief = .bound id ∧ LiveAt 44 id final.store ∧
        ∀ entry ∈ couple, final.store.table.get? entry.key = some { value := entry.value, lease := some id } :=
  ⟨by decide +kernel,
    registration_recovers 10 couple troubled 35 44 [] [{ others := [.grant 1] }] meanwhile (by decide) (by decide)
      (by decide +kernel) ⟨by decide, by decide, by decide⟩ ⟨by decide, by decide, by decide⟩ (by decide) (by decide)
      (by decide) (by decide)⟩

end ServiceHost.Registration
