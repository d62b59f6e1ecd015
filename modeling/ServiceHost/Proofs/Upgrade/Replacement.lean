import ServiceHost.Proofs.Upgrade.Turn

set_option autoImplicit false

namespace ServiceHost.Upgrade

def Attempt.Stage.isAttending : Attempt.Stage → Bool
  | .spawned => true
  | .waiting => true
  | .killing _ => true
  | .succeeded => true
  | .returned none => true
  | _ => false

def Attempt.Attended (attempt : Attempt) : Prop :=
  attempt.replacement = some .running ↔ attempt.stage.isAttending = true

def Handoff.AllAttended (handoff : Handoff) : Prop := ∀ attempt ∈ handoff.attempts, attempt.Attended

-- The system does not let an attempt wait for its replacement, be it to report or to end.
inductive Forsaking (handoff : Handoff) (index : Nat) : Move → Prop where
  | attach (text : String) (stands : handoff.stage? index = some .spawned) :
      Forsaking handoff index (.act index (.attach (some text)))
  | wait (error : Error) (stands : handoff.stage? index = some (.killing error)) : Forsaking handoff index (.act index .forsake)

-- The system lets every attempt wait for the replacement that it has spawned, to report and to end.
def Move.attaches : Move → Bool
  | .act _ (.attach refusal) => refusal.isNone
  | .act _ .forsake => false
  | _ => true

theorem attaches_keeps (handoff : Handoff) (index : Nat) (move : Move) (attaches : move.attaches = true) :
    ¬ Forsaking handoff index move := by
  rintro (_ | _) <;> cases attaches

def Attempt.Forsakes (attempt after : Attempt) : Prop :=
  attempt.stage = .spawned ∧ after.stage ≠ .waiting ∨
    (∃ error, attempt.stage = .killing error) ∧ after.replacement = some .running

theorem spawned_acts (handoff next : Handoff) (index : Nat) (act : Act) (acted : handoff.act? index act = some next)
    (stands : handoff.stage? index = some .spawned) :
    ∃ refusal, act = .attach refusal ∧ (next.stage? index = some .waiting ↔ refusal = none) := by
  cases act with
  | attach refusal =>
      refine ⟨refusal, rfl, ?_⟩
      simp only [Handoff.act?, Handoff.attach, stands, if_true] at acted
      cases refusal <;> cases acted <;> simp [Handoff.move_stage handoff index _ _ stands]
  | _ => cases act_stage handoff next index _ _ acted stands

theorem killing_acts (handoff next : Handoff) (index : Nat) (act : Act) (error : Error) (replacement : Option Replacement)
    (acted : handoff.act? index act = some next) (found : handoff.attempts[index]? = some ⟨.killing error, replacement⟩) :
    act = .reap ∧ next.attempts[index]? = some ⟨.failing error, some .reaped⟩ ∨
      act = .forsake ∧ next.attempts[index]? = some ⟨.failing error, replacement⟩ := by
  have stands := attempt_stage handoff index _ found
  have inside := (List.getElem?_eq_some_iff.mp found).1
  cases act with
  | reap =>
      simp only [Handoff.act?, Handoff.reap, stands] at acted
      cases acted
      exact .inl ⟨rfl, by rw [Handoff.replace_attempts handoff index _ _ _ found, List.getElem?_set_self inside]⟩
  | forsake =>
      simp only [Handoff.act?, Handoff.forsake, stands] at acted
      cases acted
      exact .inr ⟨rfl, by rw [Handoff.move_attempts handoff index _ _ found, List.getElem?_set_self inside]⟩
  | _ => cases act_stage handoff next index _ _ acted stands

theorem forsaking_turn (handoff next : Handoff) (index : Nat) (act : Act) (attempt after : Attempt)
    (acted : handoff.act? index act = some next) (turned : Turned handoff next index attempt after)
    (attended : attempt.stage.isAttending = true → attempt.replacement = some .running) :
    Forsaking handoff index (.act index act) ↔ attempt.Forsakes after := by
  have stands := attempt_stage handoff index attempt turned.found
  have reached := turned_stage handoff next index attempt after turned
  have own := turned_own handoff next index attempt after turned
  constructor
  · intro forsaking
    cases forsaking with
    | attach text spawned =>
        obtain ⟨_, same, waits⟩ := spawned_acts handoff next index _ acted spawned
        cases same
        exact .inl ⟨Option.some.inj (stands.symm.trans spawned), fun waiting => nomatch waits.mp (waiting ▸ reached)⟩
    | wait error killing =>
        obtain ⟨before, replacement⟩ := attempt
        cases Option.some.inj (stands.symm.trans killing)
        obtain ⟨same, _⟩ | ⟨_, left⟩ := killing_acts handoff next index _ error replacement acted turned.found
        · cases same
        · cases Option.some.inj (own.symm.trans left)
          exact .inr ⟨⟨error, rfl⟩, attended rfl⟩
  · rintro (⟨spawned, gone⟩ | ⟨⟨error, killing⟩, runs⟩)
    · rw [spawned] at stands
      obtain ⟨refusal, rfl, waits⟩ := spawned_acts handoff next index act acted stands
      cases refusal with
      | some text => exact .attach text stands
      | none => exact absurd (Option.some.inj (reached.symm.trans (waits.mpr rfl))) gone
    · obtain ⟨before, replacement⟩ := attempt
      cases killing
      obtain ⟨_, left⟩ | ⟨rfl, _⟩ := killing_acts handoff next index act error replacement acted turned.found
      · cases Option.some.inj (own.symm.trans left)
        cases runs
      · exact .wait error stands

theorem attended_turned (state next : State) (attempt after : Attempt) (turn : Turn state attempt.stage next after.stage)
    (leaves : attempt.Leaves after) (attaches : ¬ attempt.Forsakes after) (attended : attempt.Attended) : after.Attended := by
  obtain ⟨before, replacement⟩ := attempt
  obtain ⟨stage, left⟩ := after
  cases leaves with
  | spawned _ reached running =>
      cases reached
      cases running
      exact ⟨fun _ => rfl, fun _ => rfl⟩
  | reaped error _ failing waited =>
      cases failing
      cases waited
      exact ⟨nofun, nofun⟩
  | kept unspawned same =>
      cases same
      cases turn with
      | spawned => exact absurd rfl (unspawned rfl)
      | unattached => exact absurd (.inl ⟨rfl, nofun⟩) attaches
      | dispatched state error => exact absurd (.inr ⟨⟨error, rfl⟩, attended.mpr rfl⟩) attaches
      | _ => exact attended

theorem attended_move (handoff next : Handoff) (move : Move) (moved : handoff.move? move = some next)
    (attaches : move.attaches = true) (attended : handoff.AllAttended) : next.AllAttended := by
  cases move with
  | call =>
      cases moved
      intro attempt member
      rcases List.mem_append.mp member with old | new
      · exact attended attempt old
      · rw [List.mem_singleton.mp new]
        exact ⟨nofun, nofun⟩
  | stop =>
      cases moved
      exact attended
  | act index act =>
      obtain ⟨attempt, after, turned⟩ := Handoff.act_turns handoff next index act moved
      have before := attended attempt (List.mem_of_getElem? turned.found)
      have forsaking := forsaking_turn handoff next index act attempt after moved turned before.mpr
      intro rival member
      obtain ⟨other, present⟩ := List.getElem?_of_mem member
      rcases turned_found handoff next index other attempt after rival turned present with ⟨_, rfl⟩ | ⟨_, old⟩
      · exact attended_turned _ _ attempt after turned.turn turned.leaves
          (fun forsakes => attaches_keeps handoff index _ attaches (forsaking.mpr forsakes)) before
      · exact attended rival (List.mem_of_getElem? old)

theorem attended_run (handoff : Handoff) (moves : List Move) (attaches : ∀ move ∈ moves, move.attaches = true)
    (attended : handoff.AllAttended) : (handoff.run moves).AllAttended := by
  induction moves generalizing handoff with
  | nil => exact attended
  | cons move rest ih =>
      refine ih (handoff.step move) (fun other member => attaches other (List.mem_cons_of_mem move member)) ?_
      unfold Handoff.step
      cases moved : handoff.move? move with
      | none => exact attended
      | some next => exact attended_move handoff next move moved (attaches move List.mem_cons_self) attended

end ServiceHost.Upgrade
