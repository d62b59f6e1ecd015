import ServiceHost.Proofs.Registration.Surroundings
import ServiceHost.Proofs.Registration.Tick

set_option autoImplicit false

namespace ServiceHost.Registration

open Store (Operation Reply)

structure Exchange where
  call : Operation
  reply : Reply
deriving DecidableEq, Repr

namespace Exchange

def Accepted (exchange : Exchange) : Prop := Keeper.refusal? exchange.reply = none

def granted? (exchange : Exchange) : Option LeaseId :=
  match exchange.call, exchange.reply with
  | .grant _, .lease id => some id
  | _, _ => none

def concerned? (exchange : Exchange) : Option LeaseId :=
  match exchange.call with
  | .keepAlive id => some id
  | .put _ _ lease => lease
  | _ => none

def putFailure? (exchange : Exchange) : Option RegistrationError :=
  match exchange.call with
  | .put key _ _ => (Keeper.refusal? exchange.reply).map (.put key)
  | _ => none

end Exchange

def LatestGrant (log : List Exchange) (reply : Reply) : Prop :=
  ∃ front ttl back, log = front ++ { call := .grant ttl, reply } :: back ∧ ∀ exchange ∈ back, isGrant exchange.call = false

def Untroubled (log : List Exchange) (id : LeaseId) : Prop :=
  ∀ exchange ∈ log, exchange.concerned? = some id → exchange.Accepted

def AsksAnew (ttl : Nat) (entries : List Entry) (reply : Reply) (exchanges : List Exchange) : Prop :=
  ∃ placed, exchanges = { call := .grant ttl, reply } :: placed ∧
    (placed = [] ∧ (∀ id, reply ≠ .lease id) ∨ ∃ id, reply = .lease id ∧ placed.map (·.call) = entries.map (Keeper.putCall id))

structure Round where
  exchanges : List Exchange
  failure : Option RegistrationError
  keeper : Keeper
deriving DecidableEq, Repr

namespace Round

def Registers (ttl : Nat) (entries : List Entry) (id : LeaseId) (round : Round) : Prop :=
  ∃ placed, round.exchanges = { call := .grant ttl, reply := .lease id } :: placed ∧
    placed.map (·.call) = entries.map (Keeper.putCall id) ∧ ∀ exchange ∈ placed, exchange.Accepted

def Renews (id : LeaseId) (round : Round) : Prop :=
  ∃ exchange : Exchange, round.exchanges = [exchange] ∧ exchange.call = .keepAlive id ∧ exchange.Accepted

end Round

def Grounded (ttl : Nat) (entries : List Entry) (id : LeaseId) (rounds : List Round) : Prop :=
  ∃ earlier registering later, rounds = earlier ++ registering :: later ∧ registering.Registers ttl entries id ∧
    ∀ round ∈ later, round.Renews id

theorem grounded_renewed (ttl : Nat) (entries : List Entry) (id : LeaseId) (rounds : List Round) (round : Round)
    (grounded : Grounded ttl entries id rounds) (renews : round.Renews id) : Grounded ttl entries id (rounds ++ [round]) := by
  obtain ⟨earlier, registering, later, parts, registers, before⟩ := grounded
  refine ⟨earlier, registering, later ++ [round], by rw [parts, List.append_assoc, List.cons_append], registers, ?_⟩
  intro other member
  rcases List.mem_append.mp member with old | new
  · exact before other old
  · exact List.mem_singleton.mp new ▸ renews

structure Chronicle (σ : Type) where
  rounds : List Round := []
  keeper : Keeper := {}
  state : σ

section

variable {σ : Type} (perform : Operation → σ → Reply × σ)

def recorded (operation : Operation) (state : σ × List Exchange) : Reply × σ × List Exchange :=
  let (reply, after) := perform operation state.1
  (reply, after, state.2 ++ [{ call := operation, reply }])

namespace Chronicle

def log (chronicle : Chronicle σ) : List Exchange := chronicle.rounds.flatMap (·.exchanges)

def granted (chronicle : Chronicle σ) : List LeaseId := chronicle.log.filterMap (·.granted?)

def next (ttl : Nat) (entries : List Entry) (chronicle : Chronicle σ) : Round × σ :=
  let (failure, keeper, state, exchanges) := Keeper.tick (recorded perform) ttl entries chronicle.keeper (chronicle.state, [])
  ({ exchanges, failure, keeper }, state)

def advance (ttl : Nat) (entries : List Entry) (chronicle : Chronicle σ) : Chronicle σ :=
  let next := chronicle.next perform ttl entries
  { rounds := chronicle.rounds ++ [next.1], keeper := next.1.keeper, state := next.2 }

def start (ttl : Nat) (entries : List Entry) (state : σ) : Nat → Chronicle σ
  | 0 => { state }
  | ticks + 1 => (start ttl entries state ticks).advance perform ttl entries

end Chronicle

-- That a record is kept makes no difference.
theorem run_recorded (entries : List Entry) (fuel : Nat) (next : Next × Keeper) (state : σ) (log : List Exchange) :
    ∃ later, Keeper.run (recorded perform) entries fuel next (state, log) =
      ((Keeper.run perform entries fuel next state).1, (Keeper.run perform entries fuel next state).2.1,
        (Keeper.run perform entries fuel next state).2.2, later) := by
  induction fuel generalizing next state log with
  | zero =>
      obtain ⟨next, keeper⟩ := next
      cases next <;> exact ⟨log, rfl⟩
  | succ fuel ih =>
      obtain ⟨next, keeper⟩ := next
      cases next with
      | done failure => exact ⟨log, rfl⟩
      | call operation => exact ih _ _ _

theorem next_ticks (ttl : Nat) (entries : List Entry) (chronicle : Chronicle σ) :
    Keeper.tick perform ttl entries chronicle.keeper chronicle.state =
      ((chronicle.next perform ttl entries).1.failure, (chronicle.next perform ttl entries).1.keeper,
        (chronicle.next perform ttl entries).2) := by
  obtain ⟨later, same⟩ := run_recorded perform entries (Keeper.callBound entries) (Keeper.begin ttl chronicle.keeper)
    chronicle.state []
  rw [Chronicle.next, Keeper.tick, Keeper.tick, same]

theorem place_all_recorded (id : LeaseId) (entries : List Entry) (failure : Option RegistrationError) (state : σ)
    (log : List Exchange) :
    ∃ placed after, Keeper.placeAll (recorded perform) id entries failure (state, log) =
        (failure.or (placed.findSome? (·.putFailure?)), after, log ++ placed) ∧
      placed.map (·.call) = entries.map (Keeper.putCall id) := by
  induction entries generalizing failure state log with
  | nil => exact ⟨[], state, by simp [Keeper.placeAll], rfl⟩
  | cons entry rest ih =>
      generalize answered : perform (Keeper.putCall id entry) state = answer
      obtain ⟨reply, later⟩ := answer
      obtain ⟨placed, after, same, calls⟩ := ih (failure.or ((Keeper.refusal? reply).map (.put entry.key))) later
        (log ++ [{ call := Keeper.putCall id entry, reply }])
      refine ⟨{ call := Keeper.putCall id entry, reply } :: placed, after, ?_, by rw [List.map_cons, List.map_cons, calls]⟩
      have failing : ({ call := Keeper.putCall id entry, reply } : Exchange).putFailure? =
          (Keeper.refusal? reply).map (.put entry.key) := rfl
      rw [Keeper.placeAll, recorded, answered]
      dsimp only
      rw [same, List.append_assoc, List.singleton_append, Option.or_assoc, List.findSome?_cons, failing]
      cases (Keeper.refusal? reply).map (RegistrationError.put entry.key) <;> rfl

theorem placed_call (id : LeaseId) (entries : List Entry) (placed : List Exchange)
    (calls : placed.map (·.call) = entries.map (Keeper.putCall id)) (exchange : Exchange) (member : exchange ∈ placed) :
    ∃ entry ∈ entries, Keeper.putCall id entry = exchange.call :=
  List.mem_map.mp (calls ▸ List.mem_map_of_mem member)

theorem placed_concerned (ttl : Nat) (id : LeaseId) (entries : List Entry) (placed : List Exchange)
    (calls : placed.map (·.call) = entries.map (Keeper.putCall id)) (exchange : Exchange)
    (member : exchange ∈ { call := .grant ttl, reply := .lease id } :: placed) (other : LeaseId)
    (concerned : exchange.concerned? = some other) : exchange ∈ placed ∧ other = id := by
  rcases List.mem_cons.mp member with rfl | put
  · cases concerned
  · obtain ⟨entry, -, call⟩ := placed_call id entries placed calls exchange put
    rw [Exchange.concerned?, ← call] at concerned
    exact ⟨put, (Option.some.inj concerned).symm⟩

theorem no_put_failure (id : LeaseId) (entries : List Entry) (placed : List Exchange)
    (calls : placed.map (·.call) = entries.map (Keeper.putCall id)) :
    placed.findSome? (·.putFailure?) = none ↔ ∀ exchange ∈ placed, exchange.Accepted := by
  rw [List.findSome?_eq_none_iff]
  refine forall₂_congr fun exchange member => ?_
  obtain ⟨entry, -, put⟩ := placed_call id entries placed calls exchange member
  rw [Exchange.putFailure?, ← put]
  exact Option.map_eq_none_iff

-- All that can come of a tick. Either there is no lease, and the store gives one or does not, or there is one to be renewed.
inductive Does (ttl : Nat) (entries : List Entry) : Keeper → Round → Prop where
  | lacks (reply : Reply) (none : ∀ id, reply ≠ .lease id) :
      Does ttl entries {} {
        exchanges := [{ call := .grant ttl, reply }], failure := (Keeper.refusal? reply).map .grant, keeper := {} }
  | registers (id : LeaseId) (placed : List Exchange) (calls : placed.map (·.call) = entries.map (Keeper.putCall id))
      (accepted : ∀ exchange ∈ placed, exchange.Accepted) :
      Does ttl entries {} {
        exchanges := { call := .grant ttl, reply := .lease id } :: placed, failure := none, keeper := { belief := .bound id } }
  | givesUp (id : LeaseId) (placed : List Exchange) (calls : placed.map (·.call) = entries.map (Keeper.putCall id))
      (failure : RegistrationError) (first : placed.findSome? (·.putFailure?) = some failure) :
      Does ttl entries {} {
        exchanges := { call := .grant ttl, reply := .lease id } :: placed, failure := some failure, keeper := {} }
  | renews (id : LeaseId) (reply : Reply) (accepted : Keeper.refusal? reply = none) :
      Does ttl entries { belief := .bound id } {
        exchanges := [{ call := .keepAlive id, reply }], failure := none, keeper := { belief := .bound id } }
  | loses (id : LeaseId) (reply : Reply) (error : StoreError) (refused : Keeper.refusal? reply = some error) :
      Does ttl entries { belief := .bound id } {
        exchanges := [{ call := .keepAlive id, reply }], failure := some (.leaseExpired id error), keeper := {} }

theorem next_unbound (ttl : Nat) (entries : List Entry) (chronicle : Chronicle σ) (unbound : chronicle.keeper = {}) :
    Does ttl entries {} (chronicle.next perform ttl entries).1 := by
  rw [Chronicle.next, unbound, Keeper.tick_unbound, recorded]
  generalize perform (.grant ttl) chronicle.state = answer
  obtain ⟨reply, later⟩ := answer
  cases reply with
  | lease id =>
      obtain ⟨placed, after, same, calls⟩ := place_all_recorded perform id entries none later
        [{ call := .grant ttl, reply := .lease id }]
      dsimp only [List.nil_append]
      rw [same, Option.none_or]
      cases first : placed.findSome? (·.putFailure?) with
      | none => exact .registers id placed calls ((no_put_failure id entries placed calls).mp first)
      | some failure => exact .givesUp id placed calls failure first
  | _ => exact .lacks _ nofun

theorem next_bound (ttl : Nat) (entries : List Entry) (chronicle : Chronicle σ) (id : LeaseId)
    (bound : chronicle.keeper = { belief := .bound id }) :
    Does ttl entries { belief := .bound id } (chronicle.next perform ttl entries).1 := by
  rw [Chronicle.next, bound, Keeper.tick_bound, recorded]
  generalize perform (.keepAlive id) chronicle.state = answer
  obtain ⟨reply, later⟩ := answer
  dsimp only [List.nil_append]
  cases refused : Keeper.refusal? reply with
  | none => exact .renews id reply refused
  | some error => exact .loses id reply error refused

theorem log_advance (ttl : Nat) (entries : List Entry) (chronicle : Chronicle σ) :
    (chronicle.advance perform ttl entries).log = chronicle.log ++ (chronicle.next perform ttl entries).1.exchanges := by
  rw [Chronicle.log, Chronicle.advance, List.flatMap_append, List.flatMap_singleton]
  rfl

theorem granted_advance (ttl : Nat) (entries : List Entry) (chronicle : Chronicle σ) :
    (chronicle.advance perform ttl entries).granted =
      chronicle.granted ++ (chronicle.next perform ttl entries).1.exchanges.filterMap (·.granted?) := by
  rw [Chronicle.granted, log_advance, List.filterMap_append]
  rfl

-- What the loop believes between two ticks, and that it has never named a lease that it was not given.
structure Honest (ttl : Nat) (entries : List Entry) (chronicle : Chronicle σ) : Prop where
  belief : chronicle.keeper = {} ∨
    ∃ id, chronicle.keeper = { belief := .bound id } ∧ Grounded ttl entries id chronicle.rounds
  given : ∀ exchange ∈ chronicle.log, ∀ id, exchange.concerned? = some id → id ∈ chronicle.granted

section Honesty

variable {ttl : Nat} {entries : List Entry} {chronicle : Chronicle σ}

theorem honest_next (honest : Honest ttl entries chronicle) :
    Does ttl entries chronicle.keeper (chronicle.next perform ttl entries).1 := by
  rcases honest.belief with unbound | ⟨id, bound, -⟩
  · rw [unbound]
    exact next_unbound perform ttl entries chronicle unbound
  · rw [bound]
    exact next_bound perform ttl entries chronicle id bound

theorem grounded_latest {id : LeaseId} (grounded : Grounded ttl entries id chronicle.rounds) :
    LatestGrant chronicle.log (.lease id) := by
  obtain ⟨earlier, registering, later, parts, ⟨placed, said, calls, -⟩, renews⟩ := grounded
  refine ⟨earlier.flatMap (·.exchanges), ttl, placed ++ later.flatMap (·.exchanges), ?_, fun exchange member => ?_⟩
  · rw [Chronicle.log, parts, List.flatMap_append, List.flatMap_cons, said, List.cons_append]
  · rcases List.mem_append.mp member with put | renewal
    · obtain ⟨entry, -, call⟩ := placed_call id entries placed calls exchange put
      rw [← call]
      rfl
    · obtain ⟨round, member, inside⟩ := List.mem_flatMap.mp renewal
      obtain ⟨only, said, call, -⟩ := renews round member
      rw [said] at inside
      rw [List.mem_singleton.mp inside, call]
      rfl

theorem latest_granted {id : LeaseId} (latest : LatestGrant chronicle.log (.lease id)) : id ∈ chronicle.granted := by
  obtain ⟨front, ttl, back, parts, -⟩ := latest
  refine List.mem_filterMap.mpr ⟨{ call := .grant ttl, reply := .lease id }, ?_, rfl⟩
  rw [parts]
  exact List.mem_append_right front List.mem_cons_self

theorem bound_grounded {id : LeaseId} (honest : Honest ttl entries chronicle)
    (bound : chronicle.keeper = { belief := .bound id }) : Grounded ttl entries id chronicle.rounds := by
  rcases honest.belief with unbound | ⟨held, same, grounded⟩
  · cases bound.symm.trans unbound
  · cases bound.symm.trans same
    exact grounded

theorem belief_advance (honest : Honest ttl entries chronicle) :
    (chronicle.advance perform ttl entries).keeper = {} ∨
      ∃ id, (chronicle.advance perform ttl entries).keeper = { belief := .bound id } ∧
        Grounded ttl entries id (chronicle.advance perform ttl entries).rounds := by
  have does := honest_next perform honest
  rw [Chronicle.advance]
  generalize (chronicle.next perform ttl entries).1 = round at does ⊢
  generalize kept : chronicle.keeper = keeper at does
  cases does with
  | registers id placed calls accepted =>
      refine .inr ⟨id, rfl, chronicle.rounds, _, [], rfl, ⟨placed, rfl, calls, accepted⟩, ?_⟩
      exact fun _ none => (List.not_mem_nil none).elim
  | renews id reply accepted =>
      have grounded := bound_grounded honest kept
      exact .inr ⟨id, rfl, grounded_renewed ttl entries id chronicle.rounds _ grounded ⟨_, rfl, rfl, accepted⟩⟩
  | _ => exact .inl rfl

theorem given_advance (honest : Honest ttl entries chronicle) (exchange : Exchange)
    (member : exchange ∈ (chronicle.advance perform ttl entries).log) (id : LeaseId) (concerned : exchange.concerned? = some id) :
    id ∈ (chronicle.advance perform ttl entries).granted := by
  have does := honest_next perform honest
  rw [log_advance] at member
  rw [granted_advance]
  rcases List.mem_append.mp member with before | new
  · exact List.mem_append_left _ (honest.given exchange before id concerned)
  generalize (chronicle.next perform ttl entries).1 = round at does new ⊢
  generalize kept : chronicle.keeper = keeper at does
  cases does with
  | lacks =>
      rw [List.mem_singleton.mp new] at concerned
      cases concerned
  | registers id placed calls | givesUp id placed calls =>
      rw [(placed_concerned ttl id entries placed calls exchange new _ concerned).2]
      exact List.mem_append_right _ List.mem_cons_self
  | renews id | loses id =>
      rw [List.mem_singleton.mp new] at concerned
      cases concerned
      exact List.mem_append_left _ (latest_granted (grounded_latest (bound_grounded honest kept)))

theorem honest_advance (honest : Honest ttl entries chronicle) : Honest ttl entries (chronicle.advance perform ttl entries) :=
  ⟨belief_advance perform honest, given_advance perform honest⟩

-- A lease that is granted has not been named before, as no lease is granted twice.
theorem untroubled_advance (honest : Honest ttl entries chronicle)
    (distinct : (chronicle.advance perform ttl entries).granted.Nodup)
    (untroubled : ∀ id, chronicle.keeper = { belief := .bound id } → Untroubled chronicle.log id) (id : LeaseId)
    (bound : (chronicle.advance perform ttl entries).keeper = { belief := .bound id }) :
    Untroubled (chronicle.advance perform ttl entries).log id := by
  have does := honest_next perform honest
  rw [granted_advance] at distinct
  rw [Chronicle.advance] at bound
  rw [log_advance]
  generalize (chronicle.next perform ttl entries).1 = round at does distinct bound ⊢
  generalize kept : chronicle.keeper = keeper at does
  intro exchange member concerned
  cases does with
  | registers other placed calls accepted =>
      cases bound
      rcases List.mem_append.mp member with before | new
      · have earlier := honest.given exchange before id concerned
        exact absurd rfl ((List.nodup_append.mp distinct).2.2 id earlier id List.mem_cons_self)
      · exact accepted exchange (placed_concerned ttl id entries placed calls exchange new id concerned).1
  | renews other reply accepted =>
      cases bound
      rcases List.mem_append.mp member with before | new
      · exact untroubled id kept exchange before concerned
      · rw [List.mem_singleton.mp new]
        exact accepted
  | _ => cases bound

theorem renewal_next (honest : Honest ttl entries chronicle) (id : LeaseId) (reply : Reply)
    (member : { call := .keepAlive id, reply } ∈ (chronicle.next perform ttl entries).1.exchanges) :
    (chronicle.next perform ttl entries).1.exchanges = [{ call := .keepAlive id, reply }] ∧
      chronicle.keeper = { belief := .bound id } := by
  have does := honest_next perform honest
  generalize (chronicle.next perform ttl entries).1 = round at does member ⊢
  generalize chronicle.keeper = keeper at does ⊢
  cases does with
  | lacks => cases List.mem_singleton.mp member
  | registers other placed calls | givesUp other placed calls =>
      obtain ⟨put, -⟩ := placed_concerned ttl other entries placed calls _ member id rfl
      obtain ⟨entry, -, call⟩ := placed_call other entries placed calls _ put
      cases call
  | renews | loses =>
      cases List.mem_singleton.mp member
      exact ⟨rfl, rfl⟩

theorem failure_next (honest : Honest ttl entries chronicle) (failure : RegistrationError)
    (failed : (chronicle.next perform ttl entries).1.exchanges.findSome? (·.putFailure?) = some failure) :
    (chronicle.next perform ttl entries).1.failure = some failure ∧ (chronicle.next perform ttl entries).1.keeper = {} ∧
      ∃ id, AsksAnew ttl entries (.lease id) (chronicle.next perform ttl entries).1.exchanges := by
  have does := honest_next perform honest
  generalize (chronicle.next perform ttl entries).1 = round at does failed ⊢
  generalize chronicle.keeper = keeper at does
  cases does with
  | registers id placed calls accepted =>
      have none : placed.findSome? (·.putFailure?) = none := (no_put_failure id entries placed calls).mpr accepted
      cases failed.symm.trans none
  | givesUp id placed calls error first => exact ⟨first.symm.trans failed, rfl, id, placed, rfl, .inr ⟨id, rfl, calls⟩⟩
  | _ => cases failed

theorem unbound_asks (honest : Honest ttl entries chronicle) (unbound : chronicle.keeper = {}) :
    ∃ reply, AsksAnew ttl entries reply (chronicle.next perform ttl entries).1.exchanges := by
  have does := honest_next perform honest
  generalize (chronicle.next perform ttl entries).1 = round at does ⊢
  rw [unbound] at does
  cases does with
  | lacks reply none => exact ⟨reply, [], rfl, .inl ⟨rfl, none⟩⟩
  | registers id placed calls | givesUp id placed calls => exact ⟨.lease id, placed, rfl, .inr ⟨id, rfl, calls⟩⟩

end Honesty

section Course

variable (ttl : Nat) (entries : List Entry) (state : σ)

theorem honest_start (ticks : Nat) : Honest ttl entries (Chronicle.start perform ttl entries state ticks) := by
  induction ticks with
  | zero => exact ⟨.inl rfl, nofun⟩
  | succ ticks ih => exact honest_advance perform ih

theorem untroubled_start (ticks : Nat) (distinct : (Chronicle.start perform ttl entries state ticks).granted.Nodup) (id : LeaseId)
    (bound : (Chronicle.start perform ttl entries state ticks).keeper = { belief := .bound id }) :
    Untroubled (Chronicle.start perform ttl entries state ticks).log id := by
  induction ticks generalizing id with
  | zero => exact nofun
  | succ ticks ih =>
      have before : (Chronicle.start perform ttl entries state ticks).granted.Nodup := by
        rw [Chronicle.start, granted_advance] at distinct
        exact (List.nodup_append.mp distinct).1
      exact untroubled_advance perform (honest_start perform ttl entries state ticks) distinct (ih before) id bound

-- However a store answers, if only it grants no lease twice, and however many ticks have passed.
theorem belief_grounded (ticks : Nat) (distinct : (Chronicle.start perform ttl entries state (ticks + 2)).granted.Nodup) :
    let before := Chronicle.start perform ttl entries state ticks
    let round := (before.next perform ttl entries).1
    let after := before.advance perform ttl entries
    Keeper.tick perform ttl entries before.keeper before.state = (round.failure, after.keeper, after.state) ∧
    (before.keeper = {} ∨ ∃ id, before.keeper = { belief := .bound id } ∧ LatestGrant before.log (.lease id) ∧
      Grounded ttl entries id before.rounds) ∧
    (∀ id reply, { call := .keepAlive id, reply } ∈ round.exchanges →
      round.exchanges = [{ call := .keepAlive id, reply }] ∧ LatestGrant before.log (.lease id) ∧ Untroubled before.log id) ∧
    ∀ failure, round.exchanges.findSome? (·.putFailure?) = some failure →
      round.failure = some failure ∧ (∃ id, AsksAnew ttl entries (.lease id) round.exchanges) ∧
        ∃ reply, AsksAnew ttl entries reply (after.next perform ttl entries).1.exchanges ∧
          ∀ id, reply = .lease id → id ∉ after.granted := by
  intro before round after
  have honest := honest_start perform ttl entries state ticks
  have fresh : (after.granted ++ (after.next perform ttl entries).1.exchanges.filterMap (·.granted?)).Nodup := by
    rwa [← granted_advance]
  refine ⟨next_ticks perform ttl entries before, ?_, fun id reply member => ?_, fun failure failed => ?_⟩
  · refine honest.belief.imp_right fun ⟨id, bound, grounded⟩ => ⟨id, bound, grounded_latest grounded, grounded⟩
  · obtain ⟨only, bound⟩ := renewal_next perform honest id reply member
    have earlier : before.granted.Nodup := by
      have both := (List.nodup_append.mp fresh).1
      rw [granted_advance] at both
      exact (List.nodup_append.mp both).1
    exact ⟨only, grounded_latest (bound_grounded honest bound), untroubled_start perform ttl entries state ticks earlier id bound⟩
  · obtain ⟨returned, unbound, attempted⟩ := failure_next perform honest failure failed
    obtain ⟨reply, anew⟩ := unbound_asks perform (honest_advance perform honest) unbound
    refine ⟨returned, attempted, reply, anew, ?_⟩
    rintro id rfl known
    obtain ⟨placed, said, -⟩ := anew
    have again : id ∈ (after.next perform ttl entries).1.exchanges.filterMap (·.granted?) := by
      rw [said]
      exact List.mem_cons_self
    exact (List.nodup_append.mp fresh).2.2 id known id again rfl

end Course

end

def byHeart (_ : Operation) : List Reply → Reply × List Reply
  | reply :: later => (reply, later)
  | [] => (.refused .unavailable, [])

def pair : List Entry := [{ key := "a", value := [1] }, { key := "b", value := [2] }]

-- The second put fails, all are put again, and the new lease is renewed.
def stumble : List Reply := [.lease 1, .done, .refused .unavailable, .lease 2, .done, .done, .remaining 5, .remaining 5]

theorem belief_grounded_stumble :
    (Chronicle.start byHeart 5 pair stumble 4).granted = [1, 2] ∧
    ((Chronicle.start byHeart 5 pair stumble 0).next byHeart 5 pair).1.failure = some (.put "b" .unavailable) ∧
    (∃ reply, AsksAnew 5 pair reply ((Chronicle.start byHeart 5 pair stumble 1).next byHeart 5 pair).1.exchanges) ∧
    (Chronicle.start byHeart 5 pair stumble 2).keeper = { belief := .bound 2 } ∧
    LatestGrant (Chronicle.start byHeart 5 pair stumble 2).log (.lease 2) := by
  have granted : (Chronicle.start byHeart 5 pair stumble 4).granted = [1, 2] := by decide
  obtain ⟨-, -, -, failed⟩ := belief_grounded byHeart 5 pair stumble 0 (by decide)
  obtain ⟨-, -, renewed, -⟩ := belief_grounded byHeart 5 pair stumble 2 (granted ▸ by decide)
  obtain ⟨returned, -, reply, anew, -⟩ := failed (.put "b" .unavailable) (by decide)
  exact ⟨granted, returned, ⟨reply, anew⟩, by decide, (renewed 2 (.remaining 5) (by decide)).2.1⟩

end ServiceHost.Registration
