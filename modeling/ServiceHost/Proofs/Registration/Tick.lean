import ServiceHost.Registration.Keeper

set_option autoImplicit false

namespace ServiceHost.Registration.Keeper

section

variable {σ : Type} (perform : Store.Operation → σ → Store.Reply × σ)

def placeAll (id : LeaseId) : List Entry → Option RegistrationError → σ → Option RegistrationError × σ
  | [], failure, state => (failure, state)
  | entry :: rest, failure, state =>
      let (reply, state) := perform (putCall id entry) state
      placeAll id rest (failure.or ((refusal? reply).map (.put entry.key))) state

def settled (id : LeaseId) : Option RegistrationError × σ → Option RegistrationError × Keeper × σ
  | (none, state) => (none, { belief := .bound id }, state)
  | (some failure, state) => (some failure, {}, state)

theorem run_placing (entries rest : List Entry) (entry : Entry) (id : LeaseId) (failure : Option RegistrationError)
    (state : σ) (fuel : Nat) (enough : rest.length < fuel) :
    run perform entries fuel (.call (putCall id entry), { work := .putting id entry rest failure }) state =
      settled id (placeAll perform id (entry :: rest) failure state) := by
  induction rest generalizing entry failure state fuel with
  | nil =>
      obtain ⟨fuel, rfl⟩ := Nat.exists_eq_add_one.mpr enough
      simp only [run, resume, placed, placeAll]
      cases failure.or ((refusal? (perform (putCall id entry) state).1).map (.put entry.key)) with
      | none => cases fuel <;> rfl
      | some => cases fuel <;> rfl
  | cons next rest ih =>
      obtain ⟨fuel, rfl⟩ := Nat.exists_eq_add_one.mpr (Nat.zero_lt_of_lt enough)
      have remaining : rest.length < fuel := Nat.lt_of_succ_lt_succ enough
      simp only [run, resume, placed]
      rw [ih next _ _ fuel remaining]
      rfl

theorem tick_unbound (ttl : Nat) (entries : List Entry) (state : σ) :
    tick perform ttl entries {} state =
      match perform (.grant ttl) state with
      | (.lease id, state) => settled id (placeAll perform id entries none state)
      | (reply, state) => ((refusal? reply).map .grant, {}, state) := by
  simp only [tick, begin, callBound, run]
  cases perform (.grant ttl) state with
  | mk reply after =>
      cases reply with
      | lease id =>
          cases entries with
          | nil => rfl
          | cons entry rest => exact run_placing perform _ rest entry id none after _ (Nat.lt_succ_self _)
      | _ => cases entries <;> rfl

theorem tick_bound (ttl : Nat) (entries : List Entry) (id : LeaseId) (state : σ) :
    tick perform ttl entries { belief := .bound id } state =
      match refusal? (perform (.keepAlive id) state).1 with
      | none => (none, { belief := .bound id }, (perform (.keepAlive id) state).2)
      | some error => (some (.leaseExpired id error), {}, (perform (.keepAlive id) state).2) := by
  simp only [tick, begin, Belief.beginRenewal, callBound, run, resume]
  cases refusal? (perform (.keepAlive id) state).1 with
  | none => cases entries <;> rfl
  | some error => cases entries <;> rfl

end

end ServiceHost.Registration.Keeper
