import ServiceHost.Proofs.Service.Starting
import ServiceHost.Proofs.Settings.Rules

set_option autoImplicit false

namespace ServiceHost

namespace Settings

def withMaxConnections (settings : Settings) (limit : Nat) : Settings :=
  { settings with http := { settings.http with maxConnections := limit } }

-- Of the number of connections the rules say only that it is not zero.
theorem limit_ruled (settings : Settings) (limit : Nat) (accepted : violations settings = []) :
    violations (settings.withMaxConnections limit) = [] ↔ 0 < limit := by
  obtain ⟨named, bindable, announced, rooted, positive, renewable⟩ := (sound_iff settings).mp accepted
  rw [sound_iff]
  constructor
  · intro sound
    exact Nat.pos_of_ne_zero (sound.positive ("http.max_connections", (·.http.maxConnections)) (by simp [amounts]))
  · intro given
    refine ⟨named, bindable, announced, rooted, fun amount listed => ?_, renewable⟩
    have before := positive amount listed
    simp only [amounts, List.mem_cons, List.not_mem_nil, or_false] at listed
    rcases listed with rfl | rfl | rfl | rfl | rfl | rfl | rfl
    all_goals first | exact before | exact Nat.ne_of_gt given

theorem limit_positive (settings : Settings) (accepted : violations settings = []) : 0 < settings.http.maxConnections :=
  (limit_ruled settings settings.http.maxConnections accepted).mp accepted

end Settings

namespace Service

theorem enrol_runs (identity : String) (bound : Address.Socket) (service : Service) (effects : Effects) :
    (service.enrol identity bound effects).1 ≠ .panicked := by
  unfold enrol
  split
  · exact nofun
  · dsimp only
    split <;> exact nofun

theorem start_panics_iff (surroundings : Surroundings) (circumstances : Circumstances) (service : Service) :
    (service.start surroundings circumstances).1 = .panicked ↔
      (circumstances.inheritance.listen circumstances.host service.settings.http.address).1.isOk = true ∧
        circumstances.refusal = none ∧
        (Listener.maxPermits < service.settings.http.maxConnections ∨ service.webApp? surroundings false = none) := by
  unfold start
  cases listened : circumstances.inheritance.listen circumstances.host service.settings.http.address with
  | mk result inheritance =>
      cases result with
      | error error => simp [Except.isOk, Except.toBool]
      | ok found =>
          obtain ⟨bound, inherited⟩ := found
          cases refused : circumstances.refusal with
          | some cause => simp
          | none =>
              by_cases fits : service.settings.http.maxConnections ≤ Listener.maxPermits
              · cases app : service.webApp? surroundings false with
                | none => simp [Listener.ofSocket?, Except.isOk, Except.toBool]
                | some _ => simp [Listener.ofSocket?, fits, enrol_runs]
              · simp [Listener.ofSocket?, fits, Nat.lt_of_not_le fits, Except.isOk, Except.toBool]

theorem wrapped (address : Address.Socket) (limit : Nat) (positive : 0 < limit) :
    match Listener.ofSocket? address limit with
    | some listener => limit ≤ Listener.maxPermits ∧ listener.address = address ∧ listener.available = limit ∧ 0 < limit
    | none => Listener.maxPermits < limit := by
  unfold Listener.ofSocket?
  by_cases fits : limit ≤ Listener.maxPermits
  · rw [if_pos fits]
    exact ⟨fits, rfl, rfl, positive⟩
  · rw [if_neg fits]
    exact Nat.lt_of_not_le fits

theorem accepted_start_panics_beyond_permits (service : Service) (accepted : Settings.violations service.settings = []) :
    (∀ address, match Listener.ofSocket? address service.settings.http.maxConnections with
      | some listener => service.settings.http.maxConnections ≤ Listener.maxPermits ∧ listener.address = address ∧
          listener.available = service.settings.http.maxConnections ∧ 0 < service.settings.http.maxConnections
      | none => Listener.maxPermits < service.settings.http.maxConnections) ∧
    (∀ (surroundings : Surroundings) (circumstances : Circumstances),
      (service.start surroundings circumstances).1 = .panicked ↔
        (circumstances.inheritance.listen circumstances.host service.settings.http.address).1.isOk = true ∧
          circumstances.refusal = none ∧
          (Listener.maxPermits < service.settings.http.maxConnections ∨ service.webApp? surroundings false = none)) ∧
    ∀ limit, Settings.violations (service.settings.withMaxConnections limit) = [] ↔ 0 < limit :=
  ⟨fun address => wrapped address _ (Settings.limit_positive service.settings accepted),
    fun surroundings circumstances => start_panics_iff surroundings circumstances service,
    fun limit => Settings.limit_ruled service.settings limit accepted⟩

def crowded (limit : Nat) : Service where
  settings := { service := { name := "calc" }, http := { address := "127.0.0.1:0", maxConnections := limit } }

theorem accepted_start_panics_beyond_permits_at_most :
    Settings.violations (crowded Listener.maxPermits).settings = [] ∧
      Listener.ofSocket? (.v4 .loopback 7000) Listener.maxPermits =
        some { address := .v4 .loopback 7000, limit := Listener.maxPermits } ∧
      ((crowded Listener.maxPermits).start own { identity := "host-pid-1" }).1 ≠ .panicked := by
  have accepted : Settings.violations (crowded Listener.maxPermits).settings = [] := by decide +kernel
  obtain ⟨wraps, panics, -⟩ := accepted_start_panics_beyond_permits (crowded Listener.maxPermits) accepted
  refine ⟨accepted, by decide, fun panicked => ?_⟩
  rcases ((panics own { identity := "host-pid-1" }).mp panicked).2.2 with beyond | unrouted
  · exact absurd beyond (by decide)
  · have routed : ((crowded Listener.maxPermits).webApp? own false).isSome = true := by decide +kernel
    rw [unrouted] at routed
    cases routed

theorem accepted_limit_panics :
    Settings.violations (crowded 0x2000000000000000).settings = [] ∧ 0x2000000000000000 < 0x10000000000000000 ∧
      Listener.ofSocket? (.v4 .loopback 7000) 0x2000000000000000 = none ∧
      (crowded 0x2000000000000000).start own { identity := "host-pid-1" } = (.panicked, {}) := by
  decide +kernel

end Service

end ServiceHost
