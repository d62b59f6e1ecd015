import ServiceHost.Proofs.Address.Socket
import ServiceHost.Proofs.Settings.Rules
import ServiceHost.Settings.Finalize

set_option autoImplicit false

namespace ServiceHost.Settings

structure IsComplete (settings : Settings) : Prop where
  name : settings.service.name ≠ ""
  version : settings.service.version ≠ ""
  build : settings.service.build ≠ ""

-- The settings agree with the variables that win over what is written down.
structure Obeys (env : Environment) (settings : Settings) : Prop where
  advertised : ∀ address, env.nonEmpty "SERVICEKIT_ADVERTISED_ADDR" = some address →
    settings.http.advertised = some address
  endpoints : ∀ list, env.nonEmpty "SERVICEKIT_ETCD" = some list → settings.store.endpoints = splitList list
  username : ∀ user, env.nonEmpty "SERVICEKIT_ETCD_USER" = some user → settings.store.username = some user
  password : ∀ word, env.nonEmpty "SERVICEKIT_ETCD_PASSWORD" = some word → settings.store.password = some word

structure IsFinal (env : Environment) (settings : Settings) : Prop where
  complete : IsComplete settings
  obeys : Obeys env settings
  kept : violations settings = []
  advertised : ∃ address, settings.http.advertised = some address ∧ address ≠ ""

def withAdvertised (settings : Settings) (address : String) : Settings :=
  { settings with http := { settings.http with advertised := some address } }

theorem override_obeys (env : Environment) (settings : Settings) : Obeys env (override env settings) where
  advertised address set := by simp [override, set]
  endpoints list set := by simp [override, set]
  username user set := by simp [override, set]
  password word set := by simp [override, set]

theorem or_obeyed {α : Type} (given current : Option α) (obeyed : ∀ value, given = some value → current = some value) :
    given.or current = current := by
  cases given with
  | none => rfl
  | some value => exact (obeyed value rfl).symm

theorem override_unchanged (env : Environment) (settings : Settings) (complete : IsComplete settings)
    (obeys : Obeys env settings) : override env settings = settings := by
  have endpoints : ((env.nonEmpty "SERVICEKIT_ETCD").map splitList).getD settings.store.endpoints = settings.store.endpoints := by
    cases set : env.nonEmpty "SERVICEKIT_ETCD" with
    | none => rfl
    | some list => exact (obeys.endpoints list set).symm
  simp only [override, if_neg complete.name, if_neg complete.version, endpoints, or_obeyed _ _ obeys.advertised,
    or_obeyed _ _ obeys.username, or_obeyed _ _ obeys.password]

theorem complete_fills (nanos : Nat) (settings : Settings) : IsComplete (complete nanos settings) := by
  refine ⟨?_, ?_, ?_⟩
  · simp only [complete]
    split
    · decide
    next set => exact set
  · simp only [complete]
    split
    · decide
    next set => exact set
  · simp only [complete]
    split
    · simp [generatedBuild]
    next set => exact set

theorem complete_unchanged (nanos : Nat) (settings : Settings) (filled : IsComplete settings) :
    complete nanos settings = settings := by
  simp only [complete, if_neg filled.name, if_neg filled.version, if_neg filled.build]

theorem derived_nonempty (own : Address.Ip) (listen address : String) (derived : Address.advertise? own listen = some address) :
    address ≠ "" := by
  obtain ⟨socket, _, rfl⟩ := Option.map_eq_some_iff.mp derived
  intro empty
  have colon := Address.text_colon (Address.Socket.ofIp (if socket.ip.isUnspecified then own else socket.ip) socket.port)
  rw [empty] at colon
  cases colon

theorem derive_advertises (own : Address.Ip) (settings : Settings) (kept : violations settings = []) :
    ∃ address, address ≠ "" ∧ (∀ set, settings.http.advertised = some set → set = address) ∧
      deriveAdvertised own settings = .ok (settings.withAdvertised address) := by
  have sound := (sound_iff settings).mp kept
  cases advertised : settings.http.advertised with
  | some set =>
      have same : settings.withAdvertised set = settings := by rw [withAdvertised, ← advertised]
      refine ⟨set, fun blank => sound.announced (blank ▸ advertised), fun _ => Option.some.inj ∘ Eq.symm, ?_⟩
      rw [deriveAdvertised, advertised, same]
  | none =>
      obtain ⟨socket, read⟩ := sound.bindable
      have derived : Address.advertise? own settings.http.address =
          some (Address.Socket.ofIp (if socket.ip.isUnspecified then own else socket.ip) socket.port).text := by
        rw [Address.advertise?, read, Option.map_some]
      refine ⟨_, derived_nonempty own settings.http.address _ derived, fun _ set => (nomatch set), ?_⟩
      rw [deriveAdvertised, advertised, derived, withAdvertised]

theorem advertised_kept (settings : Settings) (address : String) (shown : address ≠ "") (kept : violations settings = []) :
    violations (settings.withAdvertised address) = [] := by
  have sound := (sound_iff settings).mp kept
  have positive : ∀ amount ∈ amounts, amount.2 (settings.withAdvertised address) ≠ 0 := by
    simpa [amounts, withAdvertised] using sound.positive
  exact (sound_iff _).mpr { sound with announced := fun blank => shown (Option.some.inj blank), positive }

theorem finalize_ends (own : Address.Ip) (nanos : Nat) (env : Environment) (settings : Settings) :
    (finalize own nanos env settings = .error (.validation (violations (complete nanos (override env settings)))) ∧
        violations (complete nanos (override env settings)) ≠ []) ∨
      ∃ final, finalize own nanos env settings = .ok final ∧ IsFinal env final := by
  have filled := complete_fills nanos (override env settings)
  have obeys := override_obeys env settings
  cases kept : violations (complete nanos (override env settings)) with
  | cons violation rest => exact .inl ⟨by simp only [finalize, kept], List.cons_ne_nil _ _⟩
  | nil =>
      obtain ⟨address, shown, only, derived⟩ := derive_advertises own _ kept
      refine .inr ⟨(complete nanos (override env settings)).withAdvertised address, ?_,
        ⟨filled.name, filled.version, filled.build⟩, ?_, advertised_kept _ address shown kept, address, rfl, shown⟩
      · simp only [finalize, kept, derived]
      · exact { obeys with advertised := fun given set => congrArg some (only given (obeys.advertised given set)).symm }

theorem final_unchanged (own : Address.Ip) (nanos : Nat) (env : Environment) (settings : Settings)
    (final : IsFinal env settings) : finalize own nanos env settings = .ok settings := by
  obtain ⟨address, advertised, _⟩ := final.advertised
  simp only [finalize, override_unchanged env settings final.complete final.obeys,
    complete_unchanged nanos settings final.complete, final.kept, deriveAdvertised, advertised]

theorem finalized_settings_stay (own : Address.Ip) (nanos : Nat) (env : Environment) (settings : Settings) :
    (∀ text, finalize own nanos env settings ≠ .error (.invalid text)) ∧
      ∀ final, finalize own nanos env settings = .ok final →
        violations final = [] ∧ IsComplete final ∧ (∃ address, final.http.advertised = some address ∧ address ≠ "") ∧
          ∀ other later, finalize other later env final = .ok final := by
  obtain ⟨refused, _⟩ | ⟨final, finalized, isFinal⟩ := finalize_ends own nanos env settings
  · rw [refused]
    exact ⟨fun _ same => (nomatch same), fun _ same => (nomatch same)⟩
  · rw [finalized]
    refine ⟨fun _ same => (nomatch same), ?_⟩
    rintro _ ⟨⟩
    exact ⟨isFinal.kept, isFinal.complete, isFinal.advertised, fun other later => final_unchanged other later env final isFinal⟩

def surrounding : Environment := fun name =>
  if name = "SERVICEKIT_NAME" then some "billing"
  else if name = "SERVICEKIT_ETCD" then some " http://a:2379,, http://b:2379"
  else none

def billing : Settings where
  service := { name := "billing", version := "v0.0.1", build := "dev-7" }
  http := { advertised := some "10.0.0.7:5001" }
  store := { endpoints := ["http://a:2379", "http://b:2379"] }

theorem finalized_settings_stay_elsewhere :
    finalize (.v4 ⟨10, 0, 0, 7⟩) 7 surrounding {} = .ok billing ∧ violations billing = [] ∧
      finalize (.v4 .loopback) 9 surrounding billing = .ok billing := by
  have finalized : finalize (.v4 ⟨10, 0, 0, 7⟩) 7 surrounding {} = .ok billing := by decide +kernel
  obtain ⟨kept, _, _, stays⟩ := (finalized_settings_stay _ 7 surrounding {}).2 billing finalized
  exact ⟨finalized, kept, stays (.v4 .loopback) 9⟩

end ServiceHost.Settings
