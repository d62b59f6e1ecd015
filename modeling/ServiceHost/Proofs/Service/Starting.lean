import ServiceHost.Service.Start
import ServiceHost.Proofs.Address.Socket

set_option autoImplicit false

namespace ServiceHost.Service

def Effects.IsUndone (effects : Effects) : Prop :=
  effects.told = false ∧ effects.serving = false ∧ effects.watching = false ∧ effects.registered = none

def isRegistering (service : Service) : Bool := !service.rpc.registered.isEmpty && service.store.isSome

def isUnannounceable (service : Service) : Bool :=
  service.isRegistering && service.settings.http.advertised.any fun configured => ':' ∉ configured.toList

def launched (circumstances : Circumstances) (listener : Listener) : Effects where
  listener := some listener
  serving := true
  told := circumstances.inheritance.told || circumstances.inheritance.parent.isSome
  watching := circumstances.signals

inductive Ends (circumstances : Circumstances) (service : Service) : Outcome × Effects → Prop where
  | refused (cause : String) : Ends circumstances service (.failed (.bind cause), {})
  | panicked : Ends circumstances service (.panicked, {})
  | unannounced (listener : Listener) (configured : String) : service.isUnannounceable = true →
      service.settings.http.advertised = some configured →
      Ends circumstances service (.failed (announceFailure configured), launched circumstances listener)
  | unregistered (listener : Listener) : service.isRegistering = false →
      Ends circumstances service (.started, launched circumstances listener)
  | registered (listener : Listener) (entries : List Registration.Entry) : service.isRegistering = true →
      service.isUnannounceable = false →
      Ends circumstances service (.started, { launched circumstances listener with registered := some entries })

theorem unannounceable_iff (service : Service) (bound : Address.Socket) (registering : service.isRegistering = true) :
    service.isUnannounceable = true ↔ Address.announce? service.settings.http.advertised bound = none := by
  rw [Address.announce_none, isUnannounceable, registering, Bool.true_and, Option.any_eq_true]
  simp

theorem enrol_ends (circumstances : Circumstances) (service : Service) (bound : Address.Socket) (listener : Listener) :
    Ends circumstances service (service.enrol circumstances.identity bound (launched circumstances listener)) := by
  have registering : (service.rpc.registered.isEmpty || service.store.isNone) = !service.isRegistering := by
    rw [isRegistering, Bool.not_and, Bool.not_not, Option.not_isSome]
  simp only [enrol, registering]
  cases registers : service.isRegistering with
  | false => exact .unregistered listener registers
  | true =>
      have decided := unannounceable_iff service bound registers
      simp only [Bool.not_true, Bool.false_eq_true, if_false]
      split
      next silent =>
        obtain ⟨configured, set, _⟩ := (Address.announce_none _ bound).mp silent
        rw [set]
        exact .unannounced listener configured (decided.mpr silent) set
      next address announced =>
        refine .registered listener _ registers (Bool.eq_false_iff.mpr fun unannounceable => ?_)
        rw [decided.mp unannounceable] at announced
        cases announced

theorem listen_parent (inheritance after : Upgrade.Inheritance) (host : Host) (address : String)
    (result : Except ListenerError (Address.Socket × Bool)) (listened : inheritance.listen host address = (result, after)) :
    after.told = inheritance.told ∧ after.parent = inheritance.parent := by
  unfold Upgrade.Inheritance.listen at listened
  split at listened <;> cases listened <;> exact ⟨rfl, rfl⟩

theorem start_ends (surroundings : Surroundings) (circumstances : Circumstances) (service : Service) :
    Ends circumstances service (service.start surroundings circumstances) := by
  unfold start
  split
  next result inheritance listened =>
    obtain ⟨told, parent⟩ := listen_parent _ _ _ _ _ listened
    split
    next error => exact .refused error.cause
    next bound inherited =>
      split
      next cause _ => exact .refused cause
      next =>
        split
        next listener _ _ _ =>
          have ends := enrol_ends circumstances service bound listener
          rw [launched, ← told, ← parent] at ends
          exact ends
        next => exact .panicked

variable {circumstances : Circumstances} {service : Service} {ended : Outcome × Effects}

theorem Ends.failed (ends : Ends circumstances service ended) (failure : Failure) (fails : ended.1 = .failed failure) :
    (ended.2 = {} ∧ ∃ cause, failure = .bind cause) ∨
      service.isUnannounceable = true ∧
        (∃ configured, service.settings.http.advertised = some configured ∧ failure = announceFailure configured) ∧
        ∃ listener, ended.2 = launched circumstances listener := by
  cases ends with
  | refused cause =>
      cases fails
      exact .inl ⟨rfl, cause, rfl⟩
  | unannounced listener configured unannounceable set =>
      cases fails
      exact .inr ⟨unannounceable, ⟨configured, set, rfl⟩, listener, rfl⟩
  | panicked => cases fails
  | unregistered => cases fails
  | registered => cases fails

theorem Ends.started (ends : Ends circumstances service ended) (starts : ended.1 = .started) :
    service.isUnannounceable = false ∧ ∃ listener registered,
      ended.2 = { launched circumstances listener with registered } ∧ registered.isSome = service.isRegistering := by
  cases ends with
  | unregistered listener unregistering =>
      exact ⟨by rw [isUnannounceable, unregistering, Bool.false_and], listener, none, rfl, unregistering.symm⟩
  | registered listener entries registering announceable =>
      exact ⟨announceable, listener, some entries, rfl, registering.symm⟩
  | refused => cases starts
  | panicked => cases starts
  | unannounced => cases starts

theorem left_nothing (shared : Bool) : (Effects.left shared {}).IsUndone := ⟨rfl, rfl, rfl, rfl⟩

-- The order of the effects: whatever can fail comes before the first of them, but for the address to announce.
theorem start_fails_cleanly_unless_unannounceable (surroundings : Surroundings) (circumstances : Circumstances)
    (service : Service) :
    let start := service.start surroundings circumstances
    let left := start.2.left circumstances.shared
    let parent := circumstances.inheritance.told || circumstances.inheritance.parent.isSome
    (∀ failure, start.1 = .failed failure →
      (left.IsUndone ∧ ∃ cause, failure = .bind cause) ∨
        service.isUnannounceable = true ∧
          (∃ configured, service.settings.http.advertised = some configured ∧ failure = announceFailure configured) ∧
          left.told = parent ∧ left.watching = circumstances.signals ∧ left.serving = circumstances.shared ∧
          left.registered = none) ∧
    (service.isUnannounceable = false → ∀ failure, start.1 = .failed failure → left.IsUndone) ∧
    (service.isUnannounceable = true → start.1 ≠ .started) ∧
    (start.1 = .started → start.2.serving = true ∧ start.2.told = parent ∧ start.2.watching = circumstances.signals ∧
      start.2.registered.isSome = service.isRegistering) := by
  intro start left parent
  have ends : Ends circumstances service start := start_ends surroundings circumstances service
  refine ⟨fun failure fails => ?_, fun announceable failure fails => ?_, fun unannounceable starts => ?_,
    fun starts => ?_⟩
  · obtain ⟨nothing, bind⟩ | ⟨unannounceable, announces, listener, effects⟩ := ends.failed failure fails
    · simp only [left, nothing]
      exact .inl ⟨left_nothing _, bind⟩
    · simp only [left, effects]
      exact .inr ⟨unannounceable, announces, rfl, rfl, Bool.true_and _, rfl⟩
  · obtain ⟨nothing, _⟩ | ⟨unannounceable, _⟩ := ends.failed failure fails
    · simp only [left, nothing]
      exact left_nothing _
    · rw [announceable] at unannounceable
      cases unannounceable
  · rw [(ends.started starts).1] at unannounceable
    cases unannounceable
  · obtain ⟨_, listener, registered, effects, registers⟩ := ends.started starts
    rw [effects]
    exact ⟨rfl, rfl, rfl, registers⟩

-- A replacement that has been given an address without a port, and that has a service to register.
def own : Surroundings := { own := .v4 .loopback, nanos := 0 }

def replacing : Circumstances where
  host := { inherited := fun descriptor => if descriptor = 3 then some (.v4 .loopback 7000) else none }
  inheritance := { listener := some 3, parent := some 4, hasParent := true }
  identity := "host-pid-1"

def misaddressed : Settings := { http := { address := "127.0.0.1:7000", advertised := some "nonsense" } }

def misaddressedFinal : Settings :=
  { misaddressed with service := { name := "servicekit-default", version := "v0.0.1", build := "dev-0" } }

def adder : Rpc.Service := { descriptor := { name := "adder" }, handler := Rpc.Services.unimplemented }

def misplaced : Service := { settings := misaddressedFinal, store := some {}, rpc := { registered := [adder] } }

theorem misplaced_ends : misplaced.start own replacing =
    (.failed (announceFailure "nonsense"), launched replacing { address := .v4 .loopback 7000, limit := 10000 }) := by
  decide +kernel

def placed : Service := { misplaced with settings := { misaddressedFinal with http := { address := "127.0.0.1:7000" } } }

def deserted : Circumstances where
  host := { binds := fun _ => false }
  identity := "host-pid-1"

theorem start_fails_cleanly_unless_unannounceable_in_turn :
    ((misplaced.start own replacing).1 ≠ .started ∧ ((misplaced.start own replacing).2.left false).told = true) ∧
      ((placed.start own deserted).2.left false).IsUndone ∧
      (placed.start own replacing).2.told = true ∧ (placed.start own replacing).2.registered.isSome = true := by
  obtain ⟨fails, -, never, -⟩ := start_fails_cleanly_unless_unannounceable own replacing misplaced
  obtain ⟨-, cleanly, -, -⟩ := start_fails_cleanly_unless_unannounceable own deserted placed
  obtain ⟨-, -, -, starts⟩ := start_fails_cleanly_unless_unannounceable own replacing placed
  have announceable : placed.isUnannounceable = false := by decide
  refine ⟨⟨never (by decide), ?_⟩, ?_, ?_⟩
  · rcases fails (announceFailure "nonsense") (by rw [misplaced_ends]) with ⟨-, cause, bind⟩ | ⟨-, -, told, -⟩
    · cases bind
    · exact told
  · have refused : (placed.start own deserted).1 = .failed (.bind Host.notBound) := by decide +kernel
    exact cleanly announceable _ refused
  · obtain ⟨-, told, -, registered⟩ := starts (by decide +kernel)
    exact ⟨told, registered⟩

-- The parent has been told before anybody looks at the address.
theorem replacement_fails_after_telling :
    ¬∀ (surroundings : Surroundings) (circumstances : Circumstances) (settings : Settings) (store : Option Store)
      (services : List Rpc.Service) (answers : List (Option ConfigError)) (rpc : Rpc.Services) (service : Service),
      configure surroundings settings store = .ok service →
      Rpc.Services.registerAll {} services = some (answers, rpc) →
      ∀ failure, ({ service with rpc }.start surroundings circumstances).1 = .failed failure →
        (({ service with rpc }.start surroundings circumstances).2.left circumstances.shared).IsUndone := by
  intro undone
  have finalized : misaddressed.finalize own.own own.nanos own.environment = .ok misaddressedFinal := by decide +kernel
  have configured : configure own misaddressed (some {}) = .ok { settings := misaddressedFinal, store := some {} } := by
    rw [configure, finalized]
    rfl
  have faultless : adder.descriptor.fault? = none := by decide +kernel
  have routed : adder.routes?.isNone = false := by decide +kernel
  have registered : Rpc.Services.registerAll {} [adder] = some ([none], { registered := [adder] }) := by
    simp [Rpc.Services.registerAll, Rpc.Services.register, Rpc.Services.names, faultless, routed]
  have left := undone own replacing misaddressed (some {}) [adder] [none] _ _ configured registered
    (announceFailure "nonsense") (congrArg Prod.fst misplaced_ends)
  have told : (misplaced.start own replacing).2.told = false := left.1
  rw [misplaced_ends] at told
  cases told

end ServiceHost.Service
