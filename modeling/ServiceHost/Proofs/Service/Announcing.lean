import ServiceHost.Proofs.Address.Advertised
import ServiceHost.Proofs.Address.Authority
import ServiceHost.Proofs.Discovery.Picking
import ServiceHost.Proofs.Discovery.Traffic
import ServiceHost.Proofs.Endpoint
import ServiceHost.Proofs.Settings.Finalize
import ServiceHost.Registration.Keeper

set_option autoImplicit false

namespace ServiceHost

namespace Channel

def IsCallable (channel : Channel) : Prop :=
  ∀ key endpoint, channel.targets.get? key = some endpoint → Address.IsCallable endpoint.address

theorem route_callable (channel : Channel) (callable : channel.IsCallable) (isOpen : channel.closed = false)
    (filled : channel.targets.entries ≠ []) :
    ∃ address ∈ channel.endpoints, channel.route.1 = .ok address ∧ Address.IsCallable address := by
  obtain ⟨target, member, after, picked⟩ := channel.pick_some isOpen filled
  obtain ⟨endpoint, held, same⟩ := channel.snapshot_origin target member
  have fits : Address.IsCallable target.address := same ▸ callable target.key endpoint held
  refine ⟨target.address, channel.snapshot_address target member, ?_, fits⟩
  simp only [route, picked, fits.authority, if_true]

end Channel

namespace Follower

def Publishes (address : String) (change : Change) : Prop :=
  ∃ root service identity descriptors, ∃ entry ∈ Registration.entries root service address identity descriptors,
    change = .put entry.key entry.value

theorem published_read (address : String) (change : Change) (publishes : Publishes address change) :
    ∃ key value metadata, change = .put key value ∧ Endpoint.decode? value = some { address, metadata } := by
  obtain ⟨root, service, identity, descriptors, entry, inside, put⟩ := publishes
  obtain ⟨descriptor, _, made⟩ := List.mem_map.mp inside
  have value : entry.value = Endpoint.encode { address, metadata := descriptor.metadata } := by rw [← made]
  exact ⟨entry.key, entry.value, descriptor.metadata, put, by rw [value, Endpoint.decode_encode]⟩

theorem apply_callable (address : String) (callable : Address.IsCallable address) (channel : Channel) (change : Change)
    (before : channel.IsCallable) (told : Publishes address change ∨ ∃ key, change = .delete key) :
    (apply channel change).IsCallable := by
  intro query endpoint held
  rcases told with publishes | ⟨key, rfl⟩
  · obtain ⟨key, value, metadata, rfl, read⟩ := published_read address change publishes
    simp only [apply, read, Channel.upsert, Table.lookup_insert] at held
    split at held
    next =>
      cases held
      exact callable
    next => exact before query endpoint held
  · rw [apply, Channel.remove, Table.lookup_erase] at held
    split at held
    next => cases held
    next => exact before query endpoint held

-- The channel stays open, and each of its targets can be called after every change if the registered address can be.
theorem follow_callable (address : String) (callable : Address.IsCallable address) (channel : Channel) (changes : List Change)
    (before : channel.IsCallable) (told : ∀ change ∈ changes, Publishes address change ∨ ∃ key, change = .delete key) :
    (changes.foldl apply channel).IsCallable ∧ (changes.foldl apply channel).closed = channel.closed := by
  induction changes generalizing channel with
  | nil => exact ⟨before, rfl⟩
  | cons change rest ih =>
      obtain ⟨first, others⟩ := List.forall_mem_cons.mp told
      obtain ⟨after, closed⟩ := ih (apply channel change) (apply_callable address callable channel change before first) others
      exact ⟨after, closed.trans (apply_closed channel change)⟩

end Follower

namespace Service

open Address (IsCallable announce? dialable?)

def told? (env : Settings.Environment) (settings : Settings) : Option String := (settings.override env).http.advertised

theorem finalized_advertises (own : Address.Ip) (nanos : Nat) (env : Settings.Environment) (settings final : Settings)
    (finalized : settings.finalize own nanos env = .ok final) :
    final.http.advertised = told? env settings ∨
      told? env settings = none ∧ ∃ socket : Address.Socket, final.http.advertised = some socket.text := by
  have same : (Settings.complete nanos (settings.override env)).http.advertised = told? env settings := rfl
  simp only [Settings.finalize] at finalized
  split at finalized
  next =>
    simp only [Settings.deriveAdvertised, same] at finalized
    split at finalized
    next given told =>
      cases finalized
      exact .inl same
    next silent =>
      split at finalized
      next address derived =>
        cases finalized
        obtain ⟨socket, _, shown⟩ := Option.map_eq_some_iff.mp derived
        exact .inr ⟨silent, _, congrArg some shown.symm⟩
      next => cases finalized
  next => cases finalized

theorem announced_callable (configured address : String) (socket bound : Address.Socket)
    (parsed : Address.Socket.parse? configured = some socket) (set : bound.port ≠ 0)
    (announced : announce? (some configured) bound = some address) : IsCallable address := by
  rw [Address.announce_parsed configured bound socket parsed, Option.some.injEq] at announced
  subst announced
  split
  next =>
    refine Address.socket_callable _ _ (Address.parse_text _) ?_
    rw [Address.Socket.of_ip_port]
    exact set
  next given => exact Address.socket_callable configured socket parsed given

-- An announced address can be called unless it was told and is no socket address. Then it is announced as it was told, and
-- has a colon somewhere. A channel with targets that can be called is never at a loss for one of them, however often the
-- service registers with such an address.
theorem announced_addresses_callable_unless_names (own : Address.Ip) (nanos : Nat) (env : Settings.Environment)
    (settings final : Settings) (bound : Address.Socket) (address : String)
    (finalized : settings.finalize own nanos env = .ok final) (set : bound.port ≠ 0)
    (announced : announce? final.http.advertised bound = some address) :
    ((∀ given, told? env settings = some given → (Address.Socket.parse? given).isSome) → IsCallable address) ∧
      (∀ given, told? env settings = some given → Address.Socket.parse? given = none →
        address = given ∧ ':' ∈ given.toList) ∧
      (IsCallable address → dialable? address = some address ∧
        ∀ (channel : Channel) (changes : List Change), channel.IsCallable → channel.closed = false →
          (∀ change ∈ changes, Follower.Publishes address change ∨ ∃ key, change = .delete key) →
          (changes.foldl Follower.apply channel).targets.entries ≠ [] →
            ∃ called ∈ (changes.foldl Follower.apply channel).endpoints,
              (changes.foldl Follower.apply channel).route.1 = .ok called ∧ IsCallable called) := by
  refine ⟨fun sockets => ?_, fun given told unparsed => ?_, fun callable => ⟨Address.callable_dialable address callable, ?_⟩⟩
  · rcases finalized_advertises own nanos env settings final finalized with same | ⟨_, socket, derived⟩
    · cases told : told? env settings with
      | some given =>
          obtain ⟨socket, parsed⟩ := Option.isSome_iff_exists.mp (sockets given told)
          rw [same, told] at announced
          exact announced_callable given address socket bound parsed set announced
      | none =>
          rw [same, told] at announced
          exact announced_callable bound.text address bound bound (Address.parse_text bound) set announced
    · rw [derived] at announced
      exact announced_callable socket.text address socket bound (Address.parse_text socket) set announced
  · rcases finalized_advertises own nanos env settings final finalized with same | ⟨silent, _⟩
    · rw [same, told] at announced
      exact Address.announce_unread given address bound unparsed announced
    · cases silent.symm.trans told
  · intro channel changes before isOpen told filled
    obtain ⟨after, closed⟩ := Follower.follow_callable address callable channel changes before told
    exact Channel.route_callable _ after (closed.trans isOpen) filled

def outspoken (address : String) : Settings where
  service := { name := "calc", version := "v1", build := "b1" }
  http := { address := "127.0.0.1:0", advertised := some address }

def entryAt (address : String) : Registration.Entry where
  key := "servicekit/register/calc/Adder/box-pid-1"
  value := Endpoint.encode { address }

def channelTo (address : String) : Channel :=
  [Change.put (entryAt address).key (entryAt address).value].foldl Follower.apply { name := "calc/Adder" }

theorem entry_publishes (address : String) : Follower.Publishes address (.put (entryAt address).key (entryAt address).value) :=
  ⟨"servicekit/register", "calc", "box-pid-1", [{ name := "Adder" }], entryAt address, List.mem_singleton.mpr rfl, rfl⟩

-- The bound port is filled in, and the calls go to the address with that port.
theorem announced_addresses_callable_with_bound_port :
    (outspoken "10.0.0.7:0").finalize (.v4 .loopback) 7 (fun _ => none) = .ok (outspoken "10.0.0.7:0") ∧
      announce? (some "10.0.0.7:0") (.v4 .loopback 40123) = some "10.0.0.7:40123" ∧ IsCallable "10.0.0.7:40123" ∧
      dialable? "10.0.0.7:40123" = some "10.0.0.7:40123" ∧ (channelTo "10.0.0.7:40123").route.1 = .ok "10.0.0.7:40123" := by
  have finalized : (outspoken "10.0.0.7:0").finalize (.v4 .loopback) 7 (fun _ => none) = .ok (outspoken "10.0.0.7:0") := by
    decide +kernel
  have announced : announce? (outspoken "10.0.0.7:0").http.advertised (.v4 .loopback 40123) = some "10.0.0.7:40123" := by
    decide +kernel
  have parsed : (Address.Socket.parse? "10.0.0.7:0").isSome = true := by decide +kernel
  obtain ⟨callable, _, called⟩ := announced_addresses_callable_unless_names (.v4 .loopback) 7 (fun _ => none)
    (outspoken "10.0.0.7:0") _ (.v4 .loopback 40123) "10.0.0.7:40123" finalized (by decide) announced
  have fits : IsCallable "10.0.0.7:40123" := callable fun given told => by
    cases told
    exact parsed
  obtain ⟨dialed, calls⟩ := called fits
  obtain ⟨address, inside, routed, _⟩ := calls { name := "calc/Adder" }
    [.put (entryAt "10.0.0.7:40123").key (entryAt "10.0.0.7:40123").value] (fun _ _ held => (nomatch held)) rfl
    (fun change inside => .inl (List.mem_singleton.mp inside ▸ entry_publishes _)) (by decide +kernel)
  have only : (channelTo "10.0.0.7:40123").endpoints = ["10.0.0.7:40123"] := by decide +kernel
  have same : address = "10.0.0.7:40123" := List.mem_singleton.mp (only ▸ inside)
  rw [same] at routed
  exact ⟨finalized, announced, fits, dialed, routed⟩

-- A URL is announced although no call goes to one, and so is a name with the port zero, which is not filled in.
theorem names_announced_unread :
    (outspoken "http://calc.internal:7000").finalize (.v4 .loopback) 7 (fun _ => none) =
        .ok (outspoken "http://calc.internal:7000") ∧
      announce? (outspoken "http://calc.internal:7000").http.advertised (.v4 .loopback 40123) =
        some "http://calc.internal:7000" ∧
      dialable? "http://calc.internal:7000" = some "calc.internal:7000" ∧
      (channelTo "http://calc.internal:7000").route.1 = .error (.invalidEndpoint "http://calc.internal:7000") ∧
      (outspoken "calc.internal:0").finalize (.v4 .loopback) 7 (fun _ => none) = .ok (outspoken "calc.internal:0") ∧
      announce? (outspoken "calc.internal:0").http.advertised (.v4 .loopback 40123) = some "calc.internal:0" ∧
      Address.Authority.port? "calc.internal:0".toList = some 0 := by
  decide +kernel

end Service

end ServiceHost
