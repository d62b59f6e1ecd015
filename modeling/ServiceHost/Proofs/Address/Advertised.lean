import ServiceHost.Address.Advertised
import ServiceHost.Proofs.Address.Printed

set_option autoImplicit false

namespace ServiceHost.Address

namespace Socket

def scope : Socket → UInt32
  | .v4 _ _ => 0
  | .v6 _ scope _ => scope

def withPort (port : UInt16) : Socket → Socket
  | .v4 ip _ => .v4 ip port
  | .v6 ip scope _ => .v6 ip scope port

theorem of_ip_ip (ip : Ip) (port : UInt16) : (ofIp ip port).ip = ip := by
  cases ip <;> rfl

theorem of_ip_port (ip : Ip) (port : UInt16) : (ofIp ip port).port = port := by
  cases ip <;> rfl

theorem of_ip_scope (ip : Ip) (port : UInt16) : (ofIp ip port).scope = 0 := by
  cases ip <;> rfl

theorem with_port_scope (socket : Socket) (port : UInt16) : (socket.withPort port).scope = socket.scope := by
  cases socket <;> rfl

theorem with_own_port (socket : Socket) : socket.withPort socket.port = socket := by
  cases socket <;> rfl

theorem of_ip_unscoped (socket : Socket) (port : UInt16) : ofIp socket.ip port = socket.withPort port ↔ socket.scope = 0 := by
  constructor
  · intro same
    rw [← with_port_scope socket port, ← same, of_ip_scope]
  · intro unscoped
    cases socket with
    | v4 ip _ => rfl
    | v6 ip scope _ =>
        have none : scope = 0 := unscoped
        rw [none]
        rfl

end Socket

def Shows (text : String) (ip : Ip) (port : UInt16) : Prop :=
  ∃ found, Socket.parse? text = some found ∧ found.ip = ip ∧ found.port = port ∧ found.scope = 0

theorem shows_of_ip (ip : Ip) (port : UInt16) : Shows (Socket.ofIp ip port).text ip port :=
  ⟨_, parse_text _, Socket.of_ip_ip ip port, Socket.of_ip_port ip port, Socket.of_ip_scope ip port⟩

theorem advertise_parsed (own : Ip) (listen : String) (socket : Socket) (parsed : Socket.parse? listen = some socket) :
    advertise? own listen =
      some (Socket.ofIp (if socket.ip.isUnspecified then own else socket.ip) socket.port).text := by
  rw [advertise?, parsed, Option.map_some]

theorem announce_parsed (configured : String) (bound socket : Socket) (parsed : Socket.parse? configured = some socket) :
    announce? (some configured) bound =
      some (if socket.port = 0 then (Socket.ofIp socket.ip bound.port).text else configured) := by
  unfold announce?
  simp only [Option.getD_some, parsed]
  exact (apply_ite some _ _ _).symm

theorem announce_unread (configured address : String) (bound : Socket) (unparsed : Socket.parse? configured = none)
    (announced : announce? (some configured) bound = some address) : address = configured ∧ ':' ∈ configured.toList := by
  unfold announce? at announced
  simp only [Option.getD_some, unparsed] at announced
  split at announced
  next colon => exact ⟨(Option.some.inj announced).symm, colon⟩
  next => cases announced

theorem shown_again (socket : Socket) (port : UInt16) :
    Socket.parse? (Socket.ofIp socket.ip port).text = some (socket.withPort port) ↔ socket.scope = 0 := by
  rw [parse_text, Option.some.injEq]
  exact Socket.of_ip_unscoped socket port

-- The advertised text reads back as the machine's own address in the place of a wildcard, and as the listen address
-- otherwise, with the same port; an announced port of zero becomes the bound one. Whatever else the address had is
-- kept exactly if it has no scope.
theorem advertised_address_kept_but_for_scope (own : Ip) (listen : String) (socket bound : Socket)
    (parsed : Socket.parse? listen = some socket) :
    (∃ shown, advertise? own listen = some shown ∧
      Shows shown (if socket.ip.isUnspecified then own else socket.ip) socket.port ∧
      (socket.ip.isUnspecified = false → (Socket.parse? shown = some socket ↔ socket.scope = 0))) ∧
    (socket.port ≠ 0 → announce? (some listen) bound = some listen) ∧
    (socket.port = 0 → ∃ shown, announce? (some listen) bound = some shown ∧ Shows shown socket.ip bound.port ∧
      (Socket.parse? shown = some (socket.withPort bound.port) ↔ socket.scope = 0)) := by
  refine ⟨⟨_, advertise_parsed own listen socket parsed, shows_of_ip _ _, fun concrete => ?_⟩, fun set => ?_, fun unset => ?_⟩
  · simpa only [concrete, Bool.false_eq_true, if_false, Socket.with_own_port] using shown_again socket socket.port
  · rw [announce_parsed listen bound socket parsed, if_neg set]
  · refine ⟨_, ?_, shows_of_ip socket.ip bound.port, shown_again socket bound.port⟩
    rw [announce_parsed listen bound socket parsed, if_pos unset]

def documentation : Ipv6 := ⟨[0x2001, 0xdb8, 0, 0, 1, 0, 0, 1], rfl⟩

-- An address in full, with a port of zero, is advertised in its short form and announced with the bound port.
theorem advertised_address_kept_but_for_scope_compressed :
    Socket.parse? "[2001:db8:0:0:1:0:0:1]:00" = some (.v6 documentation 0 0) ∧
      advertise? (.v4 .loopback) "[2001:db8:0:0:1:0:0:1]:00" = some "[2001:db8::1:0:0:1]:0" ∧
      Socket.parse? "[2001:db8::1:0:0:1]:0" = some (.v6 documentation 0 0) ∧
      announce? (some "[2001:db8:0:0:1:0:0:1]:00") (.v4 .loopback 40123) = some "[2001:db8::1:0:0:1]:40123" ∧
      Socket.parse? "[2001:db8::1:0:0:1]:40123" = some (.v6 documentation 0 40123) := by
  have parsed : Socket.parse? "[2001:db8:0:0:1:0:0:1]:00" = some (.v6 documentation 0 0) := by decide +kernel
  obtain ⟨⟨shown, advertised, _, again⟩, _, announces⟩ :=
    advertised_address_kept_but_for_scope (.v4 .loopback) _ _ (.v4 .loopback 40123) parsed
  obtain ⟨told, announced, _, kept⟩ := announces rfl
  have short : advertise? (.v4 .loopback) "[2001:db8:0:0:1:0:0:1]:00" = some "[2001:db8::1:0:0:1]:0" := by decide +kernel
  have filled : announce? (some "[2001:db8:0:0:1:0:0:1]:00") (.v4 .loopback 40123) = some "[2001:db8::1:0:0:1]:40123" := by
    decide +kernel
  cases advertised.symm.trans short
  cases announced.symm.trans filled
  exact ⟨parsed, short, (again rfl).mpr rfl, filled, kept.mpr rfl⟩

def linkLocal : Ipv6 := ⟨[0xfe80, 0, 0, 0, 0, 0, 0, 1], rfl⟩

-- The scope, without which a link-local address leads nowhere, is neither advertised nor announced.
theorem scope_left_out :
    Socket.parse? "[fe80::1%1]:8080" = some (.v6 linkLocal 1 8080) ∧ (Ip.v6 linkLocal).isUnspecified = false ∧
      advertise? (.v4 .loopback) "[fe80::1%1]:8080" = some "[fe80::1]:8080" ∧
      Socket.parse? "[fe80::1]:8080" ≠ some (.v6 linkLocal 1 8080) ∧
      Socket.parse? "[fe80::1%1]:0" = some (.v6 linkLocal 1 0) ∧
      announce? (some "[fe80::1%1]:0") (.v6 linkLocal 1 8080) = some "[fe80::1]:8080" := by
  decide +kernel

end ServiceHost.Address
