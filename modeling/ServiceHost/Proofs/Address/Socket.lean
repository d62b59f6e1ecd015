import Mathlib.Data.List.Basic
import ServiceHost.Address.Advertised
import ServiceHost.Proofs.Address.Number

set_option autoImplicit false

namespace ServiceHost.Address

open Decimal

def isAddressChar (c : Char) : Bool := c = ':' || c = '.' || (digit? 16 c).isSome

-- A reader goes on behind characters of an address, of which only so many are colons.
def Takes (colons : Nat) (input rest : List Char) : Prop :=
  ∃ taken, input = taken ++ rest ∧ (∀ c ∈ taken, isAddressChar c = true) ∧ taken.count ':' ≤ colons

theorem takes_nothing (input : List Char) : Takes 0 input input :=
  ⟨[], rfl, fun _ => nofun, Nat.le_refl 0⟩

theorem takes_one (c : Char) (rest : List Char) (char : isAddressChar c = true) : Takes 1 (c :: rest) rest := by
  refine ⟨[c], rfl, fun _ inside => List.mem_singleton.mp inside ▸ char, ?_⟩
  exact List.count_le_length

theorem takes_then {first second : Nat} {input middle rest : List Char} (one : Takes first input middle)
    (other : Takes second middle rest) : Takes (first + second) input rest := by
  obtain ⟨taken, rfl, chars, few⟩ := one
  obtain ⟨more, rfl, others, fewer⟩ := other
  refine ⟨taken ++ more, (List.append_assoc taken more rest).symm, fun c inside => ?_, ?_⟩
  · exact (List.mem_append.mp inside).elim (chars c) (others c)
  · rw [List.count_append]
    exact Nat.add_le_add few fewer

theorem takes_within {few many : Nat} {input rest : List Char} (le : few ≤ many) (takes : Takes few input rest) :
    Takes many input rest := by
  obtain ⟨taken, split, chars, count⟩ := takes
  exact ⟨taken, split, chars, Nat.le_trans count le⟩

theorem digit_char (radix : Nat) (few : radix ≤ 16) (c : Char) (digit : (digit? radix c).isSome = true) :
    isAddressChar c = true ∧ c ≠ ':' := by
  have hexadecimal : (digit? 16 c).isSome = true := Option.isSome_iff_ne_none.mpr fun other =>
    Option.isSome_iff_ne_none.mp digit (no_digit_below radix 16 c few other)
  refine ⟨by rw [isAddressChar, hexadecimal, Bool.or_true], ?_⟩
  rintro rfl
  cases hexadecimal

theorem number_takes (radix bound value : Nat) (few : radix ≤ 16) (most : Option Nat) (input rest : List Char)
    (read : number? radix bound most input = some (value, rest)) : Takes 0 input rest := by
  obtain ⟨digits, split, spelt, _⟩ := number_splits radix bound most value input rest read
  have all := spelt_digits radix 0 value digits spelt.2
  refine ⟨digits, split, fun c inside => (digit_char radix few c (all c inside)).1, ?_⟩
  exact Nat.le_of_eq (List.count_eq_zero.mpr fun colon => (digit_char radix few ':' (all ':' colon)).2 rfl)

theorem octet_takes (input rest : List Char) (octet : UInt8) (read : Ipv4.octet? input = some (octet, rest)) :
    Takes 0 input rest := by
  unfold Ipv4.octet? at read
  split at read
  · cases read
  next number =>
    split at read
    · cases read
    · cases read
      exact number_takes 10 _ _ (by decide) _ _ _ number

theorem dot_takes (input rest : List Char) (read : Ipv4.dot? input = some rest) : Takes 0 input rest := by
  unfold Ipv4.dot? at read
  split at read
  · cases read
    exact ⟨['.'], rfl, fun _ inside => List.mem_singleton.mp inside ▸ rfl, by decide⟩
  · cases read

theorem v4_takes (input rest : List Char) (ip : Ipv4) (read : Ipv4.read? input = some (ip, rest)) : Takes 0 input rest := by
  simp only [Ipv4.read?, Option.bind_eq_bind, Option.bind_eq_some_iff, Prod.exists] at read
  obtain ⟨a, first, readA, behindA, dotA, b, second, readB, behindB, dotB, c, third, readC, behindC, dotC, d, fourth, readD,
    same⟩ := read
  cases same
  have front := takes_then (octet_takes _ _ _ readA) (dot_takes _ _ dotA)
  have middle := takes_then (octet_takes _ _ _ readB) (dot_takes _ _ dotB)
  have last := takes_then (octet_takes _ _ _ readC) (dot_takes _ _ dotC)
  exact takes_then (takes_then (takes_then front middle) last) (octet_takes _ _ _ readD)

theorem separated_takes {α : Type} (first : Bool) (read : List Char → Option (α × List Char)) (input rest : List Char)
    (value : α) (takes : ∀ input rest value, read input = some (value, rest) → Takes 0 input rest)
    (found : Ipv6.separated first read input = some (value, rest)) : Takes (!first).toNat input rest := by
  unfold Ipv6.separated at found
  cases first with
  | true => exact takes _ _ _ found
  | false =>
      simp only [Bool.false_eq_true, if_false] at found
      split at found
      · exact takes_then (takes_one ':' _ rfl) (takes _ _ _ found)
      · cases found

theorem read_groups_takes (first : Bool) (room : Nat) (input : List Char) :
    (Ipv6.readGroups first room input).1.length ≤ room ∧
      Takes ((Ipv6.readGroups first room input).1.length - first.toNat) input (Ipv6.readGroups first room input).2.2 := by
  induction room generalizing first input with
  | zero => exact ⟨Nat.le_refl 0, takes_within (Nat.zero_le _) (takes_nothing input)⟩
  | succ room ih =>
      simp only [Ipv6.readGroups]
      split
      next ip rest embedded =>
        split at embedded
        · cases embedded
        next roomy =>
          have takes := separated_takes first _ _ _ ip v4_takes embedded
          refine ⟨by simp only [List.length_cons, List.length_nil]; omega, takes_within ?_ takes⟩
          cases first <;> simp
      next =>
        split
        · exact ⟨Nat.zero_le _, takes_within (Nat.zero_le _) (takes_nothing input)⟩
        next value rest number =>
          obtain ⟨fits, others⟩ := ih false rest
          have takes := separated_takes first _ _ _ value (fun _ _ _ => number_takes 16 _ _ (by decide) _ _ _) number
          refine ⟨Nat.succ_le_succ fits, takes_within ?_ (takes_then takes others)⟩
          cases first <;> simp only [Bool.not_true, Bool.not_false, Bool.toNat_true, Bool.toNat_false, List.length_cons] <;> omega

theorem v6_takes (input rest : List Char) (ip : Ipv6) (read : Ipv6.read? input = some (ip, rest)) : Takes 8 input rest := by
  obtain ⟨few, front⟩ := read_groups_takes true 8 input
  simp only [Ipv6.read?] at read
  split at read
  · obtain ⟨_, _, same⟩ := Option.map_eq_some_iff.mp read
    cases same
    exact takes_within (by rw [Bool.toNat_true]; omega) front
  next short =>
    split at read
    · cases read
    · split at read
      next behind left =>
        obtain ⟨_, _, same⟩ := Option.map_eq_some_iff.mp read
        cases same
        rw [left] at front
        obtain ⟨fewer, back⟩ := read_groups_takes true (8 - ((Ipv6.readGroups true 8 input).1.length + 1)) behind
        have colons := takes_then (takes_one ':' (':' :: behind) rfl) (takes_one ':' behind rfl)
        refine takes_within ?_ (takes_then (takes_then front colons) back)
        simp only [Bool.toNat_true]
        omega
      · cases read

inductive Front : List Char → Prop where
  | plain (host : List Char) (some : host ≠ []) (chars : ∀ c ∈ host, isAddressChar c = true) (noColon : ':' ∉ host) : Front host
  | bracketed (host zone : List Char) (chars : ∀ c ∈ host, isAddressChar c = true) (few : host.count ':' ≤ 8)
      (zoned : zone = [] ∨ ∃ digits, zone = '%' :: digits ∧ ∀ c ∈ digits, (digit? 10 c).isSome = true) :
      Front ('[' :: (host ++ (zone ++ [']'])))

theorem port_splits (input : List Char) (port : UInt16) (read : Socket.port? input = some port) :
    ∃ digits, input = ':' :: digits ∧ Spells 10 digits port.toNat := by
  unfold Socket.port? at read
  split at read
  next rest =>
    split at read
    next value number =>
      cases read
      obtain ⟨digits, split, spelt, small⟩ := number_splits 10 65536 none value rest [] number
      rw [List.append_nil] at split
      refine ⟨rest, rfl, ?_⟩
      rw [split, UInt16.toNat_ofNat_of_lt' small]
      exact spelt
    next => cases read
  next => cases read

theorem scope_splits (input rest : List Char) (scope : UInt32) (read : Socket.scope? input = some (scope, rest)) :
    ∃ zone, input = zone ++ rest ∧ (zone = [] ∨ ∃ digits, zone = '%' :: digits ∧ ∀ c ∈ digits, (digit? 10 c).isSome = true) := by
  unfold Socket.scope? at read
  split at read
  next behind =>
    obtain ⟨⟨value, left⟩, number, same⟩ := Option.map_eq_some_iff.mp read
    cases same
    obtain ⟨digits, split, spelt, _⟩ := number_splits 10 _ none value behind rest number
    exact ⟨'%' :: digits, congrArg ('%' :: ·) split, .inr ⟨digits, rfl, spelt_digits 10 0 value digits spelt.2⟩⟩
  next =>
    cases read
    exact ⟨[], rfl, .inl rfl⟩

theorem parse_splits (text : String) (socket : Socket) (parsed : Socket.parse? text = some socket) :
    ∃ front digits, text.toList = front ++ ':' :: digits ∧ Front front ∧ Spells 10 digits socket.port.toNat := by
  rcases Option.or_eq_some_iff.mp parsed with v4 | ⟨_, v6⟩
  · simp only [Socket.parseV4?, Option.bind_eq_bind, Option.bind_eq_some_iff, Prod.exists] at v4
    obtain ⟨ip, rest, read, port, behind, same⟩ := v4
    cases same
    obtain ⟨digits, rfl, spelt⟩ := port_splits rest port behind
    obtain ⟨host, split, chars, few⟩ := v4_takes _ _ _ read
    refine ⟨host, digits, split, .plain host ?_ chars (List.count_eq_zero.mp (Nat.le_zero.mp few)), spelt⟩
    rintro rfl
    rw [split, List.nil_append, v4_missing _ (no_digit_cons 10 ':' digits rfl)] at read
    cases read
  · unfold Socket.parseV6? at v6
    split at v6
    next input same =>
      rw [same]
      simp only [Option.bind_eq_bind, Option.bind_eq_some_iff, Prod.exists] at v6
      obtain ⟨ip, rest, read, scope, left, behindIp, v6⟩ := v6
      split at v6
      next behind =>
        obtain ⟨port, ported, same⟩ := Option.bind_eq_some_iff.mp v6
        cases same
        obtain ⟨host, rfl, chars, few⟩ := v6_takes _ _ _ read
        obtain ⟨zone, rfl, zoned⟩ := scope_splits _ _ _ behindIp
        obtain ⟨digits, rfl, spelt⟩ := port_splits behind port ported
        exact ⟨'[' :: (host ++ (zone ++ [']'])), digits, by simp, .bracketed host zone chars few zoned, spelt⟩
      next => cases v6
    next => cases v6

theorem parse_colon (text : String) (socket : Socket) (parsed : Socket.parse? text = some socket) : ':' ∈ text.toList := by
  obtain ⟨front, digits, split, _⟩ := parse_splits text socket parsed
  rw [split]
  exact List.mem_append_right front List.mem_cons_self

theorem text_colon (socket : Socket) : ':' ∈ socket.text.toList := by
  cases socket with
  | v4 ip port => simp [Socket.text]
  | v6 ip scope port => simp [Socket.text]

theorem announce_none (advertised : Option String) (bound : Socket) :
    announce? advertised bound = none ↔ ∃ configured, advertised = some configured ∧ ':' ∉ configured.toList := by
  have decided : announce? advertised bound = none ↔ ':' ∉ (advertised.getD bound.text).toList := by
    unfold announce?
    simp only
    split
    next socket parsed =>
      have colon := parse_colon _ socket parsed
      refine ⟨fun silent => ?_, fun missing => absurd colon missing⟩
      split at silent <;> cases silent
    next => simp
  rw [decided]
  cases advertised with
  | none => simpa using text_colon bound
  | some configured => simp

end ServiceHost.Address
