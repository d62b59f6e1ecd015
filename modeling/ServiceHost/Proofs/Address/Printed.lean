import ServiceHost.Address.Socket
import ServiceHost.Proofs.Address.Number

set_option autoImplicit false

namespace ServiceHost.Address

open Decimal

theorem octet_written (octet : UInt8) (rest : List Char) (ends : NoDigit 10 rest) :
    Ipv4.octet? (Nat.toDigits 10 octet.toNat ++ rest) = some (octet, rest) := by
  have small : octet.toNat < 256 := octet.toNat_lt
  have short : (Nat.toDigits 10 octet.toNat).length ≤ 3 := (Nat.length_toDigits_le_iff (by decide) (by decide)).mpr (by omega)
  have number := number_written 10 256 (some 3) octet.toNat rest (by decide) (by decide) small (by rintro _ ⟨⟩; exact short) ends
  have canonical : (Nat.toDigits 10 octet.toNat ++ rest).head? = some '0' →
      (Nat.toDigits 10 octet.toNat ++ rest).length - rest.length ≤ 1 := by
    intro first
    rw [List.head?_append_of_ne_nil _ Nat.toDigits_ne_nil] at first
    rw [first_zero _ first, List.length_append, Nat.add_sub_cancel]
    decide
  rw [Ipv4.octet?, number]
  simpa using canonical

theorem v4_chars (ip : Ipv4) : ip.text.toList = Nat.toDigits 10 ip.a.toNat ++ '.' :: (Nat.toDigits 10 ip.b.toNat ++
    '.' :: (Nat.toDigits 10 ip.c.toNat ++ '.' :: Nat.toDigits 10 ip.d.toNat)) := by
  simp [Ipv4.text, Nat.toString_eq_repr, Nat.toList_repr]
  rfl

theorem v4_written (ip : Ipv4) (rest : List Char) (ends : NoDigit 10 rest) :
    Ipv4.read? (ip.text.toList ++ rest) = some (ip, rest) := by
  have dotted (more : List Char) : NoDigit 10 ('.' :: more) := no_digit_cons 10 '.' more rfl
  simp only [v4_chars, List.append_assoc, List.cons_append, Ipv4.read?, octet_written _ _ (dotted _), Ipv4.dot?,
    octet_written _ _ ends, Option.bind_eq_bind, Option.bind_some]
  rfl

-- What stands behind a group neither goes on with it nor makes an IPv4 address of it.
def Behind (rest : List Char) : Prop := NoDigit 16 rest ∧ rest.head? ≠ some '.'

theorem behind_cons (c : Char) (rest : List Char) (other : digit? 16 c = none) (noDot : c ≠ '.') : Behind (c :: rest) :=
  ⟨no_digit_cons 16 c rest other, fun dot => noDot (Option.some.inj dot)⟩

theorem behind_decimal (rest : List Char) (behind : Behind rest) : NoDigit 10 rest :=
  fun c first => no_digit_below 10 16 c (by decide) (behind.1 c first)

theorem drop_digits (digits rest : List Char) (all : ∀ c ∈ digits, (digit? 16 c).isSome = true) (ends : NoDigit 16 rest) :
    (digits ++ rest).dropWhile (fun c => (digit? 16 c).isSome) = rest := by
  rw [List.dropWhile_append_of_pos all]
  cases rest with
  | nil => rfl
  | cons c more => rw [List.dropWhile_cons, ends c rfl]; rfl

-- Digits without a dot behind them are no IPv4 address, whatever else is.
theorem v4_undotted (digits rest : List Char) (all : ∀ c ∈ digits, (digit? 16 c).isSome = true) (behind : Behind rest) :
    Ipv4.read? (digits ++ rest) = none := by
  cases octet : Ipv4.octet? (digits ++ rest) with
  | none => simp [Ipv4.read?, octet]
  | some found =>
      obtain ⟨value, left⟩ := found
      have undotted : Ipv4.dot? left = none := by
        unfold Ipv4.dot?
        split
        next more =>
          obtain ⟨taken, split, decimal⟩ : ∃ taken, digits ++ rest = taken ++ '.' :: more ∧
              ∀ c ∈ taken, (digit? 10 c).isSome = true := by
            unfold Ipv4.octet? at octet
            split at octet
            · cases octet
            next number =>
              split at octet
              · cases octet
              · cases octet
                obtain ⟨taken, split, spelt, _⟩ := number_splits 10 256 (some 3) _ _ _ number
                exact ⟨taken, split, spelt_digits 10 0 _ taken spelt.2⟩
          have hexadecimal : ∀ c ∈ taken, (digit? 16 c).isSome = true := fun c inside =>
            Option.isSome_iff_ne_none.mpr fun other =>
              Option.isSome_iff_ne_none.mp (decimal c inside) (no_digit_below 10 16 c (by decide) other)
          have rests : rest = '.' :: more := by
            rw [← drop_digits digits rest all behind.1, split]
            exact drop_digits taken _ hexadecimal (no_digit_cons 16 '.' more rfl)
          exact absurd (congrArg List.head? rests) behind.2
        next => rfl
      simp [Ipv4.read?, octet, undotted]

def trail (groups : List UInt16) : List Char := groups.flatMap fun group => ':' :: Nat.toDigits 16 group.toNat

theorem groups_chars (group : UInt16) (groups : List UInt16) :
    (Ipv6.groupsText (group :: groups)).toList = Nat.toDigits 16 group.toNat ++ trail groups := by
  have joined (first : UInt16) (more : List UInt16) :
      [':'].intercalate ((first :: more).map fun group => Nat.toDigits 16 group.toNat) =
        Nat.toDigits 16 first.toNat ++ trail more := by
    induction more generalizing first with
    | nil => simp [trail]
    | cons second rest ih =>
        have behind := ih second
        rw [List.map_cons] at behind
        rw [List.map_cons, List.map_cons, List.intercalate_cons_cons, behind]
        simp [trail]
  have spelt : String.toList ∘ (fun group : UInt16 => Text.hex group.toNat) = fun group => Nat.toDigits 16 group.toNat :=
    funext fun group => String.toList_ofList
  rw [Ipv6.groupsText, String.toList_intercalate, List.map_map, spelt]
  exact joined group groups

theorem trail_behind (groups : List UInt16) (rest : List Char) (behind : Behind rest) : Behind (trail groups ++ rest) := by
  cases groups with
  | nil => exact behind
  | cons group more => exact behind_cons ':' _ rfl (by decide)

theorem group_written (group : UInt16) (rest : List Char) (ends : NoDigit 16 rest) :
    number? 16 65536 (some 4) (Nat.toDigits 16 group.toNat ++ rest) = some (group.toNat, rest) := by
  have small : group.toNat < 65536 := group.toNat_lt
  refine number_written 16 65536 (some 4) group.toNat rest (by decide) (by decide) small ?_ ends
  rintro _ ⟨⟩
  exact (Nat.length_toDigits_le_iff (by decide) (by decide)).mpr (by omega)

-- No further group follows: nothing, something else than a colon, or a second colon.
def Stops (rest : List Char) : Prop := Behind rest ∧ ∀ more, rest = ':' :: more → Behind more

theorem stops_separated {α : Type} (read : List Char → Option (α × List Char)) (rest : List Char) (stops : Stops rest)
    (missing : ∀ input, Behind input → read input = none) : Ipv6.separated false read rest = none := by
  unfold Ipv6.separated
  simp only [Bool.false_eq_true, if_false]
  split
  next more => exact missing more (stops.2 more rfl)
  next => rfl

theorem read_stops (room : Nat) (rest : List Char) (stops : Stops rest) :
    Ipv6.readGroups false room rest = ([], false, rest) := by
  cases room with
  | zero => rfl
  | succ room =>
      have noGroup := stops_separated (number? 16 65536 (some 4)) rest stops fun input behind =>
        number_missing 16 65536 (some 4) input behind.1
      have noV4 := stops_separated Ipv4.read? rest stops fun input behind => v4_missing input (behind_decimal input behind)
      simp [Ipv6.readGroups, noGroup, noV4]

theorem hex_digits (group : UInt16) : ∀ c ∈ Nat.toDigits 16 group.toNat, (digit? 16 c).isSome = true :=
  spelt_digits 16 0 _ _ (digits_spell 16 group.toNat (by decide) (by decide)).2

theorem read_group (first : Bool) (room : Nat) (group : UInt16) (rest : List Char) (behind : Behind rest) :
    Ipv6.readGroups first (room + 1) ((if first then [] else [':']) ++ (Nat.toDigits 16 group.toNat ++ rest)) =
      (group :: (Ipv6.readGroups false room rest).1, (Ipv6.readGroups false room rest).2) := by
  have noV4 := v4_undotted _ rest (hex_digits group) behind
  have number := group_written group rest behind.1
  cases first with
  | true => simp [Ipv6.readGroups, Ipv6.separated, noV4, number]
  | false => simp [Ipv6.readGroups, Ipv6.separated, noV4, number]

theorem read_trail (room : Nat) (groups : List UInt16) (rest : List Char) (fits : groups.length ≤ room)
    (stops : Stops rest) : Ipv6.readGroups false room (trail groups ++ rest) = (groups, false, rest) := by
  induction groups generalizing room with
  | nil => exact read_stops room rest stops
  | cons group more ih =>
      obtain ⟨room, rfl⟩ : ∃ less, room = less + 1 := ⟨room - 1, by simp at fits; omega⟩
      have step := read_group false room group (trail more ++ rest) (trail_behind more rest stops.1)
      rw [ih room (Nat.le_of_succ_le_succ fits)] at step
      simpa [trail] using step

theorem read_groups (room : Nat) (groups : List UInt16) (rest : List Char) (fits : groups.length ≤ room)
    (stops : Stops rest) :
    Ipv6.readGroups true room ((Ipv6.groupsText groups).toList ++ rest) = (groups, false, rest) := by
  cases groups with
  | nil =>
      cases room with
      | zero => rfl
      | succ room =>
          have noGroup := number_missing 16 65536 (some 4) rest stops.1.1
          have noV4 := v4_missing rest (behind_decimal rest stops.1)
          simp [Ipv6.groupsText, Ipv6.readGroups, Ipv6.separated, noGroup, noV4]
  | cons group more =>
      obtain ⟨room, rfl⟩ : ∃ less, room = less + 1 := ⟨room - 1, by simp at fits; omega⟩
      have step := read_group true room group (trail more ++ rest) (trail_behind more rest stops.1)
      rw [read_trail room more rest (Nat.le_of_succ_le_succ fits) stops] at step
      rw [groups_chars, List.append_assoc]
      exact step

-- A stretch of zero groups, by its start and its length.
def ZeroRun (groups : List UInt16) (run : Nat × Nat) : Prop :=
  run.1 + run.2 ≤ groups.length ∧ ∀ i, run.1 ≤ i → i < run.1 + run.2 → groups[i]? = some 0

-- The stretch that ends where the search stands, and the longest one before that.
theorem longest_zeros_run (groups rest : List UInt16) (position start length : Nat) (best : Nat × Nat)
    (behind : groups.drop position = rest) (current : start + length = position ∨ length = 0)
    (zeros : length ≠ 0 → ZeroRun groups (start, length)) (known : ZeroRun groups best) :
    ZeroRun groups (Ipv6.longestZeros position start length best rest) := by
  induction rest generalizing position start length best with
  | nil => exact known
  | cons group more ih =>
      have here : groups[position]? = some group := by rw [← List.head?_drop, behind]; rfl
      have inside : position < groups.length := (List.getElem?_eq_some_iff.mp here).1
      have next : groups.drop (position + 1) = more := by rw [← List.drop_drop, behind]; rfl
      rw [Ipv6.longestZeros]
      split
      next zero =>
        subst zero
        have longer : ZeroRun groups (if length = 0 then position else start, length + 1) := by
          by_cases fresh : length = 0
          · subst fresh
            refine ⟨inside, fun i least most => ?_⟩
            have same : i = position := Nat.le_antisymm (Nat.le_of_lt_succ most) least
            rw [same, here]
          · have ends : start + length = position := current.resolve_right fresh
            rw [if_neg fresh]
            refine ⟨by simp only; omega, fun i least most => ?_⟩
            by_cases last : i = position
            · rw [last, here]
            · exact (zeros fresh).2 i least (by simp only at most ⊢; omega)
        refine ih (position + 1) _ (length + 1) _ next (Or.inl ?_) (fun _ => longer) ?_
        · split <;> omega
        · split
          · exact longer
          · exact known
      next => exact ih (position + 1) 0 0 best next (Or.inr rfl) (fun none => absurd rfl none) known

theorem zero_run_split (groups : List UInt16) (start length : Nat) (run : ZeroRun groups (start, length)) :
    groups = groups.take start ++ List.replicate length 0 ++ groups.drop (start + length) := by
  obtain ⟨within, zeros⟩ := run
  have stretch : (groups.drop start).take length = List.replicate length 0 := by
    refine List.eq_replicate_iff.mpr ⟨by simp; omega, fun group member => ?_⟩
    obtain ⟨i, found⟩ := List.getElem?_of_mem member
    have short : i < length := by
      have bound := (List.getElem?_eq_some_iff.mp found).1
      rw [List.length_take] at bound
      omega
    rw [List.getElem?_take_of_lt short, List.getElem?_drop, zeros (start + i) (by simp) (by simp only; omega)] at found
    exact (Option.some.inj found).symm
  rw [← stretch, List.append_assoc, ← List.drop_drop, List.take_append_drop, List.take_append_drop]

theorem double_colon_stops (rest : List Char) : Stops (':' :: ':' :: rest) := by
  refine ⟨behind_cons ':' _ rfl (by decide), ?_⟩
  rintro _ ⟨⟩
  exact behind_cons ':' _ rfl (by decide)

theorem hex_written (ip : Ipv6) (rest : List Char) (stops : Stops rest) :
    Ipv6.read? (ip.hexText.toList ++ rest) = some (ip, rest) := by
  have run := longest_zeros_run ip.groups ip.groups 0 0 0 (0, 0) rfl (Or.inr rfl) (fun none => absurd rfl none)
    ⟨Nat.zero_le _, fun i _ none => absurd none (Nat.not_lt_zero i)⟩
  rw [Ipv6.hexText]
  generalize Ipv6.longestZeros 0 0 0 (0, 0) ip.groups = found at run
  obtain ⟨start, length⟩ := found
  have eight := ip.eight
  by_cases several : 1 < length
  · have within : start + length ≤ ip.groups.length := run.1
    have front : (ip.groups.take start).length = start := by rw [List.length_take]; omega
    have back : (ip.groups.drop (start + length)).length = 8 - start - length := by rw [List.length_drop]; omega
    have head := read_groups 8 (ip.groups.take start)
      (':' :: ':' :: ((Ipv6.groupsText (ip.groups.drop (start + length))).toList ++ rest)) (by omega) (double_colon_stops _)
    have tail := read_groups (8 - (start + 1)) (ip.groups.drop (start + length)) rest (by omega) stops
    have left : 8 - start - (8 - start - length) = length := by omega
    have few : start ≠ 8 := by omega
    have whole := zero_run_split ip.groups start length run
    simp only [if_pos several, String.toList_append, List.append_assoc]
    change Ipv6.read? ((Ipv6.groupsText (ip.groups.take start)).toList ++
      ':' :: ':' :: ((Ipv6.groupsText (ip.groups.drop (start + length))).toList ++ rest)) = some (ip, rest)
    simp only [Ipv6.read?, head, front, if_neg few, Bool.false_eq_true, if_false, tail, back, left, ← whole]
    simp only [Ipv6.ofGroups?, dif_pos eight, Option.map_some]
  · have whole := read_groups 8 ip.groups rest (Nat.le_of_eq eight) stops
    simp only [if_neg several, Ipv6.read?, whole, if_pos eight, Ipv6.ofGroups?, dif_pos eight, Option.map_some]

theorem high_of_words (high low : UInt16) : (Ipv4.ofWords high low).high = high := by
  apply UInt16.toNat_inj.mp
  have bound := high.toNat_lt
  simp [Ipv4.ofWords, Ipv4.high]
  omega

theorem low_of_words (high low : UInt16) : (Ipv4.ofWords high low).low = low := by
  apply UInt16.toNat_inj.mp
  have bound := low.toNat_lt
  simp [Ipv4.ofWords, Ipv4.low]
  omega

theorem mapped_groups (ip : Ipv6) (v4 : Ipv4) (mapped : ip.mapped? = some v4) :
    ip.groups = [0, 0, 0, 0, 0, 0xFFFF, v4.high, v4.low] := by
  unfold Ipv6.mapped? at mapped
  split at mapped
  next high low groups =>
    cases mapped
    rw [groups, high_of_words, low_of_words]
  next => cases mapped

theorem mapped_written (ip : Ipv6) (v4 : Ipv4) (mapped : ip.mapped? = some v4) (rest : List Char) (behind : Behind rest) :
    Ipv6.read? (':' :: ':' :: 'f' :: 'f' :: 'f' :: 'f' :: ':' :: (v4.text.toList ++ rest)) = some (ip, rest) := by
  have groups := mapped_groups ip v4 mapped
  have head := read_groups 8 [] (':' :: ':' :: 'f' :: 'f' :: 'f' :: 'f' :: ':' :: (v4.text.toList ++ rest)) (by decide)
    (double_colon_stops _)
  have mark := read_group true 6 0xFFFF (':' :: (v4.text.toList ++ rest)) (behind_cons ':' _ rfl (by decide))
  have digits : Nat.toDigits 16 (0xFFFF : UInt16).toNat = ['f', 'f', 'f', 'f'] := by decide
  have dotted : Ipv6.readGroups false 6 (':' :: (v4.text.toList ++ rest)) = ([v4.high, v4.low], true, rest) := by
    simp [Ipv6.readGroups, Ipv6.separated, v4_written v4 rest (behind_decimal rest behind)]
  rw [digits, dotted] at mark
  have tail : Ipv6.readGroups true 7 ('f' :: 'f' :: 'f' :: 'f' :: ':' :: (v4.text.toList ++ rest)) =
      ([0xFFFF, v4.high, v4.low], true, rest) := mark
  have start : Ipv6.readGroups true 8 (':' :: ':' :: 'f' :: 'f' :: 'f' :: 'f' :: ':' :: (v4.text.toList ++ rest)) =
      ([], false, ':' :: ':' :: 'f' :: 'f' :: 'f' :: 'f' :: ':' :: (v4.text.toList ++ rest)) := head
  obtain ⟨found, eight⟩ := ip
  subst groups
  simp [Ipv6.read?, start, tail, Ipv6.ofGroups?]

theorem v6_written (ip : Ipv6) (rest : List Char) (stops : Stops rest) :
    Ipv6.read? (ip.text.toList ++ rest) = some (ip, rest) := by
  cases mapped : ip.mapped? with
  | none => simpa only [Ipv6.text, mapped] using hex_written ip rest stops
  | some v4 =>
      rw [Ipv6.text, mapped, String.toList_append]
      exact mapped_written ip v4 mapped rest stops.1

theorem port_written (port : UInt16) : Socket.port? (':' :: Nat.toDigits 10 port.toNat) = some port := by
  have number := number_written 10 65536 none port.toNat [] (by decide) (by decide) port.toNat_lt (fun _ => nofun)
    (no_digit_nil 10)
  rw [List.append_nil] at number
  rw [Socket.port?, number]
  exact congrArg some UInt16.ofNat_toNat

theorem scope_written (scope : UInt32) (rest : List Char) :
    Socket.scope? ((if scope = 0 then [] else '%' :: Nat.toDigits 10 scope.toNat) ++ ']' :: rest) = some (scope, ']' :: rest) := by
  by_cases unscoped : scope = 0
  · subst unscoped
    rfl
  · have number := number_written 10 4294967296 none scope.toNat (']' :: rest) (by decide) (by decide) scope.toNat_lt
      (fun _ => nofun) (no_digit_cons 10 ']' rest rfl)
    rw [if_neg unscoped, List.cons_append, Socket.scope?, number, Option.map_some]
    exact congrArg (fun scope => some (scope, ']' :: rest)) UInt32.ofNat_toNat

theorem v4_socket_chars (ip : Ipv4) (port : UInt16) :
    (Socket.v4 ip port).text.toList = ip.text.toList ++ ':' :: Nat.toDigits 10 port.toNat := by
  simp [Socket.text, Nat.toString_eq_repr, Nat.toList_repr]

theorem v6_socket_chars (ip : Ipv6) (scope : UInt32) (port : UInt16) : (Socket.v6 ip scope port).text.toList =
    '[' :: (ip.text.toList ++ ((if scope = 0 then [] else '%' :: Nat.toDigits 10 scope.toNat) ++
      ']' :: ':' :: Nat.toDigits 10 port.toNat)) := by
  by_cases unscoped : scope = 0 <;> simp [Socket.text, unscoped, Nat.toString_eq_repr, Nat.toList_repr]

theorem bracket_stops (rest : List Char) : Stops (']' :: rest) :=
  ⟨behind_cons ']' rest rfl (by decide), fun _ => nofun⟩

theorem percent_stops (rest : List Char) : Stops ('%' :: rest) :=
  ⟨behind_cons '%' rest rfl (by decide), fun _ => nofun⟩

theorem parse_text (socket : Socket) : Socket.parse? socket.text = some socket := by
  cases socket with
  | v4 ip port =>
      have front := v4_written ip (':' :: Nat.toDigits 10 port.toNat) (no_digit_cons 10 ':' _ rfl)
      simp [Socket.parse?, v4_socket_chars, Socket.parseV4?, front, port_written]
  | v6 ip scope port =>
      have noV4 (input : List Char) : Socket.parseV4? ('[' :: input) = none := by
        simp [Socket.parseV4?, v4_missing ('[' :: input) (no_digit_cons 10 '[' input rfl)]
      have stops : Stops ((if scope = 0 then [] else '%' :: Nat.toDigits 10 scope.toNat) ++
          ']' :: ':' :: Nat.toDigits 10 port.toNat) := by
        split
        · exact bracket_stops _
        · exact percent_stops _
      simp [Socket.parse?, v6_socket_chars, noV4, Socket.parseV6?, v6_written ip _ stops, scope_written, port_written]

end ServiceHost.Address
