import Mathlib.Data.List.Induction
import ServiceHost.Discovery.DialError
import ServiceHost.Proofs.Address.Url

set_option autoImplicit false

namespace ServiceHost.Address

open Decimal

def isDelimiter (c : Char) : Bool := ":/?#[]@".toList.contains c

inductive IsHost : List Char → Prop where
  | name (host : List Char) (nonempty : host ≠ []) (chars : ∀ c ∈ host, isDelimiter c = false) : IsHost host
  | literal (inner : List Char) (nonempty : inner ≠ []) (chars : ∀ c ∈ inner, c = ':' ∨ isDelimiter c = false) :
      IsHost ('[' :: (inner ++ [']']))

def IsHostAndPort (address : String) : Prop :=
  ∃ host digits value, address.toList = host ++ ':' :: digits ∧ IsHost host ∧ Spells 10 digits value ∧ value < 65536

theorem plain_no_delimiter (c : Char) (plain : Authority.isPlain c = true) : isDelimiter c = false := by
  have apart : ":/?#[]@".toList.all (fun c => !Authority.isPlain c) = true := by decide
  refine Bool.eq_false_iff.mpr fun delimits => ?_
  have other := List.all_eq_true.mp apart c (List.contains_iff_mem.mp delimits)
  rw [plain] at other
  cases other

theorem stray_kind (c : Char) (stray : isStray c = true) : isDelimiter c = false ∧ Authority.isPlain c = false := by
  have apart : "\"%`\x7b\x7d".toList.all (fun c => !isDelimiter c && !Authority.isPlain c) = true := by decide
  simpa using List.all_eq_true.mp apart c (List.contains_iff_mem.mp stray)

namespace Authority

inductive Step (s : Scan) : Char → Scan → Prop where
  | colon : Step s ':' { s with endsWithAt := false, colons := s.colons + 1 }
  | opens (first : s.opened = false) : Step s '[' { s with endsWithAt := false, opened := true }
  | closes (first : s.closed = false) : Step s ']' { s with endsWithAt := false, closed := true, colons := 0, percent := false }
  | user : Step s '@' { s with colons := 0, percent := false, endsWithAt := true }
  | escape : Step s '%' { s with endsWithAt := false, percent := true }
  | plain (c : Char) (plain : isPlain c = true) : Step s c { s with endsWithAt := false }

theorem step_cases (s next : Scan) (c : Char) (stepped : step s c = some next) : Step s c next := by
  simp only [step] at stepped
  split at stepped
  next same =>
    subst same
    split at stepped
    · cases stepped
    · cases stepped
      exact .colon
  split at stepped
  next same =>
    subst same
    split at stepped
    · cases stepped
    next free =>
      cases stepped
      exact .opens (by simp_all)
  split at stepped
  next same =>
    subst same
    split at stepped
    · cases stepped
    next free =>
      cases stepped
      exact .closes (by simp_all)
  split at stepped
  next same =>
    subst same
    cases stepped
    exact .user
  split at stepped
  next same =>
    subst same
    cases stepped
    exact .escape
  split at stepped
  next plain =>
    cases stepped
    exact .plain c plain
  next => cases stepped

-- What the scan has seen. A user and a bracketed host make it forget colons and percent signs.
structure Seen (text : List Char) (s : Scan) : Prop where
  legal : ∀ c ∈ text, isPlain c = true ∨ c ∈ [':', '[', ']', '@', '%']
  opened : text.count '[' = s.opened.toNat
  closed : text.count ']' = s.closed.toNat
  colons : '@' ∉ text → ']' ∉ text → text.count ':' = s.colons
  percent : '@' ∉ text → ']' ∉ text → '%' ∈ text → s.percent = true

theorem step_legal (s next : Scan) (c : Char) (stepped : Step s c next) : isPlain c = true ∨ c ∈ [':', '[', ']', '@', '%'] := by
  cases stepped with
  | plain c plain => exact .inl plain
  | _ => exact .inr (by decide)

theorem seen_step (text : List Char) (c : Char) (s next : Scan) (seen : Seen text s) (stepped : Step s c next) :
    Seen (text ++ [c]) next := by
  have legal : ∀ x ∈ text ++ [c], isPlain x = true ∨ x ∈ [':', '[', ']', '@', '%'] := by
    intro x inside
    rcases List.mem_append.mp inside with before | last
    · exact seen.legal x before
    · exact List.mem_singleton.mp last ▸ step_legal s next c stepped
  obtain ⟨-, opened, closed, colons, percent⟩ := seen
  cases stepped with
  | colon => exact ⟨legal, by simpa using opened, by simpa using closed, by simpa using colons, by simpa using percent⟩
  | opens first =>
      rw [first] at opened
      exact ⟨legal, by simp [opened], by simpa using closed, by simpa using colons, by simpa using percent⟩
  | closes first =>
      rw [first] at closed
      exact ⟨legal, by simpa using opened, by simp [closed], by simp, by simp⟩
  | user => exact ⟨legal, by simpa using opened, by simpa using closed, by simp, by simp⟩
  | escape => exact ⟨legal, by simpa using opened, by simpa using closed, by simpa using colons, by simp⟩
  | plain c plain =>
      have colon := plain_apart c ':' plain (by decide)
      have opening := plain_apart c '[' plain (by decide)
      have closing := plain_apart c ']' plain (by decide)
      have user := plain_apart c '@' plain (by decide)
      have escape := plain_apart c '%' plain (by decide)
      refine ⟨legal, ?_, ?_, ?_, ?_⟩ <;>
        simpa [List.count_singleton, colon, opening, closing, user.symm, escape.symm, closing.symm]

theorem seen_run (text : List Char) (s : Scan) (scanned : run (some {}) text = some s) : Seen text s := by
  induction text using List.reverseRecOn generalizing s with
  | nil =>
      cases scanned
      exact ⟨nofun, rfl, rfl, fun _ _ => rfl, nofun⟩
  | append_singleton text c ih =>
      rw [run_append] at scanned
      cases before : run (some {}) text with
      | none =>
          rw [before] at scanned
          cases scanned
      | some earlier =>
          rw [before] at scanned
          exact seen_step text c earlier s (ih earlier before) (step_cases earlier s c scanned)

theorem valid_seen (text : String) (valid : isValid text = true) :
    ∃ s, Seen text.toList s ∧ s.opened = s.closed ∧ s.colons ≤ 1 ∧ s.percent = false := by
  unfold isValid at valid
  split at valid
  · cases valid
  next s scanned =>
    simp only [Bool.and_eq_true, decide_eq_true_eq, Bool.not_eq_true'] at valid
    obtain ⟨⟨⟨⟨-, paired⟩, few⟩, -⟩, unescaped⟩ := valid
    exact ⟨s, seen_run _ s scanned, paired, few, unescaped⟩

theorem port_splits (text : List Char) (port : UInt16) (read : port? text = some port) :
    ∃ front sign digits value, text = front ++ ':' :: (sign ++ digits) ∧ (sign = [] ∨ sign = ['+']) ∧
      Spells 10 digits value ∧ value < 65536 := by
  unfold port? at read
  split at read
  next colon =>
    obtain ⟨back, front, split, last⟩ := List.eq_append_cons_of_mem (List.mem_reverse.mpr colon)
    have apart : ∀ c ∈ back, decide (c ≠ ':') = true := fun c inside =>
      decide_eq_true fun (colon : c = ':') => last (colon ▸ inside)
    have behind : text.reverse.takeWhile (· ≠ ':') = back := by
      rw [split, List.takeWhile_append_of_pos apart]
      simp
    obtain ⟨value, unsigned, -⟩ := Option.map_eq_some_iff.mp read
    rw [behind] at unsigned
    obtain ⟨sign, digits, parts, signed, spelt, small⟩ := unsigned_splits 65536 value back.reverse unsigned
    refine ⟨front.reverse, sign, digits, value, ?_, signed, spelt, small⟩
    rw [← parts, ← List.reverse_reverse text, split]
    simp
  next => cases read

theorem seen_kinds (text : List Char) (s : Scan) (seen : Seen text s) (c : Char) (inside : c ∈ text) :
    c = ':' ∨ c = '[' ∨ c = ']' ∨ c = '@' ∨ isDelimiter c = false := by
  rcases seen.legal c inside with plain | listed
  · simp [plain_no_delimiter c plain]
  · simp only [List.mem_cons, List.not_mem_nil, or_false] at listed
    rcases listed with rfl | rfl | rfl | rfl | rfl
    on_goal 5 => exact .inr (.inr (.inr (.inr (by decide))))
    all_goals simp

section

variable (text : String) (front rest : List Char) (split : text.toList = front ++ ':' :: rest) (valid : isValid text = true)

include split valid

theorem unbracketed_host (hosted : host text.toList ≠ []) (bare : ∀ c ∈ rest, isPlain c = true) (userless : '@' ∉ front)
    (unopened : '[' ∉ front) : IsHost front := by
  obtain ⟨s, seen, paired, few, -⟩ := valid_seen text valid
  rw [split] at seen hosted
  have noUser : '@' ∉ rest := fun inside => plain_apart _ _ (bare '@' inside) (by decide) rfl
  have noOpening : '[' ∉ rest := fun inside => plain_apart _ _ (bare '[' inside) (by decide) rfl
  have noClosing : ']' ∉ front ++ ':' :: rest := by
    have opened := seen.opened
    rw [List.count_eq_zero.mpr (by simp [unopened, noOpening])] at opened
    rw [← List.count_eq_zero, seen.closed, ← paired]
    exact opened.symm
  have colons := seen.colons (by simp [userless, noUser]) noClosing
  rw [List.count_append, List.count_cons_self] at colons
  have noColon : ':' ∉ front := List.count_eq_zero.mp (by omega)
  refine .name front ?_ fun c inside => ?_
  · rintro rfl
    rw [List.nil_append, host, userless_whole _ (by simp [noUser])] at hosted
    simp at hosted
  · rcases seen_kinds _ s seen c (List.mem_append_left _ inside) with rfl | rfl | rfl | rfl | other
    · exact absurd inside noColon
    · exact absurd inside unopened
    · exact absurd (List.mem_append_left _ inside) noClosing
    · exact absurd inside userless
    · exact other

theorem bracketed_host (inner : List Char) (nonempty : inner ≠ []) (brackets : front = '[' :: (inner ++ [']']))
    (userless : '@' ∉ front) : IsHost front := by
  obtain ⟨s, seen, -, -, -⟩ := valid_seen text valid
  rw [split, brackets] at seen
  subst brackets
  have noOpening : '[' ∉ inner := by
    have opened : inner.count '[' + rest.count '[' + 1 = s.opened.toNat := by simpa using seen.opened
    have single := Bool.toNat_le s.opened
    exact List.count_eq_zero.mp (by omega)
  have noClosing : ']' ∉ inner := by
    have closed : inner.count ']' + (rest.count ']' + 1) = s.closed.toNat := by simpa using seen.closed
    have single := Bool.toNat_le s.closed
    exact List.count_eq_zero.mp (by omega)
  refine .literal inner nonempty fun c inside => ?_
  rcases seen_kinds _ s seen c (by simp [inside]) with rfl | rfl | rfl | rfl | other
  · exact .inl rfl
  · exact absurd inside noOpening
  · exact absurd inside noClosing
  · exact absurd (by simp [inside]) userless
  · exact .inr other

theorem kept_host (hosted : host text.toList ≠ []) (bare : ∀ c ∈ rest, isPlain c = true) :
    IsHost front ↔ '@' ∉ front ∧ ('[' ∉ front ∨ ∃ inner, inner ≠ [] ∧ front = '[' :: (inner ++ [']'])) := by
  constructor
  · intro found
    cases found with
    | name _ nonempty chars =>
        exact ⟨fun inside => (nomatch chars '@' inside), .inl fun inside => (nomatch chars '[' inside)⟩
    | literal inner nonempty chars =>
        have userless : '@' ∉ inner := fun inside => (chars '@' inside).elim (nomatch ·) (nomatch ·)
        exact ⟨by simp [userless], .inr ⟨inner, nonempty, rfl⟩⟩
  · rintro ⟨userless, unopened | ⟨inner, nonempty, brackets⟩⟩
    · exact unbracketed_host text front rest split valid hosted bare userless unopened
    · exact bracketed_host text front rest split valid inner nonempty brackets userless

end

end Authority

theorem settled_kept (toAscii : Url.ToAscii) (address : String) (front digits : List Char) (value : Nat) (split : address.toList = front ++ ':' :: digits)
    (settled : Authority.Settled front) (spelt : Spells 10 digits value) (small : value < 65536) :
    reduce? toAscii address = some address := by
  have plain := Authority.spelt_plain digits value spelt
  refine authority_kept toAscii address (Authority.settled_valid address front digits split settled plain) ?_ ?_
  · rw [split]
    exact Authority.settled_host front digits settled plain
  · rw [split, Authority.port_read front digits value spelt small]
    rfl

theorem plain_no_stray (c : Char) (plain : Authority.isPlain c = true) : isStray c = false :=
  Bool.eq_false_iff.mpr fun stray => by
    rw [(stray_kind c stray).2] at plain
    cases plain

theorem address_no_stray (c : Char) (char : isAddressChar c = true) : isStray c = false := by
  by_cases colon : c = ':'
  · subst colon
    decide
  · exact plain_no_stray c (Authority.char_plain c char colon)

theorem plain_clean (text : List Char) (plain : ∀ c ∈ text, Authority.isPlain c = true) : text.any isStray = false :=
  List.any_eq_false.mpr fun c inside => by simp [plain_no_stray c (plain c inside)]

theorem hex_chars (ip : Ipv6) : ip.hexText.toList ≠ [] ∧ (∀ c ∈ ip.hexText.toList, isAddressChar c = true) ∧
    ip.hexText.toList.count ':' ≤ 8 := by
  have read := hex_written ip [']'] (bracket_stops [])
  refine ⟨fun none => ?_, ?_⟩
  · rw [none] at read
    have missing : Ipv6.read? [']'] = Option.none := by decide
    rw [List.nil_append, missing] at read
    cases read
  · obtain ⟨taken, split, chars, few⟩ := v6_takes _ _ ip read
    rw [List.append_cancel_right split]
    exact ⟨chars, few⟩

theorem url_host (host : List Char) (found : UrlHost host) : IsHost host := by
  cases found with
  | literal ip =>
      obtain ⟨nonempty, chars, -⟩ := hex_chars ip
      refine .literal _ nonempty fun c inside => ?_
      by_cases colon : c = ':'
      · exact .inl colon
      · exact .inr (plain_no_delimiter c (Authority.char_plain c (chars c inside) colon))
  | name host nonempty chars =>
      exact .name host nonempty fun c inside => (chars c inside).elim (plain_no_delimiter c) fun stray => (stray_kind c stray).1

theorem stray_invalid (address : String) (c : Char) (inside : c ∈ address.toList) (stray : isStray c = true)
    (free : ∀ c ∈ address.toList, c = ':' ∨ isDelimiter c = false) : Authority.isValid address = false := by
  refine Bool.eq_false_iff.mpr fun valid => ?_
  obtain ⟨s, seen, -, -, unescaped⟩ := Authority.valid_seen address valid
  have noUser : '@' ∉ address.toList := fun inside => (free '@' inside).elim (nomatch ·) (nomatch ·)
  have noClosing : ']' ∉ address.toList := fun inside => (free ']' inside).elim (nomatch ·) (nomatch ·)
  obtain ⟨noDelimiter, noPlain⟩ := stray_kind c stray
  rcases seen.legal c inside with plain | special
  · rw [noPlain] at plain
    cases plain
  · simp only [List.mem_cons, List.not_mem_nil, or_false] at special
    rcases special with rfl | rfl | rfl | rfl | rfl
    on_goal 5 => exact nomatch unescaped.symm.trans (seen.percent noUser noClosing inside)
    all_goals cases noDelimiter

theorem plain_settled (host : List Char) (nonempty : host ≠ []) (plain : ∀ c ∈ host, Authority.isPlain c = true) :
    Authority.Settled host := by
  obtain ⟨c, more, rfl⟩ := List.exists_cons_of_ne_nil nonempty
  refine ⟨⟨false, Authority.run_plain {} _ plain rfl⟩, ⟨c, more, rfl, ?_⟩, fun inside => (nomatch plain '@' inside)⟩
  rintro rfl
  exact nomatch plain ':' List.mem_cons_self

theorem url_kept (toAscii : Url.ToAscii) (address : String) (host digits : List Char) (value : Nat) (split : address.toList = host ++ ':' :: digits)
    (found : UrlHost host) (spelt : Spells 10 digits value) (small : value < 65536) :
    reduce? toAscii address = if address.toList.any isStray then none else some address := by
  have numeric := Authority.spelt_plain digits value spelt
  have strays : address.toList.any isStray = host.any isStray := by
    rw [split, List.any_append, List.any_cons, plain_clean digits numeric]
    simp [show isStray ':' = false by decide]
  rw [strays]
  cases found with
  | literal ip =>
      obtain ⟨-, chars, few⟩ := hex_chars ip
      have settled := Authority.front_settled _ (.bracketed ip.hexText.toList [] chars few (.inl rfl))
      have clean : ('[' :: (ip.hexText.toList ++ [']'])).any isStray = false := by
        have inner : ip.hexText.toList.any isStray = false :=
          List.any_eq_false.mpr fun c inside => by simp [address_no_stray c (chars c inside)]
        rw [List.any_cons, List.any_append, inner]
        decide
      rw [clean]
      exact settled_kept toAscii address _ digits value split settled spelt small
  | name host nonempty chars =>
      cases strays : host.any isStray with
      | false =>
          have plain : ∀ c ∈ host, Authority.isPlain c = true := fun c inside =>
            (chars c inside).resolve_right (List.any_eq_false.mp strays c inside)
          exact settled_kept toAscii address host digits value split (plain_settled host nonempty plain) spelt small
      | true =>
          obtain ⟨c, inside, stray⟩ := List.any_eq_true.mp strays
          have free : ∀ c ∈ address.toList, c = ':' ∨ isDelimiter c = false := by
            rw [split]
            intro c inside
            rcases List.mem_append.mp inside with named | behind
            · exact .inr ((chars c named).elim (plain_no_delimiter c) fun stray => (stray_kind c stray).1)
            · rcases List.mem_cons.mp behind with colon | digit
              · exact .inl colon
              · exact .inr (plain_no_delimiter c (numeric c digit))
          have noUrl : isUrl address = false := Bool.eq_false_iff.mpr fun mark =>
            (free '/' (scheme_mark_slash _ mark)).elim (nomatch ·) (nomatch ·)
          have invalid := stray_invalid address c (split ▸ List.mem_append_left _ inside) stray free
          simp [reduce?, noUrl, invalid]

theorem url_splits (toAscii : Url.ToAscii) (proper : toAscii.IsProper) (endpoint address : String)
    (url : isUrl endpoint = true) (reduced : reduce? toAscii endpoint = some address) :
    ∃ host port, address.toList = host ++ ':' :: Nat.toDigits 10 (port : UInt16).toNat ∧ UrlHost host := by
  simp only [reduce?, url, if_true, Option.bind_eq_bind, Option.bind_eq_some_iff] at reduced
  obtain ⟨parts, parsed, port, -, same⟩ := reduced
  cases same
  refine ⟨parts.host.toList, port, ?_, Url.parse_host toAscii proper endpoint parts parsed⟩
  simp [Nat.toString_eq_repr, Nat.toList_repr]

theorem parts_unique (front rest host digits : List Char) (same : front ++ ':' :: rest = host ++ ':' :: digits)
    (one : ':' ∉ rest) (other : ':' ∉ digits) : front = host ∧ rest = digits := by
  rcases List.append_eq_append_iff.mp same with ⟨more, rfl, split⟩ | ⟨more, rfl, split⟩
  · cases more with
    | nil => exact ⟨(List.append_nil _).symm, List.tail_eq_of_cons_eq split⟩
    | cons c between =>
        rw [List.cons_append, List.cons.injEq] at split
        exact absurd (split.2 ▸ List.mem_append_right _ List.mem_cons_self) one
  · cases more with
    | nil => exact ⟨List.append_nil _, (List.tail_eq_of_cons_eq split).symm⟩
    | cons c between =>
        rw [List.cons_append, List.cons.injEq] at split
        exact absurd (split.2 ▸ List.mem_append_right _ List.mem_cons_self) other

theorem kept_splits (toAscii : Url.ToAscii) (endpoint address : String) (bare : isUrl endpoint = false)
    (kept : reduce? toAscii endpoint = some address) :
    address = endpoint ∧ Authority.isValid endpoint = true ∧ Authority.host endpoint.toList ≠ [] ∧
      ∃ port, Authority.port? endpoint.toList = some port := by
  simp only [reduce?, bare, Bool.false_eq_true, if_false] at kept
  split at kept
  next given =>
    cases kept
    simp only [Bool.and_eq_true, Bool.not_eq_true', List.isEmpty_eq_false_iff] at given
    exact ⟨rfl, given.1.1, given.2, Option.isSome_iff_exists.mp given.1.2⟩
  next => cases kept

theorem kept_host_and_port (address : String) (valid : Authority.isValid address = true)
    (hosted : Authority.host address.toList ≠ []) (front sign digits : List Char) (value : Nat)
    (split : address.toList = front ++ ':' :: (sign ++ digits)) (signed : sign = [] ∨ sign = ['+'])
    (spelt : Spells 10 digits value) (small : value < 65536) :
    IsHostAndPort address ↔
      sign = [] ∧ '@' ∉ front ∧ ('[' ∉ front ∨ ∃ inner, inner ≠ [] ∧ front = '[' :: (inner ++ [']'])) := by
  have plain : ∀ c ∈ sign ++ digits, Authority.isPlain c = true := by
    intro c inside
    rcases List.mem_append.mp inside with before | digit
    · rcases signed with rfl | rfl
      · cases before
      · rw [List.mem_singleton.mp before]
        decide
    · exact Authority.spelt_plain digits value spelt c digit
  have host := Authority.kept_host address front (sign ++ digits) split valid hosted plain
  rw [← host]
  constructor
  · rintro ⟨found, number, port, parts, isHost, spelt, -⟩
    have numeric := spelt_digits 10 0 port number spelt.2
    obtain ⟨rfl, rfl⟩ := parts_unique _ _ _ _ (split.symm.trans parts) (fun inside => (nomatch plain ':' inside))
      fun inside => (nomatch numeric ':' inside)
    refine ⟨?_, isHost⟩
    rcases signed with rfl | rfl
    · rfl
    · exact nomatch numeric '+' List.mem_cons_self
  · rintro ⟨rfl, isHost⟩
    exact ⟨front, digits, value, split, isHost, spelt, small⟩

-- A URL is reduced to its host and port, which is kept from then on unless the host has characters that no authority has.
-- An authority is kept, together with its user, with the sign of its port and with whatever stands around brackets.
theorem endpoint_reduced (toAscii : Url.ToAscii) (proper : toAscii.IsProper) (endpoint : String) :
    match reduce toAscii endpoint with
    | .error error => error = .invalidEndpoint endpoint
    | .ok address =>
        if isUrl endpoint then
          IsHostAndPort address ∧
            reduce toAscii address = if address.toList.any isStray then .error (.invalidEndpoint address) else .ok address
        else
          address = endpoint ∧ ∃ front sign digits value, address.toList = front ++ ':' :: (sign ++ digits) ∧
            (sign = [] ∨ sign = ['+']) ∧ Spells 10 digits value ∧ value < 65536 ∧
            (IsHostAndPort address ↔
              sign = [] ∧ '@' ∉ front ∧ ('[' ∉ front ∨ ∃ inner, inner ≠ [] ∧ front = '[' :: (inner ++ [']']))) := by
  cases reduced : reduce? toAscii endpoint with
  | none =>
      simp only [reduce, reduced]
  | some address =>
      have result : reduce toAscii endpoint = .ok address := by simp only [reduce, reduced]
      rw [result]
      dsimp only
      cases url : isUrl endpoint with
      | true =>
          obtain ⟨host, port, split, found⟩ := url_splits toAscii proper endpoint address url reduced
          have spelt := digits_spell 10 port.toNat (by decide) (by decide)
          refine ⟨⟨host, _, port.toNat, split, url_host host found, spelt, port.toNat_lt⟩, ?_⟩
          rw [reduce, url_kept toAscii address host _ _ split found spelt port.toNat_lt]
          cases address.toList.any isStray <;> rfl
      | false =>
          obtain ⟨rfl, valid, hosted, port, read⟩ := kept_splits toAscii endpoint address url reduced
          obtain ⟨front, sign, digits, value, split, signed, spelt, small⟩ := Authority.port_splits _ port read
          exact ⟨rfl, front, sign, digits, value, split, signed, spelt, small,
            kept_host_and_port address valid hosted front sign digits value split signed spelt small⟩

theorem endpoint_reduced_to_ascii : Url.ToAscii.IsProper Url.foldedAscii? ∧
    dialable "HTTP://user@Bücher.example/x?y" = .ok "xn--bcher-kva.example:80" ∧
      IsHostAndPort "xn--bcher-kva.example:80" ∧ dialable "xn--bcher-kva.example:80" = .ok "xn--bcher-kva.example:80" := by
  have proper := Url.folded_ascii_proper
  have reduced : reduce Url.foldedAscii? "HTTP://user@Bücher.example/x?y" = .ok "xn--bcher-kva.example:80" := by
    decide +kernel
  have result := endpoint_reduced Url.foldedAscii? proper "HTTP://user@Bücher.example/x?y"
  rw [reduced] at result
  exact ⟨proper, reduced, result.1, result.2.trans (by decide)⟩

-- A user and a sign are kept, though a URL is reduced to what stands behind the user; and a host out of a URL may be refused
-- when it is dialed.
theorem user_and_sign_kept :
    dialable "user@h:80" = .ok "user@h:80" ∧ ¬ IsHostAndPort "user@h:80" ∧ dialable "x://user@h:80" = .ok "h:80" ∧
      dialable "h:+1" = .ok "h:+1" ∧ ¬ IsHostAndPort "h:+1" ∧
      dialable "x://h%41:5" = .ok "h%41:5" ∧ dialable "h%41:5" = .error (.invalidEndpoint "h%41:5") := by
  have user := kept_host_and_port "user@h:80" (by decide +kernel) (by decide +kernel) "user@h".toList [] ['8', '0'] 80 rfl
    (.inl rfl) (read_spells 10 80 _ (by decide)) (by decide)
  have sign := kept_host_and_port "h:+1" (by decide +kernel) (by decide +kernel) ['h'] ['+'] ['1'] 1 rfl (.inr rfl)
    (read_spells 10 1 _ (by decide)) (by decide)
  refine ⟨by decide +kernel, fun reduced => ?_, by decide +kernel, by decide +kernel, fun reduced => ?_, by decide +kernel,
    by decide +kernel⟩
  · exact (user.mp reduced).2.1 (by decide)
  · exact nomatch (sign.mp reduced).1

end ServiceHost.Address
