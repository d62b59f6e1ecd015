import Mathlib.Data.List.TakeWhile
import ServiceHost.Address.Dialable
import ServiceHost.Proofs.Address.Socket

set_option autoImplicit false

namespace ServiceHost.Address

open Decimal

namespace Authority

def run (start : Option Scan) (text : List Char) : Option Scan :=
  text.foldl (fun scanned c => scanned.bind fun s => step s c) start

theorem run_append (start : Option Scan) (text more : List Char) : run start (text ++ more) = run (run start text) more :=
  List.foldl_append

theorem run_none (text : List Char) : run none text = none := by
  induction text with
  | nil => rfl
  | cons c rest ih => exact ih

theorem plain_apart (c separator : Char) (plain : isPlain c = true) (noPlain : isPlain separator = false) : c ≠ separator := by
  rintro rfl
  rw [noPlain] at plain
  cases plain

theorem step_plain (s : Scan) (c : Char) (plain : isPlain c = true) : step s c = some { s with endsWithAt := false } := by
  have apart (separator : Char) := plain_apart c separator plain
  simp only [step, if_neg (apart ':' (by decide)), if_neg (apart '[' (by decide)), if_neg (apart ']' (by decide)),
    if_neg (apart '@' (by decide)), if_neg (apart '%' (by decide)), if_pos plain]

theorem run_plain (s : Scan) (text : List Char) (plain : ∀ c ∈ text, isPlain c = true) (noAt : s.endsWithAt = false) :
    run (some s) text = some s := by
  have same : { s with endsWithAt := false } = s := by rw [← noAt]
  induction text with
  | nil => rfl
  | cons c rest ih =>
      obtain ⟨first, others⟩ := List.forall_mem_cons.mp plain
      calc run (some s) (c :: rest) = run (step s c) rest := rfl
        _ = run (some s) rest := by rw [step_plain s c first, same]
        _ = some s := ih others

theorem digit_plain (radix : Nat) (c : Char) (digit : (digit? radix c).isSome = true) : isPlain c = true := by
  have ranges : c.isAlphanum = ((decide (65 ≤ c.val ∧ c.val ≤ 90) || (decide (97 ≤ c.val) && decide (c.val ≤ 122))) ||
      (decide (48 ≤ c.val) && decide (c.val ≤ 57))) := rfl
  have alphanumeric : c.isAlphanum = true := by
    cases value : digitValue c with
    | none => simp [digit?, value] at digit
    | some d =>
        simp only [digitValue] at value
        simp only [ranges, Bool.or_eq_true, Bool.and_eq_true, decide_eq_true_eq, UInt32.le_iff_toNat_le]
        change (65 ≤ c.toNat ∧ c.toNat ≤ 90 ∨ 97 ≤ c.toNat ∧ c.toNat ≤ 122) ∨ 48 ≤ c.toNat ∧ c.toNat ≤ 57
        split at value
        · omega
        · split at value
          · omega
          · split at value
            · omega
            · cases value
  rw [isPlain, alphanumeric, Bool.true_or]

theorem spelt_plain (digits : List Char) (value : Nat) (spelt : Spells 10 digits value) : ∀ c ∈ digits, isPlain c = true :=
  fun c inside => digit_plain 10 c (spelt_digits 10 0 value digits spelt.2 c inside)

theorem char_plain (c : Char) (char : isAddressChar c = true) (noColon : c ≠ ':') : isPlain c = true := by
  simp only [isAddressChar, Bool.or_eq_true, decide_eq_true_eq] at char
  rcases char with (colon | rfl) | digit
  · exact absurd colon noColon
  · decide
  · exact digit_plain 16 c digit

theorem run_address (s : Scan) (text : List Char) (chars : ∀ c ∈ text, isAddressChar c = true)
    (few : s.colons + text.count ':' ≤ maxColons) (noAt : s.endsWithAt = false) :
    run (some s) text = some { s with colons := s.colons + text.count ':' } := by
  induction text generalizing s with
  | nil => rfl
  | cons c rest ih =>
      obtain ⟨first, others⟩ := List.forall_mem_cons.mp chars
      by_cases colon : c = ':'
      · subst colon
        rw [List.count_cons_self] at few ⊢
        have room : ¬maxColons ≤ s.colons := by omega
        have stepped : step s ':' = some { s with colons := s.colons + 1 } := by
          simp only [step, if_true, if_neg room, ← noAt]
        calc run (some s) (':' :: rest) = run (step s ':') rest := rfl
          _ = some { s with colons := s.colons + 1 + rest.count ':' } := by
            rw [stepped]
            exact ih _ others (by simp only; omega) noAt
          _ = some { s with colons := s.colons + (rest.count ':' + 1) } := by rw [Nat.add_assoc, Nat.add_comm 1]
      · have same : { s with endsWithAt := false } = s := by rw [← noAt]
        rw [List.count_cons_of_ne colon] at few ⊢
        calc run (some s) (c :: rest) = run (step s c) rest := rfl
          _ = run (some s) rest := by rw [step_plain s c (char_plain c first colon), same]
          _ = some { s with colons := s.colons + rest.count ':' } := ih s others few noAt

theorem front_scanned (front : List Char) (fits : Front front) :
    ∃ bracketed, run (some {}) front = some { opened := bracketed, closed := bracketed } := by
  cases fits with
  | plain host _ chars noColon =>
      refine ⟨false, run_plain {} front (fun c inside => char_plain c (chars c inside) ?_) rfl⟩
      rintro rfl
      exact noColon inside
  | bracketed host zone chars few zoned =>
      have inner : run (some { opened := true }) host = some { colons := host.count ':', opened := true } := by
        have scanned := run_address { opened := true } host chars (by rw [Nat.zero_add]; exact few) rfl
        rwa [Nat.zero_add] at scanned
      have passed : ∃ percent, run (some { colons := host.count ':', opened := true }) zone =
          some { colons := host.count ':', opened := true, percent } := by
        rcases zoned with rfl | ⟨digits, rfl, all⟩
        · exact ⟨false, rfl⟩
        · exact ⟨true, run_plain { colons := host.count ':', opened := true, percent := true } digits
            (fun c inside => digit_plain 10 c (all c inside)) rfl⟩
      obtain ⟨percent, passed⟩ := passed
      refine ⟨true, ?_⟩
      calc run (some {}) ('[' :: (host ++ (zone ++ [']'])))
          = run (run (run (some { opened := true }) host) zone) [']'] := by rw [← run_append, ← run_append]; rfl
        _ = run (some { colons := host.count ':', opened := true, percent }) [']'] := by rw [inner, passed]
        _ = some { opened := true, closed := true } := rfl

-- A host before whose port the scan has found nothing but a pair of brackets.
structure Settled (front : List Char) : Prop where
  scanned : ∃ bracketed, run (some {}) front = some { opened := bracketed, closed := bracketed }
  first : ∃ c more, front = c :: more ∧ c ≠ ':'
  userless : '@' ∉ front

theorem settled_valid (text : String) (front digits : List Char) (split : text.toList = front ++ ':' :: digits)
    (settled : Settled front) (plain : ∀ c ∈ digits, isPlain c = true) : isValid text = true := by
  obtain ⟨bracketed, scanned⟩ := settled.scanned
  have whole : scan text.toList = some { colons := 1, opened := bracketed, closed := bracketed } := by
    calc scan text.toList = run (run (some {}) front) (':' :: digits) := by rw [split, ← run_append]; rfl
      _ = run (some { colons := 1, opened := bracketed, closed := bracketed }) digits := by rw [scanned]; rfl
      _ = _ := run_plain _ digits plain rfl
  have shown : text ≠ "" := by
    rintro rfl
    cases front <;> cases split
  simp [isValid, whole, shown]

theorem port_read (front digits : List Char) (value : Nat) (spelt : Spells 10 digits value) (small : value < 65536) :
    port? (front ++ ':' :: digits) = some (UInt16.ofNat value) := by
  have all := spelt_digits 10 0 value digits spelt.2
  have unsigned : unsigned? 65536 10 digits = some value := by
    unfold unsigned?
    split
    next rest => cases all '+' List.mem_cons_self
    next => rw [digits_read 10 value digits spelt, Option.filter_some, if_pos (decide_eq_true small)]
  have behind : ((front ++ ':' :: digits).reverse.takeWhile (· ≠ ':')).reverse = digits := by
    have noColon : ∀ c ∈ digits.reverse, (decide (c ≠ ':')) = true := by
      intro c inside
      rw [decide_eq_true_eq]
      rintro rfl
      cases all ':' (List.mem_reverse.mp inside)
    rw [List.reverse_append, List.reverse_cons, List.append_assoc, List.takeWhile_append_of_pos noColon]
    simp
  rw [port?, if_pos (List.mem_append_right front List.mem_cons_self), behind, Decimal.port?, unsigned, Option.map_some]

theorem userless_whole (text : List Char) (userless : '@' ∉ text) : hostAndPort text = text := by
  have every : ∀ c ∈ text.reverse, (decide (c ≠ '@')) = true := by
    intro c inside
    rw [decide_eq_true_eq]
    rintro rfl
    exact userless (List.mem_reverse.mp inside)
  rw [hostAndPort, List.takeWhile_eq_self_iff.mpr every, List.reverse_reverse]

theorem settled_host (front digits : List Char) (settled : Settled front) (plain : ∀ c ∈ digits, isPlain c = true) :
    host (front ++ ':' :: digits) ≠ [] := by
  obtain ⟨c, more, rfl, noColon⟩ := settled.first
  have userless : '@' ∉ c :: more ++ ':' :: digits := by
    intro inside
    rcases List.mem_append.mp inside with before | behind
    · exact settled.userless before
    · rcases List.mem_cons.mp behind with colon | digit
      · cases colon
      · cases plain '@' digit
  rw [host, userless_whole _ userless]
  split
  · exact List.cons_ne_nil _ _
  · simp [noColon]

theorem front_settled (front : List Char) (fits : Front front) : Settled front := by
  have noAt (host : List Char) (chars : ∀ c ∈ host, isAddressChar c = true) : '@' ∉ host := fun inside => by
    cases chars '@' inside
  have scanned := front_scanned front fits
  cases fits with
  | plain host some chars noColon =>
      obtain ⟨c, more, rfl⟩ := List.exists_cons_of_ne_nil some
      exact ⟨scanned, ⟨c, more, rfl, fun colon => noColon (colon ▸ List.mem_cons_self)⟩, noAt _ chars⟩
  | bracketed host zone chars few zoned =>
      have noZone : '@' ∉ zone := by
        rcases zoned with rfl | ⟨digits, rfl, all⟩
        · exact List.not_mem_nil
        · intro inside
          rcases List.mem_cons.mp inside with sign | digit
          · cases sign
          · cases all '@' digit
      exact ⟨scanned, ⟨'[', _, rfl, by decide⟩, by simp [noAt host chars, noZone]⟩

theorem valid_slash_free (text : String) (valid : isValid text = true) : '/' ∉ text.toList := by
  intro slash
  obtain ⟨front, rest, split⟩ := List.append_of_mem slash
  have refused : scan text.toList = none := by
    calc scan text.toList = run (run (some {}) front) ('/' :: rest) := by rw [split, ← run_append]; rfl
      _ = none := by
        cases run (some {}) front with
        | none => exact run_none _
        | some s => exact run_none rest
  simp [isValid, refused] at valid

end Authority

theorem scheme_mark_slash (text : List Char) (mark : hasSchemeMark text = true) : '/' ∈ text := by
  induction text with
  | nil => cases mark
  | cons c rest ih =>
      unfold hasSchemeMark at mark
      split at mark
      next same =>
        cases same
        exact List.mem_cons_of_mem _ List.mem_cons_self
      next same =>
        cases same
        exact List.mem_cons_of_mem _ (ih mark)
      next same => cases same

structure IsCallable (address : String) : Prop where
  authority : Authority.isValid address = true
  host : Authority.host address.toList ≠ []
  port : ∃ port, Authority.port? address.toList = some port ∧ port ≠ 0

theorem authority_kept (toAscii : Url.ToAscii) (address : String) (valid : Authority.isValid address = true)
    (host : Authority.host address.toList ≠ []) (port : (Authority.port? address.toList).isSome = true) :
    reduce? toAscii address = some address := by
  have noUrl : isUrl address = false := Bool.eq_false_iff.mpr fun mark =>
    Authority.valid_slash_free address valid (scheme_mark_slash _ mark)
  simp [reduce?, noUrl, valid, host, port]

theorem callable_dialable (address : String) (callable : IsCallable address) : dialable? address = some address := by
  obtain ⟨port, read, _⟩ := callable.port
  exact authority_kept _ address callable.authority callable.host (Option.isSome_of_eq_some read)

theorem socket_callable (text : String) (socket : Socket) (parsed : Socket.parse? text = some socket) (set : socket.port ≠ 0) :
    IsCallable text := by
  obtain ⟨front, digits, split, fits, spelt⟩ := parse_splits text socket parsed
  have plain := Authority.spelt_plain digits _ spelt
  have settled := Authority.front_settled front fits
  refine ⟨Authority.settled_valid text front digits split settled plain, ?_, socket.port, ?_, set⟩
  · rw [split]
    exact Authority.settled_host front digits settled plain
  · rw [split, Authority.port_read front digits _ spelt socket.port.toNat_lt, UInt16.ofNat_toNat]

end ServiceHost.Address
