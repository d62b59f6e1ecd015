import ServiceHost.Proofs.Address.Authority
import ServiceHost.Proofs.Address.Printed
import ServiceHost.Proofs.Text.Percent

set_option autoImplicit false

namespace ServiceHost

namespace Punycode

theorem digit_char_ascii : ∀ d < 36, (digitChar d).toNat < 128 := by decide

theorem threshold_range (position bias : Nat) : 1 ≤ threshold position bias ∧ threshold position bias ≤ 26 := by
  unfold threshold
  split
  · exact ⟨by omega, by omega⟩
  · split <;> exact ⟨by omega, by omega⟩

theorem encode_delta_ascii (bias fuel position q : Nat) : ∀ c ∈ encodeDelta bias fuel position q, c.toNat < 128 := by
  induction fuel generalizing position q with
  | zero => exact nofun
  | succ fuel ih =>
      obtain ⟨positive, small⟩ := threshold_range position bias
      simp only [encodeDelta]
      split
      next last => exact List.forall_mem_singleton.mpr (digit_char_ascii q (by omega))
      next =>
        have digit : (q - threshold position bias) % (36 - threshold position bias) < 36 - threshold position bias :=
          Nat.mod_lt _ (by omega)
        exact List.forall_mem_cons.mpr ⟨digit_char_ascii _ (by omega), ih _ _⟩

theorem encode_pass_ascii (m basic : Nat) (label : List Nat) (state : State) :
    ∀ c ∈ (encodePass m basic label state).2, c.toNat < 128 := by
  refine List.foldlRecOn (motive := fun (found : State × List Char) => ∀ c ∈ found.2, c.toNat < 128) label _ nofun ?_
  rintro ⟨state, out⟩ held code _
  dsimp only
  split
  · exact held
  · split
    · exact fun c member => (List.mem_append.mp member).elim (held c) (encode_delta_ascii _ _ _ _ c)
    · exact held

theorem encode_from_ascii (basic : Nat) (label : List Nat) (fuel : Nat) (state : State) :
    ∀ c ∈ encodeFrom basic label fuel state, c.toNat < 128 := by
  induction fuel generalizing state with
  | zero => exact nofun
  | succ fuel ih =>
      simp only [encodeFrom]
      split
      · exact nofun
      · exact fun c member => (List.mem_append.mp member).elim (encode_pass_ascii _ _ _ _ c) (ih _ c)

theorem encode_ascii (label : List Char) : ∀ c ∈ encode label, c.toNat < 128 := by
  intro c member
  simp only [encode, List.append_assoc, List.mem_append] at member
  rcases member with plain | hyphen | digits
  · simpa using (List.mem_filter.mp plain).2
  · split at hyphen
    · cases hyphen
    · rw [List.mem_singleton.mp hyphen]
      decide
  · exact encode_from_ascii _ _ _ _ c digits

end Punycode

namespace Address

open Authority (isPlain)

-- What the name of a host in a URL may have, and an authority not.
def isStray (c : Char) : Bool := "\"%`\x7b\x7d".toList.contains c

inductive UrlHost : List Char → Prop where
  | literal (ip : Ipv6) : UrlHost ('[' :: (ip.hexText.toList ++ [']']))
  | name (host : List Char) (nonempty : host ≠ []) (chars : ∀ c ∈ host, isPlain c = true ∨ isStray c = true) : UrlHost host

namespace Url

theorem ascii_kinds : ∀ n < 0x7F, 0x20 ≤ n → isForbidden (Char.ofNat n) = false →
    isPlain (Char.ofNat n) = true ∨ isStray (Char.ofNat n) = true := by
  decide +kernel

theorem allowed_kind (c : Char) (printable : 0x20 ≤ c.toNat) (ascii : c.toNat < 0x7F) (allowed : isForbidden c = false) :
    isPlain c = true ∨ isStray c = true := by
  have kinds := ascii_kinds c.toNat ascii printable
  rw [Char.ofNat_toNat] at kinds
  exact kinds allowed

theorem bracketed_host (host : List Char) (text : String) (read : bracketed? host = some text) : UrlHost text.toList := by
  unfold bracketed? at read
  split at read
  · split at read
    · split at read
      next ip _ =>
        cases read
        simpa using UrlHost.literal ip
      next => cases read
    · cases read
  · cases read

theorem v4_host (ip : Ipv4) : UrlHost ip.text.toList := by
  have plain (n : Nat) : ∀ c ∈ Nat.toDigits 10 n, isPlain c = true :=
    Authority.spelt_plain _ n (Decimal.digits_spell 10 n (by decide) (by decide))
  refine .name _ (by simp [v4_chars]) fun c inside => .inl ?_
  simp only [v4_chars, List.mem_append, List.mem_cons] at inside
  rcases inside with a | rfl | b | rfl | third | rfl | d
  · exact plain _ c a
  · decide
  · exact plain _ c b
  · decide
  · exact plain _ c third
  · decide
  · exact plain _ c d

theorem upper_digit_plain : ∀ n < 16, isPlain (Percent.upperHexDigit n) = true := by decide

-- A byte that stands for itself is a character of the host, since no other has bytes that are printable.
theorem opaque_host (host : List Char) (text : String) (nonempty : host ≠ []) (read : opaqueHost? host = some text) :
    UrlHost text.toList := by
  unfold opaqueHost? at read
  split at read
  · cases read
  next free =>
    have allowed : ∀ c ∈ host, isForbidden c = false := by simpa using free
    cases read
    rw [String.toList_ofList]
    refine .name _ ?_ fun c inside => ?_
    · obtain ⟨first, more, rfl⟩ := List.exists_cons_of_ne_nil nonempty
      obtain ⟨byte, bytes, same⟩ := List.exists_cons_of_ne_nil (String.utf8EncodeChar_ne_nil (c := first))
      rw [Utf8.encode, String.toList_ofList, List.flatMap_cons, same, List.cons_append, Percent.encode, List.flatMap_cons]
      split <;> simp [Percent.escape]
    · obtain ⟨byte, among, piece⟩ := List.mem_flatMap.mp inside
      rw [Utf8.encode, String.toList_ofList] at among
      obtain ⟨source, listed, spelt⟩ := List.mem_flatMap.mp among
      split at piece
      next stands =>
        simp only [Bool.and_eq_true, decide_eq_true_eq, UInt8.le_iff_toNat_le, UInt8.lt_iff_toNat_lt] at stands
        have low : 0x20 ≤ byte.toNat := stands.1
        have high : byte.toNat < 0x7F := stands.2
        have ascii : source.toNat ≤ 0x7F := by
          by_contra above
          have := Utf8.high_bytes source (by omega) byte spelt
          omega
        obtain ⟨one, code⟩ := Utf8.ascii_byte source (by omega)
        rw [one, List.mem_singleton] at spelt
        subst spelt
        rw [code] at low high piece
        rw [Char.ofNat_toNat, List.mem_singleton] at piece
        subst piece
        exact allowed_kind c low high (allowed c listed)
      next =>
        obtain ⟨high, low, -⟩ := Percent.byte_halves byte
        simp only [Percent.escape, List.mem_cons, List.not_mem_nil, or_false] at piece
        rcases piece with rfl | rfl | rfl
        · exact .inr (by decide)
        · exact .inl (upper_digit_plain _ high)
        · exact .inl (upper_digit_plain _ low)

theorem ascii_label (label form : List Char) (read : asciiLabel? label = some form) : ∀ c ∈ form, c.toNat < 128 := by
  unfold asciiLabel? at read
  split at read
  next ascii =>
    have all : ∀ c ∈ label, c.toNat < 128 := by simpa using ascii
    split at read
    · split at read
      · split at read
        · cases read
        · cases read
          exact all
      · cases read
    · cases read
      exact all
  next =>
    have mark : "xn--".toList.all (·.toNat < 128) = true := by decide
    cases read
    intro c inside
    rcases List.mem_append.mp inside with prefixed | encoded
    · simpa using List.all_eq_true.mp mark c prefixed
    · exact Punycode.encode_ascii label c encoded

theorem joined_member (separator c : Char) (parts : List (List Char)) (inside : c ∈ [separator].intercalate parts) :
    c = separator ∨ ∃ part ∈ parts, c ∈ part := by
  induction parts with
  | nil => simp at inside
  | cons part rest ih =>
      cases rest with
      | nil =>
          rw [List.intercalate_singleton] at inside
          exact .inr ⟨part, List.mem_cons_self, inside⟩
      | cons next more =>
          rw [List.intercalate_cons_cons, List.mem_append, List.mem_append, List.mem_singleton] at inside
          rcases inside with (first | apart) | others
          · exact .inr ⟨part, List.mem_cons_self, first⟩
          · exact .inl apart
          · exact (ih others).imp_right fun ⟨found, among, within⟩ => ⟨found, List.mem_cons_of_mem _ among, within⟩

theorem ascii_labels (labels forms : List (List Char)) (read : labels.mapM asciiLabel? = some forms) :
    ∀ form ∈ forms, ∀ c ∈ form, c.toNat < 128 := by
  induction labels generalizing forms with
  | nil =>
      cases read
      exact nofun
  | cons label rest ih =>
      simp only [List.mapM_cons, Option.bind_eq_bind, Option.bind_eq_some_iff] at read
      obtain ⟨form, first, others, more, same⟩ := read
      cases same
      exact List.forall_mem_cons.mpr ⟨ascii_label label form first, ih others more⟩

-- What is known of the ASCII form of a domain name, by whatever tables it was found.
structure ToAscii.IsProper (toAscii : ToAscii) : Prop where
  ascii : ∀ name domain, toAscii name = some domain → ∀ c ∈ domain, c.toNat < 128
  allowed : ∀ name domain, toAscii name = some domain → ∀ c ∈ domain, isForbiddenInDomain c = false

theorem folded_ascii_forms (name : List UInt8) (domain : List Char) (read : foldedAscii? name = some domain) :
    (∃ forms, (∀ form ∈ forms, ∀ c ∈ form, c.toNat < 128) ∧ domain = ['.'].intercalate forms) ∧
      domain.any isForbiddenInDomain = false := by
  simp only [foldedAscii?, Option.bind_eq_bind] at read
  split at read
  · cases read
  simp only [Option.bind_eq_some_iff] at read
  obtain ⟨forms, labels, read⟩ := read
  split at read
  · cases read
  next free =>
    cases read
    exact ⟨⟨forms, ascii_labels _ forms labels, rfl⟩, Bool.eq_false_iff.mpr free⟩

theorem folded_ascii_proper : ToAscii.IsProper foldedAscii? where
  ascii name domain read c inside := by
    obtain ⟨⟨forms, ascii, rfl⟩, -⟩ := folded_ascii_forms name domain read
    rcases joined_member '.' c forms inside with rfl | ⟨form, among, within⟩
    · decide
    · exact ascii form among c within
  allowed name domain read c inside := by
    obtain ⟨-, free⟩ := folded_ascii_forms name domain read
    exact Bool.eq_false_iff.mpr (List.any_eq_false.mp free c inside)

section

variable (toAscii : ToAscii) (proper : toAscii.IsProper)

include proper

theorem domain_host (host : List Char) (text : String) (read : domain? toAscii host = some text) : UrlHost text.toList := by
  simp only [domain?, Option.bind_eq_bind, Option.bind_eq_some_iff] at read
  obtain ⟨domain, form, read⟩ := read
  split at read
  · cases read
  next nonempty =>
    split at read
    · obtain ⟨ip, _, same⟩ := Option.map_eq_some_iff.mp read
      rw [← same]
      exact v4_host ip
    · cases read
      rw [String.toList_ofList]
      refine .name _ (fun none => nonempty (List.isEmpty_iff.mpr none)) fun c inside => ?_
      have ascii := proper.ascii _ domain form c inside
      have allowed := proper.allowed _ domain form c inside
      simp only [isForbiddenInDomain, Bool.or_eq_false_iff, decide_eq_false_iff_not, Nat.not_lt] at allowed
      obtain ⟨⟨⟨allowed, low⟩, -⟩, noDelete⟩ := allowed
      exact allowed_kind c low (by omega) allowed

theorem host_read (special : Bool) (host : List Char) (text : String) (read : host? toAscii special host = some text) :
    UrlHost text.toList := by
  unfold host? at read
  split at read
  · cases read
  next given =>
    split at read
    · exact bracketed_host host text read
    · split at read
      · exact domain_host toAscii proper host text read
      · exact opaque_host host text (fun none => given (List.isEmpty_iff.mpr none)) read

theorem authority_host (scheme : String) (input : List Char) (parts : Parts)
    (read : authority? toAscii scheme input = some parts) : UrlHost parts.host.toList := by
  simp only [authority?, Option.bind_eq_bind, Option.bind_eq_some_iff] at read
  obtain ⟨host, found, read⟩ := read
  split at read
  · obtain ⟨port, -, same⟩ := Option.bind_eq_some_iff.mp read
    cases same
    exact host_read toAscii proper _ _ host found
  · cases read
    exact host_read toAscii proper _ _ host found

theorem parse_host (text : String) (parts : Parts) (read : parse? toAscii text = some parts) :
    UrlHost parts.host.toList := by
  simp only [parse?, Option.bind_eq_bind, Option.bind_eq_some_iff] at read
  obtain ⟨⟨scheme, rest⟩, -, read⟩ := read
  dsimp only at read
  split at read
  · cases read
  · split at read
    · exact authority_host toAscii proper scheme _ parts read
    · split at read
      · exact authority_host toAscii proper scheme _ parts read
      · cases read

end

end Url

end Address

end ServiceHost
