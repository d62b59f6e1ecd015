import ServiceHost.Proofs.Rpc.Status
import ServiceHost.Proofs.Text.Escapes

set_option autoImplicit false

namespace ServiceHost.Rpc.Status

open Http Percent

theorem message_of_headers (headers : Headers) (number : Int) (value : List UInt8)
    (code : ((headers.get? codeHeader).bind Headers.readable?).bind (fun text => Decimal.signed? 32 text.toList) = some number)
    (carried : headers.get? messageHeader = some value) (visible : value.all Headers.isVisible = true) :
    ofHeaders? headers =
      some { code := .ofInt number, message := Utf8.decodeLossy (decode signedPairValue value) } := by
  obtain ⟨written, found, read⟩ := Option.bind_eq_some_iff.mp code
  obtain ⟨line, present, readable⟩ := Option.bind_eq_some_iff.mp found
  obtain ⟨text, shown, spelt⟩ := visible_read value visible
  simp only [ofHeaders?, present, readable, read, carried, shown, decodeMessage, spelt, Option.bind_eq_bind, Option.bind_some,
    Option.map_some, Option.getD_some]
  rfl

-- Every header text is read like this. It is read as its writer meant it exactly if no percent sign stands before a plus sign
-- and a digit.
theorem escapes_read_unless_signed (headers : Headers) (number : Int) (value : List UInt8)
    (code : ((headers.get? codeHeader).bind Headers.readable?).bind (fun text => Decimal.signed? 32 text.toList) = some number)
    (carried : headers.get? messageHeader = some value) (visible : value.all Headers.isVisible = true) :
    ofHeaders? headers =
        some { code := .ofInt number, message := Utf8.decodeLossy (unescaped signedPairValue value) } ∧
      (∀ place, escapeAt? signedPairValue value place =
        (escapeAt? pairValue value place).or (escapeAt? plusPair value place)) ∧
      (∀ first second one two, first < second → escapeAt? signedPairValue value first = some one →
        escapeAt? signedPairValue value second = some two → first + 3 ≤ second) ∧
      (unescaped signedPairValue value = unescaped pairValue value ↔ ∀ place, escapeAt? plusPair value place = none) := by
  obtain ⟨replaced, -⟩ := decode_replaces signedPairValue signed_pair_signless value
  obtain ⟨meant, -⟩ := decode_replaces pairValue pair_signless value
  refine ⟨?_, escape_signed value, escapes_apart signedPairValue signed_pair_signless value, ?_⟩
  · rw [message_of_headers headers number value code carried visible, replaced]
  · rw [← replaced, ← meant]
    exact decode_signed_iff value

-- Escapes in both cases, one that makes no text, and percent signs without one, the last of them at the end.
def foreign : List UInt8 := Utf8.encode "%c3%A9%FF5%+%4g%7"

theorem escapes_read_unless_signed_foreign :
    ofHeaders? [("grpc-status", Utf8.encode "5"), ("grpc-message", foreign)] =
        some { code := .notFound, message := Utf8.decodeLossy (unescaped pairValue foreign) } ∧
      Utf8.decodeLossy (unescaped pairValue foreign) = "é\uFFFD5%+%4g%7" := by
  obtain ⟨read, -, -, meant⟩ := escapes_read_unless_signed [("grpc-status", Utf8.encode "5"), ("grpc-message", foreign)]
    5 foreign (by decide +kernel) (by decide +kernel) (by decide +kernel)
  have unsigned (place : Nat) : escapeAt? plusPair foreign place = none :=
    escape_absent plusPair foreign (by decide +kernel) place
  rw [meant.mpr unsigned] at read
  exact ⟨read, by decide +kernel⟩

-- A text without a single escape loses a percent sign and a plus sign.
def discount : List UInt8 := Utf8.encode "50%+5 off"

theorem plus_sign_read_as_escape :
    ofHeaders? [("grpc-status", Utf8.encode "2"), ("grpc-message", discount)] =
        some { code := .unknown, message := "50\x05 off" } ∧
      (∀ place, escapeAt? pairValue discount place = none) ∧
      Utf8.decodeLossy (unescaped pairValue discount) = "50%+5 off" :=
  ⟨by decide +kernel, escape_absent pairValue discount (by decide +kernel), by decide +kernel⟩

end ServiceHost.Rpc.Status
