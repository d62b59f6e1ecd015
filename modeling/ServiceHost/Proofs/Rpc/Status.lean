import ServiceHost.Proofs.Http.Envelope
import ServiceHost.Proofs.Text.Percent
import ServiceHost.Rpc.Status

set_option autoImplicit false

namespace ServiceHost.Rpc

open Http

theorem Code.number_read (code : Code) : Code.ofInt code.number = code ∧
    Decimal.signed? 32 (toString code.number).toList = some (code.number : Int) ∧
      (Utf8.encode (toString code.number)).all Headers.isVisible = true := by
  cases code <;> decide +kernel

namespace Status

theorem plain_range (byte : UInt8) (plain : isPlainByte byte = true) : 0x20 ≤ byte.toNat ∧ byte.toNat ≤ 0x7E := by
  simp only [isPlainByte, Bool.and_eq_true, decide_eq_true_eq, UInt8.le_iff_toNat_le] at plain
  exact plain.1

theorem plain_ascii (byte : UInt8) (plain : isPlainByte byte = true) : byte.toNat < 128 := by
  have range := plain_range byte plain
  omega

theorem encode_message_bytes (message : String) : Utf8.encode (encodeMessage message) =
    (Percent.encode isPlainByte (Utf8.encode message)).flatMap String.utf8EncodeChar := by
  rw [encodeMessage, Utf8.encode, String.toList_ofList]

theorem message_read_back (message : String) : decodeMessage (encodeMessage message) = message := by
  have decoded := Percent.decode_encode Percent.signedPairValue isPlainByte (by decide) plain_ascii Percent.signed_pair_read
    (Utf8.encode message)
  rw [decodeMessage, encode_message_bytes, decoded, Utf8.decode_lossy_encode]

theorem message_printable (message : String) (byte : UInt8) (written : byte ∈ Utf8.encode (encodeMessage message)) :
    0x20 ≤ byte.toNat ∧ byte.toNat ≤ 0x7E := by
  rw [encode_message_bytes] at written
  rcases Percent.encode_bytes isPlainByte plain_ascii _ byte written with plain | rfl | digit
  · exact plain_range byte plain
  · decide
  · omega

theorem printable_visible (value : List UInt8) (printable : ∀ byte ∈ value, 0x20 ≤ byte.toNat ∧ byte.toNat ≤ 0x7E) :
    value.all Headers.isVisible = true := by
  refine List.all_eq_true.mpr fun byte inside => ?_
  have range := printable byte inside
  simp only [Headers.isVisible, Bool.or_eq_true, Bool.and_eq_true, decide_eq_true_eq, UInt8.le_iff_toNat_le,
    UInt8.lt_iff_toNat_lt]
  exact .inr ⟨range.1, Nat.lt_succ_of_le range.2⟩

theorem visible_value (value : List UInt8) (visible : value.all Headers.isVisible = true) :
    value.all Headers.isValueByte = true := by
  refine List.all_eq_true.mpr fun byte inside => ?_
  have shown := List.all_eq_true.mp visible byte inside
  simp only [Headers.isVisible, Headers.isValueByte, Bool.or_eq_true, Bool.and_eq_true, decide_eq_true_eq] at shown ⊢
  rcases shown with tab | within
  · exact .inl tab
  · have different : byte ≠ 127 := fun same => absurd (same ▸ within.2) (by decide)
    exact .inr ⟨within.1, different⟩

theorem message_visible (message : String) : (Utf8.encode (encodeMessage message)).all Headers.isVisible = true :=
  printable_visible _ (message_printable message)

theorem headers_written (status : Status) : status.response.headers =
    [("content-type", Utf8.encode "application/grpc"), (codeHeader, Utf8.encode (toString status.code.number)),
      (messageHeader, Utf8.encode (encodeMessage status.message))] := by
  have valid := visible_value _ (message_visible status.message)
  simp only [response, headers, valid, if_true, List.cons_append, List.nil_append]

theorem header_names : Headers.sameName "content-type" codeHeader = false ∧
    Headers.sameName "content-type" messageHeader = false ∧ Headers.sameName codeHeader messageHeader = false ∧
      Headers.sameName messageHeader codeHeader = false := by
  decide +kernel

theorem response_read (status : Status) : ofHeaders? status.response.headers = some status := by
  obtain ⟨typeCode, typeMessage, codeMessage, -⟩ := header_names
  obtain ⟨known, number, visible⟩ := status.code.number_read
  have code : status.response.headers.get? codeHeader = some (Utf8.encode (toString status.code.number)) := by
    simp [headers_written, Headers.get?, typeCode]
  have message : status.response.headers.get? messageHeader = some (Utf8.encode (encodeMessage status.message)) := by
    simp [headers_written, Headers.get?, typeMessage, codeMessage]
  have text := encoding_read _ (message_visible status.message)
  simp only [ofHeaders?, code, message, encoding_read _ visible, number, known, text, message_read_back, Option.bind_eq_bind,
    Option.bind_some, Option.map_some, Option.getD_some]
  rfl

-- A message is always carried, in printable ASCII, and the headers give back the whole status.
theorem status_carried (status : Status) :
    status.response.headers.all messageHeader = [Utf8.encode (encodeMessage status.message)] ∧
      (Utf8.encode (encodeMessage status.message)).all Headers.isValueByte = true ∧
      (∀ byte ∈ Utf8.encode (encodeMessage status.message), 0x20 ≤ byte.toNat ∧ byte.toNat ≤ 0x7E) ∧
      ofHeaders? status.response.headers = some status := by
  obtain ⟨-, typeMessage, codeMessage, -⟩ := header_names
  refine ⟨?_, visible_value _ (message_visible status.message), message_printable status.message, response_read status⟩
  simp [headers_written, Headers.all, typeMessage, codeMessage]

end Status

end ServiceHost.Rpc
