import ServiceHost.Http.Handler
import ServiceHost.Http.Label
import ServiceHost.Json.Record
import ServiceHost.Proofs.Endpoint
import ServiceHost.Proofs.Json.Decimal

set_option autoImplicit false

namespace ServiceHost.Http

open Json

namespace ErrorBody

structure Found where
  status : Option Nat := none
  message : Option String := none
  requestId : Option String := none

def status? : Syntax → Option Nat
  | .number numeral => numeral.toU64?.filter (· < 65536)
  | _ => none

def readMember (found : Found) (member : Literal × Syntax) : Option Found := do
  let name ← member.1.text?
  if name = "status" then
    if found.status.isSome then none else (status? member.2).map fun status => { found with status }
  else if name = "message" then
    if found.message.isSome then none else (Tree.textOf? member.2).map fun message => { found with message }
  else if name = "request_id" then
    if found.requestId.isSome then none else (Tree.textOf? member.2).map fun requestId => { found with requestId }
  else return found

def ofSyntax? : Syntax → Option ErrorBody
  | .object members => do
      let found ← members.foldlM readMember {}
      return { status := ← found.status, message := ← found.message, requestId := ← found.requestId }
  | .array [status, message, requestId] => do
      return { status := ← status? status, message := ← Tree.textOf? message, requestId := ← Tree.textOf? requestId }
  | _ => none

def decode? (bytes : List UInt8) : Option ErrorBody := (read bytes).bind ofSyntax?

-- The trees that are written for the items of an envelope.
inductive Stands : Syntax → Value → Prop where
  | number (n : Nat) : Stands (.number { whole := n }) (.ofNat n)
  | text (literal : Literal) (text : String) (stands : StandsFor literal text.toList) : Stands (.text literal) (.text text)

theorem status_of_stands (tree : Syntax) (n : Nat) (stands : Stands tree (.ofNat n)) (small : n < 65536) :
    status? tree = some n := by
  cases stands with
  | number =>
      have whole : Numeral.toU64? { whole := n } = some n := by
        simp [Numeral.toU64?, Numeral.toInt?, Option.filter]
        omega
      simp [status?, whole, small]

theorem text_of_tree (tree : Syntax) (text : String) (stands : Stands tree (.text text)) : Tree.textOf? tree = some text := by
  cases stands with
  | text literal _ stands => exact text_of_stands literal text stands

theorem items_stand (body : ErrorBody) (pair : String × Value)
    (inside : pair ∈ [("status", .ofNat body.status), ("message", .text body.message), ("request_id", .text body.requestId)]) :
    ∃ tree, Writes tree (bytesOf pair.2.chars) ∧ Stands tree pair.2 := by
  have text (content : String) : ∃ tree, Writes tree (bytesOf (Tree.chars (.text content))) ∧ Stands tree (.text content) := by
    obtain ⟨_, written, literal, rfl, stands⟩ := Endpoint.text_written content
    exact ⟨_, written, .text literal content stands⟩
  simp only [List.mem_cons, List.not_mem_nil, or_false] at inside
  rcases inside with rfl | rfl | rfl
  · exact ⟨_, nat_written body.status, .number body.status⟩
  · exact text body.message
  · exact text body.requestId

theorem decode_encode (body : ErrorBody) (small : body.status < 65536) : decode? body.toJson.renderBytes = some body := by
  obtain ⟨members, written, alike⟩ := members_written Stands _ (List.cons_ne_nil _ _) (items_stand body)
  have padded := Padded.between blank_nil (.members written) blank_nil
  have bytes : body.toJson.renderBytes = 0x7B :: (bytesOf (memberChars [("status", .ofNat body.status),
      ("message", .text body.message), ("request_id", .text body.requestId)]) ++ [0x7D]) := by
    rw [Tree.renderBytes, Tree.render, Utf8.encode, String.toList_ofList, toJson, Tree.chars]
    exact congrArg _ (bytes_of_append _ _)
  rw [List.nil_append, List.append_nil, ← bytes] at padded
  rw [decode?, read_written _ _ padded, Option.bind_some, ofSyntax?]
  rcases alike with _ | ⟨⟨statusName, status⟩, _ | ⟨⟨messageName, message⟩, _ | ⟨⟨idName, requestId⟩, ⟨⟩⟩⟩⟩
  simp [readMember, text_of_stands _ _ statusName, text_of_stands _ _ messageName, text_of_stands _ _ idName,
    status_of_stands _ _ status small, text_of_tree _ _ message, text_of_tree _ _ requestId]

end ErrorBody

theorem visible_byte (byte : UInt8) (visible : Headers.isVisible byte = true) :
    String.utf8EncodeChar (charOf byte) = [byte] := by
  have small : byte.toNat < 128 := by
    simp only [Headers.isVisible, Bool.or_eq_true, Bool.and_eq_true, decide_eq_true_eq, UInt8.lt_iff_toNat_lt] at visible
    rcases visible with rfl | ⟨-, below⟩
    · decide
    · exact Nat.lt_succ_of_lt below
  exact Utf8.char_of_ascii byte small

theorem visible_read (value : List UInt8) (visible : value.all Headers.isVisible = true) :
    ∃ text, Headers.readable? value = some text ∧ Utf8.encode text = value := by
  refine ⟨String.ofList (value.map charOf), if_pos visible, ?_⟩
  rw [Utf8.encode, String.toList_ofList]
  induction value with
  | nil => rfl
  | cons byte rest ih =>
      rw [List.all_cons, Bool.and_eq_true] at visible
      rw [List.map_cons, List.flatMap_cons, visible_byte byte visible.1, ih visible.2, List.singleton_append]

theorem encoding_read (text : String) (visible : (Utf8.encode text).all Headers.isVisible = true) :
    Headers.readable? (Utf8.encode text) = some text := by
  obtain ⟨found, readable, spelt⟩ := visible_read _ visible
  have same := congrArg Utf8.decode? spelt
  rw [Utf8.decode_encode, Utf8.decode_encode] at same
  rw [readable, Option.some.inj same]

def IsUuidChar (c : Char) : Prop := ('0' ≤ c ∧ c ≤ '9') ∨ ('a' ≤ c ∧ c ≤ 'f') ∨ c = '-'

instance (c : Char) : Decidable (IsUuidChar c) := inferInstanceAs (Decidable (_ ∨ _ ∨ _))

theorem fresh_visible (fresh : String) (uuid : ∀ c ∈ fresh.toList, IsUuidChar c) :
    (Utf8.encode fresh).all Headers.isVisible = true := by
  refine List.all_eq_true.mpr fun byte inside => ?_
  obtain ⟨c, listed, among⟩ := List.mem_flatMap.mp inside
  have range : 0x20 ≤ c.toNat ∧ c.toNat < 0x7F := by
    rcases uuid c listed with digit | letter | rfl
    · have code : 48 ≤ c.toNat ∧ c.toNat ≤ 57 := digit
      omega
    · have code : 97 ≤ c.toNat ∧ c.toNat ≤ 102 := letter
      omega
    · decide
  rw [Utf8.bytes_of_char, if_pos (by omega), List.mem_singleton] at among
  have value : byte.toNat = c.toNat := among ▸ Nat.mod_eq_of_lt (by omega)
  simp only [Headers.isVisible, Bool.or_eq_true, Bool.and_eq_true, decide_eq_true_eq, UInt8.lt_iff_toNat_lt,
    UInt8.le_iff_toNat_le, value]
  exact .inr range

theorem error_body (status : Nat) (message requestId : String) :
    (errorResponse status message requestId).body = (ErrorBody.toJson { status, message, requestId }).renderBytes := by
  simp only [errorResponse, Response.ofJson]

theorem error_decoded (status : Nat) (message requestId : String) (small : status < 65536) :
    ErrorBody.decode? (errorResponse status message requestId).body = some { status, message, requestId } := by
  rw [error_body, ErrorBody.decode_encode { status, message, requestId } small]

theorem error_trimmed (method : Method) (status : Nat) (message requestId : String) (failed : status / 100 ≠ 2) :
    ((errorResponse status message requestId).trim method).status = status ∧
      ((errorResponse status message requestId).trim method).headers.get? requestIdHeader = none ∧
      ((errorResponse status message requestId).trim method).body =
        if method = .head then [] else (errorResponse status message requestId).body := by
  have nameless : Headers.sameName "content-type" requestIdHeader = false := by decide +kernel
  cases method <;> simp [Response.trim, errorResponse, Response.ofJson, failed, Headers.get?, nameless]

@[simp] theorem same_name_self (name : String) : Headers.sameName name name = true := beq_self_eq_true _

theorem identified_method (fresh : String) (request : Request) : (request.identified fresh).method = request.method := by
  unfold Request.identified
  split <;> rfl

theorem identified_id (fresh : String) (request : Request) :
    (request.identified fresh).headers.get? requestIdHeader =
      some ((request.headers.get? requestIdHeader).getD (Utf8.encode fresh)) := by
  unfold Request.identified
  cases given : request.headers.get? requestIdHeader with
  | some id => simp [given]
  | none =>
      have missing := Option.map_eq_none_iff.mp given
      simp [Headers.get?, List.find?_append, missing]

theorem labelled_id (request : Request) (identity : List UInt8) (response : Response)
    (own : response.headers.get? requestIdHeader = none) :
    (response.labelled request identity).headers.all requestIdHeader =
      (request.headers.get? requestIdHeader).toList := by
  have other : Headers.sameName serviceHeader requestIdHeader = false := by decide +kernel
  have missing : ∀ header ∈ response.headers.set serviceHeader identity, ¬Headers.sameName header.1 requestIdHeader = true := by
    intro header inside
    rcases List.mem_append.mp inside with kept | added
    · exact List.find?_eq_none.mp (Option.map_eq_none_iff.mp own) header (List.mem_of_mem_filter kept)
    · rw [List.mem_singleton.mp added, other]
      exact Bool.false_ne_true
  have none_yet : (response.headers.set serviceHeader identity).get? requestIdHeader = none :=
    Option.map_eq_none_iff.mpr (List.find?_eq_none.mpr missing)
  rw [Response.labelled, none_yet, Option.isSome_none, if_neg Bool.false_ne_true, Headers.all, List.filter_append,
    List.filter_eq_nil_iff.mpr missing, List.nil_append]
  cases request.headers.get? requestIdHeader with
  | none => rfl
  | some id => simp

theorem label_keeps (request : Request) (identity : List UInt8) (response : Response) :
    (response.labelled request identity).status = response.status ∧
      (response.labelled request identity).body = response.body := by
  unfold Response.labelled
  dsimp only
  split <;> exact ⟨rfl, rfl⟩

end ServiceHost.Http
