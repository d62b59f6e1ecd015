import ServiceHost.Endpoint
import ServiceHost.Proofs.Json.Grammar
import ServiceHost.Proofs.Table

set_option autoImplicit false

namespace ServiceHost.Endpoint

open Json

-- The tree is a literal that stands for the text.
def Tells (tree : Syntax) (text : String) : Prop := ∃ literal, tree = .text literal ∧ StandsFor literal text.toList

-- What a tree says of the metadata. Null is as good as nothing, and of several members of a name the last counts.
inductive TellsMetadata : Syntax → Table String → Prop where
  | null : TellsMetadata .null ∅
  | listed {members : List (Literal × Syntax)} {pairs : List (String × String)} {metadata : Table String}
      (alike : List.Forall₂ (fun member pair => StandsFor member.1 pair.1.toList ∧ Tells member.2 pair.2) members pairs)
      (latest : ∀ key, metadata.get? key = (pairs.reverse.find? (·.1 == key)).map (·.2)) :
      TellsMetadata (.object members) metadata

def IsFurther (member : Literal × Syntax) : Prop :=
  ∃ name : String, StandsFor member.1 name.toList ∧ name ≠ "Addr" ∧ name ≠ "Metadata"

inductive Describes (endpoint : Endpoint) (members : List (Literal × Syntax)) : Prop where
  | whole (address metadata : Literal × Syntax) (further : List (Literal × Syntax))
      (named : StandsFor address.1 "Addr".toList) (located : Tells address.2 endpoint.address)
      (titled : StandsFor metadata.1 "Metadata".toList) (told : TellsMetadata metadata.2 endpoint.metadata)
      (others : ∀ member ∈ further, IsFurther member) (shuffled : members.Perm (address :: metadata :: further))
  | bare (address : Literal × Syntax) (further : List (Literal × Syntax))
      (named : StandsFor address.1 "Addr".toList) (located : Tells address.2 endpoint.address)
      (empty : endpoint.metadata = ∅) (others : ∀ member ∈ further, IsFurther member)
      (shuffled : members.Perm (address :: further))

theorem text_told (tree : Syntax) (text : String) (told : Tells tree text) : text? tree = some text := by
  obtain ⟨literal, rfl, stands⟩ := told
  exact text_of_stands literal text stands

def readItem (member : Literal × Syntax) : Option (String × String) := do
  let key ← member.1.text?
  let value ← text? member.2
  return (key, value)

theorem metadata_of_members (members : List (Literal × Syntax)) :
    metadata? (.object members) = (members.mapM readItem).map Table.ofList := by
  rw [Option.map_eq_bind]
  rfl

theorem items_read (members : List (Literal × Syntax)) (pairs : List (String × String))
    (alike : List.Forall₂ (fun member pair => StandsFor member.1 pair.1.toList ∧ Tells member.2 pair.2) members pairs) :
    members.mapM readItem = some pairs := by
  induction alike with
  | nil => rfl
  | @cons member pair _ _ first _ ih =>
      have read : readItem member = some pair := by
        simp [readItem, text_of_stands _ _ first.1, text_told _ _ first.2]
      rw [List.mapM_cons, read, ih]
      rfl

theorem metadata_told (tree : Syntax) (metadata : Table String) (told : TellsMetadata tree metadata) :
    metadata? tree = some metadata := by
  cases told with
  | null => rfl
  | @listed members pairs _ alike latest =>
      have table : Table.ofList pairs = metadata :=
        Table.ext_lookup fun key => (Table.lookup_of_list pairs key).trans (latest key).symm
      rw [metadata_of_members, items_read members pairs alike, Option.map_some, table]

inductive Part where
  | address (text : String)
  | metadata (table : Table String)
  | further

def part? (member : Literal × Syntax) : Option Part := do
  let name ← member.1.text?
  if name = "Addr" then (text? member.2).map .address
  else if name = "Metadata" then (metadata? member.2).map .metadata
  else some .further

def add (found : Option String × Option (Table String)) : Part → Option (Option String × Option (Table String))
  | .address text => if found.1.isSome then none else some (some text, found.2)
  | .metadata table => if found.2.isSome then none else some (found.1, some table)
  | .further => some found

theorem read_member_adds (found : Option String × Option (Table String)) (member : Literal × Syntax) :
    readMember found member = (part? member).bind (add found) := by
  unfold readMember part?
  cases member.1.text? with
  | none => rfl
  | some name =>
      by_cases address : name = "Addr"
      · cases known : found.1.isSome <;> cases text? member.2 <;> simp [address, add, known]
      · by_cases metadata : name = "Metadata"
        · cases known : found.2.isSome <;> cases metadata? member.2 <;> simp [metadata, add, known]
        · simp [address, metadata, add]

theorem add_commutes (found : Option String × Option (Table String)) (first second : Part) :
    (add found first).bind (add · second) = (add found second).bind (add · first) := by
  obtain ⟨address, metadata⟩ := found
  cases first <;> cases second <;> cases address <;> cases metadata <;> simp [add]

theorem members_shuffled (members others : List (Literal × Syntax)) (shuffled : members.Perm others)
    (found : Option String × Option (Table String)) : members.foldlM readMember found = others.foldlM readMember found := by
  induction shuffled generalizing found with
  | nil => rfl
  | cons member _ ih => simp only [List.foldlM_cons, ih]
  | swap first second rest =>
      simp only [List.foldlM_cons, Option.bind_eq_bind, ← Option.bind_assoc, read_member_adds]
      congr 1
      cases part? first with
      | none => cases part? second <;> simp
      | some one =>
          cases part? second with
          | none => simp
          | some other => exact add_commutes found other one
  | trans _ _ first second => exact (first found).trans (second found)

theorem address_part (member : Literal × Syntax) (text : String) (named : StandsFor member.1 "Addr".toList)
    (located : Tells member.2 text) : part? member = some (.address text) := by
  simp [part?, text_of_stands _ _ named, text_told _ _ located]

theorem metadata_part (member : Literal × Syntax) (metadata : Table String)
    (titled : StandsFor member.1 "Metadata".toList) (told : TellsMetadata member.2 metadata) :
    part? member = some (.metadata metadata) := by
  simp [part?, text_of_stands _ _ titled, metadata_told _ _ told]

theorem further_part (member : Literal × Syntax) (other : IsFurther member) : part? member = some .further := by
  obtain ⟨name, stands, noAddress, noMetadata⟩ := other
  simp [part?, text_of_stands _ _ stands, noAddress, noMetadata]

theorem further_skipped (further : List (Literal × Syntax)) (others : ∀ member ∈ further, IsFurther member)
    (found : Option String × Option (Table String)) : further.foldlM readMember found = some found := by
  induction further with
  | nil => rfl
  | cons member rest ih =>
      rw [List.foldlM_cons, read_member_adds, further_part member (others member List.mem_cons_self)]
      exact ih fun other inside => others other (List.mem_cons_of_mem _ inside)

theorem described_read (endpoint : Endpoint) (members : List (Literal × Syntax)) (describes : Describes endpoint members) :
    ofSyntax? (.object members) = some endpoint := by
  cases describes with
  | whole address metadata further named located titled told others shuffled =>
      have read : members.foldlM readMember (none, none) = some (some endpoint.address, some endpoint.metadata) := by
        rw [members_shuffled members _ shuffled, List.foldlM_cons, read_member_adds, address_part _ _ named located,
          Option.bind_some, add, if_neg (by simp), Option.bind_eq_bind, Option.bind_some, List.foldlM_cons,
          read_member_adds, metadata_part _ _ titled told, Option.bind_some, add, if_neg (by simp), Option.bind_eq_bind,
          Option.bind_some, further_skipped further others]
      simp [ofSyntax?, read]
  | bare address further named located empty others shuffled =>
      have read : members.foldlM readMember (none, none) = some (some endpoint.address, none) := by
        rw [members_shuffled members _ shuffled, List.foldlM_cons, read_member_adds, address_part _ _ named located,
          Option.bind_some, add, if_neg (by simp), Option.bind_eq_bind, Option.bind_some, further_skipped further others]
      simp [ofSyntax?, read, ← empty]

theorem decode_described (endpoint : Endpoint) (members : List (Literal × Syntax)) (bytes : List UInt8)
    (written : Padded (.object members) bytes) (describes : Describes endpoint members) : decode? bytes = some endpoint := by
  rw [decode?, read_written _ bytes written, Option.bind_some, described_read endpoint members describes]

theorem text_written (text : String) : ∃ tree, Writes tree (bytesOf (Tree.chars (.text text))) ∧ Tells tree text := by
  obtain ⟨literal, spelling, spells, spelt, stands⟩ := quote_spells text
  refine ⟨.text literal, ?_, literal, rfl, stands⟩
  rw [Tree.chars, bytesOf, spells]
  exact .text spelt

def item (pair : String × String) : String × Value := (pair.1, .text pair.2)

theorem latest_of_entries (metadata : Table String) (key : String) :
    metadata.get? key = (metadata.entries.reverse.find? (·.1 == key)).map (·.2) := by
  rw [← Table.lookup_of_list, Table.of_list_entries]

theorem metadata_written (metadata : Table String) :
    ∃ tree, Writes tree (bytesOf (Tree.chars (.object (metadata.entries.map item)))) ∧ TellsMetadata tree metadata := by
  by_cases empty : metadata.entries = []
  · refine ⟨.object [], ?_, .listed .nil fun key => ?_⟩
    · rw [empty]
      exact .noMembers blank_nil
    · rw [latest_of_entries, empty]
  · obtain ⟨members, written, alike⟩ := members_written
      (fun tree value => ∃ text, value = .text text ∧ Tells tree text) (metadata.entries.map item)
      (fun none => empty (List.map_eq_nil_iff.mp none)) (by
        intro pair inside
        obtain ⟨entry, _, rfl⟩ := List.mem_map.mp inside
        obtain ⟨tree, written, told⟩ := text_written entry.2
        exact ⟨tree, written, entry.2, rfl, told⟩)
    refine ⟨.object members, ?_, .listed ((List.forall₂_map_right_iff.mp alike).imp fun member pair first => ?_)
      (latest_of_entries metadata)⟩
    · rw [Tree.chars, List.cons_append, bytes_of_cons, bytes_of_append]
      exact .members written
    · obtain ⟨named, text, equal, told⟩ := first
      cases equal
      exact ⟨named, told⟩

theorem encode_describes (endpoint : Endpoint) :
    ∃ members, Padded (.object members) endpoint.encode ∧ Describes endpoint members := by
  obtain ⟨address, writtenAddress, located⟩ := text_written endpoint.address
  obtain ⟨metadata, writtenMetadata, told⟩ := metadata_written endpoint.metadata
  obtain ⟨first, one, named⟩ := member_written "Addr" _ address writtenAddress
  obtain ⟨second, other, titled⟩ := member_written "Metadata" _ metadata writtenMetadata
  have written : Writes (.object [(first, address), (second, metadata)]) (bytesOf endpoint.toJson.chars) := by
    rw [toJson, Tree.chars, memberChars, memberChars, List.cons_append, bytes_of_cons, bytes_of_append, bytes_of_append,
      bytes_of_cons, List.append_assoc]
    · exact .members (.more one (.last other))
    · exact List.cons_ne_nil _ _
  have padded := Padded.between blank_nil written blank_nil
  rw [List.nil_append, List.append_nil] at padded
  refine ⟨_, ?_, .whole (first, address) (second, metadata) [] named located titled told (List.forall_mem_nil _) (.refl _)⟩
  rw [encode, Tree.renderBytes, Tree.render, Utf8.encode, String.toList_ofList]
  exact padded

theorem decode_encode (endpoint : Endpoint) : decode? endpoint.encode = some endpoint := by
  obtain ⟨members, written, describes⟩ := encode_describes endpoint
  exact decode_described endpoint members endpoint.encode written describes

-- What is stored for an endpoint is an object that describes it, and every text of such an object is read as that endpoint.
theorem endpoint_read_back (endpoint : Endpoint) :
    (∃ members, Padded (.object members) endpoint.encode ∧ Describes endpoint members) ∧
      decode? endpoint.encode = some endpoint ∧
      ∀ members bytes, Padded (.object members) bytes → Describes endpoint members → decode? bytes = some endpoint :=
  ⟨encode_describes endpoint, decode_encode endpoint, decode_described endpoint⟩

-- A member that no endpoint has, the others the wrong way round, an escape where none is needed, and blanks.
def zoned : Endpoint := { address := "h:1", metadata := .ofList [("zone", "a")] }

def zonedMembers : List (Literal × Syntax) :=
  [(.ofString "Op", .null), (.ofString "Metadata", .object [(.ofString "zone", .text [.unit 0x61])]),
    (.ofString "Addr", .text (.ofString "h:1"))]

def zonedText : List UInt8 :=
  Utf8.encode "\x7b \"Op\":null,\"Metadata\":\x7b\"zone\":\"\\u0061\"\x7d,\"Addr\":\"h:1\" \x7d"

theorem zoned_written : Padded (.object zonedMembers) zonedText := by
  have space : Blank [0x20] := by simp [Blank, isSpace]
  have plain (text : String) (fits : ∀ byte ∈ Utf8.encode text, ¬ byte < 0x20 ∧ byte ≠ 0x22 ∧ byte ≠ 0x5C) :
      SpellsAll (Literal.ofString text) (Utf8.encode text) := spells_bytes _ fits
  have escaped : SpellsAll [.unit 0x61] [0x5C, 0x75, 0x30, 0x30, 0x36, 0x31] :=
    .cons (.code 0x30 0x30 0x36 0x31 0 0 6 1 rfl rfl rfl rfl) .nil
  have zone := WritesMember.named blank_nil (plain "zone" (by decide +kernel)) blank_nil
    (.between blank_nil (.text escaped) blank_nil)
  have op := WritesMember.named space (plain "Op" (by decide +kernel)) blank_nil (.between blank_nil .null blank_nil)
  have metadata := WritesMember.named blank_nil (plain "Metadata" (by decide +kernel)) blank_nil
    (.between blank_nil (.members (.last zone)) blank_nil)
  have address := WritesMember.named blank_nil (plain "Addr" (by decide +kernel)) blank_nil
    (.between blank_nil (.text (plain "h:1" (by decide +kernel))) space)
  have padded := Padded.between blank_nil (.members (.more op (.more metadata (.last address)))) blank_nil
  exact padded

theorem zoned_described : Describes zoned zonedMembers := by
  have stands (text : String) : StandsFor (Literal.ofString text) text.toList := stands_plain text.toList
  have zone : Tells (.text [.unit 0x61]) "a" := ⟨_, rfl, .code 'a' (by decide) .nil⟩
  have told : TellsMetadata (.object [(.ofString "zone", .text [.unit 0x61])]) zoned.metadata :=
    .listed (.cons ⟨stands "zone", zone⟩ .nil) (Table.lookup_of_list [("zone", "a")])
  have others : ∀ member ∈ [(Literal.ofString "Op", Tree.null)], IsFurther member := by
    intro member inside
    rw [List.mem_singleton.mp inside]
    exact ⟨"Op", stands "Op", by decide, by decide⟩
  exact .whole (.ofString "Addr", .text (.ofString "h:1")) (.ofString "Metadata", _) _ (stands "Addr")
    ⟨_, rfl, stands "h:1"⟩ (stands "Metadata") told others (List.reverse_perm zonedMembers).symm

theorem endpoint_read_back_reordered :
    Padded (.object zonedMembers) zonedText ∧ Describes zoned zonedMembers ∧ decode? zonedText = some zoned :=
  ⟨zoned_written, zoned_described, (endpoint_read_back zoned).2.2 zonedMembers zonedText zoned_written zoned_described⟩

end ServiceHost.Endpoint
