import ServiceHost.Proofs.Http.Pattern
import ServiceHost.Proofs.Http.Router
import ServiceHost.Proofs.Registration.Naming
import ServiceHost.Rpc.Services

set_option autoImplicit false

namespace ServiceHost.Rpc

open Http

namespace Descriptor

def parts (descriptor : Descriptor) : List String :=
  match descriptor.methods with
  | [] => ["\x7bmethod\x7d"]
  | methods => methods

def readParts? (descriptor : Descriptor) : Option (List Segment) :=
  descriptor.parts.mapM fun part => Segment.ofChars? part.toList

def IsRoutable (descriptor : Descriptor) : Prop :=
  ∃ segments, descriptor.readParts? = some segments ∧ segments.Pairwise fun a b => Pattern.conflicts [a] [b] = false

def Serves (descriptor : Descriptor) (path : String) : Prop :=
  ∃ part ∈ descriptor.parts, ∃ segment, Segment.ofChars? part.toList = some segment ∧
    ∃ tail, path.toList = (descriptor.path "").toList ++ tail ∧ segment.Covers tail

def Declares (descriptor : Descriptor) (path : String) : Prop :=
  ∃ method, path = descriptor.path method ∧
    (method ∈ descriptor.methods ∨ descriptor.methods = [] ∧ method ≠ "" ∧ '/' ∉ method.toList)

def IsPlain (descriptor : Descriptor) : Prop := ∀ method ∈ descriptor.methods, Segment.IsPlain method.toList

structure IsSound (descriptor : Descriptor) : Prop where
  named : Name.isValid descriptor.name = true
  listed : ∀ method ∈ descriptor.methods, method ≠ "" ∧ '/' ∉ method.toList
  unrepeated : descriptor.methods.Nodup

theorem method_fault_free_iff (name : String) (earlier methods : List String) :
    methodFault? name earlier methods = none ↔ (∀ method ∈ methods, method ≠ "" ∧ '/' ∉ method.toList) ∧
      (∀ method ∈ methods, method ∉ earlier) ∧ methods.Nodup := by
  induction methods generalizing earlier with
  | nil => simp [methodFault?]
  | cons method rest ih =>
      unfold methodFault?
      by_cases malformed : method = "" ∨ '/' ∈ method.toList
      · rw [if_pos malformed]
        refine ⟨nofun, fun sound => ?_⟩
        have formed := sound.1 method List.mem_cons_self
        exact absurd malformed (not_or.mpr formed)
      · rw [if_neg malformed]
        by_cases seen : method ∈ earlier
        · rw [if_pos seen]
          exact ⟨nofun, fun sound => absurd seen (sound.2.1 method List.mem_cons_self)⟩
        · rw [if_neg seen, ih]
          have formed := not_or.mp malformed
          simp only [List.forall_mem_cons]
          simp only [List.mem_cons, not_or, List.nodup_cons]
          constructor
          · rintro ⟨listed, fresh, unrepeated⟩
            refine ⟨⟨formed, listed⟩, ⟨seen, fun other inside => (fresh other inside).2⟩, fun again => ?_, unrepeated⟩
            exact (fresh method again).1 rfl
          · rintro ⟨⟨_, listed⟩, ⟨_, fresh⟩, once, unrepeated⟩
            exact ⟨listed, fun other inside => ⟨fun same => once (same ▸ inside), fresh other inside⟩, unrepeated⟩

theorem fault_free_iff (descriptor : Descriptor) : descriptor.fault? = none ↔ descriptor.IsSound := by
  unfold fault?
  cases named : Name.isValid descriptor.name with
  | false =>
      refine ⟨fun clear => ?_, fun sound => ?_⟩
      · simp at clear
      · rw [sound.named] at named
        cases named
  | true =>
      simp only [Bool.not_true, Bool.false_eq_true, if_false, method_fault_free_iff, List.not_mem_nil, not_false_eq_true,
        implies_true, true_and]
      exact ⟨fun ⟨listed, unrepeated⟩ => ⟨named, listed, unrepeated⟩, fun sound => ⟨sound.listed, sound.unrepeated⟩⟩

theorem path_chars (descriptor : Descriptor) (method : String) :
    (descriptor.path method).toList = '/' :: (descriptor.name.toList ++ '/' :: method.toList) := by
  simp [path]

theorem under_name_iff (descriptor : Descriptor) (path : String) (tail : List Char) :
    path.toList = (descriptor.path "").toList ++ tail ↔ path.toList = '/' :: (descriptor.name.toList ++ '/' :: tail) := by
  simp [path_chars]

theorem valid_plain (name : String) (valid : Name.isValid name = true) : Segment.IsPlain name.toList := by
  have all := List.all_eq_true.mp (Bool.and_eq_true_iff.mp valid).2
  refine ⟨fun first => ?_, fun first => ?_, fun inside => ?_, fun inside => ?_⟩
  · cases all ':' (List.mem_of_head? first)
  · cases all '*' (List.mem_of_head? first)
  · cases all '\x7b' inside
  · cases all '\x7d' inside

theorem parts_slash_free (descriptor : Descriptor) (sound : descriptor.IsSound) :
    ∀ part ∈ descriptor.parts, '/' ∉ part.toList := by
  intro part inside
  unfold parts at inside
  split at inside
  · rw [List.mem_singleton.mp inside]
    decide
  · exact (sound.listed part inside).2

theorem segment_iff (descriptor : Descriptor) (segments : List Segment) (read : descriptor.readParts? = some segments)
    (segment : Segment) :
    segment ∈ segments ↔ ∃ part ∈ descriptor.parts, Segment.ofChars? part.toList = some segment := by
  unfold readParts? at read
  generalize descriptor.parts = parts at read
  induction parts generalizing segments with
  | nil =>
      cases read
      simp
  | cons part rest ih =>
      rw [List.mapM_cons] at read
      obtain ⟨first, reading, read⟩ := Option.bind_eq_some_iff.mp read
      obtain ⟨others, remaining, read⟩ := Option.bind_eq_some_iff.mp read
      cases read
      simp [ih others remaining, reading, eq_comm (a := segment)]

theorem path_pattern (descriptor : Descriptor) (named : Name.isValid descriptor.name = true) (part : String)
    (free : '/' ∉ part.toList) : Pattern.ofText? (descriptor.path part) =
      (Segment.ofChars? part.toList).map fun segment => [.literal descriptor.name.toList, segment] := by
  have split : segments? (descriptor.path part).toList = some [descriptor.name.toList, part.toList] := by
    rw [path_chars, segments?, List.splitOn_append_cons_self_of_not_mem (Registration.valid_slash_free _ named),
      List.splitOn_eq_singleton free]
  have first := Segment.plain_literal _ (valid_plain _ named)
  rw [Pattern.ofText?, split, Option.bind_some, Pattern.ofSegments?, first]
  cases read : Segment.ofChars? part.toList with
  | none => simp [Pattern.ofSegments?, read]
  | some segment => simp [Pattern.ofSegments?, read, Segment.takesRemainder]

theorem plain_routable (descriptor : Descriptor) (sound : descriptor.IsSound) (plain : descriptor.IsPlain) :
    descriptor.IsRoutable := by
  unfold IsRoutable readParts? parts
  split
  · exact ⟨[.capture [] "method"], by decide +kernel, List.pairwise_singleton _ _⟩
  · refine ⟨descriptor.methods.map fun method => .literal method.toList, ?_, ?_⟩
    · have read : ∀ methods : List String, (∀ method ∈ methods, Segment.IsPlain method.toList) →
          methods.mapM (fun part => Segment.ofChars? part.toList) = some (methods.map fun method => .literal method.toList) := by
        intro methods all
        induction methods with
        | nil => rfl
        | cons method rest ih =>
            rw [List.forall_mem_cons] at all
            simp [List.mapM_cons, Segment.plain_literal _ all.1, ih all.2]
      exact read _ plain
    · rw [List.pairwise_map]
      exact sound.unrepeated.imp fun different => by simpa [Pattern.conflicts, String.toList_inj] using different

-- Plain methods are served at their own paths and nowhere else.
theorem plain_serves_iff (descriptor : Descriptor) (sound : descriptor.IsSound) (plain : descriptor.IsPlain) (path : String) :
    descriptor.Serves path ↔ descriptor.Declares path := by
  have spelt (method : String) : path = descriptor.path method ↔
      path.toList = (descriptor.path "").toList ++ method.toList := by
    rw [under_name_iff, ← path_chars, String.toList_inj]
  cases listed : descriptor.methods with
  | nil =>
      have anything : Segment.ofChars? "\x7bmethod\x7d".toList = some (.capture [] "method") := by decide +kernel
      have parts : descriptor.parts = ["\x7bmethod\x7d"] := by simp [parts, listed]
      unfold Serves Declares
      constructor
      · rintro ⟨part, inside, segment, read, tail, under, covered⟩
        rw [parts, List.mem_singleton] at inside
        rw [inside, anything] at read
        cases read
        obtain ⟨free, _, some_tail, rfl⟩ := covered
        refine ⟨String.ofList tail, (spelt _).mpr (by simpa using under), .inr ⟨listed, ?_, by simpa using free⟩⟩
        exact fun empty => some_tail (by simpa using congrArg String.toList empty)
      · rintro ⟨method, rfl, declared⟩
        obtain ⟨-, nonempty, free⟩ := declared.resolve_left (by simp [listed])
        refine ⟨_, parts ▸ List.mem_singleton_self _, _, anything, method.toList, (spelt method).mp rfl, free, ?_⟩
        exact ⟨method.toList, fun empty => nonempty (String.toList_inj.mp empty), rfl⟩
  | cons first rest =>
      have parts : descriptor.parts = descriptor.methods := by simp [parts, listed]
      unfold Serves Declares
      constructor
      · rintro ⟨part, inside, segment, read, tail, under, covered⟩
        rw [parts] at inside
        rw [Segment.plain_literal _ (plain part inside)] at read
        cases read
        obtain ⟨-, rfl⟩ := covered
        exact ⟨part, (spelt part).mpr under, .inl inside⟩
      · rintro ⟨method, rfl, declared⟩
        have inside := declared.resolve_right (by simp [listed])
        refine ⟨method, parts ▸ inside, _, Segment.plain_literal _ (plain method inside), method.toList, (spelt method).mp rfl, ?_⟩
        exact ⟨(sound.listed method inside).2, rfl⟩

end Descriptor

namespace Service

def route (service : Service) (segment : Segment) : Route Handler :=
  { pattern := [.literal service.descriptor.name.toList, segment], accepts := .any, handler := service.handler }

theorem paths_eq (service : Service) : service.paths = service.descriptor.parts.map service.descriptor.path := by
  unfold paths Descriptor.parts
  split <;> simp_all

theorem patterns_eq (service : Service) (named : Name.isValid service.descriptor.name = true) (parts : List String)
    (free : ∀ part ∈ parts, '/' ∉ part.toList) :
    (parts.map service.descriptor.path).mapM Pattern.ofText? =
      (parts.mapM fun part => Segment.ofChars? part.toList).map
        fun segments => segments.map fun segment => (service.route segment).pattern := by
  induction parts with
  | nil => rfl
  | cons part rest ih =>
      rw [List.forall_mem_cons] at free
      rw [List.map_cons, List.mapM_cons, List.mapM_cons, Descriptor.path_pattern _ named part free.1, ih free.2]
      cases Segment.ofChars? part.toList with
      | none => rfl
      | some segment =>
          cases rest.mapM fun part => Segment.ofChars? part.toList <;> rfl

theorem routes_clash (service : Service) (a b : Segment) :
    Router.clashes (service.route a) (service.route b) = Pattern.conflicts [a] [b] := by
  rw [Router.alike_clash (service.route a) (service.route b) rfl]
  exact Pattern.conflicts_behind_name _ a b

theorem routes_iff (service : Service) (sound : service.descriptor.IsSound) (routes : Router Handler) :
    service.routes? = some routes ↔ ∃ segments, service.descriptor.readParts? = some segments ∧
      (segments.Pairwise fun a b => Pattern.conflicts [a] [b] = false) ∧ routes = segments.map service.route := by
  have patterns := service.patterns_eq sound.named _ (Descriptor.parts_slash_free _ sound)
  unfold routes? Descriptor.readParts?
  rw [paths_eq, patterns]
  cases service.descriptor.parts.mapM fun part => Segment.ofChars? part.toList with
  | none => simp
  | some segments =>
      have same : (segments.map fun segment => (service.route segment).pattern).map (fun pattern =>
          ({ pattern, accepts := .any, handler := service.handler } : Route Handler)) = segments.map service.route := by
        rw [List.map_map]
        rfl
      have built := Router.built_iff (segments.map service.route) routes
      rw [List.pairwise_map] at built
      simp only [routes_clash] at built
      simp only [Option.map_some, Option.bind_eq_bind, Option.bind_some, same, built, Option.some.injEq, exists_eq_left']
      exact and_comm

theorem routable_iff (service : Service) (sound : service.descriptor.IsSound) :
    service.routes?.isSome = true ↔ service.descriptor.IsRoutable := by
  simp only [Option.isSome_iff_exists, routes_iff service sound, Descriptor.IsRoutable]
  constructor
  · rintro ⟨_, segments, read, apart, _⟩
    exact ⟨segments, read, apart⟩
  · rintro ⟨segments, read, apart⟩
    exact ⟨_, segments, read, apart, rfl⟩

end Service

end ServiceHost.Rpc
