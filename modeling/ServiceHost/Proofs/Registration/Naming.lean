import Mathlib.Data.List.Infix
import ServiceHost.Name
import ServiceHost.Registration.Key
import ServiceHost.Table

set_option autoImplicit false

namespace ServiceHost.Registration

theorem valid_slash_free (name : String) (valid : Name.isValid name = true) : '/' ∉ name.toList := by
  intro slash
  have all := List.all_eq_true.mp (Bool.and_eq_true_iff.mp valid).2
  cases all '/' slash

theorem separator_split {separator : Char} (a b rest more : List Char) (free : separator ∉ a) (other : separator ∉ b)
    (same : a ++ separator :: rest = b ++ separator :: more) : a = b ∧ rest = more := by
  rcases List.append_eq_append_iff.mp same with ⟨between, rfl, left⟩ | ⟨between, rfl, left⟩
  · cases between with
    | nil => exact ⟨(List.append_nil a).symm, (List.cons.inj left).2⟩
    | cons c tail =>
        have inside : separator ∈ a ++ c :: tail := List.mem_append_right a ((List.cons.inj left).1 ▸ List.mem_cons_self)
        exact absurd inside other
  · cases between with
    | nil => exact ⟨List.append_nil b, (List.cons.inj left).2.symm⟩
    | cons c tail =>
        have inside : separator ∈ b ++ c :: tail := List.mem_append_right b ((List.cons.inj left).1 ▸ List.mem_cons_self)
        exact absurd inside free

theorem slash_free_begins (a b rest : List Char) (free : '/' ∉ a) : a <+: b ++ '/' :: rest ↔ a <+: b := by
  refine ⟨fun begins => ?_, fun begins => begins.trans (List.prefix_append b _)⟩
  rcases List.prefix_or_prefix_of_prefix begins (List.prefix_append b _) with inside | ⟨tail, rfl⟩
  · exact inside
  · cases tail with
    | nil => simp
    | cons c tail =>
        have slash := List.cons_prefix_cons.mp ((List.prefix_append_right_inj b).mp begins)
        exact absurd (List.mem_append_right b (slash.1 ▸ List.mem_cons_self)) free

theorem root_chars (root service rpc : String) :
    (serviceRoot root service rpc).toList = root.toList ++ '/' :: (service.toList ++ '/' :: rpc.toList) := by
  simp [serviceRoot]

theorem key_chars (root service rpc identity : String) :
    (key root service rpc identity).toList =
      root.toList ++ '/' :: (service.toList ++ '/' :: (rpc.toList ++ '/' :: identity.toList)) := by
  simp [key, root_chars]

theorem key_under_root (root service rpc other name identity : String) (service_free : '/' ∉ service.toList)
    (rpc_free : '/' ∉ rpc.toList) (other_free : '/' ∉ other.toList) :
    Table.liesUnder (serviceRoot root service rpc) (key root other name identity) = true ↔
      other = service ∧ rpc.toList <+: name.toList := by
  rw [Table.liesUnder, List.isPrefixOf_iff_prefix, root_chars, key_chars, List.prefix_append_right_inj, List.cons_prefix_cons]
  constructor
  · rintro ⟨_, tail, same⟩
    rw [List.append_assoc, List.cons_append] at same
    obtain ⟨services, rest⟩ := separator_split _ _ _ _ service_free other_free same
    exact ⟨(String.toList_inj.mp services).symm, (slash_free_begins _ _ _ rpc_free).mp ⟨tail, rest⟩⟩
  · rintro ⟨rfl, begins⟩
    refine ⟨rfl, (List.prefix_append_right_inj _).mpr (List.cons_prefix_cons.mpr ⟨rfl, ?_⟩)⟩
    exact (slash_free_begins _ _ _ rpc_free).mpr begins

theorem key_determines (root service rpc identity other name stranger : String) (service_free : '/' ∉ service.toList)
    (rpc_free : '/' ∉ rpc.toList) (other_free : '/' ∉ other.toList) (name_free : '/' ∉ name.toList)
    (same : key root service rpc identity = key root other name stranger) :
    service = other ∧ rpc = name ∧ identity = stranger := by
  have chars := congrArg String.toList same
  rw [key_chars, key_chars] at chars
  obtain ⟨services, rest⟩ := separator_split _ _ _ _ service_free other_free
    (List.cons.inj (List.append_cancel_left chars)).2
  obtain ⟨names, identities⟩ := separator_split _ _ _ _ rpc_free name_free rest
  exact ⟨String.toList_inj.mp services, String.toList_inj.mp names, String.toList_inj.mp identities⟩

end ServiceHost.Registration
