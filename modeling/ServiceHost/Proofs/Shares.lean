import Mathlib.Algebra.GroupWithZero.Nat
import Mathlib.Data.List.Perm.Basic

set_option autoImplicit false

namespace ServiceHost

section Shares

variable {α β : Type} (items : List α) (index : Nat) (old new : α) (found : items[index]? = some old)

include found

theorem flat_map_set (share : α → List β) :
    ∃ others, (items.flatMap share).Perm (share old ++ others) ∧ ((items.set index new).flatMap share).Perm (share new ++ others) := by
  induction items generalizing index with
  | nil => cases found
  | cons item rest ih =>
      cases index with
      | zero =>
          cases found
          exact ⟨rest.flatMap share, .refl _, .refl _⟩
      | succ index =>
          obtain ⟨others, before, after⟩ := ih index found
          refine ⟨share item ++ others, ?_, ?_⟩
          · exact (before.append_left (share item)).trans (List.perm_append_comm_assoc ..)
          · exact (after.append_left (share item)).trans (List.perm_append_comm_assoc ..)

theorem sum_set (weight : α → Nat) : ((items.set index new).map weight).sum + weight old = (items.map weight).sum + weight new := by
  induction items generalizing index with
  | nil => cases found
  | cons item rest ih =>
      cases index with
      | zero =>
          cases found
          simp only [List.set_cons_zero, List.map_cons, List.sum_cons]
          omega
      | succ index =>
          have others := ih index found
          simp only [List.set_cons_succ, List.map_cons, List.sum_cons]
          omega

end Shares

theorem count_sum {α : Type} (counts : α → Bool) (items : List α) :
    items.countP counts = (items.map fun item => (counts item).toNat).sum := by
  induction items with
  | nil => rfl
  | cons item rest ih => cases counted : counts item <;> simp [counted, ih, Nat.add_comm]

theorem count_set {α : Type} (counts : α → Bool) (items : List α) (index : Nat) (old new : α) (found : items[index]? = some old) :
    (items.set index new).countP counts + (counts old).toNat = items.countP counts + (counts new).toNat := by
  rw [count_sum, count_sum]
  exact sum_set items index old new found fun item => (counts item).toNat

theorem share_length {α β : Type} (share : α → List β) (counts : α → Bool) (items : List α)
    (one : ∀ item, (share item).length = (counts item).toNat) : (items.flatMap share).length = items.countP counts := by
  rw [List.length_flatMap, count_sum]
  exact congrArg List.sum (List.map_congr_left fun item _ => one item)

end ServiceHost
