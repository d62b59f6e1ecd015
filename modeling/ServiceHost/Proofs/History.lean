import Mathlib.Data.List.Basic

set_option autoImplicit false

namespace ServiceHost

def Happened {α : Type} (mark : α) (when : List α → Prop) (moves : List α) : Prop :=
  ∃ earlier later, moves = earlier ++ mark :: later ∧ when earlier

theorem happened_snoc {α : Type} (mark move : α) (when : List α → Prop) (moves : List α) :
    Happened mark when (moves ++ [move]) ↔ Happened mark when moves ∨ move = mark ∧ when moves := by
  constructor
  · rintro ⟨earlier, later, same, was⟩
    rcases List.eq_nil_or_concat later with rfl | ⟨between, last, rfl⟩
    · obtain ⟨rfl, marked⟩ := List.append_inj' same rfl
      exact Or.inr ⟨List.singleton_inj.mp marked, was⟩
    · rw [List.concat_eq_append, ← List.cons_append, ← List.append_assoc] at same
      exact Or.inl ⟨earlier, between, (List.append_inj' same rfl).1, was⟩
  · rintro (⟨earlier, later, rfl, was⟩ | ⟨rfl, was⟩)
    · exact ⟨earlier, later ++ [move], by simp, was⟩
    · exact ⟨moves, [], rfl, was⟩

end ServiceHost
