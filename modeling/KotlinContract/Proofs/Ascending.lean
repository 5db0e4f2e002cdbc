import KotlinContract.Ascending
import Mathlib.Data.List.Pairwise
import Mathlib.Order.Lattice

/-!
# Ascending lists ascend

Inserting into a list that ascends strictly gives a list that ascends strictly, so the list of the
distinct values does (`pairwise_ofList`): its first member with a property is the least one.
-/
namespace KotlinContract.Ascending

variable {α : Type} [LinearOrder α]

/-- Inserting keeps a list strictly ascending. -/
theorem pairwise_insert {value : α} {values : List α} (ascending : values.Pairwise (· < ·)) :
    (insert value values).Pairwise (· < ·) := by
  induction values with
  | nil => exact List.pairwise_singleton _ _
  | cons head tail hypothesis =>
    obtain ⟨above, later⟩ := List.pairwise_cons.mp ascending
    rw [insert]
    split
    next before =>
      refine List.pairwise_cons.mpr ⟨List.forall_mem_cons.mpr ⟨before, ?_⟩, ascending⟩
      exact fun other member => before.trans (above other member)
    next notBefore =>
      split
      · exact ascending
      next different =>
        refine List.pairwise_cons.mpr ⟨fun other member => ?_, hypothesis later⟩
        rcases mem_insert.mp member with rfl | member
        · exact lt_of_le_of_ne (not_lt.mp notBefore) (Ne.symm different)
        · exact above other member

/-- The list of the distinct values ascends strictly. -/
theorem pairwise_ofList (values : List α) : (ofList values).Pairwise (· < ·) := by
  induction values with
  | nil => exact List.Pairwise.nil
  | cons head tail hypothesis => exact pairwise_insert hypothesis

end KotlinContract.Ascending
