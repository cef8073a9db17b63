import StyleGuide.Sorted
import Mathlib.Data.List.Sort

/-!
# Order of sorted lists

Sorting puts the elements of a list in order, strictly if none occurs twice. What comes out then
depends on which elements there are and not on how the list had them: two lists that ascend strictly
are equal as soon as they have the same elements.

## Theorems

* `pairwise_sorted`, `pairwise_lt_sorted`: A sorted list ascends.
* `eq_of_pairwise_lt`: Sorting forgets the order.
-/

namespace StyleGuide

variable {α : Type} [LinearOrder α] [DecidableLT α]

theorem pairwise_insertSorted (a : α) (l : List α) (h : l.Pairwise (· ≤ ·)) :
    (insertSorted a l).Pairwise (· ≤ ·) := by
  induction l with
  | nil => exact List.pairwise_singleton _ a
  | cons b rest ih =>
      rw [List.pairwise_cons] at h
      rw [insertSorted]
      split
      · rename_i hlt
        refine List.pairwise_cons.mpr ⟨fun c hc => ?_, ih h.2⟩
        rcases List.mem_cons.mp ((insertSorted_perm a rest).mem_iff.mp hc) with rfl | hmem
        · exact le_of_lt hlt
        · exact h.1 c hmem
      · rename_i hlt
        have hab : a ≤ b := not_lt.mp hlt
        refine List.pairwise_cons.mpr ⟨fun c hc => ?_, List.pairwise_cons.mpr h⟩
        rcases List.mem_cons.mp hc with rfl | hmem
        · exact hab
        · exact hab.trans (h.1 c hmem)

theorem pairwise_sorted (l : List α) : (sorted l).Pairwise (· ≤ ·) := by
  induction l with
  | nil => exact List.Pairwise.nil
  | cons a rest ih => exact pairwise_insertSorted a _ ih

/-- Without repetitions the sorted list ascends strictly. -/
theorem pairwise_lt_sorted (l : List α) (h : l.Nodup) : (sorted l).Pairwise (· < ·) := by
  have hnodup : (sorted l).Pairwise (· ≠ ·) := (sorted_perm l).nodup_iff.mpr h
  exact ((pairwise_sorted l).and hnodup).imp fun ⟨hle, hne⟩ => lt_of_le_of_ne hle hne

omit [DecidableLT α] in
/-- Lists that ascend strictly are equal if they have the same elements. -/
theorem eq_of_pairwise_lt (l l' : List α) (h : l.Pairwise (· < ·)) (h' : l'.Pairwise (· < ·))
    (hmem : ∀ a, a ∈ l ↔ a ∈ l') : l = l' := by
  have hperm : l.Perm l' := (List.perm_ext_iff_of_nodup (h.imp ne_of_lt) (h'.imp ne_of_lt)).mpr hmem
  exact hperm.eq_of_pairwise (fun _ _ _ _ hab hba => absurd hab (lt_asymm hba)) h h'

end StyleGuide
