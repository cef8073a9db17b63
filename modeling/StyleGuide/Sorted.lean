/-!
# Sorted lists

Lists are sorted by inserting one element after the other, the last one first, so that a list that
is sorted already takes one comparison an element. Equal elements are all kept.

Names are compared character by character and places name by name, both by the order of lists.

## Main definitions

* `sorted`: The elements of a list in order.

## Theorems

* `insertSorted_perm`, `sorted_perm`: No element is lost or added.
* `mem_sorted`: The elements are those of the list.
-/

namespace StyleGuide

variable {α : Type} [LT α] [DecidableLT α]

/-- A sorted list with one more element, before the first that is not less. -/
def insertSorted (a : α) : List α → List α
  | [] => [a]
  | b :: rest => if b < a then b :: insertSorted a rest else a :: b :: rest

/-- The elements of a list in order. -/
def sorted : List α → List α
  | [] => []
  | a :: rest => insertSorted a (sorted rest)

theorem insertSorted_perm (a : α) (l : List α) : (insertSorted a l).Perm (a :: l) := by
  induction l with
  | nil => exact List.Perm.refl _
  | cons b rest ih =>
      simp only [insertSorted]
      split
      · exact (ih.cons b).trans (List.Perm.swap a b rest)
      · exact List.Perm.refl _

theorem sorted_perm (l : List α) : (sorted l).Perm l := by
  induction l with
  | nil => exact List.Perm.refl _
  | cons a rest ih => exact (insertSorted_perm a (sorted rest)).trans (ih.cons a)

theorem mem_sorted {a : α} {l : List α} : a ∈ sorted l ↔ a ∈ l := (sorted_perm l).mem_iff

end StyleGuide
