import StyleGuide.Text.Basic

/-!
# Values under keys

A list of keys with a value each, in the order in which the keys were first put there. Looking up
a key finds its first entry, and putting a value under a key replaces that entry, so a list built
by putting holds each key once.

## Main definitions

* `Keyed`: Values under keys.
* `Keyed.get?`, `Keyed.put`, `Keyed.erase`: Looking up, putting and removing.

## Theorems

* `Keyed.get?_put_self`: What was put is found.
* `Keyed.get?_put_of_ne`: Other keys are not touched.
-/

namespace StyleGuide

/-- Values under keys. -/
abbrev Keyed (α : Type) := List (Text × α)

namespace Keyed

variable {α : Type}

/-- The value under a key. -/
def get? (entries : Keyed α) (key : Text) : Option α :=
  match entries with
  | [] => none
  | (k, value) :: rest => if k = key then some value else get? rest key

/-- Put a value under a key, in place of the one that is there. -/
def put (entries : Keyed α) (key : Text) (value : α) : Keyed α :=
  match entries with
  | [] => [(key, value)]
  | (k, v) :: rest => if k = key then (key, value) :: rest else (k, v) :: put rest key value

/-- The entries without those for a key. -/
def erase (entries : Keyed α) (key : Text) : Keyed α := entries.filter fun (k, _) => k ≠ key

theorem get?_put_self (entries : Keyed α) (key : Text) (value : α) :
    (put entries key value).get? key = some value := by
  induction entries with
  | nil => simp only [put, get?, if_true]
  | cons entry rest ih =>
      obtain ⟨k, v⟩ := entry
      simp only [put]
      split
      · simp only [get?, if_true]
      · next hk => simp only [get?, if_neg hk, ih]

theorem get?_put_of_ne (entries : Keyed α) {key other : Text} (value : α) (h : key ≠ other) :
    (put entries key value).get? other = entries.get? other := by
  induction entries with
  | nil => simp only [put, get?, if_neg h]
  | cons entry rest ih =>
      obtain ⟨k, v⟩ := entry
      simp only [put]
      split
      · next hk =>
          subst hk
          simp only [get?, if_neg h]
      · simp only [get?, ih]

end Keyed

end StyleGuide
