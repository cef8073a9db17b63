import StyleGuide.Proofs.Disk.Path
import Mathlib.Data.Char
import Mathlib.Data.List.Lex
import Mathlib.Data.Prod.Lex

/-!
# The order of paths

Paths are compared component by component, not character by character.

The difference shows where one name is the beginning of another: `a/x` comes before `a-b/x`, since
the name `a` comes before `a-b`, although the slash comes behind the dash. Components are the names
of a path and what stands for no name: the root, a dot at the very beginning, and each step up. Dots
anywhere else and slashes without a name between them do not count.

The path of a place below a directory has the components of the directory and then the names that
lead to the place. Below one directory paths are therefore in the order of the places.

## Main definitions

* `Path.Component`: A component of a path.
* `Path.components`: The components of a path.
* `Path.Precedes`: The order of paths.

## Theorems

* `components_below`: The components of the path of a place.
* `precedes_below`: Below one directory paths are in the order of the places.
* `ne_of_precedes`: No path comes before itself.
-/

namespace StyleGuide

namespace Path

/-- A component of a path. -/
inductive Component where
  | root
  | here
  | above
  | name (text : Text)
  deriving DecidableEq, Repr

namespace Component

/-- What components are compared by: their kinds, and the texts of names. -/
def key : Component → Nat ×ₗ Text
  | root => toLex (0, [])
  | here => toLex (1, [])
  | above => toLex (2, [])
  | name text => toLex (3, text)

/-- The component with a key. -/
def ofKey (key : Nat ×ₗ Text) : Component :=
  match (ofLex key).1 with
  | 0 => root
  | 1 => here
  | 2 => above
  | _ => name (ofLex key).2

theorem ofKey_key : Function.LeftInverse ofKey key := by
  intro component
  cases component with
  | root | here | above => rfl
  | name text => rfl

/-- Different components have different keys, since a key tells its component. -/
theorem key_injective : Function.Injective key := ofKey_key.injective

instance : LinearOrder Component := LinearOrder.lift' key key_injective

theorem name_lt_name (a b : Text) (h : a < b) : name a < name b :=
  Prod.Lex.toLex_lt_toLex.mpr (Or.inr ⟨rfl, h⟩)

end Component

/-- The component for a segment. -/
def componentOf (segment : Text) : Component :=
  if segment = above then .above else .name segment

/-- The components of a path. -/
def components (path : Path) : List Component :=
  (if isAbsolute path then [.root]
    else if (segments path).head? = some here then [.here]
    else []) ++ (names path).map componentOf

/-- A path comes before another one, component by component. -/
def Precedes (path other : Path) : Prop := components path < components other

instance (path other : Path) : Decidable (Precedes path other) :=
  inferInstanceAs (Decidable (components path < components other))

theorem ne_of_precedes (path other : Path) (h : Precedes path other) : path ≠ other := by
  rintro rfl
  exact lt_irrefl _ h

section Below

variable (dir : Path) (place : List Text) (hplace : ∀ name ∈ place, Disk.IsEntryName name)

include hplace

/-- The components of the path of a place below a directory. -/
theorem components_below :
    components (below dir place) = components dir ++ place.map Component.name := by
  have hnames : names (below dir place) = names dir ++ place := by
    rw [names, segments_below dir place hplace, List.filter_append, names]
    refine congrArg _ (List.filter_eq_self.mpr fun name hname => ?_)
    rw [bne_iff_ne]
    exact (hplace name hname).notHere
  have hplaceComponents : place.map componentOf = place.map Component.name := by
    refine List.map_congr_left fun name hname => ?_
    rw [componentOf, if_neg (hplace name hname).notAbove]
  have hhead : (segments (below dir place)).head? = some here ↔
      (segments dir).head? = some here := by
    rw [segments_below dir place hplace, List.head?_append]
    cases hsegments : (segments dir).head? with
    | some segment => rw [Option.some_or]
    | none =>
        rw [Option.none_or]
        -- No name is a dot.
        refine iff_of_false (fun hhere => ?_) (by simp only [reduceCtorEq, not_false_eq_true])
        exact (hplace here (List.mem_of_head? hhere)).notHere rfl
  rw [components, components, isAbsolute_below dir place hplace, hnames, List.map_append,
    hplaceComponents, List.append_assoc]
  simp only [hhead]

end Below

/-- Below one directory paths are in the order of the places. -/
theorem precedes_below (dir : Path) (first second : List Text)
    (hfirst : ∀ name ∈ first, Disk.IsEntryName name)
    (hsecond : ∀ name ∈ second, Disk.IsEntryName name) (h : first < second) :
    Precedes (below dir first) (below dir second) := by
  rw [Precedes, components_below dir first hfirst, components_below dir second hsecond]
  exact List.append_left_lt (List.map_lt Component.name_lt_name h)

/-- The name `a` comes before the name `a-b`, and so do all paths through it. -/
example : Precedes "rules/a/x" "rules/a-b/x" ∧ ¬ Precedes "rules/a-b/x" "./rules/a/x" := by
  decide

end Path

end StyleGuide
