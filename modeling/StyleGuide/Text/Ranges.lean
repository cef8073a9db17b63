import StyleGuide.Text.Basic

/-!
# Ranges of characters

A property of characters that no formula describes is kept as a table: the ranges of code points
that have it, in ascending order.

## Main definitions

* `CharRanges`: Ranges of code points, both ends included.
* `CharRanges.contains`: Whether a code point lies in one of them.
-/

namespace StyleGuide

/-- Ranges of code points, from the first of each to its last. -/
abbrev CharRanges := List (Nat × Nat)

namespace CharRanges

/-- Whether code point `n` lies in one of the ranges. -/
def contains (ranges : CharRanges) (n : Nat) : Bool :=
  ranges.any fun (first, last) => first.ble n && n.ble last

end CharRanges

end StyleGuide
