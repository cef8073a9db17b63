import StyleGuide.Number.Double
import StyleGuide.Text.Quoted

/-!
# Shapes of data

Data that has been read may be of another shape than the one expected. What is said about that is
the same for every source of data, but for how a source calls its missing value and how it writes
its numbers.

## Main definitions

* `Found`: A value that stands where another was expected.
* `Mismatch`: What is wrong with the shape of a value.
* `Wording`: What a source of data calls things.
* `Mismatch.message`: The words for a mismatch.
-/

namespace StyleGuide

/-- A value that stands where another was expected. -/
inductive Found where
  | nothing
  | boolean (value : Bool)
  | integer (value : Int)
  | number (value : Double)
  | string (value : Text)
  | sequence
  | map
  deriving DecidableEq, Repr

/-- What is wrong with the shape of a value. -/
inductive Mismatch where
  | wrongType (found : Found) (expected : Text)
  /-- A list in place of a record of `fields` fields has only `found` elements. -/
  | wrongLength (found : Nat) (record : Text) (fields : Nat)
  | missingField (name : Text)
  | duplicateField (name : Text)
  /-- A word that is none of the two it may be. -/
  | unknownVariant (found first second : Text)
  deriving DecidableEq, Repr

/-- What a source of data calls things. -/
structure Wording where
  nothing : Text
  numbers : Double.Layout

namespace Wording

/-- The words for JSON. -/
def json : Wording := ⟨"null", .scientific⟩

/-- The words for configurations. -/
def configuration : Wording := ⟨"unit value", .pointed⟩

end Wording

namespace Found

/-- A value in words. -/
def describe (wording : Wording) : Found → Text
  | nothing => wording.nothing
  | boolean value => "boolean `" ++ (if value then "true" else "false" : String) ++ "`"
  | integer value => "integer `" ++ Text.ofInt value ++ "`"
  | number value => "floating point `" ++ value.toText wording.numbers ++ "`"
  | string value => "string " ++ value.quoted
  | sequence => "sequence"
  | map => "map"

end Found

namespace Mismatch

/-- A number of elements in words. -/
def elements (n : Nat) : Text :=
  if n = 1 then "1 element" else Text.ofNat n ++ " elements"

/-- What is wrong, in words. -/
def message (wording : Wording) : Mismatch → Text
  | wrongType found expected =>
    "invalid type: " ++ found.describe wording ++ ", expected " ++ expected
  | wrongLength found record fields =>
    "invalid length " ++ Text.ofNat found ++ ", expected " ++ record ++ " with " ++
      elements fields
  | missingField name => "missing field `" ++ name ++ "`"
  | duplicateField name => "duplicate field `" ++ name ++ "`"
  | unknownVariant found first second =>
    "unknown variant `" ++ found ++ "`, expected `" ++ first ++ "` or `" ++ second ++ "`"

end Mismatch

end StyleGuide
