import StyleGuide.Shape

/-!
# JSON numbers

A number that is written as a whole number and fits a machine word is an integer. Any other is a
double, and it is not always the nearest one: the digits are collected into a machine word as far
as they fit, the digits after that only count as places, and the word is then scaled by a power of
ten with a single rounding. Up to fifteen digits and twenty-two places that is exact enough to give
the nearest double.

## Main definitions

* `Numeral`: The parts of a number.
* `Numeral.collect`: Digits collected into a word.
* `Numeral.scale?`: A word scaled by a power of ten.
* `Numeral.value?`: The value of a number.
-/

namespace StyleGuide

namespace Json

/-- The parts of a number. -/
structure Numeral where
  negative : Bool
  whole : Text
  /-- The digits after the point, where there is a point. -/
  fraction : Option Text
  /-- The exponent with its sign, where there is one. -/
  exponent : Option Text
  deriving DecidableEq, Repr

namespace Numeral

/-- The first number that a word cannot hold. -/
def wordLimit : Nat := Nat.pow 2 64

/-- The greatest exponent of ten by which a number is scaled at once. -/
def powerLimit : Nat := 308

/-- A word with digits put behind it as far as they fit, and how many of them do. -/
def collect (word : Nat) : Text → Nat × Nat
  | [] => (word, 0)
  | c :: digits =>
    let next := word * 10 + (Text.digitValue? c).getD 0
    if next < wordLimit then
      let (word, count) := collect next digits
      (word, count + 1)
    else (word, 0)

/-- A number divided by powers of ten until it is zero or the rest of the exponent is small, at
    most `fuel` times, and then once more. -/
def shrink : (fuel : Nat) → Double → (places : Nat) → Double
  | 0, number, _ => number
  | fuel + 1, number, places =>
    if places ≤ powerLimit then number.dividedBy (.powerOfTen places)
    else if number.isZero then number
    else shrink fuel (number.dividedBy (.powerOfTen powerLimit)) (places - powerLimit)

/-- A number scaled by a power of ten, unless the result is beyond all doubles. Every number has
    become zero after three steps down. -/
def scale? (number : Double) (exponent : Int) : Option Double :=
  if exponent < 0 then some (shrink 4 number (-exponent).toNat)
  else if number.isZero then some number
  else if powerLimit < exponent.toNat then none
  else some (number.times (.powerOfTen exponent.toNat)) |>.filter Double.isFinite

/-- The double that a number is read as. -/
def double? (n : Numeral) : Option Double :=
  let (word, taken) := collect 0 n.whole
  let (word, places) := collect word (n.fraction.getD [])
  let exponent := (Decimal.exponent? (n.exponent.getD ['0'])).getD 0
  scale? (.rounded n.negative word 1) (exponent + (n.whole.length - taken : Nat) - places)

/-- The value of a number. A number beyond all doubles has none. -/
def value? (n : Numeral) : Option Found :=
  let coefficient := Text.readNat 10 n.whole
  if n.fraction.isNone && n.exponent.isNone && !n.negative && coefficient < wordLimit then
    some (.integer coefficient)
  else if n.fraction.isNone && n.exponent.isNone && n.negative && 0 < coefficient &&
      coefficient ≤ wordLimit / 2 then
    some (.integer (-(coefficient : Int)))
  else n.double?.map .number

end Numeral

end Json

end StyleGuide
