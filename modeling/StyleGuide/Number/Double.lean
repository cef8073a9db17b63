import StyleGuide.Number.Decimal

/-!
# Double precision numbers

A finite double is a whole number below `2 ^ 53` times a power of two. Reading rounds a decimal
numeral to the nearest double, a tie to the even one. Writing takes the fewest digits that read
back as the same double and of those the nearest; where the digits end up is for a layout to say.

Everything is exact arithmetic on natural numbers.

## Main definitions

* `Double`: A double precision number.
* `Double.ofDecimal`: The nearest double to a decimal numeral.
* `Double.times`, `Double.dividedBy`: Rounded products and quotients.
* `Double.shortest`: The shortest digits of a finite double.
* `Double.Layout`, `Double.toText`: How the digits are laid out.
-/

namespace StyleGuide

/-- A double precision number. The finite one is `mantissa * 2 ^ exponent`, negated if
    `negative`. -/
inductive Double where
  | nan
  | infinite (negative : Bool)
  | finite (negative : Bool) (mantissa : Nat) (exponent : Int)
  deriving DecidableEq, Repr

namespace Double

/-- `base ^ n` for an exponent that is not negative, and 1 for one that is. -/
def posPow (base : Nat) (n : Int) : Nat := base.pow n.toNat

/-- The whole number nearest to a quotient, a tie going to the even one. -/
def roundDiv (numerator denominator : Nat) : Nat :=
  let quotient := numerator / denominator
  let twice := 2 * (numerator % denominator)
  if twice < denominator then quotient
  else if denominator < twice then quotient + 1
  else quotient + quotient % 2

/-- The least exponent of a finite double. -/
def minExponent : Int := -1074

/-- The greatest exponent of a finite double. -/
def maxExponent : Int := 971

/-- The exponent at which a quotient, cut to a whole number, has fifty-three binary digits. -/
def quotientExponent (numerator denominator : Nat) : Int :=
  let guess : Int := (numerator.log2 : Int) - denominator.log2 - 52
  let atLeast (q : Int) : Bool :=
    denominator * posPow 2 (q + 52) * posPow 2 (-q) ≤
      numerator * posPow 2 (-(q + 52)) * posPow 2 (-q)
  if atLeast guess then guess else guess - 1

/-- The double nearest to a positive quotient. -/
def ofQuotient (negative : Bool) (numerator denominator : Nat) : Double :=
  let q := max (quotientExponent numerator denominator) minExponent
  let mantissa := roundDiv (numerator * posPow 2 (-q)) (denominator * posPow 2 q)
  let (mantissa, q) := if mantissa = Nat.pow 2 53 then (Nat.pow 2 52, q + 1) else (mantissa, q)
  if maxExponent < q then .infinite negative else .finite negative mantissa q

/-- The double nearest to a decimal numeral. Numerals far outside the range of doubles are
    settled by their number of digits alone. -/
def ofDecimal (d : Decimal) : Double :=
  if d.coefficient = 0 then .finite d.negative 0 minExponent
  else
    let magnitude : Int := (Text.ofNat d.coefficient).length + d.exponent
    if 400 < magnitude then .infinite d.negative
    else if magnitude < -400 then .finite d.negative 0 minExponent
    else ofQuotient d.negative (d.coefficient * posPow 10 d.exponent) (posPow 10 (-d.exponent))

/-- Whether a number is neither infinite nor undefined. -/
def isFinite : Double → Bool
  | .finite .. => true
  | _ => false

/-- Whether a number is zero. -/
def isZero : Double → Bool
  | .finite _ 0 _ => true
  | _ => false

/-- The double nearest to a power of ten. -/
def powerOfTen (n : Nat) : Double := ofDecimal ⟨false, 1, n⟩

/-- The double nearest to a quotient, which may be zero. -/
def rounded (negative : Bool) (numerator denominator : Nat) : Double :=
  if numerator = 0 then .finite negative 0 minExponent
  else ofQuotient negative numerator denominator

/-- The double nearest to the product of two finite doubles. -/
def times : Double → Double → Double
  | .finite n₁ m₁ q₁, .finite n₂ m₂ q₂ =>
    rounded (n₁ != n₂) (m₁ * m₂ * posPow 2 (q₁ + q₂)) (posPow 2 (-(q₁ + q₂)))
  | _, _ => .nan

/-- The double nearest to the quotient of two finite doubles, the second not zero. -/
def dividedBy : Double → Double → Double
  | .finite n₁ m₁ q₁, .finite n₂ m₂ q₂ =>
    rounded (n₁ != n₂) (m₁ * posPow 2 (q₁ - q₂)) (m₂ * posPow 2 (q₂ - q₁))
  | _, _ => .nan

/-- A finite double in quarters of its last binary place, between the ends of the interval of
    numbers that round to it. The ends belong to the interval if `closed`. -/
structure Neighbourhood where
  low : Nat
  centre : Nat
  high : Nat
  exponent : Int
  closed : Bool

namespace Neighbourhood

/-- The numbers that round to a finite double. Below a power of two the doubles are twice as
    dense as above it. -/
def of (mantissa : Nat) (exponent : Int) : Neighbourhood :=
  { low := if mantissa = Nat.pow 2 52 ∧ minExponent < exponent then 4 * mantissa - 1
      else 4 * mantissa - 2
    centre := 4 * mantissa
    high := 4 * mantissa + 2
    exponent := exponent - 2
    closed := mantissa % 2 = 0 }

/-- `x` quarters as a numerator over `denominator n k`, in units of `10 ^ k`. -/
def numerator (n : Neighbourhood) (k : Int) (x : Nat) : Nat :=
  x * posPow 2 n.exponent * posPow 10 (-k)

/-- The denominator that belongs to `numerator`. -/
def denominator (n : Neighbourhood) (k : Int) : Nat := posPow 10 k * posPow 2 (-n.exponent)

/-- Whether `d * 10 ^ k` lies in the interval. -/
def contains (n : Neighbourhood) (k : Int) (d : Nat) : Bool :=
  let x := d * n.denominator k
  let low := n.numerator k n.low
  let high := n.numerator k n.high
  if n.closed then low ≤ x && x ≤ high else low < x && x < high

/-- The multiple of `10 ^ k` in the interval that is nearest to the centre, if there is one. Only
    the two multiples beside the centre can be it; a tie goes to the even one. -/
def nearest? (n : Neighbourhood) (k : Int) : Option Nat :=
  let centre := n.numerator k n.centre
  let unit := n.denominator k
  let below := centre / unit
  match n.contains k below, n.contains k (below + 1) with
  | true, true =>
    let twice := 2 * (centre % unit)
    some (if twice < unit then below else if unit < twice then below + 1 else below + below % 2)
  | true, false => some below
  | false, true => some (below + 1)
  | false, false => none

/-- The exponent of ten of the first digit of the centre. -/
def magnitude (n : Neighbourhood) : Int :=
  let shifted := n.numerator (-400) n.centre / n.denominator (-400)
  ((Text.ofNat shifted).length : Int) - 401

/-- The first grid with a point in the interval, from `k` downwards. -/
def search (n : Neighbourhood) (k : Int) : Nat → Decimal
  | 0 => ⟨false, (n.nearest? k).getD 0, k⟩
  | fuel + 1 =>
    match n.nearest? k with
    | some d => ⟨false, d, k⟩
    | none => n.search (k - 1) fuel

end Neighbourhood

/-- The shortest digits that read back as a positive finite double. Seventeen always do. -/
def shortest (mantissa : Nat) (exponent : Int) : Decimal :=
  let n := Neighbourhood.of mantissa exponent
  n.search n.magnitude 16

/-- How the digits of a double are laid out. -/
structure Layout where
  /-- Whether a number written without a point gets `.0` at its end. -/
  pointZero : Bool
  /-- The least and the greatest number of places before the point that are written without an
      exponent, where that is limited. -/
  positional : Option (Int × Int)
  /-- Whether an exponent that is not negative has a sign as well. -/
  exponentSign : Bool

namespace Layout

/-- Every number in plain digits, a whole one without a point. -/
def plain : Layout := ⟨false, none, false⟩

/-- Every number in plain digits, a whole one with `.0`. -/
def pointed : Layout := ⟨true, none, false⟩

/-- Plain digits up to sixteen places and down to five, an exponent with its sign beyond. -/
def scientific : Layout := ⟨true, some (-4, 16), true⟩

end Layout

/-- Digits without the zeros at their end, and how many those were. -/
def dropZeros (digits : Text) : Text × Nat :=
  let kept := (digits.reverse.dropWhile (· == '0')).reverse
  (kept, digits.length - kept.length)

/-- The digits of a positive number with the point `places` digits after their start. -/
def positionalText (layout : Layout) (digits : Text) (places : Int) : Text :=
  if places ≤ 0 then "0." ++ List.replicate (-places).toNat '0' ++ digits
  else if digits.length ≤ places.toNat then
    digits ++ List.replicate (places.toNat - digits.length) '0' ++
      (if layout.pointZero then ".0".toList else [])
  else digits.take places.toNat ++ "." ++ digits.drop places.toNat

/-- The digits of a positive number with an exponent. -/
def exponentText (layout : Layout) (digits : Text) (places : Int) : Text :=
  let fraction := digits.drop 1
  let sign : Text := if layout.exponentSign && 1 ≤ places then "+" else []
  digits.take 1 ++ (if fraction.isEmpty then [] else '.' :: fraction) ++ "e" ++ sign ++
    Text.ofInt (places - 1)

/-- The text of the absolute value of a finite number. -/
def magnitudeText (layout : Layout) (mantissa : Nat) (exponent : Int) : Text :=
  if mantissa = 0 then (if layout.pointZero then "0.0".toList else ['0'])
  else
    let d := shortest mantissa exponent
    let (digits, zeros) := dropZeros (Text.ofNat d.coefficient)
    let places : Int := digits.length + zeros + d.exponent
    match layout.positional with
    | none => positionalText layout digits places
    | some (least, greatest) =>
      if least ≤ places ∧ places ≤ greatest then positionalText layout digits places
      else exponentText layout digits places

/-- The text of a number. -/
def toText (layout : Layout) : Double → Text
  | .nan => "NaN"
  | .infinite negative => if negative then "-inf" else "inf"
  | .finite negative mantissa exponent =>
    (if negative then ['-'] else []) ++ magnitudeText layout mantissa exponent

end Double

end StyleGuide
