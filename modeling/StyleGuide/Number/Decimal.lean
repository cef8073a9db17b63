import StyleGuide.Text.Basic

/-!
# Decimal numerals

A decimal numeral stands for a whole number of powers of ten. Numerals are read off text exactly,
so that how they are rounded later is a question of its own.

## Main definitions

* `Decimal`: A whole number times a power of ten, with a sign.
* `Text.isDigit`, `Text.digitValue`: Digits of a radix.
* `Text.readNat`: The number that digits spell.
* `Decimal.ofText?`: The numeral that a text spells.
-/

namespace StyleGuide

/-- The number `coefficient * 10 ^ exponent`, negated if `negative`. The sign of zero is kept. -/
structure Decimal where
  negative : Bool
  coefficient : Nat
  exponent : Int
  deriving DecidableEq, Repr

namespace Text

/-- Whether a character is an ASCII digit. -/
def isDigit (c : Char) : Bool := '0' ≤ c && c ≤ '9'

/-- The value of a digit or of a letter that stands for a digit, in either case. -/
def digitValue? (c : Char) : Option Nat :=
  if isDigit c then some (c.toNat - '0'.toNat)
  else if 'a' ≤ c && c ≤ 'z' then some (c.toNat - 'a'.toNat + 10)
  else if 'A' ≤ c && c ≤ 'Z' then some (c.toNat - 'A'.toNat + 10)
  else none

/-- Whether a character is a digit of a radix. -/
def isDigitOf (radix : Nat) (c : Char) : Bool :=
  match digitValue? c with
  | some value => value < radix
  | none => false

/-- The number that digits of a radix spell. -/
def readNat (radix : Nat) (digits : Text) : Nat :=
  digits.foldl (fun n c => n * radix + (digitValue? c).getD 0) 0

/-- The number that a text spells in a radix, if it is all digits and has at least one. -/
def readNat? (radix : Nat) (text : Text) : Option Nat :=
  if text.isEmpty || !text.all (isDigitOf radix) then none else some (readNat radix text)

/-- A sign at the start of a text, and what follows. `true` means minus. -/
def takeSign : Text → Option Bool × Text
  | '+' :: text => (some false, text)
  | '-' :: text => (some true, text)
  | text => (none, text)

end Text

namespace Decimal

/-- The numeral of whole digits, fractional digits and an exponent. -/
def ofParts (negative : Bool) (whole fraction : Text) (exponent : Int) : Decimal :=
  ⟨negative, Text.readNat 10 (whole ++ fraction), exponent - fraction.length⟩

/-- The exponent that a text spells, which may have a sign. -/
def exponent? (text : Text) : Option Int :=
  let (sign, digits) := Text.takeSign text
  (Text.readNat? 10 digits).map fun n => if sign == some true then -(n : Int) else n

/-- The numeral that a text spells: an optional sign, digits with a point before, between or
    after them, and an optional exponent. At least one digit is needed beside the exponent. -/
def ofText? (text : Text) : Option Decimal :=
  let (sign, body) := Text.takeSign text
  let whole := body.takeWhile Text.isDigit
  let (fraction, rest) := match body.dropWhile Text.isDigit with
    | '.' :: rest => (rest.takeWhile Text.isDigit, rest.dropWhile Text.isDigit)
    | rest => ([], rest)
  if whole.isEmpty && fraction.isEmpty then none
  else match rest with
    | [] => some (ofParts (sign == some true) whole fraction 0)
    | e :: rest =>
      if e = 'e' ∨ e = 'E' then
        (exponent? rest).map (ofParts (sign == some true) whole fraction)
      else none

end Decimal

end StyleGuide
