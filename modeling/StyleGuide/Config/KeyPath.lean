import StyleGuide.Number.Decimal

/-!
# Key paths

A setting is addressed by a path such as `render.format` or `batch[1]`: an identifier, then any
number of further identifiers behind dots and indices in brackets. An identifier may hold spaces.
An index counts from the end if it is negative.

## Main definitions

* `KeyPath`: A path to a setting.
* `KeyPath.Fault`: Why a text is no path.
* `KeyPath.ofText`: The path that a text spells.
-/

namespace StyleGuide

namespace Config

/-- One step of a path beyond its first identifier. -/
inductive Step where
  | key (name : Text)
  | index (value : Int)
  deriving DecidableEq, Repr

/-- A path to a setting. -/
structure KeyPath where
  first : Text
  steps : List Step
  deriving DecidableEq, Repr

namespace KeyPath

/-- Why a text is no path. -/
inductive Fault where
  /-- The text does not begin with an identifier. -/
  | noIdentifier
  /-- A dot and an identifier or an index in brackets was to follow. -/
  | noStep
  /-- A bracket is not followed by a number. -/
  | noDigits
  /-- An index is too great. -/
  | indexTooGreat
  deriving DecidableEq, Repr

namespace Fault

/-- What is wrong, in a word. -/
def message : Fault → Text
  | noIdentifier => "IsA"
  | noStep => "Char"
  | noDigits => "Digit"
  | indexTooGreat => "Map on Result"

end Fault

/-- Whether a character may stand in an identifier. -/
def isIdentifierChar (c : Char) : Bool := c.isAlphanum || c == ' ' || c == '_' || c == '-'

/-- An identifier at the front of a text. -/
def readIdentifier? (text : Text) : Option (Text × Text) :=
  let name := text.takeWhile isIdentifierChar
  if name.isEmpty then none else some (name, text.dropWhile isIdentifierChar)

/-- Whether a character may stand around an index. -/
def isSpace (c : Char) : Bool := c == ' ' || c == '\t'

/-- An index behind its bracket, with the closing bracket. -/
def readIndex (text : Text) : Except Fault (Int × Text) :=
  let (negative, body) := match text.dropWhile isSpace with
    | '-' :: body => (true, body)
    | body => (false, body)
  let digits := body.takeWhile Text.isDigit
  if digits.isEmpty then .error .noDigits
  else
    let n := Text.readNat 10 digits
    if (if negative then Nat.pow 2 63 + 1 else Nat.pow 2 63) ≤ n then .error .indexTooGreat
    else match (body.dropWhile Text.isDigit).dropWhile isSpace with
      | ']' :: rest => .ok (if negative then -(n : Int) else n, rest)
      | _ => .error .noStep

/-- A step at the front of a text. -/
def readStep : Text → Except Fault (Step × Text)
  | '.' :: rest =>
    match readIdentifier? rest with
    | some (name, rest) => .ok (.key name, rest)
    | none => .error .noStep
  | '[' :: rest => do
    let (index, rest) ← readIndex rest
    return (.index index, rest)
  | _ => .error .noStep

/-- The steps that a text spells, at most `fuel` of them. -/
def readSteps : Nat → Text → Except Fault (List Step)
  | _, [] => .ok []
  | 0, _ => .error .noStep
  | fuel + 1, text => do
    let (step, rest) ← readStep text
    let steps ← readSteps fuel rest
    return step :: steps

/-- The path that a text spells. -/
def ofText (text : Text) : Except Fault KeyPath :=
  match readIdentifier? text with
  | none => .error .noIdentifier
  | some (first, rest) => do
    let steps ← readSteps rest.length rest
    return ⟨first, steps⟩

end KeyPath

end Config

end StyleGuide
