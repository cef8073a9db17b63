import StyleGuide.Text.Basic

/-!
# White space

The white space of this library is the Unicode property `White_Space`: twenty-five characters,
among them the no-break spaces and the line and paragraph separators, but no zero-width ones.

## Main definitions

* `Text.isBlank`: Whether a character is white space.
* `Text.trimStart`, `Text.trimEnd`, `Text.trim`: A text without the white space at its ends.
* `Text.skipBlanks?`: What follows a given number of white space characters.
-/

namespace StyleGuide

namespace Text

/-- Whether a character is white space. -/
def isBlank (c : Char) : Bool :=
  let n := c.toNat
  (9 ≤ n && n ≤ 13) || n == 0x20 || n == 0x85 || n == 0xA0 || n == 0x1680 ||
    (0x2000 ≤ n && n ≤ 0x200A) || n == 0x2028 || n == 0x2029 || n == 0x202F || n == 0x205F ||
    n == 0x3000

/-- A text without the white space at its start. -/
def trimStart (text : Text) : Text := text.dropWhile isBlank

/-- A text without the white space at its end. -/
def trimEnd (text : Text) : Text := (text.reverse.dropWhile isBlank).reverse

/-- A text without the white space at its ends. -/
def trim (text : Text) : Text := trimEnd (trimStart text)

/-- Whether a text is nothing but white space. -/
def allBlank (text : Text) : Bool := text.all isBlank

/-- What follows the first `n` characters of a text, all of which have to be white space. -/
def skipBlanks? : Nat → Text → Option Text
  | 0, text => some text
  | _ + 1, [] => none
  | n + 1, c :: text => if isBlank c then skipBlanks? n text else none

end Text

end StyleGuide
