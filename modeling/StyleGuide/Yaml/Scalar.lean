import StyleGuide.Number.Double

/-!
# Texts as YAML scalars

A text is written plain where a reader takes it for exactly that text. A text that a reader would
take for a number, a truth value or nothing at all is put between single quotes, and so is one
that would be taken for YAML structure. A text of several lines becomes a literal block. What
neither form can hold goes between double quotes, with escapes.

## Main definitions

* `Yaml.isBreak`, `Yaml.isPrintable`: Characters that end a line, and those that need no escape.
* `Yaml.looksTyped`: Whether a reader takes a text for something else than text.
* `Yaml.looksStructural`: Whether a reader takes a text for YAML structure.
* `Yaml.Style`, `Yaml.style`: How a text is written.
* `Yaml.scalar`: A text as it stands behind its key or dash, with its line end.
-/

namespace StyleGuide

namespace Yaml

/-- Whether a character ends a line. -/
def isBreak (c : Char) : Bool :=
  c == '\n' || c == '\r' || c.toNat == 0x85 || c.toNat == 0x2028 || c.toNat == 0x2029

/-- Whether a character can be written as itself. -/
def isPrintable (c : Char) : Bool :=
  let n := c.toNat
  n == 0x0A || (0x20 ≤ n && n ≤ 0x7E) ||
    (0xA0 ≤ n && n != 0xFEFF && n != 0xFFFE && n != 0xFFFF)

/-! ### Texts that a reader takes for something else -/

/-- Whether a text means nothing at all. -/
def isNull (text : Text) : Bool :=
  text.isEmpty || text == "null" || text == "Null" || text == "NULL" || text == "~"

/-- Whether a text means a truth value. -/
def isBoolean (text : Text) : Bool :=
  text == "true" || text == "True" || text == "TRUE" ||
    text == "false" || text == "False" || text == "FALSE"

/-- Whether a text is digits behind a zero that leads nowhere, such as `007`. -/
def isZeroPadded (text : Text) : Bool :=
  match (Text.takeSign text).2 with
  | '0' :: rest => !rest.isEmpty && rest.all Text.isDigit
  | _ => false

/-- Whether a text spells a number below `bound` in a radix. -/
def spellsBelow (radix bound : Nat) (text : Text) : Bool :=
  match Text.readNat? radix text with
  | some n => n < bound
  | none => false

/-- Whether a text is a radix mark, such as `0x`, and digits of that radix that spell a number
    below `bound`. -/
def isMarkedInteger (bound : Nat) (text : Text) : Bool :=
  match text with
  | '0' :: 'x' :: digits => spellsBelow 16 bound digits
  | '0' :: 'o' :: digits => spellsBelow 8 bound digits
  | '0' :: 'b' :: digits => spellsBelow 2 bound digits
  | _ => false

/-- Whether a text means an integer of at most 128 bits in a marked radix. Decimal integers are
    numbers as well, so `isNumber` finds them. -/
def isInteger (text : Text) : Bool :=
  match text with
  | '+' :: body => isMarkedInteger (Nat.pow 2 128) body
  | '-' :: body => isMarkedInteger (Nat.pow 2 127 + 1) body
  | _ => isMarkedInteger (Nat.pow 2 128) text

/-- Whether a text means an infinite or undefined number. -/
def isSpecialNumber (text : Text) : Bool :=
  let infinity (t : Text) : Bool := t == ".inf" || t == ".Inf" || t == ".INF"
  match text with
  | '+' :: body => infinity body
  | '-' :: body => infinity body
  | _ => infinity text || text == ".nan" || text == ".NaN" || text == ".NAN"

/-- Whether a text means a number that a double can hold. -/
def isNumber (text : Text) : Bool :=
  match Decimal.ofText? text with
  | some d => (Double.ofDecimal d).isFinite
  | none => false

/-- Whether a reader takes a text for something else than text. -/
def looksTyped (text : Text) : Bool :=
  isNull text || isBoolean text || isZeroPadded text || isInteger text ||
    isSpecialNumber text || isNumber text

/-! ### Texts that a reader takes for structure -/

/-- Whether a character begins a YAML construct wherever it leads a text. -/
def isIndicator (c : Char) : Bool :=
  "#,[]\x7b\x7d&*!|>\x27\"%@`".toList.contains c

/-- Whether the rest of a text begins like a gap between words, or is empty. -/
def atGap : Text → Bool
  | [] => true
  | c :: _ => c == ' ' || c == '\t' || isBreak c

/-- Whether a text holds a colon before a gap or a number sign behind one. `gap` tells whether
    the text itself stands behind a gap. -/
def hasInnerIndicator : (gap : Bool) → Text → Bool
  | _, [] => false
  | gap, c :: text =>
    (c == ':' && atGap text) || (c == '#' && gap) ||
      hasInnerIndicator (c == ' ' || c == '\t' || isBreak c) text

/-- Whether a reader takes a text for YAML structure. -/
def looksStructural (text : Text) : Bool :=
  Text.hasLead "---" text || Text.hasLead "..." text ||
    (match text with
     | [] => false
     | c :: rest => isIndicator c || ((c == '?' || c == '-') && atGap rest)) ||
    hasInnerIndicator true text

/-! ### Styles -/

/-- Whether two neighbouring characters of a text satisfy `p`. -/
def hasNeighbours (p : Char → Char → Bool) : Text → Bool
  | a :: b :: text => p a b || hasNeighbours p (b :: text)
  | _ => false

/-- Whether a line break of a text is followed by a space. -/
def hasBreakSpace (text : Text) : Bool := hasNeighbours (fun a b => isBreak a && b == ' ') text

/-- Whether a line break of a text follows a space. -/
def hasSpaceBreak (text : Text) : Bool := hasNeighbours (fun a b => a == ' ' && isBreak b) text

/-- Whether every character of a text can be written as itself. -/
def allPrintable (text : Text) : Bool := text.all isPrintable

/-- Whether a character ends a word or a line. -/
def isSpaceOrBreak (c : Char) : Bool := c == ' ' || isBreak c

/-- Whether a text can be written plain. -/
def plainAllowed (text : Text) : Bool :=
  allPrintable text && !text.any isBreak && !looksStructural text &&
    !(text.head?.any (· == ' ')) && !(text.getLast?.any (· == ' '))

/-- Whether a text can be written between single quotes. -/
def singleAllowed (text : Text) : Bool :=
  allPrintable text && !hasBreakSpace text && !hasSpaceBreak text

/-- Whether a text can be written as a literal block. -/
def literalAllowed (text : Text) : Bool :=
  allPrintable text && !hasSpaceBreak text && !(text.getLast?.any (· == ' '))

/-- How a text is written. -/
inductive Style where
  | plain
  | single
  | double
  | literal
  deriving DecidableEq, Repr

/-- How a text is written. -/
def style (text : Text) : Style :=
  if text.contains '\n' then
    if literalAllowed text then .literal else .double
  else if !looksTyped text && plainAllowed text then .plain
  else if singleAllowed text then .single
  else .double

/-! ### Writing -/

/-- The start of a line at a column. -/
def indent (column : Nat) : Text := List.replicate column ' '

/-- Text between single quotes, with its quotes doubled. A line goes on at the given column.
    `fresh` tells whether a line has just begun. -/
def singleBody (column : Nat) : (fresh : Bool) → Text → Text
  | fresh, [] => if fresh then indent column else []
  | fresh, c :: text =>
    if c == ' ' then c :: singleBody column fresh text
    else if isBreak c then c :: singleBody column true text
    else
      (if fresh then indent column else []) ++
        (if c == '\x27' then ['\x27', '\x27'] else [c]) ++ singleBody column false text

/-- The lines of a literal block, each from the given column on. Empty lines stay empty. `fresh`
    tells whether a line has just begun. -/
def literalBody (column : Nat) : (fresh : Bool) → Text → Text
  | _, [] => []
  | fresh, c :: text =>
    if isBreak c then c :: literalBody column true text
    else (if fresh then indent column else []) ++ c :: literalBody column false text

/-- What the head of a literal block says about its text: that the text begins with white space,
    so that the indentation has to be told, and whether its end is to be cut or kept. -/
def literalHints (text : Text) : Text :=
  (if text.head?.any isSpaceOrBreak then ['2'] else []) ++
    match text.reverse with
    | [] => ['-']
    | [last] => if isBreak last then ['+'] else ['-']
    | last :: before :: _ =>
      if !isBreak last then ['-'] else if isBreak before then ['+'] else []

/-- An upper case hexadecimal digit. -/
def hexDigit (n : Nat) : Char := (Nat.digitChar n).toUpper

/-- A code point in `width` upper case hexadecimal digits. -/
def hexDigits : (width : Nat) → Nat → Text
  | 0, _ => []
  | width + 1, n => hexDigits width (n / 16) ++ [hexDigit (n % 16)]

/-- The letter behind the backslash for characters that have one. -/
def escapeLetter? (c : Char) : Option Char :=
  match c.toNat with
  | 0x00 => some '0'
  | 0x07 => some 'a'
  | 0x08 => some 'b'
  | 0x09 => some 't'
  | 0x0A => some 'n'
  | 0x0B => some 'v'
  | 0x0C => some 'f'
  | 0x0D => some 'r'
  | 0x1B => some 'e'
  | 0x22 => some '"'
  | 0x5C => some '\\'
  | 0x85 => some 'N'
  | 0x2028 => some 'L'
  | 0x2029 => some 'P'
  | _ => none

/-- A character as it stands between double quotes. -/
def doubleChar (c : Char) : Text :=
  if isPrintable c && !isBreak c && c != '"' && c != '\\' then [c]
  else match escapeLetter? c with
    | some letter => ['\\', letter]
    | none =>
      if c.toNat ≤ 0xFF then '\\' :: 'x' :: hexDigits 2 c.toNat
      else if c.toNat ≤ 0xFFFF then '\\' :: 'u' :: hexDigits 4 c.toNat
      else '\\' :: 'U' :: hexDigits 8 c.toNat

/-- A text as it stands behind its key or dash, with its line end. Its further lines, if it has
    any, go on at the given column. A block whose text ends a line needs no further line end. -/
def scalar (column : Nat) (text : Text) : Text :=
  match style text with
  | .plain => text ++ "\n"
  | .single => '\x27' :: singleBody column false text ++ "\x27\n"
  | .double => '"' :: text.flatMap doubleChar ++ "\"\n"
  | .literal =>
    '|' :: literalHints text ++ '\n' :: literalBody column true text ++
      (if text.getLast?.any isBreak then [] else ['\n'])

end Yaml

end StyleGuide
