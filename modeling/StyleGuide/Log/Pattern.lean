import StyleGuide.Number.Decimal
import StyleGuide.Text.Blank
import StyleGuide.Text.Letter

/-!
# Patterns

A pattern is a regular expression for the whole value of a detail of a task. No task of this
program has details, so nothing is ever matched; but a filter with a value that is no pattern is
no filter, so patterns have to be told from other texts.

A pattern stands between braces and holds none that closes. What needs one, such as a number of
repetitions, is therefore refused at its opening brace. Word borders by the letters of all scripts
are refused as well, since they cannot be told without looking ahead.

## Main definitions

* `Pattern.Mode`: The flags that matter for what a pattern may hold.
* `Pattern.readEscape`: What a backslash stands for.
* `Pattern.readClass`: A class in brackets.
* `Pattern.Reading`, `Pattern.Reading.step`: How far a pattern is read, and one part more.
* `Pattern.isValid`: Whether a text is a pattern.
-/

namespace StyleGuide

namespace Log

namespace Pattern

/-- The flags that matter for what a pattern may hold. -/
structure Mode where
  /-- Characters are matched, and not bytes. -/
  unicode : Bool := true
  /-- Blanks and comments between the parts do not count. -/
  verbose : Bool := false
  deriving DecidableEq, Repr

/-- What follows the blanks and comments at the front of a text. A comment goes up to a line
    feed. -/
def skipNotes (inComment : Bool) : Text → Text
  | [] => []
  | c :: text =>
    if inComment then skipNotes (c != '\n') text
    else if Text.isBlank c then skipNotes false text
    else if c = '#' then skipNotes true text
    else c :: text

/-- What follows everything at the front of a text that does not count. -/
def Mode.skip (mode : Mode) (text : Text) : Text :=
  if mode.verbose then skipNotes false text else text

/-- A part of a pattern. -/
inductive Part where
  /-- One character. -/
  | char (value : Char)
  /-- Any of a class of characters. -/
  | oneOf
  /-- A place between characters. -/
  | place
  deriving DecidableEq, Repr

/-- A number of `n` hexadecimal digits at the front of a text, put behind `value`. -/
def readHex (mode : Mode) : (n value : Nat) → Text → Option (Nat × Text)
  | 0, value, text => some (value, text)
  | n + 1, value, text =>
    match mode.skip text with
    | [] => none
    | c :: rest =>
      if Text.isDigitOf 16 c then
        readHex mode n (value * 16 + (Text.digitValue? c).getD 0) rest
      else none

/-- A character that is written by its code point. -/
def readCodePoint (mode : Mode) (digits : Nat) (text : Text) : Option (Part × Text) := do
  let (value, rest) ← readHex mode digits 0 text
  guard value.isValidChar
  guard (mode.unicode ∨ digits ≠ 2 ∨ value < 0x80)
  return (.char (Char.ofNat value), rest)

/-- The letters for a control character. -/
def controlLetters : Text := "aftnrv"

/-- The letters for a class of characters, and for everything else. -/
def classLetters : Text := "dsw"

/-- The letters for a place that does not depend on words. -/
def placeLetters : Text := "Az"

/-- The characters for a place at the border of a word. -/
def borderLetters : Text := "bB<>"

/-- The one letter names of kinds of characters. -/
def kindLetters : Text := "clmnpsz"

/-- What a backslash in front of a text stands for. -/
def readEscape (mode : Mode) : Text → Option (Part × Text)
  | [] => none
  | 'x' :: rest => readCodePoint mode 2 rest
  | 'u' :: rest => readCodePoint mode 4 rest
  | 'U' :: rest => readCodePoint mode 8 rest
  | c :: rest =>
    if c = 'p' ∨ c = 'P' then
      match mode.skip rest with
      | kind :: rest =>
        if mode.unicode && kindLetters.contains kind.toLower then some (.oneOf, rest) else none
      | [] => none
    else if controlLetters.contains c then some (.char c, rest)
    else if classLetters.contains c then some (.oneOf, rest)
    else if classLetters.contains c.toLower then
      if mode.unicode then some (.oneOf, rest) else none
    else if placeLetters.contains c then some (.place, rest)
    else if borderLetters.contains c then
      if mode.unicode then none else some (.place, rest)
    else if c.toNat < 0x80 && !c.isAlphanum then some (.char c, rest)
    else none

/-! ### Classes -/

/-- The names of classes that are written between colons. -/
def classNames : List Text :=
  ["alnum", "alpha", "ascii", "blank", "cntrl", "digit", "graph", "lower", "print", "punct",
   "space", "upper", "word", "xdigit"]

/-- What follows a named class, whose bracket has been read. -/
def afterNamed? (text : Text) : Option Text := do
  let text ← Text.afterLead? ":" text
  let (name, rest) ← Text.splitFirst? ':' ((Text.afterLead? "^" text).getD text)
  guard (name ∈ classNames)
  Text.afterLead? "]" rest

/-- What follows the opening of a class behind its bracket. There hyphens stand for themselves,
    and so does a closing bracket in front of everything else. -/
def afterOpening? (mode : Mode) (text : Text) : Option Text := do
  let text := mode.skip text
  let negated := Text.afterLead? "^" text
  guard (mode.unicode ∨ negated = none)
  let text := mode.skip (negated.getD text)
  let rest := text.dropWhile fun c => c == '-' || (mode.verbose && Text.isBlank c)
  match rest with
  | ']' :: after => if text.head? = some '-' then return rest else return after
  | rest => return rest

/-- A character or a class of characters at the front of a text. -/
def readMember (mode : Mode) : Text → Option (Part × Text)
  | [] => none
  | '\\' :: rest => readEscape mode rest
  | c :: rest => if mode.unicode || c.toNat < 0x80 then some (.char c, rest) else none

/-- A member of a class, or a range between two characters, at the front of a text. A hyphen at
    the end of the class or in front of another one makes no range. -/
def readMembers (mode : Mode) (text : Text) : Option Text := do
  let (first, rest) ← readMember mode text
  guard (first ≠ .place)
  match mode.skip rest with
  | '-' :: after =>
    let after := mode.skip after
    if after.head? = some ']' ∨ after.head? = some '-' then return '-' :: after
    else
      let (last, rest) ← readMember mode after
      match first, last with
      | .char first, .char last => if first ≤ last then return rest else none
      | _, _ => none
  | rest => return rest

/-- What follows a class inside of `depth` others, at most `fuel` parts long. -/
def readClassWithin (mode : Mode) : (fuel depth : Nat) → Text → Option Text
  | 0, _, _ => none
  | fuel + 1, depth, text =>
    match mode.skip text with
    | [] => none
    | ']' :: rest =>
      match depth with
      | 0 => some rest
      | depth + 1 => readClassWithin mode fuel depth rest
    | '[' :: rest =>
      match afterNamed? rest with
      | some rest => readClassWithin mode fuel depth rest
      | none => do readClassWithin mode fuel (depth + 1) (← afterOpening? mode rest)
    | '&' :: '&' :: rest | '-' :: '-' :: rest | '~' :: '~' :: rest =>
      readClassWithin mode fuel depth rest
    | text => do readClassWithin mode fuel depth (← readMembers mode text)

/-- What follows a class whose bracket has been read. Every part takes a character. -/
def readClass (mode : Mode) (text : Text) : Option Text := do
  let text ← afterOpening? mode text
  readClassWithin mode (text.length + 1) 0 text

/-! ### Groups -/

/-- The name of a group up to its closing bracket. -/
def readName (text : Text) : Option (Text × Text) := do
  let (name, rest) ← Text.splitFirst? '>' text
  let first ← name.head?
  guard (first = '_' ∨ Text.isLetter first)
  guard (name.all fun c => Text.isLetter c || Text.isNumeral c || "_.[]".toList.contains c)
  return (name, rest)

/-- The flags that a pattern may set. -/
def flagLetters : Text := "imsURux-"

/-- The mode after a flag has been set or cleared. -/
def Mode.withFlag (mode : Mode) (flag : Char) (value : Bool) : Mode :=
  if flag = 'u' then { mode with unicode := value }
  else if flag = 'x' then { mode with verbose := value }
  else mode

/-- The mode that flags lead to, with the text from the end of the flags on. No flag stands twice,
    and something is cleared by each hyphen. -/
def readFlags (seen : Text) (mode : Mode) : Text → Option (Mode × Text)
  | [] => none
  | c :: rest =>
    if c = ':' ∨ c = ')' then
      if seen.head? = some '-' then none else some (mode, c :: rest)
    else if flagLetters.contains c && !seen.contains c then
      readFlags (c :: seen) (mode.withFlag c (!seen.contains '-')) rest
    else none

/-! ### Whole patterns -/

/-- How far a pattern is read. -/
structure Reading where
  mode : Mode := {}
  /-- The modes around the open groups, the innermost first. -/
  enclosing : List Mode := []
  /-- The names of groups so far. -/
  names : List Text := []
  /-- Whether something stands in front that can be repeated. -/
  repeatable : Bool := false
  deriving DecidableEq, Repr

namespace Reading

/-- Read on behind a part that can be repeated. -/
def afterPart (r : Reading) : Reading := { r with repeatable := true }

/-- Open a group in a mode. -/
def openGroup (r : Reading) (mode : Mode) : Reading :=
  { r with mode := mode, enclosing := r.mode :: r.enclosing, repeatable := false }

/-- Open a group with a name of its own. -/
def openNamed (r : Reading) (text : Text) : Option (Reading × Text) := do
  let (name, rest) ← readName text
  guard (name ∉ r.names)
  return (({ r with names := name :: r.names }).openGroup r.mode, rest)

/-- Read the opening of a group behind its bracket. Flags alone open no group. -/
def readGroup (r : Reading) (text : Text) : Option (Reading × Text) :=
  match r.mode.skip text with
  | '?' :: 'P' :: '<' :: rest | '?' :: '<' :: rest => r.openNamed rest
  | '?' :: flags => do
    let (mode, rest) ← readFlags [] r.mode flags
    match rest with
    | ':' :: rest => return (r.openGroup mode, rest)
    | rest =>
      guard (flags.head? ≠ some ')')
      return ({ r with mode := mode, repeatable := false }, rest.drop 1)
  | rest => some (r.openGroup r.mode, rest)

/-- Read one part that begins with `c`. -/
def step (r : Reading) (c : Char) (rest : Text) : Option (Reading × Text) :=
  match c with
  | '(' => r.readGroup rest
  | ')' =>
    match r.enclosing with
    | [] => none
    | mode :: enclosing =>
      some ({ r with mode := mode, enclosing := enclosing, repeatable := true }, rest)
  | '|' => some ({ r with repeatable := false }, rest)
  | '[' => (readClass r.mode rest).map (r.afterPart, ·)
  | '?' | '*' | '+' =>
    if r.repeatable then some (r, (Text.afterLead? "?" rest).getD rest) else none
  | '\\' => (readEscape r.mode rest).map fun (_, rest) => (r.afterPart, rest)
  | '.' => if r.mode.unicode then some (r.afterPart, rest) else none
  | '\x7b' => none
  | _ => some (r.afterPart, rest)

/-- Whether the rest of a pattern can be read in at most `fuel` parts. -/
def finishes : (fuel : Nat) → Reading → Text → Bool
  | 0, _, _ => false
  | fuel + 1, r, text =>
    match r.mode.skip text with
    | [] => r.enclosing.isEmpty
    | c :: rest =>
      match r.step c rest with
      | none => false
      | some (r, rest) => finishes fuel r rest

end Reading

/-- Whether a text is a pattern. Every part takes a character. -/
def isValid (text : Text) : Bool := Reading.finishes (text.length + 1) {} text

end Pattern

end Log

end StyleGuide
