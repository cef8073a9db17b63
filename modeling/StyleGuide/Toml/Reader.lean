import StyleGuide.Toml.Table

/-!
# Reading TOML

A reader takes something off the front of a text and gives the rest, or nothing where the text
does not begin that way. A file is a list of lines with a key and a value or a header each;
values may run over several lines.

Arrays and inline tables nest less than eighty deep, and a dotted key has fewer than eighty parts.

## Main definitions

* `Reader`: Takes something off the front of a text.
* `readKey`: A dotted key.
* `readValue`: A value.
* `readFile`: The table of a whole file.
-/

namespace StyleGuide

namespace Toml

/-- Takes something off the front of a text and gives the rest. -/
abbrev Reader (α : Type) := Text → Option (α × Text)

/-- How deep values nest, and how many parts a key has, at most. -/
def depthLimit : Nat := 80

/-! ### Space, comments and line ends -/

/-- Whether a character may stand between the parts of a line. -/
def isSpace (c : Char) : Bool := c == ' ' || c == '\t'

/-- The text after the space at its start. -/
def skipSpace (text : Text) : Text := text.dropWhile isSpace

/-- Whether a character may stand in a comment or a string. Line feeds and other control
    characters may not. -/
def isOrdinary (c : Char) : Bool := c == '\t' || (0x20 ≤ c.toNat && c.toNat ≠ 0x7F)

/-- The text after a line end at its start. -/
def afterLineEnd? : Text → Option Text
  | '\n' :: text => some text
  | '\r' :: '\n' :: text => some text
  | _ => none

/-- The text after the rest of a line, on which only a comment may stand. -/
def endLine? (text : Text) : Option Text :=
  let rest := match skipSpace text with
    | '#' :: comment => comment.dropWhile isOrdinary
    | rest => rest
  if rest.isEmpty then some [] else afterLineEnd? rest

/-- The text after the space, the comments and the line ends at its start. -/
def skipLines : (inComment : Bool) → Text → Text
  | _, [] => []
  | _, '\n' :: text => skipLines false text
  | _, '\r' :: '\n' :: text => skipLines false text
  | true, c :: text => if isOrdinary c then skipLines true text else c :: text
  | false, c :: text =>
    if c == '#' then skipLines true text
    else if isSpace c then skipLines false text
    else c :: text

/-! ### Strings -/

/-- A character that an escape sequence spells in hexadecimal digits, and what follows. -/
def readCodePoint (digits : Nat) : Reader Char := fun text =>
  let spelled := text.take digits
  if spelled.length ≠ digits then none
  else match Text.readNat? 16 spelled with
    | none => none
    | some n =>
      if n < 0xD800 ∨ (0xDFFF < n ∧ n < 0x110000) then some (Char.ofNat n, text.drop digits)
      else none

/-- The character behind a backslash, and what follows. -/
def readEscape : Reader Char
  | 'u' :: text => readCodePoint 4 text
  | 'U' :: text => readCodePoint 8 text
  | 'b' :: text => some (Char.ofNat 8, text)
  | 't' :: text => some ('\t', text)
  | 'n' :: text => some ('\n', text)
  | 'f' :: text => some (Char.ofNat 12, text)
  | 'r' :: text => some ('\r', text)
  | '"' :: text => some ('"', text)
  | '\\' :: text => some ('\\', text)
  | _ => none

/-- The rest of a basic string behind its quote, at most `fuel` characters of it. -/
def readBasicBody : Nat → Reader Text
  | 0, _ => none
  | fuel + 1, text =>
    match text with
    | [] => none
    | '"' :: rest => some ([], rest)
    | '\\' :: rest => do
      let (c, rest) ← readEscape rest
      let (body, rest) ← readBasicBody fuel rest
      return (c :: body, rest)
    | c :: rest => do
      guard (isOrdinary c)
      let (body, rest) ← readBasicBody fuel rest
      return (c :: body, rest)

/-- The rest of a literal string behind its quote. -/
def readLiteralBody (text : Text) : Option (Text × Text) :=
  match text.dropWhile fun c => c != '\x27' && isOrdinary c with
  | '\x27' :: rest => some (text.takeWhile (fun c => c != '\x27' && isOrdinary c), rest)
  | _ => none

/-- The text after the white space that a backslash at the end of a line takes away: the rest of
    the line and all empty lines below it, with the indentation that follows. -/
def afterContinuation? (text : Text) : Option Text := do
  let rest ← afterLineEnd? (skipSpace text)
  return skipBlankLines rest
where
  /-- The text after the space and the line ends at its start. -/
  skipBlankLines : Text → Text
    | '\n' :: text => skipBlankLines text
    | '\r' :: '\n' :: text => skipBlankLines text
    | c :: text => if isSpace c then skipBlankLines text else c :: text
    | [] => []

/-- The rest of a string of several lines behind its quotes, at most `fuel` characters of it. Up
    to two quotes may stand before the three that end it. A line end counts as a line feed. In a
    basic string a backslash begins an escape sequence or takes a line end away. -/
def readLinesBody (quote : Char) (escapes : Bool) : Nat → Reader Text
  | 0, _ => none
  | fuel + 1, text =>
    match text with
    | [] => none
    | c :: rest =>
      if c = quote then
        let quotes := (text.takeWhile (· == quote)).length
        if quotes < 3 then do
          let (body, rest) ← readLinesBody quote escapes fuel rest
          return (c :: body, rest)
        else
          let length := min quotes 5
          some (List.replicate (length - 3) quote, text.drop length)
      else if c = '\\' ∧ escapes then
        match afterContinuation? rest with
        | some rest => readLinesBody quote escapes fuel rest
        | none => do
          let (c, rest) ← readEscape rest
          let (body, rest) ← readLinesBody quote escapes fuel rest
          return (c :: body, rest)
      else
        match afterLineEnd? text with
        | some rest => do
          let (body, rest) ← readLinesBody quote escapes fuel rest
          return ('\n' :: body, rest)
        | none => do
          guard (isOrdinary c)
          let (body, rest) ← readLinesBody quote escapes fuel rest
          return (c :: body, rest)

/-- A string of several lines behind its quotes. A line end right behind them does not count. -/
def readLines (quote : Char) (escapes : Bool) (text : Text) : Option (Text × Text) :=
  let body := (afterLineEnd? text).getD text
  readLinesBody quote escapes (body.length + 1) body

/-- A string behind its first quote. -/
def readBasic (text : Text) : Option (Text × Text) := readBasicBody (text.length + 1) text

/-- A string of any of the four kinds. -/
def readString : Reader Text
  | '"' :: '"' :: '"' :: text => readLines '"' true text
  | '"' :: text => readBasic text
  | '\x27' :: '\x27' :: '\x27' :: text => readLines '\x27' false text
  | '\x27' :: text => readLiteralBody text
  | _ => none

/-! ### Keys -/

/-- Whether a character may stand in a key without quotes. -/
def isBareKeyChar (c : Char) : Bool := c.isAlphanum || c == '-' || c == '_'

/-- One part of a key. -/
def readSimpleKey : Reader Text
  | '"' :: text => readBasic text
  | '\x27' :: text => readLiteralBody text
  | text =>
    let key := text.takeWhile isBareKeyChar
    if key.isEmpty then none else some (key, text.dropWhile isBareKeyChar)

/-- The parts of a dotted key, at most `fuel` of them, with space around each. -/
def readKeyParts : Nat → Reader (List Text)
  | 0, _ => none
  | fuel + 1, text => do
    let (part, rest) ← readSimpleKey (skipSpace text)
    match skipSpace rest with
    | '.' :: rest =>
      let (parts, rest) ← readKeyParts fuel rest
      return (part :: parts, rest)
    | rest => return ([part], rest)

/-- A dotted key: the parts before the last, and the last. -/
def readKey (text : Text) : Option ((List Text × Text) × Text) := do
  let (parts, rest) ← readKeyParts (depthLimit - 1) text
  match parts.reverse with
  | [] => none
  | last :: before => return ((before.reverse, last), rest)

/-! ### Numbers, truth values and dates -/

/-- Digits without the low lines between them, each of which has to stand between two digits. -/
def plainDigits? (isDigit : Char → Bool) (text : Text) : Option Text :=
  let groups := text.splitAll '_'
  if groups.all fun group => !group.isEmpty && group.all isDigit then some groups.flatten
  else none

/-- The digits of a whole number without a useless leading zero. -/
def wholeDigits? (text : Text) : Option Text := do
  let digits ← plainDigits? Text.isDigit text
  guard (digits.head? ≠ some '0' ∨ digits.length = 1)
  return digits

/-- An integer of 64 bits. Only a decimal one may have a sign. -/
def integer? (token : Text) : Option Int :=
  let marked (radix : Nat) (digits : Text) : Option Int := do
    let n := Text.readNat radix (← plainDigits? (Text.isDigitOf radix) digits)
    guard (n < Nat.pow 2 63)
    return n
  match token with
  | '0' :: 'x' :: digits => marked 16 digits
  | '0' :: 'o' :: digits => marked 8 digits
  | '0' :: 'b' :: digits => marked 2 digits
  | token => do
    let (sign, body) := Text.takeSign token
    let n := Text.readNat 10 (← wholeDigits? body)
    if sign = some true then
      guard (n ≤ Nat.pow 2 63)
      return -(n : Int)
    else
      guard (n < Nat.pow 2 63)
      return n

/-- The exponent of a number with one, with its sign. -/
def exponentDigits? (text : Text) : Option Text := do
  let (sign, body) := Text.takeSign text
  let digits ← plainDigits? Text.isDigit body
  return if sign = some true then '-' :: digits else digits

/-- A number with a fraction, an exponent or both. One too great for a double is refused if it is
    positive. -/
def number? (token : Text) : Option Double := do
  let (sign, body) := Text.takeSign token
  let negative := sign == some true
  let isMark (c : Char) : Bool := c == '.' || c == 'e' || c == 'E'
  let whole ← wholeDigits? (body.takeWhile (!isMark ·))
  let (fraction, exponent) ← match body.dropWhile (!isMark ·) with
    | '.' :: rest => do
      let fraction ← plainDigits? Text.isDigit (rest.takeWhile (!isMark ·))
      match rest.dropWhile (!isMark ·) with
      | [] => some (fraction, ['0'])
      | '.' :: _ => none
      | _ :: exponent => some (fraction, ← exponentDigits? exponent)
    | _ :: exponent => some ([], ← exponentDigits? exponent)
    | [] => none
  let double := Double.ofDecimal
    (Decimal.ofParts negative whole fraction ((Decimal.exponent? exponent).getD 0))
  guard (double ≠ .infinite false)
  return double

/-- A number without a finite value. -/
def specialNumber? (token : Text) : Option Double :=
  let (sign, body) := Text.takeSign token
  if body = "inf" then some (.infinite (sign == some true))
  else if body = "nan" then some .nan
  else none

/-- A value that is neither a string nor made of other values. -/
def plainValue? (token : Text) : Option Value :=
  if token = "true" then some (.boolean true)
  else if token = "false" then some (.boolean false)
  else match DateTime.ofText? .clock token with
    | some dateTime => some (.dateTime dateTime)
    | none =>
      match integer? token with
      | some n => some (.integer n)
      | none =>
        match number? token with
        | some number => some (.number number)
        | none => (specialNumber? token).map .number

/-- Whether a character may stand in a number, a truth value or a date. -/
def isTokenChar (c : Char) : Bool :=
  c.isAlphanum || c == '+' || c == '-' || c == '_' || c == '.' || c == ':'

/-- A value that is neither a string nor made of other values. A date may be followed by a space
    and a time. -/
def readPlainValue : Reader Value := fun text =>
  let token := text.takeWhile isTokenChar
  let rest := text.dropWhile isTokenChar
  let alone := (plainValue? token).map (·, rest)
  match rest with
  | ' ' :: more =>
    match DateTime.ofText? .clock (token ++ ' ' :: more.takeWhile isTokenChar) with
    | some dateTime => some (.dateTime dateTime, more.dropWhile isTokenChar)
    | none => alone
  | _ => alone

/-! ### Values -/

mutual

/-- A value. `depth` says how much deeper values may nest. -/
def readValueWithin : Nat → (depth : Nat) → Reader Value
  | 0, _, _ => none
  | fuel + 1, depth, text =>
    match text with
    | '[' :: rest =>
      match depth with
      | 0 => none
      | depth + 1 => do
        let (items, rest) ← readItems fuel depth rest
        return (.array items, rest)
    | '\x7b' :: rest =>
      match depth with
      | 0 => none
      | depth + 1 =>
        match skipSpace rest with
        | '\x7d' :: rest => some (.table [], rest)
        | rest => do
          let (entries, rest) ← readPairs fuel depth [] rest
          return (.table (closeEntries entries), rest)
    | c :: _ =>
      if c = '"' ∨ c = '\x27' then (readString text).map fun (s, rest) => (.text s, rest)
      else readPlainValue text
    | [] => none

/-- The items of an array up to its closing bracket. A comma may follow the last. -/
def readItems : Nat → (depth : Nat) → Reader (List Value)
  | 0, _, _ => none
  | fuel + 1, depth, text =>
    match skipLines false text with
    | ']' :: rest => some ([], rest)
    | text => do
      let (item, rest) ← readValueWithin fuel depth text
      match skipLines false rest with
      | ',' :: rest =>
        let (items, rest) ← readItems fuel depth rest
        return (item :: items, rest)
      | ']' :: rest => return ([item], rest)
      | _ => none

/-- The entries of an inline table up to its closing brace, added to those before them. -/
def readPairs : Nat → (depth : Nat) → Entries → Reader Entries
  | 0, _, _, _ => none
  | fuel + 1, depth, entries, text => do
    let ((path, key), rest) ← readKey text
    let rest ← Text.afterLead? "=" rest
    let (value, rest) ← readValueWithin fuel depth (skipSpace rest)
    let entries ← entries.addValue path key value
    match skipSpace rest with
    | ',' :: rest => readPairs fuel depth entries rest
    | '\x7d' :: rest => return (entries, rest)
    | _ => none

end

/-- A value. Every second step takes a character, so the fuel lasts. -/
def readValue (text : Text) : Option (Value × Text) :=
  readValueWithin (2 * text.length + 2) (depthLimit - 1) text

/-! ### Files -/

/-- The table of a file so far, and the path of the table that lines are added to. -/
structure Progress where
  entries : Entries
  current : List Text

/-- Read a line with a key and a value. -/
def readPair (progress : Progress) (text : Text) : Option (Progress × Text) := do
  let ((path, key), rest) ← readKey text
  let rest ← Text.afterLead? "=" rest
  let (value, rest) ← readValue (skipSpace rest)
  let entries ← Entries.descend .passing (fun _ entries => entries.addValue path key value)
    progress.current .header progress.entries
  return ({ progress with entries := entries }, rest)

/-- Read the header of an element of an array of tables behind its two brackets. -/
def readElementHeader (progress : Progress) (text : Text) : Option (Progress × Text) := do
  let ((path, key), rest) ← readKey text
  let rest ← Text.afterLead? "]]" rest
  let entries ← progress.entries.openElement path key
  return (⟨entries, path ++ [key]⟩, rest)

/-- Read the header of a table behind its bracket. -/
def readTableHeader (progress : Progress) (text : Text) : Option (Progress × Text) := do
  let ((path, key), rest) ← readKey text
  let rest ← Text.afterLead? "]" rest
  let entries ← progress.entries.openTable path key
  return (⟨entries, path ++ [key]⟩, rest)

/-- Read the lines of a file, at most `fuel` of them. -/
def readLinesOf : Nat → Progress → Text → Option Entries
  | 0, _, _ => none
  | fuel + 1, progress, text =>
    match skipLines false text with
    | [] => some progress.entries
    | text => do
      let (progress, rest) ← match text with
        | '[' :: '[' :: rest => readElementHeader progress rest
        | '[' :: rest => readTableHeader progress rest
        | text => readPair progress text
      readLinesOf fuel progress (← endLine? rest)

/-- The table of a whole file. A byte order mark at its start does not count, and a file stands for
    no date. -/
def readFile (text : Text) : Option (List (Text × Value)) :=
  let text := match text with
    | c :: rest => if c.toNat = 0xFEFF then rest else text
    | [] => []
  (readLinesOf (text.length + 1) ⟨[], []⟩ text).bind fun entries =>
    let entries := closeEntries entries
    if (spelling? entries).isSome then none else settleEntries? entries

end Toml

end StyleGuide
