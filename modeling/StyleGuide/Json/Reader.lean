import StyleGuide.Json.Numeral
import StyleGuide.Shape

/-!
# Reading JSON

A reader takes a value off the front of a text and gives the value and the rest. It knows what it
expects, so a value of another shape is refused where it begins, before anything behind it is
looked at: which of several faults is reported depends on their order in the text only.

A record is read from an object, whose members may come in any order and may be joined by
members of other names, or from a list of its fields in order. What has been read so far is a
value of a type of its own, in which each field may still be missing.

## Main definitions

* `Json.Fault`: Why a text cannot be read.
* `Json.Reader`: A reader of values.
* `Json.readString`, `Json.readUnit`, `Json.readOptional`, `Json.readList`: Readers of values.
* `Json.Member`, `Json.readRecord`: Readers of records.
* `Json.skipValue`: Reads over a value of any shape.
* `Json.readWhole`: A value that is all of a text.
-/

namespace StyleGuide

namespace Json

/-- Why a text cannot be read. -/
inductive Fault where
  /-- The text is not JSON. -/
  | malformed
  /-- The text ends too early. -/
  | truncated
  /-- The text is JSON of the wrong shape. -/
  | mismatch (cause : Mismatch)
  deriving DecidableEq, Repr

/-- A reader takes a value off the front of a text and gives the rest. -/
abbrev Reader (α : Type) := Text → Except Fault (α × Text)

/-- Whether a character may stand between values. -/
def isSpace (c : Char) : Bool := c == ' ' || c == '\n' || c == '\t' || c == '\r'

/-- The text after the space at its start. -/
def skipSpace (text : Text) : Text := text.dropWhile isSpace

/-- The text after a word that has to stand at its start. -/
def afterKeyword : (word text : Text) → Except Fault Text
  | [], text => .ok text
  | _ :: _, [] => .error .truncated
  | w :: word, c :: text => if w = c then afterKeyword word text else .error .malformed

/-! ### Numbers -/

/-- The fault of a number that lacks a digit at the front of a text. `atEnd` is the fault where
    the text ends there. -/
def lacksDigit (atEnd : Fault) (text : Text) : Fault :=
  if text.isEmpty then atEnd else .malformed

/-- The digits at the front of a text, of which there has to be one. -/
def readDigits (atEnd : Fault) (text : Text) : Except Fault (Text × Text) :=
  let digits := text.takeWhile Text.isDigit
  let rest := text.dropWhile Text.isDigit
  if digits.isEmpty then .error (lacksDigit atEnd rest) else .ok (digits, rest)

/-- The whole part of a number. A leading zero stands alone. -/
def readWholePart (atEnd : Fault) (text : Text) : Except Fault (Text × Text) := do
  let (digits, rest) ← readDigits atEnd text
  if digits.head? == some '0' && 1 < digits.length then .error .malformed
  else .ok (digits, rest)

/-- The fraction of a number, if there is a point. -/
def readFraction (atEnd : Fault) : Text → Except Fault (Option Text × Text)
  | '.' :: rest => do
    let (digits, rest) ← readDigits atEnd rest
    return (some digits, rest)
  | text => .ok (none, text)

/-- The exponent of a number, if there is one. -/
def readExponent (atEnd : Fault) : Text → Except Fault (Option Text × Text)
  | [] => .ok (none, [])
  | e :: rest =>
    if e = 'e' ∨ e = 'E' then do
      let (sign, body) := match rest with
        | '+' :: body => (['+'], body)
        | '-' :: body => (['-'], body)
        | body => ([], body)
      let (digits, rest) ← readDigits atEnd body
      return (some (sign ++ digits), rest)
    else .ok (none, e :: rest)

/-- A number. -/
def readNumeral (atEnd : Fault) (text : Text) : Except Fault (Numeral × Text) := do
  let (negative, body) := match text with
    | '-' :: body => (true, body)
    | body => (false, body)
  let (whole, rest) ← readWholePart atEnd body
  let (fraction, rest) ← readFraction atEnd rest
  let (exponent, rest) ← readExponent atEnd rest
  return (⟨negative, whole, fraction, exponent⟩, rest)

/-! ### Strings -/

/-- The code unit that four hexadecimal digits spell at the front of a text. A text with fewer
    than four bytes left is cut off. -/
def readCodeUnit (text : Text) : Except Fault (Nat × Text) :=
  match text with
  | a :: b :: c :: d :: rest =>
    match Text.readNat? 16 [a, b, c, d] with
    | some n => .ok (n, rest)
    | none => .error .malformed
  | _ => .error (if text.utf8Size < 4 then .truncated else .malformed)

/-- The character of an escaped code unit and what follows it. A code unit that opens a pair
    needs its other half right behind it. -/
def readEscapedUnit (text : Text) : Except Fault (Char × Text) := do
  let (first, rest) ← readCodeUnit text
  if 0xDC00 ≤ first ∧ first ≤ 0xDFFF then .error .malformed
  else if first < 0xD800 ∨ 0xDBFF < first then .ok (Char.ofNat first, rest)
  else
    let rest ← afterKeyword "\\u" rest
    let (second, rest) ← readCodeUnit rest
    if second < 0xDC00 ∨ 0xDFFF < second then .error .malformed
    else .ok (Char.ofNat (0x10000 + (first - 0xD800) * 0x400 + (second - 0xDC00)), rest)

/-- The character that a letter stands for behind a backslash. -/
def escaped? (c : Char) : Option Char :=
  match c with
  | '"' => some '"'
  | '\\' => some '\\'
  | '/' => some '/'
  | 'b' => some (Char.ofNat 8)
  | 'f' => some (Char.ofNat 12)
  | 'n' => some '\n'
  | 'r' => some '\r'
  | 't' => some '\t'
  | _ => none

/-- The rest of a string behind its opening quote, at most `fuel` characters of it. -/
def readStringBody : Nat → Reader Text
  | 0, _ => .error .truncated
  | fuel + 1, text =>
    match text with
    | [] => .error .truncated
    | '"' :: rest => .ok ([], rest)
    | '\\' :: [] => .error .truncated
    | '\\' :: 'u' :: rest => do
      let (c, rest) ← readEscapedUnit rest
      let (body, rest) ← readStringBody fuel rest
      return (c :: body, rest)
    | '\\' :: c :: rest =>
      match escaped? c with
      | none => .error .malformed
      | some c => do
        let (body, rest) ← readStringBody fuel rest
        return (c :: body, rest)
    | c :: rest =>
      if c.toNat < 0x20 then .error .malformed
      else do
        let (body, rest) ← readStringBody fuel rest
        return (c :: body, rest)

/-- A string behind its opening quote. -/
def readStringRest (text : Text) : Except Fault (Text × Text) :=
  readStringBody (text.length + 1) text

/-- What follows a string of which the opening quote has been read. Escaped code units may stand
    alone here. -/
def skipStringBody : Nat → Text → Except Fault Text
  | 0, _ => .error .truncated
  | fuel + 1, text =>
    match text with
    | [] => .error .truncated
    | '"' :: rest => .ok rest
    | '\\' :: [] => .error .truncated
    | '\\' :: 'u' :: rest => do
      let (_, rest) ← readCodeUnit rest
      skipStringBody fuel rest
    | '\\' :: c :: rest =>
      if (escaped? c).isNone then .error .malformed else skipStringBody fuel rest
    | c :: rest => if c.toNat < 0x20 then .error .malformed else skipStringBody fuel rest

/-! ### Values of any shape -/

mutual

/-- What follows a value of any shape. -/
def skipValueWithin : Nat → Text → Except Fault Text
  | 0, _ => .error .truncated
  | fuel + 1, text =>
    match skipSpace text with
    | [] => .error .truncated
    | 'n' :: rest => afterKeyword "ull" rest
    | 't' :: rest => afterKeyword "rue" rest
    | 'f' :: rest => afterKeyword "alse" rest
    | '"' :: rest => skipStringBody (rest.length + 1) rest
    | '[' :: rest =>
      match skipSpace rest with
      | ']' :: rest => .ok rest
      | rest => skipItems fuel rest
    | '\x7b' :: rest =>
      match skipSpace rest with
      | '\x7d' :: rest => .ok rest
      | rest => skipMembers fuel rest
    | c :: rest =>
      if c = '-' || Text.isDigit c then
        (readNumeral .malformed (c :: rest)).map (·.2)
      else .error .malformed

/-- What follows a list behind its opening bracket, if it has elements. -/
def skipItems : Nat → Text → Except Fault Text
  | 0, _ => .error .truncated
  | fuel + 1, text => do
    let rest ← skipValueWithin fuel text
    match skipSpace rest with
    | [] => .error .truncated
    | ',' :: rest => skipItems fuel rest
    | ']' :: rest => .ok rest
    | _ => .error .malformed

/-- What follows an object behind its opening brace, if it has members. -/
def skipMembers : Nat → Text → Except Fault Text
  | 0, _ => .error .truncated
  | fuel + 1, text =>
    match skipSpace text with
    | [] => .error .truncated
    | '"' :: rest => do
      let rest ← skipStringBody (rest.length + 1) rest
      match skipSpace rest with
      | [] => .error .truncated
      | ':' :: rest => do
        let rest ← skipValueWithin fuel rest
        match skipSpace rest with
        | [] => .error .truncated
        | ',' :: rest => skipMembers fuel rest
        | '\x7d' :: rest => .ok rest
        | _ => .error .malformed
      | _ => .error .malformed
    | _ => .error .malformed

end

/-- What follows a value of any shape. Every second call takes a character, so the fuel lasts. -/
def skipValue (text : Text) : Except Fault Text := skipValueWithin (2 * text.length + 2) text

/-! ### Values of an expected shape -/

/-- The fault of a value that begins a text, where a value of another shape is expected. A value
    that is itself ill-formed is reported as such. -/
def unexpected (expected text : Text) : Fault :=
  let found (value : Found) : Fault := .mismatch (.wrongType value expected)
  let keyword (word rest : Text) (value : Found) : Fault :=
    match afterKeyword word rest with
    | .ok _ => found value
    | .error fault => fault
  match text with
  | [] => .truncated
  | 'n' :: rest => keyword "ull" rest .nothing
  | 't' :: rest => keyword "rue" rest (.boolean true)
  | 'f' :: rest => keyword "alse" rest (.boolean false)
  | '"' :: rest =>
    match readStringRest rest with
    | .ok (value, _) => found (.string value)
    | .error fault => fault
  | '[' :: _ => found .sequence
  | '\x7b' :: _ => found .map
  | c :: rest =>
    if c = '-' || Text.isDigit c then
      match readNumeral .truncated (c :: rest) with
      | .ok (n, _) =>
        match n.value? with
        | some value => found value
        | none => .malformed
      | .error fault => fault
    else .malformed

/-- A string. -/
def readString : Reader Text := fun text =>
  match skipSpace text with
  | '"' :: rest => readStringRest rest
  | text => .error (unexpected "a string" text)

/-- `null` in place of a value that says nothing. -/
def readUnit : Reader Unit := fun text =>
  match skipSpace text with
  | 'n' :: rest => (afterKeyword "ull" rest).map ((), ·)
  | text => .error (unexpected "unit" text)

/-- A value that may be `null`. -/
def readOptional {α : Type} (read : Reader α) : Reader (Option α) := fun text =>
  match skipSpace text with
  | 'n' :: rest => (afterKeyword "ull" rest).map (none, ·)
  | text => (read text).map fun (value, rest) => (some value, rest)

/-- The next element of a list, or `none` at its end, before the closing bracket. -/
def atElement (first : Bool) (text : Text) : Except Fault (Option Text) :=
  match skipSpace text with
  | [] => .error .truncated
  | ']' :: _ => .ok none
  | c :: rest =>
    if first then .ok (some (c :: rest))
    else if c = ',' then
      match skipSpace rest with
      | [] => .error .truncated
      | ']' :: _ => .error .malformed
      | rest => .ok (some rest)
    else .error .malformed

/-- The elements of a list up to its closing bracket. -/
def readElements {α : Type} (read : Reader α) : Nat → Bool → Reader (List α)
  | 0, _, _ => .error .truncated
  | fuel + 1, first, text => do
    match ← atElement first text with
    | none => return ([], (skipSpace text).drop 1)
    | some text =>
      let (value, rest) ← read text
      let (values, rest) ← readElements read fuel false rest
      return (value :: values, rest)

/-- A list of values. -/
def readList {α : Type} (read : Reader α) : Reader (List α) := fun text =>
  match skipSpace text with
  | '[' :: rest => readElements read (rest.length + 1) true rest
  | text => .error (unexpected "a sequence" text)

/-! ### Records -/

/-- A field of a record of which `σ` is what has been read so far. -/
structure Member (σ : Type) where
  name : Text
  /-- Whether the field has been read. -/
  filled : σ → Bool
  /-- Reads the field into what has been read so far. -/
  read : σ → Reader σ

/-- The value of a record's field behind its key. -/
def afterColon (text : Text) : Except Fault Text :=
  match skipSpace text with
  | [] => .error .truncated
  | ':' :: rest => .ok rest
  | _ => .error .malformed

/-- The key of the next member of an object and what follows it, or `none` at the end of the
    object, before the closing brace. -/
def atMember (first : Bool) (text : Text) : Except Fault (Option (Text × Text)) :=
  let key (text : Text) : Except Fault (Option (Text × Text)) :=
    match text with
    | [] => .error .truncated
    | '"' :: rest => (readStringRest rest).map some
    | _ => .error .malformed
  match skipSpace text with
  | [] => .error .truncated
  | '\x7d' :: _ => .ok none
  | c :: rest =>
    if first then key (c :: rest)
    else if c = ',' then key (skipSpace rest)
    else .error .malformed

/-- The members of an object up to its closing brace. Members of other names are read over. -/
def readMembers {σ : Type} (fields : List (Member σ)) : Nat → Bool → σ → Reader σ
  | 0, _, _, _ => .error .truncated
  | fuel + 1, first, state, text => do
    match ← atMember first text with
    | none => return (state, (skipSpace text).drop 1)
    | some (key, rest) =>
      match fields.find? (·.name == key) with
      | none =>
        let rest ← skipValue (← afterColon rest)
        readMembers fields fuel false state rest
      | some field =>
        if field.filled state then .error (.mismatch (.duplicateField key))
        else
          let (state, rest) ← field.read state (← afterColon rest)
          readMembers fields fuel false state rest

/-- The fields of a record from the elements of a list, `index` of which have been read. -/
def readInOrder {σ : Type} (record : Text) (count : Nat) :
    List (Member σ) → Nat → σ → Reader σ
  | [], _, state, text => .ok (state, text)
  | field :: fields, index, state, text => do
    match ← atElement (index == 0) text with
    | none => .error (.mismatch (.wrongLength index record count))
    | some text =>
      let (state, rest) ← field.read state text
      readInOrder record count fields (index + 1) state rest

/-- What follows the closing bracket of a list that has to end here. -/
def afterBracket (text : Text) : Except Fault Text :=
  match skipSpace text with
  | [] => .error .truncated
  | ']' :: rest => .ok rest
  | _ => .error .malformed

/-- A record, from an object or from a list. `complete` says what the fields amount to. -/
def readRecord {σ α : Type} (record : Text) (fields : List (Member σ)) (initial : σ)
    (complete : σ → Except Fault α) : Reader α := fun text =>
  match skipSpace text with
  | '\x7b' :: rest => do
    let (state, rest) ← readMembers fields (rest.length + 1) true initial rest
    return (← complete state, rest)
  | '[' :: rest => do
    let (state, rest) ← readInOrder record fields.length fields 0 initial rest
    return (← complete state, ← afterBracket rest)
  | text => .error (unexpected record text)

/-- A field that has to be there. -/
def require {α : Type} (name : Text) : Option α → Except Fault α
  | some value => .ok value
  | none => .error (.mismatch (.missingField name))

/-- A value that is all of a text, space around it apart. -/
def readWhole {α : Type} (read : Reader α) (text : Text) : Except Fault α := do
  let (value, rest) ← read text
  if (skipSpace rest).isEmpty then .ok value else .error .malformed

end Json

end StyleGuide
