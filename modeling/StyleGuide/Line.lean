import StyleGuide.Document
import StyleGuide.Text.Blank
import StyleGuide.Text.Word

/-!
# Shapes of lines

What a single line of a ruleset looks like, whatever stands around it. Each function here answers
whether a line has one shape and gives what the line carries; the scanner decides when a shape
counts.

```text
# Title: Style Guide          title, anywhere
# Section: Naming             section header
# free text                   comment
rules:                        start of a rules block
  rule-name: error            rule header, two characters in, severity optional
    severity: warn            nested severity, four characters in
```

Example headers are looked for in the text of a comment: `valid example:`,
`Invalid example (edge case):`. The parts of a header are read from left to right and no part can
begin with a character that the part before it could have taken, so reading as much as possible
of each part is the only way to read the line.

## Main definitions

* `Line.title?`, `Line.section?`: The payload of the two markers.
* `Line.isComment`, `Line.uncomment`: Comments and their text.
* `Line.startsRules`: The start of a rules block.
* `Line.ruleHeader?`: A rule's name and its inline severity.
* `Line.isNested`, `Line.nestedSeverity?`: The block below a rule header.
* `Line.exampleHeader?`: The head of an example inside a rule's documentation.
-/

namespace StyleGuide

/-- The name in a rule header, and the severity if the header gives one. -/
structure RuleHeader where
  name : Text
  severity : Option Text
  deriving DecidableEq, Repr

/-- The kind in an example header, and the label if the header gives one. -/
structure ExampleHeader where
  kind : ExampleKind
  label : Option Text
  deriving DecidableEq, Repr

namespace Line

/-- What marks the title. -/
def titleMarker : Text := "# Title:"

/-- What marks a section header. -/
def sectionMarker : Text := "# Section:"

/-- What starts a rules block. -/
def rulesMarker : Text := "rules:"

/-- What a description line of a document or a section ends with, so that Markdown breaks the
    line there. -/
def hardBreak : Text := "  "

/-- What a line in the block below a rule header begins with. -/
def nestedIndent : Text := "    "

/-- The title, if the line is a title line. -/
def title? (line : Text) : Option Text :=
  (Text.afterLead? titleMarker line.trim).map Text.trim

/-- The name of the section, if the line is a section header. -/
def section? (line : Text) : Option Text :=
  (Text.afterLead? sectionMarker line.trim).map Text.trim

/-- Whether the first character that is not white space is `#`. -/
def isComment (line : Text) : Bool := line.trimStart.head? == some '#'

/-- A text without its first character, if that is white space. -/
def dropBlank : Text → Text
  | [] => []
  | c :: text => if Text.isBlank c then text else c :: text

/-- The text of a comment: what follows the `#`, less one white space character. A line that is
    no comment stays as it is. -/
def uncomment (line : Text) : Text :=
  match line.trimStart with
  | '#' :: text => dropBlank text
  | _ => line

/-- The text of a comment as a description line. -/
def described (line : Text) : Text := uncomment line ++ hardBreak

/-- Whether the line starts a rules block. -/
def startsRules (line : Text) : Bool := line.trim == rulesMarker

/-- Whether a character may stand in a rule's name. -/
def isNameChar (c : Char) : Bool := c.isAlphanum || c == '.' || c == '_' || c == '-' || c == '$'

/-- The word at the start of a text that holds, apart from it, only white space at its end. The
    word may be empty. -/
def loneWord? (text : Text) : Option Text :=
  if Text.allBlank (text.dropWhile Text.isWordChar) then some (text.takeWhile Text.isWordChar)
  else none

/-- Name and severity, if the line is a rule header: two white space characters, the name, a
    colon, and nothing more or one word. -/
def ruleHeader? (line : Text) : Option RuleHeader := do
  let body ← line.skipBlanks? 2
  let name := body.takeWhile isNameChar
  guard !name.isEmpty
  let value ← Text.afterLead? ":" (Text.trimStart (body.dropWhile isNameChar))
  let severity ← loneWord? value.trimStart
  return ⟨name, if severity.isEmpty then none else some severity⟩

/-- The severity, if the line gives one for the rule above it: four white space characters,
    `severity:` and one word. -/
def nestedSeverity? (line : Text) : Option Text := do
  let body ← line.skipBlanks? 4
  let value ← Text.afterLead? "severity:" body
  let severity ← loneWord? value.trimStart
  guard !severity.isEmpty
  return severity

/-- Whether the line is indented like the block below a rule header. An empty line is not. -/
def isNested (line : Text) : Bool := Text.hasLead nestedIndent line

/-- What follows a word at the start of a text. The case of ASCII letters does not matter. -/
def afterWord? (word text : Text) : Option Text :=
  if Text.sameIgnoringCase (text.take word.length) word then some (text.drop word.length) else none

/-- The kind of example at the start of a text, and what follows the word. -/
def leadingKind? (text : Text) : Option (ExampleKind × Text) :=
  match afterWord? ExampleKind.valid.keyword text with
  | some rest => some (.valid, rest)
  | none => (afterWord? ExampleKind.invalid.keyword text).map fun rest => (.invalid, rest)

/-- The end of an example header: a colon, or a label in parentheses and a colon. A label holds
    at least one character and no closing parenthesis. -/
def headerLabel? (text : Text) : Option (Option Text) :=
  if text = ":" then some none
  else do
    let body ← Text.afterLead? "(" text.trimStart
    let label := body.takeWhile (· != ')')
    guard !label.isEmpty
    guard (body.dropWhile (· != ')') = "):")
    return some label

/-- Kind and label, if the text of a comment is an example header. -/
def exampleHeader? (text : Text) : Option ExampleHeader := do
  let (kind, rest) ← leadingKind? text
  guard (rest.takeWhile Text.isBlank ≠ [])
  let tail ← afterWord? "example" rest.trimStart
  let label ← headerLabel? tail
  return ⟨kind, label⟩

end Line

end StyleGuide
