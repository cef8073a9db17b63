import StyleGuide.Document
import StyleGuide.Json.Printer
import StyleGuide.Json.Reader

/-!
# Documents as JSON

A document is exported as an object with a member for each of its parts, in a fixed order, and
can be read back from any JSON text that has the same parts.

## Main definitions

* `JsonExport.render`: The JSON text of a document.
* `JsonExport.read`: The document of a JSON text.
-/

namespace StyleGuide

namespace JsonExport

open Json

/-- A list of lines. -/
def linesText (level : Nat) (lines : List Text) : Text := list level (lines.map string)

/-- An example that begins on a line of the given level. -/
def exampleText (level : Nat) (e : Example) : Text :=
  object level
    [("kind", string e.kind.keyword),
     ("label", optional e.label),
     ("content", linesText (level + 1) e.content)]

/-- A rule that begins on a line of the given level. -/
def ruleText (level : Nat) (r : Rule) : Text :=
  object level
    [("name", string r.name),
     ("severity", string r.severity),
     ("description", linesText (level + 1) r.description),
     ("examples", list (level + 1) (r.examples.map (exampleText (level + 2))))]

/-- A section that begins on a line of the given level. -/
def sectionText (level : Nat) (s : Section) : Text :=
  object level
    [("name", string s.name),
     ("description", linesText (level + 1) s.description),
     ("rules", list (level + 1) (s.rules.map (ruleText (level + 2))))]

/-- The JSON text of a document, without a line end. -/
def documentText (d : Document) : Text :=
  object 0
    [("title", optional d.title),
     ("description", linesText 1 d.description),
     ("sections", list 1 (d.sections.map (sectionText 2)))]

/-- The JSON text of a document. -/
def render (d : Document) : Text := documentText d ++ "\n"

/-- The kind that a word names here, where case matters. -/
def kindOfWord (word : Text) : Except Fault ExampleKind :=
  if word = ExampleKind.valid.keyword then .ok .valid
  else if word = ExampleKind.invalid.keyword then .ok .invalid
  else .error (.mismatch
    (.unknownVariant word ExampleKind.valid.keyword ExampleKind.invalid.keyword))

/-- The kind of an example: its word, or an object with the word as its key and `null` as the
    value. -/
def readKind : Reader ExampleKind := fun text =>
  match skipSpace text with
  | [] => .error .truncated
  | '"' :: rest => do
    let (word, rest) ← readStringRest rest
    return (← kindOfWord word, rest)
  | '\x7b' :: rest =>
    match skipSpace rest with
    | [] => .error .truncated
    | '"' :: rest => do
      let (word, rest) ← readStringRest rest
      let kind ← kindOfWord word
      let (_, rest) ← readUnit (← afterColon rest)
      match skipSpace rest with
      | [] => .error .truncated
      | '\x7d' :: rest => return (kind, rest)
      | _ => .error .malformed
    | _ => .error .malformed
  | _ => .error .malformed

/-- The parts of an example that have been read. -/
structure ExampleParts where
  kind : Option ExampleKind := none
  label : Option (Option Text) := none
  content : Option (List Text) := none

/-- The parts of a rule that have been read. -/
structure RuleParts where
  name : Option Text := none
  severity : Option Text := none
  description : Option (List Text) := none
  examples : Option (List Example) := none

/-- The parts of a section that have been read. -/
structure SectionParts where
  name : Option Text := none
  description : Option (List Text) := none
  rules : Option (List Rule) := none

/-- The parts of a document that have been read. -/
structure DocumentParts where
  title : Option (Option Text) := none
  description : Option (List Text) := none
  sections : Option (List Section) := none

/-- A field of a record that is read by `read` and kept by `put`. -/
def field {σ α : Type} (name : Text) (get : σ → Option α) (put : σ → α → σ)
    (read : Reader α) : Member σ where
  name := name
  filled := fun state => (get state).isSome
  read := fun state text => (read text).map fun (value, rest) => (put state value, rest)

/-- The fields of an example. -/
def exampleFields : List (Member ExampleParts) :=
  [field "kind" (·.kind) (fun p v => { p with kind := some v }) readKind,
   field "label" (·.label) (fun p v => { p with label := some v }) (readOptional readString),
   field "content" (·.content) (fun p v => { p with content := some v }) (readList readString)]

/-- An example. -/
def readExample : Reader Example :=
  readRecord "struct Example" exampleFields {} fun p => do
    let kind ← require "kind" p.kind
    let content ← require "content" p.content
    return ⟨kind, p.label.join, content⟩

/-- The fields of a rule. -/
def ruleFields : List (Member RuleParts) :=
  [field "name" (·.name) (fun p v => { p with name := some v }) readString,
   field "severity" (·.severity) (fun p v => { p with severity := some v }) readString,
   field "description" (·.description) (fun p v => { p with description := some v })
     (readList readString),
   field "examples" (·.examples) (fun p v => { p with examples := some v })
     (readList readExample)]

/-- A rule. -/
def readRule : Reader Rule :=
  readRecord "struct Rule" ruleFields {} fun p => do
    let name ← require "name" p.name
    let severity ← require "severity" p.severity
    let description ← require "description" p.description
    let examples ← require "examples" p.examples
    return ⟨name, severity, description, examples⟩

/-- The fields of a section. -/
def sectionFields : List (Member SectionParts) :=
  [field "name" (·.name) (fun p v => { p with name := some v }) readString,
   field "description" (·.description) (fun p v => { p with description := some v })
     (readList readString),
   field "rules" (·.rules) (fun p v => { p with rules := some v }) (readList readRule)]

/-- A section. -/
def readSection : Reader Section :=
  readRecord "struct Section" sectionFields {} fun p => do
    let name ← require "name" p.name
    let description ← require "description" p.description
    let rules ← require "rules" p.rules
    return ⟨name, description, rules⟩

/-- The fields of a document. -/
def documentFields : List (Member DocumentParts) :=
  [field "title" (·.title) (fun p v => { p with title := some v }) (readOptional readString),
   field "description" (·.description) (fun p v => { p with description := some v })
     (readList readString),
   field "sections" (·.sections) (fun p v => { p with sections := some v })
     (readList readSection)]

/-- A document. -/
def readDocument : Reader Document :=
  readRecord "struct Document" documentFields {} fun p => do
    let description ← require "description" p.description
    let sections ← require "sections" p.sections
    return ⟨p.title.join, description, sections⟩

/-- The document of a JSON text. -/
def read (text : Text) : Except Fault Document := readWhole readDocument text

end JsonExport

end StyleGuide
