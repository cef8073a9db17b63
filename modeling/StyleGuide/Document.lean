import StyleGuide.Text.Upper

/-!
# Style guide documents

The document a ruleset compiles to: a title and a description, then sections with rules, then
the documented examples of each rule. Descriptions and example contents are lines, kept as they
were written, so that every format can put them out without a further rule.

## Main definitions

* `ExampleKind`, `Example`, `Rule`, `Section`, `Document`: The nodes of the tree.
* `ExampleKind.ofKeyword?`: The kind that a word names, in any case.
* `Document.rules`: All rules in document order.
* `Document.findRule?`, `Document.findSection?`: The first rule or section of a name.
* `Document.isEmpty`: Whether a document says nothing at all.
-/

namespace StyleGuide

/-- Whether an example shows usage that follows its rule or usage that breaks it. -/
inductive ExampleKind where
  | valid
  | invalid
  deriving DecidableEq, Repr

namespace ExampleKind

/-- The word for a kind in rulesets and in exported data. -/
def keyword : ExampleKind → Text
  | valid => "valid"
  | invalid => "invalid"

/-- The word for a kind at the head of a rendered example. -/
def heading : ExampleKind → Text
  | valid => "Valid"
  | invalid => "Invalid"

/-- The kind that a word names. The case of ASCII letters does not matter. -/
def ofKeyword? (word : Text) : Option ExampleKind :=
  if word.sameIgnoringCase "valid" then some valid
  else if word.sameIgnoringCase "invalid" then some invalid
  else none

end ExampleKind

/-- An example of a rule: what it shows, an optional label and the example itself. -/
structure Example where
  kind : ExampleKind
  label : Option Text
  content : List Text
  deriving DecidableEq, Repr

/-- A rule with the severity of breaking it. -/
structure Rule where
  name : Text
  severity : Text
  description : List Text
  examples : List Example
  deriving DecidableEq, Repr

/-- A named group of rules. -/
structure Section where
  name : Text
  description : List Text
  rules : List Rule
  deriving DecidableEq, Repr

/-- A whole style guide. -/
structure Document where
  title : Option Text
  description : List Text
  sections : List Section
  deriving DecidableEq, Repr

namespace Document

/-- The document that says nothing. -/
def empty : Document := ⟨none, [], []⟩

/-- All rules of all sections, in document order. -/
def rules (document : Document) : List Rule := document.sections.flatMap Section.rules

/-- The first rule of a given name. -/
def findRule? (document : Document) (name : Text) : Option Rule :=
  document.rules.find? (·.name == name)

/-- The first section of a given name. -/
def findSection? (document : Document) (name : Text) : Option Section :=
  document.sections.find? (·.name == name)

/-- Whether a document has neither title nor description nor sections. -/
def isEmpty (document : Document) : Bool :=
  document.title.isNone && document.description.isEmpty && document.sections.isEmpty

end Document

end StyleGuide
