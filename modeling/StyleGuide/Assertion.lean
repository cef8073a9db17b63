import StyleGuide.Document
import StyleGuide.Text.Quoted

/-!
# Assertions on documents

What a document is expected to be can be written down as a list of checks. A check on a node
names one of its parts, or leads to one of its children by index and checks that. Checks are made
in order, and the first that does not hold is reported together with the path to its node, such
as `sections[0].rules[1]`.

## Main definitions

* `ExampleCheck`, `RuleCheck`, `SectionCheck`, `DocumentCheck`: The checks on each node.
* `NodePath`: Where a node is.
* `Cause`, `Failure`: What does not hold, and where.
* `Document.check`: The first failure of a list of checks.
* `Failure.message`: The words for a failure.
-/

namespace StyleGuide

/-- A check on an example. -/
inductive ExampleCheck where
  | kind (expected : ExampleKind)
  | label (expected : Text)
  | noLabel
  | content (expected : List Text)
  deriving DecidableEq, Repr

/-- A check on a rule. -/
inductive RuleCheck where
  | name (expected : Text)
  | severity (expected : Text)
  | description (expected : List Text)
  | exampleCount (expected : Nat)
  | exampleAt (index : Nat) (checks : List ExampleCheck)
  deriving DecidableEq, Repr

/-- A check on a section. -/
inductive SectionCheck where
  | name (expected : Text)
  | description (expected : List Text)
  | ruleCount (expected : Nat)
  | ruleAt (index : Nat) (checks : List RuleCheck)
  deriving DecidableEq, Repr

/-- A check on a document. -/
inductive DocumentCheck where
  | title (expected : Text)
  | noTitle
  | description (expected : List Text)
  | sectionCount (expected : Nat)
  | sectionAt (index : Nat) (checks : List SectionCheck)
  deriving DecidableEq, Repr

/-- Where a node is: the indices of a section, of a rule in it and of an example of that, as far
    as they go. No index at all is the document. -/
abbrev NodePath := List Nat

namespace NodePath

/-- The steps of a path, each by the name of the list it goes through. -/
def steps : NodePath → List Text → List Text
  | index :: path, list :: lists =>
    (list ++ "[" ++ Text.ofNat index ++ "]") :: steps path lists
  | _, _ => []

/-- A path in words. -/
def toText (path : NodePath) : Text :=
  if path.isEmpty then "document"
  else Text.joinWith "." (steps path ["sections", "rules", "examples"])

end NodePath

/-- What does not hold of a node. -/
inductive Cause where
  | title (actual : Option Text) (expected : Text)
  | titlePresent (title : Text)
  | sectionCount (names : List Text) (expected : Nat)
  | sectionIndex (index count : Nat)
  | sectionName (actual expected : Text)
  | ruleCount (names : List Text) (expected : Nat)
  | ruleIndex (index count : Nat)
  | ruleName (actual expected : Text)
  | severity (rule actual expected : Text)
  | exampleCount (rule : Text) (actual expected : Nat)
  | exampleIndex (index count : Nat)
  | kind (actual expected : ExampleKind)
  | label (actual : Option Text) (expected : Text)
  | labelPresent (label : Text)
  /-- Lines of the part of that name differ. -/
  | lines (part : Text) (actual expected : List Text)
  deriving DecidableEq, Repr

/-- What does not hold, and of which node. -/
structure Failure where
  path : NodePath
  cause : Cause
  deriving DecidableEq, Repr

/-! ### Checking -/

/-- A failure of a node, unless its parts agree. -/
def failUnless (agree : Bool) (path : NodePath) (cause : Cause) : Option Failure :=
  if agree then none else some ⟨path, cause⟩

/-- The first failure of a list of checks. -/
def firstFailure {α : Type} (check : α → Option Failure) (checks : List α) : Option Failure :=
  checks.findSome? check

namespace Example

/-- The failure of a check on the example at a path. -/
def failure? (e : Example) (path : NodePath) : ExampleCheck → Option Failure
  | .kind expected => failUnless (e.kind == expected) path (.kind e.kind expected)
  | .label expected => failUnless (e.label == some expected) path (.label e.label expected)
  | .noLabel => e.label.map fun label => ⟨path, .labelPresent label⟩
  | .content expected =>
    failUnless (e.content == expected) path (.lines "content" e.content expected)

end Example

namespace Rule

/-- The failure of a check on the rule at a path. -/
def failure? (r : Rule) (path : NodePath) : RuleCheck → Option Failure
  | .name expected => failUnless (r.name == expected) path (.ruleName r.name expected)
  | .severity expected =>
    failUnless (r.severity == expected) path (.severity r.name r.severity expected)
  | .description expected =>
    failUnless (r.description == expected) path (.lines "description" r.description expected)
  | .exampleCount expected =>
    failUnless (r.examples.length == expected) path
      (.exampleCount r.name r.examples.length expected)
  | .exampleAt index checks =>
    match r.examples[index]? with
    | some e => firstFailure (e.failure? (path ++ [index])) checks
    | none => some ⟨path, .exampleIndex index r.examples.length⟩

end Rule

namespace Section

/-- The failure of a check on the section at a path. -/
def failure? (s : Section) (path : NodePath) : SectionCheck → Option Failure
  | .name expected => failUnless (s.name == expected) path (.sectionName s.name expected)
  | .description expected =>
    failUnless (s.description == expected) path (.lines "description" s.description expected)
  | .ruleCount expected =>
    failUnless (s.rules.length == expected) path (.ruleCount (s.rules.map Rule.name) expected)
  | .ruleAt index checks =>
    match s.rules[index]? with
    | some r => firstFailure (r.failure? (path ++ [index])) checks
    | none => some ⟨path, .ruleIndex index s.rules.length⟩

end Section

namespace Document

/-- The failure of a check on a document. -/
def failure? (d : Document) : DocumentCheck → Option Failure
  | .title expected => failUnless (d.title == some expected) [] (.title d.title expected)
  | .noTitle => d.title.map fun title => ⟨[], .titlePresent title⟩
  | .description expected =>
    failUnless (d.description == expected) [] (.lines "description" d.description expected)
  | .sectionCount expected =>
    failUnless (d.sections.length == expected) []
      (.sectionCount (d.sections.map Section.name) expected)
  | .sectionAt index checks =>
    match d.sections[index]? with
    | some s => firstFailure (s.failure? [index]) checks
    | none => some ⟨[], .sectionIndex index d.sections.length⟩

/-- The first failure of a list of checks on a document, or `none` if all of them hold. -/
def check (d : Document) (checks : List DocumentCheck) : Option Failure :=
  firstFailure d.failure? checks

end Document

/-! ### Messages -/

/-- The words for two values that should be equal. -/
def unequal (subject actual expected : Text) : Text :=
  "assertion `left == right` failed: " ++ subject ++ "\n  left: " ++ actual ++ "\n right: " ++
    expected

/-- A list of names in brackets. -/
def nameList (names : List Text) : Text := "[" ++ Text.joinWith ", " names ++ "]"

namespace Failure

/-- What does not hold, in words. -/
def message (failure : Failure) : Text :=
  let path := failure.path.toText
  match failure.cause with
  | .title actual expected =>
    unequal "Unexpected document title" (Text.quotedOption actual)
      (Text.quotedOption (some expected))
  | .titlePresent title => "Expected no title, found " ++ Text.quotedOption (some title)
  | .sectionCount names expected =>
    unequal ("Expected " ++ Text.ofNat expected ++ " sections, found " ++
      Text.ofNat names.length ++ ": " ++ nameList names)
      (Text.ofNat names.length) (Text.ofNat expected)
  | .sectionIndex index count =>
    "Section index " ++ Text.ofNat index ++ " out of bounds (document has " ++
      Text.ofNat count ++ " sections)"
  | .sectionName actual expected =>
    unequal (path ++ ": unexpected section name") actual.quoted expected.quoted
  | .ruleCount names expected =>
    unequal (path ++ ": expected " ++ Text.ofNat expected ++ " rules, found " ++
      Text.ofNat names.length ++ ": " ++ nameList names)
      (Text.ofNat names.length) (Text.ofNat expected)
  | .ruleIndex index count =>
    path ++ ": rule index " ++ Text.ofNat index ++ " out of bounds (section has " ++
      Text.ofNat count ++ " rules)"
  | .ruleName actual expected =>
    unequal (path ++ ": unexpected rule name") actual.quoted expected.quoted
  | .severity rule actual expected =>
    unequal (path ++ ": unexpected severity for rule '" ++ rule ++ "'") actual.quoted
      expected.quoted
  | .exampleCount rule actual expected =>
    unequal (path ++ ": unexpected number of examples for rule '" ++ rule ++ "'")
      (Text.ofNat actual) (Text.ofNat expected)
  | .exampleIndex index count =>
    path ++ ": example index " ++ Text.ofNat index ++ " out of bounds (rule has " ++
      Text.ofNat count ++ " examples)"
  | .kind actual expected =>
    unequal (path ++ ": unexpected example kind") actual.heading expected.heading
  | .label actual expected =>
    unequal (path ++ ": unexpected example label") (Text.quotedOption actual)
      (Text.quotedOption (some expected))
  | .labelPresent label => path ++ ": expected no label, found " ++ Text.quotedOption (some label)
  | .lines part actual expected =>
    unequal (path ++ "." ++ part ++ ": lines differ") (Text.quotedList actual)
      (Text.quotedList expected)

end Failure

end StyleGuide
