import StyleGuide.Line

/-!
# Scanning a ruleset

A ruleset is read once, line by line. What is known after some lines is a `Scanner`: the document
so far, whose last section is the open one, a mode, and the comments that wait for the rule header
they document. Each line plays one role in the state it meets, and each role has one effect.

The roles are tried in this order. A title line always gives the title. A section header opens a
section. A comment before the first section describes the document, one in the run right below a
section header describes the section. `rules:` opens the rules block. Outside a rules block, or
before any section, nothing else counts. Inside it a comment waits for its rule, a rule header
takes what waits, and any other line drops it.

A rules block stays open across section headers: a section without a `rules:` line of its own
goes on collecting rules.

## Main definitions

* `ScanOptions`: The severity of rules that declare none.
* `Mode`: Where in a ruleset the scanner stands.
* `Scanner`: What is known after some lines.
* `Role`, `Scanner.role`: What a line is in a state.
* `Scanner.step`: The effect of a line.
* `Scanner.run`: The effect of a list of lines.
* `documentRule`: How the comments above a rule split into description and examples.
* `compile`: The document of a ruleset.

## Theorems

* `Scanner.title?_of_role`, `Scanner.section?_of_role`: Which lines have the roles of marked lines.
-/

namespace StyleGuide

/-- What scanning depends on besides the ruleset. -/
structure ScanOptions where
  /-- The severity of a rule that declares none. -/
  defaultSeverity : Text := "off"
  deriving DecidableEq, Repr

/-- Where in a ruleset the scanner stands. -/
inductive Mode where
  /-- No section has been opened and no rules block either. -/
  | preSection
  /-- In the run of comments below a section header; `rulesOpen` tells whether a rules block was
      open at the header. -/
  | describing (rulesOpen : Bool)
  /-- Inside a rules block. -/
  | rules
  /-- In a section, outside a rules block. -/
  | idle
  deriving DecidableEq, Repr

namespace Mode

/-- Whether a rules block is open. -/
def rulesOpen : Mode → Bool
  | rules => true
  | describing rulesOpen => rulesOpen
  | preSection | idle => false

/-- The mode after the run of comments below a section header has ended. -/
def settled : Mode → Mode
  | describing true => rules
  | describing false => idle
  | mode => mode

end Mode

/-- What is known after some lines of a ruleset. -/
structure Scanner where
  document : Document
  mode : Mode
  /-- The text of the comments that wait for a rule header. -/
  pending : List Text
  deriving DecidableEq, Repr

/-- What a line is to the scanner. -/
inductive Role where
  | title (text : Text)
  | sectionHeader (name : Text)
  /-- A comment that describes the document. -/
  | documentText
  /-- A comment that describes the open section. -/
  | sectionText
  | rulesStart
  /-- Anything outside a rules block that is none of the above. -/
  | outside
  /-- A comment that waits for a rule header. -/
  | ruleText
  | ruleHeader (header : RuleHeader)
  /-- Anything else inside a rules block. -/
  | other
  deriving DecidableEq, Repr

/-- The severity of the rule whose header is given: the inline one, else the first nested one in
    the block of the lines that follow, else the default. -/
def resolveSeverity (options : ScanOptions) (header : RuleHeader) (following : List Text) : Text :=
  match header.severity with
  | some severity => severity
  | none =>
    match (following.takeWhile Line.isNested).findSome? Line.nestedSeverity? with
    | some severity => severity
    | none => options.defaultSeverity

/-- The examples in a list of lines, and the lines before the first example header. Each header
    opens an example that holds the lines up to the next one. -/
def splitExamples : List Text → List Text × List Example
  | [] => ([], [])
  | line :: lines =>
    let (content, examples) := splitExamples lines
    match Line.exampleHeader? line with
    | some header => ([], ⟨header.kind, header.label, content⟩ :: examples)
    | none => (line :: content, examples)

/-- The rule of a name and a severity, documented by the given comment texts. -/
def documentRule (name severity : Text) (pending : List Text) : Rule :=
  let (description, examples) := splitExamples pending
  ⟨name, severity, description, examples⟩

namespace Document

/-- Change the last section of a document, if there is one. -/
def modifyLast (f : Section → Section) : List Section → List Section
  | [] => []
  | [last] => [f last]
  | first :: next :: rest => first :: modifyLast f (next :: rest)

/-- The document with its title replaced. -/
def withTitle (document : Document) (title : Text) : Document :=
  { document with title := some title }

/-- The document with one more line of description. -/
def describe (document : Document) (line : Text) : Document :=
  { document with description := document.description ++ [line] }

/-- The document with one more section, still empty. -/
def openSection (document : Document) (name : Text) : Document :=
  { document with sections := document.sections ++ [⟨name, [], []⟩] }

/-- The document with one more line in the description of its last section. -/
def describeSection (document : Document) (line : Text) : Document :=
  { document with
    sections := modifyLast (fun s => { s with description := s.description ++ [line] })
      document.sections }

/-- The document with one more rule in its last section. -/
def addRule (document : Document) (rule : Rule) : Document :=
  { document with
    sections := modifyLast (fun s => { s with rules := s.rules ++ [rule] }) document.sections }

end Document

namespace Scanner

/-- The scanner before the first line. -/
def start : Scanner := ⟨Document.empty, .preSection, []⟩

/-- Whether a section has been opened. -/
def hasSection (scanner : Scanner) : Bool := !scanner.document.sections.isEmpty

/-- What a line that is neither a title nor a section header nor part of a description is, when
    the run of comments below a section header has ended. -/
def bodyRole (scanner : Scanner) (line : Text) : Role :=
  if Line.startsRules line then .rulesStart
  else if scanner.mode.settled ≠ .rules ∨ !scanner.hasSection then .outside
  else if Line.isComment line then .ruleText
  else match Line.ruleHeader? line with
    | some header => .ruleHeader header
    | none => .other

/-- What a line is in a state. -/
def role (scanner : Scanner) (line : Text) : Role :=
  match Line.title? line with
  | some title => .title title
  | none =>
    match Line.section? line with
    | some name => .sectionHeader name
    | none =>
      if Line.isComment line && !scanner.hasSection then .documentText
      else match scanner.mode with
        | .describing _ =>
          if Line.isComment line then .sectionText else scanner.bodyRole line
        | _ => scanner.bodyRole line

/-- A line with the role of a title is a title line. -/
theorem title?_of_role (scanner : Scanner) (line title : Text)
    (h : scanner.role line = .title title) : Line.title? line = some title := by
  simp only [role, bodyRole] at h
  split at h
  · rename_i found hfound
    rw [hfound, Role.title.inj h]
  · repeat' split at h
    all_goals simp only [reduceCtorEq] at h

/-- A line with the role of a section header is one. -/
theorem section?_of_role (scanner : Scanner) (line name : Text)
    (h : scanner.role line = .sectionHeader name) : Line.section? line = some name := by
  simp only [role, bodyRole] at h
  split at h
  · simp only [reduceCtorEq] at h
  · split at h
    · rename_i found hfound
      rw [hfound, Role.sectionHeader.inj h]
    · repeat' split at h
      all_goals simp only [reduceCtorEq] at h

/-- The state after a line. `following` holds the lines after it and is looked at only for the
    severity of a rule. -/
def step (options : ScanOptions) (scanner : Scanner) (line : Text) (following : List Text) :
    Scanner :=
  match scanner.role line with
  | .title title => { scanner with document := scanner.document.withTitle title }
  | .documentText =>
    { scanner with document := scanner.document.describe (Line.described line) }
  | .sectionHeader name =>
    { document := scanner.document.openSection name
      mode := .describing scanner.mode.rulesOpen
      pending := [] }
  | .sectionText =>
    { scanner with document := scanner.document.describeSection (Line.described line) }
  | .rulesStart => { scanner with mode := .rules, pending := [] }
  | .outside => { scanner with mode := scanner.mode.settled }
  | .ruleText =>
    { scanner with
      mode := scanner.mode.settled
      pending := scanner.pending ++ [Line.uncomment line] }
  | .ruleHeader header =>
    { document := scanner.document.addRule
        (documentRule header.name (resolveSeverity options header following) scanner.pending)
      mode := scanner.mode.settled
      pending := [] }
  | .other => { scanner with mode := scanner.mode.settled, pending := [] }

/-- The state after a list of lines, each of which sees the lines after it. -/
def run (options : ScanOptions) (scanner : Scanner) : List Text → Scanner
  | [] => scanner
  | line :: lines => run options (scanner.step options line lines) lines

end Scanner

/-- The document of a ruleset. -/
def compile (options : ScanOptions) (source : Text) : Document :=
  (Scanner.start.run options source.lines).document

end StyleGuide
