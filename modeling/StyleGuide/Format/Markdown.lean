import StyleGuide.Document
import StyleGuide.Format.Palette
import StyleGuide.Text.Blank

/-!
# The Markdown style guide

A document is laid out as a list of lines, block by block, and the lines are joined at the end.
Text from the ruleset goes out as it is: Markdown in a comment is Markdown in the guide.

White space at the end of the whole output is dropped and one line feed put there. Blocks of
sections and rules end in a ruler, so only a document without sections can lose anything.

## Main definitions

* `Markdown.exampleLines`, `Markdown.ruleLines`, `Markdown.sectionLines`: The block of each node.
* `Markdown.documentLines`: The lines of a document.
* `Markdown.render`: The text of a document.
-/

namespace StyleGuide

namespace Markdown

/-- The line that separates blocks. -/
def emptyLine : Text := ""

/-- The line that closes a section head and each rule. -/
def ruler : Text := "---"

/-- The line above an example. -/
def exampleHeading (e : Example) : Text :=
  match e.label with
  | some label => "**" ++ e.kind.heading ++ " example (" ++ label ++ "):**"
  | none => "**" ++ e.kind.heading ++ " example:**"

/-- The block of an example. -/
def exampleLines (e : Example) : List Text :=
  exampleHeading e :: e.content ++ [emptyLine]

/-- The block of a rule. -/
def ruleLines (palette : Palette) (rule : Rule) : List Text :=
  ["### " ++ rule.name, "#### Severity: " ++ palette.tag rule.severity, emptyLine]
    ++ rule.description ++ [emptyLine]
    ++ rule.examples.flatMap exampleLines
    ++ [ruler, emptyLine]

/-- The block of a section. -/
def sectionLines (palette : Palette) (s : Section) : List Text :=
  ["## " ++ s.name, emptyLine] ++ s.description ++ [emptyLine, ruler, emptyLine]
    ++ s.rules.flatMap (ruleLines palette)

/-- The block of the title. An empty title has none. -/
def titleLines : Option Text → List Text
  | none => []
  | some title => if title.isEmpty then [] else ["# " ++ title, emptyLine]

/-- The block of the description of a document. An empty description has none. -/
def descriptionLines (description : List Text) : List Text :=
  if description.isEmpty then [] else description ++ [emptyLine]

/-- The lines of a document. -/
def documentLines (palette : Palette) (document : Document) : List Text :=
  titleLines document.title ++ descriptionLines document.description
    ++ document.sections.flatMap (sectionLines palette)

/-- The text of a document. -/
def render (palette : Palette) (document : Document) : Text :=
  Text.trimEnd (Text.joinWith "\n" (documentLines palette document)) ++ "\n"

end Markdown

end StyleGuide
