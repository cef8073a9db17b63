import StyleGuide.Document
import StyleGuide.Yaml.Scalar

/-!
# Documents as YAML

A document is exported as a mapping with an entry for each of its parts, in a fixed order. The
items of a list stand at the column of the key they belong to, and the entries of a node in a
list stand two columns further in. An empty list is written `[]`.

## Main definitions

* `YamlExport.entry`, `YamlExport.list`, `YamlExport.items`: The pieces of the layout.
* `YamlExport.render`: The YAML text of a document.
-/

namespace StyleGuide

namespace YamlExport

open Yaml

/-- The value of a key whose entries stand at the given column. -/
def optional (column : Nat) : Option Text → Text
  | none => "null\n"
  | some text => scalar (column + 2) text

/-- The start of an entry: a key at a column, and the colon behind it. -/
def key (column : Nat) (name : Text) : Text := indent column ++ name ++ ":"

/-- An entry whose value is a text. -/
def entry (column : Nat) (name text : Text) : Text :=
  key column name ++ " " ++ scalar (column + 2) text

/-- An entry whose value is a list of which each item is written out. -/
def list (column : Nat) (name : Text) (items : List Text) : Text :=
  key column name ++ if items.isEmpty then " []\n".toList else '\n' :: items.flatten

/-- An item of a list whose dash stands at a column. -/
def item (column : Nat) (written : Text) : Text := indent column ++ "- " ++ written

/-- An entry whose value is a list of lines. -/
def lines (column : Nat) (name : Text) (lines : List Text) : Text :=
  list column name (lines.map fun line => item column (scalar (column + 2) line))

/-- The entries of a node, of which the first stands behind the dash at a column. -/
def node (column : Nat) (first second : Text) (rest : List Text) : Text :=
  item column (first ++ ": " ++ second ++ rest.flatten)

/-- An example in a list whose dashes stand at a column. -/
def exampleText (column : Nat) (e : Example) : Text :=
  node column "kind" (scalar (column + 4) e.kind.keyword)
    [key (column + 2) "label" ++ " " ++ optional (column + 2) e.label,
     lines (column + 2) "content" e.content]

/-- A rule in a list whose dashes stand at a column. -/
def ruleText (column : Nat) (r : Rule) : Text :=
  node column "name" (scalar (column + 4) r.name)
    [entry (column + 2) "severity" r.severity,
     lines (column + 2) "description" r.description,
     list (column + 2) "examples" (r.examples.map (exampleText (column + 2)))]

/-- A section in a list whose dashes stand at a column. -/
def sectionText (column : Nat) (s : Section) : Text :=
  node column "name" (scalar (column + 4) s.name)
    [lines (column + 2) "description" s.description,
     list (column + 2) "rules" (s.rules.map (ruleText (column + 2)))]

/-- The YAML text of a document. -/
def render (d : Document) : Text :=
  key 0 "title" ++ " " ++ optional 0 d.title ++
    lines 0 "description" d.description ++
    list 0 "sections" (d.sections.map (sectionText 0))

end YamlExport

end StyleGuide
