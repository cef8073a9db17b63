import StyleGuide.Format.JsonExport
import StyleGuide.Format.Markdown
import StyleGuide.Format.YamlExport
import StyleGuide.Sorted

/-!
# Output formats

A format has a name, a description, a file extension and a way to write a document. A registry
holds formats by name, one for each: a format that is registered under the name of another takes
its place.

## Main definitions

* `FormatError`: Why a document cannot be written in a format.
* `Formatter`: A format.
* `Registry`: Formats by name.
* `Registry.register`, `Registry.get?`, `Registry.has`, `Registry.names`, `Registry.serialize`.
* `Registry.builtIn`: The formats that are always there.
-/

namespace StyleGuide

/-- Why a document cannot be written in a format. -/
inductive FormatError where
  | notFound (name : Text)
  | serialization (reason : Text)
  deriving DecidableEq, Repr

namespace FormatError

/-- What went wrong, in words. -/
def message : FormatError → Text
  | notFound name => "Format '" ++ name ++ "' not found"
  | serialization reason => "Serialization error: " ++ reason

end FormatError

/-- An output format. -/
structure Formatter where
  name : Text
  description : Text := ""
  /-- The extension of files in this format, without the dot. -/
  fileExtension : Text := "txt"
  serialize : Document → Except FormatError Text

namespace Formatter

/-- The Markdown style guide. -/
def markdown (palette : Palette) : Formatter where
  name := "markdown"
  description := "Markdown style guide"
  fileExtension := "md"
  serialize := fun document => .ok (Markdown.render palette document)

/-- The document as JSON. -/
def json : Formatter where
  name := "json"
  description := "Document model as pretty-printed JSON"
  fileExtension := "json"
  serialize := fun document => .ok (JsonExport.render document)

/-- The document as YAML. -/
def yaml : Formatter where
  name := "yaml"
  description := "Document model as YAML"
  fileExtension := "yaml"
  serialize := fun document => .ok (YamlExport.render document)

end Formatter

/-- Formats by name. -/
structure Registry where
  formatters : List Formatter

namespace Registry

/-- The registry without formats. -/
def empty : Registry := ⟨[]⟩

/-- The registry with one more format, which takes the place of any other of its name. -/
def register (registry : Registry) (formatter : Formatter) : Registry :=
  ⟨formatter :: registry.formatters.filter (·.name != formatter.name)⟩

/-- The format of a name. -/
def get? (registry : Registry) (name : Text) : Option Formatter :=
  registry.formatters.find? (·.name == name)

/-- Whether there is a format of a name. -/
def has (registry : Registry) (name : Text) : Bool :=
  registry.formatters.any (·.name == name)

/-- The names of all formats, by code point. -/
def names (registry : Registry) : List Text :=
  sorted (registry.formatters.map (·.name))

/-- A document written in the format of a name. -/
def serialize (registry : Registry) (document : Document) (name : Text) :
    Except FormatError Text :=
  match registry.get? name with
  | some formatter => formatter.serialize document
  | none => .error (.notFound name)

/-- The formats that are always there, with the colours for severities in Markdown. -/
def builtIn (palette : Palette) : Registry :=
  ((empty.register (.markdown palette)).register .json).register .yaml

end Registry

end StyleGuide
