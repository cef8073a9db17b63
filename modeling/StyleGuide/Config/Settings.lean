import StyleGuide.Config.Tree
import StyleGuide.Format.Palette
import StyleGuide.Scan.Scanner
import StyleGuide.Shape

/-!
# Settings

What can be configured: how rulesets are scanned, how documents are rendered and how a directory
of rulesets is worked through. Settings are read off a tree. Each of the three groups is a table,
or a list of its settings in order; each setting is a text, and single values of other types are
taken for the text they are written as.

## Main definitions

* `ScanSettings`, `RenderSettings`, `BatchSettings`, `Settings`: The settings.
* `Config.Error`: Why there are no settings.
* `Settings.ofTree`: The settings of a tree.
-/

namespace StyleGuide

/-- How rulesets are scanned. -/
structure ScanSettings where
  defaultSeverity : Text := "off"
  deriving DecidableEq, Repr

/-- How documents are rendered. -/
structure RenderSettings where
  /-- The format to use where none is asked for. -/
  format : Text := "markdown"
  errorColor : Text := "red"
  warnColor : Text := "goldenrod"
  deriving DecidableEq, Repr

/-- How a directory of rulesets is worked through. -/
structure BatchSettings where
  /-- What the file name of a ruleset ends with. -/
  rulesetSuffix : Text := "-ruleset.yaml"
  /-- What the name of a style guide ends with; the part behind the last dot gives way to the
      extension of the format. -/
  outputSuffix : Text := "_STYLE_GUIDE.md"
  deriving DecidableEq, Repr

/-- All settings. -/
structure Settings where
  scan : ScanSettings := {}
  render : RenderSettings := {}
  batch : BatchSettings := {}
  deriving DecidableEq, Repr

namespace Config

/-- Why there are no settings. -/
inductive Error where
  /-- A setting is addressed by something that is no path. -/
  | keyPath (fault : KeyPath.Fault)
  /-- The file of that name is not there. -/
  | fileNotFound (path : Text)
  /-- A file holds no text. -/
  | notText
  /-- A file is not TOML. -/
  | notToml
  /-- An index leads to no place in its list. -/
  | noSuchPlace
  /-- A group of settings has the wrong shape. -/
  | shape (mismatch : Mismatch)
  /-- The setting under `key` is no text. `origin` is the file it comes from, if it is known. -/
  | notAString (found : Found) (key : Text) (origin : Option Text)
  deriving DecidableEq, Repr

namespace Error

/-- Why there are no settings, in words. -/
def message (error : Error) : Text :=
  "configuration error: " ++ match error with
    | keyPath fault => fault.message
    | fileNotFound path => "configuration file \"" ++ path ++ "\" not found"
    | notText => "stream did not contain valid UTF-8"
    | notToml => "TOML parse error"
    | noSuchPlace => "index out of range"
    | shape mismatch => mismatch.message .configuration
    | notAString found key origin =>
      (Mismatch.wrongType found "a string").message .configuration ++ " for key `" ++ key ++
        "`" ++ match origin with
          | some origin => " in " ++ origin
          | none => []

end Error

/-- A tree as a value that stands where another was expected. -/
def Tree.found : Tree → Found
  | .scalar .nothing => .nothing
  | .scalar (.boolean value) => .boolean value
  | .scalar (.integer value) => .integer value
  | .scalar (.number value) => .number value
  | .scalar (.text value) => .string value
  | .list _ _ => .sequence
  | .table _ _ => .map

/-- The text of the setting under a key. -/
def readText (key : Text) : Tree → Except Error Text
  | .scalar (.text value) => .ok value
  | .scalar (.boolean value) => .ok (if value then "true" else "false" : String).toList
  | .scalar (.integer value) => .ok (Text.ofInt value)
  | .scalar (.number value) => .ok (value.toText .plain)
  | .scalar .nothing => .error (.notAString .nothing key none)
  | .list origin _ => .error (.notAString .sequence key origin)
  | .table origin _ => .error (.notAString .map key origin)

/-- A setting of a table, if the table has it. -/
def textIn? (table : Text) (entries : Keyed Tree) (name : Text) : Except Error (Option Text) :=
  match Keyed.get? entries name with
  | none => .ok none
  | some value => (readText (table ++ "." ++ name) value).map some

/-- The setting at a place of a list that stands for a record of `count` settings. -/
def textAt (table record : Text) (count : Nat) (items : List Tree) (index : Nat) :
    Except Error Text :=
  match items[index]? with
  | none => .error (.shape (.wrongLength index record count))
  | some value => readText (table ++ "[" ++ Text.ofNat index ++ "]") value

/-- A part of a table that has to be there. -/
def require {α : Type} (name : Text) : Option α → Except Error α
  | some value => .ok value
  | none => .error (.shape (.missingField name))

/-- A tree that is no record. -/
def noRecord {α : Type} (record : Text) (tree : Tree) : Except Error α :=
  .error (.shape (.wrongType tree.found record))

/-- The scan settings of a tree. -/
def readScan (tree : Tree) : Except Error ScanSettings :=
  let record : Text := "struct ScanConfig"
  match tree with
  | .table _ entries => do
    let severity ← textIn? "scan" entries "default_severity"
    return ⟨← require "default_severity" severity⟩
  | .list _ items => return ⟨← textAt "scan" record 1 items 0⟩
  | tree => noRecord record tree

/-- The render settings of a tree. Settings of the wrong type are found before missing ones. -/
def readRender (tree : Tree) : Except Error RenderSettings :=
  let record : Text := "struct RenderConfig"
  match tree with
  | .table _ entries => do
    let format ← textIn? "render" entries "format"
    let errorColor ← textIn? "render" entries "error_color"
    let warnColor ← textIn? "render" entries "warn_color"
    return ⟨← require "format" format, ← require "error_color" errorColor,
      ← require "warn_color" warnColor⟩
  | .list _ items =>
    return ⟨← textAt "render" record 3 items 0, ← textAt "render" record 3 items 1,
      ← textAt "render" record 3 items 2⟩
  | tree => noRecord record tree

/-- The batch settings of a tree. Settings of the wrong type are found before missing ones. -/
def readBatch (tree : Tree) : Except Error BatchSettings :=
  let record : Text := "struct BatchConfig"
  match tree with
  | .table _ entries => do
    let rulesetSuffix ← textIn? "batch" entries "ruleset_suffix"
    let outputSuffix ← textIn? "batch" entries "output_suffix"
    return ⟨← require "ruleset_suffix" rulesetSuffix, ← require "output_suffix" outputSuffix⟩
  | .list _ items =>
    return ⟨← textAt "batch" record 2 items 0, ← textAt "batch" record 2 items 1⟩
  | tree => noRecord record tree

/-- A group of settings, if the tree has it. -/
def groupIn? {α : Type} (read : Tree → Except Error α) (tree : Tree) (name : Text) :
    Except Error (Option α) :=
  match tree.get? name with
  | none => .ok none
  | some group => (read group).map some

end Config

namespace Settings

open Config

/-- The settings of a tree. -/
def ofTree (tree : Tree) : Except Config.Error Settings := do
  let scan ← groupIn? readScan tree "scan"
  let render ← groupIn? readRender tree "render"
  let batch ← groupIn? readBatch tree "batch"
  return ⟨← require "scan" scan, ← require "render" render, ← require "batch" batch⟩

/-- The tree of the settings, from which they can be read again. -/
def toTree (settings : Settings) : Tree :=
  let text (value : Text) : Tree := .scalar (.text value)
  .table none
    [("scan", .table none [("default_severity", text settings.scan.defaultSeverity)]),
     ("render", .table none
       [("format", text settings.render.format),
        ("error_color", text settings.render.errorColor),
        ("warn_color", text settings.render.warnColor)]),
     ("batch", .table none
       [("ruleset_suffix", text settings.batch.rulesetSuffix),
        ("output_suffix", text settings.batch.outputSuffix)])]

/-- What scanning depends on. -/
def scanOptions (settings : Settings) : ScanOptions := ⟨settings.scan.defaultSeverity⟩

/-- The colours of severities. -/
def palette (settings : Settings) : Palette :=
  ⟨settings.render.errorColor, settings.render.warnColor⟩

end Settings

end StyleGuide
