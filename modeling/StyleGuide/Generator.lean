import StyleGuide.Scan.Report
import StyleGuide.Session
import StyleGuide.Sorted
import StyleGuide.Text.Upper

/-!
# Generating style guides

A generator turns rulesets in files into style guides. One ruleset is read, scanned and rendered
before anything is written, so a ruleset that cannot be read or a format that is not known leaves
the disk alone.

A directory is searched for rulesets with everything below it: each entry that is no directory
counts if its name ends with the suffix for rulesets. A symbolic link is such an entry, wherever it
leads. A directory further down is read by its own path, so the search fails where that path gets
too long for the system. The rulesets are taken in the order of their paths, name by name, and each
gives one style guide in the output directory.

## Main definitions

* `Generator`: What generating depends on.
* `Generator.load`, `Generator.render`: A document from a file, and its text.
* `Generator.generate`: The style guide of one ruleset.
* `Generator.tooDeep?`, `Generator.find`: The rulesets in a directory.
* `Generator.outputName?`: The name of the style guide of a ruleset.
* `Generator.generateAll`: The style guides of all rulesets in a directory.
-/

namespace StyleGuide

/-- What generating style guides depends on. -/
structure Generator where
  options : ScanOptions
  registry : Registry
  /-- The format to use where none is asked for. -/
  format : Text
  batch : BatchSettings

namespace Generator

/-- The generator for some settings, with the formats that are always there. -/
def ofSettings (settings : Settings) : Generator where
  options := settings.scanOptions
  registry := .builtIn settings.palette
  format := settings.render.format
  batch := settings.batch

/-- The entry for a ruleset that was read. -/
def rulesetLoaded (path : Path) (source : Text) : Log.Entry :=
  ⟨.debug, .generation, "loaded ruleset",
    [("path", path), ("bytes", Text.ofNat source.utf8Size)]⟩

/-- The entry for a style guide that was written. -/
def guideWritten (path : Path) : Log.Entry :=
  ⟨.info, .generation, "generated style guide", [("path", path)]⟩

/-- The entry for a directory without rulesets. -/
def nothingFound (dir : Path) (suffix : Text) : Log.Entry :=
  ⟨.info, .generation, "no ruleset files found", [("dir", dir), ("suffix", suffix)]⟩

/-- The document of a ruleset. -/
def compile (generator : Generator) (source : Text) : Document :=
  StyleGuide.compile generator.options source

/-- The text of a document in a format. -/
def render (generator : Generator) (document : Document) (format : Text) :
    Except FormatError Text :=
  generator.registry.serialize document format

/-- The document of the ruleset in a file. -/
def load (generator : Generator) (path : Path) : Work Document := do
  let source ← Work.readText path
  Work.tell (rulesetLoaded path source :: scanReport generator.options source)
  return generator.compile source

/-- The text, in a format, of the document of the ruleset in a file. -/
def loadAndRender (generator : Generator) (path : Path) (format : Text) : Work Text := do
  let document ← generator.load path
  match generator.render document format with
  | .ok text => return text
  | .error error => throw (.format error)

/-- Write the style guide of the ruleset `input` into the file `output`. -/
def write (generator : Generator) (input output : Path) (format : Text) : Work Unit := do
  let text ← generator.loadAndRender input format
  Work.writeText output text
  Work.tell [guideWritten output]

/-- The style guide of a ruleset: written into `output`, or the text of it where there is no
    `output`. -/
def generate (generator : Generator) (input : Path) (output : Option Path) (format : Text) :
    Work (Option Text) :=
  match output with
  | some output => do
    generator.write input output format
    return none
  | none => some <$> generator.loadAndRender input format

/-- Whether a node at a place is a ruleset: no directory, and of the right name. -/
def isRuleset (generator : Generator) (location : Disk.Location) (node : Disk.Node) : Bool :=
  !node.isDirectory && location.getLast?.any (Text.hasEnd generator.batch.rulesetSuffix)

/-- The places of the rulesets among the entries of a directory and below, in order. -/
def rulesets (generator : Generator) (entries : List (Text × Disk.Node)) : List Disk.Location :=
  sorted (((Disk.Node.nodesOf entries []).filter fun (location, node) =>
    generator.isRuleset location node).map (·.1))

/-- The path of the first directory below `dir` that cannot be read, because its path is too long. -/
def tooDeep? (dir : Path) (entries : List (Text × Disk.Node)) : Option Path :=
  (Disk.Node.nodesOf entries []).findSome? fun (location, node) =>
    if node.isDirectory && Disk.pathLimit < (Path.below dir location).utf8Size then
      some (Path.below dir location)
    else none

/-- The paths of the rulesets in a directory and below, in order. A search has one directory open
    for each level that it is in, and may have as many open as it needs. -/
def find (generator : Generator) (disk : Disk) (dir : Path) : Except Error (List Path) :=
  match disk.readDirectory dir with
  | .ok entries =>
    match tooDeep? dir entries with
    | some path => .error (.disk path .nameTooLong)
    | none => .ok ((generator.rulesets entries).map (Path.below dir))
  | .error fault => .error (.disk dir fault)

/-- What the names of style guides end with, without the extension. -/
def outputStem (generator : Generator) : Text :=
  match Text.splitLast? '.' generator.batch.outputSuffix with
  | some (stem, _) => stem
  | none => generator.batch.outputSuffix

/-- The name of the style guide of a ruleset: what the name of the ruleset has before its suffix,
    in upper case, and the output suffix with the extension of the format. -/
def outputName? (generator : Generator) (ruleset : Path) (extension : Text) : Option Text := do
  let name ← Path.fileName? ruleset
  let base ← Text.beforeEnd? generator.batch.rulesetSuffix name
  return base.upper ++ generator.outputStem ++ '.' :: extension

/-- Write the style guides of rulesets into a directory, one after the other. -/
def writeEach (generator : Generator) (outDir : Path) (format extension : Text) :
    List Path → Work (List Path)
  | [] => return []
  | ruleset :: rulesets =>
    match generator.outputName? ruleset extension with
    | none => writeEach generator outDir format extension rulesets
    | some name => do
      let output := Path.join outDir name
      generator.write ruleset output format
      let outputs ← writeEach generator outDir format extension rulesets
      return output :: outputs

/-- Write the style guides of all rulesets in a directory into another one, which is made if it is
    not there. Gives the paths that were written. -/
def generateAll (generator : Generator) (dir outDir : Path) (format : Text) :
    Work (List Path) := do
  match generator.registry.get? format with
  | none => throw (.format (.notFound format))
  | some formatter =>
    match generator.find (← Work.disk) dir with
    | .error error => throw error
    | .ok [] =>
      Work.tell [nothingFound dir generator.batch.rulesetSuffix]
      return []
    | .ok rulesets =>
      Work.makeDirectories outDir
      generator.writeEach outDir format formatter.fileExtension rulesets

end Generator

end StyleGuide
