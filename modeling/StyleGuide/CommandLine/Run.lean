import StyleGuide.CommandLine.Arguments
import StyleGuide.Config.Layer
import StyleGuide.Generator
import StyleGuide.Log.Filter

/-!
# Running a command line

A command line is run on a disk and with an environment. Settings come first: the file that is
named, or the local one if it is there, then the environment, then single settings. After that the
formats are listed, a directory is worked through or one ruleset is rendered. Nothing is printed
unless all of it succeeds; what goes wrong is told apart from the output, like the log.

## Main definitions

* `CommandLine.layers`: Where the settings come from.
* `CommandLine.execute`: The work that arguments ask for, and what it prints.
* `CommandLine.Outcome`: How a command line ends.
* `CommandLine.run`: Runs a command line.
-/

namespace StyleGuide

namespace CommandLine

/-- Where the settings come from, the weakest first. -/
def layers (arguments : Arguments) : List Config.Layer :=
  let file : Config.Layer := match arguments.config with
    | some path => .file path
    | none => .optionalFile Config.localFile
  file :: .environment ::
    arguments.overrides.map fun (key, value) => .override key (.text value)

/-- The settings for arguments. -/
def settings (environment : Config.Environment) (arguments : Arguments) : Work Settings := do
  match Config.load (← Work.disk) environment (layers arguments) with
  | .ok settings => return settings
  | .error error => throw (.config error)

/-- What is shown of a format. -/
def describeFormat (registry : Registry) (name : Text) : Text :=
  let description : Text := match registry.get? name with
    | some formatter => "    " ++ formatter.description ++ "\n"
    | none => []
  "  " ++ name ++ "\n" ++ description ++ "\n"

/-- The list of formats. -/
def listFormats (registry : Registry) : Text :=
  "Available output formats:\n\n" ++ registry.names.flatMap (describeFormat registry)

/-- What is shown of the style guides that were written for a directory. -/
def listWritten (dir : Path) : List Path → Text
  | [] => "No ruleset files found in " ++ dir ++ "\n"
  | written => written.flatMap fun path => "Generated: " ++ path ++ "\n"

/-- The directory that is written into where no other is named. -/
def defaultOutDir : Path := Path.here

/-- The format that arguments ask for. -/
def format (generator : Generator) (arguments : Arguments) : Text :=
  arguments.format.getD generator.format

/-- The work that arguments ask for once the settings are known, and what it prints. -/
def perform (generator : Generator) (arguments : Arguments) : Work Text :=
  if arguments.listFormats then return listFormats generator.registry
  else match arguments.dir, arguments.input with
    | some dir, _ =>
      listWritten dir <$> generator.generateAll dir (arguments.outDir.getD defaultOutDir)
        (format generator arguments)
    | none, some input =>
      (·.getD []) <$> generator.generate input arguments.output (format generator arguments)
    | none, none => return []

/-- The work that arguments ask for, and what it prints. -/
def execute (environment : Config.Environment) (arguments : Arguments) : Work Text := do
  perform (.ofSettings (← settings environment arguments)) arguments

/-- The variable that may hold a log filter. -/
def filterVariable : Text := "RUST_LOG"

/-- The log filter for an environment, if one can be made out. A filter that is written wrongly
    counts as none, but one that would cut a character is more than that. -/
def logFilter? (environment : Config.Environment) (arguments : Arguments) : Option Log.Filter :=
  match (Keyed.get? environment filterVariable).map Log.Filter.ofText with
  | some (.ok filter) => some filter
  | some (.error .cutCharacter) => none
  | some (.error .malformed) | none => some (.ofVerbosity arguments.verbosity)

/-- The status for a program that has broken down. -/
def breakdown : Nat := 101

/-- How a command line ends. -/
structure Outcome where
  /-- Zero for success, one for an error while working, two for words that make no sense, and
      `breakdown`. -/
  status : Nat
  /-- What is printed. -/
  output : Text
  /-- What is said about an error. -/
  complaint : Text
  /-- The log, entry by entry. -/
  log : List Text
  disk : Disk

/-- The name and the version of the program. -/
def versionText : Text := "ruledoc 0.1.0\n"

/-- How the program is called. -/
def usage : Text := "Usage: ruledoc [OPTIONS] [input] [output]\n"

/-- The help text. -/
def helpText : Text :=
  "Generate a style guide from a comment-annotated ruleset\n\n" ++ usage ++
    "\nArguments:\n" ++
    "  [input]   Path to the ruleset file\n" ++
    "  [output]  Where to write the style guide (default: stdout)\n" ++
    "\nOptions:\n" ++
    "  -f, --format <format>    Output format (default: render.format from config, 'markdown')\n" ++
    "  -c, --config <config>    TOML file layered over the built-in defaults " ++
      "(default: ./ruledoc.toml if present)\n" ++
    "      --set <KEY=VALUE>    Override a single config key, " ++
      "e.g. --set render.warn_color=orange\n" ++
    "      --dir <dir>          Compile every ruleset file found under this directory\n" ++
    "      --out-dir <out-dir>  Directory for style guides generated with --dir " ++
      "(default: current directory)\n" ++
    "      --list-formats       List available output formats\n" ++
    "  -v, --verbose...         Log more (repeat for debug output)\n" ++
    "  -h, --help               Print help\n" ++
    "  -V, --version            Print version\n"

/-- How the work that arguments ask for ends, with a filter for the log. -/
def conclude (environment : Config.Environment) (arguments : Arguments) (filter : Log.Filter)
    (disk : Disk) : Outcome :=
  let (result, session) := (execute environment arguments).run.run ⟨disk, []⟩
  let log := (session.log.filter filter.admits).map Log.Entry.line
  match result with
  | .ok output => ⟨0, output, [], log, session.disk⟩
  | .error error =>
    if error.isBreakdown then ⟨breakdown, [], [], log, session.disk⟩
    else ⟨1, [], "Error: " ++ error.message ++ "\n", log, session.disk⟩

/-- Run a command line. -/
def run (environment : Config.Environment) (words : List Text) (disk : Disk) : Outcome :=
  match Request.ofWords? words with
  | none => ⟨2, [], usage, [], disk⟩
  | some .help => ⟨0, helpText, [], [], disk⟩
  | some .version => ⟨0, versionText, [], [], disk⟩
  | some (.run arguments) =>
    match logFilter? environment arguments with
    | none => ⟨breakdown, [], [], [], disk⟩
    | some filter => conclude environment arguments filter disk

end CommandLine

end StyleGuide
