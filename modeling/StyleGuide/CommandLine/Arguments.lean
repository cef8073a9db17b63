import StyleGuide.Disk.Path
import StyleGuide.Text.Blank

/-!
# Arguments of the command line

The words of a command line are flags, options with a value, and names of files. An option is
spelled out behind two dashes or is a single letter behind one; letters of flags may share a dash.
The value of an option is the next word, or stands behind `=`, or right behind a letter. A single
dash is an ordinary word, and after `--` all words are.

A question for help or for the version is answered as soon as it is read, whatever comes after it.

## Main definitions

* `Flag`, `Parameter`: The flags, and the options with a value.
* `Arguments`: What a command line asks for.
* `Request`: What a command line is.
* `Request.ofWords?`: The request that words spell.
-/

namespace StyleGuide

namespace CommandLine

/-- An option without a value. -/
inductive Flag where
  | listFormats
  | verbose
  | help
  | version
  deriving DecidableEq, Repr

/-- An option with a value. -/
inductive Parameter where
  | format
  | config
  | override
  | dir
  | outDir
  deriving DecidableEq, Repr

/-- An option of either kind. -/
inductive Name where
  | flag (flag : Flag)
  | parameter (parameter : Parameter)
  deriving DecidableEq, Repr

namespace Name

/-- The options by the words they are spelled out with. -/
def words : List (Text × Name) :=
  [("list-formats", .flag .listFormats), ("verbose", .flag .verbose), ("help", .flag .help),
    ("version", .flag .version), ("format", .parameter .format), ("config", .parameter .config),
    ("set", .parameter .override), ("dir", .parameter .dir), ("out-dir", .parameter .outDir)]

/-- The options by letter. -/
def letters : List (Char × Name) :=
  [('v', .flag .verbose), ('h', .flag .help), ('V', .flag .version), ('f', .parameter .format),
    ('c', .parameter .config)]

end Name

/-- What a command line asks for. -/
structure Arguments where
  /-- The ruleset to read. -/
  input : Option Path := none
  /-- The file to write. -/
  output : Option Path := none
  format : Option Text := none
  /-- The file to take settings from. -/
  config : Option Path := none
  /-- Settings that are given one by one, as keys with values. -/
  overrides : List (Text × Text) := []
  /-- The directory to search for rulesets. -/
  dir : Option Path := none
  /-- The directory to write into. -/
  outDir : Option Path := none
  listFormats : Bool := false
  /-- How often more detail in the log is asked for. -/
  verbosity : Nat := 0
  deriving DecidableEq, Repr

/-- What a command line is. -/
inductive Request where
  | help
  | version
  | run (arguments : Arguments)
  deriving DecidableEq, Repr

namespace Arguments

/-- The key and the value of a setting. The key must not be blank, and blanks around it do not
    count. -/
def readOverride? (text : Text) : Option (Text × Text) := do
  let (key, value) ← Text.splitFirst? '=' text
  if key.allBlank then none else return (key.trim, value)

/-- A value for something that is given once at most. -/
def once? (old : Option Text) (value : Text) : Option (Option Text) :=
  if old.isSome then none else some (some value)

/-- The arguments with a value for an option, unless it cannot be given. -/
def give? (arguments : Arguments) (parameter : Parameter) (value : Text) : Option Arguments :=
  match parameter with
  | .format => (once? arguments.format value).map ({ arguments with format := · })
  | .config => (once? arguments.config value).map ({ arguments with config := · })
  | .dir => (once? arguments.dir value).map ({ arguments with dir := · })
  | .outDir => (once? arguments.outDir value).map ({ arguments with outDir := · })
  | .override =>
    (readOverride? value).map fun setting =>
      { arguments with overrides := arguments.overrides ++ [setting] }

/-- The arguments with the name of one more file, unless there are too many. -/
def place? (arguments : Arguments) (path : Path) : Option Arguments :=
  match arguments.input, arguments.output with
  | none, _ => some { arguments with input := some path }
  | some _, none => some { arguments with output := some path }
  | some _, some _ => none

/-- Whether the arguments go together. There has to be something to do, and not both a ruleset and
    a directory of rulesets. An output directory is for the latter; where a ruleset is given it is
    accepted and has no effect. -/
def areConsistent (arguments : Arguments) : Bool :=
  match arguments.input, arguments.dir with
  | some _, some _ => false
  | some _, none => true
  | none, some _ => true
  | none, none => arguments.listFormats && arguments.outDir.isNone

end Arguments

/-- Where reading stands after a word, or a part of one. -/
inductive Progress where
  /-- Reading goes on. -/
  | next (arguments : Arguments)
  /-- The next word has to be the value of an option. -/
  | awaiting (parameter : Parameter) (arguments : Arguments)
  /-- The request is known. -/
  | answer (request : Request)
  deriving DecidableEq, Repr

namespace Progress

/-- Raise a flag, unless it can be raised only once. -/
def raise? (arguments : Arguments) : Flag → Option Progress
  | .help => some (.answer .help)
  | .version => some (.answer .version)
  | .verbose => some (.next { arguments with verbosity := arguments.verbosity + 1 })
  | .listFormats =>
    if arguments.listFormats then none else some (.next { arguments with listFormats := true })

/-- Read an option that is spelled out, without its dashes. -/
def ofLong? (arguments : Arguments) (word : Text) : Option Progress :=
  match Text.splitFirst? '=' word with
  | some (name, value) =>
    match Name.words.lookup name with
    | some (.parameter parameter) => (arguments.give? parameter value).map next
    | _ => none
  | none =>
    match Name.words.lookup word with
    | some (.parameter parameter) => some (.awaiting parameter arguments)
    | some (.flag flag) => raise? arguments flag
    | none => none

/-- Read options that are letters, without their dash. -/
def ofLetters? (arguments : Arguments) : Text → Option Progress
  | [] => some (.next arguments)
  | letter :: rest =>
    match Name.letters.lookup letter with
    | none => none
    | some (.parameter parameter) =>
      match rest with
      | [] => some (.awaiting parameter arguments)
      | '=' :: value => (arguments.give? parameter value).map next
      | value => (arguments.give? parameter value).map next
    | some (.flag flag) =>
      match raise? arguments flag with
      | some (.next arguments) => ofLetters? arguments rest
      | progress => progress

/-- Read a word that is not the value of an option. -/
def ofWord? (arguments : Arguments) : Text → Option Progress
  | '-' :: '-' :: word => ofLong? arguments word
  | '-' :: c :: letters => ofLetters? arguments (c :: letters)
  | word => (arguments.place? word).map next

end Progress

namespace Request

/-- Whether a word is an option by its looks. -/
def looksLikeOption : Text → Bool
  | '-' :: _ :: _ => true
  | _ => false

/-- The request of arguments to which nothing is added. -/
def finish? (arguments : Arguments) : Option Request :=
  if arguments.areConsistent then some (.run arguments) else none

/-- Read words after the first ones have been read. -/
def read? (progress : Progress) (words : List Text) : Option Request :=
  match progress, words with
  | .answer request, _ => some request
  | .next arguments, [] => finish? arguments
  | .awaiting _ _, [] => none
  | .next arguments, word :: words =>
    if word = ['-', '-'] then (words.foldlM Arguments.place? arguments).bind finish?
    else (Progress.ofWord? arguments word).bind (read? · words)
  | .awaiting parameter arguments, word :: words =>
    if looksLikeOption word then none
    else (arguments.give? parameter word).bind fun arguments => read? (.next arguments) words

/-- The request that words spell. -/
def ofWords? (words : List Text) : Option Request := read? (.next {}) words

end Request

end CommandLine

end StyleGuide
