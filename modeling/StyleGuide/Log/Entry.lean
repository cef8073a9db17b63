import StyleGuide.Text.Basic

/-!
# Log entries

What the program tells about its work besides its output. An entry says how important it is and
which part of the program it comes from, so that a filter can choose among entries without looking
at their words.

## Main definitions

* `Log.Level`: How important an entry is.
* `Log.Source`: The part of the program that an entry comes from.
* `Log.Entry`: An entry.
* `Log.Entry.line`: The entry as a line of the log.
-/

namespace StyleGuide

namespace Log

/-- How important an entry is, the most important first. -/
inductive Level where
  | error
  | warn
  | info
  | debug
  | trace
  deriving DecidableEq, Repr

namespace Level

/-- How detailed a level is. -/
def detail : Level → Nat
  | error => 1
  | warn => 2
  | info => 3
  | debug => 4
  | trace => 5

/-- The name of a level. -/
def name : Level → Text
  | error => "ERROR"
  | warn => "WARN"
  | info => "INFO"
  | debug => "DEBUG"
  | trace => "TRACE"

/-- All levels, the most important first. -/
def all : List Level := [error, warn, info, debug, trace]

end Level

/-- The part of the program that an entry comes from. -/
inductive Source where
  /-- Reading rulesets line by line. -/
  | scanning
  /-- Reading and writing files. -/
  | generation
  deriving DecidableEq, Repr

namespace Source

/-- The name by which a filter knows a source. -/
def name : Source → Text
  | scanning => "ruledoc::ruledoc::scanning"
  | generation => "ruledoc::ruledoc::loader"

end Source

/-- An entry of the log. -/
structure Entry where
  level : Level
  source : Source
  message : Text
  /-- Named details, each already in words. -/
  fields : List (Text × Text)
  deriving DecidableEq, Repr

namespace Entry

/-- The names of what an entry holds. Its message goes by a name as well. -/
def fieldNames (entry : Entry) : List Text := "message" :: entry.fields.map (·.1)

/-- An entry as a line: the level, the message and every detail behind its name. -/
def line (entry : Entry) : Text :=
  Text.joinWith " " (entry.level.name :: entry.message ::
    entry.fields.map fun (name, value) => name ++ '=' :: value)

end Entry

end Log

end StyleGuide
