import StyleGuide.Log.Entry
import StyleGuide.Log.Pattern
import StyleGuide.Text.Upper

/-!
# Log filters

A filter is a list of directives. A directive speaks of the sources whose name has a given
beginning, or of all, and perhaps only of entries with a given detail; it says how important an
entry has to be. Of the directives that speak of an entry the most specific one decides, and among
equal ones the last. What no directive speaks of is left out.

Directives are written one after the other with commas between them, each as `source=level`, as a
level alone, which speaks of all sources, or as a source alone, which lets everything through.
Between source and level may stand a task in brackets, with a detail in braces, as in
`source[task{detail=pattern}]=level`. A directive with a task or a pattern is for what is done
during such a task. No task of this program has a name or details, so it lets nothing through.

Blanks around a directive are left aside to tell its parts from each other, but the parts are then
cut out of the directive with its blanks, at the same distance from the start. Blanks in front
therefore move every part, and where a part would start or end inside of a character there is
nothing sensible to go on with.

## Main definitions

* `Log.Directive`: What is said about some entries.
* `Log.Filter`: A list of directives.
* `Log.Filter.Fault`: Why a text is no filter.
* `Log.Filter.admits`: Whether an entry passes.
* `Log.Filter.ofText`: The filter that a text spells.
* `Log.Filter.ofVerbosity`: The filter for a number of requests for more detail.
-/

namespace StyleGuide

namespace Log

/-- What is said about some entries. -/
structure Directive where
  /-- What the names of the sources begin with, where not all sources are meant. -/
  lead : Option Text := none
  /-- The detail that the entries have, where not all entries are meant. -/
  field : Option Text := none
  /-- The least important level that passes, as a number; nothing passes at zero. -/
  limit : Nat
  /-- Whether the directive is only for what is done during a task. -/
  duringTask : Bool := false
  deriving DecidableEq, Repr

/-- Why a text is no filter. -/
inductive Filter.Fault where
  /-- A directive is written wrongly. -/
  | malformed
  /-- A part of a directive would start or end inside of a character. -/
  | cutCharacter
  deriving DecidableEq, Repr

namespace Directive

/-- Whether a directive speaks of an entry. -/
def covers (directive : Directive) (entry : Entry) : Bool :=
  !directive.duringTask && directive.lead.all (Text.hasLead · entry.source.name) &&
    directive.field.all (entry.fieldNames.contains ·)

/-- Whether one directive is less specific than another that covers the same entry. A longer
    beginning outweighs a detail, and of two details the one later in the alphabet does. -/
def isWeaker (first second : Directive) : Bool :=
  let reach (d : Directive) : Nat := (d.lead.map fun lead => lead.length + 1).getD 0
  reach first < reach second ||
    reach first == reach second && match first.field, second.field with
      | none, some _ => true
      | some a, some b => a < b
      | _, none => false

/-- The directive that decides among two that cover the same entry, the second given later. -/
def stronger (first second : Directive) : Directive :=
  if second.isWeaker first then first else second

/-- The limit that lets everything through: the number of the least important level. -/
def everything : Nat := Level.trace.detail

/-- The limit that a text asks for, by number or by the name of a level in either case. -/
def limit? (text : Text) : Option Nat :=
  let digits := (Text.afterLead? "+" text).getD text
  match (Text.readNat? 10 digits).filter (· ≤ everything) with
  | some limit => some limit
  | none =>
    if text.sameIgnoringCase "off" then some 0
    else (Level.all.find? fun level => text.sameIgnoringCase level.name).map Level.detail

/-- The part of a text between two distances from its start, in bytes. -/
def cut (text : Text) (start stop : Nat) : Except Filter.Fault Text :=
  match (Text.dropBytes? start text).bind (Text.takeBytes? (stop - start)) with
  | some part => .ok part
  | none => .error .cutCharacter

/-- What a text has behind a distance from its start. -/
def cutFrom (text : Text) (start : Nat) : Except Filter.Fault Text :=
  match Text.dropBytes? start text with
  | some part => .ok part
  | none => .error .cutCharacter

/-- The limit behind the equals sign of a directive, where nothing stands for everything. -/
def readLimit (source : Text) (start : Nat) : Except Filter.Fault Nat := do
  let text ← cutFrom source start
  if text.isEmpty then return everything
  else match limit? text with
    | some limit => return limit
    | none => throw .malformed

/-- Whether a text is a number with a sign in front, which a pattern must not begin with. -/
def isSignedNumber (text : Text) : Bool :=
  match text with
  | '+' :: text =>
    (Decimal.ofText? text).isSome && text.head?.any (fun c => Text.isDigit c || c == '.') ||
      ["inf", "infinity", "nan"].any fun name => Text.sameIgnoringCase text name
  | _ => false

/-- A detail in braces: its name, and whether it is compared with a value. What follows a second
    equals sign does not count. -/
def readField (text : Text) : Except Filter.Fault (Text × Bool) :=
  match Text.splitAll '=' text with
  | name :: value :: _ =>
    if isSignedNumber value || Pattern.isValid value then .ok (name, true) else .error .malformed
  | _ => if text.isEmpty then .error .malformed else .ok (text, false)

/-- The end of a directive behind its task. -/
def readEnd (source : Text) (directive : Directive) (start : Nat) (text : Text) :
    Except Filter.Fault Directive :=
  match text with
  | [] => .ok directive
  | '=' :: _ => do return { directive with limit := ← readLimit source (start + 1) }
  | _ => .error .malformed

/-- A directive from behind the bracket of its task on, which is `start` bytes from its start. -/
def readTask (source : Text) (lead : Option Text) (start : Nat) (text : Text) :
    Except Filter.Fault Directive := do
  let name : Text := text.takeWhile fun c => c != ']' && c != '\x7b'
  let nameEnd := start + name.utf8Size
  match text.dropWhile fun c => c != ']' && c != '\x7b' with
  | ']' :: rest =>
    let _ ← cut source start nameEnd
    readEnd source ⟨lead, none, everything, true⟩ (nameEnd + 1) rest
  | '\x7b' :: rest =>
    let task ← cut source start nameEnd
    match Text.splitFirst? '\x7d' rest with
    | none => throw .malformed
    | some (inside, rest) =>
      let fieldEnd := nameEnd + 1 + inside.utf8Size
      let (field, hasValue) ← readField (← cut source (nameEnd + 1) fieldEnd)
      match rest with
      | ']' :: rest =>
        let duringTask := !task.isEmpty || hasValue
        readEnd source ⟨lead, some field, everything, duringTask⟩ (fieldEnd + 2) rest
      | _ => throw .malformed
  | _ => throw .malformed

/-- Whether a directive may begin with a character other than a bracket. -/
def mayStart (c : Char) : Bool :=
  c == '-' || c == ':' || c == '_' || Text.isLetter c || Text.isNumeral c

/-- A directive that does not begin with a bracket. -/
def readNamed (source text : Text) : Except Filter.Fault Directive := do
  let lead : Text := text.takeWhile fun c => c != '=' && c != '['
  let leadEnd := lead.utf8Size
  match text.dropWhile fun c => c != '=' && c != '[' with
  | '=' :: _ =>
    let lead ← cut source 0 leadEnd
    return { lead := some lead, limit := ← readLimit source (leadEnd + 1) }
  | _ :: rest => readTask source (some (← cut source 0 leadEnd)) (leadEnd + 1) rest
  | [] =>
    match limit? source with
    | some limit => return { limit := limit }
    | none => return { lead := some source, limit := everything }

/-- The directive that a text spells. -/
def ofText (source : Text) : Except Filter.Fault Directive :=
  match source.trim with
  | [] => .error .malformed
  | '[' :: rest => readTask source none 1 rest
  | c :: rest => if mayStart c then readNamed source (c :: rest) else .error .malformed

end Directive

/-- A choice among log entries. -/
structure Filter where
  directives : List Directive
  deriving DecidableEq, Repr

namespace Filter

/-- The directive that decides about an entry. -/
def decisive? (filter : Filter) (entry : Entry) : Option Directive :=
  match filter.directives.filter (·.covers entry) with
  | [] => none
  | directive :: directives => some (directives.foldl Directive.stronger directive)

/-- Whether an entry passes. -/
def admits (filter : Filter) (entry : Entry) : Bool :=
  (filter.decisive? entry).any fun directive => entry.level.detail ≤ directive.limit

/-- The filter that a text spells. A text without directives lets errors through. -/
def ofText (text : Text) : Except Fault Filter := do
  match ← ((Text.splitAll ',' text).filter (!·.isEmpty)).mapM Directive.ofText with
  | [] => return ⟨[{ limit := Level.error.detail }]⟩
  | directives => return ⟨directives⟩

/-- What the names of all sources begin with. -/
def ownLead : Text := "ruledoc"

/-- The filter for a number of requests for more detail. -/
def ofVerbosity (verbosity : Nat) : Filter :=
  let level : Level := match verbosity with
    | 0 => .warn
    | 1 => .info
    | _ => .debug
  ⟨[{ lead := some ownLead, limit := level.detail }]⟩

end Filter

end Log

end StyleGuide
