import StyleGuide.Text.Basic

/-!
# Writing JSON

Values are written over several lines: two more spaces of indentation for each level, one element
or member to a line, an empty list as `[]`. In a string only the quote, the backslash and the
control characters below the space are escaped.

## Main definitions

* `Json.escapeChar`, `Json.string`: A string.
* `Json.indent`: The start of a line at a level.
* `Json.list`, `Json.object`: Lists and objects whose parts are already written.
-/

namespace StyleGuide

namespace Json

/-- A lower case hexadecimal digit. -/
def hexDigit (n : Nat) : Char := Nat.digitChar n

/-- A character as it stands in a string. -/
def escapeChar (c : Char) : Text :=
  match c with
  | '"' => "\\\""
  | '\\' => "\\\\"
  | '\n' => "\\n"
  | '\r' => "\\r"
  | '\t' => "\\t"
  | c =>
    if c.toNat = 8 then "\\b"
    else if c.toNat = 12 then "\\f"
    else if c.toNat < 0x20 then
      "\\u00" ++ [hexDigit (c.toNat / 16), hexDigit (c.toNat % 16)]
    else [c]

/-- A string. -/
def string (text : Text) : Text := '"' :: text.flatMap escapeChar ++ "\""

/-- A string, or `null` where there is none. -/
def optional : Option Text → Text
  | none => "null"
  | some text => string text

/-- The start of a line at a level. -/
def indent (level : Nat) : Text := List.replicate (2 * level) ' '

/-- Parts on lines of their own, one level further in, between two brackets. -/
def block (level : Nat) (opening closing : Char) (parts : List Text) : Text :=
  opening :: '\n' ::
    Text.joinWith ",\n" (parts.map (indent (level + 1) ++ ·)) ++
    '\n' :: indent level ++ [closing]

/-- A list that begins on a line of the given level. -/
def list (level : Nat) (items : List Text) : Text :=
  if items.isEmpty then "[]" else block level '[' ']' items

/-- An object that begins on a line of the given level. -/
def object (level : Nat) (members : List (Text × Text)) : Text :=
  block level '\x7b' '\x7d' (members.map fun (key, value) => string key ++ ": " ++ value)

end Json

end StyleGuide
