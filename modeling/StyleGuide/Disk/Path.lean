import StyleGuide.Text.Basic

/-!
# Paths

A path is a text in which slashes separate names. It is shown as it was written, so it stays a
text; what it means is read off its segments. Empty segments mean nothing, `.` means the directory
itself and `..` the one above.

## Main definitions

* `Path.segments`: The segments of a path.
* `Path.names`: The segments that lead somewhere else.
* `Path.fileName?`: The name that a path ends in.
* `Path.join`: A path below another.
* `Path.below`: The path of a place below a directory.
* `Path.between`: The way from one place to another.
* `Path.withSuffix?`: A path with its last name made longer.
-/

namespace StyleGuide

/-- A path as it was written. -/
abbrev Path := Text

namespace Path

/-- The segment for the directory itself. -/
def here : Text := "."

/-- The segment for the directory above. -/
def above : Text := ".."

/-- Whether a path starts at the root. -/
def isAbsolute (path : Path) : Bool := path.head? == some '/'

/-- The segments of a path. -/
def segments (path : Path) : List Text := (Text.splitAll '/' path).filter (!·.isEmpty)

/-- Whether a path ends in a slash, so that it has to lead to a directory. -/
def wantsDirectory (path : Path) : Bool := path.getLast? == some '/'

/-- The segments of a path that lead away from where they start. -/
def names (path : Path) : List Text := (segments path).filter (· != here)

/-- The name that a path ends in. A path that ends by going up has none. -/
def fileName? (path : Path) : Option Text :=
  (names path).getLast?.filter (· != above)

/-- The path of `name` below the directory `base`. -/
def join (base name : Path) : Path :=
  if isAbsolute name || base.isEmpty then name
  else if wantsDirectory base then base ++ name
  else base ++ '/' :: name

/-- The path of the place that `names` lead to from the directory `base`. -/
def below (base : Path) (names : List Text) : Path := names.foldl join base

/-- The segments that lead from one place to another, both given by their names from the root. -/
def between : List Text → List Text → List Text
  | first :: base, name :: names =>
    if first = name then between base names
    else List.replicate (base.length + 1) above ++ name :: names
  | base, names => List.replicate base.length above ++ names

/-- A reversed path without the slashes and dots that say nothing at its end. -/
def dropTail : Path → Path
  | '/' :: path => dropTail path
  | '.' :: '/' :: path => dropTail path
  | path => path

/-- A path with `suffix` put behind the name it ends in. -/
def withSuffix? (path : Path) (suffix : Text) : Option Path :=
  (fileName? path).map fun _ => (dropTail path.reverse).reverse ++ suffix

end Path

end StyleGuide
