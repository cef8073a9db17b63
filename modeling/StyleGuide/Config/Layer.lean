import StyleGuide.Config.Settings
import StyleGuide.Disk.Basic
import StyleGuide.Toml.Reader

/-!
# Layers of settings

Settings are put together from layers on top of the defaults: files, the environment and
overrides. Files and environment are merged in the order in which they are given, and overrides
are set after all of them.

A variable of the environment belongs here if its name starts with `RULEDOC_` in any case. The
rest of the name addresses the setting; two low lines stand for a dot.

## Main definitions

* `Layer`: A layer of settings.
* `Environment`: The variables of the environment.
* `Tree.set`: Sets what a path leads to.
* `Tree.setTop`: Sets a top-level key, which may itself be a path.
* `fileEntries`, `environmentEntries`: The settings of a source.
* `load`: The settings of a list of layers.
-/

namespace StyleGuide

namespace Config

/-- The variables of the environment with their values. -/
abbrev Environment := Keyed Text

/-- A layer of settings. -/
inductive Layer where
  /-- A file that has to be there. -/
  | file (path : Path)
  /-- A file that is left out if it cannot be read. -/
  | optionalFile (path : Path)
  /-- The variables of the environment. -/
  | environment
  /-- One value, which is stronger than all files and variables. -/
  | override (key : Text) (value : Scalar)

/-- The file that is looked for where no other is named. -/
def localFile : Path := "ruledoc.toml"

/-- What the names of variables start with. -/
def variablePrefix : Text := "ruledoc_"

/-- The extension that a file name may lack. -/
def fileSuffix : Text := ".toml"

/-- Set what a path leads to. -/
def Tree.set (root : Tree) (path : KeyPath) (value : Tree) : Except Error Tree :=
  match Tree.set? path value root with
  | some root => .ok root
  | none => .error .noSuchPlace

/-- Set a top-level key, which is taken for a path if it is one. -/
def Tree.setTop (root : Tree) (key : Text) (value : Tree) : Except Error Tree :=
  match KeyPath.ofText key with
  | .ok path => root.set path value
  | .error _ => .ok (Tree.merge key value root)

/-- Set the top-level keys of a source one after the other, in the order of the source. No order is
    promised, but it matters only where one setting is spelled twice: by keys that differ in case,
    or by a key that is a path and leads to what another key sets. The later key wins then. -/
def Tree.setAll (root : Tree) (entries : List (Text × Tree)) : Except Error Tree :=
  entries.foldlM (fun root (key, value) => root.setTop key value) root

/-- The text with every pair of low lines replaced by a dot. -/
def dotted : Text → Text
  | '_' :: '_' :: text => '.' :: dotted text
  | c :: text => c :: dotted text
  | [] => []

/-- The key that the name of a variable addresses. -/
def keyOfVariable? (name : Text) : Option Text :=
  (Text.afterLead? variablePrefix (name.map Char.toLower)).map dotted

/-- The settings in the environment. -/
def environmentEntries (environment : Environment) : List (Text × Tree) :=
  environment.filterMap fun (name, value) =>
    (keyOfVariable? name).map (·, .scalar (.text value))

/-- The path of a directory from the root. -/
def rootPath (location : Disk.Location) : Path := location.flatMap ('/' :: ·)

/-- The file that a path means: the one it names, or else the one whose name is longer by the
    extension. -/
def locate? (disk : Disk) (path : Path) : Option Path :=
  let whole := Path.join (rootPath disk.cwd) path
  if disk.isFile whole then some whole
  else (Path.withSuffix? whole fileSuffix).filter (disk.isFile ·)

/-- A path from the root as it is shown, from the working directory. -/
def shown (disk : Disk) (path : Path) : Text :=
  Text.joinWith "/" (Path.between disk.cwd (Path.names path))

/-- The settings in a file. A file that is not there or holds no text is an error only if it is
    required; a text that is not TOML always is. -/
def fileEntries (disk : Disk) (required : Bool) (path : Path) :
    Except Error (List (Text × Tree)) :=
  let unread (error : Error) : Except Error (List (Text × Tree)) :=
    if required then .error error else .ok []
  match locate? disk path with
  | none => unread (.fileNotFound path)
  | some found =>
    match disk.readText found with
    | .error _ => unread .notText
    | .ok text =>
      match Toml.readFile text with
      | none => .error .notToml
      | some entries => .ok (Tree.ofTomlEntries (shown disk found) entries)

/-- The overrides in a list of layers, with their paths. -/
def overrides : List Layer → Except Error (List (KeyPath × Scalar))
  | [] => .ok []
  | .override key value :: layers =>
    match KeyPath.ofText key with
    | .error fault => .error (.keyPath fault)
    | .ok path => (overrides layers).map ((path, value) :: ·)
  | _ :: layers => overrides layers

/-- The settings of a layer that is no override. -/
def Layer.entries (disk : Disk) (environment : Environment) :
    Layer → Except Error (List (Text × Tree))
  | .file path => fileEntries disk true path
  | .optionalFile path => fileEntries disk false path
  | .environment => .ok (environmentEntries environment)
  | .override _ _ => .ok []

/-- The tree of all sources in a list of layers, merged in order. -/
def mergeSources (disk : Disk) (environment : Environment) :
    List Layer → Tree → Except Error Tree
  | [], root => .ok root
  | layer :: layers, root => do
    let entries ← layer.entries disk environment
    mergeSources disk environment layers (← root.setAll entries)

/-- The tree of a list of layers on top of the defaults. -/
def loadTree (disk : Disk) (environment : Environment) (layers : List Layer) :
    Except Error Tree := do
  let overrides ← overrides layers
  let sources ← mergeSources disk environment layers ({} : Settings).toTree
  overrides.foldlM (fun root (path, value) => root.set path (.scalar value)) sources

/-- The settings of a list of layers on top of the defaults. -/
def load (disk : Disk) (environment : Environment) (layers : List Layer) :
    Except Error Settings := do
  Settings.ofTree (← loadTree disk environment layers)

end Config

end StyleGuide
