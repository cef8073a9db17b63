import StyleGuide.Config.KeyPath
import StyleGuide.Keyed
import StyleGuide.Toml.Table

/-!
# Trees of settings

Settings from all sources are collected in one tree of tables, lists and single values. A table
that is set where a table stands is merged into it, key by key; anything else takes the place of
what was there. The case of keys does not matter.

A value remembers the file it came from. A table that was merged belongs to no single file.

## Main definitions

* `Scalar`, `Tree`: Single values, and trees of them.
* `Tree.ofToml`: The tree of a value in a TOML file.
* `Tree.merge`: Sets a key of a table.
* `Tree.set?`: Sets what a path leads to.
-/

namespace StyleGuide

namespace Config

/-- A single value. -/
inductive Scalar where
  | nothing
  | boolean (value : Bool)
  | integer (value : Int)
  | number (value : Double)
  | text (value : Text)
  deriving DecidableEq, Repr

/-- A tree of settings. The origin of a value is the file it came from. -/
inductive Tree where
  | scalar (value : Scalar)
  | list (origin : Option Text) (items : List Tree)
  | table (origin : Option Text) (entries : List (Text × Tree))

namespace Tree

/-- The table without entries. -/
def empty : Tree := .table none []

/-- The value that says nothing. -/
def nothing : Tree := .scalar .nothing

/-- The text that keys are told apart by. -/
def keyOf (name : Text) : Text := name.map Char.toLower

/-- A tree as a table; anything else gives way to an empty one. -/
def asTable : Tree → Tree
  | .table origin entries => .table origin entries
  | _ => empty

/-- What a table holds under a key. -/
def get? (tree : Tree) (key : Text) : Option Tree :=
  match tree with
  | .table _ entries => Keyed.get? entries key
  | _ => none

/-- The table with a tree under a key. -/
def put (tree : Tree) (key : Text) (value : Tree) : Tree :=
  match tree with
  | .table origin entries => .table origin (Keyed.put entries key value)
  | _ => .table none [(key, value)]

mutual

/-- Set a key of a table. A table is merged into what stands there, entry by entry, so that an
    empty one changes nothing there. -/
def merge (name : Text) (value root : Tree) : Tree :=
  match value with
  | .table _ entries =>
    let here := (root.get? (keyOf name)).getD empty
    root.asTable.put (keyOf name) (mergeAll entries here)
  | .scalar value => root.asTable.put (keyOf name) (.scalar value)
  | .list origin items => root.asTable.put (keyOf name) (.list origin items)

/-- Set the keys of a table one after the other, in the order of the file. The order of a table is
    not promised, but it matters only where two keys differ in nothing but case. -/
def mergeAll (entries : List (Text × Tree)) (root : Tree) : Tree :=
  match entries with
  | [] => root
  | (name, value) :: entries => mergeAll entries (merge name value root)

end

/-- The items of a list; anything else gives way to an empty one. -/
def itemsOf : Tree → List Tree
  | .list _ items => items
  | _ => []

/-- Where a list comes from. -/
def listOrigin : Tree → Option Text
  | .list origin _ => origin
  | _ => none

/-- The greatest number of items that a list is made to hold. -/
def listLimit : Nat := Nat.pow 2 24

/-- The place in a list of `length` items that an index means. There is none before the first
    item, and none so far behind the last that the list would get too long. -/
def position? (index : Int) (length : Nat) : Option Nat :=
  if index < 0 then (if length < index.natAbs then none else some (length - index.natAbs))
  else if index.toNat < listLimit then some index.toNat
  else none

/-- A list made long enough for a place, with values that say nothing. -/
def extend (items : List Tree) (place : Nat) : List Tree :=
  items ++ List.replicate (place + 1 - items.length) nothing

/-- Set what further steps lead to, unless there is no such place. Tables and lists that are
    missing on the way are made. -/
def setBelow? (value : Tree) : List Step → Tree → Option Tree
  | [], _ => some value
  | [.key name], tree => some (merge name value tree.asTable)
  | .key name :: steps, tree => do
    let below := (tree.get? (keyOf name)).getD nothing
    return tree.asTable.put (keyOf name) (← setBelow? value steps below)
  | .index index :: steps, tree => do
    let place ← position? index tree.itemsOf.length
    let items := extend tree.itemsOf place
    let below := items[place]?.getD nothing
    return .list tree.listOrigin (items.set place (← setBelow? value steps below))

/-- Set what a path leads to, unless there is no such place. -/
def set? (path : KeyPath) (value root : Tree) : Option Tree :=
  setBelow? value (.key path.first :: path.steps) root

mutual

/-- The tree of a value in a TOML file. -/
def ofToml (origin : Text) : Toml.Value → Tree
  | .text value => .scalar (.text value)
  | .integer value => .scalar (.integer value)
  | .number value => .scalar (.number value)
  | .boolean value => .scalar (.boolean value)
  | .dateTime value => .scalar (.text value.toText)
  | .array items => .list (some origin) (ofTomlItems origin items)
  | .table entries => .table (some origin) (ofTomlEntries origin entries)

/-- The trees of the items of an array. -/
def ofTomlItems (origin : Text) : List Toml.Value → List Tree
  | [] => []
  | item :: items => ofToml origin item :: ofTomlItems origin items

/-- The trees of the entries of a table. -/
def ofTomlEntries (origin : Text) : List (Text × Toml.Value) → List (Text × Tree)
  | [] => []
  | (key, value) :: entries => (key, ofToml origin value) :: ofTomlEntries origin entries

end

end Tree

end Config

end StyleGuide
