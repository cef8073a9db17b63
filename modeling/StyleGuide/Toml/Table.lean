import StyleGuide.Keyed
import StyleGuide.Number.Double
import StyleGuide.Toml.DateTime

/-!
# TOML tables

A TOML file fills one table bit by bit: headers open tables and arrays of tables, dotted keys open
tables on the way. What may still be added to a table depends on how it was opened, so an open
table remembers that. A value in the file, an inline table included, is closed.

A closed table whose first key is a certain one stands for a date or a time, which is spelled by
the text under that key. What else is in such a table does not count.

## Main definitions

* `Value`: A closed value.
* `Opening`: How an open table was opened.
* `Node`, `Entries`: What stands under a key while a file is read.
* `Entries.descend`: Changes the table at the end of a path.
* `Entries.addValue`, `Entries.openTable`, `Entries.openElement`: The three ways to add to a table.
* `Node.close`, `closeEntries`: The closed values of nodes.
* `Value.settle?`, `settleEntries?`: Values with dates and times in place of the tables for them.
-/

namespace StyleGuide

namespace Toml

/-- A closed value. -/
inductive Value where
  | text (value : Text)
  | integer (value : Int)
  | number (value : Double)
  | boolean (value : Bool)
  | dateTime (value : DateTime)
  | array (items : List Value)
  | table (entries : List (Text × Value))

/-- How an open table was opened. -/
inductive Opening where
  /-- By a header of its own, or as the table of the whole file. -/
  | header
  /-- By the header of a table below it. -/
  | passing
  /-- By a dotted key. -/
  | dotted
  deriving DecidableEq, Repr

/-- What stands under a key while a file is read: a closed value, an open table, or an array of
    tables, of which the last is open. -/
inductive Node where
  | value (value : Value)
  | table (opening : Opening) (entries : List (Text × Node))
  | tables (elements : List (List (Text × Node)))

/-- The entries of an open table. -/
abbrev Entries := Keyed Node

namespace Entries

/-- Change the table at the end of a path. Tables that are missing on the way are opened as
    `opening`, and an array of tables is entered at its last element. A dotted key does not pass a
    table that has a header of its own. -/
def descend (opening : Opening) (change : Opening → Entries → Option Entries) :
    List Text → Opening → Entries → Option Entries
  | [], here, entries => change here entries
  | key :: path, _, entries =>
    match Keyed.get? entries key with
    | none => do
      let child ← descend opening change path opening []
      return Keyed.put entries key (.table opening child)
    | some (.value _) => none
    | some (.table child below) => do
      guard (opening ≠ .dotted ∨ child ≠ .header)
      let below ← descend opening change path child below
      return Keyed.put entries key (.table child below)
    | some (.tables elements) =>
      match elements.reverse with
      | [] => none
      | last :: before => do
        let last ← descend opening change path .header last
        return Keyed.put entries key (.tables (last :: before).reverse)

/-- Put a new node under a key. -/
def insert? (key : Text) (node : Node) (entries : Entries) : Option Entries :=
  match Keyed.get? entries key with
  | none => some (Keyed.put entries key node)
  | some _ => none

/-- Add a value under a dotted key. Only a table that was itself opened by dotted keys can be
    added to through one. -/
def addValue (path : List Text) (key : Text) (value : Value) (entries : Entries) :
    Option Entries :=
  descend .dotted (fun here entries =>
    if (here == .dotted) == path.isEmpty then none else insert? key (.value value) entries)
    path .header entries

/-- Open a table by its header. A table that other headers passed through can still be opened,
    once, and counts as the newest entry then. -/
def openTable (path : List Text) (key : Text) (entries : Entries) : Option Entries :=
  descend .passing (fun _ entries =>
    match Keyed.get? entries key with
    | none => some (Keyed.put entries key (.table .header []))
    | some (.table .passing below) =>
      some (Keyed.put (Keyed.erase entries key) key (.table .header below))
    | some _ => none) path .header entries

/-- Open one more element of an array of tables by its header. -/
def openElement (path : List Text) (key : Text) (entries : Entries) : Option Entries :=
  descend .passing (fun _ entries =>
    match Keyed.get? entries key with
    | none => some (Keyed.put entries key (.tables [[]]))
    | some (.tables elements) => some (Keyed.put entries key (.tables (elements ++ [[]])))
    | some _ => none) path .header entries

end Entries

mutual

/-- The closed value of a node. -/
def Node.close : Node → Value
  | .value value => value
  | .table _ entries => .table (closeEntries entries)
  | .tables elements => .array (closeElements elements)

/-- The closed values of the entries of a table. -/
def closeEntries : List (Text × Node) → List (Text × Value)
  | [] => []
  | (key, node) :: entries => (key, node.close) :: closeEntries entries

/-- The closed values of the elements of an array of tables. -/
def closeElements : List (List (Text × Node)) → List Value
  | [] => []
  | element :: elements => .table (closeEntries element) :: closeElements elements

end

/-- The key that makes a table stand for a date or a time. -/
def spellingKey : Text := "$__toml_private_datetime"

/-- What spells a date or a time, if a table stands for one. -/
def spelling? : List (Text × Value) → Option Value
  | (key, value) :: _ => if key = spellingKey then some value else none
  | [] => none

/-- The date or time that a value spells. -/
def Value.dateTime? : Value → Option DateTime
  | .text spelled => DateTime.ofText? .wide spelled
  | _ => none

mutual

/-- A value with dates and times in place of the tables that stand for them, if all of those spell
    one. -/
def Value.settle? : Value → Option Value
  | .table entries =>
    match spelling? entries with
    | some value => value.dateTime?.map .dateTime
    | none => (settleEntries? entries).map .table
  | .array items => (settleItems? items).map .array
  | value => some value

/-- The entries of a table with their values settled. -/
def settleEntries? : List (Text × Value) → Option (List (Text × Value))
  | [] => some []
  | (key, value) :: entries => do
    let value ← value.settle?
    return (key, value) :: (← settleEntries? entries)

/-- The items of an array, settled. -/
def settleItems? : List Value → Option (List Value)
  | [] => some []
  | item :: items => do
    let item ← item.settle?
    return item :: (← settleItems? items)

end

end Toml

end StyleGuide
