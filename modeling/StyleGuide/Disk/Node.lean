import StyleGuide.Disk.Path
import StyleGuide.Keyed

/-!
# Trees of files

A directory holds files, symbolic links and directories under names. A place in such a tree is
the list of names that lead to it. The content of a file is a text, or bytes that are none: no
more of a file can ever be told apart here.

Names are texts. A file system may also hold names that are not the encoding of a text; entries
with such names, and everything below them, are left out.

## Main definitions

* `Content`: What a file holds.
* `Node`: A file, a link or a directory.
* `Location`: A place in a tree.
* `Node.at?`, `Node.putAt`: Looking at a place and changing it.
* `Node.nodes`: All nodes of a tree with their places.

## Theorems

* `Node.at?_putAt_self`: What was put at a place is found there.
-/

namespace StyleGuide

namespace Disk

/-- What a file holds. -/
inductive Content where
  | text (text : Text)
  /-- Bytes that are not the encoding of a text. -/
  | bytes (bytes : List UInt8)
  deriving DecidableEq, Repr

/-- A file, a symbolic link or a directory. -/
inductive Node where
  | file (content : Content)
  | link (target : Path)
  | directory (entries : List (Text × Node))

/-- A place in a tree: the names that lead to it. -/
abbrev Location := List Text

namespace Node

/-- The directory without entries. -/
def empty : Node := .directory []

/-- What stands under a name. -/
def child? (node : Node) (name : Text) : Option Node :=
  match node with
  | .directory entries => Keyed.get? entries name
  | _ => none

/-- The node at a place. -/
def at? (node : Node) : Location → Option Node
  | [] => some node
  | name :: rest => (node.child? name).bind (·.at? rest)

/-- Put `new` at a place. The directory it goes into has to be there; otherwise nothing changes. -/
def putAt (node : Node) (location : Location) (new : Node) : Node :=
  match location, node with
  | [], _ => new
  | name :: rest, .directory entries =>
    match Keyed.get? entries name with
    | some child => .directory (Keyed.put entries name (child.putAt rest new))
    | none => if rest.isEmpty then .directory (Keyed.put entries name new) else .directory entries
  | _ :: _, node => node

/-- Whether a node is a directory. -/
def isDirectory : Node → Bool
  | .directory _ => true
  | _ => false

mutual

/-- All nodes of a tree with the places where they stand, if the tree stands at the given one. A
    directory comes before what it holds, and no link is followed. -/
def nodes (node : Node) (location : Location) : List (Location × Node) :=
  match node with
  | .file content => [(location, .file content)]
  | .link target => [(location, .link target)]
  | .directory entries => (location, .directory entries) :: nodesOf entries location

/-- All nodes in the entries of a directory and below. -/
def nodesOf (entries : List (Text × Node)) (location : Location) : List (Location × Node) :=
  match entries with
  | [] => []
  | (name, node) :: entries => node.nodes (location ++ [name]) ++ nodesOf entries location

end

/-- What a file holds. -/
def content? : Node → Option Content
  | .file content => some content
  | _ => none

theorem at?_putAt_self (new : Node) (location : Location) (node old : Node)
    (h : node.at? location = some old) : (node.putAt location new).at? location = some new := by
  induction location generalizing node with
  | nil => simp only [putAt, at?]
  | cons name rest ih =>
      cases node with
      | file content => simp only [at?, child?, Option.bind_none, reduceCtorEq] at h
      | link target => simp only [at?, child?, Option.bind_none, reduceCtorEq] at h
      | directory entries =>
          simp only [at?, child?] at h
          cases hchild : Keyed.get? entries name with
          | none => simp only [hchild, Option.bind_none, reduceCtorEq] at h
          | some inner =>
              simp only [hchild, Option.bind_some] at h
              simp only [putAt, hchild, at?, child?, Keyed.get?_put_self, Option.bind_some]
              exact ih inner h

end Node

end Disk

end StyleGuide
