import StyleGuide.Proofs.Disk.Path
import StyleGuide.Proofs.Disk.Tree

/-!
# All nodes of a tree

Going through a tree of files by the list of its nodes.

The type of trees allows more than a file system does: a directory may list a name twice, and a name
may be empty or hold a slash, so that no path leads to it. `Node.WellNamed` leaves out all that and
no other trees: symbolic links may lead anywhere. In one respect the type allows less, since names
that are not the encoding of a text are no names here.

What good names are good for shows in the list of all nodes: each node of such a tree is listed
once, with the place where looking it up finds it. A search through that list then depends on what
stands where and not on the order of entries.

## Main definitions

* `Node.names`: The names in a directory.
* `Node.Everywhere`: Something is true of every node of a tree.
* `Node.Named`, `Node.WellNamed`: Directories hold proper names.

## Theorems

* `everywhere_of_nodes`: It is enough to look at the nodes of the list.
* `forall_mem_of_at?`: Places consist of names that directories hold.
* `mem_nodes_iff`, `mem_nodesOf_iff`: The list holds each node with its place.
* `mem_nodesOf_directory_iff`: The nodes below a directory are those at its places but the first.
* `nodup_nodesOf`: The list holds no place twice.
* `item?_eq_of_perm`: Trees whose lists differ in their order have the same at every place.
-/

namespace StyleGuide

namespace Disk

instance (name : Text) : Decidable (IsEntryName name) :=
  decidable_of_iff
    (name ≠ [] ∧ '/' ∉ name ∧ name ≠ Path.here ∧ name ≠ Path.above ∧ name.utf8Size ≤ nameLimit)
    ⟨fun ⟨hne, hslash, hhere, habove, hshort⟩ => ⟨hne, hslash, hhere, habove, hshort⟩,
      fun h => ⟨h.nonempty, h.noSlash, h.notHere, h.notAbove, h.short⟩⟩

namespace Node

/-- The names in a directory. Nothing else holds any. -/
def names : Node → List Text
  | .directory entries => entries.map Prod.fst
  | _ => []

/-- Something is true of a tree and of everything in it. -/
def Everywhere (P : Node → Prop) (node : Node) : Prop :=
  ∀ location found, node.at? location = some found → P found

/-- A directory holds each name once and only names that lead to its entries. -/
def Named (node : Node) : Prop := node.names.Nodup ∧ ∀ name ∈ node.names, IsEntryName name

instance (node : Node) : Decidable node.Named :=
  inferInstanceAs (Decidable (node.names.Nodup ∧ ∀ name ∈ node.names, IsEntryName name))

/-- A tree with proper names in all its directories. -/
def WellNamed (node : Node) : Prop := node.Everywhere Named

section Everywhere

variable {P : Node → Prop} {node : Node} (h : node.Everywhere P)

include h

theorem Everywhere.self : P node := h [] node rfl

/-- What is true everywhere in a tree is true everywhere below any of its nodes. -/
theorem Everywhere.at? (location : Location) (found : Node)
    (hfound : node.at? location = some found) : found.Everywhere P := by
  intro place inner hinner
  refine h (location ++ place) inner ?_
  rw [at?_append, hfound]
  exact hinner

theorem Everywhere.child (name : Text) (child : Node) (hchild : node.child? name = some child) :
    child.Everywhere P := by
  refine h.at? [name] child ?_
  rw [Node.at?, hchild]
  rfl

end Everywhere

theorem wellNamed_of_mem (entries : List (Text × Node)) (h : (directory entries).WellNamed) :
    ∀ entry ∈ entries, entry.2.WellNamed := by
  rintro ⟨name, child⟩ hentry
  exact Everywhere.child h name child
    ((Keyed.get?_eq_some_iff entries name child (Everywhere.self h).1).mpr hentry)

/-- Places consist of names that directories hold. -/
theorem forall_mem_of_at? (P : Text → Prop) (node found : Node)
    (h : node.Everywhere fun inner => ∀ name ∈ inner.names, P name) (location : Location)
    (hfound : node.at? location = some found) : ∀ name ∈ location, P name := by
  induction location generalizing node with
  | nil => exact fun name hname => absurd hname List.not_mem_nil
  | cons first rest ih =>
      rcases node.exists_entry_of_at? found first rest hfound with
        ⟨entries, child, rfl, hchild, hrest⟩
      intro name hname
      rcases List.mem_cons.mp hname with rfl | hmem
      · refine h.self name ((Keyed.get?_isSome_iff entries name).mp ?_)
        rw [hchild]
        rfl
      · exact ih child (h.child first child hchild) hrest name hmem

/-- Places in a tree with proper names consist of such names. -/
theorem WellNamed.isEntryName {node : Node} (h : node.WellNamed) (location : Location)
    (found : Node) (hfound : node.at? location = some found) :
    ∀ name ∈ location, IsEntryName name :=
  forall_mem_of_at? IsEntryName node found (fun place inner hinner => (h place inner hinner).2)
    location hfound

/-- What an entry holds is in the list of the directory. -/
theorem mem_nodesOf_of_mem (entries : List (Text × Node)) (base : Location) (name : Text)
    (child : Node) (hentry : (name, child) ∈ entries) :
    ∀ place ∈ child.nodes (base ++ [name]), place ∈ nodesOf entries base := by
  induction entries with
  | nil => exact absurd hentry List.not_mem_nil
  | cons entry entries ih =>
      intro place hplace
      rw [nodesOf, List.mem_append]
      rcases List.mem_cons.mp hentry with rfl | hentry
      · exact Or.inl hplace
      · exact Or.inr (ih hentry place hplace)

/-- A node that is found at a place is in the list of any tree. -/
theorem mem_nodes_of_at? (node : Node) (base rest : Location) (found : Node)
    (h : node.at? rest = some found) : (base ++ rest, found) ∈ node.nodes base := by
  induction rest generalizing node base with
  | nil =>
      rw [at?, Option.some.injEq] at h
      rw [h, List.append_nil]
      cases found with
      | file | link => rw [nodes]; exact List.mem_singleton.mpr rfl
      | directory => rw [nodes]; exact List.mem_cons_self
  | cons name rest ih =>
      rcases node.exists_entry_of_at? found name rest h with ⟨entries, child, rfl, hchild, hfound⟩
      rw [nodes, List.mem_cons]
      refine Or.inr (mem_nodesOf_of_mem entries base name child
        (Keyed.mem_of_get? entries name child hchild) _ ?_)
      have hinner := ih child (base ++ [name]) hfound
      rwa [List.append_assoc, List.singleton_append] at hinner

/-- What is true of all nodes in the list is true everywhere in the tree. -/
theorem everywhere_of_nodes (P : Node → Prop) (node : Node)
    (h : ∀ entry ∈ node.nodes [], P entry.2) : node.Everywhere P :=
  fun location found hfound => h (location, found) (mem_nodes_of_at? node [] location found hfound)

/-! ### The list of all nodes -/

mutual

/-- The list of all nodes holds each node with the place where it is found. -/
theorem mem_nodes_iff (node : Node) (h : node.WellNamed) (base location : Location) (found : Node) :
    (location, found) ∈ node.nodes base ↔
      ∃ rest, location = base ++ rest ∧ node.at? rest = some found := by
  cases node with
  | file | link =>
      rw [nodes, List.mem_singleton, Prod.mk.injEq]
      constructor
      · rintro ⟨rfl, rfl⟩
        exact ⟨[], (List.append_nil _).symm, rfl⟩
      · rintro ⟨rest, rfl, hfound⟩
        cases rest with
        | nil => exact ⟨List.append_nil _, (Option.some.inj hfound).symm⟩
        | cons name rest => exact absurd hfound (by simp only [at?, child?, Option.bind_none,
            reduceCtorEq, not_false_eq_true])
  | directory entries =>
      have hnodup : (entries.map Prod.fst).Nodup := (Everywhere.self h).1
      rw [nodes, List.mem_cons, Prod.mk.injEq, mem_nodesOf_iff entries (wellNamed_of_mem entries h)]
      constructor
      · rintro (⟨rfl, rfl⟩ | ⟨name, child, rest, hentry, rfl, hfound⟩)
        · exact ⟨[], (List.append_nil _).symm, rfl⟩
        · refine ⟨name :: rest, rfl, ?_⟩
          rw [at?, child?, (Keyed.get?_eq_some_iff entries name child hnodup).mpr hentry]
          exact hfound
      · rintro ⟨rest, rfl, hfound⟩
        cases rest with
        | nil => exact Or.inl ⟨List.append_nil _, (Option.some.inj hfound).symm⟩
        | cons name rest =>
            simp only [at?, child?, Option.bind_eq_some_iff] at hfound
            rcases hfound with ⟨child, hchild, hfound⟩
            exact Or.inr ⟨name, child, rest,
              (Keyed.get?_eq_some_iff entries name child hnodup).mp hchild, rfl, hfound⟩

theorem mem_nodesOf_iff (entries : List (Text × Node)) (h : ∀ entry ∈ entries, entry.2.WellNamed)
    (base location : Location) (found : Node) :
    (location, found) ∈ nodesOf entries base ↔
      ∃ name child rest, (name, child) ∈ entries ∧ location = base ++ name :: rest ∧
        child.at? rest = some found := by
  cases entries with
  | nil =>
      rw [nodesOf]
      constructor
      · intro hmem
        exact absurd hmem List.not_mem_nil
      · rintro ⟨name, child, rest, hentry, _⟩
        exact absurd hentry List.not_mem_nil
  | cons entry entries =>
      obtain ⟨first, node⟩ := entry
      -- The list has the nodes of the first entry, then those of the others.
      have hnode := mem_nodes_iff node (h (first, node) List.mem_cons_self) (base ++ [first])
        location found
      have hrest := mem_nodesOf_iff entries (fun e he => h e (List.mem_cons_of_mem _ he)) base
        location found
      rw [nodesOf, List.mem_append, hnode, hrest]
      simp only [List.append_assoc, List.singleton_append, List.mem_cons, Prod.mk.injEq]
      constructor
      · rintro (⟨rest, hlocation, hfound⟩ | ⟨name, child, rest, hentry, hlocation, hfound⟩)
        · exact ⟨first, node, rest, Or.inl ⟨rfl, rfl⟩, hlocation, hfound⟩
        · exact ⟨name, child, rest, Or.inr hentry, hlocation, hfound⟩
      · rintro ⟨name, child, rest, ⟨rfl, rfl⟩ | hentry, hlocation, hfound⟩
        · exact Or.inl ⟨rest, hlocation, hfound⟩
        · exact Or.inr ⟨name, child, rest, hentry, hlocation, hfound⟩

end

mutual

/-- The list of all nodes holds no place twice. -/
theorem nodup_nodes (node : Node) (h : node.WellNamed) (base : Location) :
    ((node.nodes base).map Prod.fst).Nodup := by
  cases node with
  | file | link => rw [nodes]; exact List.nodup_singleton base
  | directory entries =>
      have hentries := wellNamed_of_mem entries h
      rw [nodes, List.map_cons, List.nodup_cons]
      refine ⟨fun hmem => ?_, nodup_nodesOf entries hentries (Everywhere.self h).1 base⟩
      rcases List.mem_map.mp hmem with ⟨⟨location, found⟩, hfound, hlocation⟩
      rcases (mem_nodesOf_iff entries hentries base location found).mp hfound with
        ⟨name, child, rest, _, hbelow, _⟩
      -- What a directory holds stands further down than the directory.
      have hlength : base.length = (base ++ name :: rest).length := by
        rw [← hbelow]
        exact congrArg List.length hlocation.symm
      rw [List.length_append, List.length_cons] at hlength
      omega

theorem nodup_nodesOf (entries : List (Text × Node)) (h : ∀ entry ∈ entries, entry.2.WellNamed)
    (hnames : (entries.map Prod.fst).Nodup) (base : Location) :
    ((nodesOf entries base).map Prod.fst).Nodup := by
  cases entries with
  | nil => rw [nodesOf]; exact List.nodup_nil
  | cons entry entries =>
      obtain ⟨first, node⟩ := entry
      have hnode : node.WellNamed := h (first, node) List.mem_cons_self
      have hrest : ∀ e ∈ entries, e.2.WellNamed := fun e he => h e (List.mem_cons_of_mem _ he)
      rw [List.map_cons, List.nodup_cons] at hnames
      rw [nodesOf, List.map_append, List.nodup_append]
      refine ⟨nodup_nodes node hnode _, nodup_nodesOf entries hrest hnames.2 base, ?_⟩
      intro here hhere there hthere heq
      rcases List.mem_map.mp hhere with ⟨⟨location, found⟩, hfound, rfl⟩
      rcases List.mem_map.mp hthere with ⟨⟨location', found'⟩, hfound', rfl⟩
      rcases (mem_nodes_iff node hnode _ location found).mp hfound with ⟨rest, hlocation, _⟩
      rcases (mem_nodesOf_iff entries hrest base location' found').mp hfound' with
        ⟨name, child, rest', hentry, hlocation', _⟩
      -- The two places part at the name of the first entry, which no other entry has.
      simp only [hlocation, hlocation', List.append_assoc, List.singleton_append,
        List.append_cancel_left_eq, List.cons.injEq] at heq
      exact hnames.1 (List.mem_map.mpr ⟨(name, child), hentry, heq.1.symm⟩)

end

/-- The nodes below a directory are those at its places but the first. -/
theorem mem_nodesOf_directory_iff (entries : List (Text × Node))
    (h : (directory entries).WellNamed) (location : Location) (found : Node) :
    (location, found) ∈ nodesOf entries [] ↔
      location ≠ [] ∧ (directory entries).at? location = some found := by
  have hnodup : (entries.map Prod.fst).Nodup := (Everywhere.self h).1
  rw [mem_nodesOf_iff entries (wellNamed_of_mem entries h)]
  constructor
  · rintro ⟨name, child, rest, hentry, rfl, hrest⟩
    rw [← Keyed.get?_eq_some_iff entries name child hnodup] at hentry
    refine ⟨List.cons_ne_nil _ _, ?_⟩
    rw [List.nil_append, Node.at?, child?, hentry]
    exact hrest
  · rintro ⟨hne, hfound⟩
    cases location with
    | nil => exact absurd rfl hne
    | cons name rest =>
        rcases (directory entries).exists_entry_of_at? found name rest hfound with
          ⟨_, child, hentries, hchild, hrest⟩
        rw [directory.injEq] at hentries
        subst hentries
        exact ⟨name, child, rest, Keyed.mem_of_get? entries name child hchild, rfl, hrest⟩

/-- Where the lists of nodes are the same up to their order, the same stands at every place. -/
theorem item?_eq_of_perm (a b : Node) (ha : a.WellNamed) (hb : b.WellNamed)
    (h : ((a.nodes []).map fun entry => (entry.1, entry.2.item)).Perm
      ((b.nodes []).map fun entry => (entry.1, entry.2.item)))
    (location : Location) : a.item? location = b.item? location := by
  have hlisted : ∀ node : Node, node.WellNamed → ∀ item, node.item? location = some item ↔
      (location, item) ∈ (node.nodes []).map fun entry => (entry.1, entry.2.item) := by
    intro node hnode item
    rw [item?, Option.map_eq_some_iff, List.mem_map]
    constructor
    · rintro ⟨found, hfound, rfl⟩
      exact ⟨(location, found), (mem_nodes_iff node hnode [] location found).mpr
        ⟨location, rfl, hfound⟩, rfl⟩
    · rintro ⟨⟨place, found⟩, hmem, heq⟩
      rw [Prod.mk.injEq] at heq
      rcases (mem_nodes_iff node hnode [] place found).mp hmem with ⟨rest, rfl, hfound⟩
      exact ⟨found, by rw [← heq.1]; exact hfound, heq.2⟩
  refine Option.ext fun item => ?_
  rw [hlisted a ha, hlisted b hb, h.mem_iff]

end Node

end Disk

end StyleGuide
