import StyleGuide.Proofs.Disk.Nodes

/-!
# Plain trees

Trees of files as a file system without symbolic links holds them.

Beside proper names in its directories a plain tree has no symbolic links. It is said of each node
by itself, so it holds of everything below a plain directory, and putting files and directories
under proper names keeps it.

## Main definitions

* `Node.Orderly`, `Node.Plain`: What makes a tree plain.

## Theorems

* `plain_of_nodes`: It is enough to look at the nodes of the list.
* `Plain.wellNamed`: A plain tree has proper names.
* `plain_put`, `plain_putAt`: Putting a plain node keeps a tree plain.
-/

namespace StyleGuide

namespace Disk

namespace Node

/-- A node that is no symbolic link and, as a directory, holds each name once and only names that
    lead to its entries. -/
def Orderly : Node → Prop
  | .file _ => True
  | .link _ => False
  | .directory entries =>
    (entries.map Prod.fst).Nodup ∧ ∀ name ∈ entries.map Prod.fst, IsEntryName name

instance : (node : Node) → Decidable node.Orderly
  | .file _ => .isTrue trivial
  | .link _ => .isFalse not_false
  | .directory entries => inferInstanceAs (Decidable ((entries.map Prod.fst).Nodup ∧
      ∀ name ∈ entries.map Prod.fst, IsEntryName name))

/-- A tree without symbolic links, as a file system holds it. -/
def Plain (node : Node) : Prop := ∀ location found, node.at? location = some found → found.Orderly

theorem Plain.child {node : Node} (h : node.Plain) (name : Text) (child : Node)
    (hchild : node.child? name = some child) : child.Plain :=
  Everywhere.child h name child hchild

/-- A plain tree has proper names. -/
theorem Plain.wellNamed {node : Node} (h : node.Plain) : node.WellNamed := by
  intro location found hfound
  have horderly := h location found hfound
  cases found with
  | file | link => exact ⟨List.nodup_nil, fun name hname => absurd hname List.not_mem_nil⟩
  | directory entries => exact horderly

/-- A plain directory is in order itself, and so is everything it holds. -/
theorem plain_directory_iff (entries : List (Text × Node)) :
    (directory entries).Plain ↔ (directory entries).Orderly ∧
      ∀ name child, Keyed.get? entries name = some child → child.Plain := by
  constructor
  · intro h
    exact ⟨h [] _ rfl, fun name child hchild => h.child name child hchild⟩
  · rintro ⟨horderly, hchildren⟩ location found hfound
    cases location with
    | nil => rwa [← Option.some.inj hfound]
    | cons name rest =>
        simp only [at?, child?, Option.bind_eq_some_iff] at hfound
        rcases hfound with ⟨child, hchild, hfound⟩
        exact hchildren name child hchild rest found hfound

/-- A plain directory with one more plain entry, or with an entry replaced, is plain. -/
theorem plain_put (entries : List (Text × Node)) (name : Text) (child : Node)
    (h : (directory entries).Plain) (hname : IsEntryName name) (hchild : child.Plain) :
    (directory (Keyed.put entries name child)).Plain := by
  rw [plain_directory_iff] at h ⊢
  rcases h with ⟨⟨hnodup, hnames⟩, hchildren⟩
  refine ⟨?_, fun other found hfound => ?_⟩
  · -- The names are those from before, and perhaps the new one behind them.
    rw [Orderly, Keyed.keys_put]
    split
    · exact ⟨hnodup, hnames⟩
    · rename_i hnew
      refine ⟨List.nodup_append.mpr ⟨hnodup, List.nodup_singleton name, ?_⟩, ?_⟩
      · intro a ha b hb hab
        rw [List.mem_singleton] at hb
        exact hnew (by rwa [← hb, ← hab])
      · intro other hother
        rcases List.mem_append.mp hother with hother | hother
        · exact hnames other hother
        · rwa [List.mem_singleton.mp hother]
  · by_cases hother : name = other
    · rw [hother, Keyed.get?_put_self, Option.some.injEq] at hfound
      rwa [← hfound]
    · rw [Keyed.get?_put_of_ne _ _ hother] at hfound
      exact hchildren other found hfound

theorem plain_putAt (node new : Node) (parent : Location) (name : Text) (h : node.Plain)
    (hparent : node.item? parent = some .directory) (hname : IsEntryName name) (hnew : new.Plain) :
    (node.putAt (parent ++ [name]) new).Plain := by
  rw [item?_eq_directory_iff] at hparent
  rcases hparent with ⟨around, hparent⟩
  induction parent generalizing node with
  | nil =>
      rw [at?, Option.some.injEq] at hparent
      subst hparent
      rw [List.nil_append, putAt_directory_singleton]
      exact plain_put around name new h hname hnew
  | cons first parent ih =>
      rcases node.exists_entry_of_at? _ first parent hparent with
        ⟨entries, child, rfl, hchild, hfound⟩
      rw [List.cons_append, putAt_directory_cons entries first _ new child hchild]
      -- The way goes on with an entry, and its name is a proper one already.
      refine plain_put entries first _ h ?_ (ih child (h.child first child hchild) hfound)
      have horderly := ((plain_directory_iff entries).mp h).1
      refine horderly.2 first ((Keyed.get?_isSome_iff entries first).mp ?_)
      rw [hchild]
      rfl

/-- A tree is plain if all nodes in the list are in order. -/
theorem plain_of_nodes (node : Node) (h : ∀ entry ∈ node.nodes [], entry.2.Orderly) : node.Plain :=
  everywhere_of_nodes Orderly node h

end Node

end Disk

end StyleGuide
