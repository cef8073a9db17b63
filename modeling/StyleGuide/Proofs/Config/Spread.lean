import StyleGuide.Config.Layer
import StyleGuide.Proofs.Keyed

/-!
# What merging leaves in a tree of settings

A tree that is merged into another one is spread out into parts: every table, list and value in it,
each with the place where it goes. A place that holds a text is safe from a part that goes elsewhere,
into another branch or into a table above, and a text that goes to the place takes over from the one
that is there. `Suits` says that a part is of one of these kinds.

Where all parts suit a place, the place therefore holds a text again in the end: the last one that
goes there, or else the one that was there before. `Takes` says so for a single tree, for all entries
of a source and for whatever is set after one another, since it passes along from one change to the
next.

## Main definitions

* `Tree.at?`: What stands at a place.
* `Tree.spread`: The parts of a tree.
* `Suits`: A part does no harm to the text at a place.
* `given?`: The text that parts give to a place.
* `placeOf?`: The place that a key addresses.
* `Takes`: A tree after it has taken in parts.

## Theorems

* `takes_mergeAll`: Merging the entries of a table.
* `takes_setTop`, `takes_setAll`: Setting top-level keys.
-/

namespace StyleGuide

namespace Config

/-! ### Places -/

namespace Tree

/-- What stands at a place, which is given by the names that lead to it. -/
def at? (tree : Tree) : List Text → Option Tree
  | [] => some tree
  | name :: rest => (tree.get? name).bind (·.at? rest)

/-- The text that a tree is. -/
def text? : Tree → Option Text
  | .scalar (.text value) => some value
  | _ => none

/-- Whether a tree is a table. -/
def isTable : Tree → Bool
  | .table _ _ => true
  | _ => false

theorem eq_of_text? {tree : Tree} {text : Text} (h : tree.text? = some text) :
    tree = .scalar (.text text) := by
  cases tree with
  | scalar value =>
      cases value with
      | text value =>
          rw [text?, Option.some.injEq] at h
          rw [h]
      | _ => simp only [text?, reduceCtorEq] at h
  | list | table => simp only [text?, reduceCtorEq] at h

theorem get?_put_self (tree : Tree) (name : Text) (value : Tree) :
    (tree.asTable.put name value).get? name = some value := by
  cases tree with
  | table origin entries => exact Keyed.get?_put_self entries name value
  | scalar | list => exact Keyed.get?_put_self [] name value

theorem get?_put_of_ne (tree : Tree) {name other : Text} (value : Tree) (h : name ≠ other) :
    (tree.asTable.put name value).get? other = tree.get? other := by
  cases tree with
  | table origin entries => exact Keyed.get?_put_of_ne entries value h
  | scalar | list => exact Keyed.get?_put_of_ne [] value h

theorem at?_put_self (tree : Tree) (name : Text) (value : Tree) (rest : List Text) :
    (tree.asTable.put name value).at? (name :: rest) = value.at? rest := by
  rw [at?, get?_put_self, Option.bind_some]

theorem at?_put_of_ne (tree : Tree) {name other : Text} (value : Tree) (rest : List Text)
    (h : name ≠ other) :
    (tree.asTable.put name value).at? (other :: rest) = tree.at? (other :: rest) := by
  rw [at?, at?, get?_put_of_ne tree value h]

mutual

/-- The parts of a tree that goes to a place. -/
def spread (place : List Text) : Tree → List (List Text × Tree)
  | .scalar value => [(place, .scalar value)]
  | .list origin items => [(place, .list origin items)]
  | .table origin entries => (place, .table origin entries) :: spreadAll place entries

/-- The parts of the entries of a table that goes to a place. -/
def spreadAll (place : List Text) : List (Text × Tree) → List (List Text × Tree)
  | [] => []
  | (name, value) :: entries => spread (place ++ [keyOf name]) value ++ spreadAll place entries

end

mutual

/-- All parts go to the place of the tree or further down. -/
theorem prefix_of_mem_spread (place : List Text) :
    ∀ (tree : Tree) (part : List Text × Tree), part ∈ spread place tree → place <+: part.1
  | .scalar value, part, h => by
      rw [spread, List.mem_singleton] at h
      exact h ▸ List.prefix_rfl
  | .list origin items, part, h => by
      rw [spread, List.mem_singleton] at h
      exact h ▸ List.prefix_rfl
  | .table origin entries, part, h => by
      rw [spread, List.mem_cons] at h
      rcases h with rfl | h
      · exact List.prefix_rfl
      · exact prefix_of_mem_spreadAll place entries part h

theorem prefix_of_mem_spreadAll (place : List Text) :
    ∀ (entries : List (Text × Tree)) (part : List Text × Tree), part ∈ spreadAll place entries →
      place <+: part.1
  | [], part, h => by
      rw [spreadAll] at h
      exact absurd h List.not_mem_nil
  | (name, value) :: entries, part, h => by
      rw [spreadAll, List.mem_append] at h
      rcases h with h | h
      · exact (List.prefix_append _ _).trans (prefix_of_mem_spread _ value part h)
      · exact prefix_of_mem_spreadAll place entries part h

end

end Tree

namespace Tree

/-- A tree is a part of itself. -/
theorem mem_spread_self (place : List Text) (tree : Tree) : (place, tree) ∈ spread place tree := by
  cases tree with
  | scalar | list | table =>
      rw [spread]
      exact List.mem_cons_self

end Tree

/-! ### Parts that do no harm -/

/-- A part does no harm to the text at a place: at the place and below there is nothing but a text at
    the place itself, and above there are only tables. -/
def Suits (place : List Text) (part : List Text × Tree) : Prop :=
  (place <+: part.1 → part.1 = place ∧ part.2.text?.isSome = true) ∧
    (part.1 <+: place → part.1 = place ∨ part.2.isTable = true)

instance (place : List Text) (part : List Text × Tree) : Decidable (Suits place part) :=
  inferInstanceAs (Decidable (_ ∧ _))

/-- The text that parts give to a place: the last one that goes there. -/
def given? (place : List Text) (parts : List (List Text × Tree)) : Option Text :=
  (parts.filterMap fun part => if part.1 = place then part.2.text? else none).getLast?

theorem given?_append (place : List Text) (first last : List (List Text × Tree)) :
    given? place (first ++ last) = (given? place last).or (given? place first) := by
  rw [given?, List.filterMap_append, List.getLast?_append]
  rfl

/-- What lists of parts give, taken together. -/
theorem given?_flatMap {α : Type} (place : List Text) (f : α → List (List Text × Tree))
    (items : List α) : given? place (items.flatMap f) =
      (items.filterMap fun item => given? place (f item)).getLast? := by
  induction items with
  | nil => rfl
  | cons item items ih =>
      rw [List.flatMap_cons, given?_append, ih, List.filterMap_cons]
      cases hitem : given? place (f item) with
      | none => rw [Option.or_none]
      | some text =>
          rw [List.getLast?_cons]
          cases (items.filterMap fun item => given? place (f item)).getLast? <;> rfl

/-- Parts that go elsewhere give nothing. -/
theorem given?_eq_none (place : List Text) (parts : List (List Text × Tree))
    (h : ∀ part ∈ parts, part.1 ≠ place) : given? place parts = none := by
  rw [given?, List.getLast?_eq_none_iff, List.filterMap_eq_nil_iff]
  intro part hpart
  rw [if_neg (h part hpart)]

theorem given?_singleton (place : List Text) (text : Text) :
    given? place [(place, .scalar (.text text))] = some text := by
  simp only [given?, List.filterMap_cons, if_true, Tree.text?, List.filterMap_nil,
    List.getLast?_singleton]

/-- A tree at the place `front` after it has taken in parts, one after the other: where they all suit
    a place further down that holds a text, it holds the text that they give to it, or else the one
    that it held before. -/
def Takes (front : List Text) (root : Tree) (parts : List (List Text × Tree)) (new : Tree) : Prop :=
  ∀ (name : Text) (rest : List Text) (old : Text),
    (∀ part ∈ parts, Suits (front ++ name :: rest) part) →
      root.at? (name :: rest) = some (.scalar (.text old)) →
        new.at? (name :: rest) =
          some (.scalar (.text ((given? (front ++ name :: rest) parts).getD old)))

namespace Takes

variable {front : List Text} {root middle new : Tree} {parts first last : List (List Text × Tree)}

theorem refl (front : List Text) (root : Tree) : Takes front root [] root :=
  fun _ _ _ _ hold => hold

theorem trans (hfirst : Takes front root first middle) (hlast : Takes front middle last new) :
    Takes front root (first ++ last) new := by
  intro name rest old hsuits hold
  have hmiddle := hfirst name rest old
    (fun part hpart => hsuits part (List.mem_append_left _ hpart)) hold
  have hnew := hlast name rest _ (fun part hpart => hsuits part (List.mem_append_right _ hpart))
    hmiddle
  rw [hnew, given?_append]
  cases given? (front ++ name :: rest) last <;> rfl

/-- A part that is no text gives nothing. -/
theorem cons (h : Takes front root parts new) (part : List Text × Tree)
    (hpart : part.2.text? = none) : Takes front root (part :: parts) new := by
  intro name rest old hsuits hold
  have hgiven : given? (front ++ name :: rest) (part :: parts) =
      given? (front ++ name :: rest) parts := by
    rw [given?, List.filterMap_cons_none (by rw [hpart, ite_self]), ← given?]
  rw [hgiven]
  exact h name rest old (fun other hother => hsuits other (List.mem_cons_of_mem _ hother)) hold

end Takes

/-! ### Merging -/

section Put

variable (front : List Text) (root new : Tree) (name : Text)

/-- A place under another name than the one that all parts go under is left alone. -/
theorem at?_put_elsewhere (parts : List (List Text × Tree))
    (hparts : ∀ part ∈ parts, front ++ [name] <+: part.1) (key : Text) (hkey : name ≠ key)
    (rest : List Text) (old : Text)
    (hold : root.at? (key :: rest) = some (.scalar (.text old))) :
    (root.asTable.put name new).at? (key :: rest) =
      some (.scalar (.text ((given? (front ++ key :: rest) parts).getD old))) := by
  have hnone : given? (front ++ key :: rest) parts = none := by
    refine given?_eq_none _ parts fun part hpart heq => hkey ?_
    have hprefix := hparts part hpart
    rw [heq, List.prefix_append_right_inj, List.cons_prefix_cons] at hprefix
    exact hprefix.1
  rw [Tree.at?_put_of_ne root new rest hkey, hnone]
  exact hold

/-- Where something is put under a name, it is enough to look below the name, if some part goes there
    that the place of the name would not suit. -/
theorem takes_put (parts : List (List Text × Tree))
    (hparts : ∀ part ∈ parts, front ++ [name] <+: part.1)
    (hdeep : ∃ part ∈ parts, ¬ Suits (front ++ [name]) part)
    (hnew : ∀ child, root.get? name = some child → Takes (front ++ [name]) child parts new) :
    Takes front root parts (root.asTable.put name new) := by
  intro key rest old hsuits hold
  by_cases hkey : name = key
  · subst hkey
    rw [Tree.at?_put_self]
    rw [Tree.at?, Option.bind_eq_some_iff] at hold
    rcases hold with ⟨child, hchild, hold⟩
    cases rest with
    | nil =>
        -- The place is that of the name itself, which not all parts suit.
        rcases hdeep with ⟨part, hpart, hnot⟩
        exact absurd (hsuits part hpart) hnot
    | cons next rest =>
        have hplace : front ++ name :: next :: rest = front ++ [name] ++ next :: rest := by
          rw [List.append_assoc, List.singleton_append]
        rw [hplace] at hsuits ⊢
        exact hnew child hchild next rest old hsuits hold
  · exact at?_put_elsewhere front root new name parts hparts key hkey rest old hold

/-- A single value that is put under a name. -/
theorem takes_put_leaf (hleaf : new.isTable = false) :
    Takes front root [(front ++ [name], new)] (root.asTable.put name new) := by
  intro key rest old hsuits hold
  by_cases hkey : name = key
  · subst hkey
    rcases hsuits _ (List.mem_singleton_self _) with ⟨hbelow, habove⟩
    have hprefix : front ++ [name] <+: front ++ name :: rest :=
      (List.prefix_append_right_inj front).mpr (List.cons_prefix_cons.mpr ⟨rfl, List.nil_prefix⟩)
    rcases habove hprefix with hplace | htable
    · -- The value goes to the very place, so it is a text.
      rcases Option.isSome_iff_exists.mp (hbelow (hplace ▸ List.prefix_rfl)).2 with ⟨text, htext⟩
      have hrest := List.append_cancel_left hplace
      rw [List.cons.injEq] at hrest
      have hnew : new = .scalar (.text text) := Tree.eq_of_text? htext
      rw [← hrest.2, Tree.at?_put_self, hnew, given?_singleton]
      rfl
    · rw [hleaf] at htable
      exact absurd htable Bool.false_ne_true
  · refine at?_put_elsewhere front root new name _ (fun part hpart => ?_) key hkey rest old hold
    obtain rfl := List.mem_singleton.mp hpart
    exact List.prefix_rfl

end Put

mutual

theorem takes_merge : ∀ (value : Tree) (front : List Text) (name : Text) (root : Tree),
    Takes front root (Tree.spread (front ++ [Tree.keyOf name]) value) (Tree.merge name value root)
  | .scalar value, front, name, root => by
      rw [Tree.spread, Tree.merge]
      exact takes_put_leaf front root (.scalar value) (Tree.keyOf name) rfl
  | .list origin items, front, name, root => by
      rw [Tree.spread, Tree.merge]
      exact takes_put_leaf front root (.list origin items) (Tree.keyOf name) rfl
  | .table origin entries, front, name, root => by
      rw [Tree.merge]
      refine takes_put front root _ (Tree.keyOf name) _ (Tree.prefix_of_mem_spread _ _) ?_
        fun child hchild => ?_
      · -- A table stands at the place of the name itself.
        rw [Tree.spread]
        refine ⟨_, List.mem_cons_self, fun hsuits => ?_⟩
        exact absurd (hsuits.1 List.prefix_rfl).2 Bool.false_ne_true
      · rw [hchild, Option.getD_some, Tree.spread]
        exact (takes_mergeAll entries (front ++ [Tree.keyOf name]) child).cons _ rfl

/-- The entries of a table are merged one after the other. -/
theorem takes_mergeAll : ∀ (entries : List (Text × Tree)) (front : List Text) (root : Tree),
    Takes front root (Tree.spreadAll front entries) (Tree.mergeAll entries root)
  | [], front, root => by
      rw [Tree.spreadAll, Tree.mergeAll]
      exact Takes.refl front root
  | (name, value) :: entries, front, root => by
      rw [Tree.spreadAll, Tree.mergeAll]
      exact (takes_merge value front name root).trans
        (takes_mergeAll entries front (Tree.merge name value root))

end

/-! ### Setting -/

/-- The names that steps of a path go through, unless there is an index among them. -/
def namesOf? : List Step → Option (List Text)
  | [] => some []
  | .key name :: steps => (namesOf? steps).map (Tree.keyOf name :: ·)
  | .index _ :: _ => none

/-- The place that a key addresses, unless it counts items of a list. A key that is no path stands
    for itself. -/
def placeOf? (key : Text) : Option (List Text) :=
  match KeyPath.ofText key with
  | .ok path => namesOf? (.key path.first :: path.steps)
  | .error _ => some [Tree.keyOf key]

theorem namesOf?_cons (name : Text) (steps : List Step) (names : List Text)
    (h : namesOf? (.key name :: steps) = some names) :
    ∃ others, namesOf? steps = some others ∧ names = Tree.keyOf name :: others := by
  rw [namesOf?, Option.map_eq_some_iff] at h
  rcases h with ⟨others, hothers, rfl⟩
  exact ⟨others, hothers, rfl⟩

theorem ne_nil_of_namesOf? (step : Step) (steps : List Step) (names : List Text)
    (h : namesOf? (step :: steps) = some names) : names ≠ [] := by
  cases step with
  | index index =>
      rw [namesOf?] at h
      exact absurd h (by simp only [reduceCtorEq, not_false_eq_true])
  | key name =>
      rcases namesOf?_cons name steps names h with ⟨others, _, rfl⟩
      exact List.cons_ne_nil _ _

theorem takes_asTable {front : List Text} {root new : Tree} {parts : List (List Text × Tree)}
    (h : Takes front root.asTable parts new) : Takes front root parts new := by
  intro name rest old hsuits hold
  refine h name rest old hsuits ?_
  cases root with
  | table origin entries => exact hold
  | scalar | list => simp only [Tree.at?, Tree.get?, Option.bind_none, reduceCtorEq] at hold

/-- Steps that only go through names can always be taken. -/
theorem takes_setBelow (value : Tree) (steps : List Step) (names front : List Text) (root : Tree)
    (hnames : namesOf? steps = some names) (hne : steps ≠ []) :
    ∃ new, Tree.setBelow? value steps root = some new ∧
      Takes front root (Tree.spread (front ++ names) value) new := by
  induction steps generalizing names front root with
  | nil => exact absurd rfl hne
  | cons step steps ih =>
      cases step with
      | index index =>
          rw [namesOf?] at hnames
          exact absurd hnames (by simp only [reduceCtorEq, not_false_eq_true])
      | key name =>
          rcases namesOf?_cons name steps names hnames with ⟨others, hothers, rfl⟩
          cases steps with
          | nil =>
              rw [namesOf?, Option.some.injEq] at hothers
              rw [Tree.setBelow?, ← hothers]
              exact ⟨_, rfl, takes_asTable (takes_merge value front name root.asTable)⟩
          | cons next steps =>
              have hdeeper := ne_nil_of_namesOf? next steps others hothers
              rcases ih others (front ++ [Tree.keyOf name])
                ((root.get? (Tree.keyOf name)).getD Tree.nothing) hothers (List.cons_ne_nil _ _) with
                ⟨new, hset, htakes⟩
              have hplace : front ++ Tree.keyOf name :: others =
                  front ++ [Tree.keyOf name] ++ others := by
                rw [List.append_assoc, List.singleton_append]
              refine ⟨root.asTable.put (Tree.keyOf name) new, ?_, ?_⟩
              · rw [Tree.setBelow?, hset]
                · rfl
                · exact fun h => absurd h (List.cons_ne_nil _ _)
              · rw [hplace]
                refine takes_put front root new (Tree.keyOf name) _ (fun part hpart => ?_) ?_
                  fun child hchild => ?_
                · exact (List.prefix_append _ _).trans (Tree.prefix_of_mem_spread _ value part hpart)
                · -- The value goes further down than the place of the name.
                  refine ⟨_, Tree.mem_spread_self _ value, fun hsuits => hdeeper ?_⟩
                  have hsame := (hsuits.1 (List.prefix_append _ _)).1
                  exact List.append_right_eq_self.mp hsame
                · rw [hchild, Option.getD_some] at htakes
                  exact htakes

theorem takes_setTop (root : Tree) (key : Text) (value : Tree) (names : List Text)
    (hplace : placeOf? key = some names) :
    ∃ new, root.setTop key value = .ok new ∧ Takes [] root (Tree.spread names value) new := by
  rw [placeOf?] at hplace
  cases hkey : KeyPath.ofText key with
  | error fault =>
      rw [hkey] at hplace
      simp only [Option.some.injEq] at hplace
      simp only [Tree.setTop, hkey]
      exact ⟨_, rfl, hplace ▸ takes_merge value [] key root⟩
  | ok path =>
      rw [hkey] at hplace
      rcases takes_setBelow value _ names [] root hplace (List.cons_ne_nil _ _) with
        ⟨new, hset, htakes⟩
      refine ⟨new, ?_, htakes⟩
      simp only [Tree.setTop, hkey, Tree.set, Tree.set?, hset]

/-- The parts of the entries of a source. -/
def partsOf (entries : List (Text × Tree)) : List (List Text × Tree) :=
  entries.flatMap fun (key, value) => ((placeOf? key).map (Tree.spread · value)).getD []

/-- The entries of a source are set one after the other. -/
theorem takes_setAll (entries : List (Text × Tree)) (root : Tree)
    (hplaces : ∀ entry ∈ entries, (placeOf? entry.1).isSome = true) :
    ∃ new, root.setAll entries = .ok new ∧ Takes [] root (partsOf entries) new := by
  induction entries generalizing root with
  | nil => exact ⟨root, rfl, Takes.refl [] root⟩
  | cons entry entries ih =>
      rcases entry with ⟨key, value⟩
      have hplace : (placeOf? key).isSome = true := hplaces _ List.mem_cons_self
      rcases Option.isSome_iff_exists.mp hplace with ⟨names, hnames⟩
      rcases takes_setTop root key value names hnames with ⟨middle, hmiddle, hfirst⟩
      rcases ih middle (fun other hother => hplaces other (List.mem_cons_of_mem _ hother)) with
        ⟨new, hnew, hlast⟩
      refine ⟨new, ?_, ?_⟩
      · rw [Tree.setAll] at hnew ⊢
        simp only [List.foldlM_cons, hmiddle, bind, Except.bind]
        exact hnew
      · have hparts : partsOf ((key, value) :: entries) =
            Tree.spread names value ++ partsOf entries := by
          simp only [partsOf, List.flatMap_cons, hnames, Option.map_some, Option.getD_some]
        rw [hparts]
        exact hfirst.trans hlast

end Config

end StyleGuide
