import StyleGuide.Proofs.Disk.Descend
import StyleGuide.Proofs.Disk.PathOrder
import StyleGuide.Proofs.Generate.Find

/-!
# Searching among symbolic links

Which rulesets a search finds on any disk, whatever its symbolic links lead to.

A search is a recursion. It reads a directory by its path, takes the entries in the order in which
they are listed, enters those that are directories, and collects the paths of the others if their
names have the suffix. `collect` is that recursion with a bound on its depth, and the bound is all
that ends it: nothing in it knows of trees. That it comes to its end without the bound is a fact
about trees, since a link is never entered and so each directory is entered below the one that holds
it. What it collects is what `Generator.find` takes from the list of all nodes, before sorting.

What a search finds is said without any recursion over trees, too. The directories that are searched
are the first one and, with each of them, the directories it lists; the rulesets are the other
entries that these list, with the right names.

Two disks with the same at every place differ in the order in which directories list their entries
and in nothing else. A search finds the same on both.

## Main definitions

* `Generator.collect`: The search as a recursion that reads one directory after another.
* `Generator.Settles`: A recursion comes to its end if it may go deep enough.
* `Generator.Searched`, `Generator.Readable`: The directories that are searched.
* `Generator.FoundIn`: The rulesets they list.

## Theorems

* `foldlM_visit`, `foldlM_visit_other`: What going through the list of all nodes gives.
* `collect_nodes`, `collectEntries_nodesOf`: The recursion goes through that list.
* `collect_settles`: The recursion comes to its end and collects what a search finds.
* `exists_place_of_searched`, `searched_of_place`: The places of the directories that are searched.
* `mem_find_iff`, `readable_of_find`: What is found, and when.
* `find_same`: The order of entries does not matter.
* `find_exactly_rulesets`: All of this for any search.
-/

namespace StyleGuide

namespace Generator

open Disk

/-! ### The search as a recursion -/

/-- The entries of a directory in the order in which it lists them: a directory is entered, and
    anything else is found if its name has the suffix. -/
def collectEntries (suffix : Text) (enter : Path → List Path → Option (Except Error (List Path)))
    (dir : Path) : List (Text × Node) → List Path → Option (Except Error (List Path))
  | [], found => some (.ok found)
  | (name, node) :: entries, found =>
    if node.isDirectory then
      match enter (Path.join dir name) found with
      | some (.ok found) => collectEntries suffix enter dir entries found
      | stopped => stopped
    else
      collectEntries suffix enter dir entries
        (if (Path.fileName? (Path.join dir name)).any (Text.hasEnd suffix) then
          found ++ [Path.join dir name]
        else found)

/-- The search as a recursion that reads each directory by its path and puts what it finds behind
    what has been found before. It goes `depth` directories deep at most, and gives nothing where it
    would have to go deeper. -/
def collect (suffix : Text) (disk : Disk) : (depth : Nat) → Path → List Path →
    Option (Except Error (List Path))
  | 0, _, _ => none
  | depth + 1, dir, found =>
    match disk.readDirectory dir with
    | .error fault => some (.error (.disk dir fault))
    | .ok entries => collectEntries suffix (collect suffix disk depth) dir entries found

/-- A recursion with a bound on its depth gives the same with every bound from some one on. -/
def Settles {α : Type} (run : Nat → Option α) (outcome : α) : Prop :=
  ∃ depth, ∀ more, depth ≤ more → run more = some outcome

/-! ### Going through the list of all nodes -/

/-- The path of a node, if it is a directory and the path is too long for the system. -/
def longPath? (dir : Path) (entry : Location × Node) : Option Path :=
  if entry.2.isDirectory && pathLimit < (Path.below dir entry.1).utf8Size then
    some (Path.below dir entry.1)
  else none

/-- One node of the list: a directory has to be read, and a ruleset is put behind the others. -/
def visit (generator : Generator) (dir : Path) (found : List Path) (entry : Location × Node) :
    Except Error (List Path) :=
  match longPath? dir entry with
  | some path => .error (.disk path .nameTooLong)
  | none => .ok (if generator.isRuleset entry.1 entry.2 then found ++ [Path.below dir entry.1]
      else found)

/-- Going through a list of nodes fails at the first directory with a path that is too long, and
    otherwise finds the rulesets among them. -/
theorem foldlM_visit (generator : Generator) (dir : Path) (places : List (Location × Node))
    (found : List Path) : places.foldlM (visit generator dir) found =
      match places.findSome? (longPath? dir) with
      | some path => .error (.disk path .nameTooLong)
      | none => .ok (found ++
          (places.filter fun entry => generator.isRuleset entry.1 entry.2).map
            fun entry => Path.below dir entry.1) := by
  induction places generalizing found with
  | nil =>
      rw [List.foldlM_nil, List.findSome?_nil, List.filter_nil, List.map_nil, List.append_nil]
      rfl
  | cons entry places ih =>
      rw [List.foldlM_cons, List.findSome?_cons, visit]
      cases longPath? dir entry with
      | some path => rfl
      | none =>
          simp only [bind, Except.bind]
          rw [ih]
          cases places.findSome? (longPath? dir) with
          | some path => rfl
          | none =>
              cases hruleset : generator.isRuleset entry.1 entry.2 with
              | true =>
                  simp only [List.filter_cons, hruleset, if_true, List.map_cons, List.append_assoc,
                    List.singleton_append]
              | false => simp only [List.filter_cons, hruleset, Bool.false_eq_true, if_false]

/-- An entry that is no directory is one node, which is a ruleset if its path ends in a name with the
    suffix. -/
theorem foldlM_visit_other (generator : Generator) (dir : Path) (node : Node)
    (hother : node.isDirectory = false) (location : Location) (name : Text)
    (hname : IsEntryName name) (found : List Path) :
    (node.nodes (location ++ [name])).foldlM (visit generator dir) found =
      .ok (if (Path.fileName? (Path.join (Path.below dir location) name)).any
          (Text.hasEnd generator.batch.rulesetSuffix) then
        found ++ [Path.join (Path.below dir location) name]
      else found) := by
  have hnodes : node.nodes (location ++ [name]) = [(location ++ [name], node)] := by
    cases node with
    | file | link => rw [Node.nodes]
    | directory => exact absurd hother.symm Bool.false_ne_true
  have hruleset : generator.isRuleset (location ++ [name]) node =
      (Path.fileName? (Path.join (Path.below dir location) name)).any
        (Text.hasEnd generator.batch.rulesetSuffix) := by
    rw [isRuleset, hother, List.getLast?_concat, Path.fileName?_join_entry _ name hname]
    rfl
  rw [hnodes, List.foldlM_cons, visit, longPath?, hother, hruleset, Path.below_concat]
  rfl

/-! ### The recursion and the list -/

/-- The recursion fails where its directory cannot be read. -/
theorem collect_of_error (suffix : Text) (disk : Disk) (dir : Path) (fault : Fault)
    (hread : disk.readDirectory dir = .error fault) (more : Nat) (hmore : 1 ≤ more)
    (found : List Path) : collect suffix disk more dir found = some (.error (.disk dir fault)) := by
  obtain ⟨more, rfl⟩ : ∃ less, more = less + 1 := ⟨more - 1, by omega⟩
  simp only [collect, hread]

/-- The recursion may have to go one directory deeper than over the entries of its directory. -/
theorem collect_of_ok (suffix : Text) (disk : Disk) (dir : Path) (entries : List (Text × Node))
    (hread : disk.readDirectory dir = .ok entries)
    (result : List Path → Option (Except Error (List Path)))
    (h : ∃ depth, ∀ more, depth ≤ more → ∀ found,
      collectEntries suffix (collect suffix disk more) dir entries found = result found) :
    ∃ depth, ∀ more, depth ≤ more → ∀ found,
      collect suffix disk more dir found = result found := by
  rcases h with ⟨depth, hdepth⟩
  refine ⟨depth + 1, fun more hmore found => ?_⟩
  obtain ⟨more, rfl⟩ : ∃ less, more = less + 1 := ⟨more - 1, by omega⟩
  simp only [collect, hread]
  exact hdepth more (by omega) found

section Collect

variable (generator : Generator) {disk : Disk} (hlawful : disk.Lawful) (dir : Path)
  (entries : List (Text × Node)) (hread : disk.readDirectory dir = .ok entries)

include hlawful hread

/-- The directory that is searched has proper names. -/
theorem wellNamed_of_readDirectory : (Node.directory entries).WellNamed := by
  rcases (readDirectory_iff disk dir entries).mp hread with ⟨_, home, _, hhome⟩
  exact Node.Everywhere.at? hlawful.named home _ hhome

/-- An entry of a directory stands below it. -/
theorem at?_of_mem (location : Location) (inner : List (Text × Node))
    (hinner : (Node.directory entries).at? location = some (.directory inner)) (name : Text)
    (node : Node) (hentry : (name, node) ∈ inner) :
    (Node.directory entries).at? (location ++ [name]) = some node := by
  have hnamed := wellNamed_of_readDirectory hlawful dir entries hread
  have hnodup : (inner.map Prod.fst).Nodup := (hnamed location _ hinner).1
  rw [Node.at?_concat, hinner, Option.bind_some, Node.child?, Keyed.get?_eq_some_iff _ _ _ hnodup]
  exact hentry

mutual

/-- Searching a directory is going through the list of its nodes. -/
theorem collect_nodes (node : Node) (hdirectory : node.isDirectory = true) (location : Location)
    (hat : (Node.directory entries).at? location = some node) :
    ∃ depth, ∀ more, depth ≤ more → ∀ found,
      collect generator.batch.rulesetSuffix disk more (Path.below dir location) found =
        some ((node.nodes location).foldlM (visit generator dir) found) := by
  cases node with
  | file | link => exact absurd hdirectory Bool.false_ne_true
  | directory inner =>
      -- What is read under the path of the directory is what the tree holds there.
      have hbelow := readDirectory_below hlawful dir entries hread location inner hat
      have hvisit : ∀ found, ((Node.directory inner).nodes location).foldlM (visit generator dir)
          found = if pathLimit < (Path.below dir location).utf8Size then
            .error (.disk (Path.below dir location) .nameTooLong)
          else (Node.nodesOf inner location).foldlM (visit generator dir) found := by
        intro found
        rw [Node.nodes, List.foldlM_cons, visit, longPath?]
        by_cases hlong : pathLimit < (Path.below dir location).utf8Size
        · simp only [hlong, Node.isDirectory, decide_true, Bool.and_self, if_true]
          rfl
        · simp only [hlong, Node.isDirectory, decide_false, Bool.and_false, Bool.false_eq_true,
            if_false, isRuleset, Bool.not_true, Bool.false_and]
          rfl
      by_cases hlong : pathLimit < (Path.below dir location).utf8Size
      · rw [if_pos hlong] at hbelow
        refine ⟨1, fun more hmore found => ?_⟩
        rw [collect_of_error _ disk _ _ hbelow more hmore, hvisit, if_pos hlong]
      · rw [if_neg hlong] at hbelow
        refine collect_of_ok _ disk _ inner hbelow _ ?_
        simp only [hvisit, if_neg hlong]
        exact collectEntries_nodesOf inner location
          (at?_of_mem hlawful dir entries hread location inner hat)

theorem collectEntries_nodesOf (inner : List (Text × Node)) (location : Location)
    (hat : ∀ name node, (name, node) ∈ inner →
      (Node.directory entries).at? (location ++ [name]) = some node) :
    ∃ depth, ∀ more, depth ≤ more → ∀ found,
      collectEntries generator.batch.rulesetSuffix
          (collect generator.batch.rulesetSuffix disk more) (Path.below dir location) inner found =
        some ((Node.nodesOf inner location).foldlM (visit generator dir) found) := by
  cases inner with
  | nil => exact ⟨0, fun _ _ found => by rw [collectEntries, Node.nodesOf, List.foldlM_nil]; rfl⟩
  | cons entry inner =>
      obtain ⟨name, node⟩ := entry
      have hnode := hat name node List.mem_cons_self
      have hname : IsEntryName name :=
        Node.WellNamed.isEntryName (wellNamed_of_readDirectory hlawful dir entries hread) _ _ hnode
          name List.mem_concat_self
      rcases collectEntries_nodesOf inner location fun other child hother =>
        hat other child (List.mem_cons_of_mem _ hother) with ⟨depth, hdepth⟩
      cases hdirectory : node.isDirectory with
      | true =>
          -- The depth has to do for the directory and for the entries behind it.
          rcases collect_nodes node hdirectory (location ++ [name]) hnode with ⟨below, hbelow⟩
          refine ⟨max depth below, fun more hmore found => ?_⟩
          rw [collectEntries, if_pos hdirectory, ← Path.below_concat,
            hbelow more (by omega) found, Node.nodesOf, List.foldlM_append]
          cases (node.nodes (location ++ [name])).foldlM (visit generator dir) found with
          | error fault => rfl
          | ok found => exact hdepth more (by omega) found
      | false =>
          refine ⟨depth, fun more hmore found => ?_⟩
          rw [collectEntries, hdirectory, if_neg Bool.false_ne_true, hdepth more hmore,
            Node.nodesOf, List.foldlM_append,
            foldlM_visit_other generator dir node hdirectory location name hname]
          rfl

end

end Collect

/-- The recursion comes to its end on every disk. Where a search finds rulesets, it has collected
    them, and where a search fails, it has failed in the same way. -/
theorem collect_settles (generator : Generator) {disk : Disk} (hlawful : disk.Lawful) (dir : Path) :
    ∃ outcome, Settles (fun depth => collect generator.batch.rulesetSuffix disk depth dir [])
        outcome ∧
      ((∃ error, outcome = .error error ∧ generator.find disk dir = .error error) ∨
        ∃ found paths, outcome = .ok found ∧ generator.find disk dir = .ok paths ∧
          paths.Perm found) := by
  cases hread : disk.readDirectory dir with
  | error fault =>
      refine ⟨_, ⟨1, fun more hmore => collect_of_error _ disk dir fault hread more hmore []⟩,
        Or.inl ⟨_, rfl, ?_⟩⟩
      simp only [find, hread]
  | ok entries =>
      rcases collect_of_ok _ disk dir entries hread _
        (collectEntries_nodesOf generator hlawful dir entries hread entries []
          (at?_of_mem hlawful dir entries hread [] entries rfl)) with ⟨depth, hdepth⟩
      refine ⟨(Node.nodesOf entries []).foldlM (visit generator dir) [],
        ⟨depth, fun more hmore => hdepth more hmore []⟩, ?_⟩
      have hdeep : tooDeep? dir entries =
          (Node.nodesOf entries []).findSome? (longPath? dir) := rfl
      rw [foldlM_visit, ← hdeep]
      simp only [find, hread]
      cases tooDeep? dir entries with
      | some path => exact Or.inl ⟨_, rfl, rfl⟩
      | none =>
          refine Or.inr ⟨_, _, rfl, rfl, ?_⟩
          rw [List.nil_append, rulesets]
          refine ((sorted_perm _).map (Path.below dir)).trans ?_
          rw [List.map_map]
          exact List.Perm.refl _

/-! ### What is searched -/

/-- The directories that are searched, by the paths that they are read under: the first one, and
    with each of them the directories that it lists. A symbolic link is none, wherever it leads. -/
inductive Searched (disk : Disk) (dir : Path) : Path → Prop where
  | start : Searched disk dir dir
  | enter {path : Path} {entries : List (Text × Node)} {name : Text} {inner : List (Text × Node)}
      (h : Searched disk dir path) (hread : disk.readDirectory path = .ok entries)
      (hentry : (name, .directory inner) ∈ entries) : Searched disk dir (Path.join path name)

/-- No directory that is searched fails to be read. -/
def Readable (disk : Disk) (dir : Path) : Prop :=
  ∀ path, Searched disk dir path → ∃ entries, disk.readDirectory path = .ok entries

/-- The rulesets in the directories that are searched: the entries that are no directories and have
    names with the suffix. -/
inductive FoundIn (suffix : Text) (disk : Disk) (dir : Path) : Path → Prop where
  | entry {path : Path} {entries : List (Text × Node)} {name : Text} {node : Node}
      (h : Searched disk dir path) (hread : disk.readDirectory path = .ok entries)
      (hentry : (name, node) ∈ entries) (hother : node.isDirectory = false)
      (hend : Text.hasEnd suffix name = true) : FoundIn suffix disk dir (Path.join path name)

section Searched

variable (generator : Generator) {disk : Disk} (hlawful : disk.Lawful) (dir : Path)
  (entries : List (Text × Node)) (hread : disk.readDirectory dir = .ok entries)

include hlawful hread

/-- What is read under the path of a directory below is what the tree holds there. -/
theorem eq_of_readDirectory_below (location : Location) (inner : List (Text × Node))
    (hinner : (Node.directory entries).at? location = some (.directory inner))
    (listed : List (Text × Node))
    (hlisted : disk.readDirectory (Path.below dir location) = .ok listed) : listed = inner := by
  rw [readDirectory_below hlawful dir entries hread location inner hinner] at hlisted
  split at hlisted
  · exact absurd hlisted (by simp only [reduceCtorEq, not_false_eq_true])
  · exact (Except.ok.inj hlisted).symm

/-- A directory that is searched stands below the first one, and its path leads there. -/
theorem exists_place_of_searched (path : Path) (h : Searched disk dir path) :
    ∃ location inner, path = Path.below dir location ∧
      (Node.directory entries).at? location = some (.directory inner) := by
  induction h with
  | start => exact ⟨[], entries, rfl, rfl⟩
  | enter _ hlisted hentry ih =>
      rcases ih with ⟨location, inner, rfl, hinner⟩
      have hsame := eq_of_readDirectory_below hlawful dir entries hread location inner hinner _
        hlisted
      subst hsame
      exact ⟨_, _, (Path.below_concat dir location _).symm,
        at?_of_mem hlawful dir entries hread location _ hinner _ _ hentry⟩

/-- Where no directory fails to be read, every directory below the first one is searched. -/
theorem searched_of_place (hreadable : Readable disk dir) (location : Location)
    (inner : List (Text × Node))
    (hinner : (Node.directory entries).at? location = some (.directory inner)) :
    Searched disk dir (Path.below dir location) ∧
      disk.readDirectory (Path.below dir location) = .ok inner := by
  have hsearched : Searched disk dir (Path.below dir location) := by
    induction location using List.reverseRecOn generalizing inner with
    | nil => exact .start
    | append_singleton front name ih =>
        -- The directory around lists this one.
        rw [Node.at?_concat, Option.bind_eq_some_iff] at hinner
        rcases hinner with ⟨around, haround, hchild⟩
        cases around with
        | file | link => exact absurd hchild (by simp only [Node.child?, reduceCtorEq,
            not_false_eq_true])
        | directory listed =>
            have hfront := ih listed haround
            rcases hreadable _ hfront with ⟨entries', hentries'⟩
            have hsame := eq_of_readDirectory_below hlawful dir entries hread front listed haround
              _ hentries'
            subst hsame
            rw [Path.below_concat]
            exact hfront.enter hentries' (Keyed.mem_of_get? _ name _ hchild)
  refine ⟨hsearched, ?_⟩
  rcases hreadable _ hsearched with ⟨listed, hlisted⟩
  rw [hlisted, eq_of_readDirectory_below hlawful dir entries hread location inner hinner _ hlisted]

/-- Where no directory fails to be read, a search finds the rulesets that are listed. -/
theorem mem_find_iff (hreadable : Readable disk dir) (path : Path) :
    path ∈ (generator.rulesets entries).map (Path.below dir) ↔
      FoundIn generator.batch.rulesetSuffix disk dir path := by
  have hnamed := wellNamed_of_readDirectory hlawful dir entries hread
  rw [List.mem_map]
  constructor
  · rintro ⟨location, hmem, rfl⟩
    rcases (mem_rulesets_at?_iff generator entries hnamed location).mp hmem with
      ⟨node, ⟨hne, hnode⟩, hruleset⟩
    rcases List.eq_nil_or_concat' location with hnil | ⟨front, name, rfl⟩
    · exact absurd hnil hne
    · rw [isRuleset, List.getLast?_concat, Bool.and_eq_true, Bool.not_eq_true'] at hruleset
      rw [Node.at?_concat, Option.bind_eq_some_iff] at hnode
      rcases hnode with ⟨around, haround, hchild⟩
      cases around with
      | file | link => exact absurd hchild (by simp only [Node.child?, reduceCtorEq,
          not_false_eq_true])
      | directory inner =>
          rcases searched_of_place hlawful dir entries hread hreadable front inner haround with
            ⟨hsearched, hinner⟩
          rw [Path.below_concat]
          exact .entry hsearched hinner (Keyed.mem_of_get? _ name _ hchild) hruleset.1 hruleset.2
  · rintro ⟨hsearched, hlisted, hentry, hother, hend⟩
    rcases exists_place_of_searched hlawful dir entries hread _ hsearched with
      ⟨front, inner, rfl, hinner⟩
    have hsame := eq_of_readDirectory_below hlawful dir entries hread front inner hinner _ hlisted
    subst hsame
    refine ⟨_, ?_, Path.below_concat dir front _⟩
    rw [mem_rulesets_at?_iff generator entries hnamed]
    refine ⟨_, ⟨List.append_ne_nil_of_right_ne_nil _ (List.cons_ne_nil _ _),
      at?_of_mem hlawful dir entries hread front _ hinner _ _ hentry⟩, ?_⟩
    rw [isRuleset, hother, List.getLast?_concat]
    exact hend

/-- Where no directory fails to be read, no path is too long. -/
theorem tooDeep?_of_readable (hreadable : Readable disk dir) : tooDeep? dir entries = none := by
  rw [tooDeep?_eq_none_iff_at? dir entries (wellNamed_of_readDirectory hlawful dir entries hread)]
  intro location inner _ hinner
  have hlisted := (searched_of_place hlawful dir entries hread hreadable location inner hinner).2
  rw [readDirectory_below hlawful dir entries hread location inner hinner] at hlisted
  by_contra hlong
  rw [if_pos (Nat.not_le.mp hlong)] at hlisted
  exact absurd hlisted (by simp only [reduceCtorEq, not_false_eq_true])

/-- Rulesets are found in the order of their paths. -/
theorem pairwise_find :
    ((generator.rulesets entries).map (Path.below dir)).Pairwise Path.Precedes := by
  have hnamed := wellNamed_of_readDirectory hlawful dir entries hread
  have hnames : ∀ location ∈ generator.rulesets entries, ∀ name ∈ location, IsEntryName name := by
    intro location hmem
    rcases (mem_rulesets_at?_iff generator entries hnamed location).mp hmem with
      ⟨node, ⟨_, hnode⟩, _⟩
    exact hnamed.isEntryName location node hnode
  rw [List.pairwise_map]
  refine (pairwise_rulesets generator entries hnamed).imp_of_mem fun hfirst hsecond hless => ?_
  exact Path.precedes_below dir _ _ (hnames _ hfirst) (hnames _ hsecond) hless

end Searched

/-- A search finds something only where no directory fails to be read. -/
theorem readable_of_find (generator : Generator) {disk : Disk} (hlawful : disk.Lawful) (dir : Path)
    (paths : List Path) (h : generator.find disk dir = .ok paths) : Readable disk dir := by
  rcases (find_eq_ok_iff_read generator disk dir paths).mp h with ⟨entries, hread, hdeep, _⟩
  intro path hsearched
  rcases exists_place_of_searched hlawful dir entries hread path hsearched with
    ⟨location, inner, rfl, hinner⟩
  by_cases hlocation : location = []
  · exact ⟨entries, by rw [hlocation]; exact hread⟩
  · rw [tooDeep?_eq_none_iff_at? dir entries
      (wellNamed_of_readDirectory hlawful dir entries hread)] at hdeep
    have hshort := hdeep location inner hlocation hinner
    exact ⟨inner, by rw [readDirectory_below hlawful dir entries hread location inner hinner,
      if_neg (Nat.not_lt.mpr hshort)]⟩

/-- A search finds the same on two disks with the same at every place. -/
theorem find_same (generator : Generator) {disk other : Disk} (hdisk : disk.Lawful)
    (hother : other.Lawful) (hcwd : other.cwd = disk.cwd)
    (hsame : ∀ location, other.item? location = disk.item? location) (dir : Path)
    (paths : List Path) (h : generator.find disk dir = .ok paths) :
    generator.find other dir = .ok paths := by
  rcases (find_eq_ok_iff_read generator disk dir paths).mp h with ⟨entries, hread, hdeep, rfl⟩
  rcases readDirectory_same disk other hcwd hsame dir entries hread with
    ⟨home, entries', hhome, hhome', hread'⟩
  refine (find_eq_ok_iff_read generator other dir _).mpr ⟨entries', hread', ?_, ?_⟩
  · rw [tooDeep?_eq_none_iff hdisk.named dir home entries hhome] at hdeep
    rw [tooDeep?_eq_none_iff hother.named dir home entries' hhome']
    exact fun location hne hdirectory => hdeep location hne (by rw [← hsame]; exact hdirectory)
  · -- Both lists ascend and hold the same places.
    refine congrArg _ (eq_of_pairwise_lt _ _ ?_ ?_ fun location => ?_)
    · exact pairwise_rulesets generator entries' (Node.Everywhere.at? hother.named _ _ hhome')
    · exact pairwise_rulesets generator entries (Node.Everywhere.at? hdisk.named _ _ hhome)
    · rw [mem_rulesets_iff generator hother.named home entries' hhome',
        mem_rulesets_iff generator hdisk.named home entries hhome]
      simp only [RulesetAt, hsame]

/-- On every disk with any symbolic links, the search as a recursion comes to its end, and
    `Generator.find` gives what it collects. If no directory fails to be read, and only then, paths
    are found. They are those of the entries with the suffix that are no directories, in the
    directory that is searched and in all directories below, each once and in the order of their
    components. Another disk that holds the same, but lists it in another order, gives the same
    paths. -/
theorem find_exactly_rulesets (generator : Generator) (disk : Disk) (hlawful : disk.Lawful)
    (dir : Path) :
    (∃ outcome, Settles (fun depth => collect generator.batch.rulesetSuffix disk depth dir [])
        outcome ∧
      ((∃ error, outcome = .error error ∧ generator.find disk dir = .error error) ∨
        ∃ found paths, outcome = .ok found ∧ generator.find disk dir = .ok paths ∧
          paths.Perm found)) ∧
    (Readable disk dir → ∃ paths, generator.find disk dir = .ok paths ∧
      (∀ path, path ∈ paths ↔ FoundIn generator.batch.rulesetSuffix disk dir path) ∧
      paths.Nodup ∧ paths.Pairwise Path.Precedes) ∧
    ∀ paths, generator.find disk dir = .ok paths → Readable disk dir ∧
      ∀ other : Disk, other.Lawful → other.cwd = disk.cwd →
        (∀ location, other.item? location = disk.item? location) →
          generator.find other dir = .ok paths := by
  refine ⟨collect_settles generator hlawful dir, fun hreadable => ?_, fun paths hfind => ⟨?_, ?_⟩⟩
  · rcases hreadable dir .start with ⟨entries, hread⟩
    have hdeep := tooDeep?_of_readable hlawful dir entries hread hreadable
    have hordered := pairwise_find generator hlawful dir entries hread
    refine ⟨(generator.rulesets entries).map (Path.below dir), ?_,
      mem_find_iff generator hlawful dir entries hread hreadable, ?_, hordered⟩
    · exact (find_eq_ok_iff_read generator disk dir _).mpr ⟨entries, hread, hdeep, rfl⟩
    · exact hordered.imp fun hless => Path.ne_of_precedes _ _ hless
  · exact readable_of_find generator hlawful dir paths hfind
  · intro other hother hcwd hsame
    exact find_same generator hlawful hother hcwd hsame dir paths hfind

/-- A disk with links that lead up or nowhere, and with a name that is the beginning of another. -/
def tangled : Disk where
  root := .directory [("rules", .directory
    [("a-b", .directory [("x-ruleset.yaml", .file (.text "# Section: B\n"))]),
      ("a", .directory [("x-ruleset.yaml", .file (.text "# Section: A\n")),
        ("again-ruleset.yaml", .link ".."), ("up", .link "../..")]),
      ("gone-ruleset.yaml", .link "nowhere"), ("notes", .file (.text ""))])]
  cwd := []

/-- The same disk with its directories listed the other way round. -/
def relisted : Disk where
  root := .directory [("rules", .directory
    [("notes", .file (.text "")), ("gone-ruleset.yaml", .link "nowhere"),
      ("a", .directory [("up", .link "../.."), ("again-ruleset.yaml", .link ".."),
        ("x-ruleset.yaml", .file (.text "# Section: A\n"))]),
      ("a-b", .directory [("x-ruleset.yaml", .file (.text "# Section: B\n"))])])]
  cwd := []

theorem tangled_lawful : tangled.Lawful :=
  ⟨Node.everywhere_of_nodes _ _ (by decide), Node.everywhere_of_nodes _ _ (by decide)⟩

theorem relisted_lawful : relisted.Lawful :=
  ⟨Node.everywhere_of_nodes _ _ (by decide), Node.everywhere_of_nodes _ _ (by decide)⟩

theorem find_exactly_rulesets_tangled :
    let found : List Path := ["rules/a/again-ruleset.yaml", "rules/a/x-ruleset.yaml",
      "rules/a-b/x-ruleset.yaml", "rules/gone-ruleset.yaml"]
    tangled.Lawful ∧ Readable tangled "rules" ∧
      (ofSettings {}).find tangled "rules" = .ok found ∧
      (∀ path, path ∈ found ↔ FoundIn "-ruleset.yaml" tangled "rules" path) ∧
      found.Pairwise Path.Precedes ∧
      relisted.Lawful ∧ (∀ location, relisted.item? location = tangled.item? location) ∧
      (ofSettings {}).find relisted "rules" = .ok found := by
  intro found
  have hfind : (ofSettings {}).find tangled "rules" = .ok found := by decide +kernel
  have hsame : ∀ location, relisted.item? location = tangled.item? location :=
    Node.item?_eq_of_perm _ _ relisted_lawful.named tangled_lawful.named (by decide +kernel)
  rcases find_exactly_rulesets (ofSettings {}) tangled tangled_lawful "rules" with
    ⟨_, hexactly, hfound⟩
  rcases hfound found hfind with ⟨hreadable, horder⟩
  rcases hexactly hreadable with ⟨paths, hpaths, hmem, _, hordered⟩
  obtain rfl : found = paths := Except.ok.inj (hfind.symm.trans hpaths)
  exact ⟨tangled_lawful, hreadable, hfind, hmem, hordered, relisted_lawful, hsame,
    horder relisted relisted_lawful rfl hsame⟩

end Generator

end StyleGuide
