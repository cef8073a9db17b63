import StyleGuide.Proofs.Disk.Links
import StyleGuide.Proofs.Disk.Nodes

/-!
# Reading directories further down

What is read under the path of a directory that stands below another one.

A search reads the directory it is given, and then every directory below by a path that is made of
the first one and of names. The first path may go through links, and how many are left is not seen
from its end. But what comes behind it are names of directories, and they need none: where the walk
over the first path has ended, it goes on to the directory below. So reading it gives what the tree
holds there, unless the path has become too long.

Walks look at kinds of nodes only. On two disks with the same at every place they are the same.

## Main definitions

* `Disk.Lawful`: A disk as a file system holds it.

## Theorems

* `readDirectory_iff`: What reading a directory needs.
* `walkBy_names`, `walk_descend`: Names of directories lead further down.
* `readDirectory_below`: What is read further down.
* `readDirectory_same`: Disks with the same at every place.
-/

namespace StyleGuide

namespace Disk

/-- A disk as a file system holds it: no name stands twice in a directory, every name leads to its
    entry, and none holds the character zero. Symbolic links may stand and lead anywhere. -/
structure Lawful (disk : Disk) : Prop where
  named : disk.root.WellNamed
  noZero : disk.root.Everywhere fun node => ∀ name ∈ node.names, Char.ofNat 0 ∉ name

/-! ### What the system accepts -/

theorem zero_not_mem_of_checkPath (path : Path) (h : checkPath path = .ok ()) :
    Char.ofNat 0 ∉ path := by
  intro hmem
  rw [checkPath, if_pos (List.contains_iff_mem.mpr hmem)] at h
  exact absurd h (by simp only [reduceCtorEq, not_false_eq_true])

/-- What reading a directory needs. -/
theorem readDirectory_iff (disk : Disk) (path : Path) (entries : List (Text × Node)) :
    disk.readDirectory path = .ok entries ↔ checkPath path = .ok () ∧ ∃ home,
      walk disk.root .target linkLimit (startOf path disk.cwd) (segmentsOf path) =
        .ok (.present home) ∧ disk.root.at? home = some (.directory entries) := by
  rw [readDirectory, lookup, resolve]
  cases checkPath path with
  | error fault => simp only [bind, Except.bind, reduceCtorEq, false_and]
  | ok =>
      simp only [bind, Except.bind, true_and]
      cases walk disk.root .target linkLimit (startOf path disk.cwd) (segmentsOf path) with
      | error fault => simp only [reduceCtorEq, false_and, exists_false]
      | ok target =>
          cases target with
          | absent parent name => simp only [Except.ok.injEq, reduceCtorEq, false_and, exists_false]
          | present home =>
              simp only [Except.ok.injEq, Target.present.injEq, exists_eq_left']
              cases disk.root.at? home with
              | none => simp only [reduceCtorEq]
              | some found =>
                  cases found with
                  | file | link => simp only [Option.some.injEq, reduceCtorEq]
                  | directory inner =>
                      simp only [Except.ok.injEq, Option.some.injEq, Node.directory.injEq]

/-! ### Further down -/

/-- Above a directory there are only directories. -/
theorem item?_of_append (root : Node) (front back : Location)
    (h : root.item? (front ++ back) = some .directory) : root.item? front = some .directory := by
  induction back using List.reverseRecOn with
  | nil => rwa [List.append_nil] at h
  | append_singleton back name ih =>
      rw [← List.append_assoc] at h
      have hback := root.item?_dropLast _ h
      rw [List.dropLast_concat] at hback
      exact ih hback

section Descend

variable (root : Node) (home names : Location) (hnames : ∀ name ∈ names, IsEntryName name)
  (hdirectory : root.item? (home ++ names) = some .directory)

include hnames hdirectory

/-- Names of directories lead further down, without any link. -/
theorem walkBy_names (expand : Location → List Text → Except Fault Target) :
    walkBy expand root .target home names = .ok (.present (home ++ names)) := by
  induction names generalizing home with
  | nil => rw [walkBy, List.append_nil]
  | cons name rest ih =>
      have hname := hnames name List.mem_cons_self
      rw [List.append_cons] at hdirectory ⊢
      have hthere := item?_of_append root (home ++ [name]) rest hdirectory
      have hpasses : Passes root home name (home ++ [name]) :=
        .entry name (item?_of_append root home [name] hthere) hname.notHere hname.notAbove
          hname.short (by rw [hthere]; rfl)
      rw [walkBy_of_passes expand root .target home _ name rest hpasses fun linked => by
        rw [hthere]
        simp only [ne_eq, Option.some.injEq, reduceCtorEq, not_false_eq_true]]
      exact ih (home ++ [name]) (fun other hother => hnames other (List.mem_cons_of_mem _ hother))
        hdirectory

/-- Where a walk has ended, it goes on over further names. A dot that it has ended in may be left
    out. -/
theorem walkBy_descend (expand : Location → List Text → Except Fault Target) (tail : List Text)
    (htail : tail = [] ∨ tail = [Path.here])
    (hexpand : ∀ here front, expand here (front ++ tail) = .ok (.present home) →
      expand here (front ++ names) = .ok (.present (home ++ names)))
    (here : Location) (front : List Text)
    (h : walkBy expand root .target here (front ++ tail) = .ok (.present home)) :
    walkBy expand root .target here (front ++ names) = .ok (.present (home ++ names)) := by
  induction front generalizing here with
  | nil =>
      -- Without further segments the walk has been at its end from the start.
      have hhere : here = home := by
        rcases htail with rfl | rfl
        · rwa [List.nil_append, walkBy, Except.ok.injEq, Target.present.injEq] at h
        · cases walkStep expand root .target (by decide) here Path.here [] _ h with
          | passes there hpasses _ hrest =>
              rw [walkBy, Except.ok.injEq, Target.present.injEq] at hrest
              cases hpasses with
              | stay => exact hrest
              | entry _ _ hstay => exact absurd rfl hstay
          | expands _ _ hstay => exact absurd rfl hstay
      rw [hhere]
      exact walkBy_names root home names hnames hdirectory expand
  | cons segment front ih =>
      rw [List.cons_append] at h ⊢
      generalize hbehind : front ++ tail = behind at h
      generalize htarget : Target.present home = target at h
      cases walkStep expand root .target (by decide) here segment behind target h with
      | misses => exact absurd htarget (by simp only [reduceCtorEq, not_false_eq_true])
      | passes there hpasses hlink hrest =>
          subst hbehind htarget
          rw [walkBy_of_passes expand root .target here there segment _ hpasses hlink]
          exact ih there hrest
      | expands linked hpasses hstay hup hitem hne hrest =>
          subst hbehind htarget
          rw [walkBy_of_link expand root here segment _ linked hpasses hstay hup hitem hne]
          rw [← List.append_assoc] at hrest ⊢
          exact hexpand _ _ hrest

theorem walk_descend (tail : List Text) (htail : tail = [] ∨ tail = [Path.here]) (links : Nat)
    (here : Location) (front : List Text)
    (h : walk root .target links here (front ++ tail) = .ok (.present home)) :
    walk root .target links here (front ++ names) = .ok (.present (home ++ names)) := by
  induction links generalizing here front with
  | zero =>
      refine walkBy_descend root home names hnames hdirectory _ tail htail ?_ here front h
      exact fun _ _ hfault => absurd hfault (by simp only [reduceCtorEq, not_false_eq_true])
  | succ links ih =>
      exact walkBy_descend root home names hnames hdirectory _ tail htail ih here front h

end Descend

/-! ### Reading further down -/

/-- A joined path has the characters of its parts, and perhaps a slash. -/
theorem mem_of_mem_join (c : Char) (base name : Path) (h : c ∈ Path.join base name) :
    c ∈ base ∨ c = '/' ∨ c ∈ name := by
  rw [Path.join] at h
  split at h
  · exact Or.inr (Or.inr h)
  · split at h
    · rcases List.mem_append.mp h with hbase | hname
      · exact Or.inl hbase
      · exact Or.inr (Or.inr hname)
    · rwa [List.mem_append, List.mem_cons] at h

theorem zero_not_mem_below (dir : Path) (location : Location) (hdir : Char.ofNat 0 ∉ dir)
    (h : ∀ name ∈ location, Char.ofNat 0 ∉ name) : Char.ofNat 0 ∉ Path.below dir location := by
  induction location using List.reverseRecOn with
  | nil => exact hdir
  | append_singleton location name ih =>
      rw [List.forall_mem_append] at h
      rw [Path.below_concat]
      intro hmem
      rcases mem_of_mem_join _ _ name hmem with hbase | hslash | hname
      · exact ih h.1 hbase
      · exact absurd hslash (by decide)
      · exact h.2 name (List.mem_singleton.mpr rfl) hname

/-- The path of a place below a directory ends in the last name. -/
theorem wantsDirectory_below (dir : Path) (location : Location) (hne : location ≠ [])
    (h : ∀ name ∈ location, IsEntryName name) :
    Path.wantsDirectory (Path.below dir location) = false := by
  rcases List.eq_nil_or_concat' location with hnil | ⟨front, name, rfl⟩
  · exact absurd hnil hne
  · have hname := h name List.mem_concat_self
    rw [Path.below_concat, Path.wantsDirectory_join _ name hname.nonempty, Path.wantsDirectory,
      beq_eq_false_iff_ne]
    intro hslash
    exact hname.noSlash (List.mem_of_getLast? hslash)

/-- Under the path of a directory below another one the system reads what the tree holds there,
    unless the path is too long for it. -/
theorem readDirectory_below {disk : Disk} (hlawful : disk.Lawful) (dir : Path)
    (entries : List (Text × Node)) (hread : disk.readDirectory dir = .ok entries)
    (location : Location) (inner : List (Text × Node))
    (hinner : (Node.directory entries).at? location = some (.directory inner)) :
    disk.readDirectory (Path.below dir location) =
      if pathLimit < (Path.below dir location).utf8Size then .error .nameTooLong
      else .ok inner := by
  rcases (readDirectory_iff disk dir entries).mp hread with ⟨hcheck, home, hwalk, hhome⟩
  have hat : disk.root.at? (home ++ location) = some (.directory inner) := by
    rw [Node.at?_append, hhome]
    exact hinner
  have hnames : ∀ name ∈ location, IsEntryName name := fun name hname =>
    hlawful.named.isEntryName _ _ hat name (List.mem_append_right home hname)
  have hzero : Char.ofNat 0 ∉ Path.below dir location := by
    refine zero_not_mem_below dir location (zero_not_mem_of_checkPath dir hcheck)
      fun name hname => ?_
    exact Node.forall_mem_of_at? _ _ _ hlawful.noZero _ hat name (List.mem_append_right home hname)
  have hsegments := Path.segments_below dir location hnames
  by_cases hlocation : location = []
  · -- The directory itself has been read.
    subst hlocation
    rw [Node.at?, Option.some.injEq, Node.directory.injEq] at hinner
    have hdir := checkPath_eq dir hzero (ne_nil_of_checkPath dir hcheck)
    have hshort : ¬ pathLimit < dir.utf8Size := by
      intro hlong
      rw [hcheck, if_pos hlong] at hdir
      exact absurd hdir (by simp only [reduceCtorEq, not_false_eq_true])
    rw [show Path.below dir [] = dir from rfl, if_neg hshort, hread, hinner]
  · have hne : Path.below dir location ≠ [] := by
      intro hnil
      rw [hnil] at hsegments
      exact hlocation (List.append_eq_nil_iff.mp hsegments.symm).2
    have hcheckBelow := checkPath_eq _ hzero hne
    by_cases hlong : pathLimit < (Path.below dir location).utf8Size
    · rw [if_pos hlong] at hcheckBelow ⊢
      rw [readDirectory, lookup, resolve, hcheckBelow]
      rfl
    · rw [if_neg hlong] at hcheckBelow ⊢
      refine (readDirectory_iff disk _ inner).mpr ⟨hcheckBelow, home ++ location, ?_, hat⟩
      rw [segmentsOf, wantsDirectory_below dir location hlocation hnames,
        if_neg Bool.false_ne_true, List.append_nil, hsegments, startOf,
        Path.isAbsolute_below dir location hnames, ← startOf]
      refine walk_descend disk.root home location hnames
        ((disk.root.item?_eq_directory_iff _).mpr ⟨inner, hat⟩) _ ?_ linkLimit _ _ hwalk
      cases Path.wantsDirectory dir with
      | false => exact Or.inl rfl
      | true => exact Or.inr rfl

/-! ### The same at every place -/

section Same

variable (a b : Node) (h : ∀ location, a.item? location = b.item? location)

include h

theorem walkBy_same (expand : Location → List Text → Except Fault Target) (ending : Ending)
    (here : Location) (segments : List Text) :
    walkBy expand a ending here segments = walkBy expand b ending here segments := by
  induction segments generalizing here with
  | nil => rfl
  | cons segment rest ih =>
      rw [walkBy_cons, walkBy_cons, h here, h (here ++ [segment]), ih here, ih here.dropLast,
        ih (here ++ [segment])]

/-- A walk looks at kinds of nodes only. -/
theorem walk_same (ending : Ending) (links : Nat) (here : Location) (segments : List Text) :
    walk a ending links here segments = walk b ending links here segments := by
  induction links generalizing here segments with
  | zero => exact walkBy_same a b h _ ending here segments
  | succ links ih =>
      have hexpand : walk a ending links = walk b ending links :=
        funext fun here => funext fun segments => ih here segments
      rw [walk, walk, hexpand]
      exact walkBy_same a b h _ ending here segments

end Same

/-- On two disks with the same at every place, a path that shows a directory on one of them shows
    the directory at the same place on the other. -/
theorem readDirectory_same (disk other : Disk) (hcwd : other.cwd = disk.cwd)
    (hsame : ∀ location, other.item? location = disk.item? location) (path : Path)
    (entries : List (Text × Node)) (hread : disk.readDirectory path = .ok entries) :
    ∃ home entries', disk.root.at? home = some (.directory entries) ∧
      other.root.at? home = some (.directory entries') ∧
        other.readDirectory path = .ok entries' := by
  rcases (readDirectory_iff disk path entries).mp hread with ⟨hcheck, home, hwalk, hhome⟩
  have hdirectory : other.root.item? home = some .directory := by
    rw [show other.root.item? home = disk.root.item? home from hsame home]
    exact (disk.root.item?_eq_directory_iff home).mpr ⟨entries, hhome⟩
  rcases (other.root.item?_eq_directory_iff home).mp hdirectory with ⟨entries', hhome'⟩
  refine ⟨home, entries', hhome, hhome', (readDirectory_iff other path entries').mpr ?_⟩
  refine ⟨hcheck, home, ?_, hhome'⟩
  rw [hcwd, walk_same other.root disk.root hsame]
  exact hwalk

end Disk

end StyleGuide
