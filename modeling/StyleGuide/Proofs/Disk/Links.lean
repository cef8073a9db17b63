import StyleGuide.Proofs.Disk.Operations

/-!
# Writing a file through links

What writing a text under a path changes on any disk, symbolic links included, and that the text is
found under the path afterwards.

The place that is written to is where the walk over the segments ends, and a link on the way sends
the walk elsewhere with more segments. Reading the file again is a second walk, on the disk after
the write and with the rule for reading at its end. Both walks look at kinds of nodes only. There
the two disks differ at one place, and the first walk has met nothing there but its end: a name that
was missing, or a file. Any step before the end is therefore the same in the second walk, and where
the first ended the second ends on the new file.

## Main definitions

* `Node.IsOpen`: No directory and no link stands at a place.
* `Ends`: What a walk comes to at its end.
* `WalkStep`: What a walk does at its first segment.
* `OnlyWritten`: One file has been written and nothing else has changed.

## Theorems

* `walkStep`: A walk that leads somewhere does one of these things.
* `ends_of_walk`: What stands where a walk ends.
* `grows_of_write`, `walk_write`: After a write the walk ends on the new file.
* `exists_place_of_writeText`: Where a text is written to.
* `onlyWritten_of_writeText`: Writing writes one file, through all links.
-/

namespace StyleGuide

namespace Disk

/-- Neither a directory nor a link stands at a place: it is free, or a file is there. -/
def Node.IsOpen (root : Node) (place : Location) : Prop :=
  root.item? place = none ∨ ∃ content, root.item? place = some (.file content)

theorem Node.IsOpen.ne_directory {root : Node} {place : Location} (h : root.IsOpen place) :
    root.item? place ≠ some .directory := by
  rcases h with hnone | ⟨content, hfile⟩
  · rw [hnone]
    simp only [ne_eq, reduceCtorEq, not_false_eq_true]
  · rw [hfile]
    simp only [ne_eq, Option.some.injEq, reduceCtorEq, not_false_eq_true]

/-- What a walk comes to at its end: a directory, or a file or a missing name in one. -/
inductive Ends (root : Node) : Target → Prop where
  | directory (place : Location) (h : root.item? place = some .directory) :
      Ends root (.present place)
  | file (parent : Location) (name : Text) (content : Content)
      (hparent : root.item? parent = some .directory)
      (h : root.item? (parent ++ [name]) = some (.file content)) :
      Ends root (.present (parent ++ [name]))
  | missing (parent : Location) (name : Text) (hparent : root.item? parent = some .directory)
      (h : root.item? (parent ++ [name]) = none) : Ends root (.absent parent name)

section Walk

variable (expand : Location → List Text → Except Fault Target) (root : Node) (ending : Ending)
variable (here : Location) (segment : Text) (rest : List Text)

/-- A walk over segments starts in a directory. -/
theorem directory_of_walkBy (target : Target)
    (h : walkBy expand root ending here (segment :: rest) = .ok target) :
    root.item? here = some .directory := by
  rw [walkBy_cons] at h
  by_contra hhere
  rw [if_pos hhere] at h
  exact absurd h (by simp only [reduceCtorEq, not_false_eq_true])

end Walk

/-- What a walk does at its first segment, if it leads somewhere: it passes on to a directory or to a
    file, it ends at a missing name, or it goes on behind a link. -/
inductive WalkStep (expand : Location → List Text → Except Fault Target) (root : Node)
    (ending : Ending) (here : Location) : Text → List Text → Target → Prop where
  | passes {segment : Text} {rest : List Text} {target : Target} (there : Location)
      (hpasses : Passes root here segment there)
      (hlink : ∀ linked, root.item? there ≠ some (.link linked))
      (hrest : walkBy expand root ending there rest = .ok target) :
      WalkStep expand root ending here segment rest target
  | misses {name : Text} (h : Misses root here name) :
      WalkStep expand root ending here name [] (.absent here name)
  | expands {segment : Text} {rest : List Text} {target : Target} (linked : Path)
      (hpasses : Passes root here segment (here ++ [segment]))
      (hstay : segment ≠ Path.here) (hup : segment ≠ Path.above)
      (hitem : root.item? (here ++ [segment]) = some (.link linked)) (hne : linked ≠ [])
      (hrest : expand (startOf linked here) (segmentsOf linked ++ rest) = .ok target) :
      WalkStep expand root ending here segment rest target

theorem walkStep (expand : Location → List Text → Except Fault Target) (root : Node)
    (ending : Ending) (hending : ending ≠ .link) (here : Location) (segment : Text)
    (rest : List Text) (target : Target)
    (h : walkBy expand root ending here (segment :: rest) = .ok target) :
    WalkStep expand root ending here segment rest target := by
  have hhere := directory_of_walkBy expand root ending here segment rest target h
  have hdirectory : ∀ there, root.item? there = some .directory →
      ∀ linked, root.item? there ≠ some (.link linked) := by
    intro there hthere linked
    rw [hthere]
    simp only [ne_eq, Option.some.injEq, reduceCtorEq, not_false_eq_true]
  -- The cases are the tests of the recursion, in its order.
  rw [walkBy_cons, if_neg (not_not.mpr hhere)] at h
  by_cases hstay : segment = Path.here
  · rw [if_pos hstay] at h
    exact .passes here (hstay ▸ .stay hhere) (hdirectory here hhere) h
  rw [if_neg hstay] at h
  by_cases hup : segment = Path.above
  · rw [if_pos hup] at h
    exact .passes here.dropLast (hup ▸ .up hhere)
      (hdirectory _ (root.item?_dropLast here hhere)) h
  rw [if_neg hup] at h
  by_cases hlong : nameLimit < segment.utf8Size
  · rw [if_pos hlong] at h
    exact absurd h (by simp only [reduceCtorEq, not_false_eq_true])
  rw [if_neg hlong] at h
  have hshort := Nat.not_lt.mp hlong
  cases hitem : root.item? (here ++ [segment]) with
  | none =>
      simp only [hitem] at h
      cases rest with
      | nil =>
          rw [List.isEmpty_nil, if_pos rfl, Except.ok.injEq] at h
          rw [← h]
          exact .misses ⟨hhere, hstay, hup, hshort, hitem⟩
      | cons next rest =>
          rw [List.isEmpty_cons, if_neg Bool.false_ne_true] at h
          exact absurd h (by simp only [reduceCtorEq, not_false_eq_true])
  | some item =>
      have hpasses : Passes root here segment (here ++ [segment]) :=
        .entry segment hhere hstay hup hshort (by rw [hitem]; rfl)
      simp only [hitem] at h
      cases item with
      | directory => exact .passes _ hpasses (hdirectory _ hitem) h
      | file content =>
          refine .passes _ hpasses (fun linked => ?_) h
          rw [hitem]
          simp only [ne_eq, Option.some.injEq, reduceCtorEq, not_false_eq_true]
      | link linked =>
          dsimp only at h
          have hlast : ¬ (rest.isEmpty && decide (ending = .link)) = true := by
            simp only [hending, decide_false, Bool.and_false, Bool.false_eq_true,
              not_false_eq_true]
          rw [if_neg hlast] at h
          by_cases hempty : linked.isEmpty = true
          · rw [if_pos hempty] at h
            exact absurd h (by simp only [reduceCtorEq, not_false_eq_true])
          rw [if_neg hempty] at h
          rw [List.isEmpty_iff] at hempty
          split at h
          · -- A file is to be made under a path that asks for a directory.
            cases hexpand : expand (startOf linked here) (segmentsAround linked) <;>
              rw [hexpand] at h <;>
              exact absurd h (by simp only [bind, Except.bind, reduceCtorEq, not_false_eq_true])
          · exact .expands linked hpasses hstay hup hitem hempty h

section Onward

variable (expand : Location → List Text → Except Fault Target) (root : Node) (ending : Ending)
variable (here there : Location) (segment : Text) (rest : List Text)

theorem walkBy_of_passes (hpasses : Passes root here segment there)
    (hlink : ∀ linked, root.item? there ≠ some (.link linked)) :
    walkBy expand root ending here (segment :: rest) = walkBy expand root ending there rest := by
  rw [walkBy_cons, if_neg (not_not.mpr hpasses.around)]
  cases hpasses with
  | stay => rw [if_pos rfl]
  | up => rw [if_neg (by decide), if_pos rfl]
  | entry _ _ hstay hup hshort hsome =>
      rw [if_neg hstay, if_neg hup, if_neg (Nat.not_lt.mpr hshort)]
      rcases Option.isSome_iff_exists.mp hsome with ⟨item, hitem⟩
      rw [hitem]
      cases item with
      | file | directory => rfl
      | link linked => exact absurd hitem (hlink linked)

theorem walkBy_of_link (linked : Path) (hpasses : Passes root here segment (here ++ [segment]))
    (hstay : segment ≠ Path.here) (hup : segment ≠ Path.above)
    (hitem : root.item? (here ++ [segment]) = some (.link linked)) (hne : linked ≠ []) :
    walkBy expand root .target here (segment :: rest) =
      expand (startOf linked here) (segmentsOf linked ++ rest) := by
  have hshort : segment.utf8Size ≤ nameLimit := by
    generalize here ++ [segment] = there at hpasses
    cases hpasses with
    | stay => exact absurd rfl hstay
    | up => exact absurd rfl hup
    | entry _ _ _ _ hshort => exact hshort
  have hnonempty : ¬ linked.isEmpty = true := by
    rw [List.isEmpty_iff]
    exact hne
  rw [walkBy_cons, if_neg (not_not.mpr hpasses.around), if_neg hstay, if_neg hup,
    if_neg (Nat.not_lt.mpr hshort), hitem]
  dsimp only
  rw [if_neg (by simp only [reduceCtorEq, decide_false, Bool.and_false, Bool.false_eq_true,
    not_false_eq_true]), if_neg hnonempty, if_neg (by simp only [reduceCtorEq, decide_false,
    Bool.and_false, Bool.false_and, Bool.false_eq_true, not_false_eq_true])]

end Onward

/-! ### Where a walk ends -/

/-- A link that is not empty leads over segments. -/
theorem segmentsOf_ne_nil (path : Path) (hne : path ≠ []) : segmentsOf path ≠ [] := by
  rw [segmentsOf]
  cases hslash : Path.wantsDirectory path with
  | true => exact List.append_ne_nil_of_right_ne_nil _ (List.cons_ne_nil _ _)
  | false =>
      rcases Path.exists_last_segment path hne hslash with ⟨front, last, hsegments, _⟩
      rw [hsegments]
      exact List.append_ne_nil_of_left_ne_nil
        (List.append_ne_nil_of_right_ne_nil _ (List.cons_ne_nil _ _)) _

theorem ends_of_walkBy (expand : Location → List Text → Except Fault Target) (root : Node)
    (ending : Ending) (hending : ending ≠ .link)
    (hexpand : ∀ here segments target, segments ≠ [] → expand here segments = .ok target →
      Ends root target)
    (here : Location) (segments : List Text) (target : Target) (hne : segments ≠ [])
    (h : walkBy expand root ending here segments = .ok target) : Ends root target := by
  induction segments generalizing here with
  | nil => exact absurd rfl hne
  | cons segment rest ih =>
      cases walkStep expand root ending hending here segment rest target h with
      | misses hmisses => exact .missing here segment hmisses.around hmisses.missing
      | expands linked _ _ _ _ hlinked hrest =>
          exact hexpand _ _ target (List.append_ne_nil_of_left_ne_nil
            (segmentsOf_ne_nil linked hlinked) _) hrest
      | passes there hpasses hlink hrest =>
          cases rest with
          | cons next rest => exact ih there (List.cons_ne_nil _ _) hrest
          | nil =>
              rw [walkBy, Except.ok.injEq] at hrest
              rw [← hrest]
              cases hpasses with
              | stay hhere => exact .directory here hhere
              | up hhere => exact .directory _ (root.item?_dropLast here hhere)
              | entry _ hhere _ _ _ hsome =>
                  rcases Option.isSome_iff_exists.mp hsome with ⟨item, hitem⟩
                  cases item with
                  | directory => exact .directory _ hitem
                  | file content => exact .file here segment content hhere hitem
                  | link linked => exact absurd hitem (hlink linked)

theorem ends_of_walk (root : Node) (ending : Ending) (hending : ending ≠ .link) (links : Nat)
    (here : Location) (segments : List Text) (target : Target) (hne : segments ≠ [])
    (h : walk root ending links here segments = .ok target) : Ends root target := by
  induction links generalizing here segments target with
  | zero =>
      refine ends_of_walkBy _ root ending hending (fun _ _ _ _ hfault => ?_) here segments target
        hne h
      exact absurd hfault (by simp only [reduceCtorEq, not_false_eq_true])
  | succ links ih => exact ends_of_walkBy _ root ending hending ih here segments target hne h

/-! ### The walk after a write -/

section Write

variable {before after : Node} {place : Location} {content : Content}
variable (hopen : before.IsOpen place) (hafter : after.item? place = some (.file content))
variable (hothers : ∀ other, other ≠ place → after.item? other = before.item? other)

include hopen hafter hothers

/-- A write at an open place leaves directories directories and takes nothing away. -/
theorem grows_of_write : before.Grows after := by
  constructor
  · intro other hother
    have hne : other ≠ place := fun heq => hopen.ne_directory (heq ▸ hother)
    rw [hothers other hne, hother]
  · intro other hother
    by_cases hplace : other = place
    · rw [hplace, hafter]
      rfl
    · rw [hothers other hplace]
      exact hother

/-- Where a walk has ended before a write to its end, it ends on the new file afterwards. -/
theorem walkBy_write (expand expand' : Location → List Text → Except Fault Target)
    (hexpand : ∀ here segments target, expand here segments = .ok target →
      target.place = place → expand' here segments = .ok (.present place))
    (here : Location) (segments : List Text) (target : Target)
    (h : walkBy expand before .file here segments = .ok target) (htarget : target.place = place) :
    walkBy expand' after .target here segments = .ok (.present place) := by
  have hgrows := grows_of_write hopen hafter hothers
  -- At the place of the write there is a file in the end, and links elsewhere are as they were.
  have hlinks : ∀ there, (∀ linked, before.item? there ≠ some (.link linked)) →
      ∀ linked, after.item? there ≠ some (.link linked) := by
    intro there hthere linked
    by_cases hplace : there = place
    · rw [hplace, hafter]
      simp only [ne_eq, Option.some.injEq, reduceCtorEq, not_false_eq_true]
    · rw [hothers there hplace]
      exact hthere linked
  induction segments generalizing here with
  | nil =>
      rw [walkBy, Except.ok.injEq] at h
      rw [walkBy, ← htarget, ← h]
      rfl
  | cons segment rest ih =>
      cases walkStep expand before .file (by decide) here segment rest target h with
      | passes there hpasses hlink hrest =>
          rw [walkBy_of_passes expand' after .target here there segment rest (hpasses.grows hgrows)
            (hlinks there hlink)]
          exact ih there hrest
      | expands linked hpasses hstay hup hitem hne hrest =>
          have hother : here ++ [segment] ≠ place := by
            intro heq
            rw [heq] at hitem
            rcases hopen with hnone | ⟨old, hfile⟩
            · rw [hnone] at hitem
              exact absurd hitem (by simp only [reduceCtorEq, not_false_eq_true])
            · rw [hfile] at hitem
              exact absurd hitem (by simp only [Option.some.injEq, reduceCtorEq,
                not_false_eq_true])
          rw [walkBy_of_link expand' after here segment rest linked (hpasses.grows hgrows) hstay hup
            (by rw [hothers _ hother, hitem]) hne]
          exact hexpand _ _ target hrest htarget
      | misses hmisses =>
          -- The name that was missing is that of the new file.
          rw [Target.place] at htarget
          have hpasses : Passes after here segment (here ++ [segment]) :=
            .entry segment (hgrows.directory here hmisses.around) hmisses.notHere hmisses.notAbove
              hmisses.short (by rw [htarget, hafter]; rfl)
          have hlink : ∀ linked, after.item? (here ++ [segment]) ≠ some (.link linked) := by
            refine hlinks _ fun linked => ?_
            rw [hmisses.missing]
            simp only [ne_eq, reduceCtorEq, not_false_eq_true]
          rw [walkBy_of_passes expand' after .target here _ segment [] hpasses hlink, walkBy,
            htarget]

theorem walk_write (links : Nat) (here : Location) (segments : List Text) (target : Target)
    (h : walk before .file links here segments = .ok target) (htarget : target.place = place) :
    walk after .target links here segments = .ok (.present place) := by
  induction links generalizing here segments target with
  | zero =>
      refine walkBy_write hopen hafter hothers _ _ (fun _ _ _ hfault => ?_) here segments target h
        htarget
      exact absurd hfault (by simp only [reduceCtorEq, not_false_eq_true])
  | succ links ih =>
      exact walkBy_write hopen hafter hothers _ _ ih here segments target h htarget

end Write

/-! ### Writing -/

/-- The file under a path has been written and holds a text, and nothing else has changed. -/
structure OnlyWritten (path : Path) (text : Text) (disk after : Disk) : Prop where
  /-- What is read under the path is the text. -/
  content : after.readText path = .ok text
  /-- Every other place than the one that the path leads to is as it was. -/
  others : ∃ place, after.resolve .target path = .ok (.present place) ∧
    ∀ other, other ≠ place → after.item? other = disk.item? other

/-- Where a file can be written, an open place in a directory is written to. -/
theorem exists_place_of_writeText (disk after : Disk) (path : Path) (text : Text)
    (h : disk.writeText path text = .ok after) :
    checkPath path = .ok () ∧ ∃ target parent name,
      disk.resolve .file path = .ok target ∧ target.place = parent ++ [name] ∧
        disk.item? parent = some .directory ∧ disk.root.IsOpen (parent ++ [name]) ∧
        after = disk.putAt (parent ++ [name]) (.file (.text text)) := by
  rw [writeText] at h
  cases hcheck : checkPath path with
  | error fault =>
      rw [hcheck] at h
      exact absurd h (by simp only [bind, Except.bind, reduceCtorEq, not_false_eq_true])
  | ok =>
      rw [hcheck] at h
      simp only [bind, Except.bind] at h
      refine ⟨rfl, ?_⟩
      split at h
      · -- The path asks for a directory.
        split at h <;> exact absurd h (by simp only [reduceCtorEq, not_false_eq_true])
      · have hne := segmentsOf_ne_nil path (ne_nil_of_checkPath path hcheck)
        cases hresolve : disk.resolve .file path with
        | error fault =>
            rw [hresolve] at h
            exact absurd h (by simp only [reduceCtorEq, not_false_eq_true])
        | ok target =>
            rw [hresolve] at h
            have hwalk := hresolve
            rw [resolve, hcheck] at hwalk
            have hends := ends_of_walk disk.root .file (by decide) linkLimit _ _ target hne hwalk
            cases hends with
            | directory place hdirectory =>
                rcases (disk.root.item?_eq_directory_iff place).mp hdirectory with
                  ⟨entries, hentries⟩
                simp only [hentries, reduceCtorEq] at h
            | file parent name content hparent hfile =>
                rw [Node.item?_eq_file_iff] at hfile
                simp only [hfile, Except.ok.injEq] at h
                exact ⟨_, parent, name, rfl, rfl, hparent,
                  Or.inr ⟨content, (disk.root.item?_eq_file_iff _ _).mpr hfile⟩, h.symm⟩
            | missing parent name hparent hnone =>
                simp only [Except.ok.injEq] at h
                exact ⟨_, parent, name, rfl, rfl, hparent, Or.inl hnone, h.symm⟩

/-- Writing writes one file, through all links. -/
theorem onlyWritten_of_writeText (disk after : Disk) (path : Path) (text : Text)
    (h : disk.writeText path text = .ok after) : OnlyWritten path text disk after := by
  rcases exists_place_of_writeText disk after path text h with
    ⟨hcheck, target, parent, name, hresolve, htarget, hparent, hopen, rfl⟩
  have hitem : ∀ other, (disk.putAt (parent ++ [name]) (.file (.text text))).item? other =
      if other = parent ++ [name] then some (.file (.text text)) else disk.item? other :=
    fun other => Node.item?_putAt disk.root (.file (.text text)) parent name other hparent
      hopen.ne_directory rfl
  have hfile := hitem (parent ++ [name])
  rw [if_pos rfl] at hfile
  have hothers : ∀ other, other ≠ parent ++ [name] →
      (disk.putAt (parent ++ [name]) (.file (.text text))).item? other = disk.item? other :=
    fun other hother => (hitem other).trans (if_neg hother)
  -- Reading walks the way that writing has walked.
  have hread : (disk.putAt (parent ++ [name]) (.file (.text text))).resolve .target path =
      .ok (.present (parent ++ [name])) := by
    rw [resolve, hcheck] at hresolve ⊢
    exact walk_write hopen hfile hothers linkLimit _ _ target hresolve htarget
  refine ⟨?_, parent ++ [name], hread, hothers⟩
  rw [item?, Node.item?_eq_file_iff] at hfile
  rw [readText, lookup, hread]
  simp only [bind, Except.bind, hfile]

end Disk

end StyleGuide
