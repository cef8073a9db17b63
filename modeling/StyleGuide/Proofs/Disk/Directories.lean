import StyleGuide.Proofs.Disk.Operations
import Mathlib.Data.List.Infix

/-!
# Making directories

What making a directory changes on a disk without symbolic links, with all directories above it and
also when it fails half way.

One directory is made exactly where its path leads to a missing name. Making those above it first is
a run of such changes, and each new directory is on the way that the path goes on the disk
afterwards. A run that succeeds ends with a directory where the path leads, and a path that leads to
one already changes nothing.

## Main definitions

* `LeadsToDirectory`: A path leads to a directory at a place.
* `MadeAlong`: Directories were made where some paths lead.

## Theorems

* `makeDirectory_eq_ok_iff`: Where one directory is made.
* `madeAlong_ensureDirectory`, `madeAlong_makeWithParents`: What the parts of making directories
  change.
* `leadsToDirectory_of_names_nil`: A path without names leads to where it starts.
* `makeDirectories_puts`: What making directories changes, also when it fails.
* `makeDirectories_of_directory`: Nothing is made where the directory is there.
-/

namespace StyleGuide

namespace Disk

/-- A path leads to a directory at a place. -/
def LeadsToDirectory (disk : Disk) (path : Path) (home : Location) : Prop :=
  disk.place? path = some home ∧ disk.item? home = some .directory

/-- The changes that put new directories at places. -/
def directoryPuts (places : List Location) : List (Location × Leaf) :=
  places.map (·, Leaf.directory)

/-- From `disk` to `after`, directories were made at free places to which some paths from `start`
    lead, and nothing else was done. -/
def MadeAlong (disk : Disk) (start : Location) (fronts : List Text → Prop) (after : Disk) : Prop :=
  ∃ places, Puts disk (directoryPuts places) after ∧ ∀ place ∈ places,
    ∃ front, fronts front ∧ follow after.root start front = .ok (.present place)

section Directories

variable {disk : Disk} (hplain : disk.root.Plain) (start : Location) (segments : List Text)

section Makes

include hplain

/-- A directory is made where a path leads to a missing name. -/
theorem makeDirectory_eq_ok_iff (after : Disk) : disk.makeDirectory start segments = .ok after ↔
    ∃ parent name, follow disk.root start segments = .ok (.absent parent name) ∧
      after = disk.putAt (parent ++ [name]) Node.empty := by
  rcases List.eq_nil_or_concat' segments with rfl | ⟨front, last, rfl⟩
  · simp only [makeDirectory, List.getLast?_nil, follow, reduceCtorEq, Except.ok.injEq, false_and,
      exists_false]
  · rw [makeDirectory, List.getLast?_concat]
    simp only [walk_eq_follow _ hplain, List.dropLast_concat]
    by_cases hdots : last = Path.here ∨ last = Path.above
    · -- A path that ends in a dot or goes up never ends in a missing name.
      rw [if_pos hdots]
      constructor
      · intro h
        cases hfollow : follow disk.root start (front ++ [Path.here]) with
        | error fault => simp only [hfollow, bind, Except.bind, reduceCtorEq] at h
        | ok target => cases target <;> simp only [hfollow, bind, Except.bind, reduceCtorEq] at h
      · rintro ⟨parent, name, hfollow, _⟩
        rcases exists_of_follow_concat _ _ _ _ _ hfollow with ⟨there, _, hlast⟩
        rcases directory_of_follow_singleton _ _ _ _ hdots hlast with ⟨_, _, habsent, _⟩
        exact absurd habsent (by simp only [reduceCtorEq, not_false_eq_true])
    · rw [if_neg hdots]
      cases follow disk.root start (front ++ [last]) with
      | error fault => simp only [bind, Except.bind, reduceCtorEq, false_and, exists_false]
      | ok target =>
          cases target with
          | present place => simp only [bind, Except.bind, reduceCtorEq, Except.ok.injEq, false_and,
              exists_false]
          | absent parent name =>
              simp only [bind, Except.bind, Except.ok.injEq, Target.absent.injEq]
              constructor
              · intro h
                exact ⟨parent, name, ⟨rfl, rfl⟩, h.symm⟩
              · rintro ⟨_, _, ⟨rfl, rfl⟩, h⟩
                exact h.symm

theorem leadsToDirectory_eq_true_iff : disk.leadsToDirectory start segments = true ↔
    ∃ home, follow disk.root start segments = .ok (.present home) ∧
      disk.item? home = some .directory := by
  rw [leadsToDirectory, walk_eq_follow _ hplain]
  cases follow disk.root start segments with
  | error fault => simp only [Bool.false_eq_true, reduceCtorEq, false_and, exists_false]
  | ok target =>
      cases target with
      | absent parent name =>
          simp only [Bool.false_eq_true, Except.ok.injEq, reduceCtorEq, false_and, exists_false]
      | present home =>
          simp only [Except.ok.injEq, Target.present.injEq, exists_eq_left', item?,
            Node.item?_eq_directory_iff]
          cases disk.root.at? home with
          | none => simp only [Option.any_none, Bool.false_eq_true, reduceCtorEq, exists_false]
          | some node =>
              cases node <;> simp only [Option.any_some, Node.isDirectory, Bool.false_eq_true,
                Option.some.injEq, reduceCtorEq, exists_false, Node.directory.injEq, exists_eq']

end Makes

/-- A missing name that a path leads to can be given to a directory, and then the path leads
    there. -/
theorem puttable_of_follow (hnames : ∀ segment ∈ segments, segment ≠ [] ∧ '/' ∉ segment)
    (parent : Location) (name : Text)
    (hfollow : follow disk.root start segments = .ok (.absent parent name)) :
    Puttable disk (parent ++ [name]) .directory ∧
      follow (disk.putAt (parent ++ [name]) Node.empty).root start segments =
        .ok (.present (parent ++ [name])) := by
  rcases misses_of_follow _ _ _ _ _ hfollow with ⟨hmem, hmisses⟩
  rcases hnames name hmem with ⟨hnonempty, hnoSlash⟩
  have hfree : disk.item? (parent ++ [name]) = none := hmisses.missing
  have hput : Puttable disk (parent ++ [name]) .directory := by
    refine ⟨⟨parent, name, rfl, hmisses.around, hnonempty, hnoSlash, hmisses.notHere,
      hmisses.notAbove, hmisses.short⟩, ?_, fun _ => hfree⟩
    rw [hfree]
    simp only [ne_eq, reduceCtorEq, not_false_eq_true]
  refine ⟨hput, ?_⟩
  -- The path leads to the same place as before, and nothing is missing there now.
  rcases follow_place _ _ hput.grows _ _ _ hfollow with ⟨later, hlater, hplace⟩
  cases later with
  | present there => exact hlater.trans (congrArg _ (congrArg _ hplace))
  | absent around other =>
      have hmissing := (misses_of_follow _ _ _ _ _ hlater).2.missing
      rw [show around ++ [other] = parent ++ [name] from hplace] at hmissing
      have hitem := hput.item?_putAt (parent ++ [name])
      rw [if_pos rfl] at hitem
      exact absurd (hitem.symm.trans hmissing)
        (by simp only [reduceCtorEq, not_false_eq_true])

theorem MadeAlong.plain {after : Disk} {fronts : List Text → Prop}
    (h : MadeAlong disk start fronts after) (hplain : disk.root.Plain) : after.root.Plain := by
  rcases h with ⟨_, hputs, _⟩
  exact hputs.plain hplain

theorem MadeAlong.trans {middle after : Disk} {fronts : List Text → Prop}
    (hfirst : MadeAlong disk start fronts middle) (hlast : MadeAlong middle start fronts after) :
    MadeAlong disk start fronts after := by
  rcases hfirst with ⟨places, hputs, hplaces⟩
  rcases hlast with ⟨others, hothers, hotherPlaces⟩
  refine ⟨places ++ others, ?_, fun place hplace => ?_⟩
  · rw [directoryPuts, List.map_append]
    exact hputs.append hothers
  · rcases List.mem_append.mp hplace with hplace | hplace
    · rcases hplaces place hplace with ⟨front, hfront, hfollow⟩
      exact ⟨front, hfront, follow_grows _ _ hothers.grows _ _ _ hfollow⟩
    · exact hotherPlaces place hplace

theorem MadeAlong.mono {after : Disk} {fronts others : List Text → Prop}
    (h : MadeAlong disk start fronts after) (himp : ∀ front, fronts front → others front) :
    MadeAlong disk start others after := by
  rcases h with ⟨places, hputs, hplaces⟩
  refine ⟨places, hputs, fun place hplace => ?_⟩
  rcases hplaces place hplace with ⟨front, hfront, hfollow⟩
  exact ⟨front, himp front hfront, hfollow⟩

section Makes

variable (hnames : ∀ segment ∈ segments, segment ≠ [] ∧ '/' ∉ segment)

include hplain hnames

/-- At most one directory is made, where the path leads. If nothing fails, one is there then. -/
theorem madeAlong_ensureDirectory :
    MadeAlong disk start (· = segments) (disk.ensureDirectory start segments).1 ∧
      ((disk.ensureDirectory start segments).2 = .ok () →
        (disk.ensureDirectory start segments).1.leadsToDirectory start segments = true) := by
  rw [ensureDirectory]
  cases hmake : disk.makeDirectory start segments with
  | error fault =>
      refine ⟨⟨[], .nil disk, fun place hplace => absurd hplace List.not_mem_nil⟩, fun h => ?_⟩
      dsimp only at h ⊢
      by_cases hleads : disk.leadsToDirectory start segments = true
      · exact hleads
      · rw [if_neg hleads] at h
        exact absurd h (by simp only [reduceCtorEq, not_false_eq_true])
  | ok after =>
      rcases (makeDirectory_eq_ok_iff hplain start segments after).mp hmake with
        ⟨parent, name, hfollow, hafter⟩
      rcases puttable_of_follow start segments hnames parent name hfollow with ⟨hput, hlater⟩
      have hputs : Puts disk (directoryPuts [parent ++ [name]]) after := by
        rw [hafter]
        exact .cons hput (.nil _)
      have hitem : after.item? (parent ++ [name]) = some .directory := by
        rw [hafter]
        exact (hput.item?_putAt _).trans (if_pos rfl)
      rw [← hafter] at hlater
      refine ⟨⟨[parent ++ [name]], hputs, fun place hplace => ⟨segments, rfl, ?_⟩⟩, fun _ => ?_⟩
      · rw [List.mem_singleton.mp hplace]
        exact hlater
      · exact (leadsToDirectory_eq_true_iff (hputs.plain hplain) start segments).mpr
          ⟨_, hlater, hitem⟩

/-- The directories made above are on the way to the last one. If nothing fails, that one is there
    then. -/
theorem madeAlong_makeWithParents (above : List Text)
    (habove : ∀ name ∈ above, name ≠ [] ∧ '/' ∉ name) :
    MadeAlong disk start (fun front => front = segments ∨ front.reverse <:+ above)
        (disk.makeWithParents start segments above).1 ∧
      ((disk.makeWithParents start segments above).2 = .ok () →
        (disk.makeWithParents start segments above).1.leadsToDirectory start segments = true) := by
  -- The names above are gone through from the last one up, as they are tried.
  induction above generalizing segments disk with
  | nil =>
      rw [makeWithParents]
      rcases madeAlong_ensureDirectory hplain start segments hnames with ⟨hmade, hok⟩
      exact ⟨hmade.mono start fun front => Or.inl, hok⟩
  | cons name rest ih =>
      rw [makeWithParents]
      generalize hmake : disk.makeDirectory start segments = made
      split
      · -- Something above is missing.
        have hreverse : ∀ segment ∈ (name :: rest).reverse, segment ≠ [] ∧ '/' ∉ segment :=
          fun segment hsegment => habove segment (List.mem_reverse.mp hsegment)
        rcases ih hplain (name :: rest).reverse hreverse
          (fun other hother => habove other (List.mem_cons_of_mem _ hother)) with ⟨hparents, _⟩
        generalize disk.makeWithParents start (name :: rest).reverse rest = middle at *
        have habove : MadeAlong disk start
            (fun front => front = segments ∨ front.reverse <:+ name :: rest) middle.1 := by
          refine hparents.mono start fun front hfront => Or.inr ?_
          rcases hfront with rfl | hsuffix
          · rw [List.reverse_reverse]
          · exact hsuffix.trans (List.suffix_cons name rest)
        obtain ⟨parents, result⟩ := middle
        cases result with
        | error fault => exact ⟨habove, fun h => by simp only [reduceCtorEq] at h⟩
        | ok =>
            rcases madeAlong_ensureDirectory (habove.plain start hplain) start segments hnames with
              ⟨hmade, hok⟩
            exact ⟨habove.trans start (hmade.mono start fun front => Or.inl), hok⟩
      · -- Nothing above is missing.
        rcases madeAlong_ensureDirectory hplain start segments hnames with ⟨hmade, hok⟩
        exact ⟨hmade.mono start fun front => Or.inl, hok⟩

end Makes

end Directories

/-! ### Making a directory with those above it -/

section Paths

variable {disk : Disk} (hplain : disk.Plain) (path : Path)

include hplain

theorem leadsToDirectory_iff (home : Location) : disk.LeadsToDirectory path home ↔
    follow disk.root (startOf path disk.cwd) (Path.segments path) = .ok (.present home) ∧
      disk.item? home = some .directory := by
  rw [LeadsToDirectory, follow_eq_present_iff hplain]
  exact ⟨fun ⟨hplace, hitem⟩ => ⟨⟨hplace, by rw [hitem]; rfl⟩, hitem⟩,
    fun ⟨⟨hplace, _⟩, hitem⟩ => ⟨hplace, hitem⟩⟩

/-- A path without names leads to where it starts. -/
theorem leadsToDirectory_of_names_nil (hnames : Path.names path = []) :
    disk.LeadsToDirectory path (startOf path disk.cwd) := by
  have hstart := item?_startOf hplain path
  refine (leadsToDirectory_iff hplain path _).mpr ⟨?_, hstart⟩
  rw [Path.names, List.filter_eq_nil_iff] at hnames
  generalize Path.segments path = segments at hnames
  -- All segments are dots and stay where they are.
  induction segments with
  | nil => rfl
  | cons segment rest ih =>
      have hdot : segment = Path.here := by
        have h := hnames segment List.mem_cons_self
        rwa [bne_iff_ne, ne_eq, not_not] at h
      rw [hdot, follow_of_passes _ _ _ _ _ (.stay hstart)]
      exact ih fun other hother => hnames other (List.mem_cons_of_mem _ hother)

/-- New directories are made at free places on the way that the path goes afterwards. If nothing
    fails, the path leads to a directory then. -/
theorem makeDirectories_puts : ∃ places : List Location,
    Puts disk (directoryPuts places) (disk.makeDirectories path).1 ∧
      (∀ place ∈ places, (disk.makeDirectories path).1.OnTheWay path place) ∧
      ((disk.makeDirectories path).2 = .ok () →
        (Path.names path = [] ∨ checkPath path = .ok ()) ∧
          ∃ home, (disk.makeDirectories path).1.LeadsToDirectory path home) := by
  rw [makeDirectories]
  cases hnames : (Path.names path).reverse with
  | nil =>
      rw [List.reverse_eq_nil_iff] at hnames
      exact ⟨[], .nil disk, fun place hplace => absurd hplace List.not_mem_nil, fun _ =>
        ⟨Or.inl hnames, _, leadsToDirectory_of_names_nil hplain path hnames⟩⟩
  | cons last above =>
      dsimp only
      cases hcheck : checkPath path with
      | error fault =>
          exact ⟨[], .nil disk, fun place hplace => absurd hplace List.not_mem_nil,
            fun h => by simp only [reduceCtorEq] at h⟩
      | ok =>
          have hsegments : ∀ segment ∈ Path.segments path, segment ≠ [] ∧ '/' ∉ segment :=
            fun segment => Path.of_mem_segments path segment
          have habove : ∀ name ∈ above, name ≠ [] ∧ '/' ∉ name := by
            intro name hname
            have hmem : name ∈ (Path.names path).reverse := by
              rw [hnames]
              exact List.mem_cons_of_mem _ hname
            exact hsegments name (List.mem_filter.mp (List.mem_reverse.mp hmem)).1
          rcases madeAlong_makeWithParents hplain.root (startOf path disk.cwd)
            (Path.segments path) hsegments above habove with ⟨⟨places, hputs, hplaces⟩, hok⟩
          dsimp only
          have hafter := hplain.puts hputs
          refine ⟨places, hputs, fun place hplace => ?_, fun h => ⟨Or.inr rfl, ?_⟩⟩
          · -- A directory was made for the whole path, or for a beginning of its names.
            rcases hplaces place hplace with ⟨front, hfront, hfollow⟩
            rw [onTheWay_iff hafter, hputs.cwd]
            rcases hfront with rfl | hsuffix
            · exact ⟨_, List.prefix_rfl, follow_names _ _ _ _ hfollow⟩
            · refine ⟨front, ?_, hfollow⟩
              rw [← List.reverse_suffix, hnames]
              exact hsuffix.trans (List.suffix_cons last above)
          · rcases (leadsToDirectory_eq_true_iff hafter.root _ _).mp (hok h) with
              ⟨home, hfollow, hhome⟩
            refine ⟨home, (leadsToDirectory_iff hafter path home).mpr ⟨?_, hhome⟩⟩
            rw [hputs.cwd]
            exact hfollow

theorem Plain.makeDirectories : (disk.makeDirectories path).1.Plain := by
  rcases makeDirectories_puts hplain path with ⟨_, hputs, _⟩
  exact hplain.puts hputs

end Paths

end Disk

end StyleGuide
