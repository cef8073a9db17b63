import StyleGuide.Proofs.Generate.Progress

/-!
# Effects of directory mode

What a run of directory mode has changed on a disk without symbolic links, whether it succeeds or
not.

A run is a run of changes: empty directories on the way to the output directory, then one file for
each style guide. So every other place holds what it held before, and a run that stops at a ruleset
leaves behind the style guides of the rulesets before it and nothing more. Before the output
directory is made nothing changes at all.

## Main definitions

* `Disk.Changes`: A directory was made and files were written, and nothing else.
* `Generator.Effects`: What a run of directory mode has changed.

## Theorems

* `Disk.item?_of_directoryPuts`: Directories are made at free places.
* `Generator.Worked.changes`: What jobs change, together with making the output directory.
* `Generator.Worked.exists_child`: Style guides are entries of the output directory.
* `Generator.exists_fault_of_fails`: Nothing but the system keeps a ruleset from its style guide.
* `Generator.generateAll_effects`: The effects of directory mode.
-/

namespace StyleGuide

namespace Disk

/-- From `disk` to `after`, directories on the way of `outDir` were made and the files at `outputs`
    were written, and nothing else was changed. -/
structure Changes (outDir : Path) (outputs : List Path) (disk after : Disk) : Prop where
  /-- Every output is the path of a file with a text. -/
  written : ∀ output ∈ outputs, ∃ text, after.readText output = .ok text
  /-- Where something has changed, a directory was made or an output was written. -/
  changed : ∀ place, after.item? place ≠ disk.item? place →
    (disk.item? place = none ∧ after.item? place = some .directory ∧ after.OnTheWay outDir place) ∨
      ∃ output ∈ outputs, after.place? output = some place

/-- New directories are put at free places, and all of them are there in the end. -/
theorem item?_of_directoryPuts {disk after : Disk} {places : List Location}
    (h : Puts disk (directoryPuts places) after) (place : Location) (hplace : place ∈ places) :
    disk.item? place = none ∧ after.item? place = some .directory := by
  induction places generalizing disk with
  | nil => exact absurd hplace List.not_mem_nil
  | cons first rest ih =>
      cases h with
      | cons hput hrest =>
          have hnew := hput.new rfl
          rcases List.mem_cons.mp hplace with rfl | hmem
          · refine ⟨hnew, hrest.grows.directory _ ?_⟩
            exact (hput.item?_putAt _).trans (if_pos rfl)
          · rcases ih hrest hmem with ⟨hnone, hdirectory⟩
            rw [hput.item?_putAt] at hnone
            split at hnone
            · simp only [reduceCtorEq] at hnone
            · exact ⟨hnone, hdirectory⟩

end Disk

namespace Generator

open Disk

/-- The effects of directory mode on `disk`, where it ends with `result` and leaves `after`. -/
structure Effects (generator : Generator) (dir outDir : Path) (format : Text) (disk : Disk)
    (result : Except Error (List Path)) (after : Disk) : Prop where
  /-- Before anything else the format is looked up. -/
  unknown : generator.registry.get? format = none →
    result = .error (.format (.notFound format)) ∧ after = disk
  /-- A search that fails changes nothing. -/
  lost : ∀ formatter error, generator.registry.get? format = some formatter →
    generator.find disk dir = .error error → result = .error error ∧ after = disk
  /-- Nothing changes where there are no rulesets. -/
  nothing : ∀ formatter, generator.registry.get? format = some formatter →
    generator.find disk dir = .ok [] → result = .ok [] ∧ after = disk
  /-- A run that succeeds has skipped no ruleset. The output directory is there, and the style
      guides have been written one after the other. They are entries of the output directory, if
      the output suffix holds no slash. -/
  finished : ∀ formatter rulesets outputs, generator.registry.get? format = some formatter →
    generator.find disk dir = .ok rulesets → rulesets ≠ [] → result = .ok outputs →
    outputs.map some = rulesets.map (generator.output? outDir formatter.fileExtension) ∧
      (∃ jobs, rulesets = jobs.map Job.ruleset ∧ outputs = jobs.map Job.output ∧
        Worked generator outDir format formatter.fileExtension (disk.makeDirectories outDir).1 jobs
          after) ∧
      Changes outDir outputs disk after ∧
      (∀ place, after.OnTheWay outDir place → after.item? place = some .directory) ∧
      ∃ home, after.LeadsToDirectory outDir home ∧
        ('/' ∉ generator.batch.outputSuffix →
          ∀ output ∈ outputs, ∃ name, after.place? output = some (home ++ [name]))
  /-- A run that fails after the search could not make the output directory, or it failed at a
      ruleset, where the system could not read the ruleset or write its style guide. Then the output
      directory is there, and the style guides of the rulesets before that one have been
      written. -/
  stopped : ∀ formatter rulesets error, generator.registry.get? format = some formatter →
    generator.find disk dir = .ok rulesets → result = .error error →
    (∃ fault, (disk.makeDirectories outDir).2 = .error fault ∧ error = .disk outDir fault ∧
        Changes outDir [] disk after) ∨
      ∃ done ruleset rest, rulesets = done.map Job.ruleset ++ ruleset :: rest ∧
        Worked generator outDir format formatter.fileExtension (disk.makeDirectories outDir).1 done
          after ∧
        Changes outDir (done.map Job.output) disk after ∧
        (∀ place, after.OnTheWay outDir place → after.item? place = some .directory) ∧
        (∃ home, after.LeadsToDirectory outDir home) ∧
        Fails generator outDir format formatter.fileExtension after ruleset error ∧
        ∃ path fault, error = .disk path fault

section Jobs

variable {generator : Generator} {outDir : Path} {format extension : Text} {disk made after : Disk}
  {jobs : List Job}

/-- The output of a job is that of its ruleset. -/
theorem Worked.output?_eq (h : Worked generator outDir format extension made jobs after) :
    ∀ job ∈ jobs, generator.output? outDir extension job.ruleset = some job.output := by
  induction h with
  | nil => exact fun job hjob => absurd hjob List.not_mem_nil
  | cons hready _ _ ih =>
      intro job hjob
      rcases List.mem_cons.mp hjob with rfl | hjob
      · exact hready.output
      · exact ih job hjob

/-- Where an output leads, a file with a text is written. -/
theorem Worked.item?_place (hplain : made.Plain)
    (h : Worked generator outDir format extension made jobs after) (job : Job) (hjob : job ∈ jobs) :
    ∃ text, after.item? (job.put after).1 = some (.file (.text text)) := by
  rcases h.puts hplain with ⟨hputs, _⟩
  have hmem : (job.put after).1 ∈ (jobs.map (Job.put after)).map Prod.fst :=
    List.mem_map_of_mem (List.mem_map_of_mem hjob)
  rw [← lastPut?_isSome_iff, Option.isSome_iff_exists] at hmem
  rcases hmem with ⟨leaf, hlast⟩
  have hitem := hputs.item? (job.put after).1
  rw [hlast, Option.map_some, Option.some_or] at hitem
  cases leaf with
  | directory => exact absurd rfl (file_of_mem_puts after jobs _ (mem_of_lastPut? _ _ _ hlast))
  | file text => exact ⟨text, hitem⟩

theorem Worked.place_free (hplain : made.Plain)
    (h : Worked generator outDir format extension made jobs after) (job : Job) (hjob : job ∈ jobs) :
    after.item? (job.put after).1 ≠ some .directory := by
  rcases h.item?_place hplain job hjob with ⟨text, hitem⟩
  rw [hitem]
  simp only [ne_eq, Option.some.injEq, reduceCtorEq, not_false_eq_true]

/-- Without slashes in the output suffix the style guides are entries of the output directory. -/
theorem Worked.exists_child (hplain : made.Plain)
    (h : Worked generator outDir format extension made jobs after) (home : Location)
    (hhome : after.LeadsToDirectory outDir home) (hsuffix : '/' ∉ generator.batch.outputSuffix)
    (hextension : '/' ∉ extension) :
    ∀ job ∈ jobs, ∃ name, job.output = Path.join outDir name ∧
      after.place? job.output = some (home ++ [name]) := by
  intro job hjob
  rcases h.puts hplain with ⟨hputs, hgoes⟩
  have hafter := hplain.puts hputs
  have hplace := (hgoes job hjob).place?_eq
  rcases exists_name_of_output? _ _ (h.output?_eq job hjob) with ⟨name, hname, heq⟩
  have hne := outputName_ne_nil generator job.ruleset extension name hname
  have hslash := slash_not_mem_outputName generator job.ruleset extension name hname hsuffix
    hextension
  have hsegments : Path.segments job.output = Path.segments outDir ++ [name] := by
    rw [heq, Path.segments_join_name outDir name hne hslash]
  rcases exists_parent_of_place? hafter job.output _ _ name hsegments hplace
    (h.place_free hplain job hjob) with ⟨parent, hparent, hfollow, _⟩
  -- The output directory is what the path passes last.
  rw [leadsToDirectory_iff hafter] at hhome
  rw [startOf, heq, Path.isAbsolute_join_name outDir name hslash, ← startOf, hhome.1,
    Except.ok.injEq, Target.present.injEq] at hfollow
  exact ⟨name, heq, by rw [hplace, hparent, hfollow]⟩

section Made

variable (hplain : disk.Plain)

include hplain

/-- Making directories changes what is on the way. -/
theorem changes_makeDirectories : Changes outDir [] disk (disk.makeDirectories outDir).1 := by
  rcases makeDirectories_puts hplain outDir with ⟨places, hputs, hway, _⟩
  refine ⟨fun output houtput => absurd houtput List.not_mem_nil, fun place hchanged => Or.inl ?_⟩
  -- What has changed was put there.
  have hplace : place ∈ places := by
    by_contra hno
    refine hchanged (hputs.item?_of_not_mem place ?_)
    rw [directoryPuts, List.map_map]
    simpa only [Function.comp_def, List.map_id'] using hno
  rcases item?_of_directoryPuts hputs place hplace with ⟨hnone, hdirectory⟩
  exact ⟨hnone, hdirectory, hway place hplace⟩

variable (h : Worked generator outDir format extension (disk.makeDirectories outDir).1 jobs after)

include h

theorem Worked.plain : after.Plain := by
  have hmade := hplain.makeDirectories outDir
  exact hmade.puts (h.puts hmade).1

/-- Where a path leads to before a run, it leads to afterwards. -/
theorem Worked.place? (path : Path) (place : Location) (hplace : disk.place? path = some place) :
    after.place? path = some place := by
  have hmade := hplain.makeDirectories outDir
  rcases makeDirectories_puts hplain outDir with ⟨_, hdirectories, _⟩
  exact place?_puts hmade (h.puts hmade).1 _ _ (place?_puts hplain hdirectories _ _ hplace)

theorem Worked.leadsToDirectory (path : Path) (home : Location)
    (hleads : disk.LeadsToDirectory path home) : after.LeadsToDirectory path home := by
  rcases makeDirectories_puts hplain outDir with ⟨_, hdirectories, _⟩
  rcases h.puts (hplain.makeDirectories outDir) with ⟨hputs, _⟩
  exact ⟨h.place? hplain path home hleads.1,
    hputs.grows.directory _ (hdirectories.grows.directory _ hleads.2)⟩

/-- Jobs change the outputs only, and before them only directories were made. -/
theorem Worked.changes : Changes outDir (jobs.map Job.output) disk after := by
  have hmade := hplain.makeDirectories outDir
  rcases h.puts hmade with ⟨hputs, hgoes⟩
  have hafter := hmade.puts hputs
  constructor
  · intro output houtput
    rcases List.mem_map.mp houtput with ⟨job, hjob, rfl⟩
    have hgo := hgoes job hjob
    rcases h.item?_place hmade job hjob with ⟨text, hitem⟩
    exact ⟨text, (readText_eq_ok_iff hafter _ _).mpr
      ⟨hgo.check, hgo.slash, _, hgo.place?_eq, hitem⟩⟩
  · intro place hchanged
    by_cases hplace : place ∈ (jobs.map (Job.put after)).map Prod.fst
    · -- A job has written there.
      rcases (mem_places_iff hgoes place).mp hplace with ⟨job, hjob, hplace⟩
      exact Or.inr ⟨_, List.mem_map_of_mem hjob, hplace⟩
    · -- The jobs left the place alone, so making the output directory changed it.
      have hsame := hputs.item?_of_not_mem place hplace
      rw [hsame] at hchanged ⊢
      rcases (changes_makeDirectories hplain).changed place hchanged with
        ⟨hnone, hdirectory, hway⟩ | ⟨_, houtput, _⟩
      · exact Or.inl ⟨hnone, hdirectory, onTheWay_puts hmade hputs outDir place hway⟩
      · exact absurd houtput List.not_mem_nil

/-- The output directory stays where it was made, and so do the directories on the way to it. -/
theorem Worked.outDir_stays (hmake : (disk.makeDirectories outDir).2 = .ok ()) :
    (∀ place, after.OnTheWay outDir place → after.item? place = some .directory) ∧
      ∃ home, after.LeadsToDirectory outDir home := by
  have hmade := hplain.makeDirectories outDir
  rcases makeDirectories_puts hplain outDir with ⟨_, _, _, hok⟩
  rcases (hok hmake).2 with ⟨home, hplace, hhome⟩
  rcases h.puts hmade with ⟨hputs, _⟩
  have hplace := place?_puts hmade hputs outDir home hplace
  have hhome := hputs.grows.directory home hhome
  exact ⟨fun place => item?_of_onTheWay (hmade.puts hputs) outDir home place hplace hhome,
    home, hplace, hhome⟩

end Made

end Jobs

/-- Without faults of the system there is a style guide for every ruleset, in all formats that are
    always there. -/
theorem exists_fault_of_fails (settings : Settings) {outDir : Path} {format extension : Text}
    {formatter : Formatter} (hformat : (ofSettings settings).registry.get? format = some formatter)
    {disk : Disk} {ruleset : Path} {error : Error}
    (h : Fails (ofSettings settings) outDir format extension disk ruleset error) :
    ∃ path fault, error = .disk path fault := by
  cases h with
  | reading fault hread => exact ⟨ruleset, fault, rfl⟩
  | rendering source _ _ hrender =>
      rcases Registry.serialize_builtIn _ _ _ hformat ((ofSettings settings).compile source) with
        ⟨text, htext⟩
      exact absurd (htext.symm.trans hrender) (by simp only [reduceCtorEq, not_false_eq_true])
  | writing job fault => exact ⟨job.output, fault, rfl⟩

/-- The effects of directory mode, with the formats that are always there and any settings. -/
theorem generateAll_effects (settings : Settings) (dir outDir : Path) (format : Text)
    (session : Session) (hplain : session.disk.Plain) :
    Effects (ofSettings settings) dir outDir format session.disk
      (((ofSettings settings).generateAll dir outDir format).run.run session).1
      (((ofSettings settings).generateAll dir outDir format).run.run session).2.disk := by
  have houtcome := generateAll_outcome (ofSettings settings) dir outDir format session hplain
  generalize (((ofSettings settings).generateAll dir outDir format).run.run session).1 = result
    at houtcome
  generalize (((ofSettings settings).generateAll dir outDir format).run.run session).2.disk = after
    at houtcome
  generalize hdisk : session.disk = disk at hplain houtcome
  clear hdisk session
  -- The first three fields are about one outcome each. In the others the format or the search is
  -- something else than the field says.
  refine ⟨fun hnone => ?_, fun formatter error hformat hfind => ?_,
    fun formatter hformat hfind => ?_,
    fun formatter rulesets outputs hformat hfind hne hresult => ?_,
    fun formatter rulesets error hformat hfind hresult => ?_⟩
  · cases houtcome with
    | unknown => exact ⟨rfl, rfl⟩
    | lost _ _ hknown | nothing _ hknown | blocked _ _ _ hknown | stopped _ _ _ _ _ _ hknown
    | finished _ _ _ hknown =>
        -- All other outcomes know the format.
        rw [hnone] at hknown
        simp only [reduceCtorEq] at hknown
  · cases houtcome with
    | lost _ other _ hlost =>
        rw [hlost, Except.error.injEq] at hfind
        exact ⟨by rw [hfind], rfl⟩
    | unknown hnone =>
        rw [hformat] at hnone
        simp only [reduceCtorEq] at hnone
    | nothing _ _ hfound | blocked _ _ _ _ hfound | stopped _ _ _ _ _ _ _ hfound
    | finished _ _ _ _ hfound =>
        -- The search has not failed.
        rw [hfind] at hfound
        simp only [reduceCtorEq] at hfound
  · cases houtcome with
    | nothing => exact ⟨rfl, rfl⟩
    | unknown hnone =>
        rw [hformat] at hnone
        simp only [reduceCtorEq] at hnone
    | lost _ _ _ hlost =>
        rw [hfind] at hlost
        simp only [reduceCtorEq] at hlost
    | blocked _ _ _ _ hfound hne =>
        rw [hfind, Except.ok.injEq] at hfound
        exact absurd hfound.symm hne
    | stopped _ done _ _ _ _ _ hfound =>
        -- The search has found the ruleset where the run stops.
        rw [hfind, Except.ok.injEq] at hfound
        exact absurd hfound.symm (List.append_ne_nil_of_right_ne_nil _ (List.cons_ne_nil _ _))
    | finished _ _ _ _ hfound hne =>
        rw [hfind, Except.ok.injEq] at hfound
        exact absurd (List.map_eq_nil_iff.mp hfound.symm) hne
  · rw [hresult] at houtcome
    rcases houtcome.cases_of_ok hformat hfind with
      ⟨hnil, _⟩ | ⟨jobs, _, rfl, rfl, hmake, hworked⟩
    · exact absurd hnil hne
    rcases hworked.outDir_stays hplain hmake with ⟨hway, home, hhome⟩
    refine ⟨?_, ⟨jobs, rfl, rfl, hworked⟩, hworked.changes hplain, hway, home, hhome,
      fun hsuffix output houtput => ?_⟩
    · rw [List.map_map, List.map_map]
      exact List.map_congr_left fun job hjob => (hworked.output?_eq job hjob).symm
    · have hextension := Registry.slash_not_mem_fileExtension _ _ _ hformat
      rcases List.mem_map.mp houtput with ⟨job, hjob, rfl⟩
      rcases hworked.exists_child (hplain.makeDirectories outDir) home hhome hsuffix hextension
        job hjob with ⟨name, _, hplace⟩
      exact ⟨name, hplace⟩
  · rw [hresult] at houtcome
    rcases houtcome.cases_of_error hformat hfind with
      ⟨fault, hmake, rfl, rfl⟩ | ⟨done, ruleset, rest, rfl, hmake, hworked, hfails⟩
    · exact Or.inl ⟨fault, hmake, rfl, changes_makeDirectories hplain⟩
    · rcases hworked.outDir_stays hplain hmake with ⟨hway, hhome⟩
      exact Or.inr ⟨done, ruleset, rest, rfl, hworked, hworked.changes hplain, hway, hhome, hfails,
        exists_fault_of_fails settings hformat hfails⟩

/-- A disk with two rulesets, of which the second is no text. -/
def halfReadable : Disk where
  root := .directory [("r", .directory
    [("a-ruleset.yaml", .file (.text "# Section: A\n")),
      ("b-ruleset.yaml", .file (.bytes [0xFF]))])]
  cwd := []

theorem halfReadable_plain : halfReadable.Plain := ⟨Node.plain_of_nodes _ (by decide), by decide⟩

/-- A run that fails at the second ruleset. -/
theorem generateAll_effects_halfReadable :
    (((ofSettings {}).generateAll "r" "out/guides" "markdown").run.run
        ⟨halfReadable, []⟩).1 = .error (.disk "r/b-ruleset.yaml" .notText) ∧
      Effects (ofSettings {}) "r" "out/guides" "markdown" halfReadable
        (((ofSettings {}).generateAll "r" "out/guides" "markdown").run.run
          ⟨halfReadable, []⟩).1
        (((ofSettings {}).generateAll "r" "out/guides" "markdown").run.run
          ⟨halfReadable, []⟩).2.disk :=
  ⟨by decide +kernel, generateAll_effects {} _ _ _ ⟨halfReadable, []⟩ halfReadable_plain⟩

end Generator

end StyleGuide
