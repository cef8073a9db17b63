import StyleGuide.Proofs.Generate.Repeat

/-!
# A style guide for each ruleset

When directory mode gives every ruleset a style guide of its own.

The name of a style guide is made of the last name in the path of its ruleset, in upper case.
Rulesets in different directories, or with names that differ in case only, may thus share one path.
The style guide that is written last is then the one that stays, and nothing reports the clash.

A style guide that no later one is written over is the rendering of its ruleset, provided that no
earlier one was written over the ruleset itself. The returned paths are distinct exactly if the
upper case forms are.

## Main definitions

* `Generator.guideBase?`: What the name of a style guide says of its ruleset.

## Theorems

* `Disk.lastPut?_append_cons`: What was put last, found from the end.
* `Generator.output_eq_iff`: When two rulesets share a path.
* `Generator.Worked.readText_output`: A style guide that is not written over.
* `Generator.Worked.readText_source`: A ruleset that was not written over before it was read.
* `Generator.Completed.own_guides`: When every ruleset has a style guide of its own.
* `Generator.generateAll_guides`: Which style guides a run leaves.
-/

namespace StyleGuide

namespace Disk

/-- What nothing is put over afterwards was put last. -/
theorem lastPut?_append_cons (front back : List (Location × Leaf)) (place : Location) (leaf : Leaf)
    (h : place ∉ back.map Prod.fst) :
    lastPut? (front ++ (place, leaf) :: back) place = some leaf := by
  induction front with
  | nil =>
      have hnone : lastPut? back place = none := by
        rw [← Option.not_isSome_iff_eq_none, lastPut?_isSome_iff]
        exact h
      rw [List.nil_append, lastPut?, hnone, if_pos rfl, Option.none_or]
  | cons first front ih => rw [List.cons_append, lastPut?, ih, Option.some_or]

end Disk

namespace Path

/-- What is put in front of a joined name is the same for all names, but for those that start at
    the root. -/
theorem exists_join_lead (base : Path) : ∃ lead : Path, ∀ name,
    join base name = if isAbsolute name then name else lead ++ name := by
  by_cases hempty : base.isEmpty = true
  · refine ⟨[], fun name => ?_⟩
    rw [join, hempty, Bool.or_true, if_pos rfl, List.nil_append, ite_self]
  by_cases hslash : wantsDirectory base = true
  · refine ⟨base, fun name => ?_⟩
    rw [join, Bool.eq_false_of_not_eq_true hempty, Bool.or_false, if_pos hslash]
  · refine ⟨base ++ ['/'], fun name => ?_⟩
    rw [join, Bool.eq_false_of_not_eq_true hempty, Bool.or_false, if_neg hslash, List.append_assoc,
      List.singleton_append]

theorem isAbsolute_append (front tail : Text) (hne : front ≠ []) (hslash : '/' ∉ front) :
    isAbsolute (front ++ tail) = false := by
  rcases List.exists_cons_of_ne_nil hne with ⟨c, rest, rfl⟩
  rw [isAbsolute, List.cons_append, List.head?_cons, beq_eq_false_iff_ne, ne_eq, Option.some.injEq]
  rintro rfl
  exact hslash List.mem_cons_self

/-- Joined names that end alike differ in front, as long as no slash is there. -/
theorem join_append_inj (base front front' tail : Text) (hslash : '/' ∉ front)
    (hslash' : '/' ∉ front') (h : join base (front ++ tail) = join base (front' ++ tail)) :
    front = front' := by
  rcases exists_join_lead base with ⟨lead, hlead⟩
  rw [hlead, hlead] at h
  by_cases hroot : isAbsolute tail = true
  · by_cases hnil : front = [] <;> by_cases hnil' : front' = []
    · rw [hnil, hnil']
    · -- Only the name without anything in front starts at the root, and it is the shorter one.
      rw [hnil, List.nil_append, if_pos hroot, isAbsolute_append front' tail hnil' hslash',
        if_neg Bool.false_ne_true, ← List.append_assoc, List.self_eq_append_left,
        List.append_eq_nil_iff] at h
      exact absurd h.2 hnil'
    · rw [hnil', List.nil_append, if_pos hroot, isAbsolute_append front tail hnil hslash,
        if_neg Bool.false_ne_true, ← List.append_assoc, List.append_left_eq_self,
        List.append_eq_nil_iff] at h
      exact absurd h.2 hnil
    · rw [isAbsolute_append front tail hnil hslash, isAbsolute_append front' tail hnil' hslash',
        if_neg Bool.false_ne_true, if_neg Bool.false_ne_true, List.append_cancel_left_eq,
        List.append_cancel_right_eq] at h
      exact h
  · have hname : ∀ name : Text, '/' ∉ name → isAbsolute (name ++ tail) = false := by
      intro name hname
      by_cases hnil : name = []
      · rw [hnil, List.nil_append, Bool.eq_false_of_not_eq_true hroot]
      · exact isAbsolute_append name tail hnil hname
    rw [hname front hslash, hname front' hslash', if_neg Bool.false_ne_true,
      if_neg Bool.false_ne_true, List.append_cancel_left_eq, List.append_cancel_right_eq] at h
    exact h

end Path

namespace Generator

open Disk

/-- What the name of a style guide says of its ruleset: what the name of that has before the suffix,
    in upper case. -/
def guideBase? (generator : Generator) (ruleset : Path) : Option Text :=
  (Path.fileName? ruleset).bind fun name =>
    (Text.beforeEnd? generator.batch.rulesetSuffix name).map Text.upper

theorem output?_eq_some_iff (generator : Generator) (outDir : Path) (extension : Text)
    (ruleset output : Path) : generator.output? outDir extension ruleset = some output ↔
      ∃ base, generator.guideBase? ruleset = some base ∧
        output = Path.join outDir (base ++ (generator.outputStem ++ '.' :: extension)) := by
  simp only [output?, guideBase?, Option.map_eq_some_iff, outputName?_eq_some_iff,
    Option.bind_eq_some_iff, Text.beforeEnd?_eq_some_iff]
  constructor
  · rintro ⟨name, ⟨base, hfileName, rfl⟩, rfl⟩
    exact ⟨base.upper, ⟨_, hfileName, base, rfl, rfl⟩, by rw [List.append_assoc]⟩
  · rintro ⟨_, ⟨_, hfileName, base, rfl, rfl⟩, rfl⟩
    exact ⟨_, ⟨base, hfileName, rfl⟩, by rw [List.append_assoc]⟩

theorem slash_not_mem_guideBase (generator : Generator) (ruleset : Path) (base : Text)
    (h : generator.guideBase? ruleset = some base) : '/' ∉ base := by
  simp only [guideBase?, Option.bind_eq_some_iff, Option.map_eq_some_iff,
    Text.beforeEnd?_eq_some_iff] at h
  rcases h with ⟨_, hfileName, front, rfl, rfl⟩
  refine Text.slash_not_mem_upper front fun hmem => ?_
  exact Path.slash_not_mem_fileName ruleset _ hfileName (List.mem_append_left _ hmem)

/-- Two rulesets share a path exactly if their names are the same in upper case. -/
theorem output_eq_iff (generator : Generator) (outDir : Path) (extension : Text)
    (ruleset ruleset' output output' : Path)
    (h : generator.output? outDir extension ruleset = some output)
    (h' : generator.output? outDir extension ruleset' = some output') :
    output = output' ↔ generator.guideBase? ruleset = generator.guideBase? ruleset' := by
  rcases (output?_eq_some_iff generator outDir extension ruleset output).mp h with
    ⟨base, hbase, rfl⟩
  rcases (output?_eq_some_iff generator outDir extension ruleset' output').mp h' with
    ⟨base', hbase', rfl⟩
  rw [hbase, hbase', Option.some.injEq]
  constructor
  · exact Path.join_append_inj outDir base base' _
      (slash_not_mem_guideBase generator ruleset base hbase)
      (slash_not_mem_guideBase generator ruleset' base' hbase')
  · intro heq
    rw [heq]

section Jobs

variable {generator : Generator} {outDir : Path} {format extension : Text} {disk after : Disk}

/-- Jobs are done in two parts. -/
theorem exists_of_worked_append (front back : List Job)
    (h : Worked generator outDir format extension disk (front ++ back) after) :
    ∃ middle, Worked generator outDir format extension disk front middle ∧
      Worked generator outDir format extension middle back after := by
  induction front generalizing disk with
  | nil => exact ⟨disk, .nil disk, h⟩
  | cons job front ih =>
      cases h with
      | cons hready hwrite hrest =>
          rcases ih hrest with ⟨middle, hfront, hback⟩
          exact ⟨middle, .cons hready hwrite hfront, hback⟩

variable (hplain : disk.Plain) (front back : List Job) (job : Job)

include hplain

/-- A style guide that no later one is written over is there in the end. -/
theorem Worked.readText_output
    (h : Worked generator outDir format extension disk (front ++ job :: back) after)
    (hlater : ∀ later ∈ back, after.place? later.output ≠ after.place? job.output) :
    after.readText job.output = .ok job.text := by
  rcases h.puts hplain with ⟨hputs, hgoes⟩
  have hgo := hgoes job (List.mem_append_right _ List.mem_cons_self)
  have hfree : (job.put after).1 ∉ (back.map (Job.put after)).map Prod.fst := by
    intro hmem
    rcases (mem_places_iff (fun other hother => hgoes other (List.mem_append_right _
      (List.mem_cons_of_mem _ hother))) _).mp hmem with ⟨later, hmem, hplace⟩
    exact hlater later hmem (by rw [hplace, hgo.place?_eq])
  -- What the job wrote is the last that was written there.
  have hlast : lastPut? ((front ++ job :: back).map (Job.put after)) (job.put after).1 =
      some (.file job.text) := by
    rw [List.map_append, List.map_cons]
    exact lastPut?_append_cons _ _ _ _ hfree
  have hitem := hputs.item? (job.put after).1
  rw [hlast, Option.map_some, Option.some_or] at hitem
  exact (readText_eq_ok_iff (hplain.puts hputs) _ _).mpr
    ⟨hgo.check, hgo.slash, _, hgo.place?_eq, hitem⟩

/-- A ruleset that no earlier style guide was written over is read as it was at first. -/
theorem Worked.readText_source
    (h : Worked generator outDir format extension (disk.makeDirectories outDir).1
      (front ++ job :: back) after) (place : Location)
    (hplace : disk.place? job.ruleset = some place)
    (hsome : (disk.item? place).isSome = true)
    (hearlier : ∀ earlier ∈ front, after.place? earlier.output ≠ after.place? job.ruleset) :
    ∃ source, disk.readText job.ruleset = .ok source ∧
      generator.render (generator.compile source) format = .ok job.text := by
  have hmade := hplain.makeDirectories outDir
  rcases makeDirectories_puts hplain outDir with ⟨_, hdirectories, _⟩
  rcases exists_of_worked_append front (job :: back) h with ⟨middle, hfront, hback⟩
  rcases hfront.puts hmade with ⟨hputs, hgoes⟩
  have hmiddle := hmade.puts hputs
  have hlater := (hback.puts hmiddle).1
  have hmiddlePlace : middle.place? job.ruleset = some place :=
    place?_puts hmade hputs _ _ (place?_puts hplain hdirectories _ _ hplace)
  -- The ruleset is still the same when it is read.
  have hitem : middle.item? place = disk.item? place := by
    rw [hputs.item?_of_not_mem place]
    · by_contra hchanged
      rcases (changes_makeDirectories hplain).changed place hchanged with ⟨hnone, _⟩ | ⟨_, hout, _⟩
      · rw [hnone] at hsome
        exact absurd hsome Bool.false_ne_true
      · exact absurd hout List.not_mem_nil
    · intro hmem
      rcases (mem_places_iff hgoes place).mp hmem with ⟨earlier, hmem, hearlierPlace⟩
      refine hearlier earlier hmem ?_
      rw [place?_puts hmiddle hlater _ _ hearlierPlace, place?_puts hmiddle hlater _ _ hmiddlePlace]
  cases hback with
  | cons hready _ _ =>
      rcases hready.text with ⟨source, hread, hrender⟩
      rcases (readText_eq_ok_iff hmiddle _ _).mp hread with ⟨hcheck, hslash, there, hthere, htext⟩
      rw [hmiddlePlace, Option.some.injEq] at hthere
      rw [← hthere, hitem] at htext
      exact ⟨source, (readText_eq_ok_iff hplain _ _).mpr ⟨hcheck, hslash, place, hplace, htext⟩,
        hrender⟩

omit hplain in
/-- The paths of style guides are distinct exactly if the upper case forms are. -/
theorem Worked.nodup_outputs_iff {jobs : List Job}
    (h : Worked generator outDir format extension disk jobs after) :
    (jobs.map Job.output).Nodup ↔ ((jobs.map Job.ruleset).map generator.guideBase?).Nodup := by
  rw [List.map_map, List.Nodup, List.Nodup, List.pairwise_map, List.pairwise_map]
  refine List.Pairwise.iff_of_mem fun {first last} hfirst hlast => not_congr ?_
  exact output_eq_iff generator outDir extension first.ruleset last.ruleset first.output last.output
    (h.output?_eq first hfirst) (h.output?_eq last hlast)

end Jobs

/-! ### After a whole run -/

section Found

variable {generator : Generator} {dir outDir : Path} {format extension : Text} {home : Location}
  {locations : List Location} {disk after : Disk} {jobs : List Job}
  (h : Completed generator dir outDir format extension home locations disk jobs after)

include h

/-- The style guide of a ruleset, where nothing was written over either of them. -/
theorem Completed.own_guide (front back : List Job) (job : Job)
    (hjobs : jobs = front ++ job :: back)
    (hearlier : ∀ earlier ∈ front, after.place? earlier.output ≠ after.place? job.ruleset)
    (hlater : ∀ later ∈ back, after.place? later.output ≠ after.place? job.output) :
    ∃ source text, disk.readText job.ruleset = .ok source ∧
      generator.render (generator.compile source) format = .ok text ∧
      after.readText job.output = .ok text := by
  subst hjobs
  rcases h.exists_ruleset job (List.mem_append_right _ List.mem_cons_self) with
    ⟨place, hplace, ⟨item, hitem, _⟩, _⟩
  rcases h.worked.readText_source h.plain front back job place hplace (by rw [hitem]; rfl) hearlier
    with ⟨source, hread, hrender⟩
  exact ⟨source, job.text, hread, hrender,
    h.worked.readText_output (h.plain.makeDirectories outDir) front back job hlater⟩

/-- Style guides with distinct paths are written to distinct places, if they are entries of the
    output directory, and no ruleset is written over, if no style guide is named like one. -/
theorem Completed.own_guides (hnodup : (jobs.map Job.output).Nodup)
    (hseparate : generator.Separate extension) (hsuffix : '/' ∉ generator.batch.outputSuffix)
    (hextension : '/' ∉ extension) :
    ∀ job ∈ jobs, ∃ source text, disk.readText job.ruleset = .ok source ∧
      generator.render (generator.compile source) format = .ok text ∧
      after.readText job.output = .ok text := by
  intro job hjob
  have hmade := h.plain.makeDirectories outDir
  rcases h.worked.outDir_stays h.plain h.make with ⟨_, around, haround⟩
  rcases List.append_of_mem hjob with ⟨front, back, hjobs⟩
  refine h.own_guide front back job hjobs ?_ ?_
  · intro earlier hearlier hsame
    -- No job at all writes over a ruleset.
    refine h.untouched hseparate hextension job hjob earlier ?_ hsame.symm
    rw [hjobs]
    exact List.mem_append_left _ hearlier
  · intro later hlater hsame
    have hmem : later ∈ jobs := by
      rw [hjobs]
      exact List.mem_append_right _ (List.mem_cons_of_mem _ hlater)
    rcases h.worked.exists_child hmade around haround hsuffix hextension job hjob with
      ⟨name, houtput, hplace⟩
    rcases h.worked.exists_child hmade around haround hsuffix hextension later hmem with
      ⟨other, hother, hotherPlace⟩
    rw [hplace, hotherPlace, Option.some.injEq, List.append_cancel_left_eq,
      List.singleton_inj] at hsame
    -- The same entry of the output directory has one path only.
    rw [hjobs, List.map_append, List.map_cons, List.nodup_append] at hnodup
    refine (List.nodup_cons.mp hnodup.2.1).1 ?_
    rw [houtput, ← hsame, ← hother]
    exact List.mem_map_of_mem hlater

end Found

section Run

variable (settings : Settings) (dir outDir : Path) (format : Text) (session : Session)
  (hplain : session.disk.Plain) (formatter : Formatter)
  (hformat : (ofSettings settings).registry.get? format = some formatter)
  (rulesets outputs : List Path) (after : Disk) (log : List Log.Entry)
  (hfind : (ofSettings settings).find session.disk dir = .ok rulesets)
  (hrun : ((ofSettings settings).generateAll dir outDir format).run.run session =
    (.ok outputs, ⟨after, log⟩))

include hplain hformat hfind hrun

/-- Which style guides a run leaves that succeeds. The returned paths are distinct exactly if the
    upper case forms are that name them. A style guide is the rendering of its ruleset, if no
    earlier one was written over the ruleset and no later one over the style guide. Both is so for
    all of them if the paths are distinct, no style guide has the name of a ruleset and the output
    suffix holds no slash. -/
theorem generateAll_guides :
    (outputs.Nodup ↔ (rulesets.map (ofSettings settings).guideBase?).Nodup) ∧
      (∀ front ruleset output back, rulesets.zip outputs = front ++ (ruleset, output) :: back →
        (∀ earlier ∈ front, after.place? earlier.2 ≠ after.place? ruleset) →
        (∀ later ∈ back, after.place? later.2 ≠ after.place? output) →
        ∃ source text, session.disk.readText ruleset = .ok source ∧
          (ofSettings settings).render ((ofSettings settings).compile source) format = .ok text ∧
          after.readText output = .ok text) ∧
      (outputs.Nodup → (ofSettings settings).Separate formatter.fileExtension →
        '/' ∉ settings.batch.outputSuffix → ∀ pair ∈ rulesets.zip outputs,
        ∃ source text, session.disk.readText pair.1 = .ok source ∧
          (ofSettings settings).render ((ofSettings settings).compile source) format = .ok text ∧
          after.readText pair.2 = .ok text) := by
  rcases completed_of_run (ofSettings settings) dir outDir format session hplain formatter hformat
    rulesets outputs after log hfind hrun with
    ⟨rfl, rfl, rfl⟩ | ⟨jobs, home, locations, _, rfl, rfl, h⟩
  · refine ⟨by simp only [List.map_nil, List.nodup_nil], fun front ruleset output back hsplit => ?_,
      fun _ _ _ pair hpair => ?_⟩
    · exact absurd hsplit.symm (List.append_ne_nil_of_right_ne_nil _ (List.cons_ne_nil _ _))
    · exact absurd hpair List.not_mem_nil
  have hzip : (jobs.map Job.ruleset).zip (jobs.map Job.output) =
      jobs.map fun job => (job.ruleset, job.output) := List.zip_map'
  refine ⟨h.worked.nodup_outputs_iff, ?_, ?_⟩
  · intro front ruleset output back hsplit hearlier hlater
    rw [hzip, List.map_eq_append_iff] at hsplit
    rcases hsplit with ⟨before, others, hjobs, rfl, hothers⟩
    rw [List.map_eq_cons_iff] at hothers
    rcases hothers with ⟨job, later, rfl, hjob, rfl⟩
    rw [Prod.mk.injEq] at hjob
    rcases hjob with ⟨rfl, rfl⟩
    exact h.own_guide before later job hjobs
      (fun earlier hmem => hearlier _ (List.mem_map_of_mem hmem))
      (fun later hmem => hlater _ (List.mem_map_of_mem hmem))
  · intro hnodup hseparate hsuffix pair hpair
    rw [hzip] at hpair
    rcases List.mem_map.mp hpair with ⟨job, hjob, rfl⟩
    exact h.own_guides hnodup hseparate hsuffix
      (Registry.slash_not_mem_fileExtension _ _ _ hformat) job hjob

end Run

/-- A disk with two rulesets, each in a directory of its own. -/
def apart (first last : Text) : Disk where
  root := .directory
    [("a", .directory [(first, .file (.text "# Section: A\n"))]),
      ("b", .directory [(last, .file (.text "# Section: B\n"))])]
  cwd := []

/-- Directory mode on these two rulesets. -/
def apartRun (first last : Text) : Except Error (List Path) × Session :=
  ((ofSettings {}).generateAll "." "out" "markdown").run.run ⟨apart first last, []⟩

/-- Two rulesets of different names get a style guide each. -/
theorem generateAll_guides_apart :
    (apartRun "x-ruleset.yaml" "y-ruleset.yaml").1 =
        .ok ["out/X_STYLE_GUIDE.md", "out/Y_STYLE_GUIDE.md"] ∧
      ∀ pair ∈ List.zip (["./a/x-ruleset.yaml", "./b/y-ruleset.yaml"] : List Path)
        (["out/X_STYLE_GUIDE.md", "out/Y_STYLE_GUIDE.md"] : List Path),
        ∃ source text, (apart "x-ruleset.yaml" "y-ruleset.yaml").readText pair.1 = .ok source ∧
          (ofSettings {}).render ((ofSettings {}).compile source) "markdown" = .ok text ∧
          (apartRun "x-ruleset.yaml" "y-ruleset.yaml").2.disk.readText pair.2 = .ok text := by
  have hplain : (apart "x-ruleset.yaml" "y-ruleset.yaml").Plain :=
    ⟨Node.plain_of_nodes _ (by decide), by decide⟩
  have hfind : (ofSettings {}).find (apart "x-ruleset.yaml" "y-ruleset.yaml") "." =
      .ok ["./a/x-ruleset.yaml", "./b/y-ruleset.yaml"] := by decide +kernel
  have hresult : (apartRun "x-ruleset.yaml" "y-ruleset.yaml").1 =
      .ok ["out/X_STYLE_GUIDE.md", "out/Y_STYLE_GUIDE.md"] := by decide +kernel
  have hrun : apartRun "x-ruleset.yaml" "y-ruleset.yaml" =
      (.ok ["out/X_STYLE_GUIDE.md", "out/Y_STYLE_GUIDE.md"],
        ⟨(apartRun "x-ruleset.yaml" "y-ruleset.yaml").2.disk,
          (apartRun "x-ruleset.yaml" "y-ruleset.yaml").2.log⟩) := by
    rw [← hresult]
  exact ⟨hresult, (generateAll_guides {} "." "out" "markdown" _ hplain
    (.markdown (Settings.palette {})) rfl _ _ _ _ hfind hrun).2.2 (by decide) separate_markdown
    (by decide)⟩

/-- Two rulesets of one name share a path, and only the style guide of the second one is left. -/
theorem one_guide_for_two_rulesets :
    (apart "x-ruleset.yaml" "x-ruleset.yaml").Plain ∧
      (ofSettings {}).find (apart "x-ruleset.yaml" "x-ruleset.yaml") "." =
        .ok ["./a/x-ruleset.yaml", "./b/x-ruleset.yaml"] ∧
      (apartRun "x-ruleset.yaml" "x-ruleset.yaml").1 =
        .ok ["out/X_STYLE_GUIDE.md", "out/X_STYLE_GUIDE.md"] ∧
      (apartRun "x-ruleset.yaml" "x-ruleset.yaml").2.disk.readText "out/X_STYLE_GUIDE.md" =
        .ok "## B\n\n\n---\n" :=
  ⟨⟨Node.plain_of_nodes _ (by decide), by decide⟩, by decide +kernel, by decide +kernel,
    by decide +kernel⟩

end Generator

end StyleGuide
