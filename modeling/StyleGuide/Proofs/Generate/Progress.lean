import StyleGuide.Proofs.Generate.Find

/-!
# The course of directory mode

What directory mode does, step after step, until it ends or stops at an error.

Each ruleset is one job: it is read from the disk as it is by then, and its style guide is written.
`Worked` strings jobs together, each on the disk that the one before has left. A run of directory
mode is a search, the making of the output directory and jobs for the rulesets in order, up to the
first that fails. `Outcome` lists all that a run can come to, and `generateAll_outcome` says that
there is nothing else.

Nothing is skipped: a file counts as a ruleset by the same suffix that its style guide is named by.

## Main definitions

* `Generator.guide`: The text of the style guide of a ruleset.
* `Generator.output?`: Where the style guide of a ruleset goes.
* `Generator.Job`, `Generator.Worked`: Jobs, and what they make of a disk.
* `Generator.Job.put`: The change of a disk that a job is.
* `Generator.Fails`: Why there is no style guide for a ruleset.
* `Generator.Outcome`: All that a run of directory mode can come to.
* `Generator.Completed`: A run that has written a style guide for each ruleset.

## Theorems

* `Generator.run_loadAndRender`: How a style guide is made.
* `Generator.write_run`, `Generator.write_cases`: One job.
* `Generator.writeEach_run`: The jobs up to the first that fails.
* `Generator.writeEach_of_worked`: Jobs that can be done are done.
* `Generator.generateAll_outcome`: What directory mode comes to.
* `Generator.Outcome.cases_of_ok`, `Generator.Outcome.cases_of_error`: What a result tells about a
  run that has found its rulesets.
* `Generator.completed_of_run`: A run that succeeds has done one job for each ruleset.
* `Generator.Worked.puts`: Jobs are changes of a disk, one each.
-/

namespace StyleGuide

namespace Work

/-! ### Work from a session -/

variable {α β : Type}

theorem run_bind (work : Work α) (next : α → Work β) (session : Session) :
    (work >>= next).run.run session =
      match work.run.run session with
      | (.ok a, middle) => (next a).run.run middle
      | (.error error, middle) => (.error error, middle) := by
  simp only [ExceptT.run_bind, StateT.run_bind]
  rcases work.run.run session with ⟨result, middle⟩
  cases result <;> rfl

theorem run_pure (a : α) (session : Session) :
    (pure a : Work α).run.run session = (.ok a, session) := rfl

theorem run_throw (error : Error) (session : Session) :
    (throw error : Work α).run.run session = (.error error, session) := rfl

theorem run_tell (entries : List Log.Entry) (session : Session) :
    (tell entries).run.run session = (.ok (), ⟨session.disk, session.log ++ entries⟩) := rfl

theorem run_disk (session : Session) : disk.run.run session = (.ok session.disk, session) := rfl

theorem run_readText (path : Path) (session : Session) : (readText path).run.run session =
    ((session.disk.readText path).mapError (.disk path), session) := by
  rw [readText, run_bind, run_disk]
  cases hread : session.disk.readText path <;> (simp only [hread]; rfl)

theorem run_writeText (path : Path) (text : Text) (session : Session) :
    (writeText path text).run.run session =
      match session.disk.writeText path text with
      | .ok after => (.ok (), ⟨after, session.log⟩)
      | .error fault => (.error (.disk path fault), session) := by
  rw [writeText, run_bind, run_disk]
  cases hwrite : session.disk.writeText path text <;> (simp only [hwrite]; rfl)

theorem run_makeDirectories (path : Path) (session : Session) :
    (makeDirectories path).run.run session =
      ((session.disk.makeDirectories path).2.mapError (.disk path),
        ⟨(session.disk.makeDirectories path).1, session.log⟩) := by
  rw [makeDirectories, run_bind, run_disk]
  rcases hmake : session.disk.makeDirectories path with ⟨after, result⟩
  simp only [hmake]
  cases result <;> rfl

end Work

namespace Generator

open Disk

/-! ### One style guide -/

/-- The text of the style guide of a ruleset, or why there is none. -/
def guide (generator : Generator) (disk : Disk) (ruleset : Path) (format : Text) :
    Except Error Text :=
  match disk.readText ruleset with
  | .ok source => (generator.render (generator.compile source) format).mapError .format
  | .error fault => .error (.disk ruleset fault)

theorem guide_eq_ok_iff (generator : Generator) (disk : Disk) (ruleset : Path)
    (format text : Text) : generator.guide disk ruleset format = .ok text ↔
      ∃ source, disk.readText ruleset = .ok source ∧
        generator.render (generator.compile source) format = .ok text := by
  rw [guide]
  cases disk.readText ruleset with
  | error fault => simp only [reduceCtorEq, false_and, exists_false]
  | ok source =>
      simp only [Except.ok.injEq, exists_eq_left']
      cases generator.render (generator.compile source) format <;>
        simp only [Except.mapError, Except.ok.injEq, reduceCtorEq]

theorem guide_eq_error (generator : Generator) (disk : Disk) (ruleset : Path) (format : Text)
    (error : Error) (h : generator.guide disk ruleset format = .error error) :
    (∃ fault, disk.readText ruleset = .error fault ∧ error = .disk ruleset fault) ∨
      ∃ source reason, disk.readText ruleset = .ok source ∧
        generator.render (generator.compile source) format = .error reason ∧
        error = .format reason := by
  rw [guide] at h
  cases hread : disk.readText ruleset with
  | error fault =>
      simp only [hread, Except.error.injEq] at h
      exact Or.inl ⟨fault, rfl, h.symm⟩
  | ok source =>
      simp only [hread] at h
      cases hrender : generator.render (generator.compile source) format with
      | error reason =>
          simp only [hrender, Except.mapError, Except.error.injEq] at h
          exact Or.inr ⟨source, reason, rfl, hrender, h.symm⟩
      | ok text => simp only [hrender, Except.mapError, reduceCtorEq] at h

/-- A style guide is made from what is on the disk, and the disk stays as it is. -/
theorem run_loadAndRender (generator : Generator) (ruleset : Path) (format : Text)
    (session : Session) : ∃ log, (generator.loadAndRender ruleset format).run.run session =
      (generator.guide session.disk ruleset format, ⟨session.disk, log⟩) := by
  cases hread : session.disk.readText ruleset with
  | error fault =>
      refine ⟨session.log, ?_⟩
      simp only [loadAndRender, load, guide, Work.run_bind, Work.run_readText, hread,
        Except.mapError]
  | ok source =>
      refine ⟨session.log ++ (rulesetLoaded ruleset source ::
        scanReport generator.options source), ?_⟩
      simp only [loadAndRender, load, guide, Work.run_bind, Work.run_readText, hread,
        Except.mapError, Work.run_tell, Work.run_pure]
      cases generator.render (generator.compile source) format <;> rfl

/-! ### One job -/

/-- Where the style guide of a ruleset goes. -/
def output? (generator : Generator) (outDir : Path) (extension : Text) (ruleset : Path) :
    Option Path :=
  (generator.outputName? ruleset extension).map (Path.join outDir)

/-- A style guide that is written: for which ruleset, where, and its text. -/
structure Job where
  ruleset : Path
  output : Path
  text : Text

section Jobs

variable (generator : Generator) (outDir : Path) (format extension : Text)

/-- A job that can be done on a disk: the ruleset is read there, and the text is its rendering. -/
structure Job.Ready (disk : Disk) (job : Job) : Prop where
  output : generator.output? outDir extension job.ruleset = some job.output
  text : ∃ source, disk.readText job.ruleset = .ok source ∧
    generator.render (generator.compile source) format = .ok job.text

/-- Jobs done one after the other, and the disk after them. -/
inductive Worked : Disk → List Job → Disk → Prop where
  | nil (disk : Disk) : Worked disk [] disk
  | cons {disk next after : Disk} {job : Job} {jobs : List Job}
      (hready : job.Ready generator outDir format extension disk)
      (hwrite : disk.writeText job.output job.text = .ok next) (hrest : Worked next jobs after) :
      Worked disk (job :: jobs) after

/-- Why there is no style guide for a ruleset. -/
inductive Fails (disk : Disk) (ruleset : Path) : Error → Prop where
  | reading (fault : Fault) (hread : disk.readText ruleset = .error fault) :
      Fails disk ruleset (.disk ruleset fault)
  | rendering (source : Text) (error : FormatError) (hread : disk.readText ruleset = .ok source)
      (hrender : generator.render (generator.compile source) format = .error error) :
      Fails disk ruleset (.format error)
  | writing (job : Job) (fault : Fault) (hruleset : job.ruleset = ruleset)
      (hready : job.Ready generator outDir format extension disk)
      (hwrite : disk.writeText job.output job.text = .error fault) :
      Fails disk ruleset (.disk job.output fault)

variable {generator outDir format extension}

/-- A job that can be done is done. -/
theorem write_run (job : Job) (session : Session) (next : Disk)
    (hready : job.Ready generator outDir format extension session.disk)
    (hwrite : session.disk.writeText job.output job.text = .ok next) :
    ∃ log, (generator.write job.ruleset job.output format).run.run session =
      (.ok (), ⟨next, log⟩) := by
  rcases run_loadAndRender generator job.ruleset format session with ⟨log, hrender⟩
  rw [(generator.guide_eq_ok_iff _ _ _ _).mpr hready.text] at hrender
  refine ⟨log ++ [guideWritten job.output], ?_⟩
  simp only [write, Work.run_bind, hrender, Work.run_writeText, hwrite, Work.run_tell]

variable (format) in
/-- A job is done, or it fails and changes nothing on the disk. -/
theorem write_cases (ruleset output : Path) (session : Session)
    (houtput : generator.output? outDir extension ruleset = some output) :
    (∃ text next, Job.Ready generator outDir format extension session.disk
        ⟨ruleset, output, text⟩ ∧ session.disk.writeText output text = .ok next) ∨
      ∃ error log, (generator.write ruleset output format).run.run session =
        (.error error, ⟨session.disk, log⟩) ∧
        Fails generator outDir format extension session.disk ruleset error := by
  rcases run_loadAndRender generator ruleset format session with ⟨log, hrender⟩
  cases hguide : generator.guide session.disk ruleset format with
  | error error =>
      rw [hguide] at hrender
      refine Or.inr ⟨error, log, by simp only [write, Work.run_bind, hrender], ?_⟩
      rcases generator.guide_eq_error _ _ _ _ hguide with
        ⟨fault, hread, rfl⟩ | ⟨source, reason, hread, hformat, rfl⟩
      · exact .reading fault hread
      · exact .rendering source reason hread hformat
  | ok text =>
      rw [hguide] at hrender
      have hready : Job.Ready generator outDir format extension session.disk
          ⟨ruleset, output, text⟩ := ⟨houtput, (generator.guide_eq_ok_iff _ _ _ _).mp hguide⟩
      cases hwrite : session.disk.writeText output text with
      | error fault =>
          refine Or.inr ⟨_, log, ?_, .writing ⟨ruleset, output, text⟩ fault rfl hready hwrite⟩
          simp only [write, Work.run_bind, hrender, Work.run_writeText, hwrite]
      | ok next => exact Or.inl ⟨text, next, hready, hwrite⟩

/-! ### One job after the other -/

theorem exists_name_of_output? (ruleset output : Path)
    (h : generator.output? outDir extension ruleset = some output) :
    ∃ name, generator.outputName? ruleset extension = some name ∧
      output = Path.join outDir name := by
  rw [output?, Option.map_eq_some_iff] at h
  rcases h with ⟨name, hname, rfl⟩
  exact ⟨name, hname, rfl⟩

/-- Jobs that can be done are done, and their outputs are given in order. -/
theorem writeEach_of_worked (jobs : List Job) (session : Session) (after : Disk)
    (h : Worked generator outDir format extension session.disk jobs after) :
    ∃ log, (generator.writeEach outDir format extension (jobs.map Job.ruleset)).run.run session =
      (.ok (jobs.map Job.output), ⟨after, log⟩) := by
  generalize hdisk : session.disk = disk at h
  -- Each job runs in the session that the jobs before it have left.
  induction h generalizing session with
  | nil => exact ⟨session.log, by rw [← hdisk]; rfl⟩
  | @cons disk next after job jobs hready hwrite _ ih =>
      subst hdisk
      rcases exists_name_of_output? _ _ hready.output with ⟨name, hname, houtput⟩
      rcases write_run job session next hready hwrite with ⟨log, hrun⟩
      rcases ih ⟨next, log⟩ rfl with ⟨last, hlast⟩
      refine ⟨last, ?_⟩
      rw [houtput] at hrun
      simp only [List.map_cons, writeEach, hname, Work.run_bind, hrun, hlast, Work.run_pure,
        houtput]

variable (outDir format) in
/-- The jobs are done up to the first that fails. -/
theorem writeEach_run (rulesets : List Path) (session : Session)
    (hnames : ∀ ruleset ∈ rulesets, ∃ name, generator.outputName? ruleset extension = some name) :
    (∃ jobs after, rulesets = jobs.map Job.ruleset ∧
        Worked generator outDir format extension session.disk jobs after) ∨
      ∃ done ruleset rest after error log, rulesets = done.map Job.ruleset ++ ruleset :: rest ∧
        Worked generator outDir format extension session.disk done after ∧
        Fails generator outDir format extension after ruleset error ∧
        (generator.writeEach outDir format extension rulesets).run.run session =
          (.error error, ⟨after, log⟩) := by
  induction rulesets generalizing session with
  | nil => exact Or.inl ⟨[], session.disk, rfl, .nil _⟩
  | cons ruleset rest ih =>
      rcases hnames ruleset List.mem_cons_self with ⟨name, hname⟩
      have houtput : generator.output? outDir extension ruleset = some (Path.join outDir name) := by
        rw [output?, hname, Option.map_some]
      rcases write_cases format ruleset _ session houtput with
        ⟨text, next, hready, hwrite⟩ | ⟨error, log, hrun, hfails⟩
      · -- The first job is done, and the others run on the disk that it leaves.
        rcases write_run _ session next hready hwrite with ⟨log, hrun⟩
        rcases ih ⟨next, log⟩ fun other hother => hnames other (List.mem_cons_of_mem _ hother) with
          ⟨jobs, after, hrest, hworked⟩ | ⟨done, failed, later, after, error, last, hrest, hworked,
            hfails, hlast⟩
        · exact Or.inl ⟨⟨ruleset, _, text⟩ :: jobs, after, by rw [hrest, List.map_cons],
            .cons hready hwrite hworked⟩
        · refine Or.inr ⟨⟨ruleset, _, text⟩ :: done, failed, later, after, error, last,
            by rw [hrest, List.map_cons, List.cons_append], .cons hready hwrite hworked, hfails, ?_⟩
          simp only [writeEach, hname, Work.run_bind, hrun, hlast]
      · -- The first job fails, so nothing else is done.
        refine Or.inr ⟨[], ruleset, rest, session.disk, error, log, rfl, .nil _, hfails, ?_⟩
        simp only [writeEach, hname, Work.run_bind, hrun]

/-! ### Jobs as changes of a disk -/

/-- The change that a job makes, at the place where its output leads. -/
def Job.put (disk : Disk) (job : Job) : Location × Leaf :=
  ((disk.place? job.output).getD [], .file job.text)

/-- The output of a job is the path of a file. -/
structure Job.Goes (disk : Disk) (job : Job) : Prop where
  check : checkPath job.output = .ok ()
  slash : Path.wantsDirectory job.output = false
  place : (disk.place? job.output).isSome = true

theorem Job.Goes.place?_eq {disk : Disk} {job : Job} (h : job.Goes disk) :
    disk.place? job.output = some (job.put disk).1 := by
  rcases Option.isSome_iff_exists.mp h.place with ⟨place, hplace⟩
  rw [put, hplace, Option.getD_some]

/-- The places of the changes are those where the outputs lead. -/
theorem mem_places_iff {disk : Disk} {jobs : List Job} (h : ∀ job ∈ jobs, job.Goes disk)
    (place : Location) : place ∈ (jobs.map (Job.put disk)).map Prod.fst ↔
      ∃ job ∈ jobs, disk.place? job.output = some place := by
  simp only [List.map_map, List.mem_map, Function.comp_apply]
  constructor
  · rintro ⟨job, hjob, rfl⟩
    exact ⟨job, hjob, (h job hjob).place?_eq⟩
  · rintro ⟨job, hjob, hplace⟩
    rw [(h job hjob).place?_eq, Option.some.injEq] at hplace
    exact ⟨job, hjob, hplace⟩

theorem file_of_mem_puts (disk : Disk) (jobs : List Job) :
    ∀ put ∈ jobs.map (Job.put disk), put.2 ≠ .directory := by
  intro put hput
  rcases List.mem_map.mp hput with ⟨job, _, rfl⟩
  simp only [Job.put, ne_eq, reduceCtorEq, not_false_eq_true]

/-- Each job is one change of the disk, at a place that is the same on the disk afterwards. -/
theorem Worked.puts {disk after : Disk} {jobs : List Job} (hplain : disk.Plain)
    (h : Worked generator outDir format extension disk jobs after) :
    Puts disk (jobs.map (Job.put after)) after ∧ ∀ job ∈ jobs, job.Goes after := by
  induction h with
  | nil => exact ⟨.nil _, fun job hjob => absurd hjob List.not_mem_nil⟩
  | @cons disk next after job jobs _ hwrite _ ih =>
      rcases puttable_of_writeText hplain _ _ _ hwrite with ⟨place, hplace, hput, rfl⟩
      have hfirst : Puts disk [(place, .file job.text)]
          (disk.putAt place (.file (.text job.text))) := .cons hput (.nil _)
      rcases ih (hplain.puts hfirst) with ⟨hrest, hgoes⟩
      have hputs : Puts disk ((place, .file job.text) :: jobs.map (Job.put after)) after :=
        .cons hput hrest
      -- The jobs that follow leave the path of this output leading where it leads.
      have hlater := place?_puts hplain hputs job.output place hplace
      have hsame : job.put after = (place, .file job.text) := by
        rw [Job.put, hlater, Option.getD_some]
      rw [List.map_cons, hsame]
      refine ⟨hputs, fun other hother => ?_⟩
      rcases List.mem_cons.mp hother with rfl | hother
      · rcases (writeText_eq_ok_iff hplain _ _ _).mp hwrite with ⟨hcheck, hslash, _⟩
        exact ⟨hcheck, hslash, by rw [hlater]; rfl⟩
      · exact hgoes other hother

end Jobs

/-! ### The whole run -/

section Run

variable (generator : Generator) (dir outDir : Path) (format : Text)

/-- All that a run of directory mode can come to: its result, and the disk after it. -/
inductive Outcome (disk : Disk) : Except Error (List Path) → Disk → Prop where
  | unknown (hformat : generator.registry.get? format = none) :
      Outcome disk (.error (.format (.notFound format))) disk
  | lost (formatter : Formatter) (error : Error)
      (hformat : generator.registry.get? format = some formatter)
      (hfind : generator.find disk dir = .error error) : Outcome disk (.error error) disk
  | nothing (formatter : Formatter) (hformat : generator.registry.get? format = some formatter)
      (hfind : generator.find disk dir = .ok []) : Outcome disk (.ok []) disk
  | blocked (formatter : Formatter) (rulesets : List Path) (fault : Fault)
      (hformat : generator.registry.get? format = some formatter)
      (hfind : generator.find disk dir = .ok rulesets) (hne : rulesets ≠ [])
      (hmake : (disk.makeDirectories outDir).2 = .error fault) :
      Outcome disk (.error (.disk outDir fault)) (disk.makeDirectories outDir).1
  | stopped (formatter : Formatter) (done : List Job) (ruleset : Path) (rest : List Path)
      (error : Error) (after : Disk)
      (hformat : generator.registry.get? format = some formatter)
      (hfind : generator.find disk dir = .ok (done.map Job.ruleset ++ ruleset :: rest))
      (hmake : (disk.makeDirectories outDir).2 = .ok ())
      (hworked : Worked generator outDir format formatter.fileExtension
        (disk.makeDirectories outDir).1 done after)
      (hfails : Fails generator outDir format formatter.fileExtension after ruleset error) :
      Outcome disk (.error error) after
  | finished (formatter : Formatter) (jobs : List Job) (after : Disk)
      (hformat : generator.registry.get? format = some formatter)
      (hfind : generator.find disk dir = .ok (jobs.map Job.ruleset)) (hne : jobs ≠ [])
      (hmake : (disk.makeDirectories outDir).2 = .ok ())
      (hworked : Worked generator outDir format formatter.fileExtension
        (disk.makeDirectories outDir).1 jobs after) :
      Outcome disk (.ok (jobs.map Job.output)) after

variable (session : Session)

theorem generateAll_nothing (formatter : Formatter)
    (hformat : generator.registry.get? format = some formatter)
    (hfind : generator.find session.disk dir = .ok []) :
    (generator.generateAll dir outDir format).run.run session = (.ok [], ⟨session.disk,
      session.log ++ [nothingFound dir generator.batch.rulesetSuffix]⟩) := by
  simp only [generateAll, hformat, Work.run_bind, Work.run_disk, hfind, Work.run_tell,
    Work.run_pure]

/-- After the search, and once the output directory is made, only the jobs are left. -/
theorem generateAll_found (formatter : Formatter) (rulesets : List Path)
    (hformat : generator.registry.get? format = some formatter)
    (hfind : generator.find session.disk dir = .ok rulesets) (hne : rulesets ≠ []) :
    (generator.generateAll dir outDir format).run.run session =
      match (session.disk.makeDirectories outDir).2 with
      | .error fault =>
        (.error (.disk outDir fault), ⟨(session.disk.makeDirectories outDir).1, session.log⟩)
      | .ok () => (generator.writeEach outDir format formatter.fileExtension rulesets).run.run
          ⟨(session.disk.makeDirectories outDir).1, session.log⟩ := by
  cases rulesets with
  | nil => exact absurd rfl hne
  | cons ruleset rest =>
      simp only [generateAll, hformat, Work.run_bind, Work.run_disk, hfind,
        Work.run_makeDirectories]
      cases (session.disk.makeDirectories outDir).2 <;> simp only [Except.mapError]

/-- A run comes to one of these outcomes. -/
theorem generateAll_outcome (hplain : session.disk.Plain) :
    Outcome generator dir outDir format session.disk
      ((generator.generateAll dir outDir format).run.run session).1
      ((generator.generateAll dir outDir format).run.run session).2.disk := by
  cases hformat : generator.registry.get? format with
  | none =>
      simp only [generateAll, hformat, Work.run_throw]
      exact .unknown hformat
  | some formatter =>
      cases hfind : generator.find session.disk dir with
      | error error =>
          simp only [generateAll, hformat, Work.run_bind, Work.run_disk, hfind, Work.run_throw]
          exact .lost formatter error hformat hfind
      | ok rulesets =>
          by_cases hnil : rulesets = []
          · subst hnil
            rw [generateAll_nothing generator dir outDir format session formatter hformat hfind]
            exact .nothing formatter hformat hfind
          rw [generateAll_found generator dir outDir format session formatter rulesets hformat hfind
            hnil]
          cases hmake : (session.disk.makeDirectories outDir).2 with
          | error fault => exact .blocked formatter rulesets fault hformat hfind hnil hmake
          | ok =>
              rcases (find_eq_ok_iff generator hplain dir rulesets).mp hfind with
                ⟨home, locations, hfinds, hrulesets⟩
              -- Every ruleset that was found has a name for its style guide, so none is skipped.
              have hnames := hfinds.exists_outputName? hplain formatter.fileExtension
              rw [← hrulesets] at hnames
              dsimp only
              rcases writeEach_run outDir format rulesets
                ⟨(session.disk.makeDirectories outDir).1, session.log⟩ hnames with
                ⟨jobs, after, rfl, hworked⟩ | ⟨done, ruleset, rest, after, error, log, rfl, hworked,
                  hfails, hrun⟩
              · rcases writeEach_of_worked jobs _ after hworked with ⟨log, hrun⟩
                rw [hrun]
                have hjobs : jobs ≠ [] := fun h => hnil (by rw [h, List.map_nil])
                exact .finished formatter jobs after hformat hfind hjobs hmake hworked
              · rw [hrun]
                exact .stopped formatter done ruleset rest error after hformat hfind hmake hworked
                  hfails

section Known

variable {generator dir outDir format}
variable {formatter : Formatter} {rulesets : List Path} {disk after : Disk}
  (hformat : generator.registry.get? format = some formatter)
  (hfind : generator.find disk dir = .ok rulesets)

include hformat hfind

/-- A run that succeeds has found nothing and changed nothing, or it has done one job for each
    ruleset. -/
theorem Outcome.cases_of_ok {outputs : List Path}
    (h : Outcome generator dir outDir format disk (.ok outputs) after) :
    rulesets = [] ∧ outputs = [] ∧ after = disk ∨
      ∃ jobs, jobs ≠ [] ∧ rulesets = jobs.map Job.ruleset ∧ outputs = jobs.map Job.output ∧
        (disk.makeDirectories outDir).2 = .ok () ∧
        Worked generator outDir format formatter.fileExtension (disk.makeDirectories outDir).1 jobs
          after := by
  cases h with
  | nothing _ _ hfound =>
      rw [hfind, Except.ok.injEq] at hfound
      exact Or.inl ⟨hfound, rfl, rfl⟩
  | finished known jobs _ hknown hfound hne hmake hworked =>
      rw [hformat, Option.some.injEq] at hknown
      rw [hfind, Except.ok.injEq] at hfound
      subst hknown
      exact Or.inr ⟨jobs, hne, hfound, rfl, hmake, hworked⟩

/-- A run that fails after the search could not make the output directory, or it has failed at a
    ruleset and done the jobs for those before. -/
theorem Outcome.cases_of_error {error : Error}
    (h : Outcome generator dir outDir format disk (.error error) after) :
    (∃ fault, (disk.makeDirectories outDir).2 = .error fault ∧ error = .disk outDir fault ∧
        after = (disk.makeDirectories outDir).1) ∨
      ∃ done ruleset rest, rulesets = done.map Job.ruleset ++ ruleset :: rest ∧
        (disk.makeDirectories outDir).2 = .ok () ∧
        Worked generator outDir format formatter.fileExtension (disk.makeDirectories outDir).1 done
          after ∧
        Fails generator outDir format formatter.fileExtension after ruleset error := by
  cases h with
  | unknown hnone =>
      rw [hformat] at hnone
      simp only [reduceCtorEq] at hnone
  | lost _ _ _ hlost =>
      rw [hfind] at hlost
      simp only [reduceCtorEq] at hlost
  | blocked _ _ fault _ _ _ hmake => exact Or.inl ⟨fault, hmake, rfl, rfl⟩
  | stopped known done ruleset rest _ _ hknown hfound hmake hworked hfails =>
      rw [hformat, Option.some.injEq] at hknown
      rw [hfind, Except.ok.injEq] at hfound
      subst hknown
      exact Or.inr ⟨done, ruleset, rest, hfound, hmake, hworked, hfails⟩

end Known

/-- A run that has found rulesets at `locations` below `home` and written a style guide for each. -/
structure Completed (extension : Text) (home : Location) (locations : List Location) (disk : Disk)
    (jobs : List Job) (after : Disk) : Prop where
  plain : disk.Plain
  finds : generator.Finds disk dir home locations
  rulesets : jobs.map Job.ruleset = locations.map (Path.below dir)
  make : (disk.makeDirectories outDir).2 = .ok ()
  worked : Worked generator outDir format extension (disk.makeDirectories outDir).1 jobs after

variable {generator dir outDir format} in
/-- Each job is for a ruleset that was on the disk before the run. -/
theorem Completed.exists_ruleset {extension : Text} {home : Location} {locations : List Location}
    {disk after : Disk} {jobs : List Job}
    (h : Completed generator dir outDir format extension home locations disk jobs after) :
    ∀ job ∈ jobs, ∃ place, disk.place? job.ruleset = some place ∧
      generator.RulesetAt disk place := by
  intro job hjob
  have hmem : job.ruleset ∈ locations.map (Path.below dir) := by
    rw [← h.rulesets]
    exact List.mem_map_of_mem hjob
  rcases List.mem_map.mp hmem with ⟨location, hlocation, heq⟩
  have hplace := h.finds.place? h.plain location hlocation
  rw [heq] at hplace
  exact ⟨_, hplace, ((h.finds.mem_iff location).mp hlocation).2⟩

/-- A run that succeeds has found nothing and changed nothing, or it has done one job for each
    ruleset. -/
theorem completed_of_run (hplain : session.disk.Plain) (formatter : Formatter)
    (hformat : generator.registry.get? format = some formatter) (rulesets outputs : List Path)
    (after : Disk) (log : List Log.Entry)
    (hfind : generator.find session.disk dir = .ok rulesets)
    (hrun : (generator.generateAll dir outDir format).run.run session =
      (.ok outputs, ⟨after, log⟩)) :
    rulesets = [] ∧ outputs = [] ∧ after = session.disk ∨
      ∃ jobs home locations, jobs ≠ [] ∧ rulesets = jobs.map Job.ruleset ∧
        outputs = jobs.map Job.output ∧
        Completed generator dir outDir format formatter.fileExtension home locations session.disk
          jobs after := by
  have houtcome := generateAll_outcome generator dir outDir format session hplain
  rw [hrun] at houtcome
  rcases houtcome.cases_of_ok hformat hfind with
    hnothing | ⟨jobs, hne, rfl, houtputs, hmake, hworked⟩
  · exact Or.inl hnothing
  · rcases (find_eq_ok_iff generator hplain dir _).mp hfind with
      ⟨home, locations, hfinds, hrulesets⟩
    exact Or.inr ⟨jobs, home, locations, hne, rfl, houtputs, hplain, hfinds, hrulesets, hmake,
      hworked⟩

end Run

end Generator

end StyleGuide
