import StyleGuide.CommandLine.Run
import StyleGuide.Proofs.Disk.Links
import StyleGuide.Proofs.Generate.Progress

/-!
# What a command line delivers

A command line has two ways out for a style guide, its output and a file, and a run uses one of them
at most. Whatever fails on the way fails before anything is delivered: a run that fails prints
nothing, and if it was for one ruleset, the disk is as it was.

A run for one ruleset that succeeds delivers the style guide that the library makes of the ruleset:
with the default severity, the palette and, where no format is asked for, the format of the settings
that are put together from all layers. It is printed, or it is what the output file holds afterwards.
No other file is touched then, even if the path of the output file leads through links.

The proof follows the run from the inside out. `Generator.Generates` lists what becomes of one style
guide, `SingleRun` what becomes of a run for one ruleset, and `Concluded` adds how the run ends.

## Main definitions

* `Generator.Generates`: All that generating a style guide can come to.
* `CommandLine.Arguments.Single`: Arguments that ask for one style guide.
* `CommandLine.IsGuide`: The style guide that arguments ask for.
* `CommandLine.SingleRun`: All that a run for one ruleset can come to.
* `CommandLine.Concluded`: How a run ends.
* `CommandLine.Delivers`: What can be relied on when a run has ended.

## Theorems

* `Generator.generates_of_run`: What generating a style guide comes to.
* `CommandLine.singleRun_of_execute`: What a run for one ruleset comes to.
* `CommandLine.run_delivers`: Every run delivers the style guide or nothing.
-/

namespace StyleGuide

namespace Generator

section Generate

variable (generator : Generator) (input : Path) (output : Option Path) (format : Text)

/-- All that generating a style guide can come to: its result, and the disk after it. -/
inductive Generates (disk : Disk) : Except Error (Option Text) → Disk → Prop where
  | unmade (error : Error) (hguide : generator.guide disk input format = .error error) :
      Generates disk (.error error) disk
  | printed (text : Text) (hguide : generator.guide disk input format = .ok text)
      (houtput : output = none) : Generates disk (.ok (some text)) disk
  | unwritten (path : Path) (text : Text) (fault : Disk.Fault)
      (hguide : generator.guide disk input format = .ok text) (houtput : output = some path)
      (hwrite : disk.writeText path text = .error fault) :
      Generates disk (.error (.disk path fault)) disk
  | written (path : Path) (text : Text) (after : Disk)
      (hguide : generator.guide disk input format = .ok text) (houtput : output = some path)
      (hwrite : disk.writeText path text = .ok after) : Generates disk (.ok none) after

theorem generates_of_run (session : Session) : ∃ result after log,
    (generator.generate input output format).run.run session = (result, ⟨after, log⟩) ∧
      generator.Generates input output format session.disk result after := by
  rcases run_loadAndRender generator input format session with ⟨log, hrender⟩
  cases hguide : generator.guide session.disk input format with
  | error error =>
      rw [hguide] at hrender
      refine ⟨.error error, session.disk, log, ?_, .unmade error hguide⟩
      cases output with
      | none => simp only [generate, map_eq_pure_bind, Work.run_bind, hrender]
      | some path => simp only [generate, write, Work.run_bind, hrender]
  | ok text =>
      rw [hguide] at hrender
      cases output with
      | none =>
          refine ⟨.ok (some text), session.disk, log, ?_, .printed text hguide rfl⟩
          simp only [generate, map_eq_pure_bind, Work.run_bind, hrender, Work.run_pure]
      | some path =>
          cases hwrite : session.disk.writeText path text with
          | error fault =>
              refine ⟨.error (.disk path fault), session.disk, log, ?_,
                .unwritten path text fault hguide rfl hwrite⟩
              simp only [generate, write, Work.run_bind, hrender, Work.run_writeText, hwrite]
          | ok after =>
              refine ⟨.ok none, after, log ++ [guideWritten path], ?_,
                .written path text after hguide rfl hwrite⟩
              simp only [generate, write, Work.run_bind, hrender, Work.run_writeText, hwrite,
                Work.run_tell, Work.run_pure]

end Generate

end Generator

namespace CommandLine

/-- Arguments that ask for the style guide of one ruleset. -/
structure Arguments.Single (arguments : Arguments) (input : Path) : Prop where
  listFormats : arguments.listFormats = false
  dir : arguments.dir = none
  input : arguments.input = some input

section Run

variable (environment : Config.Environment) (arguments : Arguments)

/-- The style guide that arguments ask for: the ruleset at `input`, scanned with the default
    severity of the settings and written with their palette, in the format that is asked for, or
    else in that of the settings. -/
def IsGuide (disk : Disk) (input : Path) (text : Text) : Prop :=
  ∃ settings source, Config.load disk environment (layers arguments) = .ok settings ∧
    disk.readText input = .ok source ∧
    (Registry.builtIn settings.palette).serialize (compile settings.scanOptions source)
      (arguments.format.getD settings.render.format) = .ok text

variable {environment arguments} in
theorem isGuide_iff {disk : Disk} {settings : Settings}
    (hsettings : Config.load disk environment (layers arguments) = .ok settings) (input : Path)
    (text : Text) : IsGuide environment arguments disk input text ↔
      (Generator.ofSettings settings).guide disk input
        (format (.ofSettings settings) arguments) = .ok text := by
  rw [Generator.guide_eq_ok_iff]
  constructor
  · rintro ⟨other, source, hother, hread, htext⟩
    rw [hsettings, Except.ok.injEq] at hother
    subst hother
    exact ⟨source, hread, htext⟩
  · rintro ⟨source, hread, htext⟩
    exact ⟨settings, source, hsettings, hread, htext⟩

variable {environment arguments} in
theorem IsGuide.unique {disk : Disk} {input : Path} {text other : Text}
    (htext : IsGuide environment arguments disk input text)
    (hother : IsGuide environment arguments disk input other) : text = other := by
  have hguide := htext
  rcases hguide with ⟨settings, _, hsettings, _, _⟩
  rw [isGuide_iff hsettings] at htext hother
  rw [htext, Except.ok.injEq] at hother
  exact hother

/-- All that a run for one ruleset can come to: its result, and the disk after it. -/
inductive SingleRun (disk : Disk) (input : Path) : Except Error Text → Disk → Prop where
  | unmade (error : Error) (hguide : ∀ text, ¬ IsGuide environment arguments disk input text) :
      SingleRun disk input (.error error) disk
  | printed (text : Text) (hguide : IsGuide environment arguments disk input text)
      (houtput : arguments.output = none) : SingleRun disk input (.ok text) disk
  | unwritten (path : Path) (text : Text) (fault : Disk.Fault)
      (hguide : IsGuide environment arguments disk input text)
      (houtput : arguments.output = some path) (hwrite : disk.writeText path text = .error fault) :
      SingleRun disk input (.error (.disk path fault)) disk
  | written (path : Path) (text : Text) (after : Disk)
      (hguide : IsGuide environment arguments disk input text)
      (houtput : arguments.output = some path) (hwrite : disk.writeText path text = .ok after) :
      SingleRun disk input (.ok []) after

theorem run_settings (session : Session) : (settings environment arguments).run.run session =
    ((Config.load session.disk environment (layers arguments)).mapError .config, session) := by
  rw [settings, Work.run_bind, Work.run_disk]
  cases hload : Config.load session.disk environment (layers arguments) <;>
    (simp only [hload]; rfl)

variable {arguments} in
theorem singleRun_of_execute {input : Path} (hsingle : arguments.Single input)
    (session : Session) : ∃ result after log,
      (execute environment arguments).run.run session = (result, ⟨after, log⟩) ∧
        SingleRun environment arguments session.disk input result after := by
  cases hsettings : Config.load session.disk environment (layers arguments) with
  | error error =>
      -- The run ends before the ruleset is read.
      refine ⟨.error (.config error), session.disk, session.log, ?_, .unmade _ ?_⟩
      · simp only [execute, Work.run_bind, run_settings, hsettings, Except.mapError]
      · rintro text ⟨settings, _, hother, _, _⟩
        rw [hsettings] at hother
        exact absurd hother (by simp only [reduceCtorEq, not_false_eq_true])
  | ok settings =>
      let generator := Generator.ofSettings settings
      have hexecute : (execute environment arguments).run.run session =
          (generator.generate input arguments.output (format generator arguments) >>=
            fun guide => pure (guide.getD [])).run.run session := by
        simp only [execute, Work.run_bind, run_settings, hsettings, Except.mapError, perform,
          hsingle.listFormats, hsingle.dir, hsingle.input, Bool.false_eq_true, if_false,
          map_eq_pure_bind, generator]
      rcases generator.generates_of_run input arguments.output (format generator arguments)
        session with ⟨result, after, log, hrun, hgenerates⟩
      have hguide := isGuide_iff hsettings input
      rw [hexecute, Work.run_bind, hrun]
      cases hgenerates with
      | unmade error hnone =>
          refine ⟨.error error, _, log, rfl, .unmade error fun text htext => ?_⟩
          rw [hguide, hnone] at htext
          exact absurd htext (by simp only [reduceCtorEq, not_false_eq_true])
      | printed text hsome houtput =>
          exact ⟨.ok text, _, log, rfl, .printed text ((hguide text).mpr hsome) houtput⟩
      | unwritten path text fault hsome houtput hwrite =>
          exact ⟨_, _, log, rfl,
            .unwritten path text fault ((hguide text).mpr hsome) houtput hwrite⟩
      | written path text after hsome houtput hwrite =>
          exact ⟨.ok [], after, log, rfl,
            .written path text after ((hguide text).mpr hsome) houtput hwrite⟩

/-- How a run ends whose work has come to a result and has left a disk. -/
inductive Concluded (after : Disk) : Except Error Text → Outcome → Prop where
  | success (output complaint : Text) (log : List Text) :
      Concluded after (.ok output) ⟨0, output, complaint, log, after⟩
  | failure (error : Error) (status : Nat) (complaint : Text) (log : List Text)
      (hstatus : status ≠ 0) : Concluded after (.error error) ⟨status, [], complaint, log, after⟩

theorem concluded_of_execute (filter : Log.Filter) (disk after : Disk)
    (result : Except Error Text) (log : List Log.Entry)
    (hrun : (execute environment arguments).run.run ⟨disk, []⟩ = (result, ⟨after, log⟩)) :
    Concluded after result (conclude environment arguments filter disk) := by
  rw [conclude, hrun]
  cases result with
  | ok output => exact .success output _ _
  | error error =>
      by_cases hbreakdown : error.isBreakdown = true
      · simp only [hbreakdown, if_true]
        exact .failure error breakdown _ _ (by decide)
      · simp only [hbreakdown, Bool.false_eq_true, if_false]
        exact .failure error 1 _ _ (by decide)

/-- What can be relied on when a run has ended. -/
structure Delivers (disk : Disk) (outcome : Outcome) : Prop where
  /-- A run that fails prints nothing. -/
  silent : outcome.status ≠ 0 → outcome.output = []
  /-- A run for one ruleset that fails leaves the disk alone. -/
  untouched : ∀ input, arguments.Single input → outcome.status ≠ 0 → outcome.disk = disk
  /-- Without a path for it, the style guide is printed, and nothing else happens. -/
  printed : ∀ input, arguments.Single input → arguments.output = none → outcome.status = 0 →
    IsGuide environment arguments disk input outcome.output ∧ outcome.disk = disk
  /-- With a path for it, the style guide is what the file holds, and nothing else happens. -/
  written : ∀ input path, arguments.Single input → arguments.output = some path →
    outcome.status = 0 → outcome.output = [] ∧
      ∃ text, IsGuide environment arguments disk input text ∧
        Disk.OnlyWritten path text disk outcome.disk
  /-- A run succeeds if there is a style guide and if it can be written where it is to go. -/
  succeeds : ∀ input text, arguments.Single input → (logFilter? environment arguments).isSome →
    IsGuide environment arguments disk input text →
    (∀ path, arguments.output = some path → ∃ after, disk.writeText path text = .ok after) →
    outcome.status = 0

variable {environment arguments} in
/-- A run that breaks down before it begins delivers nothing. -/
theorem delivers_of_breakdown {disk : Disk} (hfilter : logFilter? environment arguments = none) :
    Delivers environment arguments disk ⟨breakdown, [], [], [], disk⟩ := by
  have hstatus : breakdown ≠ 0 := by decide
  refine ⟨fun _ => rfl, fun _ _ _ => rfl, fun _ _ _ hzero => absurd hzero hstatus,
    fun _ _ _ _ hzero => absurd hzero hstatus, fun _ _ _ hsome => ?_⟩
  rw [hfilter, Option.isSome_none] at hsome
  exact absurd hsome Bool.false_ne_true

variable {environment arguments} in
/-- What a run for one ruleset comes to is delivered when it ends. -/
theorem delivers_of_concluded {disk after : Disk} {result : Except Error Text} {outcome : Outcome}
    (hsingle : ∀ input, arguments.Single input →
      SingleRun environment arguments disk input result after)
    (hconcluded : Concluded after result outcome) :
    Delivers environment arguments disk outcome := by
  cases hconcluded with
  | failure error status complaint log hstatus =>
      refine ⟨fun _ => rfl, fun input hinput _ => ?_, fun _ _ _ hzero => absurd hzero hstatus,
        fun _ _ _ _ hzero => absurd hzero hstatus, fun input text hinput _ hguide hwritable => ?_⟩
      · cases hsingle input hinput with
        | unmade | unwritten => rfl
      · cases hsingle input hinput with
        | unmade _ hnone => exact absurd hguide (hnone text)
        | unwritten path other fault hother houtput hwrite =>
            -- The text that could not be written is the one that could be.
            rcases hwritable path houtput with ⟨next, hnext⟩
            rw [hother.unique hguide, hnext] at hwrite
            exact absurd hwrite (by simp only [reduceCtorEq, not_false_eq_true])
  | success output complaint log =>
      refine ⟨fun hstatus => absurd rfl hstatus, fun _ _ hstatus => absurd rfl hstatus,
        fun input hinput houtput _ => ?_, fun input path hinput houtput _ => ?_,
        fun _ _ _ _ _ _ => rfl⟩
      · cases hsingle input hinput with
        | printed text hguide _ => exact ⟨hguide, rfl⟩
        | written path text after _ hpath _ =>
            -- Only a style guide with a path is written.
            rw [houtput] at hpath
            exact absurd hpath (by simp only [reduceCtorEq, not_false_eq_true])
      · cases hsingle input hinput with
        | printed text _ hnone =>
            -- Only a style guide without a path is printed.
            rw [houtput] at hnone
            exact absurd hnone (by simp only [reduceCtorEq, not_false_eq_true])
        | written other text after hguide hother hwrite =>
            rw [houtput, Option.some.injEq] at hother
            subst hother
            exact ⟨rfl, text, hguide, Disk.onlyWritten_of_writeText disk _ path text hwrite⟩

end Run

/-- A run delivers the style guide that it was asked for, or nothing. -/
theorem run_delivers (environment : Config.Environment) (words : List Text) (disk : Disk)
    (arguments : Arguments) (haccepted : Request.ofWords? words = some (.run arguments)) :
    Delivers environment arguments disk (run environment words disk) := by
  cases hfilter : logFilter? environment arguments with
  | none =>
      simp only [run, haccepted, hfilter]
      exact delivers_of_breakdown hfilter
  | some filter =>
      simp only [run, haccepted, hfilter]
      rcases hexecute : (execute environment arguments).run.run ⟨disk, []⟩ with
        ⟨result, after, log⟩
      refine delivers_of_concluded (fun input hinput => ?_)
        (concluded_of_execute environment arguments filter disk after result log hexecute)
      rcases singleRun_of_execute environment hinput ⟨disk, []⟩ with
        ⟨other, next, _, hother, hsingle⟩
      -- Both are the one course that the run has taken.
      rw [hexecute] at hother
      cases hother
      exact hsingle

/-- A disk with one ruleset, whose only rule has no severity of its own. -/
def quietDisk : Disk where
  root := .directory [("in.yaml", .file (.text "# Section: S\nrules:\n  # Be brief.\n  brief:\n"))]
  cwd := []

/-- An environment that sets the default severity. -/
def hintEnvironment : Config.Environment := [("RULEDOC_SCAN__DEFAULT_SEVERITY", "hint")]

/-- The style guide of this ruleset goes into a file. -/
theorem run_delivers_quiet :
    (run hintEnvironment ["in.yaml", "out.md"] quietDisk).output = [] ∧
      ∃ text, IsGuide hintEnvironment { input := some "in.yaml", output := some "out.md" }
          quietDisk "in.yaml" text ∧
        Disk.OnlyWritten "out.md" text quietDisk
          (run hintEnvironment ["in.yaml", "out.md"] quietDisk).disk :=
  (run_delivers hintEnvironment ["in.yaml", "out.md"] quietDisk
    { input := some "in.yaml", output := some "out.md" } (by decide)).written "in.yaml" "out.md"
    ⟨rfl, rfl, rfl⟩ rfl (by decide +kernel)

end CommandLine

end StyleGuide
