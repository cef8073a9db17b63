import StyleGuide.Generator
import StyleGuide.Proofs.Disk.Path
import StyleGuide.Proofs.Text.Trim
import StyleGuide.Proofs.Text.Upper

/-!
# Names of style guides

What the name of a style guide looks like, whatever the ruleset is called and whatever the suffixes
are set to.

The name is made of the upper case form of what the ruleset's name has before its suffix, of the
output suffix up to its last dot, and of the extension. Upper-casing makes no slash, so slashes come
from the output suffix alone, and the name always ends in the extension. A path with that name
therefore never asks for a directory, and its last segment is the end of the name.

## Theorems

* `Text.beforeEnd?_eq_some_iff`, `Text.hasEnd_iff`: Ends of texts.
* `Registry.get?_builtIn`, `Registry.serialize_builtIn`: The formats that are always there.
* `Generator.outputName?_eq_some_iff`: What a style guide is called.
* `Generator.slash_not_mem_outputName`: Where slashes in a name come from.
* `Generator.exists_last_segment_output`: What the path of a style guide ends in.
* `Generator.not_hasEnd_outputName`: With the default suffixes no style guide has the name of a
  ruleset.
-/

namespace StyleGuide

namespace Text

/-! ### Ends of texts -/

theorem beforeEnd?_eq_some_iff (tail text base : Text) :
    beforeEnd? tail text = some base ↔ text = base ++ tail := by
  rw [beforeEnd?, Option.map_eq_some_iff]
  constructor
  · rintro ⟨rest, hrest, rfl⟩
    rw [afterLead?_eq_some_iff] at hrest
    rw [← List.reverse_reverse text, hrest, List.reverse_append, List.reverse_reverse]
  · rintro rfl
    exact ⟨base.reverse, by rw [List.reverse_append, afterLead?_append], List.reverse_reverse base⟩

theorem hasEnd_iff (tail text : Text) : hasEnd tail text = true ↔ tail <:+ text := by
  rw [hasEnd, Option.isSome_iff_exists]
  constructor
  · rintro ⟨base, hbase⟩
    exact ⟨base, ((beforeEnd?_eq_some_iff tail text base).mp hbase).symm⟩
  · rintro ⟨base, hbase⟩
    exact ⟨base, (beforeEnd?_eq_some_iff tail text base).mpr hbase.symm⟩

theorem splitFirst?_eq_some (mark : Char) (text before after : Text)
    (h : splitFirst? mark text = some (before, after)) : text = before ++ mark :: after := by
  induction text generalizing before with
  | nil => simp only [splitFirst?, reduceCtorEq] at h
  | cons c text ih =>
      rw [splitFirst?] at h
      split at h
      · rename_i hc
        simp only [Option.some.injEq, Prod.mk.injEq] at h
        rw [← h.1, ← h.2, hc, List.nil_append]
      · simp only [Option.map_eq_some_iff, Prod.mk.injEq, Prod.exists] at h
        rcases h with ⟨front, _, hrest, rfl, rfl⟩
        rw [ih front hrest, List.cons_append]

theorem splitLast?_eq_some (mark : Char) (text before after : Text)
    (h : splitLast? mark text = some (before, after)) : text = before ++ mark :: after := by
  simp only [splitLast?, Option.map_eq_some_iff, Prod.mk.injEq, Prod.exists] at h
  rcases h with ⟨back, front, hsplit, rfl, rfl⟩
  have hreverse := splitFirst?_eq_some mark text.reverse back front hsplit
  rw [← List.reverse_reverse text, hreverse, List.reverse_append, List.reverse_cons,
    List.append_assoc, List.singleton_append]

end Text

/-! ### The formats that are always there -/

namespace Registry

variable (palette : Palette) (format : Text) (formatter : Formatter)
  (h : (builtIn palette).get? format = some formatter)

include h

theorem get?_builtIn : formatter = .markdown palette ∨ formatter = .json ∨ formatter = .yaml := by
  have hmem := List.mem_of_find?_eq_some h
  have hformatters : (builtIn palette).formatters = [.yaml, .json, .markdown palette] := rfl
  rw [hformatters] at hmem
  simp only [List.mem_cons, List.not_mem_nil, or_false] at hmem
  rcases hmem with hyaml | hjson | hmarkdown
  · exact Or.inr (Or.inr hyaml)
  · exact Or.inr (Or.inl hjson)
  · exact Or.inl hmarkdown

theorem fileExtension_builtIn :
    formatter.fileExtension ∈ (["md", "json", "yaml"] : List String).map String.toList := by
  rcases get?_builtIn palette format formatter h with rfl | rfl | rfl
  · exact List.mem_cons_self
  · exact List.mem_cons_of_mem _ List.mem_cons_self
  · exact List.mem_cons_of_mem _ (List.mem_cons_of_mem _ List.mem_cons_self)

theorem slash_not_mem_fileExtension : '/' ∉ formatter.fileExtension := by
  have hall : ∀ extension ∈ (["md", "json", "yaml"] : List String).map String.toList,
      '/' ∉ extension := by decide
  exact hall _ (fileExtension_builtIn palette format formatter h)

/-- Every document can be written in these formats. -/
theorem serialize_builtIn (document : Document) :
    ∃ text, (builtIn palette).serialize document format = .ok text := by
  rw [serialize, h]
  rcases get?_builtIn palette format formatter h with rfl | rfl | rfl <;> exact ⟨_, rfl⟩

end Registry

/-! ### Names -/

namespace Generator

variable (generator : Generator) (ruleset : Path) (extension name : Text)

theorem outputName?_eq_some_iff : generator.outputName? ruleset extension = some name ↔
    ∃ base, Path.fileName? ruleset = some (base ++ generator.batch.rulesetSuffix) ∧
      name = base.upper ++ generator.outputStem ++ '.' :: extension := by
  simp only [outputName?, Option.bind_eq_bind, Option.bind_eq_some_iff, Option.pure_def,
    Option.some.injEq, Text.beforeEnd?_eq_some_iff]
  constructor
  · rintro ⟨fileName, hfileName, base, rfl, rfl⟩
    exact ⟨base, hfileName, rfl⟩
  · rintro ⟨base, hfileName, rfl⟩
    exact ⟨_, hfileName, base, rfl, rfl⟩

/-- Every file with the suffix for rulesets gets a style guide, also where nothing stands before the
    suffix or the suffix is empty. -/
theorem isSome_outputName? (fileName : Text) (hfileName : Path.fileName? ruleset = some fileName)
    (hend : Text.hasEnd generator.batch.rulesetSuffix fileName = true) :
    (generator.outputName? ruleset extension).isSome = true := by
  rw [Text.hasEnd_iff] at hend
  rcases hend with ⟨base, hbase⟩
  rw [Option.isSome_iff_exists]
  exact ⟨_, (outputName?_eq_some_iff generator ruleset extension _).mpr
    ⟨base, by rw [hfileName, hbase], rfl⟩⟩

theorem outputStem_prefix : generator.outputStem <+: generator.batch.outputSuffix := by
  rw [outputStem]
  cases hsplit : Text.splitLast? '.' generator.batch.outputSuffix with
  | none => exact List.prefix_rfl
  | some sides =>
      obtain ⟨stem, rest⟩ := sides
      exact ⟨'.' :: rest, (Text.splitLast?_eq_some _ _ _ _ hsplit).symm⟩

variable (h : generator.outputName? ruleset extension = some name)

include h

theorem outputName_ne_nil : name ≠ [] := by
  rcases (outputName?_eq_some_iff generator ruleset extension name).mp h with ⟨base, _, rfl⟩
  exact List.append_ne_nil_of_right_ne_nil _ (List.cons_ne_nil _ _)

/-- Slashes in the name of a style guide come from the output suffix. -/
theorem slash_not_mem_outputName (hsuffix : '/' ∉ generator.batch.outputSuffix)
    (hextension : '/' ∉ extension) : '/' ∉ name := by
  rcases (outputName?_eq_some_iff generator ruleset extension name).mp h with
    ⟨base, hfileName, rfl⟩
  have hbase : '/' ∉ base := fun hmem =>
    Path.slash_not_mem_fileName ruleset _ hfileName (List.mem_append_left _ hmem)
  have hstem : '/' ∉ generator.outputStem := fun hmem =>
    hsuffix (generator.outputStem_prefix.subset hmem)
  rw [List.append_assoc, List.mem_append, List.mem_append, List.mem_cons, not_or, not_or, not_or]
  exact ⟨Text.slash_not_mem_upper base hbase, hstem, by decide, hextension⟩

/-- The path of a style guide asks for no directory and ends in an end of the name. -/
theorem exists_last_segment_output (outDir : Path) (hextension : '/' ∉ extension) :
    Path.wantsDirectory (Path.join outDir name) = false ∧
      ∃ front last, Path.segments (Path.join outDir name) = front ++ [last] ∧ last <:+ name := by
  have hne := outputName_ne_nil generator ruleset extension name h
  have hslash : Path.wantsDirectory name = false := by
    rcases (outputName?_eq_some_iff generator ruleset extension name).mp h with ⟨base, _, rfl⟩
    rw [Path.wantsDirectory_append _ _ (List.cons_ne_nil _ _), Path.wantsDirectory,
      beq_eq_false_iff_ne]
    intro hlast
    -- The last character is that of the extension, or the dot before an empty one.
    rcases List.mem_cons.mp (List.mem_of_getLast? hlast) with hdot | hmem
    · exact absurd hdot (by decide)
    · exact hextension hmem
  rcases Path.exists_last_segment name hne hslash with ⟨front, last, hsegments, hend⟩
  rw [Path.wantsDirectory_join outDir name hne, Path.segments_join, hsegments]
  refine ⟨hslash, ?_⟩
  split
  · exact ⟨front, last, rfl, hend⟩
  · exact ⟨Path.segments outDir ++ front, last, (List.append_assoc ..).symm, hend⟩

omit h in
/-- With the default suffixes no style guide is taken for a ruleset. -/
theorem not_hasEnd_outputName (palette : Palette) (format : Text) (formatter : Formatter)
    (hbatch : generator.batch = {})
    (hformatter : (Registry.builtIn palette).get? format = some formatter)
    (h : generator.outputName? ruleset formatter.fileExtension = some name) :
    Text.hasEnd generator.batch.rulesetSuffix name = false := by
  rcases (outputName?_eq_some_iff generator ruleset _ name).mp h with ⟨base, _, rfl⟩
  have hstem : generator.outputStem = "_STYLE_GUIDE".toList := by
    rw [outputStem, hbatch]
    decide
  rw [← Bool.not_eq_true, Text.hasEnd_iff, List.append_assoc, hstem, hbatch]
  intro hsuffix
  -- The suffix for rulesets is no longer than what all names of style guides end with.
  have hfixed : ∀ fixed ∈ (["md", "json", "yaml"] : List String).map String.toList,
      (({} : BatchSettings).rulesetSuffix.length ≤ ("_STYLE_GUIDE".toList ++ '.' :: fixed).length ∧
        ¬ ({} : BatchSettings).rulesetSuffix <:+ "_STYLE_GUIDE".toList ++ '.' :: fixed) := by
    decide
  rcases hfixed _ (Registry.fileExtension_builtIn palette format formatter hformatter) with
    ⟨hlength, hno⟩
  exact hno (List.suffix_of_suffix_length_le hsuffix (List.suffix_append _ _) hlength)

end Generator

end StyleGuide
