import StyleGuide.Config.Settings
import StyleGuide.Proofs.Config.Spread

/-!
# Settings in a tree

Each setting has a place in a tree of settings: its name in the table of its group. The key that
addresses it spells this place, no two settings share it, and no place is above another one. So a
text for one setting is never in the way of another setting, nor are the tables that hold them.

Settings are read from a tree by their places. Where a text stands in each of them, they can be
read, whatever else there is in the tree.

## Main definitions

* `Setting`: What can be set.
* `Setting.key`, `Setting.place`: How it is addressed, and where it stands.
* `Setting.value`: The value of a setting.

## Theorems

* `Setting.placeOf?_key`: The key of a setting addresses its place.
* `Setting.ofTree_of_at?`: Settings are read from their places.
* `suits_text`, `suits_table`: Texts for settings, and tables of them, do no harm.
-/

namespace StyleGuide

namespace Config

/-- What can be set. -/
inductive Setting where
  | defaultSeverity
  | format
  | errorColor
  | warnColor
  | rulesetSuffix
  | outputSuffix
  deriving DecidableEq, Repr

namespace Setting

/-- All settings. -/
def all : List Setting :=
  [defaultSeverity, format, errorColor, warnColor, rulesetSuffix, outputSuffix]

theorem mem_all (setting : Setting) : setting ∈ all := by
  cases setting <;> decide

/-- The table that a setting stands in. -/
def group : Setting → Text
  | defaultSeverity => "scan"
  | format | errorColor | warnColor => "render"
  | rulesetSuffix | outputSuffix => "batch"

/-- The name of a setting in its table. -/
def name : Setting → Text
  | defaultSeverity => "default_severity"
  | format => "format"
  | errorColor => "error_color"
  | warnColor => "warn_color"
  | rulesetSuffix => "ruleset_suffix"
  | outputSuffix => "output_suffix"

/-- The key of a setting. -/
def key (setting : Setting) : Text := setting.group ++ "." ++ setting.name

/-- The place of a setting in a tree. -/
def place (setting : Setting) : List Text := [setting.group, setting.name]

/-- The value of a setting. -/
def value (settings : Settings) : Setting → Text
  | defaultSeverity => settings.scan.defaultSeverity
  | format => settings.render.format
  | errorColor => settings.render.errorColor
  | warnColor => settings.render.warnColor
  | rulesetSuffix => settings.batch.rulesetSuffix
  | outputSuffix => settings.batch.outputSuffix

theorem ofText_key (setting : Setting) :
    KeyPath.ofText setting.key = .ok ⟨setting.group, [.key setting.name]⟩ := by
  cases setting <;> decide

theorem placeOf?_group (setting : Setting) : placeOf? setting.group = some [setting.group] := by
  cases setting <;> decide

theorem keyOf_name (setting : Setting) : Tree.keyOf setting.name = setting.name := by
  cases setting <;> decide

theorem namesOf?_key (setting : Setting) :
    namesOf? [.key setting.group, .key setting.name] = some setting.place := by
  cases setting <;> decide

theorem placeOf?_key (setting : Setting) : placeOf? setting.key = some setting.place := by
  simp only [placeOf?, ofText_key, namesOf?_key]

theorem place_eq_iff (setting other : Setting) :
    setting.place = other.place ↔ setting.key = other.key := by
  cases setting <;> cases other <;> decide

theorem at?_toTree (settings : Settings) (setting : Setting) :
    settings.toTree.at? setting.place = some (.scalar (.text (setting.value settings))) := by
  cases setting <;> rfl

section Group

variable (tree value : Tree) (setting : Setting) (h : tree.at? setting.place = some value)

include h

/-- What stands at the place of a setting is in a table. -/
theorem exists_table_of_at? :
    ∃ origin entries, tree.get? setting.group = some (.table origin entries) := by
  rw [place, Tree.at?, Option.bind_eq_some_iff] at h
  rcases h with ⟨table, htable, h⟩
  cases table with
  | table origin entries => exact ⟨origin, entries, htable⟩
  | scalar | list => simp only [Tree.at?, Tree.get?, Option.bind_none, reduceCtorEq] at h

theorem get?_of_at? (origin : Option Text) (entries : List (Text × Tree))
    (hgroup : tree.get? setting.group = some (.table origin entries)) :
    Keyed.get? entries setting.name = some value := by
  rw [place, Tree.at?, hgroup, Option.bind_some, Tree.at?, Tree.get?] at h
  cases hentry : Keyed.get? entries setting.name with
  | none => simp only [hentry, Option.bind_none, reduceCtorEq] at h
  | some found =>
      rw [hentry, Option.bind_some, Tree.at?] at h
      exact h

end Group

/-- Settings can be read from a tree that holds a text in the place of each. -/
theorem ofTree_of_at? (tree : Tree) (settings : Settings)
    (h : ∀ setting : Setting,
      tree.at? setting.place = some (.scalar (.text (setting.value settings)))) :
    Settings.ofTree tree = .ok settings := by
  -- The names are written out here, as reading has them.
  rcases exists_table_of_at? tree _ defaultSeverity (h _) with ⟨origin, scan, hscan⟩
  have hseverity : Keyed.get? scan "default_severity" = some (.scalar (.text _)) :=
    get?_of_at? tree _ defaultSeverity (h _) origin scan hscan
  change tree.get? "scan" = some (.table origin scan) at hscan
  rcases exists_table_of_at? tree _ format (h _) with ⟨origin, render, hrender⟩
  change tree.get? "render" = some (.table origin render) at hrender
  have hformat : Keyed.get? render "format" = some (.scalar (.text _)) :=
    get?_of_at? tree _ format (h _) origin render hrender
  have herror : Keyed.get? render "error_color" = some (.scalar (.text _)) :=
    get?_of_at? tree _ errorColor (h _) origin render hrender
  have hwarn : Keyed.get? render "warn_color" = some (.scalar (.text _)) :=
    get?_of_at? tree _ warnColor (h _) origin render hrender
  rcases exists_table_of_at? tree _ rulesetSuffix (h _) with ⟨origin, batch, hbatch⟩
  change tree.get? "batch" = some (.table origin batch) at hbatch
  have hruleset : Keyed.get? batch "ruleset_suffix" = some (.scalar (.text _)) :=
    get?_of_at? tree _ rulesetSuffix (h _) origin batch hbatch
  have houtput : Keyed.get? batch "output_suffix" = some (.scalar (.text _)) :=
    get?_of_at? tree _ outputSuffix (h _) origin batch hbatch
  simp only [Settings.ofTree, groupIn?, hscan, hrender, hbatch, readScan, readRender, readBatch,
    textIn?, hseverity, hformat, herror, hwarn, hruleset, houtput, readText, Except.map, bind,
    Except.bind, pure, Except.pure, require]
  rfl

/-- The settings with given values. -/
def assign (values : Setting → Text) : Settings where
  scan := ⟨values defaultSeverity⟩
  render := ⟨values format, values errorColor, values warnColor⟩
  batch := ⟨values rulesetSuffix, values outputSuffix⟩

theorem value_assign (values : Setting → Text) (setting : Setting) :
    setting.value (assign values) = values setting := by
  cases setting <;> rfl

end Setting

/-- A text for a setting suits the places of all settings: they have the same length, so none is
    above another. -/
theorem suits_text (setting other : Setting) (value : Text) :
    Suits setting.place (other.place, .scalar (.text value)) :=
  ⟨fun h => ⟨(h.eq_of_length rfl).symm, rfl⟩, fun h => Or.inl (h.eq_of_length rfl)⟩

/-- A table for a group of settings suits the places of all settings. -/
theorem suits_table (setting other : Setting) (origin : Option Text)
    (entries : List (Text × Tree)) : Suits setting.place ([other.group], .table origin entries) :=
  ⟨fun h => absurd h.length_le (Nat.not_succ_le_self 1), fun _ => Or.inr rfl⟩

/-- The part that a text for a setting is gives it to that setting. -/
theorem given?_text (setting other : Setting) (value : Text) :
    given? setting.place [(other.place, .scalar (.text value))] =
      if other.key = setting.key then some value else none := by
  by_cases hkey : other.key = setting.key
  · rw [if_pos hkey, (other.place_eq_iff setting).mpr hkey, given?_singleton]
  · rw [if_neg hkey]
    refine given?_eq_none _ _ fun part hpart heq => hkey ?_
    rw [List.mem_singleton.mp hpart] at heq
    exact (other.place_eq_iff setting).mp heq

end Config

end StyleGuide
