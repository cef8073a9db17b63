import StyleGuide.CommandLine.Run
import StyleGuide.Proofs.Config.Sources

/-!
# Which layer a setting comes from

The last part that goes to the place of a setting gives the setting its value. Since sources are
merged in order and overrides are set at the end, that is the last override for the setting, or else
the last source that supplies it, or else the default. So a layer that says nothing about a setting
can be left out, and it makes no difference where among the sources an override is given.

A command line makes a list of layers of one file, the environment and its own settings, in that
order.

## Main definitions

* `allParts`: The parts of all layers.
* `configFile`, `argument?`: What a command line says about settings.
* `Precedence`: Which layer each setting comes from.

## Theorems

* `takes_loadTree`: What all layers leave in the tree.
* `load_of_fits`: The value of each setting.
* `load_eq_of_filter`: The order between overrides and sources does not matter.
* `load_precedence`: Which layer each setting comes from.
-/

namespace StyleGuide

namespace Config

section Load

variable {disk : Disk} {environment : Environment}

/-! ### The value of each setting -/

/-- What an override says is what its part gives. -/
theorem given?_overrideParts (setting : Setting) (layer : Layer)
    (hfits : layer.Fits disk environment) :
    given? setting.place layer.overrideParts = layer.overrides? setting := by
  cases hfits with
  | source _ entries hsource _ _ _ =>
      rw [Layer.overrideParts_of_source hsource, Layer.overrides?_of_source hsource]
      rfl
  | override other value =>
      rw [Layer.overrideParts, partsOf_override, Layer.overrides?, given?_text]

/-- The parts of layers that fit suit the place of every setting. -/
theorem suits_of_fits (layer : Layer) (hfits : layer.Fits disk environment) (setting : Setting) :
    ∀ part ∈ layer.parts disk environment ++ layer.overrideParts, Suits setting.place part := by
  intro part hpart
  cases hfits with
  | source _ entries hsource hread _ hparts =>
      rw [Layer.parts, hread, Layer.overrideParts_of_source hsource, List.append_nil] at hpart
      exact hparts part hpart setting
  | override other value =>
      rw [Layer.overrideParts, partsOf_override] at hpart
      rcases List.mem_append.mp hpart with hpart | hpart
      · exact absurd hpart List.not_mem_nil
      · rw [List.mem_singleton.mp hpart]
        exact suits_text setting other value

variable (disk environment) in
/-- All parts in the order in which they go to the tree: sources before overrides. -/
def allParts (layers : List Layer) : List (List Text × Tree) :=
  layers.flatMap (Layer.parts disk environment) ++ layers.flatMap Layer.overrideParts

section Parts

variable (layers : List Layer) (hfits : ∀ layer ∈ layers, layer.Fits disk environment)

include hfits

theorem suits_allParts (setting : Setting) :
    ∀ part ∈ allParts disk environment layers, Suits setting.place part := by
  intro part hpart
  simp only [allParts, List.mem_append, List.mem_flatMap] at hpart
  rcases hpart with ⟨layer, hlayer, hpart⟩ | ⟨layer, hlayer, hpart⟩
  · exact suits_of_fits layer (hfits layer hlayer) setting part (List.mem_append_left _ hpart)
  · exact suits_of_fits layer (hfits layer hlayer) setting part (List.mem_append_right _ hpart)

theorem given?_allParts (setting : Setting) :
    given? setting.place (allParts disk environment layers) =
      (overridden? setting layers).or (supplied? disk environment setting layers) := by
  have hoverridden : given? setting.place (layers.flatMap Layer.overrideParts) =
      overridden? setting layers := by
    rw [given?_flatMap, overridden?]
    congr 1
    exact List.filterMap_congr fun layer hlayer =>
      given?_overrideParts setting layer (hfits layer hlayer)
  rw [allParts, given?_append, hoverridden, given?_flatMap]
  rfl

/-- The tree of layers takes in all their parts, on top of the defaults. -/
theorem takes_loadTree : ∃ tree, loadTree disk environment layers = .ok tree ∧
    Takes [] ({} : Settings).toTree (allParts disk environment layers) tree := by
  rcases takes_overrides layers hfits with ⟨given, hgiven, hset⟩
  rcases takes_mergeSources layers ({} : Settings).toTree hfits with ⟨middle, hmiddle, hfirst⟩
  rcases hset middle with ⟨tree, htree, hlast⟩
  refine ⟨tree, ?_, hfirst.trans hlast⟩
  simp only [loadTree, hgiven, hmiddle, bind, Except.bind, htree]

/-- The last override for a setting decides, or else the last source that supplies it, or else the
    default. -/
theorem load_of_fits :
    ∃ settings, load disk environment layers = .ok settings ∧ ∀ setting : Setting,
      setting.value settings =
        ((overridden? setting layers).or (supplied? disk environment setting layers)).getD
          (setting.value {}) := by
  rcases takes_loadTree layers hfits with ⟨tree, htree, htakes⟩
  have hvalue : ∀ setting : Setting, tree.at? setting.place = some (.scalar (.text
      (((overridden? setting layers).or (supplied? disk environment setting layers)).getD
        (setting.value {})))) := by
    intro setting
    rw [← given?_allParts layers hfits setting]
    exact htakes setting.group [setting.name] _ (suits_allParts layers hfits setting)
      (Setting.at?_toTree {} setting)
  refine ⟨Setting.assign _, ?_, Setting.value_assign _⟩
  have hread := Setting.ofTree_of_at? tree (Setting.assign _) fun setting =>
    (hvalue setting).trans (by rw [Setting.value_assign])
  rw [load, htree]
  exact hread

end Parts

/-! ### The order of layers -/

theorem overrides_filter (layers : List Layer) :
    overrides (layers.filter Layer.isOverride) = overrides layers := by
  induction layers with
  | nil => rfl
  | cons layer layers ih =>
      cases layer with
      | override key value => rw [List.filter_cons_of_pos rfl, overrides, overrides, ih]
      | file | optionalFile | environment =>
          rw [List.filter_cons_of_neg Bool.false_ne_true, ih, overrides_of_source rfl]

variable (disk environment) in
theorem mergeSources_filter (layers : List Layer) (root : Tree) :
    mergeSources disk environment (layers.filter fun layer => !layer.isOverride) root =
      mergeSources disk environment layers root := by
  induction layers generalizing root with
  | nil => rfl
  | cons layer layers ih =>
      cases layer with
      | override key value =>
          -- An override has no entries, so nothing is merged for it.
          rw [List.filter_cons_of_neg Bool.false_ne_true, ih]
          rfl
      | file | optionalFile | environment =>
          rw [List.filter_cons_of_pos rfl, mergeSources, mergeSources]
          simp only [ih]

variable (disk environment) in
/-- The order between overrides and sources does not matter. -/
theorem load_eq_of_filter (layers others : List Layer)
    (hoverrides : others.filter Layer.isOverride = layers.filter Layer.isOverride)
    (hsources : (others.filter fun layer => !layer.isOverride) =
      layers.filter fun layer => !layer.isOverride) :
    load disk environment others = load disk environment layers := by
  have hgiven : overrides others = overrides layers := by
    rw [← overrides_filter others, hoverrides, overrides_filter]
  have hmerged : ∀ root, mergeSources disk environment others root =
      mergeSources disk environment layers root := by
    intro root
    rw [← mergeSources_filter disk environment others, hsources, mergeSources_filter]
  simp only [load, loadTree, hgiven, hmerged]

/-! ### The layers of a command line -/

/-- The configuration file that arguments have in use. -/
def configFile (arguments : CommandLine.Arguments) : Layer :=
  match arguments.config with
  | some path => .file path
  | none => .optionalFile localFile

/-- The value that arguments give to a setting, the last one if there are several. -/
def argument? (setting : Setting) (arguments : CommandLine.Arguments) : Option Text :=
  (arguments.overrides.filterMap fun (key, value) =>
    if key = setting.key then some value else none).getLast?

theorem overridden?_layers (setting : Setting) (arguments : CommandLine.Arguments) :
    overridden? setting (CommandLine.layers arguments) = argument? setting arguments := by
  have hfile : (configFile arguments).overrides? setting = none := by
    rw [configFile]
    cases arguments.config <;> rfl
  have hlayers : CommandLine.layers arguments = configFile arguments :: .environment ::
      arguments.overrides.map fun (key, value) => .override key (.text value) := rfl
  -- Neither of the first two layers is an override.
  rw [hlayers, overridden?, List.filterMap_cons_none hfile, List.filterMap_cons_none rfl,
    List.filterMap_map]
  rfl

variable (disk environment) in
theorem supplied?_layers (setting : Setting) (arguments : CommandLine.Arguments) :
    supplied? disk environment setting (CommandLine.layers arguments) =
      (Layer.environment.supplies? disk environment setting).or
        ((configFile arguments).supplies? disk environment setting) := by
  have hlayers : CommandLine.layers arguments = [configFile arguments, .environment] ++
      arguments.overrides.map fun (key, value) => .override key (.text value) := rfl
  have hoverrides : (arguments.overrides.map fun (key, value) =>
      Layer.override key (.text value)).filterMap (Layer.supplies? disk environment setting) = [] := by
    rw [List.filterMap_eq_nil_iff]
    intro layer hlayer
    rcases List.mem_map.mp hlayer with ⟨pair, _, rfl⟩
    rfl
  rw [supplied?, hlayers, List.filterMap_append, hoverrides, List.append_nil, List.filterMap_cons,
    List.filterMap_cons, List.filterMap_nil]
  cases (configFile arguments).supplies? disk environment setting <;>
    cases Layer.environment.supplies? disk environment setting <;> rfl

end Load

/-- Which layer each setting comes from. -/
structure Precedence (disk : Disk) (environment : Environment) (layers : List Layer) : Prop where
  /-- There are settings, and each of them has the text of the last override for it, or else the one
      that the last source supplies for it, or else its default. -/
  values : ∃ settings, load disk environment layers = .ok settings ∧ ∀ setting : Setting,
    setting.value settings =
      ((overridden? setting layers).or (supplied? disk environment setting layers)).getD
        (setting.value {})
  /-- A layer that says nothing about a setting does not change it. -/
  omitted : ∀ (before after : List Layer) (layer : Layer) (setting : Setting),
    layers = before ++ layer :: after → layer.overrides? setting = none →
      layer.supplies? disk environment setting = none →
        (load disk environment (before ++ after)).map setting.value =
          (load disk environment layers).map setting.value
  /-- Overrides may come anywhere among the sources. -/
  moved : ∀ others : List Layer, others.filter Layer.isOverride = layers.filter Layer.isOverride →
    (others.filter fun layer => !layer.isOverride) = (layers.filter fun layer => !layer.isOverride) →
      load disk environment others = load disk environment layers
  /-- On a command line, arguments are stronger than variables, these are stronger than the one
      configuration file in use, and that is stronger than the defaults. -/
  commandLine : ∀ arguments, layers = CommandLine.layers arguments →
    ∃ settings, load disk environment layers = .ok settings ∧ ∀ setting : Setting,
      setting.value settings =
        (((argument? setting arguments).or
          (Layer.environment.supplies? disk environment setting)).or
            ((configFile arguments).supplies? disk environment setting)).getD (setting.value {})

/-- The layers that supply texts for settings are loaded in order, and overrides are the strongest. -/
theorem load_precedence (disk : Disk) (environment : Environment) (layers : List Layer)
    (hfits : ∀ layer ∈ layers, layer.Fits disk environment) :
    Precedence disk environment layers where
  values := load_of_fits layers hfits
  omitted := by
    rintro before after layer setting rfl hoverrides hsupplies
    have hothers : ∀ other ∈ before ++ after, other.Fits disk environment := by
      intro other hother
      refine hfits other ?_
      rcases List.mem_append.mp hother with hother | hother
      · exact List.mem_append_left _ hother
      · exact List.mem_append_right _ (List.mem_cons_of_mem _ hother)
    rcases load_of_fits _ hfits with ⟨settings, hload, hvalues⟩
    rcases load_of_fits _ hothers with ⟨fewer, hfewer, hfewerValues⟩
    have hsame : overridden? setting (before ++ after) =
        overridden? setting (before ++ layer :: after) := by
      rw [overridden?, overridden?, List.filterMap_append, List.filterMap_append,
        List.filterMap_cons_none hoverrides]
    have hsupplied : supplied? disk environment setting (before ++ after) =
        supplied? disk environment setting (before ++ layer :: after) := by
      rw [supplied?, supplied?, List.filterMap_append, List.filterMap_append,
        List.filterMap_cons_none hsupplies]
    rw [hload, hfewer, Except.map, Except.map, hvalues, hfewerValues, hsame, hsupplied]
  moved := load_eq_of_filter disk environment layers
  commandLine := by
    rintro arguments rfl
    rcases load_of_fits _ hfits with ⟨settings, hload, hvalues⟩
    refine ⟨settings, hload, fun setting => ?_⟩
    rw [hvalues, overridden?_layers, supplied?_layers, Option.or_assoc]

/-- A disk with a configuration file. -/
def crimsonDisk : Disk where
  root := .directory [("r.toml", .file (.text
    "[render]\nformat = \"json\"\nerror_color = \"crimson\"\nwarn_color = \"gold\"\n"))]
  cwd := []

/-- An environment that addresses two settings. -/
def hintsEnvironment : Environment :=
  [("RULEDOC_RENDER__FORMAT", "yaml"), ("RULEDOC_SCAN__DEFAULT_SEVERITY", "hint")]

/-- Arguments that name the file and set one colour. -/
def maroonArguments : CommandLine.Arguments :=
  { config := some "r.toml", overrides := [("render.error_color", "maroon")] }

/-- Every layer wins where no stronger one says anything. -/
theorem load_precedence_maroon :
    load crimsonDisk hintsEnvironment (CommandLine.layers maroonArguments) =
        .ok { scan := ⟨"hint"⟩, render := ⟨"yaml", "maroon", "gold"⟩ } ∧
      Precedence crimsonDisk hintsEnvironment (CommandLine.layers maroonArguments) := by
  have hfile : (Layer.file "r.toml").Fits crimsonDisk hintsEnvironment :=
    fits_of_entries _ rfl (by decide +kernel)
  have hvariables : Layer.environment.Fits crimsonDisk hintsEnvironment :=
    fits_of_entries _ rfl (by decide +kernel)
  refine ⟨by decide +kernel, load_precedence crimsonDisk hintsEnvironment _ fun layer hlayer => ?_⟩
  have hlayers : CommandLine.layers maroonArguments =
      [.file "r.toml", .environment, .override Setting.errorColor.key (.text "maroon")] := rfl
  rw [hlayers, List.mem_cons, List.mem_cons, List.mem_singleton] at hlayer
  rcases hlayer with rfl | rfl | rfl
  · exact hfile
  · exact hvariables
  · exact .override .errorColor "maroon"

end Config

end StyleGuide
