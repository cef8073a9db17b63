import StyleGuide.Config.Layer
import StyleGuide.Proofs.Config.Setting

/-!
# Layers that supply texts for settings

Layers say little about where they come in: a file names the settings in tables, a variable spells
them with low lines, and an override has a path. Read as parts of a tree they are all of one kind,
and both the sources, which are merged in order, and the overrides, which are set at the end, leave
in the tree what these parts give.

What a layer says about other things does not matter as long as it is in nobody's way: it must not
put anything but a text in the place of a setting, nor anything but a table above it. Variables that
address settings are like that, and so are tables with texts under the names of settings.

## Main definitions

* `Layer.parts`, `Layer.overrideParts`: The parts that a layer brings.
* `Layer.supplies?`, `Layer.overrides?`: What a layer says about a setting.
* `Layer.Fits`: A layer that supplies texts for settings.
* `supplied?`, `overridden?`: What the layers of a list say about a setting.

## Theorems

* `takes_mergeSources`, `takes_overrides`: What sources and overrides leave in the tree.
* `fits_environment`, `fits_tables`: Variables and tables that fit.
* `supplies?_environment`: Which variable supplies a setting.
-/

namespace StyleGuide

namespace Config

/-! ### What layers say -/

section Layers

variable (disk : Disk) (environment : Environment) (setting : Setting)

namespace Layer

/-- The parts that a source brings, if it can be read. -/
def parts (layer : Layer) : List (List Text × Tree) :=
  match layer.entries disk environment with
  | .ok entries => partsOf entries
  | .error _ => []

/-- The part that an override is. -/
def overrideParts : Layer → List (List Text × Tree)
  | .override key value => partsOf [(key, .scalar value)]
  | _ => []

/-- The text that a layer supplies for a setting, if it is a source. -/
def supplies? (layer : Layer) : Option Text := given? setting.place (layer.parts disk environment)

/-- The text that a layer gives to a setting, if it is an override. -/
def overrides? : Layer → Option Text
  | .override key (.text value) => if key = setting.key then some value else none
  | _ => none

/-- Whether a layer is an override. -/
def isOverride : Layer → Bool
  | .override _ _ => true
  | _ => false

/-- A layer that supplies texts for settings: an override of one of them, or a source that can be
    read and that has nothing in it to get in the way of their texts. -/
inductive Fits : Layer → Prop where
  | override (setting : Setting) (value : Text) : Fits (.override setting.key (.text value))
  | source (layer : Layer) (entries : List (Text × Tree)) (hsource : layer.isOverride = false)
      (hread : layer.entries disk environment = .ok entries)
      (hplaces : ∀ entry ∈ entries, (placeOf? entry.1).isSome = true)
      (hparts : ∀ part ∈ partsOf entries, ∀ setting : Setting, Suits setting.place part) :
      Fits layer

end Layer

/-! A source takes no part in what overrides do. -/

section Source

variable {layer : Layer} (hsource : layer.isOverride = false)

include hsource

theorem Layer.overrideParts_of_source : layer.overrideParts = [] := by
  cases layer with
  | override => cases hsource
  | file | optionalFile | environment => rfl

theorem Layer.overrides?_of_source (setting : Setting) : layer.overrides? setting = none := by
  cases layer with
  | override => cases hsource
  | file | optionalFile | environment => rfl

theorem overrides_of_source (layers : List Layer) :
    overrides (layer :: layers) = overrides layers := by
  cases layer with
  | override => cases hsource
  | file | optionalFile | environment => rfl

end Source

/-- The text that the last source supplies for a setting that does so at all. -/
def supplied? (layers : List Layer) : Option Text :=
  (layers.filterMap (Layer.supplies? disk environment setting)).getLast?

/-- The text of the last override for a setting. -/
def overridden? (layers : List Layer) : Option Text :=
  (layers.filterMap (Layer.overrides? setting)).getLast?

end Layers

section Load

variable {disk : Disk} {environment : Environment}

theorem partsOf_override (setting : Setting) (value : Text) :
    partsOf [(setting.key, .scalar (.text value))] = [(setting.place, .scalar (.text value))] := by
  simp only [partsOf, List.flatMap_cons, setting.placeOf?_key, Option.map_some, Option.getD_some,
    Tree.spread, List.flatMap_nil, List.append_nil]

theorem takes_mergeSources (layers : List Layer) (root : Tree)
    (hfits : ∀ layer ∈ layers, layer.Fits disk environment) :
    ∃ new, mergeSources disk environment layers root = .ok new ∧
      Takes [] root (layers.flatMap (Layer.parts disk environment)) new := by
  induction layers generalizing root with
  | nil => exact ⟨root, rfl, Takes.refl [] root⟩
  | cons layer layers ih =>
      -- An override is a source without entries here.
      have hentries : ∃ entries, layer.entries disk environment = .ok entries ∧
          ∀ entry ∈ entries, (placeOf? entry.1).isSome = true := by
        cases hfits layer List.mem_cons_self with
        | override setting value => exact ⟨[], rfl, fun _ h => absurd h List.not_mem_nil⟩
        | source _ entries _ hread hplaces _ => exact ⟨entries, hread, hplaces⟩
      rcases hentries with ⟨entries, hread, hplaces⟩
      rcases takes_setAll entries root hplaces with ⟨middle, hmiddle, hfirst⟩
      rcases ih middle (fun other hother => hfits other (List.mem_cons_of_mem _ hother)) with
        ⟨new, hnew, hlast⟩
      have hparts : layer.parts disk environment = partsOf entries := by
        simp only [Layer.parts, hread]
      refine ⟨new, ?_, ?_⟩
      · simp only [mergeSources, hread, hmiddle, hnew, bind, Except.bind]
      · rw [List.flatMap_cons, hparts]
        exact hfirst.trans hlast

theorem takes_overrides (layers : List Layer)
    (hfits : ∀ layer ∈ layers, layer.Fits disk environment) :
    ∃ settings, overrides layers = .ok settings ∧ ∀ root : Tree, ∃ new,
      settings.foldlM (fun root (path, value) => root.set path (.scalar value)) root = .ok new ∧
        Takes [] root (layers.flatMap Layer.overrideParts) new := by
  induction layers with
  | nil => exact ⟨[], rfl, fun root => ⟨root, rfl, Takes.refl [] root⟩⟩
  | cons layer layers ih =>
      rcases ih (fun other hother => hfits other (List.mem_cons_of_mem _ hother)) with
        ⟨settings, hsettings, hset⟩
      cases hfits layer List.mem_cons_self with
      | source _ _ hsource _ _ _ =>
          rw [overrides_of_source hsource, List.flatMap_cons, Layer.overrideParts_of_source hsource]
          exact ⟨settings, hsettings, hset⟩
      | override setting value =>
          refine ⟨(⟨setting.group, [.key setting.name]⟩, .text value) :: settings, ?_,
            fun root => ?_⟩
          · simp only [overrides, Setting.ofText_key, hsettings, Except.map]
          · rcases takes_setBelow (.scalar (.text value)) _ _ [] root setting.namesOf?_key
              (List.cons_ne_nil _ _) with ⟨middle, hmiddle, hfirst⟩
            rcases hset middle with ⟨new, hnew, hlast⟩
            refine ⟨new, ?_, ?_⟩
            · simp only [List.foldlM_cons, Tree.set, Tree.set?, hmiddle, bind, Except.bind]
              exact hnew
            · rw [List.flatMap_cons, Layer.overrideParts, partsOf_override]
              exact hfirst.trans hlast

/-! ### Sources that fit -/

section Environment

variable (hkeys : ∀ entry ∈ environment, ∀ key, keyOfVariable? entry.1 = some key →
  ∃ setting : Setting, key = setting.key)

include hkeys

/-- An environment whose variables address settings. -/
theorem fits_environment : Layer.environment.Fits disk environment := by
  have hentries : ∀ entry ∈ environmentEntries environment, ∃ (setting : Setting) (value : Text),
      entry = (setting.key, .scalar (.text value)) := by
    intro entry hentry
    rw [environmentEntries, List.mem_filterMap] at hentry
    rcases hentry with ⟨pair, hpair, hentry⟩
    rw [Option.map_eq_some_iff] at hentry
    rcases hentry with ⟨key, hkey, rfl⟩
    rcases hkeys pair hpair key hkey with ⟨setting, rfl⟩
    exact ⟨setting, pair.2, rfl⟩
  refine .source .environment (environmentEntries environment) rfl rfl (fun entry hentry => ?_)
    fun part hpart setting => ?_
  · rcases hentries entry hentry with ⟨other, value, rfl⟩
    rw [other.placeOf?_key]
    rfl
  · rw [partsOf, List.mem_flatMap] at hpart
    rcases hpart with ⟨entry, hentry, hpart⟩
    rcases hentries entry hentry with ⟨other, value, rfl⟩
    simp only [other.placeOf?_key, Option.map_some, Option.getD_some, Tree.spread,
      List.mem_singleton] at hpart
    rw [hpart]
    exact suits_text setting other value

/-- The last variable that addresses a setting supplies it. -/
theorem supplies?_environment (setting : Setting) :
    Layer.environment.supplies? disk environment setting =
      (environment.filterMap fun (name, value) =>
        if keyOfVariable? name = some setting.key then some value else none).getLast? := by
  have hparts : Layer.environment.parts disk environment =
      partsOf (environmentEntries environment) := rfl
  rw [Layer.supplies?, hparts, partsOf, given?_flatMap, environmentEntries, List.filterMap_filterMap]
  congr 1
  -- Variable by variable: one that addresses no setting brings nothing.
  refine List.filterMap_congr fun pair hpair => ?_
  rcases pair with ⟨name, value⟩
  cases hkey : keyOfVariable? name with
  | none => simp only [hkey, Option.map_none, Option.bind_none, reduceCtorEq, if_false]
  | some key =>
      rcases hkeys _ hpair key hkey with ⟨other, rfl⟩
      simp only [hkey, Option.map_some, Option.bind_some, other.placeOf?_key, Option.getD_some,
        Tree.spread, given?_text, Option.some.injEq]

end Environment

/-- The parts of a table with texts for settings are these texts. -/
theorem exists_text_of_mem_spreadAll (group : Text) (items : List (Text × Tree))
    (hitems : ∀ item ∈ items, ∃ (setting : Setting) (value : Text),
      group = setting.group ∧ item = (setting.name, .scalar (.text value)))
    (part : List Text × Tree) (hpart : part ∈ Tree.spreadAll [group] items) :
    ∃ (setting : Setting) (value : Text), part = (setting.place, .scalar (.text value)) := by
  induction items with
  | nil =>
      rw [Tree.spreadAll] at hpart
      exact absurd hpart List.not_mem_nil
  | cons item items ih =>
      rcases hitems item List.mem_cons_self with ⟨setting, value, rfl, rfl⟩
      rw [Tree.spreadAll, setting.keyOf_name, Tree.spread, List.mem_append, List.mem_singleton]
        at hpart
      rcases hpart with rfl | hpart
      · exact ⟨setting, value, rfl⟩
      · exact ih (fun other hother => hitems other (List.mem_cons_of_mem _ hother)) hpart

/-- A source of tables that hold texts under the names of settings. -/
theorem fits_tables (layer : Layer) (entries : List (Text × Tree))
    (hsource : layer.isOverride = false) (hread : layer.entries disk environment = .ok entries)
    (htables : ∀ entry ∈ entries, ∃ (setting : Setting) (origin : Option Text)
      (items : List (Text × Tree)), entry = (setting.group, .table origin items) ∧
        ∀ item ∈ items, ∃ (other : Setting) (value : Text),
          setting.group = other.group ∧ item = (other.name, .scalar (.text value))) :
    layer.Fits disk environment := by
  refine .source layer entries hsource hread (fun entry hentry => ?_) fun part hpart setting => ?_
  · rcases htables entry hentry with ⟨other, origin, items, rfl, _⟩
    rw [other.placeOf?_group]
    rfl
  · rw [partsOf, List.mem_flatMap] at hpart
    rcases hpart with ⟨entry, hentry, hpart⟩
    rcases htables entry hentry with ⟨other, origin, items, rfl, hitems⟩
    simp only [other.placeOf?_group, Option.map_some, Option.getD_some, Tree.spread,
      List.mem_cons] at hpart
    rcases hpart with rfl | hpart
    · exact suits_table setting other origin items
    · rcases exists_text_of_mem_spreadAll other.group items hitems part hpart with
        ⟨another, value, rfl⟩
      exact suits_text setting another value

/-- A source fits if it can be read, its keys count no items and its parts suit the places of all
    settings. All of this can be decided at once. -/
theorem fits_of_entries (layer : Layer) (hsource : layer.isOverride = false)
    (hentries : ((layer.entries disk environment).toOption.any fun entries =>
      decide ((∀ entry ∈ entries, (placeOf? entry.1).isSome = true) ∧
        ∀ part ∈ partsOf entries, ∀ setting ∈ Setting.all, Suits setting.place part)) = true) :
    layer.Fits disk environment := by
  cases hread : layer.entries disk environment with
  | error error =>
      rw [hread] at hentries
      exact absurd hentries Bool.false_ne_true
  | ok entries =>
      rw [hread] at hentries
      have hfits := of_decide_eq_true hentries
      exact .source layer entries hsource hread hfits.1 fun part hpart setting =>
        hfits.2 part hpart setting setting.mem_all

end Load

end Config

end StyleGuide
