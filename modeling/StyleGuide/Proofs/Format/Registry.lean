import StyleGuide.Format.Registry
import StyleGuide.Proofs.Sorted
import Mathlib.Data.Char
import Mathlib.Data.List.Induction
import Mathlib.Data.List.Lex

/-!
# Registries of formats

A registry is a map from names to formats in which the last writer wins.

A registry keeps its formats in one list and reads the name of each off the format itself, so that a
format cannot stand under a name that is not its own. What has to be kept up is that no two formats
have one name. Registering sees to that by taking out the older one, which is also why a name leads
to the newest format that bears it.

The formats that are always there are registered like any others. So a registry is told by the log
of all formats registered so far, these included: each name leads to the last format in the log that
bears it, and to none if there is none. All that can be asked of a registry comes down to this.

## Main definitions

* `Registry.Origin`: How a registry begins.
* `Registry.registerAll`: A registry after any number of registrations.
* `Registry.NamesApart`: No two formats have one name.
* `Registry.LastWriterWins`: A registry in which the last writer of each name wins.

## Theorems

* `Registry.get?_register`: What one registration does to every name.
* `Registry.namesApart_register`: One registration keeps the names apart.
* `Registry.get?_registerAll`, `Registry.namesApart_registerAll`: The same for any number of them.
* `Registry.lastWriterWins_registerAll`: In every registry the last writer wins.
-/

namespace StyleGuide

namespace Registry

/-- How a registry begins: without formats, with those that are always there in the colours of the
    default palette, or with these in the colours of a given one. -/
inductive Origin where
  | empty
  | defaults
  | withPalette (palette : Palette)

namespace Origin

/-- The registry at its beginning. -/
def registry : Origin → Registry
  | empty => .empty
  | defaults => .builtIn {}
  | withPalette palette => .builtIn palette

/-- The formats that are there at the beginning, in the order in which they were registered. -/
def formatters : Origin → List Formatter
  | empty => []
  | defaults => [.markdown {}, .json, .yaml]
  | withPalette palette => [.markdown palette, .json, .yaml]

end Origin

/-- A registry with formats registered one after the other. -/
def registerAll (registry : Registry) (added : List Formatter) : Registry :=
  added.foldl register registry

/-! ### One registration -/

/-- A registration changes where its own name leads and nothing else. -/
theorem get?_register (registry : Registry) (formatter : Formatter) (name : Text) :
    (registry.register formatter).get? name =
      if formatter.name = name then some formatter else registry.get? name := by
  unfold register get?
  by_cases hname : formatter.name = name
  · rw [if_pos hname, List.find?_cons_of_pos (by rw [hname, beq_self_eq_true])]
  · -- The format that was taken out has another name than the one that is looked for.
    have hother : ∀ f : Formatter,
        ((f.name != formatter.name) = true ∧ (f.name == name) = true) ↔ (f.name == name) = true := by
      intro f
      rw [bne_iff_ne, beq_iff_eq]
      exact ⟨fun h => h.2, fun h => ⟨fun heq => hname (heq.symm.trans h), h⟩⟩
    rw [if_neg hname, List.find?_cons_of_neg (by rw [beq_iff_eq]; exact hname),
      List.find?_filter]
    simp only [hother, Bool.decide_eq_true]

/-- No two formats of the registry have one name. -/
def NamesApart (registry : Registry) : Prop := (registry.formatters.map (·.name)).Nodup

theorem namesApart_register (registry : Registry) (formatter : Formatter) (h : registry.NamesApart) :
    (registry.register formatter).NamesApart := by
  unfold NamesApart register
  rw [List.map_cons, List.nodup_cons]
  constructor
  · intro hmem
    rcases List.mem_map.mp hmem with ⟨f, hf, hname⟩
    have hkept := (List.mem_filter.mp hf).2
    rw [hname, bne_self_eq_false] at hkept
    exact Bool.false_ne_true hkept
  · exact h.sublist (List.filter_sublist.map _)

/-! ### Any number of registrations -/

theorem registerAll_concat (registry : Registry) (added : List Formatter) (formatter : Formatter) :
    registry.registerAll (added ++ [formatter]) =
      (registry.registerAll added).register formatter := by
  unfold registerAll
  rw [List.foldl_append, List.foldl_cons, List.foldl_nil]

theorem registerAll_append (registry : Registry) (first second : List Formatter) :
    registry.registerAll (first ++ second) = (registry.registerAll first).registerAll second :=
  List.foldl_append

/-- A name leads to the last of the formats registered that bears it, and where none does it leads
    where it did before. -/
theorem get?_registerAll (registry : Registry) (added : List Formatter) (name : Text) :
    (registry.registerAll added).get? name =
      (added.reverse.find? (·.name == name)).or (registry.get? name) := by
  induction added using List.reverseRecOn with
  | nil => rfl
  | append_singleton added formatter ih =>
      rw [registerAll_concat, get?_register, List.reverse_append, List.reverse_singleton,
        List.singleton_append]
      by_cases hname : formatter.name = name
      · rw [if_pos hname, List.find?_cons_of_pos (by rw [hname, beq_self_eq_true]), Option.some_or]
      · rw [if_neg hname, List.find?_cons_of_neg (by rw [beq_iff_eq]; exact hname), ih]

theorem namesApart_registerAll (registry : Registry) (added : List Formatter)
    (h : registry.NamesApart) : (registry.registerAll added).NamesApart := by
  induction added using List.reverseRecOn with
  | nil => exact h
  | append_singleton added formatter ih =>
      rw [registerAll_concat]
      exact namesApart_register _ formatter ih

/-- The formats that are there at the beginning have been registered too. -/
theorem registry_origin (origin : Origin) :
    origin.registry = empty.registerAll origin.formatters := by
  cases origin <;> rfl

/-! ### Questions to a registry -/

theorem get?_eq_none_iff (registry : Registry) (name : Text) :
    registry.get? name = none ↔ registry.has name = false := by
  unfold get? has
  rw [List.find?_eq_none, List.any_eq_false]

theorem mem_names_iff (registry : Registry) (name : Text) :
    name ∈ registry.names ↔ registry.has name = true := by
  unfold names has
  rw [mem_sorted, List.mem_map, List.any_eq_true]
  simp only [beq_iff_eq]

/-- The last format of a list that bears a name. -/
theorem find?_reverse_eq_some_iff (log : List Formatter) (name : Text) (formatter : Formatter) :
    log.reverse.find? (·.name == name) = some formatter ↔
      ∃ before after, log = before ++ formatter :: after ∧ formatter.name = name ∧
        ∀ later ∈ after, later.name ≠ name := by
  rw [List.find?_eq_some_iff_append]
  simp only [beq_iff_eq, Bool.not_eq_true', beq_eq_false_iff_ne]
  constructor
  · rintro ⟨hname, front, back, hlog, hfront⟩
    refine ⟨back.reverse, front.reverse, ?_, hname, ?_⟩
    · rw [← List.reverse_reverse log, hlog, List.reverse_append, List.reverse_cons,
        List.append_assoc, List.singleton_append]
    · intro later hlater
      exact hfront later (List.mem_reverse.mp hlater)
  · rintro ⟨before, after, rfl, hname, hafter⟩
    refine ⟨hname, after.reverse, before.reverse, ?_, ?_⟩
    · rw [List.reverse_append, List.reverse_cons, List.append_assoc, List.singleton_append]
    · intro later hlater
      exact hafter later (List.mem_reverse.mp hlater)

/-- Each name leads to the last format of the log that bears it, and all that a registry answers
    follows from where names lead. -/
structure LastWriterWins (registry : Registry) (log : List Formatter) : Prop where
  /-- The list of names is in the order of code points and has each name once. -/
  names_ascend : registry.names.Pairwise (· < ·)
  mem_names_iff : ∀ name, name ∈ registry.names ↔ registry.has name = true
  has_iff : ∀ name, registry.has name = true ↔ ∃ formatter, registry.get? name = some formatter
  has_iff_logged : ∀ name, registry.has name = true ↔ ∃ formatter ∈ log, formatter.name = name
  get?_eq_some_iff : ∀ name formatter, registry.get? name = some formatter ↔
    ∃ before after, log = before ++ formatter :: after ∧ formatter.name = name ∧
      ∀ later ∈ after, later.name ≠ name
  /-- A name that leads nowhere is named in the error, whatever the document. -/
  serialize_missing : ∀ name, registry.has name = false →
    ∀ document, registry.serialize document name = .error (.notFound name)
  /-- The format that a name leads to bears the name, and what it makes of a document is passed
      on, success or error. -/
  serialize_present : ∀ name formatter, registry.get? name = some formatter →
    formatter.name = name ∧
      ∀ document, registry.serialize document name = formatter.serialize document
  /-- A further registration does nothing to other names. -/
  register_elsewhere : ∀ formatter name, name ≠ formatter.name →
    (registry.register formatter).get? name = registry.get? name ∧
      ∀ document, (registry.register formatter).serialize document name =
        registry.serialize document name

/-- A registry is a map in which the last writer wins, however it began and whatever has been
    registered since. -/
theorem lastWriterWins_registerAll (origin : Origin) (added : List Formatter) :
    LastWriterWins (origin.registry.registerAll added) (origin.formatters ++ added) := by
  rw [registry_origin, ← registerAll_append]
  generalize origin.formatters ++ added = log
  have hget : ∀ name, (empty.registerAll log).get? name =
      log.reverse.find? (·.name == name) := by
    intro name
    rw [get?_registerAll, show empty.get? name = none from rfl, Option.or_none]
  have hsome : ∀ name formatter, (empty.registerAll log).get? name = some formatter ↔
      ∃ before after, log = before ++ formatter :: after ∧ formatter.name = name ∧
        ∀ later ∈ after, later.name ≠ name := by
    intro name formatter
    rw [hget, find?_reverse_eq_some_iff]
  have hhas : ∀ name, (empty.registerAll log).has name = true ↔
      ∃ formatter, (empty.registerAll log).get? name = some formatter := by
    intro name
    rw [← Option.isSome_iff_exists, Option.isSome_iff_ne_none, Ne, get?_eq_none_iff,
      Bool.not_eq_false]
  have hapart : (empty.registerAll log).NamesApart := namesApart_registerAll empty log List.nodup_nil
  refine ⟨pairwise_lt_sorted _ hapart, mem_names_iff _, hhas, fun name => ?_, hsome,
    fun name hmissing document => ?_, fun name formatter hpresent => ?_,
    fun formatter name hne => ?_⟩
  · rw [hhas]
    simp only [hget, ← Option.isSome_iff_exists, List.find?_isSome, List.mem_reverse, beq_iff_eq]
  · rw [serialize, (get?_eq_none_iff _ name).mpr hmissing]
  · rcases (hsome name formatter).mp hpresent with ⟨_, _, _, hname, _⟩
    refine ⟨hname, fun document => ?_⟩
    rw [serialize, hpresent]
  · have hsame : ((empty.registerAll log).register formatter).get? name =
        (empty.registerAll log).get? name := by
      rw [get?_register, if_neg (Ne.symm hne)]
    refine ⟨hsame, fun document => ?_⟩
    rw [serialize, serialize, hsame]

end Registry

end StyleGuide
