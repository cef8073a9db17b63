import StyleGuide.Proofs.Scan.Documentation
import StyleGuide.Proofs.Scan.Independence

/-!
# What the default severity decides

The one option of scanning, and how far its influence goes.

Two runs over the same lines with different defaults go side by side. The default is used for one
thing, the severity of a rule that is being made, and no line is read differently for the severities
of the rules above. So the runs agree in everything but the severities, which `Alike` says of two
states and every step keeps. What the lines that follow have to say plays no part in this, since it
is about severities too.

Which severities differ can be told from the lines alone. A rule declares a severity in its header
or in the block below, or it declares none, and only in the last case the default stands in. This is
a fact about lines and not about severities as they come out: a default may be a word that rules
declare as well, or no word at all, and the rules that it stands in for remain the same.

## Main definitions

* `Rule.bare`, `Section.bare`, `Document.bare`: Without severities.
* `Scanner.Alike`: States that agree in everything but severities.
* `declaredAt?`, `declaredSeverities`: What the rules of some lines declare.
* `Undeclared`: The rules that declare nothing, by their numbers.

## Theorems

* `bare_apply`: Edits have no regard to severities.
* `alike_step`, `alike_run`: Runs with different defaults stay alike.
* `bare_compile`: Documents are the same but for severities.
* `severities_compile`: The severities of a compiled document.
* `compile_default_severity`: Undeclared severities are the default, and it influences nothing else.
-/

namespace StyleGuide

/-- A rule without its severity. -/
def Rule.bare (rule : Rule) : Rule := { rule with severity := [] }

/-- A section without the severities of its rules. -/
def Section.bare (s : Section) : Section := { s with rules := s.rules.map Rule.bare }

/-- A document without the severities of its rules. -/
def Document.bare (document : Document) : Document :=
  { document with sections := document.sections.map Section.bare }

/-- An edit without the severity of the rule that it adds. -/
def Edit.bare : Edit → Edit
  | .addRule rule => .addRule rule.bare
  | edit => edit

/-- States that agree in everything but the severities of the rules so far. -/
structure Scanner.Alike (scanner scanner' : Scanner) : Prop where
  document : scanner.document.bare = scanner'.document.bare
  mode : scanner.mode = scanner'.mode
  pending : scanner.pending = scanner'.pending

namespace Document

/-- Changing the last section goes together with a change of all sections. -/
theorem map_modifyLast_comm (change f f' : Section → Section)
    (h : ∀ s, change (f s) = f' (change s)) (sections : List Section) :
    (modifyLast f sections).map change = modifyLast f' (sections.map change) := by
  rcases List.eq_nil_or_concat' sections with rfl | ⟨front, last, rfl⟩
  · rfl
  · rw [modifyLast_concat, List.map_append, List.map_append, List.map_cons, List.map_nil,
      List.map_cons, List.map_nil, modifyLast_concat, h]

/-- Edits have no regard to severities. -/
theorem bare_apply (document : Document) (edit : Edit) :
    (document.apply edit).bare = document.bare.apply edit.bare := by
  cases edit with
  | retitle | describe => rfl
  | openSection name =>
      simp only [apply, openSection, bare, Edit.bare, List.map_append, List.map_cons, List.map_nil]
      rfl
  | describeSection line =>
      exact congrArg (Document.mk document.title document.description)
        (map_modifyLast_comm Section.bare
          (fun s => { s with description := s.description ++ [line] }) _ (fun _ => rfl) _)
  | addRule rule =>
      refine congrArg (Document.mk document.title document.description)
        (map_modifyLast_comm Section.bare (fun s => { s with rules := s.rules ++ [rule] }) _
          (fun s => ?_) _)
      simp only [Section.bare, List.map_append, List.map_cons, List.map_nil]

/-- The same edit keeps documents the same but for severities. -/
theorem bare_apply_congr (document document' : Document) (edit edit' : Edit)
    (h : document.bare = document'.bare) (hedit : edit.bare = edit'.bare) :
    (document.apply edit).bare = (document'.apply edit').bare := by
  rw [bare_apply, bare_apply, h, hedit]

end Document

namespace Scanner

variable (options options' : ScanOptions) (scanner scanner' : Scanner)

theorem Alike.hasSection_eq (h : scanner.Alike scanner') :
    scanner.hasSection = scanner'.hasSection := by
  have hempty := congrArg (fun document : Document => document.sections.isEmpty) h.document
  simp only [Document.bare, List.isEmpty_map] at hempty
  rw [hasSection, hasSection, hempty]

/-- Steps stay alike whatever the defaults are, and whatever is shown as following. -/
theorem alike_step (line : Text) (following following' : List Text) (h : scanner.Alike scanner') :
    (scanner.step options line following).Alike (scanner'.step options' line following') := by
  have hrole : scanner.role line = scanner'.role line :=
    role_congr scanner scanner' line h.mode (h.hasSection_eq scanner scanner')
  have hedited : ∀ edit edit' : Edit, edit.bare = edit'.bare →
      (scanner.document.apply edit).bare = (scanner'.document.apply edit').bare :=
    fun edit edit' => Document.bare_apply_congr _ _ edit edit' h.document
  rw [step, step, hrole]
  cases scanner'.role line with
  | title title => exact ⟨hedited (.retitle title) _ rfl, h.mode, h.pending⟩
  | documentText => exact ⟨hedited (.describe (Line.described line)) _ rfl, h.mode, h.pending⟩
  | sectionHeader name => exact ⟨hedited (.openSection name) _ rfl, by rw [h.mode], rfl⟩
  | sectionText =>
      exact ⟨hedited (.describeSection (Line.described line)) _ rfl, h.mode, h.pending⟩
  | rulesStart => exact ⟨h.document, rfl, rfl⟩
  | outside => exact ⟨h.document, congrArg Mode.settled h.mode, h.pending⟩
  | ruleText =>
      exact ⟨h.document, congrArg Mode.settled h.mode, congrArg (· ++ _) h.pending⟩
  | ruleHeader header =>
      -- The rules have the same comments, and their severities may differ.
      rw [h.pending]
      exact ⟨hedited (.addRule _) (.addRule _) rfl, congrArg Mode.settled h.mode, rfl⟩
  | other => exact ⟨h.document, congrArg Mode.settled h.mode, rfl⟩

/-- Runs stay alike whatever the defaults are. -/
theorem alike_run (lines : List Text) (h : scanner.Alike scanner') :
    (scanner.run options lines).Alike (scanner'.run options' lines) := by
  induction lines generalizing scanner scanner' with
  | nil => exact h
  | cons line lines ih =>
      exact ih _ _ (alike_step options options' scanner scanner' line lines lines h)

end Scanner

/-- Documents are the same but for severities, whatever the defaults are. -/
theorem bare_compile (options options' : ScanOptions) (source : Text) :
    (compile options source).bare = (compile options' source).bare :=
  (Scanner.alike_run options options' _ _ source.lines ⟨rfl, rfl, rfl⟩).document

/-! ### Declared severities -/

/-- The severity that the rule of line `i` declares, in its header or in the block below. -/
def declaredAt? (lines : List Text) (i : Nat) : Option Text :=
  (ruleAt? lines i).bind fun header =>
    header.severity.or (nestedSeverityBelow? (lines.drop (i + 1)))

/-- What the rules of some lines declare, in document order. -/
def declaredSeverities (lines : List Text) : List (Option Text) :=
  (ruleLines lines).map (declaredAt? lines)

/-- Rule number `k` of some lines, in document order, declares no severity. -/
def Undeclared (lines : List Text) (k : Nat) : Prop := (declaredSeverities lines)[k]? = some none

instance (lines : List Text) (k : Nat) : Decidable (Undeclared lines k) :=
  inferInstanceAs (Decidable (_ = _))

/-- The severities of a compiled document are the declared ones, with the default for those that are
    not. -/
theorem severities_compile (options : ScanOptions) (source : Text) :
    (compile options source).rules.map Rule.severity =
      (declaredSeverities source.lines).map fun declared =>
        declared.getD options.defaultSeverity := by
  have hseverities : List.Forall₂ Eq
      ((declaredSeverities source.lines).map fun declared =>
        declared.getD options.defaultSeverity)
      ((compile options source).rules.map Rule.severity) := by
    rw [declaredSeverities, List.map_map, ← Document.map_snd_placedRules, List.map_map,
      List.forall₂_map_left_iff, List.forall₂_map_right_iff]
    refine (placedRules_compile options source).imp fun i placed hplaced => ?_
    rcases hplaced with ⟨header, hheader, _, hrule⟩
    rw [Function.comp_apply, Function.comp_apply, hrule, documentRule_eq, resolveSeverity_eq,
      severityBelow, declaredAt?, hheader, Option.bind_some]
    cases header.severity <;> rfl
  rw [List.forall₂_eq_eq_eq] at hseverities
  exact hseverities.symm

/-- The default severity influences undeclared severities and nothing else. Documents of the same
    ruleset are the same but for the severities of rules; those are the defaults where the lines
    declare no severity, and the same everywhere else. -/
theorem compile_default_severity (source : Text) (options options' : ScanOptions) :
    (compile options source).bare = (compile options' source).bare ∧
    ∀ (k : Nat) (rule rule' : Rule), (compile options source).rules[k]? = some rule →
      (compile options' source).rules[k]? = some rule' →
        (Undeclared source.lines k →
          rule.severity = options.defaultSeverity ∧ rule'.severity = options'.defaultSeverity) ∧
        (¬Undeclared source.lines k → rule.severity = rule'.severity) := by
  refine ⟨bare_compile options options' source, fun k rule rule' hrule hrule' => ?_⟩
  have hseverity : ∀ (options : ScanOptions) (rule : Rule),
      (compile options source).rules[k]? = some rule → ∃ declared : Option Text,
        (declaredSeverities source.lines)[k]? = some declared ∧
          rule.severity = declared.getD options.defaultSeverity := by
    intro options rule hrule
    have hat := congrArg (fun severities : List Text => severities[k]?)
      (severities_compile options source)
    simp only [List.getElem?_map, hrule, Option.map_some] at hat
    rcases Option.map_eq_some_iff.mp hat.symm with ⟨declared, hdeclared, hdefault⟩
    exact ⟨declared, hdeclared, hdefault.symm⟩
  rcases hseverity options rule hrule with ⟨declared, hdeclared, hrated⟩
  rcases hseverity options' rule' hrule' with ⟨declared', hdeclared', hrated'⟩
  -- Both rules come from the same line, which declares the same for both.
  rw [hdeclared, Option.some.injEq] at hdeclared'
  rw [← hdeclared'] at hrated'
  rw [hrated, hrated', Undeclared, hdeclared]
  cases declared with
  | none => exact ⟨fun _ => ⟨rfl, rfl⟩, fun hnot => absurd rfl hnot⟩
  | some severity =>
      refine ⟨fun hnone => ?_, fun _ => rfl⟩
      simp only [Option.some.injEq, reduceCtorEq] at hnone

-- With a default that a rule declares too, one of two rules of the same severity declares it.
example : ((compile ⟨"warn"⟩ "# Section: S\nrules:\n  a:\n  b: warn\n").rules.map Rule.severity =
      [("warn" : Text), ("warn" : Text)]) ∧
    Undeclared (Text.lines "# Section: S\nrules:\n  a:\n  b: warn\n") 0 ∧
    ¬Undeclared (Text.lines "# Section: S\nrules:\n  a:\n  b: warn\n") 1 := by
  decide

end StyleGuide
