import StyleGuide.Proofs.Line.Written
import StyleGuide.Proofs.Scan.Step

/-!
# Severities below a rule header

A severity may stand behind the colon of a rule header or on an indented line of its own below it.
It makes no difference which, in any ruleset: not for the rule, not for the rules above, and not
for what comes after.

The two rulesets have different numbers of lines, and the headers do different things: one has the
severity and the other has to look ahead for it. What makes them meet is that the lines of the
block below a header are `Quiet`: after a header no comments wait and no description is open, and
then such a line changes nothing. It would in other places, where it ends the run of comments, so
`Quiet` is about the state and not about the line alone.

The rules above are another matter, since they look ahead too. They cannot see the difference
because both headers are indented by two characters, and looking ahead ends at a line that is not
indented by four.

## Main definitions

* `Line.IsAttribute`: A line of the block below a rule header.
* `Scanner.Quiet`: A state that such lines leave alone.

## Theorems

* `quiet_step_ruleHeader`: After a rule header the state is quiet.
* `step_attribute`, `run_attributes`: The lines of a block leave a quiet state alone.
* `step_ruleHeader_congr`: Only name and severity of a header matter.
* `nestedSeverityBelow?_attributes`: Looking ahead finds the first severity in the block.
* `run_inlineHeader`: The severity may be moved to a line below the header.
* `compile_severity_moved`: Rulesets that differ in that compile to the same document.
-/

namespace StyleGuide

/-- A line of the block below a rule header: it is indented, and it is neither a comment nor the
    start of a rules block. -/
structure Line.IsAttribute (line : Text) : Prop where
  nested : Line.isNested line = true
  not_comment : Line.isComment line = false
  not_rules : Line.startsRules line = false

namespace Line

/-- The line of a severity is one of them. -/
theorem isAttribute_severityLine (severity : Text) : IsAttribute (severityLine severity) := by
  refine ⟨rfl, rfl, ?_⟩
  rw [startsRules, beq_eq_false_iff_ne]
  intro hrules
  -- The first visible character is an `s`.
  rcases trimStart_eq_of_trim_eq _ _ 'r' hrules with ⟨text, htext⟩
  exact absurd (List.cons.inj htext).1 (by decide)

end Line

/-! ### Looking ahead -/

/-- Looking ahead finds the first severity in the block. -/
theorem nestedSeverityBelow?_attributes (severity : Text) (attributes after : List Text)
    (hseverity : Line.IsWord severity)
    (hattributes : ∀ line ∈ attributes, Line.IsAttribute line ∧
      Line.nestedSeverity? line = none) :
    nestedSeverityBelow? (attributes ++ Line.severityLine severity :: after) = some severity := by
  have hnested : ∀ line ∈ attributes, Line.isNested line = true :=
    fun line hline => (hattributes line hline).1.nested
  have hnone : attributes.findSome? Line.nestedSeverity? = none :=
    List.findSome?_eq_none_iff.mpr fun line hline => (hattributes line hline).2
  rw [nestedSeverityBelow?, List.takeWhile_append_of_pos hnested,
    List.takeWhile_cons_of_pos (Line.isAttribute_severityLine severity).nested,
    List.findSome?_append, hnone, Option.none_or, List.findSome?_cons,
    Line.nestedSeverity?_severityLine severity hseverity]

/-! ### Headers and the lines of their blocks -/

theorem Mode.settled_settled (mode : Mode) : mode.settled.settled = mode.settled := by
  cases mode with
  | describing rulesOpen => cases rulesOpen <;> rfl
  | preSection | rules | idle => rfl

namespace Scanner

/-- A state that the lines of a block leave alone: no description is open, and in a rules block no
    comments wait. -/
structure Quiet (scanner : Scanner) : Prop where
  settled : scanner.mode.settled = scanner.mode
  nothing_waits : scanner.mode = .rules → scanner.hasSection = true → scanner.pending = []

section Step

variable (options : ScanOptions) (scanner : Scanner) (line : Text) (following : List Text)

/-- The lines of a block leave a quiet state alone. -/
theorem step_attribute (h : scanner.Quiet) (hline : Line.IsAttribute line) :
    scanner.step options line following = scanner := by
  rcases inside_or_outside scanner with ⟨hmode, hsection⟩ | hout
  · have hrules : scanner.mode = .rules := by rw [← h.settled, hmode]
    rw [step_other options scanner line following hline.not_comment hline.not_rules
      (Line.ruleHeader?_eq_none_of_isNested line hline.nested) hmode hsection, ← hrules,
      ← h.nothing_waits hrules hsection]
  · rw [step_outside options scanner line following hline.not_comment hline.not_rules hout,
      h.settled]

/-- After a rule header the state is quiet. -/
theorem quiet_step_ruleHeader (header : RuleHeader) (hheader : Line.ruleHeader? line = some header)
    (hrules : Line.startsRules line = false) :
    (scanner.step options line following).Quiet := by
  have hcomment := Line.isComment_eq_false_of_ruleHeader? line header hheader
  rcases inside_or_outside scanner with ⟨hmode, hsection⟩ | hout
  · rw [step_ruleHeader options scanner line following header hheader hrules hmode hsection]
    exact ⟨rfl, fun _ _ => rfl⟩
  · rw [step_outside options scanner line following hcomment hrules hout]
    refine ⟨Mode.settled_settled scanner.mode, fun hmode hsection => ?_⟩
    -- A rules block in a section is where we are not.
    have hnone : scanner.hasSection = false := hout.resolve_left (absurd hmode)
    exact absurd (hsection.symm.trans hnone) (by decide)

/-- Only name and severity of a header matter, wherever the severity was found. -/
theorem step_ruleHeader_congr (line' : Text) (following' : List Text) (header header' : RuleHeader)
    (hheader : Line.ruleHeader? line = some header)
    (hheader' : Line.ruleHeader? line' = some header')
    (hrules : Line.startsRules line = false) (hrules' : Line.startsRules line' = false)
    (hname : header.name = header'.name)
    (hseverity : resolveSeverity options header following =
      resolveSeverity options header' following') :
    scanner.step options line following = scanner.step options line' following' := by
  have hcomment := Line.isComment_eq_false_of_ruleHeader? line header hheader
  have hcomment' := Line.isComment_eq_false_of_ruleHeader? line' header' hheader'
  rcases inside_or_outside scanner with ⟨hmode, hsection⟩ | hout
  · rw [step_ruleHeader options scanner line following header hheader hrules hmode hsection,
      step_ruleHeader options scanner line' following' header' hheader' hrules' hmode hsection,
      hname, hseverity]
  · rw [step_outside options scanner line following hcomment hrules hout,
      step_outside options scanner line' following' hcomment' hrules' hout]

end Step

variable (options : ScanOptions) (scanner : Scanner)

/-- The lines of a block leave a quiet state alone, all of them. -/
theorem run_attributes (attributes rest : List Text) (h : scanner.Quiet)
    (hattributes : ∀ line ∈ attributes, Line.IsAttribute line) :
    scanner.run options (attributes ++ rest) = scanner.run options rest := by
  induction attributes with
  | nil => rfl
  | cons line attributes ih =>
      rw [List.cons_append, run,
        step_attribute options scanner line _ h (hattributes line List.mem_cons_self)]
      exact ih fun l hl => hattributes l (List.mem_cons_of_mem _ hl)

/-- The severity may be moved to a line below the header, whatever the state. -/
theorem run_inlineHeader (name severity : Text) (attributes after : List Text)
    (hname : Line.IsName name) (hrules : name ≠ ("rules" : Text))
    (hseverity : Line.IsWord severity)
    (hattributes : ∀ line ∈ attributes, Line.IsAttribute line ∧
      Line.nestedSeverity? line = none) :
    scanner.run options (Line.inlineHeader name severity :: (attributes ++ after)) =
      scanner.run options
        (Line.bareHeader name :: (attributes ++ Line.severityLine severity :: after)) := by
  have hinline := Line.ruleHeader?_inlineHeader name severity hname hseverity
  have hbare := Line.ruleHeader?_bareHeader name hname
  have hinline' := Line.startsRules_inlineHeader name severity hname hseverity
  have hbare' := Line.startsRules_bareHeader name hname hrules
  have hfound : severity = resolveSeverity options ⟨name, none⟩
      (attributes ++ Line.severityLine severity :: after) := by
    have hbelow := nestedSeverityBelow?_attributes severity attributes after hseverity hattributes
    rw [nestedSeverityBelow?] at hbelow
    simp only [resolveSeverity, hbelow]
  have hstep := step_ruleHeader_congr options scanner _ (attributes ++ after) _ _ _ _ hinline hbare
    hinline' hbare' rfl hfound
  have hquiet := quiet_step_ruleHeader options scanner _
    (attributes ++ Line.severityLine severity :: after) _ hbare hbare'
  have hblock : ∀ line ∈ attributes, Line.IsAttribute line :=
    fun line hline => (hattributes line hline).1
  rw [run, run, hstep, run_attributes options _ attributes after hquiet hblock,
    run_attributes options _ attributes _ hquiet hblock, run,
    step_attribute options _ _ after hquiet (Line.isAttribute_severityLine severity)]

end Scanner

/-- Rulesets that differ in where the severity of one rule stands compile to the same document. -/
theorem compile_severity_moved (options : ScanOptions) (name severity : Text)
    (before attributes after : List Text) (inline nested : Text)
    (hname : Line.IsName name) (hrules : name ≠ ("rules" : Text))
    (hseverity : Line.IsWord severity)
    (hattributes : ∀ line ∈ attributes, Line.IsAttribute line ∧
      Line.nestedSeverity? line = none)
    (hinline : inline.lines =
      before ++ Line.inlineHeader name severity :: (attributes ++ after))
    (hnested : nested.lines = before ++ Line.bareHeader name ::
      (attributes ++ Line.severityLine severity :: after)) :
    compile options inline = compile options nested := by
  -- The rules above stop looking ahead at either header, which is not indented enough.
  have hshallow : ∀ (line : Text) (rest : List Text) (header : RuleHeader),
      Line.ruleHeader? line = some header →
        ∀ l ∈ (line :: rest).head?, Line.isNested l = false := by
    intro line rest header hheader l hl
    rw [← Option.some.inj hl]
    exact Line.isNested_eq_false_of_ruleHeader? line header hheader
  have hrun := Scanner.run_append_congr options Scanner.start before _ _
    (hshallow _ (attributes ++ after) _
      (Line.ruleHeader?_inlineHeader name severity hname hseverity))
    (hshallow _ (attributes ++ Line.severityLine severity :: after) _
      (Line.ruleHeader?_bareHeader name hname))
    fun scanner => Scanner.run_inlineHeader options scanner name severity attributes after hname
      hrules hseverity hattributes
  rw [compile, compile, hinline, hnested, hrun]

/-- A rule right below another one, with a comment waiting and an attribute of its own: the severity
    is its own in both rulesets, and the rule above has none. -/
theorem compile_severity_moved_between_rules :
    compile {}
        (("# Section: S\nrules:\n  a:\n  # On b.\n  b: warn\n    since: 2\n" :
          String) : Text) =
      compile {}
        (("# Section: S\nrules:\n  a:\n  # On b.\n  b:\n    since: 2\n    severity: warn\n" :
          String) : Text) ∧
    (compile {}
        (("# Section: S\nrules:\n  a:\n  # On b.\n  b: warn\n    since: 2\n" :
          String) : Text)).rules.map Rule.severity = [("off" : Text), ("warn" : Text)] := by
  have hattribute : Line.IsAttribute ("    since: 2" : Text) ∧
      Line.nestedSeverity? ("    since: 2" : Text) = none :=
    ⟨⟨by decide, by decide, by decide⟩, by decide⟩
  constructor
  · refine compile_severity_moved {} ("b" : Text) ("warn" : Text)
      [("# Section: S" : Text), ("rules:" : Text), ("  a:" : Text), ("  # On b." : Text)]
      [("    since: 2" : Text)] [] _ _ ⟨by decide, List.all_eq_true.mp rfl⟩ (by decide)
      ⟨by decide, List.all_eq_true.mp rfl⟩ ?_ (by decide) (by decide)
    intro line hline
    rw [List.mem_singleton.mp hline]
    exact hattribute
  · decide

end StyleGuide
