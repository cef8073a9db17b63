import StyleGuide.Scan.Scanner
import StyleGuide.Proofs.Line.Payload

/-!
# One line at a time

What a line does to the scanner, one fact for each role it can play, and how runs over lists of
lines are put together from such steps.

The role of a line is decided by an ordered list of tests, so every later argument would have to
go through the tests again. The facts here go through them once: each names the kind of line and
what has to be known of the state, and gives the state afterwards as a whole. Kinds of lines
exclude each other (a section header is no title line, a line that is no comment is neither), so
no fact has to mention the tests that come before its own.

The lines that follow are looked at for one purpose, the severity of a rule whose header gives
none, and only as far as they are indented. `step_congr` is that fact; it allows lines that follow
to be exchanged for others, and `run_append` cuts a run in two where nothing is seen across the
cut. A run can be seen as a list of steps, each with the line it reads and the lines it is shown as
following, which is `feed`. Everything that does not concern severities holds of feeds with any
lines shown.

## Main definitions

* `nestedSeverityBelow?`: What the lines that follow have to say about a rule's severity.
* `severityBelow`: The severity that a rule without one of its own gets from them.
* `Scanner.feed`: Steps taken one after another, each shown its own lines as following.
* `Scanner.CommentStep`, `Scanner.BodyStep`: All that a comment and any other line can do.
* `withRest`: The lines of a list with the lines that follow each.

## Theorems

* `hasSection_iff`: There is a section if the document has one.
* `step_title`, `step_sectionHeader`: What marked lines do.
* `step_documentText`, `step_sectionText`, `step_ruleText`: What other comments do.
* `step_comment_idle`: A comment in a section, outside a rules block, does nothing.
* `role_of_startsRules`, `role_of_outside`, `bodyRole_of_rules`: What other lines are.
* `step_rulesStart`, `step_ruleHeader`, `step_other`, `step_outside`: What other lines do.
* `inside_or_outside`: Where rules can be made.
* `commentStep`, `bodyStep`: A step does one of these things.
* `severityBelow_append`: What is seen through some lines depends on what is seen behind them.
* `step_congr`: Lines that follow matter for a nested severity only.
* `run_eq_feed`: A run is a feed in which every line sees the lines after it.
* `run_append`: A run is cut in two where nothing is seen across the cut.
-/

namespace StyleGuide

/-- What the lines that follow have to say about the severity of a rule. -/
def nestedSeverityBelow? (following : List Text) : Option Text :=
  (following.takeWhile Line.isNested).findSome? Line.nestedSeverity?

/-- The severity of a rule whose header gives none, from the lines that follow the header. -/
def severityBelow (options : ScanOptions) (following : List Text) : Text :=
  (nestedSeverityBelow? following).getD options.defaultSeverity

/-- A header's own severity counts, and what stands below it where it has none. -/
theorem resolveSeverity_eq (options : ScanOptions) (header : RuleHeader) (following : List Text) :
    resolveSeverity options header following =
      header.severity.getD (severityBelow options following) := by
  rw [resolveSeverity, severityBelow, nestedSeverityBelow?]
  cases header.severity with
  | some severity => rfl
  | none => cases (following.takeWhile Line.isNested).findSome? Line.nestedSeverity? <;> rfl

/-- Lines are looked at one after another as long as they are nested. -/
theorem nestedSeverityBelow?_cons (line : Text) (lines : List Text) :
    nestedSeverityBelow? (line :: lines) =
      if Line.isNested line then (Line.nestedSeverity? line).or (nestedSeverityBelow? lines)
      else none := by
  rw [nestedSeverityBelow?, nestedSeverityBelow?]
  cases hnested : Line.isNested line with
  | false => rw [List.takeWhile_cons_of_neg (by rw [hnested]; exact Bool.false_ne_true)]; rfl
  | true =>
      rw [List.takeWhile_cons_of_pos hnested, List.findSome?_cons, if_pos rfl]
      cases Line.nestedSeverity? line <;> rfl

/-- Right above a line that is not nested the default severity holds. -/
theorem severityBelow_of_not_nested (options : ScanOptions) (following : List Text)
    (h : ∀ line ∈ following.head?, Line.isNested line = false) :
    severityBelow options following = options.defaultSeverity := by
  cases following with
  | nil => rfl
  | cons line following =>
      rw [severityBelow, nestedSeverityBelow?_cons, h line rfl, if_neg Bool.false_ne_true,
        Option.getD_none]

/-- Lines may be exchanged for others further down if a rule right above them would get the same
    severity. -/
theorem severityBelow_append (options : ScanOptions) (lines after after' : List Text)
    (h : severityBelow options after = severityBelow options after') :
    severityBelow options (lines ++ after) = severityBelow options (lines ++ after') := by
  induction lines with
  | nil => exact h
  | cons line lines ih =>
      rw [severityBelow, severityBelow] at ih ⊢
      rw [List.cons_append, List.cons_append, nestedSeverityBelow?_cons, nestedSeverityBelow?_cons]
      split
      · cases Line.nestedSeverity? line with
        | some severity => rfl
        | none => exact ih
      · rfl

namespace Scanner

variable (options : ScanOptions) (scanner : Scanner) (line : Text) (following : List Text)

theorem hasSection_iff : scanner.hasSection = true ↔ scanner.document.sections ≠ [] := by
  rw [hasSection, Bool.not_eq_true', List.isEmpty_eq_false_iff]

theorem hasSection_eq_false_iff : scanner.hasSection = false ↔ scanner.document.sections = [] := by
  rw [hasSection, Bool.not_eq_false', List.isEmpty_iff]

/-! ### Marked lines -/

/-- A title line gives the title and changes nothing else. -/
theorem step_title (title : Text) (h : Line.title? line = some title) :
    scanner.step options line following =
      { scanner with document := scanner.document.withTitle title } := by
  have hrole : scanner.role line = .title title := by simp only [role, h]
  rw [step, hrole]

/-- A section header opens a section, in which a rules block is open if one was before. -/
theorem step_sectionHeader (name : Text) (h : Line.section? line = some name) :
    scanner.step options line following =
      { document := scanner.document.openSection name
        mode := .describing scanner.mode.rulesOpen
        pending := [] } := by
  have htitle := Line.title?_eq_none_of_section? line name h
  have hrole : scanner.role line = .sectionHeader name := by simp only [role, htitle, h]
  rw [step, hrole]

/-! ### Other comments -/

/-- A comment before the first section describes the document. -/
theorem step_documentText (hcomment : Line.isComment line = true)
    (htitle : Line.title? line = none) (hheader : Line.section? line = none)
    (hsection : scanner.hasSection = false) :
    scanner.step options line following =
      { scanner with document := scanner.document.describe (Line.described line) } := by
  have hrole : scanner.role line = .documentText := by
    simp only [role, htitle, hheader, hcomment, hsection, Bool.not_false, Bool.and_self, if_true]
  rw [step, hrole]

/-- A comment in the run below a section header describes the section. -/
theorem step_sectionText (hcomment : Line.isComment line = true)
    (htitle : Line.title? line = none) (hheader : Line.section? line = none)
    (hsection : scanner.hasSection = true) (rulesOpen : Bool)
    (hmode : scanner.mode = .describing rulesOpen) :
    scanner.step options line following =
      { scanner with document := scanner.document.describeSection (Line.described line) } := by
  have hrole : scanner.role line = .sectionText := by
    simp only [role, htitle, hheader, hcomment, hsection, hmode, Bool.not_true, Bool.and_false,
      Bool.false_eq_true, if_false, if_true]
  rw [step, hrole]

/-- A comment in a rules block waits for a rule. -/
theorem step_ruleText (hcomment : Line.isComment line = true)
    (htitle : Line.title? line = none) (hheader : Line.section? line = none)
    (hsection : scanner.hasSection = true) (hmode : scanner.mode = .rules) :
    scanner.step options line following =
      { scanner with pending := scanner.pending ++ [Line.uncomment line] } := by
  have hrole : scanner.role line = .ruleText := by
    simp only [role, bodyRole, htitle, hheader, hcomment, hsection, hmode, Mode.settled,
      Line.startsRules_eq_false_of_isComment line hcomment, Bool.not_true, Bool.and_false,
      Bool.false_eq_true, if_false, if_true, ne_eq, not_true_eq_false, or_self]
  rw [step, hrole]
  simp only [hmode, Mode.settled]

/-- A comment in a section, below something else and outside a rules block, does nothing. -/
theorem step_comment_idle (hcomment : Line.isComment line = true)
    (htitle : Line.title? line = none) (hheader : Line.section? line = none)
    (hsection : scanner.hasSection = true) (hmode : scanner.mode ≠ .rules)
    (hsettled : scanner.mode.settled = scanner.mode) :
    scanner.step options line following = scanner := by
  have hbody : scanner.role line = scanner.bodyRole line := by
    simp only [role, htitle, hheader, hcomment, hsection, Bool.not_true, Bool.and_false,
      Bool.false_eq_true, if_false]
    cases hm : scanner.mode with
    | describing rulesOpen =>
        rw [hm] at hsettled
        exact absurd hsettled (by cases rulesOpen <;> decide)
    | preSection | rules | idle => rfl
  have hrole : scanner.role line = .outside := by
    rw [hbody, bodyRole, if_neg (by
      rw [Line.startsRules_eq_false_of_isComment line hcomment]; exact Bool.false_ne_true),
      if_pos (Or.inl (by rw [hsettled]; exact hmode))]
  rw [step, hrole]
  simp only [hsettled]

/-- What a comment can do that opens no section, with what has to be the case for it. -/
inductive CommentStep : Scanner → Prop where
  | title (title : Text) (htitle : Line.title? line = some title) :
      CommentStep { scanner with document := scanner.document.withTitle title }
  | documentText (htitle : Line.title? line = none) (hsection : scanner.hasSection = false) :
      CommentStep { scanner with document := scanner.document.describe (Line.described line) }
  | sectionText (htitle : Line.title? line = none) (hsection : scanner.hasSection = true)
      (rulesOpen : Bool) (hmode : scanner.mode = .describing rulesOpen) :
      CommentStep
        { scanner with document := scanner.document.describeSection (Line.described line) }
  | ruleText (htitle : Line.title? line = none) (hsection : scanner.hasSection = true)
      (hmode : scanner.mode = .rules) :
      CommentStep { scanner with pending := scanner.pending ++ [Line.uncomment line] }
  | idle (htitle : Line.title? line = none) (hsection : scanner.hasSection = true)
      (hmode : scanner.mode ≠ .rules) (hsettled : scanner.mode.settled = scanner.mode) :
      CommentStep scanner

/-- A comment that opens no section does one of these things. -/
theorem commentStep (hcomment : Line.isComment line = true)
    (hheader : Line.section? line = none) :
    CommentStep scanner line (scanner.step options line following) := by
  cases htitle : Line.title? line with
  | some title =>
      rw [step_title options scanner line following title htitle]
      exact .title title htitle
  | none =>
      cases hsection : scanner.hasSection with
      | false =>
          rw [step_documentText options scanner line following hcomment htitle hheader hsection]
          exact .documentText htitle hsection
      | true =>
          cases hmode : scanner.mode with
          | describing rulesOpen =>
              rw [step_sectionText options scanner line following hcomment htitle hheader hsection
                rulesOpen hmode]
              exact .sectionText htitle hsection rulesOpen hmode
          | rules =>
              rw [step_ruleText options scanner line following hcomment htitle hheader hsection
                hmode]
              exact .ruleText htitle hsection hmode
          | preSection | idle =>
              have hnot : scanner.mode ≠ .rules := by rw [hmode]; decide
              have hsettled : scanner.mode.settled = scanner.mode := by rw [hmode]; rfl
              rw [step_comment_idle options scanner line following hcomment htitle hheader hsection
                hnot hsettled]
              exact .idle htitle hsection hnot hsettled

/-! ### Other lines -/

/-- A line that is no comment plays its role whether or not it ends a section's description. -/
theorem role_of_not_isComment (h : Line.isComment line = false) :
    scanner.role line = scanner.bodyRole line := by
  have htitle := Line.title?_eq_none_of_not_isComment line h
  have hheader := Line.section?_eq_none_of_not_isComment line h
  simp only [role, htitle, hheader, h, Bool.false_and, Bool.false_eq_true, if_false]
  cases scanner.mode <;> rfl

/-- The start of a rules block is one in every state. -/
theorem role_of_startsRules (h : Line.startsRules line = true) :
    scanner.role line = .rulesStart := by
  have hcomment : Line.isComment line = false := by
    rw [Bool.eq_false_iff]
    intro hc
    rw [Line.startsRules_eq_false_of_isComment line hc] at h
    exact Bool.false_ne_true h
  simp only [role_of_not_isComment scanner line hcomment, bodyRole, h, if_true]

/-- The start of a rules block opens the block and drops the comments that wait. -/
theorem step_rulesStart (h : Line.startsRules line = true) :
    scanner.step options line following = { scanner with mode := .rules, pending := [] } := by
  rw [step, role_of_startsRules scanner line h]

/-- Rules can be made where a rules block is open in a section, and nowhere else. -/
theorem inside_or_outside : (scanner.mode.settled = .rules ∧ scanner.hasSection = true) ∨
    (scanner.mode.settled ≠ .rules ∨ scanner.hasSection = false) := by
  by_cases hin : scanner.mode.settled = .rules ∧ scanner.hasSection = true
  · exact Or.inl hin
  · rw [not_and_or, Bool.not_eq_true] at hin
    exact Or.inr hin

/-- Outside a rules block, and before the first section, a line counts as none of its kinds. -/
theorem role_of_outside (hcomment : Line.isComment line = false)
    (hrules : Line.startsRules line = false)
    (hmode : scanner.mode.settled ≠ .rules ∨ scanner.hasSection = false) :
    scanner.role line = .outside := by
  have hcond : scanner.mode.settled ≠ .rules ∨ (!scanner.hasSection) = true := by
    rw [Bool.not_eq_true']
    exact hmode
  simp only [role_of_not_isComment scanner line hcomment, bodyRole, hrules, Bool.false_eq_true,
    if_false, if_pos hcond]

/-- Such a line only ends a section's description. -/
theorem step_outside (hcomment : Line.isComment line = false)
    (hrules : Line.startsRules line = false)
    (hmode : scanner.mode.settled ≠ .rules ∨ scanner.hasSection = false) :
    scanner.step options line following = { scanner with mode := scanner.mode.settled } := by
  rw [step, role_of_outside scanner line hcomment hrules hmode]

/-- What a line in a rules block is, if it is no comment and starts no rules block itself. -/
theorem bodyRole_of_rules (hcomment : Line.isComment line = false)
    (hrules : Line.startsRules line = false) (hmode : scanner.mode.settled = .rules)
    (hsection : scanner.hasSection = true) :
    scanner.role line = match Line.ruleHeader? line with
      | some header => .ruleHeader header
      | none => .other := by
  cases hheader : Line.ruleHeader? line <;>
    simp only [role_of_not_isComment scanner line hcomment, bodyRole, hrules, hmode, hsection,
      hcomment, hheader, Bool.not_true, Bool.false_eq_true, if_false, ne_eq, not_true_eq_false,
      or_self]

/-- A rule header in a rules block makes a rule of what waits for it. -/
theorem step_ruleHeader (header : RuleHeader) (h : Line.ruleHeader? line = some header)
    (hrules : Line.startsRules line = false) (hmode : scanner.mode.settled = .rules)
    (hsection : scanner.hasSection = true) :
    scanner.step options line following =
      { document := scanner.document.addRule
          (documentRule header.name (resolveSeverity options header following) scanner.pending)
        mode := .rules
        pending := [] } := by
  have hcomment : Line.isComment line = false :=
    Line.isComment_eq_false_of_ruleHeader? line header h
  rw [step, bodyRole_of_rules scanner line hcomment hrules hmode hsection, h]
  simp only [hmode]

/-- Any other line in a rules block drops the comments that wait. -/
theorem step_other (hcomment : Line.isComment line = false)
    (hrules : Line.startsRules line = false) (h : Line.ruleHeader? line = none)
    (hmode : scanner.mode.settled = .rules) (hsection : scanner.hasSection = true) :
    scanner.step options line following = { scanner with mode := .rules, pending := [] } := by
  rw [step, bodyRole_of_rules scanner line hcomment hrules hmode hsection, h]
  simp only [hmode]

/-- What a line can do that is no comment, with what has to be the case for it. -/
inductive BodyStep : Scanner → Prop where
  | rulesStart (hrules : Line.startsRules line = true) :
      BodyStep { scanner with mode := .rules, pending := [] }
  | ruleHeader (hrules : Line.startsRules line = false) (hmode : scanner.mode.settled = .rules)
      (hsection : scanner.hasSection = true) (header : RuleHeader)
      (hheader : Line.ruleHeader? line = some header) :
      BodyStep
        { document := scanner.document.addRule
            (documentRule header.name (resolveSeverity options header following) scanner.pending)
          mode := .rules
          pending := [] }
  | other (hrules : Line.startsRules line = false) (hmode : scanner.mode.settled = .rules)
      (hsection : scanner.hasSection = true) (hheader : Line.ruleHeader? line = none) :
      BodyStep { scanner with mode := .rules, pending := [] }
  | outside (hrules : Line.startsRules line = false)
      (hout : scanner.mode.settled ≠ .rules ∨ scanner.hasSection = false) :
      BodyStep { scanner with mode := scanner.mode.settled }

/-- A line that is no comment does one of these things. -/
theorem bodyStep (hcomment : Line.isComment line = false) :
    BodyStep options scanner line following (scanner.step options line following) := by
  cases hrules : Line.startsRules line with
  | true =>
      rw [step_rulesStart options scanner line following hrules]
      exact .rulesStart hrules
  | false =>
      rcases inside_or_outside scanner with ⟨hmode, hsection⟩ | hout
      · cases hheader : Line.ruleHeader? line with
        | some header =>
            rw [step_ruleHeader options scanner line following header hheader hrules hmode hsection]
            exact .ruleHeader hrules hmode hsection header hheader
        | none =>
            rw [step_other options scanner line following hcomment hrules hheader hmode hsection]
            exact .other hrules hmode hsection hheader
      · rw [step_outside options scanner line following hcomment hrules hout]
        exact .outside hrules hout

/-! ### Runs -/

/-- Lines that follow matter for a nested severity only. -/
theorem step_congr (following' : List Text)
    (h : severityBelow options following = severityBelow options following') :
    scanner.step options line following = scanner.step options line following' := by
  rw [step, step]
  split <;> try rfl
  rename_i header _
  rw [resolveSeverity_eq, resolveSeverity_eq, h]

/-- Steps taken one after another, each shown its own lines as following. -/
def feed (scanner : Scanner) (steps : List (Text × List Text)) : Scanner :=
  steps.foldl (fun scanner step => scanner.step options step.1 step.2) scanner

@[simp] theorem feed_nil : scanner.feed options [] = scanner := rfl

@[simp] theorem feed_cons (step : Text × List Text) (steps : List (Text × List Text)) :
    scanner.feed options (step :: steps) =
      (scanner.step options step.1 step.2).feed options steps := rfl

theorem feed_append (steps steps' : List (Text × List Text)) :
    scanner.feed options (steps ++ steps') =
      (scanner.feed options steps).feed options steps' := by
  rw [feed, feed, feed, List.foldl_append]

end Scanner

/-- The lines of a list, each with the lines that follow it. -/
def withRest : List Text → List (Text × List Text)
  | [] => []
  | line :: lines => (line, lines) :: withRest lines

@[simp] theorem map_fst_withRest (lines : List Text) : (withRest lines).map Prod.fst = lines := by
  induction lines with
  | nil => rfl
  | cons line lines ih => rw [withRest, List.map_cons, ih]

theorem getElem?_withRest (lines : List Text) (i : Nat) :
    (withRest lines)[i]? = lines[i]?.map fun line => (line, lines.drop (i + 1)) := by
  induction lines generalizing i with
  | nil => rfl
  | cons line lines ih =>
      cases i with
      | zero => rfl
      | succ i =>
          rw [withRest, List.getElem?_cons_succ, ih, List.getElem?_cons_succ]
          rfl

/-- A run is a feed in which every line sees the lines after it. -/
theorem Scanner.run_eq_feed (options : ScanOptions) (scanner : Scanner) (lines : List Text) :
    scanner.run options lines = scanner.feed options (withRest lines) := by
  induction lines generalizing scanner with
  | nil => rfl
  | cons line lines ih => rw [run, ih, withRest, feed_cons]

/-- A run may be cut in two where a rule right above the cut would get the default severity, so
    that the first part cannot see the second. -/
theorem Scanner.run_append (options : ScanOptions) (scanner : Scanner) (lines after : List Text)
    (h : severityBelow options after = options.defaultSeverity) :
    scanner.run options (lines ++ after) = (scanner.run options lines).run options after := by
  induction lines generalizing scanner with
  | nil => rfl
  | cons line lines ih =>
      have hbelow := severityBelow_append options lines after [] h
      rw [List.append_nil] at hbelow
      rw [List.cons_append, run, run, ih,
        step_congr options scanner line (lines ++ after) lines hbelow]

/-- Lines may be exchanged behind others that cannot see the difference: what is exchanged does
    not begin with a nested line, and leads to the same state from every state. -/
theorem Scanner.run_append_congr (options : ScanOptions) (scanner : Scanner)
    (lines after after' : List Text)
    (h : ∀ line ∈ after.head?, Line.isNested line = false)
    (h' : ∀ line ∈ after'.head?, Line.isNested line = false)
    (hrun : ∀ scanner : Scanner, scanner.run options after = scanner.run options after') :
    scanner.run options (lines ++ after) = scanner.run options (lines ++ after') := by
  rw [run_append options scanner lines after (severityBelow_of_not_nested options after h),
    run_append options scanner lines after' (severityBelow_of_not_nested options after' h'), hrun]

end StyleGuide
