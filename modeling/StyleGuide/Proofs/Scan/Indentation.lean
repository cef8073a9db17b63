import StyleGuide.Proofs.Scan.Step
import Mathlib.Data.List.Forall2

/-!
# How comments are indented

The white space in front of a comment means nothing, but for one thing: four spaces put the line
into the block below a rule header, where the search for a severity goes on.

Scanning looks at a line through a handful of questions, and two lines with the same answers can be
exchanged for each other. `ReadsAlike` lists the questions. Two of them are asked of the lines that
follow a rule header, what severity the line gives and whether it is nested, so lines can be
exchanged below a rule as well as in their own step.

For a comment all questions but the last are about what comes behind the white space. Markers are
looked for in the trimmed line, its text begins behind the `#`, and where names and severities are
read off the line as it stands, a comment has none, however far it is indented.

## Main definitions

* `Line.ReadsAlike`: Lines that scanning cannot tell apart.
* `Line.Reindented`: A comment behind other white space.

## Theorems

* `reindented_of_trimStart`: Comments are reindented if they are the same from their `#` on.
* `readsAlike_of_reindented`: Reindented comments read alike.
* `role_readsAlike`, `step_readsAlike`: Lines that read alike do the same.
* `nestedSeverityBelow?_readsAlike`: They also are the same to a rule above them.
* `run_readsAlike`: Lists of lines that read alike lead to the same state.
* `run_reindented`: Reindenting comments does not change what a ruleset compiles to.
-/

namespace StyleGuide

namespace Line

/-- All that scanning asks of a line has the same answer for both lines. -/
structure ReadsAlike (line line' : Text) : Prop where
  title : title? line = title? line'
  header : Line.section? line = Line.section? line'
  comment : isComment line = isComment line'
  text : uncomment line = uncomment line'
  rules : startsRules line = startsRules line'
  rule : ruleHeader? line = ruleHeader? line'
  severity : nestedSeverity? line = nestedSeverity? line'
  nested : isNested line = isNested line'

/-- The second line is the first, or the first is a comment and the second has other white space in
    front, so that both or neither of them are nested. -/
inductive Reindented : Text → Text → Prop where
  | same (line : Text) : Reindented line line
  | comment (blanks blanks' text : Text) (hblanks : ∀ c ∈ blanks, Text.isBlank c = true)
      (hblanks' : ∀ c ∈ blanks', Text.isBlank c = true)
      (hnested : isNested (blanks ++ '#' :: text) = isNested (blanks' ++ '#' :: text)) :
      Reindented (blanks ++ '#' :: text) (blanks' ++ '#' :: text)

/-- Comments with the same text from the `#` on are reindented, if nothing is said against it. -/
theorem reindented_of_trimStart (line line' : Text) (hcomment : isComment line = true)
    (hstart : line.trimStart = line'.trimStart) (hnested : isNested line = isNested line') :
    Reindented line line' := by
  rcases (isComment_iff line).mp hcomment with ⟨text, htext⟩
  -- White space up to the `#` is what trimming takes away.
  have hsplit : ∀ l : Text, l = l.takeWhile Text.isBlank ++ l.trimStart :=
    fun l => (List.takeWhile_append_dropWhile ..).symm
  have hline := hsplit line
  have hline' := hsplit line'
  rw [htext] at hline
  rw [← hstart, htext] at hline'
  rw [hline, hline'] at hnested ⊢
  exact .comment _ _ text (fun _ hc => List.mem_takeWhile_imp hc)
    (fun _ hc => List.mem_takeWhile_imp hc) hnested

/-- Reindented comments read alike. -/
theorem readsAlike_of_reindented (line line' : Text) (h : Reindented line line') :
    ReadsAlike line line' := by
  cases h with
  | same => exact ⟨rfl, rfl, rfl, rfl, rfl, rfl, rfl, rfl⟩
  | comment blanks blanks' text hblanks hblanks' hnested =>
      have hstart := trimStart_comment blanks text hblanks
      have hstart' := trimStart_comment blanks' text hblanks'
      have htrim : Text.trim (blanks ++ '#' :: text) = Text.trim (blanks' ++ '#' :: text) := by
        rw [Text.trim_blanks_append _ _ hblanks, Text.trim_blanks_append _ _ hblanks']
      have hcomment := (isComment_iff _).mpr ⟨text, hstart⟩
      have hcomment' := (isComment_iff _).mpr ⟨text, hstart'⟩
      -- The markers are looked for in the trimmed line, and the text begins at the `#`. A rule and a
      -- severity are read off the line as it stands, where a comment has none.
      refine ⟨?_, ?_, ?_, ?_, ?_, ?_, ?_, hnested⟩
      · rw [title?, title?, htrim]
      · rw [Line.section?, Line.section?, htrim]
      · rw [hcomment, hcomment']
      · rw [uncomment_of_trimStart _ text hstart, uncomment_of_trimStart _ text hstart']
      · rw [startsRules, startsRules, htrim]
      · rw [ruleHeader?_eq_none_of_isComment _ hcomment,
          ruleHeader?_eq_none_of_isComment _ hcomment']
      · rw [nestedSeverity?_eq_none_of_isComment _ hcomment,
          nestedSeverity?_eq_none_of_isComment _ hcomment']

end Line

/-- Lines that read alike are the same to a rule above them. -/
theorem nestedSeverityBelow?_readsAlike (lines lines' : List Text)
    (h : List.Forall₂ Line.ReadsAlike lines lines') :
    nestedSeverityBelow? lines = nestedSeverityBelow? lines' := by
  induction h with
  | nil => rfl
  | cons hline _ ih =>
      rw [nestedSeverityBelow?_cons, nestedSeverityBelow?_cons, hline.nested, hline.severity, ih]

namespace Scanner

variable (options : ScanOptions) (scanner : Scanner)

/-- Lines that read alike play the same role. -/
theorem role_readsAlike (line line' : Text) (h : Line.ReadsAlike line line') :
    scanner.role line = scanner.role line' := by
  simp only [role, bodyRole, h.title, h.header, h.comment, h.rules, h.rule]

/-- Lines that read alike do the same, where the lines that follow do not differ in severities. -/
theorem step_readsAlike (line line' : Text) (following following' : List Text)
    (h : Line.ReadsAlike line line')
    (hbelow : severityBelow options following = severityBelow options following') :
    scanner.step options line following = scanner.step options line' following' := by
  rw [step_congr options scanner line following following' hbelow, step, step,
    role_readsAlike scanner line line' h, Line.described, Line.described, h.text]

/-- Lists of lines that read alike lead to the same state. -/
theorem run_readsAlike (lines lines' : List Text)
    (h : List.Forall₂ Line.ReadsAlike lines lines') :
    scanner.run options lines = scanner.run options lines' := by
  induction h generalizing scanner with
  | nil => rfl
  | @cons line line' lines lines' hline hlines ih =>
      -- The lines below are not the same, but a rule header finds the same severity there.
      have hbelow : severityBelow options lines = severityBelow options lines' := by
        rw [severityBelow, severityBelow, nestedSeverityBelow?_readsAlike lines lines' hlines]
      rw [run, run, step_readsAlike options scanner line line' lines lines' hline hbelow, ih]

end Scanner

/-- Comments may be reindented, title lines and section headers among them, as long as no comment
    enters or leaves the nested lines. From any state the lines lead to the same state, and rulesets
    with these lines compile to the same document. -/
theorem run_reindented (options : ScanOptions) (lines lines' : List Text)
    (h : List.Forall₂ Line.Reindented lines lines') :
    (∀ scanner : Scanner, scanner.run options lines = scanner.run options lines') ∧
    ∀ source source' : Text, source.lines = lines → source'.lines = lines' →
      compile options source = compile options source' := by
  have hrun : ∀ scanner : Scanner, scanner.run options lines = scanner.run options lines' :=
    fun scanner => Scanner.run_readsAlike options scanner lines lines'
      (h.imp Line.readsAlike_of_reindented)
  refine ⟨hrun, fun source source' hsource hsource' => ?_⟩
  rw [compile, compile, hsource, hsource', hrun]

/-- A section header, the header of an example, and a comment in the block below a rule header,
    which stays nested. -/
theorem run_reindented_nested :
    List.Forall₂ Line.Reindented
      [("# Section: S" : Text), ("rules:" : Text), ("  # valid example:" : Text), ("  a:" : Text),
        ("    # On." : Text), ("    severity: warn" : Text)]
      [("\t# Section: S" : Text), ("rules:" : Text), ("\u00A0# valid example:" : Text),
        ("  a:" : Text), ("     # On." : Text), ("    severity: warn" : Text)] ∧
    compile {} ("# Section: S\nrules:\n  # valid example:\n  a:\n    # On.\n    severity: warn\n" :
        String) =
      compile {}
        ("\t# Section: S\nrules:\n\u00A0# valid example:\n  a:\n     # On.\n    severity: warn\n" :
          String) ∧
    (compile {} ("# Section: S\nrules:\n  # valid example:\n  a:\n    # On.\n    severity: warn\n" :
        String)).rules = [⟨("a" : Text), ("warn" : Text), [], [⟨.valid, none, []⟩]⟩] := by
  have hlines : List.Forall₂ Line.Reindented
      [("# Section: S" : Text), ("rules:" : Text), ("  # valid example:" : Text), ("  a:" : Text),
        ("    # On." : Text), ("    severity: warn" : Text)]
      [("\t# Section: S" : Text), ("rules:" : Text), ("\u00A0# valid example:" : Text),
        ("  a:" : Text), ("     # On." : Text), ("    severity: warn" : Text)] :=
    .cons (Line.reindented_of_trimStart _ _ (by decide) (by decide) (by decide)) <|
    .cons (.same _) <|
    .cons (Line.reindented_of_trimStart _ _ (by decide) (by decide) (by decide)) <|
    .cons (.same _) <|
    .cons (Line.reindented_of_trimStart _ _ (by decide) (by decide) (by decide)) <|
    .cons (.same _) .nil
  exact ⟨hlines, (run_reindented {} _ _ hlines).2 _ _ (by decide) (by decide), by decide⟩

-- A comment that leaves the nested lines ends the search for a severity.
example : (compile {} "# Section: S\nrules:\n  a:\n    # On.\n    severity: warn\n").rules.map
      Rule.severity = [("warn" : Text)] ∧
    (compile {} "# Section: S\nrules:\n  a:\n  # On.\n    severity: warn\n").rules.map
      Rule.severity = [("off" : Text)] := by
  decide

end StyleGuide
