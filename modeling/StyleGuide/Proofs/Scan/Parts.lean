import StyleGuide.Proofs.Scan.Step
import StyleGuide.Proofs.Text.Lines

/-!
# Scanning in parts

Handing a ruleset to the scanner part by part.

A line sees the lines after it in its own part only, so a rule near the end of a part looks at fewer
lines than it would in one pass. That makes no difference as long as no further part begins with a
line that is indented like the block below a rule header: the block that a rule looks at has then
ended at the end of the part anyway.

## Main definitions

* `Scanner.runParts`: The state after a list of parts.

## Theorems

* `runParts_eq_run_flatten`: Parts one after the other are one pass, from every state.
* `document_run_blank`: An empty line at the end does not change the document.
* `runParts_eq_run`: Scanning in parts and scanning in one pass agree.
-/

namespace StyleGuide

namespace Scanner

/-- The state after a list of parts, each of which is scanned without a look at the next one. -/
def runParts (options : ScanOptions) (scanner : Scanner) (parts : List (List Text)) : Scanner :=
  parts.foldl (run options) scanner

section Parts

variable (options : ScanOptions)

/-- Right above parts that do not begin with nested lines the default severity holds. Empty parts do
    not count, since the first line that is seen is that of the first part with lines. -/
theorem severityBelow_flatten (parts : List (List Text))
    (h : ∀ part ∈ parts, ∀ line ∈ part.head?, Line.isNested line = false) :
    severityBelow options parts.flatten = options.defaultSeverity := by
  refine severityBelow_of_not_nested options _ fun line hline => ?_
  induction parts with
  | nil => exact absurd hline (by simp only [List.flatten_nil, List.head?_nil, Option.mem_def,
      reduceCtorEq, not_false_eq_true])
  | cons part parts ih =>
      rw [List.flatten_cons] at hline
      cases part with
      | nil => exact ih (fun p hp => h p (List.mem_cons_of_mem _ hp)) hline
      | cons first lines => exact h _ List.mem_cons_self line hline

/-- Parts one after the other are one pass, from every state. -/
theorem runParts_eq_run_flatten (scanner : Scanner) (parts : List (List Text))
    (h : ∀ part ∈ parts.tail, ∀ line ∈ part.head?, Line.isNested line = false) :
    scanner.runParts options parts = scanner.run options parts.flatten := by
  induction parts generalizing scanner with
  | nil => rfl
  | cons part parts ih =>
      rw [List.tail_cons] at h
      have hrest : ∀ scanner : Scanner,
          scanner.runParts options parts = scanner.run options parts.flatten := by
        intro scanner
        exact ih scanner fun p hp => h p (List.mem_of_mem_tail hp)
      -- The first part cannot see the lines of the others.
      rw [List.flatten_cons, run_append options scanner part _ (severityBelow_flatten options parts h),
        ← hrest, runParts, List.foldl_cons, runParts]

/-- An empty line at the end does not change the document. -/
theorem document_run_blank (scanner : Scanner) (lines : List Text) :
    (scanner.run options (lines ++ [[]])).document = (scanner.run options lines).document := by
  have hcut : severityBelow options [[]] = options.defaultSeverity := rfl
  rw [run_append options scanner lines _ hcut, run, run]
  have hstep := bodyStep options (scanner.run options lines) [] [] rfl
  generalize (scanner.run options lines).step options [] [] = next at hstep
  -- The line is no comment, so of all that it can do only making a rule would be seen.
  cases hstep with
  | rulesStart | other | outside => rfl
  | ruleHeader _ _ _ header hheader =>
      exact absurd hheader (by simp only [Line.ruleHeader?, Text.skipBlanks?, Option.bind_eq_bind,
        Option.bind_none, reduceCtorEq, not_false_eq_true])

end Parts

end Scanner

/-- A ruleset may be scanned in parts, if no part but the first begins with a line that is indented
    like the block below a rule header: from any state the parts lead where one pass over all lines
    leads. So the document of the parts is that of the text in which line feeds stand between the
    lines, where these are lines of a text at all. -/
theorem runParts_eq_run (options : ScanOptions) (parts : List (List Text))
    (h : ∀ part ∈ parts.tail, ∀ line ∈ part.head?, Line.isNested line = false) :
    (∀ scanner : Scanner, scanner.runParts options parts = scanner.run options parts.flatten) ∧
      ((∀ line ∈ parts.flatten, '\n' ∉ line ∧ line.getLast? ≠ some '\r') →
        (Scanner.start.runParts options parts).document =
          compile options (Text.joinWith ['\n'] parts.flatten)) := by
  refine ⟨fun scanner => Scanner.runParts_eq_run_flatten options scanner parts h, fun hlines => ?_⟩
  rw [Scanner.runParts_eq_run_flatten options _ parts h, compile]
  rcases Text.lines_joinWith parts.flatten hlines with hsame | hless
  · rw [hsame]
  · -- The text does not show that there is an empty line at its end.
    rw [← Scanner.document_run_blank options _ (Text.lines _), hless]

/-- Three parts, cut inside a rules block, right below a comment that waits and in front of an empty
    line. -/
theorem runParts_eq_run_waiting :
    Scanner.start.runParts {} [[("# Section: A" : Text), ("rules:" : Text), ("  # Why." : Text)],
        [("  a:" : Text), ("    severity: warn" : Text)], [("" : Text)]] =
      Scanner.start.run {} [("# Section: A" : Text), ("rules:" : Text), ("  # Why." : Text),
        ("  a:" : Text), ("    severity: warn" : Text), ("" : Text)] ∧
    (Scanner.start.runParts {} [[("# Section: A" : Text), ("rules:" : Text), ("  # Why." : Text)],
        [("  a:" : Text), ("    severity: warn" : Text)], [("" : Text)]]).document =
      compile {} "# Section: A\nrules:\n  # Why.\n  a:\n    severity: warn\n" := by
  have hparts := runParts_eq_run {} [[("# Section: A" : Text), ("rules:" : Text),
    ("  # Why." : Text)], [("  a:" : Text), ("    severity: warn" : Text)], [("" : Text)]]
    (by decide)
  exact ⟨hparts.1 Scanner.start, hparts.2 (by decide)⟩

end StyleGuide
