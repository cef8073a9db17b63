import StyleGuide.Proofs.Scan.Parts

/-!
# Line ends of a ruleset

A ruleset may end its lines with a line feed or with a carriage return and a line feed, and its last
line may be ended or not.

The carriage return belongs to the line end, so the lines are the same in both forms, and all that
is read off a ruleset is read off its lines. A line feed at the end of the text is different: where
the last line is ended already it makes one more line. That line is empty, so it may close a
description and drop the comments that wait, but no line follows that could show it, and a severity
that is looked for below a rule is not looked for beyond an empty line.

## Theorems

* `compile_lineEnds`: The form of the line ends, and the end of the last line, make no difference.
-/

namespace StyleGuide

/-- A ruleset without carriage returns compiles to the same document as the ruleset with carriage
    returns in front of all its line feeds, and as the ruleset with one more line feed at the end. -/
theorem compile_lineEnds (options : ScanOptions) (source : Text) (h : '\r' ∉ source) :
    compile options source.withReturns = compile options source ∧
      compile options (source ++ ['\n']) = compile options source := by
  constructor
  · rw [compile, Text.lines_withReturns source h, compile]
  · rw [compile, compile]
    rcases Text.lines_append_newline source h with hsame | hmore
    · rw [hsame]
    · rw [hmore, Scanner.document_run_blank]

/-- A ruleset whose last line is ended, with a rule that looks for its severity and a comment that
    waits at its end. -/
theorem compile_lineEnds_waiting :
    ('\r' ∉ (("# Section: A\nrules:\n  a:\n    severity: warn\n# Waits.\n" : String) : Text)) ∧
    Text.withReturns ("# Section: A\nrules:\n  a:\n    severity: warn\n# Waits.\n" : String) =
      ("# Section: A\r\nrules:\r\n  a:\r\n    severity: warn\r\n# Waits.\r\n" : String) ∧
    compile {} (Text.withReturns
        ("# Section: A\nrules:\n  a:\n    severity: warn\n# Waits.\n" : String)) =
      compile {} ("# Section: A\nrules:\n  a:\n    severity: warn\n# Waits.\n" : String) ∧
    compile {} (("# Section: A\nrules:\n  a:\n    severity: warn\n# Waits.\n" : String) ++
        ['\n']) =
      compile {} ("# Section: A\nrules:\n  a:\n    severity: warn\n# Waits.\n" : String) :=
  ⟨by decide, by decide, compile_lineEnds {} _ (by decide)⟩

-- A carriage return that is there already becomes part of its line when another one follows.
example : (compile {} ("# About.\r\n" : String)).description = [("About.  " : Text)] ∧
    (compile {} (Text.withReturns ("# About.\r\n" : String))).description =
      [("About.\r  " : Text)] := by
  decide

end StyleGuide
