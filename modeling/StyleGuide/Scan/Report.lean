import StyleGuide.Log.Entry
import StyleGuide.Scan.Scanner
import StyleGuide.Text.Quoted

/-!
# What scanning reports

While a ruleset is scanned, the log tells of each rule that is found, of comments that were waiting
for a rule and are dropped, and at the end of how much was found. The report is read off the same
states and roles as the document, and it has no effect on it.

## Main definitions

* `Scanner.entry?`: What a line gives reason to report.
* `Scanner.entries`: What a list of lines gives reason to report.
* `scanReport`: The whole report on a ruleset.
-/

namespace StyleGuide

namespace Scanner

/-- The entry for a rule that was found. -/
def ruleFound (rule : Rule) : Log.Entry :=
  ⟨.trace, .scanning, "rule finalized",
    [("rule", rule.name), ("severity", rule.severity),
      ("examples", Text.ofNat rule.examples.length)]⟩

/-- The entry for comments that a line makes void. -/
def commentsDropped (count : Nat) (line : Text) : Log.Entry :=
  ⟨.debug, .scanning, "dropping comments not followed by a rule header",
    [("discarded", Text.ofNat count), ("line", line.quoted)]⟩

/-- The entry for the end of a ruleset. -/
def scanComplete (document : Document) : Log.Entry :=
  ⟨.debug, .scanning, "scan complete",
    [("sections", Text.ofNat document.sections.length),
      ("rules", Text.ofNat document.rules.length)]⟩

/-- What a line gives reason to report. -/
def entry? (options : ScanOptions) (scanner : Scanner) (line : Text) (following : List Text) :
    Option Log.Entry :=
  match scanner.role line with
  | .ruleHeader header =>
    some (ruleFound (documentRule header.name (resolveSeverity options header following)
      scanner.pending))
  | .other =>
    if scanner.pending.isEmpty then none
    else some (commentsDropped scanner.pending.length line)
  | _ => none

/-- What a list of lines gives reason to report. -/
def entries (options : ScanOptions) (scanner : Scanner) : List Text → List Log.Entry
  | [] => []
  | line :: lines =>
    (scanner.entry? options line lines).toList ++
      entries options (scanner.step options line lines) lines

end Scanner

/-- The whole report on a ruleset. -/
def scanReport (options : ScanOptions) (source : Text) : List Log.Entry :=
  Scanner.start.entries options source.lines ++ [Scanner.scanComplete (compile options source)]

end StyleGuide
