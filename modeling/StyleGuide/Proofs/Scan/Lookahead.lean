import StyleGuide.Proofs.Scan.Independence
import StyleGuide.Proofs.Scan.Outline

/-!
# How far a severity is looked for

A rule whose header gives no severity takes the first one from the indented lines below. What ends
the search is indentation alone: the first line that does not start with four spaces. A rule header
is never indented like that, so the search stays with the rule. A section header may be, since
markers are recognised behind any white space; a search that meets one goes on below it, and the
rule takes a severity from a section that is not its own.

So the sections above a header are not always those of the text above it alone. They are, whatever
the text above is, just when a rule right above the header would not find a severity of its own
below. That holds of every header that is not indented by four spaces, and of every other one
unless a severity stands among the indented lines from the header on.

## Main definitions

* `IsSeverityLine`: The line that a rule without a severity in its header takes its severity from.
* `afterRule`: A state in which the severity of a rule shows.

## Theorems

* `nestedSeverityBelow?_eq_some_iff`: The search finds the severity of such a line.
* `exists_severityLine_or_default`: Where the severity of a rule comes from.
* `run_bareRule`: A rule gets its severity from the lines right below.
* `sectionsOf_prefix`: The sections above a header stay what they are if nothing is seen across it.
* `default_of_sectionsOf_prefix`: Otherwise they change for some text above.
* `severity_lookahead_boundary`: How far the search goes, and what that means for sections.
* `severity_found_below_indented_header`: It may go past a section header.
-/

namespace StyleGuide

/-- Line `k` is where a rule takes its severity from if the header on line `i` gives none: it is the
    first line below the header that reads as a severity, and all lines down to it are nested. -/
structure IsSeverityLine (lines : List Text) (i k : Nat) (severity : Text) : Prop where
  below : i < k
  reads : lines[k]?.bind Line.nestedSeverity? = some severity
  nested : ∀ j, i < j → j ≤ k → lines[j]?.any Line.isNested = true
  first : ∀ j, i < j → j < k → lines[j]?.bind Line.nestedSeverity? = none

/-! ### The line of a severity -/

/-- A nested line that gives no severity is passed over. -/
theorem isSeverityLine_succ_iff (lines : List Text) (i k : Nat) (severity : Text)
    (hnested : lines[i + 1]?.any Line.isNested = true)
    (hnone : lines[i + 1]?.bind Line.nestedSeverity? = none) :
    IsSeverityLine lines i k severity ↔ IsSeverityLine lines (i + 1) k severity := by
  constructor
  · intro h
    have hne : k ≠ i + 1 := by
      intro hk
      have hreads := h.reads
      rw [hk, hnone] at hreads
      simp only [reduceCtorEq] at hreads
    have hlt := h.below
    exact ⟨by omega, h.reads, fun j hj hjk => h.nested j (by omega) hjk,
      fun j hj hjk => h.first j (by omega) hjk⟩
  · intro h
    have hlt := h.below
    refine ⟨by omega, h.reads, fun j hj hjk => ?_, fun j hj hjk => ?_⟩
    · rcases Nat.eq_or_lt_of_le (Nat.succ_le_of_lt hj) with rfl | hlow
      · exact hnested
      · exact h.nested j hlow hjk
    · rcases Nat.eq_or_lt_of_le (Nat.succ_le_of_lt hj) with rfl | hlow
      · exact hnone
      · exact h.first j hlow hjk

/-- The search below a header finds the severity of the line that is the first to give one. -/
theorem nestedSeverityBelow?_eq_some_iff (lines : List Text) (i : Nat) (severity : Text) :
    nestedSeverityBelow? (lines.drop (i + 1)) = some severity ↔
      ∃ k, IsSeverityLine lines i k severity := by
  -- The search moves on by one line at a time, as if the header stood one line further down.
  induction hdrop : lines.drop (i + 1) generalizing i with
  | nil =>
      constructor
      · intro h
        simp only [nestedSeverityBelow?, List.takeWhile_nil, List.findSome?_nil, reduceCtorEq] at h
      · rintro ⟨k, hk⟩
        have hlength : lines.length ≤ i + 1 := List.drop_eq_nil_iff.mp hdrop
        have hreads := hk.reads
        rw [List.getElem?_eq_none (Nat.le_trans hlength hk.below), Option.bind_none] at hreads
        simp only [reduceCtorEq] at hreads
  | cons line rest ih =>
      have hline : lines[i + 1]? = some line := by
        rw [← Nat.add_zero (i + 1), ← List.getElem?_drop, hdrop, List.getElem?_cons_zero]
      have hrest : lines.drop (i + 1 + 1) = rest := by
        rw [← List.drop_drop, hdrop, List.drop_one, List.tail_cons]
      rw [nestedSeverityBelow?_cons]
      cases hnested : Line.isNested line with
      | false =>
          rw [if_neg Bool.false_ne_true]
          constructor
          · intro h
            simp only [reduceCtorEq] at h
          · rintro ⟨k, hk⟩
            have habove := hk.nested (i + 1) (Nat.lt_succ_self i) hk.below
            rw [hline, Option.any_some, hnested] at habove
            exact absurd habove Bool.false_ne_true
      | true =>
          rw [if_pos rfl]
          cases hfound : Line.nestedSeverity? line with
          | some found =>
              rw [Option.some_or]
              constructor
              · intro h
                refine ⟨i + 1, Nat.lt_succ_self i, ?_, fun j hj hjk => ?_, fun j hj hjk => ?_⟩
                · rw [hline, Option.bind_some, hfound, h]
                · rw [Nat.le_antisymm hjk hj, hline, Option.any_some, hnested]
                · omega
              · rintro ⟨k, hk⟩
                -- The line gives a severity, so no line further down is the first to do so.
                have hsame : k = i + 1 := by
                  by_contra hne
                  have hfirst := hk.first (i + 1) (Nat.lt_succ_self i)
                    (Nat.lt_of_le_of_ne hk.below (Ne.symm hne))
                  rw [hline, Option.bind_some, hfound] at hfirst
                  simp only [reduceCtorEq] at hfirst
                have hreads := hk.reads
                rwa [hsame, hline, Option.bind_some, hfound] at hreads
          | none =>
              rw [Option.none_or, ih (i + 1) hrest]
              refine exists_congr fun k => (isSeverityLine_succ_iff lines i k severity ?_ ?_).symm
              · rw [hline, Option.any_some, hnested]
              · rw [hline, Option.bind_some, hfound]

/-- Where the severity of a rule comes from whose header gives none. -/
theorem exists_severityLine_or_default (options : ScanOptions) (lines : List Text) (i : Nat)
    (header : RuleHeader) (h : header.severity = none) :
    (∃ k, IsSeverityLine lines i k (resolveSeverity options header (lines.drop (i + 1)))) ∨
      (resolveSeverity options header (lines.drop (i + 1)) = options.defaultSeverity ∧
        ∀ k severity, ¬IsSeverityLine lines i k severity) := by
  rw [resolveSeverity_eq, h, Option.getD_none, severityBelow]
  cases hbelow : nestedSeverityBelow? (lines.drop (i + 1)) with
  | some severity => exact Or.inl ((nestedSeverityBelow?_eq_some_iff lines i severity).mp hbelow)
  | none =>
      refine Or.inr ⟨rfl, fun k severity hk => ?_⟩
      have hsome := (nestedSeverityBelow?_eq_some_iff lines i severity).mpr ⟨k, hk⟩
      rw [hbelow] at hsome
      simp only [reduceCtorEq] at hsome

/-- No rule header stands between a rule's header and the line of its severity. -/
theorem IsSeverityLine.between (lines : List Text) (i k : Nat) (severity : Text)
    (h : IsSeverityLine lines i k severity) (j : Nat) (hj : i < j) (hjk : j < k) :
    ∃ line, lines[j]? = some line ∧ Line.isNested line = true ∧ Line.ruleHeader? line = none := by
  have hnested := h.nested j hj (Nat.le_of_lt hjk)
  rw [Option.any_eq_true] at hnested
  rcases hnested with ⟨line, hline, hnested⟩
  exact ⟨line, hline, hnested, Line.ruleHeader?_eq_none_of_isNested line hnested⟩

/-! ### Sections above a header -/

/-- The sections above a header stay what they are if nothing is seen across it. -/
theorem sectionsOf_prefix (options : ScanOptions) (before after : List Text) (header : Text)
    (hheader : Line.isHeader header = true)
    (h : severityBelow options (header :: after) = options.defaultSeverity) :
    sectionsOf options before <+: sectionsOf options (before ++ header :: after) := by
  rcases (Line.isHeader_iff header).mp hheader with ⟨name, hname⟩
  rw [sectionsOf, sectionsOf, Scanner.run_append options _ before _ h,
    Scanner.run_sectionHeader options _ header name after hname]
  exact List.prefix_append _ _

/-- The state after the header of a rule whose severity is given, the first one in its section. -/
def afterRule (severity : Text) : Scanner :=
  ⟨⟨none, [], [⟨("A" : Text), [], [⟨("a" : Text), severity, [], []⟩]⟩]⟩, .rules, []⟩

/-- A rule gets its severity from the lines right below, whatever these are. -/
theorem run_bareRule (options : ScanOptions) (after : List Text) :
    Scanner.start.run options
        ([("# Section: A" : Text), ("rules:" : Text), ("  a:" : Text)] ++ after) =
      (afterRule (severityBelow options after)).run options after := by
  have hstep : (Scanner.mk ⟨none, [], [⟨("A" : Text), [], []⟩]⟩ .rules []).step options
      ("  a:" : Text) after = afterRule (severityBelow options after) := by
    rw [Scanner.step_ruleHeader options _ _ after ⟨("a" : Text), none⟩ (by decide) (by decide) rfl
      rfl, resolveSeverity_eq]
    rfl
  rw [← hstep]
  rfl

/-- If the sections above a header always stay what they are, nothing is seen across it: a rule
    right above would see it. -/
theorem default_of_sectionsOf_prefix (options : ScanOptions) (after : List Text) (header : Text)
    (hheader : Line.isHeader header = true)
    (h : ∀ before : List Text,
      sectionsOf options before <+: sectionsOf options (before ++ header :: after)) :
    severityBelow options (header :: after) = options.defaultSeverity := by
  rcases (Line.isHeader_iff header).mp hheader with ⟨name, hname⟩
  have halone := h [("# Section: A" : Text), ("rules:" : Text), ("  a:" : Text)]
  -- With nothing below it, the rule has the default severity.
  rw [show sectionsOf options [("# Section: A" : Text), ("rules:" : Text), ("  a:" : Text)] =
    (afterRule options.defaultSeverity).document.sections from rfl] at halone
  have htogether : (afterRule (severityBelow options (header :: after))).document.sections <+:
      sectionsOf options
        ([("# Section: A" : Text), ("rules:" : Text), ("  a:" : Text)] ++ header :: after) := by
    rw [sectionsOf, run_bareRule, Scanner.run_sectionHeader options _ header name after hname]
    exact List.prefix_append _ _
  -- Both are the first section of the same ruleset, and they differ in the severity alone.
  have hsame := (List.prefix_of_prefix_length_le htogether halone (Nat.le_refl _)).eq_of_length rfl
  simpa only [afterRule, List.cons.injEq, Section.mk.injEq, Rule.mk.injEq, and_true, true_and]
    using hsame

/-- How far the severity of a rule is looked for. A rule whose header gives none has it from the
    first line below that gives one, with nothing but nested lines in between: no rule header, and a
    section header only if it is nested itself; or else it has the default. And the sections above a
    section header are those of the lines above alone, whatever these are, just when a rule right
    above the header would get the default, as it does where the header is not nested. -/
theorem severity_lookahead_boundary (options : ScanOptions) :
    (∀ source : Text, List.Forall₂ (fun i (rule : Rule) => ∃ header : RuleHeader,
        ruleAt? source.lines i = some header ∧ (header.severity = none →
          (∃ k, IsSeverityLine source.lines i k rule.severity ∧
            ∀ j, i < j → j < k → ∃ line, source.lines[j]? = some line ∧
              Line.ruleHeader? line = none ∧
                (Line.isHeader line = true → Line.isNested line = true)) ∨
          (rule.severity = options.defaultSeverity ∧
            ∀ k severity, ¬IsSeverityLine source.lines i k severity)))
      (ruleLines source.lines) (compile options source).rules) ∧
    ∀ (header : Text) (after : List Text), Line.isHeader header = true →
      ((∀ before : List Text,
          sectionsOf options before <+: sectionsOf options (before ++ header :: after)) ↔
        severityBelow options (header :: after) = options.defaultSeverity) ∧
      (Line.isNested header = false →
        severityBelow options (header :: after) = options.defaultSeverity) := by
  refine ⟨fun source => ?_, fun header after hheader => ⟨⟨?_, ?_⟩, fun hnested => ?_⟩⟩
  · -- Each rule is traced to its header line, and its severity from there.
    rw [← Document.map_snd_placedRules, List.forall₂_map_right_iff]
    refine (placedRules_compile options source).imp fun i placed hplaced => ?_
    rcases hplaced with ⟨header, hheader, _, hrule⟩
    refine ⟨header, hheader, fun hbare => ?_⟩
    rw [hrule, documentRule]
    rcases exists_severityLine_or_default options source.lines i header hbare with
      ⟨k, hk⟩ | hdefault
    · refine Or.inl ⟨k, hk, fun j hj hjk => ?_⟩
      rcases hk.between _ _ _ _ j hj hjk with ⟨line, hline, hnested, hheader⟩
      exact ⟨line, hline, hheader, fun _ => hnested⟩
    · exact Or.inr hdefault
  · exact default_of_sectionsOf_prefix options after header hheader
  · exact fun h before => sectionsOf_prefix options before after header hheader h
  · refine severityBelow_of_not_nested options _ fun line hline => ?_
    rw [← Option.some.inj hline, hnested]

/-- A header that is indented by four spaces, with an indented line below it that is no severity:
    the rule above looks past the header, finds nothing, and stays what it was. -/
theorem severity_lookahead_boundary_indented :
    Line.isHeader ("    # Section: B" : Text) = true ∧
    severityBelow {} [("    # Section: B" : Text), ("    since: 2" : Text)] = ("off" : Text) ∧
    sectionsOf {} [("# Section: A" : Text), ("rules:" : Text), ("  a:" : Text)] <+:
      sectionsOf {} ([("# Section: A" : Text), ("rules:" : Text), ("  a:" : Text)] ++
        ("    # Section: B" : Text) :: [("    since: 2" : Text)]) := by
  refine ⟨by decide, by decide, ?_⟩
  exact ((severity_lookahead_boundary {}).2 ("    # Section: B" : Text) [("    since: 2" : Text)]
    (by decide)).1.mpr (by decide) _

/-- The severity of a rule may be found below the header of another section, if the header is
    indented by four spaces. The rule has another severity than it has without what follows it. -/
theorem severity_found_below_indented_header :
    Text.lines ("# Section: A\nrules:\n  a:\n    # Section: B\n    severity: error\n" : String) =
      [("# Section: A" : Text), ("rules:" : Text), ("  a:" : Text), ("    # Section: B" : Text),
        ("    severity: error" : Text)] ∧
    (compile {} (("# Section: A\nrules:\n  a:\n    # Section: B\n    severity: error\n" :
      String) : Text)).sections =
        [⟨("A" : Text), [], [⟨("a" : Text), ("error" : Text), [], []⟩]⟩, ⟨("B" : Text), [], []⟩] ∧
    Line.ruleHeader? ("  a:" : Text) = some ⟨("a" : Text), none⟩ ∧
    Line.section? ("    # Section: B" : Text) = some ("B" : Text) ∧
    Line.nestedSeverity? ("    severity: error" : Text) = some ("error" : Text) ∧
    ¬(sectionsOf {} [("# Section: A" : Text), ("rules:" : Text), ("  a:" : Text)] <+:
      sectionsOf {} ([("# Section: A" : Text), ("rules:" : Text), ("  a:" : Text)] ++
        ("    # Section: B" : Text) :: [("    severity: error" : Text)])) := by
  refine ⟨?_, ?_, ?_, ?_, ?_, ?_⟩ <;> decide

end StyleGuide
