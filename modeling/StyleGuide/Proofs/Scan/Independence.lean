import StyleGuide.Proofs.Scan.History

/-!
# Sections do not depend on each other

What stands above a section header reaches the sections below it in one bit: whether a rules block
has been opened. The comments that wait, the mode, titles and the rules above are all forgotten at
the header.

The argument compares two runs over the same lines. `Extends` relates a state to one that has fewer
sections in front and is the same otherwise, as far as steps look at it. Every step keeps the
relation, because what a step does to the sections it does to the last one or behind the last one.
After a header the state is such an extension of `opened`, which knows the header's name and the
bit and nothing else; `run_sectionHeader` says so for any state before the header.

That leaves what is above the header. Its rules look ahead, and a header can be indented so far
that they look past it. Where it is not, the run is cut in two there by `run_append`.

## Main definitions

* `sectionsOf`: The sections of a ruleset that is given by its lines.
* `reopening`: A line that opens a rules block if some lines before did.
* `Scanner.Extends`: A state with some sections more in front.
* `Scanner.opened`: The state below a section header with nothing above it.

## Theorems

* `modifyLast_append`: The last section is changed without regard to those in front.
* `role_congr`: What a line is depends on the mode and on whether there is a section.
* `extends_step`, `extends_run`: Sections in front stay in front and change nothing.
* `run_sectionHeader`: What a header and the lines below it add to the sections.
* `follows_run`: The state after a run fits its lines.
* `sectionsOf_append_header`: The sections on both sides of a header are compiled one by one.
-/

namespace StyleGuide

/-- The sections of a ruleset that is given by its lines. -/
def sectionsOf (options : ScanOptions) (lines : List Text) : List Section :=
  (Scanner.start.run options lines).document.sections

/-- A line that opens a rules block, if the lines before opened one. -/
def reopening (before : List Text) : List Text :=
  if rulesSeen before then [Line.rulesMarker] else []

/-- Changing the last section has no regard to what is in front of it. -/
theorem Document.modifyLast_append (f : Section → Section) (earlier sections : List Section)
    (h : sections ≠ []) :
    modifyLast f (earlier ++ sections) = earlier ++ modifyLast f sections := by
  rcases List.eq_nil_or_concat' sections with rfl | ⟨front, last, rfl⟩
  · exact absurd rfl h
  · rw [← List.append_assoc, modifyLast_concat, modifyLast_concat, List.append_assoc]

namespace Scanner

/-- `scanner` is in the state of `scanner'`, which is in some section, but has the `earlier`
    sections in front. Titles and descriptions of the documents may differ. -/
structure Extends (scanner : Scanner) (earlier : List Section) (scanner' : Scanner) : Prop where
  sections : scanner.document.sections = earlier ++ scanner'.document.sections
  hasSection : scanner'.hasSection = true
  mode : scanner.mode = scanner'.mode
  pending : scanner.pending = scanner'.pending

/-- The state below a section header with nothing above it but, perhaps, the start of a rules
    block. -/
def opened (name : Text) (rulesOpen : Bool) : Scanner :=
  ⟨Document.empty.openSection name, .describing rulesOpen, []⟩

section Step

variable (options : ScanOptions) (scanner scanner' : Scanner) (earlier : List Section)
variable (line : Text) (following : List Text)

/-- What a line is depends on the mode and on whether there is a section. -/
theorem role_congr (hmode : scanner.mode = scanner'.mode)
    (hsection : scanner.hasSection = scanner'.hasSection) :
    scanner.role line = scanner'.role line := by
  simp only [role, bodyRole, hmode, hsection]

/-- Sections in front of others make it a section too. -/
theorem Extends.hasSection_eq (h : scanner.Extends earlier scanner') :
    scanner.hasSection = scanner'.hasSection := by
  rw [h.hasSection, hasSection_iff, h.sections]
  exact List.append_ne_nil_of_right_ne_nil _ (scanner'.hasSection_iff.mp h.hasSection)

/-- A step leaves sections in front where they are. -/
theorem extends_step (h : scanner.Extends earlier scanner') :
    (scanner.step options line following).Extends earlier
      (scanner'.step options line following) := by
  have hrole : scanner.role line = scanner'.role line :=
    role_congr scanner scanner' line h.mode (h.hasSection_eq scanner scanner' earlier)
  -- The last section is the same one in both states, and it is not one of those in front.
  have hlast : ∀ f : Section → Section, Document.modifyLast f scanner.document.sections =
      earlier ++ Document.modifyLast f scanner'.document.sections := by
    intro f
    rw [h.sections, Document.modifyLast_append f earlier _ (scanner'.hasSection_iff.mp h.hasSection)]
  have hkept : ∀ f : Section → Section,
      (!(Document.modifyLast f scanner'.document.sections).isEmpty) = true := by
    intro f
    rw [Document.isEmpty_modifyLast]
    exact h.hasSection
  rw [step, step, hrole]
  cases scanner'.role line with
  | title | documentText => exact ⟨h.sections, h.hasSection, h.mode, h.pending⟩
  | sectionHeader name =>
      refine ⟨?_, hasSection_concat _ _ scanner'.document.sections _ _ _, by rw [h.mode], rfl⟩
      exact (congrArg (· ++ _) h.sections).trans (List.append_assoc _ _ _)
  | sectionText => exact ⟨hlast _, hkept _, h.mode, h.pending⟩
  | rulesStart => exact ⟨h.sections, h.hasSection, rfl, rfl⟩
  | outside => exact ⟨h.sections, h.hasSection, congrArg Mode.settled h.mode, h.pending⟩
  | ruleText =>
      exact ⟨h.sections, h.hasSection, congrArg Mode.settled h.mode,
        congrArg (· ++ _) h.pending⟩
  | ruleHeader header =>
      rw [h.pending]
      exact ⟨hlast _, hkept _, congrArg Mode.settled h.mode, rfl⟩
  | other => exact ⟨h.sections, h.hasSection, congrArg Mode.settled h.mode, rfl⟩

end Step

variable (options : ScanOptions)

/-- A run leaves sections in front where they are. -/
theorem extends_run (scanner scanner' : Scanner) (earlier : List Section) (lines : List Text)
    (h : scanner.Extends earlier scanner') :
    (scanner.run options lines).Extends earlier (scanner'.run options lines) := by
  induction lines generalizing scanner scanner' with
  | nil => exact h
  | cons line lines ih =>
      exact ih _ _ (extends_step options scanner scanner' earlier line lines h)

/-- A section header and the lines below it add the same sections whatever is above, but for the
    rules block. -/
theorem run_sectionHeader (scanner : Scanner) (header name : Text) (after : List Text)
    (h : Line.section? header = some name) :
    (scanner.run options (header :: after)).document.sections =
      scanner.document.sections ++
        ((opened name scanner.mode.rulesOpen).run options after).document.sections := by
  have hextends : (scanner.step options header after).Extends scanner.document.sections
      (opened name scanner.mode.rulesOpen) := by
    rw [step_sectionHeader options scanner header after name h]
    exact ⟨rfl, rfl, rfl, rfl⟩
  exact (extends_run options _ _ scanner.document.sections after hextends).sections

/-- The state after a run fits its lines. -/
theorem follows_run (lines : List Text) : (start.run options lines).Follows lines := by
  have hfeed := follows_feed options (withRest lines)
  rwa [map_fst_withRest, ← run_eq_feed] at hfeed

/-- After a run a rules block is open if one has been started. -/
theorem rulesOpen_run (lines : List Text) :
    (start.run options lines).mode.rulesOpen = rulesSeen lines := by
  rw [(follows_run options lines).mode, rulesOpen_modeAfter]

end Scanner

theorem rulesSeen_reopening (before : List Text) :
    rulesSeen (reopening before) = rulesSeen before := by
  rw [reopening]
  cases rulesSeen before <;> rfl

/-- Where no section is opened there are no sections. -/
theorem sectionsOf_reopening (options : ScanOptions) (before : List Text) :
    sectionsOf options (reopening before) = [] := by
  rw [sectionsOf, reopening]
  cases rulesSeen before <;> rfl

/-- The sections on both sides of a section header are compiled one by one. Of what is above the
    header it matters only whether a rules block is started there. The header must not be indented
    like the block below a rule header, since the rule above would look past it. -/
theorem sectionsOf_append_header (options : ScanOptions) (before after : List Text) (header : Text)
    (hheader : Line.isHeader header = true) (hnested : Line.isNested header = false) :
    sectionsOf options (before ++ header :: after) =
      sectionsOf options before ++ sectionsOf options (reopening before ++ header :: after) := by
  rcases (Line.isHeader_iff header).mp hheader with ⟨name, hname⟩
  have hcut : severityBelow options (header :: after) = options.defaultSeverity := by
    refine severityBelow_of_not_nested options _ fun line hline => ?_
    rw [← Option.some.inj hline, hnested]
  -- Both sides are this, for the lines above and for the line that stands in for them.
  have hadded : ∀ lines : List Text, rulesSeen lines = rulesSeen before →
      sectionsOf options (lines ++ header :: after) = sectionsOf options lines ++
        ((Scanner.opened name (rulesSeen before)).run options after).document.sections := by
    intro lines hlines
    rw [sectionsOf, Scanner.run_append options _ lines _ hcut,
      Scanner.run_sectionHeader options _ header name after hname, Scanner.rulesOpen_run, hlines,
      sectionsOf]
  rw [hadded before rfl, hadded _ (rulesSeen_reopening before), sectionsOf_reopening,
    List.nil_append]

/-- A rules block is left open and a comment left waiting above the header: the rule below it is
    compiled, and the comment is not part of it. -/
theorem sectionsOf_append_header_waiting :
    sectionsOf {} ([("# Section: A" : Text), ("rules:" : Text), ("  a:" : Text),
        ("  # Waits." : Text)] ++ ("# Section: B" : Text) :: [("  b: warn" : Text)]) =
      sectionsOf {} [("# Section: A" : Text), ("rules:" : Text), ("  a:" : Text),
        ("  # Waits." : Text)] ++
      sectionsOf {} [("rules:" : Text), ("# Section: B" : Text), ("  b: warn" : Text)] ∧
    sectionsOf {} [("rules:" : Text), ("# Section: B" : Text), ("  b: warn" : Text)] =
      [⟨("B" : Text), [], [⟨("b" : Text), ("warn" : Text), [], []⟩]⟩] := by
  constructor
  · exact sectionsOf_append_header {} _ _ ("# Section: B" : Text) (by decide) (by decide)
  · decide

end StyleGuide
