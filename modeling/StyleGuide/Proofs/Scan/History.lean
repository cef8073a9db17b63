import StyleGuide.Proofs.Scan.Edit
import Mathlib.Data.List.DropRight

/-!
# What the scanner remembers

The part of the scanner's state that steers it (whether there is a section, the mode, and the
comments that wait) is a function of the lines it has read. It does not depend on the default
severity, nor on what the steps were shown as following lines.

The parts hang together. The mode below a section header carries over whether a rules block was
ever started, so it needs the whole history; the comments that wait are those of the run the
history ends with, but only in a rules block and only if the run does not stand below a section
header, where comments describe the section. None of this is kept by a step on its own, so
`Follows` ties all of it to the history at once, and `follows_step` goes through the kinds of
lines.

A run of comments is broken by a line that is no comment and by a section header. Title lines are
comments too: they stay in the run and only leave no text.

## Main definitions

* `Line.isHeader`, `Line.continuesRun`: The lines that open sections, and those inside runs.
* `headerSeen`, `rulesSeen`: Whether a section and whether a rules block has been opened.
* `commentRun`, `belowHeader`: The run at the end, and whether a section header stands above it.
* `commentTexts`: What the lines of a run say.
* `modeAfter`, `pendingAfter`: The mode and the waiting comments as functions of the history.
* `Scanner.Follows`: A state that fits the lines read.

## Theorems

* `step_of_continues`, `step_of_not_isComment`: What a step does to mode and waiting comments.
* `follows_start`, `follows_step`, `follows_feed`: The scanner's state fits the lines read.
* `pendingAfter_of_rules`: In a rules block the run at the end waits, except below a header.
-/

namespace StyleGuide

namespace Line

/-- Whether a line opens a section. -/
def isHeader (line : Text) : Bool := (Line.section? line).isSome

/-- Whether a line inside a run of comments leaves the run open. -/
def continuesRun (line : Text) : Bool := isComment line && !isHeader line

theorem isHeader_iff (line : Text) :
    isHeader line = true ↔ ∃ name : Text, Line.section? line = some name :=
  Option.isSome_iff_exists

theorem isHeader_eq_false_iff (line : Text) :
    isHeader line = false ↔ Line.section? line = none := by
  rw [isHeader, Option.isSome_eq_false_iff, Option.isNone_iff_eq_none]

theorem isComment_of_isHeader (line : Text) (h : isHeader line = true) : isComment line = true := by
  rcases (isHeader_iff line).mp h with ⟨name, hname⟩
  exact isComment_of_section? line name hname

/-- A run goes on with comments that open no section. -/
theorem continuesRun_iff (line : Text) :
    continuesRun line = true ↔ isComment line = true ∧ section? line = none := by
  rw [continuesRun, Bool.and_eq_true, Bool.not_eq_true', isHeader_eq_false_iff]

theorem continuesRun_eq_false_of_isHeader (line : Text) (h : isHeader line = true) :
    continuesRun line = false := by
  rw [continuesRun, h, Bool.not_true, Bool.and_false]

theorem continuesRun_eq_false_of_not_isComment (line : Text) (h : isComment line = false) :
    continuesRun line = false := by
  rw [continuesRun, h, Bool.false_and]

end Line

/-- Whether a section has been opened. -/
def headerSeen (seen : List Text) : Bool := seen.any Line.isHeader

/-- Whether a rules block has been started. -/
def rulesSeen (seen : List Text) : Bool := seen.any Line.startsRules

/-- The run of comments at the end of the lines. -/
def commentRun (seen : List Text) : List Text := seen.rtakeWhile Line.continuesRun

/-- Whether the run of comments at the end stands right below a section header. -/
def belowHeader (seen : List Text) : Bool :=
  (seen.rdropWhile Line.continuesRun).getLast?.any Line.isHeader

/-- What the lines of a run of comments say. Title lines say something else. -/
def commentTexts (run : List Text) : List Text :=
  (run.filter fun line => (Line.title? line).isNone).map Line.uncomment

/-- The mode after some lines. -/
def modeAfter (seen : List Text) : Mode :=
  if headerSeen seen then
    if belowHeader seen then .describing (rulesSeen seen)
    else if rulesSeen seen then .rules else .idle
  else if rulesSeen seen then .rules else .preSection

/-- The comments that wait for a rule after some lines. -/
def pendingAfter (seen : List Text) : List Text :=
  if headerSeen seen && rulesSeen seen && !belowHeader seen then commentTexts (commentRun seen)
  else []

/-! ### One more line -/

section Concat

variable (seen : List Text) (line : Text)

@[simp] theorem headerSeen_concat :
    headerSeen (seen ++ [line]) = (headerSeen seen || Line.isHeader line) := by
  rw [headerSeen, List.any_append, List.any_cons, List.any_nil, Bool.or_false, headerSeen]

@[simp] theorem rulesSeen_concat :
    rulesSeen (seen ++ [line]) = (rulesSeen seen || Line.startsRules line) := by
  rw [rulesSeen, List.any_append, List.any_cons, List.any_nil, Bool.or_false, rulesSeen]

theorem commentRun_concat_of_continues (h : Line.continuesRun line = true) :
    commentRun (seen ++ [line]) = commentRun seen ++ [line] :=
  List.rtakeWhile_concat_pos _ _ _ h

theorem commentRun_concat_of_breaks (h : Line.continuesRun line = false) :
    commentRun (seen ++ [line]) = [] :=
  List.rtakeWhile_concat_neg _ _ _ (by rw [h]; exact Bool.false_ne_true)

theorem belowHeader_concat_of_continues (h : Line.continuesRun line = true) :
    belowHeader (seen ++ [line]) = belowHeader seen := by
  rw [belowHeader, List.rdropWhile_concat_pos _ _ _ h, belowHeader]

theorem belowHeader_concat_of_breaks (h : Line.continuesRun line = false) :
    belowHeader (seen ++ [line]) = Line.isHeader line := by
  rw [belowHeader, List.rdropWhile_concat_neg _ _ _ (by rw [h]; exact Bool.false_ne_true),
    List.getLast?_concat, Option.any_some]

end Concat

@[simp] theorem commentTexts_nil : commentTexts [] = [] := rfl

theorem commentTexts_append (run run' : List Text) :
    commentTexts (run ++ run') = commentTexts run ++ commentTexts run' := by
  rw [commentTexts, List.filter_append, List.map_append, commentTexts, commentTexts]

theorem commentTexts_title (line title : Text) (h : Line.title? line = some title) :
    commentTexts [line] = [] := by
  simp only [commentTexts, List.filter_cons, List.filter_nil, h, Option.isNone_some,
    Bool.false_eq_true, if_false, List.map_nil]

theorem commentTexts_plain (line : Text) (h : Line.title? line = none) :
    commentTexts [line] = [Line.uncomment line] := by
  simp only [commentTexts, List.filter_cons, List.filter_nil, h, Option.isNone_none, if_true,
    List.map_cons, List.map_nil]

theorem pendingAfter_of_not_headerSeen (seen : List Text) (h : headerSeen seen = false) :
    pendingAfter seen = [] := by
  simp only [pendingAfter, h, Bool.false_and, Bool.false_eq_true, if_false]

theorem pendingAfter_of_belowHeader (seen : List Text) (h : belowHeader seen = true) :
    pendingAfter seen = [] := by
  simp only [pendingAfter, h, Bool.not_true, Bool.and_false, Bool.false_eq_true, if_false]

theorem pendingAfter_of_not_rulesSeen (seen : List Text) (h : rulesSeen seen = false) :
    pendingAfter seen = [] := by
  simp only [pendingAfter, h, Bool.and_false, Bool.false_and, Bool.false_eq_true, if_false]

/-- In a rules block the run at the end waits, except below a header. -/
theorem pendingAfter_of_rules (seen : List Text) (hheader : headerSeen seen = true)
    (hrules : rulesSeen seen = true) (h : belowHeader seen = false) :
    pendingAfter seen = commentTexts (commentRun seen) := by
  simp only [pendingAfter, hheader, hrules, h, Bool.not_false, Bool.and_self, if_true]

/-- A line that breaks runs leaves no comment waiting. -/
theorem pendingAfter_concat_of_breaks (seen : List Text) (line : Text)
    (h : Line.continuesRun line = false) : pendingAfter (seen ++ [line]) = [] := by
  rw [pendingAfter, commentRun_concat_of_breaks seen line h, commentTexts_nil, ite_self]

/-- A comment inside a run leaves the mode as it was. -/
theorem modeAfter_concat_of_continues (seen : List Text) (line : Text)
    (h : Line.continuesRun line = true) : modeAfter (seen ++ [line]) = modeAfter seen := by
  rcases Bool.and_eq_true_iff.mp h with ⟨hcomment, hheader⟩
  rw [Bool.not_eq_true'] at hheader
  rw [modeAfter, headerSeen_concat, rulesSeen_concat, belowHeader_concat_of_continues seen line h,
    hheader, Line.startsRules_eq_false_of_isComment line hcomment, Bool.or_false, Bool.or_false,
    modeAfter]

/-- A comment inside a run waits if the run does, and if it says something. -/
theorem pendingAfter_concat_of_continues (seen : List Text) (line : Text)
    (h : Line.continuesRun line = true) :
    pendingAfter (seen ++ [line]) =
      if headerSeen seen && rulesSeen seen && !belowHeader seen then
        pendingAfter seen ++ commentTexts [line]
      else [] := by
  rcases Bool.and_eq_true_iff.mp h with ⟨hcomment, hheader⟩
  rw [Bool.not_eq_true'] at hheader
  rw [pendingAfter, headerSeen_concat, rulesSeen_concat,
    belowHeader_concat_of_continues seen line h, commentRun_concat_of_continues seen line h,
    hheader, Line.startsRules_eq_false_of_isComment line hcomment, Bool.or_false, Bool.or_false,
    commentTexts_append, pendingAfter]
  split <;> rfl

/-! ### The state of the scanner -/

/-- A rules block counts as open below a section header too. -/
theorem rulesOpen_modeAfter (seen : List Text) : (modeAfter seen).rulesOpen = rulesSeen seen := by
  rw [modeAfter]
  cases headerSeen seen <;> cases belowHeader seen <;> cases rulesSeen seen <;> rfl

/-- When a run of comments has ended, a started rules block takes over. -/
theorem settled_modeAfter (seen : List Text) :
    (modeAfter seen).settled =
      if rulesSeen seen then .rules else if headerSeen seen then .idle else .preSection := by
  rw [modeAfter]
  cases headerSeen seen <;> cases belowHeader seen <;> cases rulesSeen seen <;> rfl

/-- In a section, the mode for rules is that of a started rules block below something other than
    the section's header. -/
theorem modeAfter_eq_rules_iff (seen : List Text) (h : headerSeen seen = true) :
    modeAfter seen = .rules ↔ rulesSeen seen = true ∧ belowHeader seen = false := by
  rw [modeAfter, h]
  cases belowHeader seen <;> cases rulesSeen seen <;> decide

/-- The state of a scanner fits the lines it has read. -/
structure Scanner.Follows (scanner : Scanner) (seen : List Text) : Prop where
  hasSection : scanner.hasSection = headerSeen seen
  mode : scanner.mode = modeAfter seen
  pending : scanner.pending = pendingAfter seen

namespace Scanner

theorem follows_start : start.Follows [] := ⟨rfl, rfl, rfl⟩

section Step

variable (options : ScanOptions) (scanner : Scanner) (line : Text) (following : List Text)

/-- A comment inside a run leaves the mode as it is. If it waits, it is because the scanner is in a
    rules block in some section. -/
theorem step_of_continues (h : Line.continuesRun line = true) :
    (scanner.step options line following).mode = scanner.mode ∧
      (scanner.step options line following).pending =
        if scanner.hasSection = true ∧ scanner.mode = .rules then
          scanner.pending ++ commentTexts [line]
        else scanner.pending := by
  rcases (Line.continuesRun_iff line).mp h with ⟨hcomment, hheader⟩
  have hstep := commentStep options scanner line following hcomment hheader
  generalize scanner.step options line following = scanner' at hstep ⊢
  cases hstep with
  | title title htitle =>
      rw [commentTexts_title line title htitle, List.append_nil, ite_self]
      exact ⟨rfl, rfl⟩
  | documentText _ hsection =>
      rw [hsection, if_neg (fun hand => Bool.false_ne_true hand.1)]
      exact ⟨rfl, rfl⟩
  | sectionText _ _ rulesOpen hmode =>
      rw [hmode, if_neg (fun hand => nomatch hand.2)]
      exact ⟨rfl, rfl⟩
  | ruleText htitle hsection hmode =>
      rw [commentTexts_plain line htitle, if_pos ⟨hsection, hmode⟩]
      exact ⟨rfl, rfl⟩
  | idle _ _ hmode =>
      rw [if_neg (fun hand => hmode hand.2)]
      exact ⟨rfl, rfl⟩

/-- A line that is no comment ends the run: the mode settles, unless a rules block is started, and
    nothing waits any longer than a rules block lasts. -/
theorem step_of_not_isComment (h : Line.isComment line = false) :
    (scanner.step options line following).mode =
        (if Line.startsRules line = true then .rules else scanner.mode.settled) ∧
      (scanner.step options line following).pending =
        if Line.startsRules line = true ∨ scanner.hasSection = true ∧
            scanner.mode.settled = .rules then []
        else scanner.pending := by
  have hstep := bodyStep options scanner line following h
  generalize scanner.step options line following = scanner' at hstep ⊢
  cases hstep with
  | rulesStart hrules =>
      rw [if_pos hrules, if_pos (Or.inl hrules)]
      exact ⟨rfl, rfl⟩
  | ruleHeader hrules hmode hsection =>
      rw [hrules, if_neg Bool.false_ne_true, if_pos (Or.inr ⟨hsection, hmode⟩), hmode]
      exact ⟨rfl, rfl⟩
  | other hrules hmode hsection =>
      rw [hrules, if_neg Bool.false_ne_true, if_pos (Or.inr ⟨hsection, hmode⟩), hmode]
      exact ⟨rfl, rfl⟩
  | outside hrules hout =>
      have hnot : ¬(false = true ∨ scanner.hasSection = true ∧ scanner.mode.settled = .rules) := by
        rintro (hfalse | ⟨hsection, hmode⟩)
        · exact Bool.false_ne_true hfalse
        · rw [hout.resolve_left (absurd hmode)] at hsection
          exact Bool.false_ne_true hsection
      rw [hrules, if_neg Bool.false_ne_true, if_neg hnot]
      exact ⟨rfl, rfl⟩

variable (seen : List Text)

/-- A section header starts a history of its own, but for the rules block. -/
theorem follows_step_header (h : scanner.Follows seen) (hheader : Line.isHeader line = true) :
    (scanner.step options line following).Follows (seen ++ [line]) := by
  rcases (Line.isHeader_iff line).mp hheader with ⟨name, hname⟩
  have hbreaks : Line.continuesRun line = false :=
    Line.continuesRun_eq_false_of_isHeader line hheader
  have hrules : Line.startsRules line = false :=
    Line.startsRules_eq_false_of_isComment line (Line.isComment_of_isHeader line hheader)
  rw [step_sectionHeader options scanner line following name hname]
  refine ⟨?_, ?_, ?_⟩
  · rw [headerSeen_concat, hheader, Bool.or_true]
    exact hasSection_concat _ _ scanner.document.sections _ _ _
  · rw [modeAfter, headerSeen_concat, hheader, Bool.or_true, if_pos rfl,
      belowHeader_concat_of_breaks seen line hbreaks, hheader, if_pos rfl, rulesSeen_concat, hrules,
      Bool.or_false, h.mode, rulesOpen_modeAfter]
  · rw [pendingAfter_concat_of_breaks seen line hbreaks]

theorem follows_step_continues (h : scanner.Follows seen)
    (hcontinues : Line.continuesRun line = true) :
    (scanner.step options line following).Follows (seen ++ [line]) := by
  rcases step_of_continues options scanner line following hcontinues with ⟨hmode, hpending⟩
  have hheader : Line.isHeader line = false :=
    (Line.isHeader_eq_false_iff line).mpr ((Line.continuesRun_iff line).mp hcontinues).2
  refine ⟨?_, ?_, ?_⟩
  · rw [hasSection_step options scanner line following
      ((Line.isHeader_eq_false_iff line).mp hheader), headerSeen_concat, hheader, Bool.or_false,
      h.hasSection]
  · rw [hmode, modeAfter_concat_of_continues seen line hcontinues, h.mode]
  · rw [hpending, pendingAfter_concat_of_continues seen line hcontinues, h.hasSection, h.mode,
      h.pending]
    cases hseen : headerSeen seen with
    | false =>
        rw [if_neg (fun hand => Bool.false_ne_true hand.1), Bool.false_and, Bool.false_and,
          if_neg Bool.false_ne_true, pendingAfter_of_not_headerSeen seen hseen]
    | true =>
        simp only [modeAfter_eq_rules_iff seen hseen]
        cases hrules : rulesSeen seen <;> cases hbelow : belowHeader seen
        · rw [pendingAfter_of_not_rulesSeen seen hrules]; rfl
        · rw [pendingAfter_of_not_rulesSeen seen hrules]; rfl
        · rfl
        · rw [pendingAfter_of_belowHeader seen hbelow]; rfl

theorem follows_step_not_isComment (h : scanner.Follows seen)
    (hcomment : Line.isComment line = false) :
    (scanner.step options line following).Follows (seen ++ [line]) := by
  rcases step_of_not_isComment options scanner line following hcomment with ⟨hmode, hpending⟩
  have hheader : Line.isHeader line = false := by
    rw [Bool.eq_false_iff]
    intro hh
    rw [Line.isComment_of_isHeader line hh] at hcomment
    exact absurd hcomment (by decide)
  have hbreaks : Line.continuesRun line = false :=
    Line.continuesRun_eq_false_of_not_isComment line hcomment
  refine ⟨?_, ?_, ?_⟩
  · rw [hasSection_step options scanner line following
      ((Line.isHeader_eq_false_iff line).mp hheader), headerSeen_concat, hheader, Bool.or_false,
      h.hasSection]
  · rw [hmode, h.mode, settled_modeAfter, modeAfter, headerSeen_concat, rulesSeen_concat, hheader,
      Bool.or_false, belowHeader_concat_of_breaks seen line hbreaks, hheader]
    cases headerSeen seen <;> cases rulesSeen seen <;> cases Line.startsRules line <;> rfl
  · rw [hpending, pendingAfter_concat_of_breaks seen line hbreaks, h.hasSection, h.mode,
      settled_modeAfter, h.pending]
    -- What is kept here was nothing: nothing waits outside sections and rules blocks.
    cases hseen : headerSeen seen with
    | false => rw [pendingAfter_of_not_headerSeen seen hseen, ite_self]
    | true =>
        cases hrules : rulesSeen seen with
        | false => rw [pendingAfter_of_not_rulesSeen seen hrules, ite_self]
        | true => rw [if_pos (Or.inr ⟨rfl, rfl⟩)]

/-- A step keeps the state fitting the lines. -/
theorem follows_step (h : scanner.Follows seen) :
    (scanner.step options line following).Follows (seen ++ [line]) := by
  cases hcomment : Line.isComment line with
  | false => exact follows_step_not_isComment options scanner line following seen h hcomment
  | true =>
      cases hheader : Line.isHeader line with
      | true => exact follows_step_header options scanner line following seen h hheader
      | false =>
          refine follows_step_continues options scanner line following seen h ?_
          rw [Line.continuesRun, hcomment, hheader, Bool.not_false, Bool.and_self]

end Step

/-- After any steps the state fits the lines read, whatever the steps were shown as following. -/
theorem follows_feed (options : ScanOptions) (steps : List (Text × List Text)) :
    (start.feed options steps).Follows (steps.map Prod.fst) := by
  induction steps using List.reverseRecOn with
  | nil => exact follows_start
  | append_singleton steps step ih =>
      rw [feed_append, feed_cons, feed_nil, List.map_append, List.map_cons, List.map_nil]
      exact follows_step options _ step.1 step.2 _ ih

end Scanner

end StyleGuide
