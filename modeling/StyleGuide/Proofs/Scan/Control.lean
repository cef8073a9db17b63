import StyleGuide.Proofs.Scan.Outline

/-!
# What steers the scanner

The part of the state that decides what a line does, said once and for all states a scanner can get
into: whether there is a section, the mode, and the comments that wait. Each is what the lines read
so far make it, and it makes no difference what the steps were shown as following.

`Follows` has all of this in the form that steps keep. Here it is put in terms of the lines alone.
There the run of comments at the end is broken by section headers, and what counts is whether a
header stands above it. Here the question is whether all lines since the last header are comments,
and the comments that wait are simply those at the end; the two ways to cut the lines agree where
it matters.

A consequence is that changes to the last section are never lost for want of one. A description is
only open below a section header, and a rule is only made where there is a section.

## Main definitions

* `sinceHeader`: The lines below the last section header.
* `Scanner.ControlledBy`: A state whose section, mode and waiting comments come from the lines.

## Theorems

* `belowHeader_eq`: The run at the end stands below a header if nothing else came since.
* `commentRun_eq`: The run at the end is made of the comments there, except below a header.
* `controlledBy_of_follows`: A state that fits its lines is controlled by them.
* `exists_modifyLast`: Where there is a section, the last one takes the change.
* `controlledBy_feed`: Every reachable state is controlled by its lines and loses nothing.
-/

namespace StyleGuide

/-- The lines below the last section header, or all lines if there is no header. -/
def sinceHeader (seen : List Text) : List Text := seen.rtakeWhile fun line => !Line.isHeader line

theorem sinceHeader_concat_header (seen : List Text) (line : Text)
    (h : Line.isHeader line = true) : sinceHeader (seen ++ [line]) = [] :=
  List.rtakeWhile_concat_neg _ _ _ (by rw [h]; exact Bool.false_ne_true)

theorem sinceHeader_concat (seen : List Text) (line : Text) (h : Line.isHeader line = false) :
    sinceHeader (seen ++ [line]) = sinceHeader seen ++ [line] :=
  List.rtakeWhile_concat_pos _ _ _ (by rw [h, Bool.not_false])

/-- The run at the end stands below a section header if nothing but comments came since the last
    one. -/
theorem belowHeader_eq (seen : List Text) :
    belowHeader seen = (headerSeen seen && (sinceHeader seen).all Line.isComment) := by
  -- Both sides change with the last line only: a header makes them true, and any other line that
  -- is no comment makes them false.
  induction seen using List.reverseRecOn with
  | nil => rfl
  | append_singleton seen line ih =>
      rw [headerSeen_concat]
      cases hheader : Line.isHeader line with
      | true =>
          rw [belowHeader_concat_of_breaks seen line
              (Line.continuesRun_eq_false_of_isHeader line hheader), hheader,
            sinceHeader_concat_header seen line hheader, Bool.or_true, List.all_nil, Bool.and_self]
      | false =>
          rw [sinceHeader_concat seen line hheader, List.all_append, List.all_cons, List.all_nil,
            Bool.and_true, Bool.or_false, ← Bool.and_assoc, ← ih]
          cases hcomment : Line.isComment line with
          | true =>
              rw [belowHeader_concat_of_continues seen line
                ((Line.continuesRun_iff line).mpr
                  ⟨hcomment, (Line.isHeader_eq_false_iff line).mp hheader⟩), Bool.and_true]
          | false =>
              rw [belowHeader_concat_of_breaks seen line
                (Line.continuesRun_eq_false_of_not_isComment line hcomment), hheader,
                Bool.and_false]

/-- The run at the end is made of all comments there, except below a section header. -/
theorem commentRun_eq (seen : List Text) (h : belowHeader seen = false) :
    commentRun seen = seen.rtakeWhile Line.isComment := by
  induction seen using List.reverseRecOn with
  | nil => rfl
  | append_singleton seen line ih =>
      cases hcontinues : Line.continuesRun line with
      | true =>
          rw [belowHeader_concat_of_continues seen line hcontinues] at h
          rw [commentRun_concat_of_continues seen line hcontinues, ih h,
            List.rtakeWhile_concat_pos _ _ _ ((Line.continuesRun_iff line).mp hcontinues).1]
      | false =>
          -- What breaks the run and is no header is no comment, so both runs are empty here.
          rw [belowHeader_concat_of_breaks seen line hcontinues] at h
          have hcomment : Line.isComment line = false := by
            rwa [Line.continuesRun, h, Bool.not_false, Bool.and_true] at hcontinues
          rw [commentRun_concat_of_breaks seen line hcontinues,
            List.rtakeWhile_concat_neg _ _ _ (by rw [hcomment]; exact Bool.false_ne_true)]

namespace Scanner

/-- Whether there is a section, the mode and the waiting comments are what the lines read make
    them. -/
structure ControlledBy (scanner : Scanner) (seen : List Text) : Prop where
  hasSection_iff : scanner.hasSection = true ↔ ∃ line ∈ seen, Line.isHeader line = true
  /-- Before the first section header the mode tells whether a rules block has been started. -/
  mode_before : (∀ line ∈ seen, Line.isHeader line = false) →
    scanner.mode = if rulesSeen seen then .rules else .preSection
  /-- While nothing but comments has come since the last section header, its description is open. -/
  mode_describing : (∃ line ∈ seen, Line.isHeader line = true) →
    (∀ line ∈ sinceHeader seen, Line.isComment line = true) →
      scanner.mode = .describing (rulesSeen seen)
  /-- After that the mode tells again whether a rules block has been started, at any time. -/
  mode_below : (∃ line ∈ seen, Line.isHeader line = true) →
    (∃ line ∈ sinceHeader seen, Line.isComment line = false) →
      scanner.mode = if rulesSeen seen then .rules else .idle
  pending_inside : scanner.pending ≠ [] → scanner.mode = .rules ∧ scanner.hasSection = true
  /-- What waits is what the comments at the end say, title lines left out. -/
  pending_eq : scanner.mode = .rules → scanner.hasSection = true →
    scanner.pending = commentTexts (seen.rtakeWhile Line.isComment)

/-- A state that fits the lines read is controlled by them. -/
theorem controlledBy_of_follows (scanner : Scanner) (seen : List Text)
    (h : scanner.Follows seen) : scanner.ControlledBy seen := by
  have hseen : headerSeen seen = true ↔ ∃ line ∈ seen, Line.isHeader line = true := List.any_eq_true
  refine ⟨?_, fun hnone => ?_, fun hheader hall => ?_, fun hheader hbroken => ?_,
    fun hne => ?_, fun hmode hsection => ?_⟩
  · rw [h.hasSection, hseen]
  · have hheader : headerSeen seen = false := by
      rw [Bool.eq_false_iff, Ne, hseen]
      rintro ⟨line, hline, hh⟩
      rw [hnone line hline] at hh
      exact Bool.false_ne_true hh
    rw [h.mode, modeAfter, hheader, if_neg Bool.false_ne_true]
  · rw [h.mode, modeAfter, belowHeader_eq, hseen.mpr hheader, List.all_eq_true.mpr hall, if_pos rfl,
      Bool.and_self, if_pos rfl]
  · -- One line that is no comment is enough, wherever it stands below the header.
    rcases hbroken with ⟨line, hline, hcomment⟩
    have hnot : (sinceHeader seen).all Line.isComment = false :=
      List.all_eq_false.mpr ⟨line, hline, by rw [hcomment]; exact Bool.false_ne_true⟩
    rw [h.mode, modeAfter, belowHeader_eq, hseen.mpr hheader, hnot, if_pos rfl, Bool.and_false,
      if_neg Bool.false_ne_true]
  · rw [h.pending, pendingAfter] at hne
    split at hne
    · rename_i hwaits
      rw [Bool.and_eq_true, Bool.and_eq_true, Bool.not_eq_true'] at hwaits
      rw [h.mode, h.hasSection]
      exact ⟨(modeAfter_eq_rules_iff seen hwaits.1.1).mpr ⟨hwaits.1.2, hwaits.2⟩, hwaits.1.1⟩
    · exact absurd rfl hne
  · rw [h.hasSection] at hsection
    rw [h.mode, modeAfter_eq_rules_iff seen hsection] at hmode
    rw [h.pending, pendingAfter_of_rules seen hsection hmode.1 hmode.2, commentRun_eq seen hmode.2]

/-- Where there is a section, the last one takes the change, and nothing is lost. -/
theorem exists_modifyLast (scanner : Scanner) (f : Section → Section)
    (h : scanner.hasSection = true) :
    ∃ (front : List Section) (last : Section), scanner.document.sections = front ++ [last] ∧
      Document.modifyLast f scanner.document.sections = front ++ [f last] := by
  rcases List.eq_nil_or_concat' scanner.document.sections with hnil | ⟨front, last, hsections⟩
  · exact absurd hnil (scanner.hasSection_iff.mp h)
  · exact ⟨front, last, hsections, by rw [hsections, Document.modifyLast_concat]⟩

/-- A description is only open where there is a section. -/
theorem hasSection_of_describing (scanner : Scanner) (seen : List Text) (rulesOpen : Bool)
    (h : scanner.Follows seen) (hmode : scanner.mode = .describing rulesOpen) :
    scanner.hasSection = true := by
  rw [h.hasSection]
  cases hseen : headerSeen seen with
  | true => rfl
  | false =>
      rw [h.mode, modeAfter, hseen, if_neg Bool.false_ne_true] at hmode
      cases hrules : rulesSeen seen <;> rw [hrules] at hmode <;>
        simp only [reduceCtorEq, if_true, if_false, Bool.false_eq_true] at hmode

/-- Whatever steps have been taken, and whatever they were shown as following, the lines read
    control the state. A comment below a section header always joins the description of some
    section, and a rule always joins the rules of some section. -/
theorem controlledBy_feed (options : ScanOptions) (steps : List (Text × List Text)) :
    (start.feed options steps).ControlledBy (steps.map Prod.fst) ∧
    ∀ (line : Text) (following : List Text),
      (∀ rulesOpen, (start.feed options steps).mode = .describing rulesOpen →
        Line.isComment line = true → Line.title? line = none → Line.section? line = none →
        ∃ (front : List Section) (last : Section),
          (start.feed options steps).document.sections = front ++ [last] ∧
          ((start.feed options steps).step options line following).document.sections =
            front ++ [{ last with description := last.description ++ [Line.described line] }]) ∧
      (∀ header, (start.feed options steps).role line = .ruleHeader header →
        ∃ (front : List Section) (last : Section),
          (start.feed options steps).document.sections = front ++ [last] ∧
          ((start.feed options steps).step options line following).document.sections =
            front ++ [{ last with rules := last.rules ++ [documentRule header.name
              (resolveSeverity options header following) (start.feed options steps).pending] }]) := by
  have hfollows := follows_feed options steps
  refine ⟨controlledBy_of_follows _ _ hfollows, fun line following => ⟨?_, ?_⟩⟩
  -- The mode alone says that there is a section; for a rule its role in the state does.
  · intro rulesOpen hmode hcomment htitle hheader
    have hsection := hasSection_of_describing _ _ rulesOpen hfollows hmode
    rw [step_sectionText options _ line following hcomment htitle hheader hsection rulesOpen hmode]
    exact exists_modifyLast _ _ hsection
  · intro header hrole
    have hsection := ((role_eq_ruleHeader_iff _ line header).mp hrole).2.2.2
    rw [step, hrole]
    exact exists_modifyLast _ _ hsection

end Scanner

end StyleGuide
