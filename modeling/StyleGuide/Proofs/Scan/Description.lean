import StyleGuide.Proofs.Scan.Outline

/-!
# Titles and descriptions

Which lines give a document its title, and which describe the document and its sections.

Title lines count wherever they stand, and the last one wins. Every other comment before the first
section header describes the document, whether or not a rules block is started in between. Below a
section header the comments describe the section as long as nothing else comes; title lines among
them say nothing about the section and do not end its description either.

The three are followed through a run from any state, since each takes what is there already and
adds what the lines give. For the sections that is an induction over all sections at once:
`headings_run` adds to the last section while its description is open, and then puts the sections of
the lines behind. Rules play no part in it, so sections are compared by their headings alone.

## Main definitions

* `beforeHeader`: The lines above the first section header.
* `descriptionOf`: The description that some lines give.
* `Section.heading`: The name and the description of a section.
* `headingsOf`: The headings that some lines give.
* `headingsWith`: The headings of some sections, the last of which is described further.
* `Mode.describes`: Whether the description of a section is open.

## Theorems

* `title_step`, `title_run`: The last title line gives the title.
* `description_step`, `description_run`: Comments before the first section describe the document.
* `headings_step_of_continues`, `headings_step_of_not_isComment`: What lines do to headings.
* `headings_run`: What a run does to headings.
* `description_compile`: Title and descriptions of a compiled document, read off its lines.
-/

namespace StyleGuide

/-- The lines above the first section header, or all lines if there is no header. -/
def beforeHeader (lines : List Text) : List Text := lines.takeWhile fun line => !Line.isHeader line

theorem beforeHeader_cons_header (line : Text) (lines : List Text)
    (h : Line.isHeader line = true) : beforeHeader (line :: lines) = [] :=
  List.takeWhile_cons_of_neg (by rw [h]; exact Bool.false_ne_true)

theorem beforeHeader_cons (line : Text) (lines : List Text) (h : Line.isHeader line = false) :
    beforeHeader (line :: lines) = line :: beforeHeader lines :=
  List.takeWhile_cons_of_pos (by rw [h, Bool.not_false])

/-- The description that some lines give: what the comments among them say, title lines left out. -/
def descriptionOf (lines : List Text) : List Text :=
  (lines.filter fun line => Line.isComment line && (Line.title? line).isNone).map Line.described

@[simp] theorem descriptionOf_nil : descriptionOf [] = [] := rfl

theorem descriptionOf_cons (line : Text) (lines : List Text) :
    descriptionOf (line :: lines) = descriptionOf [line] ++ descriptionOf lines := by
  rw [descriptionOf, descriptionOf, descriptionOf, ← List.map_append, ← List.filter_append,
    List.singleton_append]

theorem descriptionOf_comment (line : Text) (hcomment : Line.isComment line = true)
    (htitle : Line.title? line = none) : descriptionOf [line] = [Line.described line] := by
  simp only [descriptionOf, List.filter_cons, List.filter_nil, hcomment, htitle, Option.isNone_none,
    Bool.and_self, if_true, List.map_cons, List.map_nil]

theorem descriptionOf_title (line title : Text) (h : Line.title? line = some title) :
    descriptionOf [line] = [] := by
  simp only [descriptionOf, List.filter_cons, List.filter_nil, h, Option.isNone_some,
    Bool.and_false, Bool.false_eq_true, if_false, List.map_nil]

theorem descriptionOf_not_isComment (line : Text) (h : Line.isComment line = false) :
    descriptionOf [line] = [] := by
  simp only [descriptionOf, List.filter_cons, List.filter_nil, h, Bool.false_and,
    Bool.false_eq_true, if_false, List.map_nil]

/-- The name and the description of a section. -/
def Section.heading (s : Section) : Text × List Text := (s.name, s.description)

/-- The headings that some lines give: each section header opens a section, and the run of comments
    right below describes it. -/
def headingsOf (lines : List Text) : List (Text × List Text) :=
  (withRest lines).filterMap fun (line, rest) =>
    (Line.section? line).map fun name => (name, descriptionOf (rest.takeWhile Line.continuesRun))

theorem headingsOf_cons_header (line name : Text) (lines : List Text)
    (h : Line.section? line = some name) :
    headingsOf (line :: lines) =
      (name, descriptionOf (lines.takeWhile Line.continuesRun)) :: headingsOf lines := by
  rw [headingsOf, withRest, List.filterMap_cons_some (by simp only [h, Option.map_some]; rfl),
    headingsOf]

theorem headingsOf_cons (line : Text) (lines : List Text) (h : Line.section? line = none) :
    headingsOf (line :: lines) = headingsOf lines := by
  rw [headingsOf, withRest, List.filterMap_cons_none (by simp only [h, Option.map_none]),
    headingsOf]

/-- The headings of some sections when the last of them is described further. -/
def headingsWith (sections : List Section) (more : List Text) : List (Text × List Text) :=
  (Document.modifyLast (fun s => { s with description := s.description ++ more }) sections).map
    Section.heading

theorem headingsWith_concat (front : List Section) (last : Section) (more : List Text) :
    headingsWith (front ++ [last]) more =
      front.map Section.heading ++ [(last.name, last.description ++ more)] := by
  rw [headingsWith, Document.modifyLast_concat, List.map_append]
  rfl

theorem headingsWith_nil (sections : List Section) :
    headingsWith sections [] = sections.map Section.heading :=
  Document.map_modifyLast Section.heading (fun s => { s with description := s.description ++ [] })
    (fun s => by rw [Section.heading, Section.heading, List.append_nil]) sections

theorem headingsWith_describeSection (document : Document) (line : Text) (more : List Text) :
    headingsWith (document.describeSection line).sections more =
      headingsWith document.sections (line :: more) := by
  rw [Document.describeSection]
  rcases List.eq_nil_or_concat' document.sections with hnil | ⟨front, last, hsections⟩
  · simp only [hnil]
    rfl
  · simp only [hsections, Document.modifyLast_concat, headingsWith_concat, List.append_assoc,
      List.singleton_append]

theorem headings_addRule (document : Document) (rule : Rule) :
    (document.addRule rule).sections.map Section.heading =
      document.sections.map Section.heading :=
  Document.map_modifyLast Section.heading (fun s => { s with rules := s.rules ++ [rule] })
    (fun _ => rfl) document.sections

/-- Whether the description of a section is open. -/
def Mode.describes : Mode → Bool
  | .describing _ => true
  | .preSection | .rules | .idle => false

theorem Mode.describes_settled (mode : Mode) : mode.settled.describes = false := by
  cases mode with
  | describing rulesOpen => cases rulesOpen <;> rfl
  | preSection | rules | idle => rfl

namespace Scanner

section Step

variable (options : ScanOptions) (scanner : Scanner) (line : Text) (following : List Text)

/-! ### The title -/

/-- A title line gives the title, and no other line does. -/
theorem title_step : (scanner.step options line following).document.title =
    (Line.title? line).or scanner.document.title := by
  cases htitle : Line.title? line with
  | some title =>
      rw [step_title options scanner line following title htitle]
      rfl
  | none =>
      rw [Option.none_or, step]
      cases hrole : scanner.role line with
      | title title =>
          rw [title?_of_role scanner line title hrole] at htitle
          simp only [reduceCtorEq] at htitle
      | _ => rfl

/-! ### The description of the document -/

/-- A line that describes the document is a comment before the first section. -/
theorem of_role_documentText (h : scanner.role line = .documentText) :
    Line.isComment line = true ∧ Line.title? line = none ∧ scanner.hasSection = false := by
  simp only [role, bodyRole] at h
  split at h
  · simp only [reduceCtorEq] at h
  · rename_i htitle
    split at h
    · simp only [reduceCtorEq] at h
    · split at h
      · rename_i hcond
        rw [Bool.and_eq_true, Bool.not_eq_true'] at hcond
        exact ⟨hcond.1, htitle, hcond.2⟩
      · repeat' split at h
        all_goals simp only [reduceCtorEq] at h

/-- Only a line that describes the document changes its description. -/
theorem description_step_of_ne (h : scanner.role line ≠ .documentText) :
    (scanner.step options line following).document.description =
      scanner.document.description := by
  rw [step]
  cases hrole : scanner.role line with
  | documentText => exact absurd hrole h
  | _ => rfl

/-- Before the first section a line that is no section header gives what it says. -/
theorem description_step (hheader : Line.section? line = none) :
    (scanner.step options line following).document.description =
      scanner.document.description ++ if scanner.hasSection then [] else descriptionOf [line] := by
  cases hsection : scanner.hasSection with
  | true =>
      rw [if_pos rfl, List.append_nil]
      refine description_step_of_ne options scanner line following fun hrole => ?_
      rw [(of_role_documentText scanner line hrole).2.2] at hsection
      exact Bool.false_ne_true hsection
  | false =>
      rw [if_neg Bool.false_ne_true]
      cases hcomment : Line.isComment line with
      | false =>
          rw [descriptionOf_not_isComment line hcomment, List.append_nil]
          refine description_step_of_ne options scanner line following fun hrole => ?_
          rw [(of_role_documentText scanner line hrole).1] at hcomment
          exact Bool.false_ne_true hcomment.symm
      | true =>
          cases htitle : Line.title? line with
          | some title =>
              rw [step_title options scanner line following title htitle,
                descriptionOf_title line title htitle, List.append_nil]
              rfl
          | none =>
              rw [step_documentText options scanner line following hcomment htitle hheader hsection,
                descriptionOf_comment line hcomment htitle]
              rfl

/-! ### The descriptions of sections -/

/-- A comment inside a run joins the last description, if that is open. -/
theorem headings_step_of_continues (h : Line.continuesRun line = true) (more : List Text) :
    headingsWith (scanner.step options line following).document.sections more =
      headingsWith scanner.document.sections
        ((if scanner.mode.describes then descriptionOf [line] else []) ++ more) := by
  rcases (Line.continuesRun_iff line).mp h with ⟨hcomment, hheader⟩
  have hstep := commentStep options scanner line following hcomment hheader
  generalize scanner.step options line following = scanner' at hstep ⊢
  cases hstep with
  | title title htitle =>
      rw [descriptionOf_title line title htitle, ite_self, List.nil_append]
      rfl
  | documentText _ hsection =>
      -- A document without sections has no headings that could be described.
      have hnil := scanner.hasSection_eq_false_iff.mp hsection
      simp only [Document.describe, hnil]
      rfl
  | sectionText htitle _ rulesOpen hmode =>
      rw [hmode, descriptionOf_comment line hcomment htitle]
      exact headingsWith_describeSection scanner.document _ more
  | ruleText _ _ hmode =>
      rw [hmode]
      rfl
  | idle _ _ _ hsettled =>
      have hclosed : scanner.mode.describes = false := by
        rw [← hsettled, Mode.describes_settled]
      rw [hclosed]
      rfl

/-- A line that is no comment leaves all headings as they are. -/
theorem headings_step_of_not_isComment (h : Line.isComment line = false) :
    (scanner.step options line following).document.sections.map Section.heading =
      scanner.document.sections.map Section.heading := by
  have hstep := bodyStep options scanner line following h
  generalize scanner.step options line following = scanner' at hstep ⊢
  cases hstep with
  | ruleHeader => exact headings_addRule scanner.document _
  | rulesStart | other | outside => rfl

/-- After a line that is no comment no description is open. -/
theorem describes_step_of_not_isComment (h : Line.isComment line = false) :
    (scanner.step options line following).mode.describes = false := by
  rw [(step_of_not_isComment options scanner line following h).1]
  split
  · rfl
  · exact Mode.describes_settled scanner.mode

end Step

/-! ### Runs -/

variable (options : ScanOptions) (scanner : Scanner) (lines : List Text)

/-- The last title line of a run gives the title. -/
theorem title_run : (scanner.run options lines).document.title =
    ((lines.filterMap Line.title?).getLast?).or scanner.document.title := by
  induction lines generalizing scanner with
  | nil => rfl
  | cons line lines ih =>
      -- The title of this line counts only if there is none below.
      rw [run, ih, title_step]
      cases htitle : Line.title? line with
      | none => rw [List.filterMap_cons_none htitle, Option.none_or]
      | some title =>
          rw [List.filterMap_cons_some htitle, List.getLast?_cons]
          cases (lines.filterMap Line.title?).getLast? <;> rfl

/-- The comments before the first section header describe the document. -/
theorem description_run : (scanner.run options lines).document.description =
    scanner.document.description ++
      if scanner.hasSection then [] else descriptionOf (beforeHeader lines) := by
  induction lines generalizing scanner with
  | nil =>
      rw [show beforeHeader [] = [] from rfl, descriptionOf_nil, ite_self, List.append_nil]
      rfl
  | cons line lines ih =>
      rw [run, ih]
      cases hheader : Line.section? line with
      | some name =>
          -- The header ends it: from here on there is a section, and both sides add nothing.
          have hopened : (scanner.step options line lines).hasSection = true := by
            rw [step_sectionHeader options scanner line lines name hheader]
            exact hasSection_concat _ _ scanner.document.sections _ _ _
          rw [beforeHeader_cons_header line lines ((Line.isHeader_iff line).mpr ⟨name, hheader⟩),
            descriptionOf_nil, ite_self, hopened, if_pos rfl, List.append_nil, List.append_nil,
            step_sectionHeader options scanner line lines name hheader]
          rfl
      | none =>
          rw [beforeHeader_cons line lines ((Line.isHeader_eq_false_iff line).mpr hheader),
            description_step options scanner line lines hheader,
            hasSection_step options scanner line lines hheader,
            descriptionOf_cons line (beforeHeader lines)]
          cases scanner.hasSection
          · exact List.append_assoc _ _ _
          · exact List.append_nil _

/-- A run adds to the last section while its description is open, and puts the sections of the
    lines behind. -/
theorem headings_run : (scanner.run options lines).document.sections.map Section.heading =
    headingsWith scanner.document.sections
        (if scanner.mode.describes then descriptionOf (lines.takeWhile Line.continuesRun) else []) ++
      headingsOf lines := by
  induction lines generalizing scanner with
  | nil =>
      rw [List.takeWhile_nil, descriptionOf_nil, ite_self, headingsWith_nil]
      exact (List.append_nil _).symm
  | cons line lines ih =>
      rw [run, ih]
      cases hheader : Line.section? line with
      | some name =>
          -- The run below the header is the description of the section that is now the last one.
          have hbreaks : Line.continuesRun line = false :=
            Line.continuesRun_eq_false_of_isHeader line ((Line.isHeader_iff line).mpr ⟨name, hheader⟩)
          rw [List.takeWhile_cons_of_neg (by rw [hbreaks]; exact Bool.false_ne_true),
            descriptionOf_nil, ite_self, headingsWith_nil,
            headingsOf_cons_header line name lines hheader,
            step_sectionHeader options scanner line lines name hheader]
          exact (congrArg (· ++ _) (headingsWith_concat _ _ _)).trans (List.append_assoc _ _ _)
      | none =>
          rw [headingsOf_cons line lines hheader]
          cases hcomment : Line.isComment line with
          | true =>
              have hcontinues : Line.continuesRun line = true :=
                (Line.continuesRun_iff line).mpr ⟨hcomment, hheader⟩
              rw [List.takeWhile_cons_of_pos hcontinues,
                headings_step_of_continues options scanner line lines hcontinues,
                (step_of_continues options scanner line lines hcontinues).1,
                descriptionOf_cons line (lines.takeWhile Line.continuesRun)]
              cases scanner.mode.describes <;> rfl
          | false =>
              have hbreaks : Line.continuesRun line = false :=
                Line.continuesRun_eq_false_of_not_isComment line hcomment
              rw [List.takeWhile_cons_of_neg (by rw [hbreaks]; exact Bool.false_ne_true),
                descriptionOf_nil, ite_self,
                describes_step_of_not_isComment options scanner line lines hcomment,
                if_neg Bool.false_ne_true, headingsWith_nil, headingsWith_nil,
                headings_step_of_not_isComment options scanner line lines hcomment]

end Scanner

/-- The heading that line `i` gives, if it opens a section. -/
theorem getElem?_withRest_heading (lines : List Text) (i : Nat) :
    ((withRest lines)[i]?.bind fun (line, rest) => (Line.section? line).map fun name =>
        (name, descriptionOf (rest.takeWhile Line.continuesRun))) =
      (headerAt? lines i).map fun name =>
        (name, descriptionOf ((lines.drop (i + 1)).takeWhile Line.continuesRun)) := by
  rw [getElem?_withRest, headerAt?]
  cases lines[i]? <;> rfl

/-- Title and descriptions are the comments that belong to them. The title is that of the last title
    line. The document is described by the comments before the first section header. A section is
    described by the run of comments right below its header. Title lines describe nothing. -/
theorem description_compile (options : ScanOptions) (source : Text) :
    (compile options source).title = (source.lines.filterMap Line.title?).getLast? ∧
    (compile options source).description =
      descriptionOf (beforeHeader source.lines) ∧
    List.Forall₂ (fun i (s : Section) => headerAt? source.lines i = some s.name ∧
        s.description =
          descriptionOf ((source.lines.drop (i + 1)).takeWhile Line.continuesRun))
      (headerLines source.lines) (compile options source).sections := by
  refine ⟨?_, Scanner.description_run options Scanner.start source.lines, ?_⟩
  · rw [compile, Scanner.title_run]
    exact Option.or_none
  · have hheadings : (compile options source).sections.map Section.heading =
        headingsOf source.lines := Scanner.headings_run options Scanner.start source.lines
    -- Headings are the same list whether they are read off the lines or off their numbers.
    have hlines := forall₂_filter_filterMap (fun i => (headerAt? source.lines i).map fun name =>
      (name, descriptionOf ((source.lines.drop (i + 1)).takeWhile Line.continuesRun)))
      (List.range source.lines.length)
    have hlength : (withRest source.lines).length = source.lines.length := by
      rw [← List.length_map Prod.fst, map_fst_withRest]
    rw [headingsOf, ← filterMap_getElem?_range, hlength] at hheadings
    simp only [getElem?_withRest_heading] at hheadings
    rw [← hheadings, List.forall₂_map_right_iff] at hlines
    simp only [Option.isSome_map] at hlines
    refine hlines.imp fun i s hs => ?_
    rw [Option.map_eq_some_iff] at hs
    rcases hs with ⟨name, hname, hheading⟩
    rw [Section.heading, Prod.mk.injEq] at hheading
    exact ⟨by rw [hname, hheading.1], hheading.2.symm⟩

end StyleGuide
