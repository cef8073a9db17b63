import StyleGuide.Proofs.Scan.Step
import Mathlib.Data.List.Basic

/-!
# What a line adds to the document

A step changes the document in one of five ways or not at all. An `Edit` is one such change with
everything it puts into the document, so that a property of documents needs to be looked at for
five edits and not for every way in which a line can come to make them.

Edits only ever add. Apart from the title they add at the end, of the document's description, of
its sections, or of the last section; where there is no last section, what would go there is lost.

`placedRules` is how rules are counted: in document order, each with the number of the section it
is in. A rule that is added always comes last in it, since the section it goes to is the last one,
and a new section changes nothing, being empty.

## Main definitions

* `Edit`: A change to a document.
* `Document.apply`: The document after an edit.
* `Scanner.edit?`: The edit that a line makes.
* `Document.placedRules`: The rules of a document, each with the number of its section.

## Theorems

* `modifyLast_concat`: Changing the last of some sections.
* `step_document`: What a step does to the document is the edit of its line.
* `hasSection_step`: Sections come from section headers alone.
* `map_snd_placedRules`: The placed rules are the rules of the document.
* `placedRules_addRule`: A rule that is added is the last one, in the last section.
-/

namespace StyleGuide

/-- A change to a document. -/
inductive Edit where
  | retitle (title : Text)
  | describe (line : Text)
  | openSection (name : Text)
  | describeSection (line : Text)
  | addRule (rule : Rule)
  deriving DecidableEq, Repr

namespace Document

/-- The document after an edit. -/
def apply (document : Document) : Edit → Document
  | .retitle title => document.withTitle title
  | .describe line => document.describe line
  | .openSection name => document.openSection name
  | .describeSection line => document.describeSection line
  | .addRule rule => document.addRule rule

/-- Changing the last of some sections leaves the others alone. -/
@[simp] theorem modifyLast_concat (f : Section → Section) (sections : List Section)
    (last : Section) : modifyLast f (sections ++ [last]) = sections ++ [f last] := by
  induction sections with
  | nil => rfl
  | cons first rest ih =>
      cases rest with
      | nil => rfl
      | cons next rest =>
          rw [List.cons_append, List.cons_append, modifyLast, ← List.cons_append, ih]
          rfl

/-- A change to the last section does not open or close sections. -/
theorem isEmpty_modifyLast (f : Section → Section) (sections : List Section) :
    (modifyLast f sections).isEmpty = sections.isEmpty := by
  rcases List.eq_nil_or_concat' sections with rfl | ⟨front, last, rfl⟩
  · rfl
  · rw [modifyLast_concat, List.isEmpty_eq_false_iff.mpr
      (List.append_ne_nil_of_right_ne_nil _ (List.cons_ne_nil _ _)), List.isEmpty_eq_false_iff.mpr
      (List.append_ne_nil_of_right_ne_nil _ (List.cons_ne_nil _ _))]

/-- A change that keeps a part of each section keeps the list of these parts. -/
theorem map_modifyLast {α : Type} (part : Section → α) (f : Section → Section)
    (h : ∀ s, part (f s) = part s) (sections : List Section) :
    (modifyLast f sections).map part = sections.map part := by
  rcases List.eq_nil_or_concat' sections with rfl | ⟨front, last, rfl⟩
  · rfl
  · rw [modifyLast_concat, List.map_append, List.map_append, List.map_cons, List.map_cons, h]

theorem names_describeSection (document : Document) (line : Text) :
    (document.describeSection line).sections.map Section.name =
      document.sections.map Section.name :=
  map_modifyLast Section.name (fun s => { s with description := s.description ++ [line] })
    (fun _ => rfl) document.sections

theorem names_addRule (document : Document) (rule : Rule) :
    (document.addRule rule).sections.map Section.name = document.sections.map Section.name :=
  map_modifyLast Section.name (fun s => { s with rules := s.rules ++ [rule] })
    (fun _ => rfl) document.sections

end Document

namespace Scanner

variable (options : ScanOptions) (scanner : Scanner) (line : Text) (following : List Text)

/-- The edit that a line makes. -/
def edit? : Option Edit :=
  match scanner.role line with
  | .title title => some (.retitle title)
  | .documentText => some (.describe (Line.described line))
  | .sectionHeader name => some (.openSection name)
  | .sectionText => some (.describeSection (Line.described line))
  | .ruleHeader header =>
    some (.addRule (documentRule header.name (resolveSeverity options header following)
      scanner.pending))
  | .rulesStart | .outside | .ruleText | .other => none

/-- What a step does to the document is the edit of its line. -/
theorem step_document : (scanner.step options line following).document =
    match scanner.edit? options line following with
    | some edit => scanner.document.apply edit
    | none => scanner.document := by
  rw [step, edit?]
  cases scanner.role line <;> rfl

/-- A line opens a section only if it is a section header. -/
theorem isHeader_of_edit? (name : Text)
    (h : scanner.edit? options line following = some (.openSection name)) :
    Line.section? line = some name := by
  have hrole : scanner.role line = .sectionHeader name := by
    rw [edit?] at h
    cases hr : scanner.role line <;> rw [hr] at h <;>
      simp only [Option.some.injEq, Edit.openSection.injEq, reduceCtorEq] at h
    rw [h]
  exact section?_of_role scanner line name hrole

/-- Where there is a last section, there is a section. -/
theorem hasSection_concat (title : Option Text) (description : List Text)
    (front : List Section) (last : Section) (mode : Mode) (pending : List Text) :
    (Scanner.mk ⟨title, description, front ++ [last]⟩ mode pending).hasSection = true := by
  rw [hasSection_iff]
  exact List.append_ne_nil_of_right_ne_nil _ (List.cons_ne_nil _ _)

/-- Sections come from section headers alone. -/
theorem hasSection_step (h : Line.section? line = none) :
    (scanner.step options line following).hasSection = scanner.hasSection := by
  rw [hasSection, step_document]
  cases hedit : scanner.edit? options line following with
  | none => rfl
  | some edit =>
      cases edit with
      | openSection name =>
          rw [isHeader_of_edit? options scanner line following name hedit] at h
          exact absurd h (by simp only [reduceCtorEq, not_false_eq_true])
      | retitle | describe => rfl
      | describeSection | addRule =>
          simp only [Document.apply, Document.describeSection, Document.addRule,
            Document.isEmpty_modifyLast, hasSection]

end Scanner

/-! ### Rules in their places -/

namespace Document

/-- The rules of some sections in order, each with the number of its section, counted from
    `first`. -/
def placedFrom (first : Nat) : List Section → List (Nat × Rule)
  | [] => []
  | s :: sections => s.rules.map (Prod.mk first) ++ placedFrom (first + 1) sections

/-- The rules of a document in order, each with the number of its section. -/
def placedRules (document : Document) : List (Nat × Rule) := placedFrom 0 document.sections

theorem placedFrom_append (first : Nat) (sections sections' : List Section) :
    placedFrom first (sections ++ sections') =
      placedFrom first sections ++ placedFrom (first + sections.length) sections' := by
  induction sections generalizing first with
  | nil => rfl
  | cons s sections ih =>
      rw [List.cons_append, placedFrom, placedFrom, ih, List.append_assoc, List.length_cons,
        Nat.add_assoc, Nat.add_comm 1]

/-- Without their places the placed rules are the rules of the document. -/
theorem map_snd_placedRules (document : Document) :
    document.placedRules.map Prod.snd = document.rules := by
  have hfrom : ∀ (sections : List Section) (first : Nat),
      (placedFrom first sections).map Prod.snd = sections.flatMap Section.rules := by
    intro sections
    induction sections with
    | nil => exact fun _ => rfl
    | cons s sections ih =>
        intro first
        rw [placedFrom, List.map_append, ih, List.map_map, List.flatMap_cons]
        congr 1
        exact List.map_id s.rules
  exact hfrom document.sections 0

/-- A change that leaves the rules of sections alone leaves them in place. -/
theorem placedFrom_modifyLast (f : Section → Section) (h : ∀ s, (f s).rules = s.rules)
    (first : Nat) (sections : List Section) :
    placedFrom first (modifyLast f sections) = placedFrom first sections := by
  rcases List.eq_nil_or_concat' sections with rfl | ⟨front, last, rfl⟩
  · rfl
  · simp only [modifyLast_concat, placedFrom_append, placedFrom, h]

theorem placedRules_openSection (document : Document) (name : Text) :
    (document.openSection name).placedRules = document.placedRules := by
  rw [placedRules, openSection, placedFrom_append]
  exact List.append_nil _

theorem placedRules_describeSection (document : Document) (line : Text) :
    (document.describeSection line).placedRules = document.placedRules :=
  placedFrom_modifyLast (fun s => { s with description := s.description ++ [line] })
    (fun _ => rfl) 0 document.sections

/-- A rule that is added is the last one, and it is in the last section. -/
theorem placedRules_addRule (document : Document) (rule : Rule)
    (h : document.sections ≠ []) :
    (document.addRule rule).placedRules =
      document.placedRules ++ [(document.sections.length - 1, rule)] := by
  rcases List.eq_nil_or_concat' document.sections with hnil | ⟨front, last, hsections⟩
  · exact absurd hnil h
  · have hlast : (front ++ [last]).length - 1 = front.length := by
      rw [List.length_append, List.length_singleton, Nat.add_sub_cancel]
    simp only [placedRules, addRule, hsections, modifyLast_concat, placedFrom_append, placedFrom,
      List.map_append, List.map_cons, List.map_nil, List.append_nil, List.append_assoc,
      Nat.zero_add, hlast]

end Document

end StyleGuide
