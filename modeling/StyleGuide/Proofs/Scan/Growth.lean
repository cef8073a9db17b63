import StyleGuide.Proofs.Scan.Edit
import Mathlib.Algebra.Group.Nat.Defs
import Mathlib.Algebra.Group.Prod

/-!
# Documents only grow

What one line can do to a document, and what a whole run leaves as it was.

A line makes one edit or none. An edit other than a new title adds a single element at the end of
one list: a line to the description of the document or of the last section, a section behind the
others, a rule to the last section. `Fits` says where each of them can be made. A document without
sections can be described and one with sections no longer can, while sections are described and
given rules only where there is one. Different edits that fit lead to different documents, so it can
be told from the document which one was made: its kind from the list that got longer, and what it
put there from the end of that list.

Nothing that an edit passes by changes. `Grows` says so for two documents with any number of edits
in between: all sections but the last one are as they were, the last one has kept its name and grown
at the end of its two lists, and everything new is behind it. Rules are values, so a rule that stays
in its list stays as it was, with its severity and all of its examples. The title is left out, since
a later title replaces an earlier one.

## Main definitions

* `Edit.Fits`: Where an edit can be made.
* `Edit.lengths`, `Document.lengths`: The lists that edits make longer.
* `Section.Grows`, `Document.Grows`: What has been added at the ends only.

## Theorems

* `lengths_apply`: An edit makes at most one list longer, by one element.
* `apply_inj`: The document tells which edit was made.
* `grows_of_concat`: Growing in the last section and behind it.
* `Document.Grows.refl`, `Document.Grows.trans`: Growing any number of times.
* `grows_apply`: An edit makes a document grow.
* `exists_edit_step`: A step makes an edit that fits, or leaves the document alone.
* `grows_step`, `grows_feed`: Steps make the document grow.
* `document_only_grows`: One element for each line, and nothing is changed or removed.
-/

namespace StyleGuide

/-- Where an edit can be made. -/
def Edit.Fits (document : Document) : Edit → Prop
  | .retitle _ | .openSection _ => True
  | .describe _ => document.sections = []
  | .describeSection _ | .addRule _ => document.sections ≠ []

/-- How many elements an edit adds to the description, to the sections, to the descriptions of
    sections and to the rules. -/
def Edit.lengths : Edit → Nat × Nat × Nat × Nat
  | .retitle _ => (0, 0, 0, 0)
  | .describe _ => (1, 0, 0, 0)
  | .openSection _ => (0, 1, 0, 0)
  | .describeSection _ => (0, 0, 1, 0)
  | .addRule _ => (0, 0, 0, 1)

/-- How long the description, the sections, the descriptions of sections and the rules are. -/
def Document.lengths (document : Document) : Nat × Nat × Nat × Nat :=
  (document.description.length, document.sections.length,
    (document.sections.flatMap Section.description).length,
    (document.sections.flatMap Section.rules).length)

/-- One section has become the other by additions at the ends of its lists. -/
structure Section.Grows (s s' : Section) : Prop where
  name : s'.name = s.name
  description : s.description <+: s'.description
  rules : s.rules <+: s'.rules

/-- One document has become the other by additions at its end. Titles do not count. -/
structure Document.Grows (document document' : Document) : Prop where
  description : document.description <+: document'.description
  /-- Once there is a section the document is described no further. -/
  described : document.sections ≠ [] → document'.description = document.description
  /-- All sections but the last one are finished. -/
  sections : document.sections = [] ∨ ∃ (front later : List Section) (last last' : Section),
    document.sections = front ++ [last] ∧ document'.sections = front ++ last' :: later ∧
      last.Grows last'

namespace Section

theorem Grows.refl (s : Section) : s.Grows s :=
  ⟨rfl, List.prefix_refl _, List.prefix_refl _⟩

theorem Grows.trans {s s' s'' : Section} (h : s.Grows s') (h' : s'.Grows s'') : s.Grows s'' :=
  ⟨h'.name.trans h.name, h.description.trans h'.description, h.rules.trans h'.rules⟩

end Section

namespace Document

/-- An edit that fits adds to each of the four lists what it says. -/
theorem lengths_apply (document : Document) (edit : Edit) (h : edit.Fits document) :
    (document.apply edit).lengths = document.lengths + edit.lengths := by
  cases edit with
  | retitle title => exact (add_zero document.lengths).symm
  | describe line =>
      simp only [apply, describe, lengths, Edit.lengths, List.length_append, List.length_singleton,
        Prod.mk_add_mk, Nat.add_zero]
  | openSection name =>
      simp only [apply, openSection, lengths, Edit.lengths, List.length_append,
        List.length_singleton, List.flatMap_append, List.flatMap_singleton, List.append_nil,
        Prod.mk_add_mk, Nat.add_zero]
  | describeSection line =>
      rcases (List.eq_nil_or_concat' document.sections).resolve_left h with ⟨front, last, hlast⟩
      simp only [apply, describeSection, lengths, Edit.lengths, hlast, modifyLast_concat,
        List.length_append, List.length_singleton, List.flatMap_append, List.flatMap_singleton,
        Prod.mk_add_mk, Nat.add_zero, Nat.add_assoc]
  | addRule rule =>
      rcases (List.eq_nil_or_concat' document.sections).resolve_left h with ⟨front, last, hlast⟩
      simp only [apply, addRule, lengths, Edit.lengths, hlast, modifyLast_concat,
        List.length_append, List.length_singleton, List.flatMap_append, List.flatMap_singleton,
        Prod.mk_add_mk, Nat.add_zero, Nat.add_assoc]

/-- Changes that lead to the same sections have done the same to the last one. -/
theorem exists_last_of_modifyLast_eq (f g : Section → Section) (sections : List Section)
    (hne : sections ≠ []) (h : modifyLast f sections = modifyLast g sections) :
    ∃ last : Section, f last = g last := by
  rcases (List.eq_nil_or_concat' sections).resolve_left hne with ⟨front, last, rfl⟩
  rw [modifyLast_concat, modifyLast_concat] at h
  exact ⟨last, (List.cons.inj (List.append_cancel_left h)).1⟩

/-- The document tells which edit was made. -/
theorem apply_inj (document : Document) (edit edit' : Edit) (h : edit.Fits document)
    (h' : edit'.Fits document) (hsame : document.apply edit = document.apply edit') :
    edit = edit' := by
  -- Both edits make the same list longer, so they are of one kind.
  have hlengths : edit.lengths = edit'.lengths := by
    refine add_left_cancel (?_ : document.lengths + edit.lengths = document.lengths + edit'.lengths)
    rw [← lengths_apply document edit h, ← lengths_apply document edit' h', hsame]
  cases edit with
  | retitle title =>
      cases edit' with
      | retitle title' => rw [Option.some.inj (congrArg Document.title hsame)]
      | describe | openSection | describeSection | addRule => nomatch hlengths
  | describe line =>
      cases edit' with
      | describe line' =>
          have hlines := List.append_cancel_left (congrArg Document.description hsame)
          rw [(List.cons.inj hlines).1]
      | retitle | openSection | describeSection | addRule => nomatch hlengths
  | openSection name =>
      cases edit' with
      | openSection name' =>
          have hopened := List.append_cancel_left (congrArg Document.sections hsame)
          have hname : name = name' := congrArg Section.name (List.cons.inj hopened).1
          rw [hname]
      | retitle | describe | describeSection | addRule => nomatch hlengths
  | describeSection line =>
      cases edit' with
      | describeSection line' =>
          rcases exists_last_of_modifyLast_eq _ _ document.sections h
            (congrArg Document.sections hsame) with ⟨last, hlast⟩
          have hlines := List.append_cancel_left (congrArg Section.description hlast)
          rw [(List.cons.inj hlines).1]
      | retitle | describe | openSection | addRule => nomatch hlengths
  | addRule rule =>
      cases edit' with
      | addRule rule' =>
          rcases exists_last_of_modifyLast_eq _ _ document.sections h
            (congrArg Document.sections hsame) with ⟨last, hlast⟩
          have hrules := List.append_cancel_left (congrArg Section.rules hlast)
          rw [(List.cons.inj hrules).1]
      | retitle | describe | openSection | describeSection => nomatch hlengths

/-- A document grows when it is described no further and nothing changes in front of its last
    section. -/
theorem grows_of_concat (document document' : Document)
    (hdescription : document'.description = document.description)
    (h : ∀ (front : List Section) (last : Section), document.sections = front ++ [last] →
      ∃ (last' : Section) (later : List Section),
        document'.sections = front ++ last' :: later ∧ last.Grows last') :
    document.Grows document' := by
  refine ⟨?_, fun _ => hdescription, ?_⟩
  · simp only [hdescription, List.prefix_refl]
  · rcases List.eq_nil_or_concat' document.sections with hnil | ⟨front, last, hsections⟩
    · exact Or.inl hnil
    · rcases h front last hsections with ⟨last', later, hsections', hgrows⟩
      exact Or.inr ⟨front, later, last, last', hsections, hsections', hgrows⟩

theorem Grows.refl (document : Document) : document.Grows document :=
  grows_of_concat document document rfl fun _ last hsections =>
    ⟨last, [], hsections, Section.Grows.refl last⟩

/-- A document that has sections never loses all of them. -/
theorem Grows.sections_ne_nil {document document' : Document} (h : document.Grows document')
    (hne : document.sections ≠ []) : document'.sections ≠ [] := by
  rcases h.sections with hnil | ⟨front, later, last, last', _, hsections, _⟩
  · exact absurd hnil hne
  · rw [hsections]
    exact List.append_ne_nil_of_right_ne_nil _ (List.cons_ne_nil _ _)

theorem Grows.trans {document document' document'' : Document} (h : document.Grows document')
    (h' : document'.Grows document'') : document.Grows document'' := by
  refine ⟨h.description.trans h'.description, fun hne => ?_, ?_⟩
  · rw [h'.described (h.sections_ne_nil hne), h.described hne]
  · rcases h.sections with hnil | ⟨front, later, last, last', hbefore, hbetween, hgrows⟩
    · exact Or.inl hnil
    rcases h'.sections with hnil' | ⟨front', later', next, next', hbetween', hafter, hgrows'⟩
    · rw [hbetween] at hnil'
      exact absurd hnil' (List.append_ne_nil_of_right_ne_nil _ (List.cons_ne_nil _ _))
    rw [hbetween] at hbetween'
    right
    -- The section that was the last one before may have been finished in between.
    rcases List.eq_nil_or_concat' later with rfl | ⟨others, final, rfl⟩
    · rcases List.append_inj' hbetween' rfl with ⟨rfl, hlast⟩
      rw [← (List.cons.inj hlast).1] at hgrows'
      exact ⟨front, later', last, next', hbefore, hafter, hgrows.trans hgrows'⟩
    · rw [← List.cons_append, ← List.append_assoc] at hbetween'
      rcases List.append_inj' hbetween' rfl with ⟨rfl, _⟩
      refine ⟨front, others ++ next' :: later', last, last', hbefore, ?_, hgrows⟩
      rw [hafter, List.append_assoc, List.cons_append]

/-- A change that makes the last section grow makes the document grow. -/
theorem grows_modifyLast (document : Document) (f : Section → Section)
    (hf : ∀ s : Section, s.Grows (f s)) :
    document.Grows { document with sections := modifyLast f document.sections } := by
  refine grows_of_concat _ _ rfl fun front last hsections => ⟨f last, [], ?_, hf last⟩
  simp only [hsections, modifyLast_concat]

/-- An edit makes a document grow, wherever it fits. -/
theorem grows_apply (document : Document) (edit : Edit) (h : edit.Fits document) :
    document.Grows (document.apply edit) := by
  cases edit with
  | retitle title =>
      have hsame := Grows.refl document
      exact ⟨hsame.description, hsame.described, hsame.sections⟩
  | describe line => exact ⟨List.prefix_append _ _, absurd h, Or.inl h⟩
  | openSection name =>
      refine grows_of_concat _ _ rfl fun front last hsections =>
        ⟨last, [⟨name, [], []⟩], ?_, Section.Grows.refl last⟩
      simp only [apply, openSection, hsections, List.append_assoc, List.singleton_append]
  | describeSection line =>
      exact grows_modifyLast document _ fun s =>
        ⟨rfl, List.prefix_append _ _, List.prefix_refl _⟩
  | addRule rule =>
      exact grows_modifyLast document _ fun s =>
        ⟨rfl, List.prefix_refl _, List.prefix_append _ _⟩

end Document

namespace Scanner

variable (options : ScanOptions) (scanner : Scanner)

/-- A step makes an edit that fits, or leaves the document alone. -/
theorem exists_edit_step (line : Text) (following : List Text) :
    (scanner.step options line following).document = scanner.document ∨
      ∃ edit : Edit, edit.Fits scanner.document ∧
        (scanner.step options line following).document = scanner.document.apply edit := by
  -- One case for each role of the line. The guards of a role say that its edit fits.
  cases hcomment : Line.isComment line with
  | false =>
      have hstep := bodyStep options scanner line following hcomment
      generalize scanner.step options line following = scanner' at hstep ⊢
      cases hstep with
      | ruleHeader _ _ hsection header _ =>
          exact Or.inr ⟨.addRule _, scanner.hasSection_iff.mp hsection, rfl⟩
      | rulesStart | other | outside => exact Or.inl rfl
  | true =>
      cases hheader : Line.section? line with
      | some name =>
          rw [step_sectionHeader options scanner line following name hheader]
          exact Or.inr ⟨.openSection name, trivial, rfl⟩
      | none =>
          have hstep := commentStep options scanner line following hcomment hheader
          generalize scanner.step options line following = scanner' at hstep ⊢
          cases hstep with
          | title title _ => exact Or.inr ⟨.retitle title, trivial, rfl⟩
          | documentText _ hsection =>
              exact Or.inr ⟨.describe _, scanner.hasSection_eq_false_iff.mp hsection, rfl⟩
          | sectionText _ hsection _ _ =>
              exact Or.inr ⟨.describeSection _, scanner.hasSection_iff.mp hsection, rfl⟩
          | ruleText | idle => exact Or.inl rfl

/-- A step makes the document grow. -/
theorem grows_step (line : Text) (following : List Text) :
    scanner.document.Grows (scanner.step options line following).document := by
  rcases exists_edit_step options scanner line following with hsame | ⟨edit, hfits, hedit⟩
  · rw [hsame]
    exact Document.Grows.refl scanner.document
  · rw [hedit]
    exact Document.grows_apply scanner.document edit hfits

/-- Any steps make the document grow, whatever they are shown as following. -/
theorem grows_feed (steps : List (Text × List Text)) :
    scanner.document.Grows (scanner.feed options steps).document := by
  induction steps generalizing scanner with
  | nil => exact Document.Grows.refl scanner.document
  | cons step steps ih =>
      rw [feed_cons]
      exact (grows_step options scanner step.1 step.2).trans (ih _)

/-- A document grows at its end only, by at most one element for each line. In any state a line
    leaves the document alone or makes exactly one edit, in a place where it fits. So after any
    steps, those of a run among them, the document is what it was at any earlier moment with
    additions at its end. -/
theorem document_only_grows :
    (∀ (line : Text) (following : List Text),
      (scanner.step options line following).document = scanner.document ∨
        ∃! edit : Edit, edit.Fits scanner.document ∧
          (scanner.step options line following).document = scanner.document.apply edit) ∧
    (∀ steps more : List (Text × List Text),
      (scanner.feed options steps).document.Grows
        (scanner.feed options (steps ++ more)).document) ∧
    ∀ (lines : List Text) (i j : Nat), i ≤ j →
      (scanner.feed options ((withRest lines).take i)).document.Grows
        (scanner.feed options ((withRest lines).take j)).document := by
  have hgrows : ∀ steps more : List (Text × List Text),
      (scanner.feed options steps).document.Grows
        (scanner.feed options (steps ++ more)).document := by
    intro steps more
    rw [feed_append]
    exact grows_feed options _ more
  refine ⟨fun line following => ?_, hgrows, fun lines i j hij => ?_⟩
  · rcases exists_edit_step options scanner line following with hsame | ⟨edit, hfits, hedit⟩
    · exact Or.inl hsame
    · refine Or.inr ⟨edit, ⟨hfits, hedit⟩, fun edit' hedit' => ?_⟩
      exact Document.apply_inj scanner.document edit' edit hedit'.1 hfits
        (hedit'.2.symm.trans hedit)
  · rcases List.take_prefix_take_left hij with ⟨more, hmore⟩
    rw [← hmore]
    exact hgrows _ more

end Scanner

end StyleGuide
