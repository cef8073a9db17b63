import StyleGuide.Proofs.Scan.Documentation
import StyleGuide.Proofs.Text.Lines

/-!
# Well formed documents

What every compiled document has in common, whatever the ruleset was.

A document keeps traces of how rulesets are read. Names and titles have been trimmed. Lines of
descriptions of the document and of its sections end with a line break. What stands in a rule went
through the split at example headers, so none of its lines reads as a header itself. Nothing holds
a line feed, since lines do not. `Document.WellFormed` collects these conditions. There are no
others, which takes writing down any such document and is done in `Scan.Image`.

The comments that wait for a rule are not part of the document, yet what they hold ends up in it.
The invariant of a run is therefore about both, and `wellFormed_edit?` is the step from the waiting
comments to the rule they document. The edits make the rest short: putting something well formed
into a well formed document needs to be looked at once for each edit.

## Main definitions

* `Line.IsTitle`, `Line.IsBroken`, `Line.IsPlain`: What names, description lines and the lines of a
  rule's documentation look like.
* `Example.WellFormed`, `Rule.WellFormed`, `Section.WellFormed`, `Document.WellFormed`: The
  conditions on each node of the tree.
* `Edit.WellFormed`: An edit that puts something well formed into the document.
* `Scanner.WellFormed`: A state that only well formed documents come from.

## Theorems

* `wellFormed_apply`: Well formed edits keep a document well formed.
* `wellFormed_documentRule`: The rule that comments document is well formed.
* `wellFormed_edit?`: The edits that lines make are well formed.
* `wellFormed_step`, `wellFormed_run`: The invariant is kept by steps and by runs.
* `wellFormed_compile`: Compiled documents are well formed.
-/

namespace StyleGuide

namespace Line

/-- A title or the name of a section. -/
def IsTitle (text : Text) : Prop := Text.Trimmed text ∧ '\n' ∉ text

/-- What is marked on a line without line feeds is a title. -/
theorem isTitle_of_marked (marker line payload : Text) (hline : '\n' ∉ line)
    (h : ∃ rest : Text, line.trim = marker ++ rest ∧ rest.trim = payload) : IsTitle payload := by
  rcases trimmed_of_marked marker line payload h with ⟨htrimmed, hmem⟩
  exact ⟨htrimmed, fun hnl => hline (hmem _ hnl)⟩

/-- A line of the description of a document or a section. -/
def IsBroken (line : Text) : Prop := hardBreak <:+ line ∧ '\n' ∉ line

/-- A line of a rule's description or of an example. -/
def IsPlain (line : Text) : Prop := '\n' ∉ line ∧ exampleHeader? line = none

end Line

/-- An example as it can come out of a ruleset. -/
structure Example.WellFormed (e : Example) : Prop where
  label : ∀ label ∈ e.label, Line.IsLabel label
  content : ∀ line ∈ e.content, Line.IsPlain line

/-- A rule as it can come out of a ruleset. -/
structure Rule.WellFormed (rule : Rule) (options : ScanOptions) : Prop where
  name : Line.IsName rule.name
  severity : rule.severity = options.defaultSeverity ∨ Line.IsWord rule.severity
  description : ∀ line ∈ rule.description, Line.IsPlain line
  examples : ∀ e ∈ rule.examples, e.WellFormed

/-- A section as it can come out of a ruleset. -/
structure Section.WellFormed (s : Section) (options : ScanOptions) : Prop where
  name : Line.IsTitle s.name
  description : ∀ line ∈ s.description, Line.IsBroken line
  rules : ∀ rule ∈ s.rules, rule.WellFormed options

/-- A document as it can come out of a ruleset. -/
structure Document.WellFormed (document : Document) (options : ScanOptions) : Prop where
  title : ∀ title ∈ document.title, Line.IsTitle title
  description : ∀ line ∈ document.description, Line.IsBroken line
  sections : ∀ s ∈ document.sections, s.WellFormed options

/-- An edit that puts something well formed into the document. -/
def Edit.WellFormed (options : ScanOptions) : Edit → Prop
  | .retitle title => Line.IsTitle title
  | .describe line => Line.IsBroken line
  | .openSection name => Line.IsTitle name
  | .describeSection line => Line.IsBroken line
  | .addRule rule => rule.WellFormed options

/-- A state whose document is well formed and will be when the waiting comments are used up. -/
structure Scanner.WellFormed (scanner : Scanner) (options : ScanOptions) : Prop where
  document : scanner.document.WellFormed options
  pending : ∀ comment ∈ scanner.pending, '\n' ∉ comment

namespace Document

variable {options : ScanOptions} {document : Document}

theorem forall_concat {α : Type} {p : α → Prop} {l : List α} {a : α} (hl : ∀ b ∈ l, p b)
    (ha : p a) : ∀ b ∈ l ++ [a], p b := by
  intro b hb
  rcases List.mem_append.mp hb with hb | hb
  · exact hl b hb
  · rw [List.mem_singleton.mp hb]
    exact ha

/-- What holds of every section still does when the last one is changed in a way that keeps it. -/
theorem forall_modifyLast (p : Section → Prop) (f : Section → Section) (sections : List Section)
    (hsections : ∀ s ∈ sections, p s) (hf : ∀ s, p s → p (f s)) :
    ∀ s ∈ modifyLast f sections, p s := by
  rcases List.eq_nil_or_concat' sections with rfl | ⟨front, last, rfl⟩
  · exact hsections
  · rw [modifyLast_concat]
    refine forall_concat (fun s hs => hsections s (List.mem_append_left _ hs)) ?_
    exact hf last (hsections last (List.mem_append_right _ (List.mem_singleton_self last)))

/-- The document that says nothing is well formed. -/
theorem wellFormed_empty : empty.WellFormed options where
  title := fun _ htitle => absurd htitle (Option.not_mem_none _)
  description := List.forall_mem_nil _
  sections := List.forall_mem_nil _

/-- Well formed edits keep a document well formed. -/
theorem wellFormed_apply (edit : Edit) (h : document.WellFormed options)
    (hedit : edit.WellFormed options) : (document.apply edit).WellFormed options := by
  cases edit with
  | retitle title =>
      refine ⟨?_, h.description, h.sections⟩
      intro title' htitle'
      rw [← Option.some.inj htitle']
      exact hedit
  | describe line => exact ⟨h.title, forall_concat h.description hedit, h.sections⟩
  | openSection name =>
      refine ⟨h.title, h.description, forall_concat h.sections ?_⟩
      exact ⟨hedit, List.forall_mem_nil _, List.forall_mem_nil _⟩
  | describeSection line =>
      refine ⟨h.title, h.description, forall_modifyLast _ _ _ h.sections fun s hs => ?_⟩
      exact ⟨hs.name, forall_concat hs.description hedit, hs.rules⟩
  | addRule rule =>
      refine ⟨h.title, h.description, forall_modifyLast _ _ _ h.sections fun s hs => ?_⟩
      exact ⟨hs.name, hs.description, forall_concat hs.rules hedit⟩

end Document

/-! ### What lines put into a document -/

/-- The severity that a rule is given is the default or a word that was written down. -/
theorem resolveSeverity_eq_or (options : ScanOptions) (header : RuleHeader)
    (following : List Text) (h : ∀ severity ∈ header.severity, Line.IsWord severity) :
    resolveSeverity options header following = options.defaultSeverity ∨
      Line.IsWord (resolveSeverity options header following) := by
  rw [resolveSeverity]
  cases hinline : header.severity with
  | some severity => exact Or.inr (h severity hinline)
  | none =>
      simp only
      cases hnested : (following.takeWhile Line.isNested).findSome? Line.nestedSeverity? with
      | none => exact Or.inl rfl
      | some severity =>
          rcases List.exists_of_findSome?_eq_some hnested with ⟨line, _, hline⟩
          exact Or.inr (Line.isWord_of_nestedSeverity? line severity hline)

/-- The rule that comments document is well formed, if its name and severity are and the comments
    hold no line feeds. -/
theorem wellFormed_documentRule (options : ScanOptions) (name severity : Text)
    (comments : List Text) (hname : Line.IsName name)
    (hseverity : severity = options.defaultSeverity ∨ Line.IsWord severity)
    (hcomments : ∀ comment ∈ comments, '\n' ∉ comment) :
    (documentRule name severity comments).WellFormed options := by
  have hsplit := partition_splitExamples comments
  rcases hsplit.regrouped with ⟨headers, _, hregrouped⟩
  rw [documentRule_eq]
  refine ⟨hname, hseverity, fun line hline => ?_, fun e he => ?_⟩
  · refine ⟨hcomments line ?_, hsplit.description_plain line hline⟩
    rw [hregrouped]
    exact List.mem_append_left _ hline
  · rcases hsplit.exists_header comments _ _ e he with ⟨header, hheader, hmem⟩
    refine ⟨?_, fun line hline => ⟨?_, hsplit.content_plain e he line hline⟩⟩
    · exact Line.isLabel_of_exampleHeader? header _ hheader
        (hcomments header (hmem header List.mem_cons_self))
    · exact hcomments line (hmem line (List.mem_cons_of_mem _ hline))

namespace Scanner

section Step

variable (options : ScanOptions) (scanner : Scanner) (line : Text) (following : List Text)

/-- The edits that lines make are well formed. -/
theorem wellFormed_edit? (h : scanner.WellFormed options) (hline : '\n' ∉ line) :
    ∀ edit ∈ scanner.edit? options line following, edit.WellFormed options := by
  have hbroken : Line.IsBroken (Line.described line) :=
    ⟨List.suffix_append _ _, Line.newline_not_mem_described line hline⟩
  intro edit hedit
  rw [Option.mem_def, edit?] at hedit
  cases hrole : scanner.role line <;> rw [hrole] at hedit <;>
    simp only [Option.some.injEq, reduceCtorEq] at hedit
  case title title =>
      have hmarked := (Line.title?_eq_some_iff line title).mp
        (title?_of_role scanner line title hrole)
      rw [← hedit]
      exact Line.isTitle_of_marked Line.titleMarker line title hline hmarked
  case sectionHeader name =>
      have hmarked := (Line.section?_eq_some_iff line name).mp
        (section?_of_role scanner line name hrole)
      rw [← hedit]
      exact Line.isTitle_of_marked Line.sectionMarker line name hline hmarked
  case documentText =>
      rw [← hedit]
      exact hbroken
  case sectionText =>
      rw [← hedit]
      exact hbroken
  case ruleHeader header =>
      have hheader := ((role_eq_ruleHeader_iff scanner line header).mp hrole).1
      rcases Line.ruleHeader?_eq_some line header hheader with ⟨_, _, _, _, _, hname, hseverity⟩
      rw [← hedit]
      exact wellFormed_documentRule options header.name _ scanner.pending hname
        (resolveSeverity_eq_or options header following hseverity) h.pending

/-- What waits after a step has waited before or is the text of the line. -/
theorem mem_pending_step (comment : Text)
    (h : comment ∈ (scanner.step options line following).pending) :
    comment ∈ scanner.pending ∨ comment = Line.uncomment line := by
  rw [step] at h
  cases hrole : scanner.role line <;> rw [hrole] at h
  case title | documentText | sectionText | outside => exact Or.inl h
  case ruleText =>
      rcases List.mem_append.mp h with h | h
      · exact Or.inl h
      · exact Or.inr (List.mem_singleton.mp h)
  all_goals exact absurd h List.not_mem_nil

/-- A line without line feeds keeps the state well formed. -/
theorem wellFormed_step (h : scanner.WellFormed options) (hline : '\n' ∉ line) :
    (scanner.step options line following).WellFormed options := by
  refine ⟨?_, fun comment hcomment => ?_⟩
  · rw [step_document]
    have hedits := wellFormed_edit? options scanner line following h hline
    cases hedit : scanner.edit? options line following with
    | none => exact h.document
    | some edit => exact Document.wellFormed_apply edit h.document (hedits edit hedit)
  · rcases mem_pending_step options scanner line following comment hcomment with hold | rfl
    · exact h.pending comment hold
    · exact Line.newline_not_mem_uncomment line hline

end Step

/-- Lines without line feeds keep the state well formed. -/
theorem wellFormed_run (options : ScanOptions) (scanner : Scanner) (lines : List Text)
    (h : scanner.WellFormed options) (hlines : ∀ line ∈ lines, '\n' ∉ line) :
    (scanner.run options lines).WellFormed options := by
  induction lines generalizing scanner with
  | nil => exact h
  | cons line lines ih =>
      rw [run]
      have hstep := wellFormed_step options scanner line lines h (hlines line List.mem_cons_self)
      exact ih _ hstep fun l hl => hlines l (List.mem_cons_of_mem _ hl)

end Scanner

/-- Compiled documents are well formed. -/
theorem wellFormed_compile (options : ScanOptions) (source : Text) :
    (compile options source).WellFormed options := by
  have hstart : Scanner.start.WellFormed options :=
    ⟨Document.wellFormed_empty, List.forall_mem_nil _⟩
  have hrun := Scanner.wellFormed_run options Scanner.start source.lines hstart fun line hline =>
    Text.newline_not_mem_of_mem_lines source line hline
  exact hrun.document

end StyleGuide
