import StyleGuide.Proofs.Line.Written
import StyleGuide.Proofs.Scan.WellFormed

/-!
# Every well formed document is compiled

The documents that rulesets compile to are the well formed ones, all of them. Compiled documents
are well formed; here every well formed document is written down as a ruleset that compiles to it.

The difficulty is text that could be mistaken for structure. Comments may say anything, also what a
marker says, so they are written with a tab behind the `#`. A rule may be called `rules`, so its
header is written with a space in front of the colon. A severity that is not a word can only be the
default one, which is what a rule without severity gets unless an indented line below its header
gives another; an empty line is written below each rule, and no line below that is looked at. The
comments of a rule need nothing of the kind: their lines are taken apart at example headers, and in
a well formed rule only those that are written as headers read as such.

Every level of the tree is written as a list of items, one after another. `run_flatMap` is the
induction for all of them: it takes what writing one item does to the state that holds the items
before it.

## Main definitions

* `Rule.comments`: What the comments above a rule say.
* `Rule.written`, `Section.written`, `Document.written`: Lines that compile to the node.

## Theorems

* `documentRule_comments`: A well formed rule is what its comments document.
* `run_flatMap`, `run_map`: Items that are written one after another add up.
* `run_rule`, `run_section`, `run_sections`: What is written down is read back.
* `compile_written`: Compiling a written document gives the document.
* `exists_compile_eq_iff`: A document is compiled from some ruleset just when it is well formed.
-/

namespace StyleGuide

/-! ### Writing documents -/

/-- What the comments above a rule say. -/
def Rule.comments (rule : Rule) : List Text :=
  rule.description ++
    rule.examples.flatMap fun e => Line.exampleText e.kind e.label :: e.content

/-- The header of a rule, with the severity left out where it is the default. -/
def Rule.header (rule : Rule) (options : ScanOptions) : Text :=
  Line.spacedHeader rule.name
    (if rule.severity = options.defaultSeverity then [] else ' ' :: rule.severity)

/-- Lines that compile to a rule. -/
def Rule.written (rule : Rule) (options : ScanOptions) : List Text :=
  rule.comments.map Line.commentLine ++ [rule.header options, []]

/-- Lines that compile to a section. -/
def Section.written (s : Section) (options : ScanOptions) : List Text :=
  Line.sectionLine s.name :: (s.description.map Line.descriptionLine ++
    Line.rulesMarker :: s.rules.flatMap fun rule => rule.written options)

/-- Lines that compile to a document. -/
def Document.written (document : Document) (options : ScanOptions) : List Text :=
  document.title.toList.map Line.titleLine ++
    (document.description.map Line.descriptionLine ++
      document.sections.flatMap fun s => s.written options)

/-! ### Rules that are read back -/

/-- A well formed rule is what its comments document. -/
theorem documentRule_comments (rule : Rule) (options : ScanOptions) (h : rule.WellFormed options) :
    documentRule rule.name rule.severity rule.comments = rule := by
  have hsplit : Partition rule.comments rule.description rule.examples := by
    refine ⟨⟨rule.examples.map fun e => Line.exampleText e.kind e.label, ?_, ?_⟩,
      fun line hline => (h.description line hline).2,
      fun e he line hline => ((h.examples e he).content line hline).2⟩
    · rw [List.forall₂_map_left_iff, List.forall₂_same]
      exact fun e he => Line.exampleHeader?_exampleText e.kind e.label (h.examples e he).label
    · rw [Rule.comments, List.zip_map_left, List.flatMap_map]
      congr 1
      induction rule.examples with
      | nil => rfl
      | cons e examples ih =>
          rw [List.zip_cons_cons, List.flatMap_cons, List.flatMap_cons, ih]
          rfl
  rw [documentRule_eq, splitExamples_of_partition _ _ _ hsplit]

/-- The header of a well formed rule is read back, above an empty line. -/
theorem exists_header (rule : Rule) (options : ScanOptions) (h : rule.WellFormed options)
    (rest : List Text) :
    ∃ header : RuleHeader, Line.ruleHeader? (rule.header options) = some header ∧
      header.name = rule.name ∧ resolveSeverity options header ([] :: rest) = rule.severity := by
  by_cases hdefault : rule.severity = options.defaultSeverity
  · have hheader := Line.ruleHeader?_spacedHeader rule.name [] [] h.name rfl
    refine ⟨⟨rule.name, none⟩, ?_, rfl, hdefault.symm⟩
    rw [Rule.header, if_pos hdefault, hheader]
    rfl
  · -- Not being the default one, the severity is a word.
    have hword : Line.IsWord rule.severity := h.severity.resolve_left hdefault
    have hheader := Line.ruleHeader?_spacedHeader rule.name _ _ h.name
      (Line.loneWord?_spaced rule.severity hword)
    rw [if_neg (fun hempty => hword.1 (List.isEmpty_iff.mp hempty))] at hheader
    refine ⟨⟨rule.name, some rule.severity⟩, ?_, rfl, rfl⟩
    rw [Rule.header, if_neg hdefault, hheader]

/-! ### Runs over what is written -/

namespace Scanner

variable (options : ScanOptions)

/-- Items that are written one after another add up, if writing one more of them takes the state
    that holds some to the state that holds one more. -/
theorem run_flatMap {α : Type} (write : α → List Text) (state : List α → Scanner)
    (items : List α) (hitem : ∀ item ∈ items, ∀ (done : List α) (rest : List Text),
      (state done).run options (write item ++ rest) = (state (done ++ [item])).run options rest)
    (done : List α) (rest : List Text) :
    (state done).run options (items.flatMap write ++ rest) =
      (state (done ++ items)).run options rest := by
  induction items generalizing done with
  | nil => rw [List.flatMap_nil, List.nil_append, List.append_nil]
  | cons item items ih =>
      have hrest := ih (fun other hother => hitem other (List.mem_cons_of_mem _ hother))
        (done ++ [item])
      rw [List.flatMap_cons, List.append_assoc, hitem item List.mem_cons_self, hrest,
        List.append_assoc, List.singleton_append]

/-- The same for items of one line each. -/
theorem run_map {α : Type} (write : α → Text) (state : List α → Scanner) (items : List α)
    (hitem : ∀ item ∈ items, ∀ (done : List α) (following : List Text),
      (state done).step options (write item) following = state (done ++ [item]))
    (done : List α) (rest : List Text) :
    (state done).run options (items.map write ++ rest) =
      (state (done ++ items)).run options rest := by
  rw [List.map_eq_flatMap]
  refine run_flatMap options (fun item => [write item]) state items ?_ done rest
  intro item hmem done rest
  rw [List.singleton_append, run, hitem item hmem]

/-- The header of a well formed rule makes the rule, and the empty line below it changes nothing
    more. -/
theorem run_header (rule : Rule) (h : rule.WellFormed options) (document : Document)
    (pending : List Text) (hsection : (Scanner.mk document .rules pending).hasSection = true)
    (rest : List Text) :
    (Scanner.mk document .rules pending).run options (rule.header options :: [] :: rest) =
      (Scanner.mk (document.addRule (documentRule rule.name rule.severity pending)) .rules
        []).run options rest := by
  rcases exists_header rule options h rest with ⟨header, hheader, hname, hseverity⟩
  have hrules : Line.startsRules (rule.header options) = false :=
    Line.startsRules_spacedHeader rule.name _ h.name
  have hstep := step_ruleHeader options _ _ ([] :: rest) header hheader hrules
    (show (Scanner.mk document .rules pending).mode.settled = .rules from rfl) hsection
  have hsection' : (Scanner.mk (document.addRule (documentRule rule.name rule.severity pending))
      .rules []).hasSection = true := by
    rw [hasSection, Document.addRule, Document.isEmpty_modifyLast]
    exact hsection
  rw [run, hstep, hname, hseverity, run,
    step_other options _ [] rest rfl rfl rfl rfl hsection']

/-- A rule that is written down is read back. -/
theorem run_rule (rule : Rule) (h : rule.WellFormed options) (document : Document)
    (hsection : (Scanner.mk document .rules []).hasSection = true) (rest : List Text) :
    (Scanner.mk document .rules []).run options (rule.written options ++ rest) =
      (Scanner.mk (document.addRule rule) .rules []).run options rest := by
  have hstep : ∀ comment ∈ rule.comments, ∀ done following : List Text,
      (Scanner.mk document .rules done).step options (Line.commentLine comment) following =
        Scanner.mk document .rules (done ++ [comment]) := by
    intro comment _ done following
    rw [step_ruleText options ⟨document, .rules, done⟩ _ following
      (Line.isComment_commentLine comment) (Line.title?_commentLine comment)
      (Line.section?_commentLine comment) hsection rfl, Line.uncomment_commentLine]
  have hcomments := run_map options Line.commentLine (Scanner.mk document .rules) rule.comments
    hstep []
  rw [Rule.written, List.append_assoc, hcomments, List.nil_append, List.cons_append,
    List.singleton_append, run_header options rule h document rule.comments hsection,
    documentRule_comments rule options h]

/-- A section that is written down is read back, whether or not a rules block is open above it. -/
theorem run_section (s : Section) (h : s.WellFormed options) (title : Option Text)
    (description : List Text) (front : List Section) (mode : Mode) (rest : List Text) :
    (Scanner.mk ⟨title, description, front⟩ mode []).run options (s.written options ++ rest) =
      (Scanner.mk ⟨title, description, front ++ [s]⟩ .rules []).run options rest := by
  have hheader := step_sectionHeader options ⟨⟨title, description, front⟩, mode, []⟩
    (Line.sectionLine s.name)
  -- In the run of comments below the header the section has its description so far.
  have hline : ∀ line ∈ s.description, ∀ done following : List Text,
      (Scanner.mk ⟨title, description, front ++ [⟨s.name, done, []⟩]⟩
          (.describing mode.rulesOpen) []).step options (Line.descriptionLine line) following =
        Scanner.mk ⟨title, description, front ++ [⟨s.name, done ++ [line], []⟩]⟩
          (.describing mode.rulesOpen) [] := by
    intro line hline done following
    rw [step_sectionText options _ (Line.descriptionLine line) following
      (Line.isComment_commentLine _) (Line.title?_commentLine _) (Line.section?_commentLine _)
      (hasSection_concat title description front _ _ _) _ rfl,
      Line.described_descriptionLine line (h.description line hline).1,
      Document.describeSection, Document.modifyLast_concat]
  have hdescription := run_map options Line.descriptionLine
    (fun done => ⟨⟨title, description, front ++ [⟨s.name, done, []⟩]⟩,
      .describing mode.rulesOpen, []⟩) s.description hline []
  -- In the rules block it has all of its description, and its rules so far.
  have hrule : ∀ rule ∈ s.rules, ∀ (done : List Rule) (rest : List Text),
      (Scanner.mk ⟨title, description, front ++ [⟨s.name, s.description, done⟩]⟩ .rules []).run
          options (rule.written options ++ rest) =
        (Scanner.mk ⟨title, description, front ++ [⟨s.name, s.description, done ++ [rule]⟩]⟩
          .rules []).run options rest := by
    intro rule hmem done rest
    rw [run_rule options rule (h.rules rule hmem) _
      (hasSection_concat title description front _ _ _), Document.addRule,
      Document.modifyLast_concat]
  have hrules := run_flatMap options (fun rule => rule.written options)
    (fun done => ⟨⟨title, description, front ++ [⟨s.name, s.description, done⟩]⟩, .rules, []⟩)
    s.rules hrule []
  rw [Section.written, List.cons_append, List.append_assoc, List.cons_append, run,
    hheader _ s.name (Line.section?_sectionLine s.name h.name.1), Document.openSection,
    hdescription, List.nil_append, run, step_rulesStart options _ _ _ rfl, hrules, List.nil_append]

/-- Sections that are written down are read back. -/
theorem run_sections (sections : List Section)
    (h : ∀ s ∈ sections, s.WellFormed options) (title : Option Text) (description : List Text)
    (front : List Section) (mode : Mode) :
    ((Scanner.mk ⟨title, description, front⟩ mode []).run options
      (sections.flatMap fun s => s.written options)).document =
        ⟨title, description, front ++ sections⟩ := by
  induction sections generalizing front mode with
  | nil => rw [List.flatMap_nil, run, List.append_nil]
  | cons s sections ih =>
      have hrest := ih (fun other hother => h other (List.mem_cons_of_mem _ hother))
        (front ++ [s]) .rules
      rw [List.flatMap_cons, run_section options s (h s List.mem_cons_self), hrest,
        List.append_assoc, List.singleton_append]

/-- A document that is written down is read back. -/
theorem run_document (document : Document) (h : document.WellFormed options) :
    (start.run options (document.written options)).document = document := by
  have htitle : ∀ rest : List Text,
      start.run options (document.title.toList.map Line.titleLine ++ rest) =
        (Scanner.mk ⟨document.title, [], []⟩ .preSection []).run options rest := by
    intro rest
    cases hcase : document.title with
    | none => rfl
    | some title =>
        rw [Option.toList_some, List.map_singleton, List.singleton_append, run,
          step_title options start _ rest title
            (Line.title?_titleLine title (h.title title hcase).1)]
        rfl
  have hline : ∀ line ∈ document.description, ∀ done following : List Text,
      (Scanner.mk ⟨document.title, done, []⟩ .preSection []).step options
          (Line.descriptionLine line) following =
        Scanner.mk ⟨document.title, done ++ [line], []⟩ .preSection [] := by
    intro line hline done following
    rw [step_documentText options _ (Line.descriptionLine line) following
      (Line.isComment_commentLine _) (Line.title?_commentLine _) (Line.section?_commentLine _) rfl,
      Line.described_descriptionLine line (h.description line hline).1, Document.describe]
  have hdescription := run_map options Line.descriptionLine
    (fun done => ⟨⟨document.title, done, []⟩, .preSection, []⟩) document.description hline []
  rw [Document.written, htitle, hdescription, List.nil_append,
    run_sections options document.sections h.sections, List.nil_append]

end Scanner

/-! ### The text of a written document -/

theorem Line.newline_not_mem_commentLine (text : Text) (h : '\n' ∉ text) :
    '\n' ∉ commentLine text := by
  rw [commentLine, List.mem_cons, List.mem_cons, not_or, not_or]
  exact ⟨by decide, by decide, h⟩

theorem Line.newline_not_mem_descriptionLine (line : Text) (h : '\n' ∉ line) :
    '\n' ∉ descriptionLine line := by
  refine newline_not_mem_commentLine _ fun hmem => h ?_
  rw [List.rdrop] at hmem
  exact List.mem_of_mem_take hmem

theorem Line.newline_not_mem_exampleText (kind : ExampleKind) (label : Option Text)
    (h : ∀ l ∈ label, IsLabel l) : '\n' ∉ exampleText kind label := by
  have hkeyword : '\n' ∉ kind.keyword := by cases kind <;> decide
  cases label with
  | none =>
      rw [exampleText, List.mem_append, not_or]
      exact ⟨hkeyword, by decide⟩
  | some label =>
      rw [exampleText, List.mem_append, List.mem_append, List.mem_append, not_or, not_or, not_or]
      exact ⟨hkeyword, by decide, (h label rfl).2.2, by decide⟩

/-- A marked line holds no line feed if what it marks does not. -/
theorem Line.newline_not_mem_marked (marker text : Text) (hmarker : '\n' ∉ marker)
    (h : '\n' ∉ text) : '\n' ∉ marker ++ ' ' :: text := by
  rw [List.mem_append, List.mem_cons, not_or, not_or]
  exact ⟨hmarker, by decide, h⟩

theorem newline_not_mem_header (rule : Rule) (options : ScanOptions) (h : rule.WellFormed options) :
    '\n' ∉ rule.header options := by
  have hname : '\n' ∉ rule.name := fun hmem => absurd (h.name.2 '\n' hmem) (by decide)
  have hvalue : '\n' ∉ (if rule.severity = options.defaultSeverity then []
      else ' ' :: rule.severity) := by
    by_cases hdefault : rule.severity = options.defaultSeverity
    · rw [if_pos hdefault]
      exact List.not_mem_nil
    · have hword := h.severity.resolve_left hdefault
      rw [if_neg hdefault, List.mem_cons, not_or]
      exact ⟨by decide, fun hmem => absurd (hword.2 '\n' hmem) (by decide)⟩
  rw [Rule.header, Line.spacedHeader]
  simp only [List.mem_cons, List.mem_append, not_or]
  exact ⟨by decide, by decide, hname, by decide, by decide, hvalue⟩

/-- The lines of a rule hold no line feeds. -/
theorem newline_not_mem_rule (rule : Rule) (options : ScanOptions) (h : rule.WellFormed options) :
    ∀ line ∈ rule.written options, '\n' ∉ line := by
  have hcomments : ∀ comment ∈ rule.comments, '\n' ∉ comment := by
    intro comment hcomment
    rcases List.mem_append.mp hcomment with hcomment | hcomment
    · exact (h.description comment hcomment).1
    · rcases List.mem_flatMap.mp hcomment with ⟨e, he, hcomment⟩
      rcases List.mem_cons.mp hcomment with rfl | hcomment
      · exact Line.newline_not_mem_exampleText e.kind e.label (h.examples e he).label
      · exact ((h.examples e he).content comment hcomment).1
  intro line hline
  rcases List.mem_append.mp hline with hline | hline
  · rcases List.mem_map.mp hline with ⟨comment, hcomment, rfl⟩
    exact Line.newline_not_mem_commentLine comment (hcomments comment hcomment)
  · rw [List.mem_cons, List.mem_singleton] at hline
    rcases hline with rfl | rfl
    · exact newline_not_mem_header rule options h
    · exact List.not_mem_nil

/-- The lines of a description hold no line feeds. -/
theorem newline_not_mem_description (description : List Text)
    (h : ∀ line ∈ description, Line.IsBroken line) :
    ∀ line ∈ description.map Line.descriptionLine, '\n' ∉ line := by
  intro line hline
  rcases List.mem_map.mp hline with ⟨text, htext, rfl⟩
  exact Line.newline_not_mem_descriptionLine text (h text htext).2

/-- The lines of a section hold no line feeds. -/
theorem newline_not_mem_section (s : Section) (options : ScanOptions) (h : s.WellFormed options) :
    ∀ line ∈ s.written options, '\n' ∉ line := by
  intro line hline
  rw [Section.written, List.mem_cons, List.mem_append, List.mem_cons, List.mem_flatMap] at hline
  rcases hline with rfl | hline | rfl | ⟨rule, hrule, hline⟩
  · exact Line.newline_not_mem_marked Line.sectionMarker s.name (by decide) h.name.2
  · exact newline_not_mem_description s.description h.description line hline
  · decide
  · exact newline_not_mem_rule rule options (h.rules rule hrule) line hline

/-- The lines of a document hold no line feeds. -/
theorem newline_not_mem_written (document : Document) (options : ScanOptions)
    (h : document.WellFormed options) : ∀ line ∈ document.written options, '\n' ∉ line := by
  intro line hline
  rw [Document.written, List.mem_append, List.mem_append, List.mem_flatMap] at hline
  rcases hline with hline | hline | ⟨s, hs, hline⟩
  · rcases List.mem_map.mp hline with ⟨title, htitle, rfl⟩
    have hmem := h.title title (Option.mem_toList.mp htitle)
    exact Line.newline_not_mem_marked Line.titleMarker title (by decide) hmem.2
  · exact newline_not_mem_description document.description h.description line hline
  · exact newline_not_mem_section s options (h.sections s hs) line hline

/-- Compiling a written document gives the document. -/
theorem compile_written (options : ScanOptions) (document : Document)
    (h : document.WellFormed options) :
    compile options (Text.ofLines (document.written options)) = document := by
  rw [compile, Text.lines_ofLines _ (newline_not_mem_written document options h),
    Scanner.run_document options document h]

/-- The documents that rulesets compile to are the well formed ones. -/
theorem exists_compile_eq_iff (options : ScanOptions) (document : Document) :
    (∃ source : Text, compile options source = document) ↔ document.WellFormed options := by
  constructor
  · rintro ⟨source, rfl⟩
    exact wellFormed_compile options source
  · intro h
    exact ⟨Text.ofLines (document.written options), compile_written options document h⟩

end StyleGuide
