import StyleGuide.Proofs.Scan.Outline

/-!
# How rules are documented

Which comments document a rule, and how they split into its description and its examples.

The comments are those of the run right above the rule header. A run is broken by a line that is no
comment and by a section header; title lines are part of it but say nothing about the rule. A run
that stands below a section header describes the section, and then the rule is left without
documentation.

The split is at the lines that read as example headers. It loses nothing but the wording of these
lines: `Partition` says that the comments are the lines of the description followed by each
example's lines below a line that reads as its header, and that no other line reads as one. There
is one such split for every list of comments and it is the one that is made, so a rule that is
written down with one header line for each example is read back as it was.

## Main definitions

* `Partition`: Comments are a description and examples.
* `breaksRun`: The lines that end a run of comments.

## Theorems

* `Partition.exists_header`: Each example comes from a header among the comments.
* `splitExamples_headed`, `splitExamples_plain`, `splitExamples_plain_append`: How single lines are
  sorted.
* `partition_splitExamples`: The split that is made loses nothing.
* `splitExamples_of_partition`: There is no other split.
* `documentation_compile`: Every rule is documented by the run of comments above it.
-/

namespace StyleGuide

/-- `comments` are the lines of `description`, and then for each of the examples a line that reads
    as its header with the lines of its content below. No other line reads as a header. -/
structure Partition (comments description : List Text) (examples : List Example) : Prop where
  /-- Nothing is lost and nothing moves. -/
  regrouped : ∃ headers : List Text,
    List.Forall₂ (fun header (e : Example) =>
      Line.exampleHeader? header = some ⟨e.kind, e.label⟩) headers examples ∧
    comments = description ++
      (headers.zip examples).flatMap fun (header, e) => header :: e.content
  description_plain : ∀ line ∈ description, Line.exampleHeader? line = none
  content_plain : ∀ e ∈ examples, ∀ line ∈ e.content, Line.exampleHeader? line = none

/-- Each example comes from a header among the comments, with its content below. -/
theorem Partition.exists_header (comments description : List Text) (examples : List Example)
    (h : Partition comments description examples) (e : Example) (he : e ∈ examples) :
    ∃ header : Text, Line.exampleHeader? header = some ⟨e.kind, e.label⟩ ∧
      ∀ line ∈ header :: e.content, line ∈ comments := by
  rcases h.regrouped with ⟨headers, hheaders, hcomments⟩
  have hpair : ∃ header : Text, (header, e) ∈ headers.zip examples ∧
      Line.exampleHeader? header = some ⟨e.kind, e.label⟩ := by
    clear h hcomments
    induction hheaders with
    | nil => exact absurd he List.not_mem_nil
    | @cons header e' headers examples hheader _ ih =>
        rw [List.zip_cons_cons]
        rcases List.mem_cons.mp he with rfl | he
        · exact ⟨header, List.mem_cons_self, hheader⟩
        · rcases ih he with ⟨found, hfound, hread⟩
          exact ⟨found, List.mem_cons_of_mem _ hfound, hread⟩
  rcases hpair with ⟨header, hmem, hread⟩
  refine ⟨header, hread, fun line hline => ?_⟩
  rw [hcomments]
  exact List.mem_append_right _ (List.mem_flatMap.mpr ⟨(header, e), hmem, hline⟩)

/-- A line that reads as a header opens an example, and what came before the next header in the
    lines below is its content. -/
theorem splitExamples_headed (line : Text) (lines : List Text) (header : ExampleHeader)
    (h : Line.exampleHeader? line = some header) :
    splitExamples (line :: lines) =
      ([], ⟨header.kind, header.label, (splitExamples lines).1⟩ :: (splitExamples lines).2) := by
  simp only [splitExamples, h]

theorem splitExamples_plain (line : Text) (lines : List Text)
    (h : Line.exampleHeader? line = none) :
    splitExamples (line :: lines) = (line :: (splitExamples lines).1, (splitExamples lines).2) := by
  simp only [splitExamples, h]

/-- Lines that do not read as headers come before the first header. -/
theorem splitExamples_plain_append (plain lines : List Text)
    (h : ∀ line ∈ plain, Line.exampleHeader? line = none) :
    splitExamples (plain ++ lines) =
      (plain ++ (splitExamples lines).1, (splitExamples lines).2) := by
  induction plain with
  | nil => rfl
  | cons line plain ih =>
      rw [List.cons_append, splitExamples_plain line _ (h line List.mem_cons_self),
        ih fun l hl => h l (List.mem_cons_of_mem _ hl)]
      rfl

/-- The split that is made loses nothing. -/
theorem partition_splitExamples (comments : List Text) :
    Partition comments (splitExamples comments).1 (splitExamples comments).2 := by
  induction comments with
  | nil =>
      exact ⟨⟨[], List.Forall₂.nil, rfl⟩, List.forall_mem_nil _, List.forall_mem_nil _⟩
  | cons line comments ih =>
      rcases ih.regrouped with ⟨headers, hheaders, hcomments⟩
      cases hline : Line.exampleHeader? line with
      | some header =>
          rw [splitExamples_headed line comments header hline]
          refine ⟨⟨line :: headers, List.Forall₂.cons hline hheaders, ?_⟩,
            List.forall_mem_nil _, ?_⟩
          · rw [List.zip_cons_cons, List.flatMap_cons, List.nil_append, List.cons_append,
              ← hcomments]
          · intro e he
            rcases List.mem_cons.mp he with rfl | he
            · exact ih.description_plain
            · exact ih.content_plain e he
      | none =>
          have hplain : ∀ l ∈ [line], Line.exampleHeader? l = none := by
            intro l hl
            rw [List.mem_singleton.mp hl, hline]
          rw [← List.singleton_append, splitExamples_plain_append [line] comments hplain]
          refine ⟨⟨headers, hheaders, by rw [List.append_assoc, ← hcomments]⟩, ?_,
            ih.content_plain⟩
          intro l hl
          rcases List.mem_append.mp hl with hl | hl
          · exact hplain l hl
          · exact ih.description_plain l hl

/-- There is no other split. -/
theorem splitExamples_of_partition (comments description : List Text) (examples : List Example)
    (h : Partition comments description examples) :
    splitExamples comments = (description, examples) := by
  rcases h.regrouped with ⟨headers, hheaders, rfl⟩
  -- Header by header: the lines below the first one are its content and then the other examples.
  have hexamples : splitExamples
      ((headers.zip examples).flatMap fun (header, e) => header :: e.content) = ([], examples) := by
    have hplain := h.content_plain
    clear h
    induction hheaders with
    | nil => rfl
    | @cons header e headers examples hheader _ ih =>
        have hrest := ih fun e' he' => hplain e' (List.mem_cons_of_mem _ he')
        rw [List.zip_cons_cons, List.flatMap_cons, List.cons_append,
          splitExamples_headed header _ _ hheader,
          splitExamples_plain_append e.content _ (hplain e List.mem_cons_self), hrest,
          List.append_nil]
  rw [splitExamples_plain_append description _ h.description_plain, hexamples, List.append_nil]

theorem documentRule_eq (name severity : Text) (comments : List Text) :
    documentRule name severity comments =
      ⟨name, severity, (splitExamples comments).1, (splitExamples comments).2⟩ := rfl

/-- Whether a line ends the run of comments above it: it is no comment, or a section header. -/
def breaksRun (line : Text) : Bool := !Line.isComment line || Line.isHeader line

theorem breaksRun_eq_not (line : Text) : breaksRun line = !Line.continuesRun line := by
  rw [breaksRun, Line.continuesRun, Bool.not_and, Bool.not_not]

/-- The run at the end of some lines is what stands below the last line that breaks runs. -/
theorem commentRun_append (front rest : List Text) (line : Text) (hline : breaksRun line = true)
    (hrest : ∀ l ∈ rest, breaksRun l = false) :
    commentRun (front ++ line :: rest) = rest ∧
      belowHeader (front ++ line :: rest) = Line.isHeader line := by
  rw [breaksRun_eq_not, Bool.not_eq_true'] at hline
  induction rest using List.reverseRecOn with
  | nil =>
      exact ⟨commentRun_concat_of_breaks front line hline,
        belowHeader_concat_of_breaks front line hline⟩
  | append_singleton rest l ih =>
      have hl : Line.continuesRun l = true := by
        have hbreaks := hrest l (List.mem_append_right _ (List.mem_singleton_self l))
        rwa [breaksRun_eq_not, Bool.not_eq_false'] at hbreaks
      rcases ih fun l' hl' => hrest l' (List.mem_append_left _ hl') with ⟨hrun, hbelow⟩
      rw [← List.cons_append, ← List.append_assoc, commentRun_concat_of_continues _ l hl,
        belowHeader_concat_of_continues _ l hl, hrun, hbelow]
      exact ⟨rfl, rfl⟩

/-- Every rule is documented by exactly the comments of the run above it. Let line `i` make the
    rule, and let `j` be the last line above it that breaks runs of comments. Below a section
    header the rule has neither description nor examples. Otherwise what the lines between `j` and
    `i` say, title lines left out, is the rule's description followed by its examples. -/
theorem documentation_compile (options : ScanOptions) (source : Text) :
    List.Forall₂ (fun i (rule : Rule) => ∃ j, IsLastBefore breaksRun source.lines i j ∧
        (source.lines[j]?.any Line.isHeader = true → rule.description = [] ∧ rule.examples = []) ∧
        (source.lines[j]?.any Line.isHeader = false →
          Partition (commentTexts ((source.lines.take i).drop (j + 1))) rule.description
            rule.examples))
      (ruleLines source.lines) (compile options source).rules := by
  rw [← Document.map_snd_placedRules, List.forall₂_map_right_iff]
  refine (placedRules_compile options source).imp fun i placed hplaced => ?_
  rcases hplaced with ⟨header, hheader, _, hrule⟩
  rcases headerSeen_of_ruleAt? source.lines i header hheader with ⟨hi, hseen, hrules⟩
  have hbreak : (source.lines.take i).any breaksRun = true := by
    rw [headerSeen, List.any_eq_true] at hseen
    rcases hseen with ⟨l, hl, hl'⟩
    exact List.any_eq_true.mpr ⟨l, hl, by rw [breaksRun, hl', Bool.or_true]⟩
  rcases exists_last breaksRun (source.lines.take i) hbreak with
    ⟨front, line, rest, htake, hline, hrest⟩
  have hlast := isLastBefore_of_take breaksRun source.lines front rest line i (Nat.le_of_lt hi)
    htake hline hrest
  have hget : source.lines[front.length]? = some line := by
    rw [← List.getElem?_take_of_lt hlast.1, htake, List.getElem?_append_right (Nat.le_refl _),
      Nat.sub_self, List.getElem?_cons_zero]
  have hdrop : (source.lines.take i).drop (front.length + 1) = rest := by
    rw [htake, ← List.drop_drop, List.drop_left' rfl, List.drop_one, List.tail_cons]
  rcases commentRun_append front rest line hline hrest with ⟨hrun, hbelow⟩
  rw [← htake] at hrun hbelow
  refine ⟨front.length, hlast, ?_, ?_⟩
  · intro hheaderAbove
    rw [hget, Option.any_some] at hheaderAbove
    rw [hrule, documentRule_eq, pendingAfter_of_belowHeader _ (hbelow.trans hheaderAbove)]
    exact ⟨rfl, rfl⟩
  · intro hplainAbove
    rw [hget, Option.any_some] at hplainAbove
    rw [hrule, documentRule_eq, pendingAfter_of_rules _ hseen hrules (hbelow.trans hplainAbove),
      hrun, hdrop]
    exact partition_splitExamples (commentTexts rest)

end StyleGuide
