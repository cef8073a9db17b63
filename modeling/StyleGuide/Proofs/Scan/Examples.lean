import StyleGuide.Proofs.Scan.Control
import StyleGuide.Proofs.Scan.Documentation

/-!
# Taking comments apart

How the comments that wait for a rule become its description and its examples.

Every comment goes to one place. The ones that read as example headers open an example each, and all
others are kept as they are, in the description while no example is open and in the open example
after that. So the comments are the description followed by one block for each example, a block
being the header with the example's content below it. `TakenApart` says this with the headers in
sight, so that the comments can be put together again from the rule and its header lines.

There is only one way to take comments apart. The headers of the blocks have to be all the comments
that read as headers, since description and contents hold none, and where the headers are given the
rest follows.

Splitting is a recursion from the bottom, where each header finds the content of its example ready.
A pass from the top does not know yet where an example ends; it keeps the open one apart and puts it
to the others when the next header comes or the comments are over. `Sorting` is that pass. The two
come to the same because, at any moment of the pass, what is still to come goes to the open example
up to its first header, and from there on is split as if it stood alone.

## Main definitions

* `exampleLines`: The comments that open examples.
* `TakenApart`: Comments as a description and blocks.
* `Sorting`, `Sorting.sort`: The pass from the top.

## Theorems

* `TakenApart.headers_eq`: The headers are the comments that open examples.
* `TakenApart.partition`: Without its headers it is a partition.
* `takenApart_splitExamples`: The split takes comments apart.
* `finish_foldl_sort`, `finish_foldl_sort_open`: How a pass goes on from a state without and with an
  open example.
* `splitExamples_eq_finish`: The pass from the top comes to the same as the split.
* `documentRule_takenApart`: A rule header takes what waits apart, in the only way there is.
-/

namespace StyleGuide

/-- The comments that open examples. -/
def exampleLines (comments : List Text) : List Text :=
  comments.filter fun comment => (Line.exampleHeader? comment).isSome

/-- Comments taken apart: the lines of a description, and then blocks. Each block is a header and
    the example that it opens, with the lines of its content below. Nothing but the headers reads as
    a header. -/
structure TakenApart (comments description : List Text) (blocks : List (Text × Example)) :
    Prop where
  /-- Nothing is lost and nothing moves. -/
  whole : comments = description ++ blocks.flatMap fun block => block.1 :: block.2.content
  headed : ∀ block ∈ blocks, Line.exampleHeader? block.1 = some ⟨block.2.kind, block.2.label⟩
  description_plain : ∀ line ∈ description, Line.exampleHeader? line = none
  content_plain : ∀ block ∈ blocks, ∀ line ∈ block.2.content, Line.exampleHeader? line = none

theorem exampleLines_append (comments comments' : List Text) :
    exampleLines (comments ++ comments') = exampleLines comments ++ exampleLines comments' :=
  List.filter_append ..

theorem exampleLines_headed (line : Text) (lines : List Text) (header : ExampleHeader)
    (h : Line.exampleHeader? line = some header) :
    exampleLines (line :: lines) = line :: exampleLines lines :=
  List.filter_cons_of_pos (by rw [h]; rfl)

/-- Lines that do not read as headers open no examples. -/
theorem exampleLines_plain (comments : List Text)
    (h : ∀ line ∈ comments, Line.exampleHeader? line = none) : exampleLines comments = [] := by
  refine List.filter_eq_nil_iff.mpr fun line hline => ?_
  rw [h line hline]
  exact Bool.false_ne_true

namespace TakenApart

variable {comments description : List Text} {blocks : List (Text × Example)}

/-- The headers are the comments that open examples. -/
theorem headers_eq (h : TakenApart comments description blocks) :
    blocks.map Prod.fst = exampleLines comments := by
  rw [h.whole, exampleLines_append, exampleLines_plain description h.description_plain,
    List.nil_append]
  have hheaded := h.headed
  have hplain := h.content_plain
  clear h
  -- Block by block: of each one only the header counts.
  induction blocks with
  | nil => rfl
  | cons block blocks ih =>
      have hrest := ih (fun b hb => hheaded b (List.mem_cons_of_mem _ hb))
        fun b hb => hplain b (List.mem_cons_of_mem _ hb)
      rw [List.map_cons, List.flatMap_cons, List.cons_append,
        exampleLines_headed _ _ _ (hheaded block List.mem_cons_self), exampleLines_append,
        exampleLines_plain block.2.content (hplain block List.mem_cons_self), ← hrest,
        List.nil_append]

/-- With the headers left out it is a partition. -/
theorem partition (h : TakenApart comments description blocks) :
    Partition comments description (blocks.map Prod.snd) := by
  refine ⟨⟨blocks.map Prod.fst, ?_, ?_⟩, h.description_plain, ?_⟩
  · rw [List.forall₂_map_left_iff, List.forall₂_map_right_iff, List.forall₂_same]
    exact h.headed
  · rw [List.zip_map', List.map_id']
    exact h.whole
  · intro e he
    rcases List.mem_map.mp he with ⟨block, hblock, rfl⟩
    exact h.content_plain block hblock

end TakenApart

/-- The split takes comments apart. -/
theorem takenApart_splitExamples (comments : List Text) :
    TakenApart comments (splitExamples comments).1
      ((exampleLines comments).zip (splitExamples comments).2) ∧
    (exampleLines comments).length = (splitExamples comments).2.length := by
  have hsplit := partition_splitExamples comments
  rcases hsplit.regrouped with ⟨headers, hheaders, hcomments⟩
  have hapart : TakenApart comments (splitExamples comments).1
      (headers.zip (splitExamples comments).2) := by
    refine ⟨hcomments, fun block hblock => ?_, hsplit.description_plain, fun block hblock => ?_⟩
    · exact List.forall₂_zip hheaders hblock
    · exact hsplit.content_plain block.2 (List.of_mem_zip hblock).2
  have hlength := hheaders.length_eq
  have hlines : headers = exampleLines comments := by
    rw [← hapart.headers_eq, List.map_fst_zip (Nat.le_of_eq hlength)]
  rw [← hlines]
  exact ⟨hapart, hlength⟩

/-- The comments that have been sorted by a pass from the top. -/
structure Sorting where
  description : List Text
  /-- The examples that are complete. -/
  complete : List Example
  /-- The example that is still open, if there is one. -/
  current : Option Example

namespace Sorting

/-- The pass before the first comment. -/
def start : Sorting := ⟨[], [], none⟩

/-- The pass after one more comment. A header completes the open example and opens the next one. -/
def sort (sorting : Sorting) (comment : Text) : Sorting :=
  match Line.exampleHeader? comment with
  | some header =>
    { sorting with
      complete := sorting.complete ++ sorting.current.toList
      current := some ⟨header.kind, header.label, []⟩ }
  | none =>
    match sorting.current with
    | some e => { sorting with current := some { e with content := e.content ++ [comment] } }
    | none => { sorting with description := sorting.description ++ [comment] }

/-- What the pass comes to when the comments are over. -/
def finish (sorting : Sorting) : List Text × List Example :=
  (sorting.description, sorting.complete ++ sorting.current.toList)

section Pass

variable (description : List Text) (complete : List Example)

theorem sort_headed (current : Option Example) (comment : Text) (header : ExampleHeader)
    (h : Line.exampleHeader? comment = some header) :
    sort ⟨description, complete, current⟩ comment =
      ⟨description, complete ++ current.toList, some ⟨header.kind, header.label, []⟩⟩ := by
  simp only [sort, h]

theorem sort_plain (comment : Text) (h : Line.exampleHeader? comment = none) :
    sort ⟨description, complete, none⟩ comment = ⟨description ++ [comment], complete, none⟩ := by
  simp only [sort, h]

theorem sort_plain_open (e : Example) (comment : Text) (h : Line.exampleHeader? comment = none) :
    sort ⟨description, complete, some e⟩ comment =
      ⟨description, complete, some { e with content := e.content ++ [comment] }⟩ := by
  simp only [sort, h]

/-- With an example open, the comments before the next header join it. -/
theorem finish_foldl_sort_open (e : Example) (comments : List Text) :
    (comments.foldl sort ⟨description, complete, some e⟩).finish =
      (description, complete ++ { e with content := e.content ++ (splitExamples comments).1 } ::
        (splitExamples comments).2) := by
  induction comments generalizing complete e with
  | nil => rw [List.foldl_nil, splitExamples, List.append_nil]; rfl
  | cons comment comments ih =>
      rw [List.foldl_cons]
      cases hheader : Line.exampleHeader? comment with
      | some header =>
          rw [sort_headed _ _ _ _ header hheader, ih,
            splitExamples_headed comment comments header hheader, List.append_nil,
            List.append_assoc]
          rfl
      | none =>
          rw [sort_plain_open _ _ _ _ hheader, ih, splitExamples_plain comment comments hheader,
            List.append_assoc, List.singleton_append]

/-- While no example is open, they join the description. -/
theorem finish_foldl_sort (comments : List Text) :
    (comments.foldl sort ⟨description, [], none⟩).finish =
      (description ++ (splitExamples comments).1, (splitExamples comments).2) := by
  induction comments generalizing description with
  | nil => rw [List.foldl_nil, splitExamples, List.append_nil]; rfl
  | cons comment comments ih =>
      rw [List.foldl_cons]
      cases hheader : Line.exampleHeader? comment with
      | some header =>
          rw [sort_headed _ _ _ _ header hheader, finish_foldl_sort_open,
            splitExamples_headed comment comments header hheader, List.append_nil]
          rfl
      | none =>
          rw [sort_plain _ _ _ hheader, ih, splitExamples_plain comment comments hheader,
            List.append_assoc, List.singleton_append]

end Pass

end Sorting

/-- Splitting comments is a pass from the top that keeps the open example apart. -/
theorem splitExamples_eq_finish (comments : List Text) :
    splitExamples comments = (comments.foldl Sorting.sort Sorting.start).finish := by
  rw [Sorting.start, Sorting.finish_foldl_sort, List.nil_append]

/-- What waits for a rule is taken apart without loss, and in the only way there is. The rule has a
    description and one example for each comment that opens an example, in the same order. With
    these comments as headers it gives all of the comments back, in their places. A rule header
    makes this rule of what waits, puts it behind the other rules of the last section, and leaves
    nothing waiting. -/
theorem documentRule_takenApart (comments : List Text) :
    (∀ name severity : Text, ∃ (description : List Text) (examples : List Example),
      documentRule name severity comments = ⟨name, severity, description, examples⟩ ∧
      TakenApart comments description ((exampleLines comments).zip examples) ∧
      (exampleLines comments).length = examples.length ∧
      ∀ (description' : List Text) (blocks : List (Text × Example)),
        TakenApart comments description' blocks →
          description' = description ∧ blocks = (exampleLines comments).zip examples) ∧
    ∀ (options : ScanOptions) (scanner : Scanner) (line : Text) (following : List Text)
      (header : RuleHeader), scanner.pending = comments →
      scanner.role line = .ruleHeader header →
        ∃ (front : List Section) (last : Section),
          scanner.document.sections = front ++ [last] ∧
          scanner.step options line following =
            { document := { scanner.document with
                sections := front ++ [{ last with rules := last.rules ++ [documentRule header.name
                  (resolveSeverity options header following) comments] }] }
              mode := .rules
              pending := [] } := by
  refine ⟨fun name severity => ?_, fun options scanner line following header hpending hrole => ?_⟩
  · rcases takenApart_splitExamples comments with ⟨hapart, hlength⟩
    refine ⟨_, _, documentRule_eq name severity comments, hapart, hlength,
      fun description' blocks hblocks => ?_⟩
    -- Both have the same headers, and without these there is only one partition.
    rw [splitExamples_of_partition comments description' _ hblocks.partition, ← hblocks.headers_eq,
      List.zip_map', List.map_id']
    exact ⟨rfl, rfl⟩
  · rcases (Scanner.role_eq_ruleHeader_iff scanner line header).mp hrole with
      ⟨hheader, hrules, hmode, hsection⟩
    rcases Scanner.exists_modifyLast scanner
      (fun s => { s with rules := s.rules ++ [documentRule header.name
        (resolveSeverity options header following) comments] }) hsection with
      ⟨front, last, hsections, hchanged⟩
    refine ⟨front, last, hsections, ?_⟩
    rw [Scanner.step_ruleHeader options scanner line following header hheader hrules hmode hsection,
      hpending, Document.addRule, hchanged]

-- Headers that come first, stand next to each other and come last.
example : documentRule ("a" : Text) ("warn" : Text) [("valid example:" : Text),
      ("INVALID Example (Edge):" : Text), ("one" : Text), ("two" : Text),
      ("Valid example:" : Text)] =
    ⟨("a" : Text), ("warn" : Text), [], [⟨.valid, none, []⟩,
      ⟨.invalid, some ("Edge" : Text), [("one" : Text), ("two" : Text)]⟩, ⟨.valid, none, []⟩]⟩ := by
  decide

end StyleGuide
