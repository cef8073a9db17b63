import StyleGuide.Format.Markdown
import StyleGuide.Proofs.Text.Pieces
import StyleGuide.Proofs.Text.Trim
import Mathlib.Data.List.Flatten

/-!
# Guides put together from sections

What the layout in blocks promises about the text that comes out.

Every block of a section or a rule closes with a ruler and an empty line, whatever it holds: a
section without rules, a rule without examples, text that is nothing but white space. The ruler is
what the trimming of the whole output stops at, and the empty line is what the line feed at the end
stands for. So nothing that was laid out is lost, and a guide is made of its sections in the way the
list of sections is made of its parts.

Above a ruler there always is an empty line. Markdown would otherwise read the line above as a
heading.

## Main definitions

* `Text.ended`: Lines with a line feed behind each.
* `Text.HasLines`: Lines that stand whole and in order in a text.
* `closing`: The lines that close a block.
* `Rule.captured`, `Section.captured`, `Document.captured`: The lines that come from the ruleset as
  they were written.

## Theorems

* `closing_suffix_documentLines`: A document with sections closes like its last block.
* `render_eq_ended`: So every line that was laid out is ended by a line feed.
* `captured_sublist`: The lines from the ruleset are laid out in document order.
* `render_composes`: The guide of a document with sections, and of two lists of sections.
-/

namespace StyleGuide

namespace Text

/-- A text of lines, each of them ended by a line feed. -/
def ended (lines : List Text) : Text := lines.flatMap (· ++ ['\n'])

theorem ended_append (above below : List Text) :
    ended (above ++ below) = ended above ++ ended below :=
  List.flatMap_append

theorem ended_cons (line : Text) (lines : List Text) :
    ended (line :: lines) = line ++ '\n' :: ended lines := by
  rw [ended, List.flatMap_cons, List.append_assoc, List.singleton_append, ended]

/-- Lines that stand whole and in the given order in a text. There may be more text above, between
    and below them, but each begins where the text begins or behind a line feed, and is ended by
    one. -/
inductive HasLines : List Text → Text → Prop
  | nil (text : Text) : HasLines [] text
  | skip (other : Text) {lines : List Text} {text : Text} (h : HasLines lines text) :
      HasLines lines (other ++ '\n' :: text)
  | cons (line : Text) {lines : List Text} {text : Text} (h : HasLines lines text) :
      HasLines (line :: lines) (line ++ '\n' :: text)

/-- Some of the lines of a text stand whole and in order in it. -/
theorem hasLines_of_sublist (part whole : List Text) (h : part.Sublist whole) :
    HasLines part (ended whole) := by
  induction h with
  | slnil => exact HasLines.nil _
  | cons other _ ih =>
      rw [ended_cons]
      exact HasLines.skip other ih
  | cons_cons line _ ih =>
      rw [ended_cons]
      exact HasLines.cons line ih

end Text

/-- The lines of a rule that come from the ruleset as they were written. -/
def Rule.captured (rule : Rule) : List Text :=
  rule.description ++ rule.examples.flatMap Example.content

/-- The lines of a section that come from the ruleset as they were written. -/
def Section.captured (s : Section) : List Text :=
  s.description ++ s.rules.flatMap Rule.captured

/-- The lines of a document that come from the ruleset as they were written. -/
def Document.captured (document : Document) : List Text :=
  document.description ++ document.sections.flatMap Section.captured

namespace Markdown

/-- The lines that close a block. -/
def closing : List Text := [emptyLine, ruler, emptyLine]

/-! ### How blocks end -/

/-- Blocks behind a front end as it does, if each of them does. -/
theorem suffix_append_flatMap {α : Type} (ending front : List Text) (block : α → List Text)
    (parts : List α) (hfront : ending <:+ front) (h : ∀ part, ending <:+ block part) :
    ending <:+ front ++ parts.flatMap block := by
  induction parts generalizing front with
  | nil => rwa [List.flatMap_nil, List.append_nil]
  | cons part parts ih =>
      rw [List.flatMap_cons, ← List.append_assoc]
      exact ih (front ++ block part) ((h part).trans (List.suffix_append _ _))

/-- A rule closes with a ruler, also without examples. -/
theorem closing_suffix_ruleLines (palette : Palette) (rule : Rule) :
    closing <:+ ruleLines palette rule := by
  have hempty : [emptyLine] <:+
      (["### " ++ rule.name, "#### Severity: " ++ palette.tag rule.severity, emptyLine]
        ++ rule.description ++ [emptyLine]) ++ rule.examples.flatMap exampleLines :=
    suffix_append_flatMap [emptyLine] _ exampleLines rule.examples (List.suffix_append _ _)
      fun e => List.suffix_append (exampleHeading e :: e.content) [emptyLine]
  rcases hempty with ⟨front, hfront⟩
  refine ⟨front, ?_⟩
  rw [ruleLines, ← hfront, List.append_assoc]
  rfl

/-- A section closes with a ruler, also without rules. -/
theorem closing_suffix_sectionLines (palette : Palette) (s : Section) :
    closing <:+ sectionLines palette s :=
  suffix_append_flatMap closing _ (ruleLines palette) s.rules (List.suffix_append _ _)
    (closing_suffix_ruleLines palette)

/-- A document with sections closes like its last block. -/
theorem closing_suffix_documentLines (palette : Palette) (document : Document)
    (h : document.sections ≠ []) : closing <:+ documentLines palette document := by
  rw [documentLines]
  cases hsections : document.sections with
  | nil => exact absurd hsections h
  | cons s sections =>
      rw [List.flatMap_cons, ← List.append_assoc]
      exact suffix_append_flatMap closing _ (sectionLines palette) sections
        ((closing_suffix_sectionLines palette s).trans (List.suffix_append _ _))
        (closing_suffix_sectionLines palette)

/-! ### What is rendered -/

/-- Joined lines with an empty one at the end are the others with a line feed behind each. -/
theorem joinWith_eq_ended (lines : List Text) :
    Text.joinWith "\n" (lines ++ [emptyLine]) = Text.ended lines :=
  Text.joinWith_append_nil _ lines

/-- Joined lines that close with a ruler lose nothing when they are trimmed and ended. -/
theorem trimEnd_joinWith (front : List Text) :
    Text.trimEnd (Text.joinWith "\n" (front ++ closing)) ++ "\n" =
      Text.ended (front ++ [emptyLine, ruler]) := by
  have hlines : front ++ closing = (front ++ [emptyLine, ruler]) ++ [emptyLine] := by
    rw [List.append_assoc]
    rfl
  have hruler : Text.ended (front ++ [emptyLine, ruler]) =
      (Text.ended front ++ "\n--") ++ '-' :: ['\n'] := by
    rw [Text.ended_append, List.append_assoc]
    rfl
  rw [hlines, joinWith_eq_ended, hruler,
    -- Trimming stops at the last character of the ruler.
    Text.trimEnd_append_cons_of_not_blank _ ['\n'] '-' (by decide), List.append_assoc]
  rfl

/-- Every line of a document with sections is ended by a line feed, and the empty line at the end
    stands for the end of the guide. -/
theorem render_eq_ended (palette : Palette) (document : Document) (h : document.sections ≠ []) :
    ∃ front : List Text,
      documentLines palette document = (front ++ [emptyLine, ruler]) ++ [emptyLine] ∧
      render palette document = Text.ended (front ++ [emptyLine, ruler]) := by
  rcases closing_suffix_documentLines palette document h with ⟨front, hfront⟩
  refine ⟨front, ?_, ?_⟩
  · rw [← hfront, List.append_assoc]
    rfl
  · rw [render, ← hfront, trimEnd_joinWith]

/-- The text of a document with sections is made of all its lines. -/
theorem render_eq_joinWith (palette : Palette) (document : Document) (h : document.sections ≠ []) :
    render palette document = Text.joinWith "\n" (documentLines palette document) := by
  rcases render_eq_ended palette document h with ⟨front, hlines, hrender⟩
  rw [hrender, hlines, joinWith_eq_ended]

/-! ### What stands in it -/

/-- Texts that are laid out in blocks are laid out in order, with something behind the last of them
    if there is something behind each. -/
theorem append_flatMap_sublist {α : Type} (ending texts front : List Text)
    (captured block : α → List Text) (parts : List α) (hfront : (texts ++ ending).Sublist front)
    (h : ∀ part, (captured part ++ ending).Sublist (block part)) :
    (texts ++ parts.flatMap captured ++ ending).Sublist (front ++ parts.flatMap block) := by
  induction parts generalizing texts front with
  | nil => rwa [List.flatMap_nil, List.flatMap_nil, List.append_nil, List.append_nil]
  | cons part parts ih =>
      rw [List.flatMap_cons, List.flatMap_cons, ← List.append_assoc, ← List.append_assoc]
      refine ih (texts ++ captured part) (front ++ block part) ?_
      rw [List.append_assoc]
      exact ((List.sublist_append_left _ _).trans hfront).append (h part)

/-- The lines of an example are laid out with an empty line below them. -/
theorem content_sublist (e : Example) : (e.content ++ [emptyLine]).Sublist (exampleLines e) :=
  List.sublist_cons_self _ _

/-- The lines of a rule are laid out in order with an empty line below them. -/
theorem rule_captured_sublist (palette : Palette) (rule : Rule) :
    (rule.captured ++ [emptyLine]).Sublist (ruleLines palette rule) := by
  rw [Rule.captured, ruleLines]
  refine (append_flatMap_sublist [emptyLine] rule.description _ _ exampleLines rule.examples ?_
    content_sublist).trans (List.sublist_append_left _ _)
  rw [List.append_assoc]
  exact List.sublist_append_right _ _

/-- The lines of a section are laid out in order with an empty line below them. -/
theorem section_captured_sublist (palette : Palette) (s : Section) :
    (s.captured ++ [emptyLine]).Sublist (sectionLines palette s) := by
  rw [Section.captured, sectionLines]
  refine append_flatMap_sublist [emptyLine] s.description _ _ (ruleLines palette) s.rules ?_
    (rule_captured_sublist palette)
  refine List.Sublist.append (List.sublist_append_right _ _) ?_
  exact List.Sublist.cons_cons _ (List.nil_sublist _)

/-- The lines of a document with sections are laid out in order with an empty line below them. -/
theorem captured_sublist (palette : Palette) (document : Document) (h : document.sections ≠ []) :
    (document.captured ++ [emptyLine]).Sublist (documentLines palette document) := by
  have hdescription : document.description.Sublist
      (titleLines document.title ++ descriptionLines document.description) := by
    refine List.Sublist.trans ?_ (List.sublist_append_right _ _)
    rw [descriptionLines]
    split
    · rename_i hempty
      rw [List.isEmpty_iff.mp hempty]
    · exact List.sublist_append_left _ _
  rw [Document.captured, documentLines]
  cases hsections : document.sections with
  | nil => exact absurd hsections h
  | cons s sections =>
      rw [List.flatMap_cons, List.flatMap_cons, ← List.append_assoc, ← List.append_assoc]
      refine append_flatMap_sublist [emptyLine] (document.description ++ s.captured) _ _
        (sectionLines palette) sections ?_ (section_captured_sublist palette)
      rw [List.append_assoc]
      exact hdescription.append (section_captured_sublist palette s)

/-- What further sections add to the lines of a document does not depend on what is above them. -/
theorem documentLines_append (palette : Palette) (title : Option Text) (description : List Text)
    (above below : List Section) :
    documentLines palette ⟨title, description, above ++ below⟩ =
      documentLines palette ⟨title, description, above⟩ ++
        documentLines palette ⟨none, [], below⟩ := by
  rw [documentLines, List.flatMap_append, ← List.append_assoc]
  rfl

/-- The guide of a document with sections is made of all its lines, ends in a ruler, and has every
    line of a comment or an example whole and in order. The guide of two lists of sections is the
    guide of the first list, an empty line, and the guide of the second list by itself. -/
theorem render_composes (palette : Palette) :
    (∀ document : Document, document.sections ≠ [] →
      render palette document = Text.joinWith "\n" (documentLines palette document) ∧
      (∃ body : Text, render palette document = body ++ "\n---\n") ∧
      Text.HasLines document.captured (render palette document)) ∧
    ∀ (title : Option Text) (description : List Text) (above below : List Section),
      above ≠ [] → below ≠ [] →
        render palette ⟨title, description, above ++ below⟩ =
          render palette ⟨title, description, above⟩ ++ "\n" ++
            render palette ⟨none, [], below⟩ := by
  constructor
  · intro document h
    refine ⟨render_eq_joinWith palette document h, ?_, ?_⟩
    · rcases render_eq_ended palette document h with ⟨front, _, hrender⟩
      exact ⟨Text.ended front, by rw [hrender, Text.ended_append]; rfl⟩
    · rcases render_eq_ended palette document h with ⟨front, hlines, hrender⟩
      have hcaptured := captured_sublist palette document h
      rw [hlines, List.append_sublist_append_right] at hcaptured
      rw [hrender]
      exact Text.hasLines_of_sublist _ _ hcaptured
  · intro title description above below habove hbelow
    have hboth : above ++ below ≠ [] := fun heq => habove (List.append_eq_nil_iff.mp heq).1
    rw [render_eq_joinWith palette ⟨title, description, above ++ below⟩ hboth,
      documentLines_append]
    rcases render_eq_ended palette ⟨title, description, above⟩ habove with ⟨front, hlines, hrender⟩
    rcases render_eq_ended palette ⟨none, [], below⟩ hbelow with ⟨rest, hrest, hbelow⟩
    rw [hlines, hrender, hrest, hbelow, ← List.append_assoc, joinWith_eq_ended, Text.ended_append,
      Text.ended_append _ [emptyLine]]
    rfl

/-- A section with nothing but white space in it, below a section with one empty example. -/
theorem render_composes_blank :
    let above : Section := ⟨"Names", [], [⟨"Short", "WARN", ["No more.  "], [⟨.valid, none, []⟩]⟩]⟩
    let below : Section := ⟨"Blanks", ["  ", ""], []⟩
    Text.HasLines ["No more.  ", "  ", ""] (render {} ⟨none, [], [above, below]⟩) ∧
    render {} ⟨none, [], [above] ++ [below]⟩ =
      render {} ⟨none, [], [above]⟩ ++ "\n" ++ render {} ⟨none, [], [below]⟩ := by
  intro above below
  exact ⟨((render_composes {}).1 ⟨none, [], [above, below]⟩ (List.cons_ne_nil _ _)).2.2,
    (render_composes {}).2 none [] [above] [below] (List.cons_ne_nil _ _) (List.cons_ne_nil _ _)⟩

end Markdown

end StyleGuide
