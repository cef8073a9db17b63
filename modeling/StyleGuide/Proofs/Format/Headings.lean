import StyleGuide.Format.Markdown
import StyleGuide.Proofs.Scan.Description
import StyleGuide.Proofs.Scan.WellFormed
import StyleGuide.Proofs.Text.Pieces

/-!
# Headings of style guides without sections

What a ruleset without section headers is rendered to.

Sections and their rules are the only blocks with headings of their own below the title, so such a
ruleset gives the heading of its title and then the text of its comments. That text goes out as it
was written. A comment whose text reads as a heading therefore is one in the guide, and no other
line is.

The end of the guide is trimmed, so its last line may have lost white space. With that white space
put back the lines are those that were laid out: the title and all description lines are there, in
order, and every line that begins like a heading of the second level is a description line. As the
guide stands, such a line is a description line that may lack white space at its end.

## Main definitions

* `headless`: The lines of a guide without sections.

## Theorems

* `mem_headless`, `sublist_headless`: What the lines of such a guide are.
* `mem_description_of_sectionMark`: Which of them begin like a heading of the second level.
* `exists_untrimmed`: The lines of a guide with the white space put back.
* `compile_headless`: Without section headers there are a title and a description only.
* `headings_of_headless`: Only comments give headings of the second level.
* `heading_in_comment`: And a comment may give one.
-/

namespace StyleGuide

namespace Markdown

/-- The lines of a guide without sections. -/
def headless (title : Option Text) (description : List Text) : List Text :=
  titleLines title ++ descriptionLines description

/-- What begins a heading of the second level. -/
def sectionMark : Text := "## "

section Headless

variable (title : Option Text) (description : List Text)

/-- A line of a guide without sections is the heading of the title, empty, or a line of the
    description. -/
theorem mem_headless (line : Text) (h : line ∈ headless title description) :
    (∃ text ∈ title, line = "# " ++ text) ∨ line = emptyLine ∨ line ∈ description := by
  rw [headless, List.mem_append] at h
  rcases h with h | h
  · cases title with
    | none => exact absurd h List.not_mem_nil
    | some text =>
        simp only [titleLines] at h
        split at h
        · exact absurd h List.not_mem_nil
        · rw [List.mem_cons, List.mem_singleton] at h
          rcases h with h | h
          · exact Or.inl ⟨text, rfl, h⟩
          · exact Or.inr (Or.inl h)
  · simp only [descriptionLines] at h
    split at h
    · exact absurd h List.not_mem_nil
    · rw [List.mem_append, List.mem_singleton] at h
      rcases h with h | h
      · exact Or.inr (Or.inr h)
      · exact Or.inr (Or.inl h)

theorem newline_not_mem_headless (htitle : ∀ text ∈ title, '\n' ∉ text)
    (hdescription : ∀ line ∈ description, '\n' ∉ line) (line : Text)
    (h : line ∈ headless title description) : '\n' ∉ line := by
  rcases mem_headless title description line h with ⟨text, htext, rfl⟩ | rfl | hline
  · rw [List.mem_append, not_or]
    exact ⟨by decide, htitle text htext⟩
  · exact List.not_mem_nil
  · exact hdescription line hline

/-- The heading of a title that is not empty and all description lines are there, in order. -/
theorem sublist_headless :
    ((title.filter (!·.isEmpty)).toList.map (("# " : Text) ++ ·) ++ description).Sublist
      (headless title description) := by
  refine List.Sublist.append ?_ ?_
  · cases title with
    | none => exact List.nil_sublist _
    | some text =>
        by_cases hempty : text.isEmpty = true
        · simp only [titleLines, Option.filter, hempty, Bool.not_true, Bool.false_eq_true, if_false]
          exact List.nil_sublist _
        · rw [Bool.not_eq_true] at hempty
          simp only [titleLines, Option.filter, hempty, Bool.not_false, if_true]
          exact List.Sublist.cons_cons _ (List.nil_sublist _)
  · rw [descriptionLines]
    split
    · rename_i hempty
      rw [List.isEmpty_iff.mp hempty]
    · exact List.sublist_append_left _ _

/-- Nothing but a line of the description begins like a heading of the second level. -/
theorem mem_description_of_sectionMark (line : Text)
    (hmark : Text.hasLead sectionMark line = true) (h : line ∈ headless title description) :
    line ∈ description := by
  rcases (Text.hasLead_iff sectionMark line).mp hmark with ⟨rest, rfl⟩
  rcases mem_headless title description _ h with ⟨text, _, htitle⟩ | hempty | hdescription
  · -- The second character of a title is a space.
    simp only [sectionMark] at htitle
    exact absurd (List.cons.inj (List.cons.inj htitle).2).1 (by decide)
  · exact absurd hempty (List.cons_ne_nil _ _)
  · exact hdescription

end Headless

/-- Once the white space is put back that was trimmed from the end of a guide, its lines are those
    that were laid out. Where there are none, there still is an empty one. -/
theorem exists_untrimmed (palette : Palette) (document : Document)
    (h : ∀ line ∈ documentLines palette document, '\n' ∉ line) :
    ∃ body removed : Text, render palette document = body ++ "\n" ∧
      (∀ c ∈ removed, Text.isBlank c = true) ∧
      (∀ line ∈ Text.splitAll '\n' (body ++ removed),
        line = [] ∨ line ∈ documentLines palette document) ∧
      (documentLines palette document).Sublist (Text.splitAll '\n' (body ++ removed)) := by
  rcases Text.trimEnd_append_removed (Text.joinWith ['\n'] (documentLines palette document)) with
    ⟨removed, hblank, hwhole⟩
  refine ⟨_, removed, rfl, hblank, ?_⟩
  rw [show ("\n" : Text) = ['\n'] from rfl, ← hwhole]
  by_cases hnil : documentLines palette document = []
  · rw [hnil]
    exact ⟨fun line hline => Or.inl (List.mem_singleton.mp hline), List.nil_sublist _⟩
  · rw [Text.splitAll_joinWith '\n' _ hnil h]
    exact ⟨fun line hline => Or.inr hline, List.Sublist.refl _⟩

end Markdown

/-- Lines without section headers open no section. -/
theorem headingsOf_eq_nil (lines : List Text) (h : ∀ line ∈ lines, Line.section? line = none) :
    headingsOf lines = [] := by
  induction lines with
  | nil => rfl
  | cons line lines ih =>
      rw [headingsOf_cons line lines (h line List.mem_cons_self)]
      exact ih fun l hl => h l (List.mem_cons_of_mem _ hl)

/-- Without section headers a document has a title and a description only, and all comments but the
    title lines describe it. -/
theorem compile_headless (options : ScanOptions) (source : Text)
    (h : ∀ line ∈ source.lines, Line.section? line = none) :
    compile options source =
      ⟨(source.lines.filterMap Line.title?).getLast?, descriptionOf source.lines, []⟩ := by
  have htitle : (compile options source).title = (source.lines.filterMap Line.title?).getLast? := by
    rw [compile, Scanner.title_run]
    exact Option.or_none
  have hdescription : (compile options source).description = descriptionOf source.lines := by
    -- No line is cut off, since none is a section header.
    have hbefore : beforeHeader source.lines = source.lines := by
      refine List.takeWhile_eq_self_iff.mpr fun line hline => ?_
      rw [(Line.isHeader_eq_false_iff line).mpr (h line hline), Bool.not_false]
    rw [compile, Scanner.description_run, hbefore]
    rfl
  have hsections : (compile options source).sections = [] := by
    have hheadings := Scanner.headings_run options Scanner.start source.lines
    rw [headingsOf_eq_nil source.lines h, List.append_nil] at hheadings
    exact List.map_eq_nil_iff.mp hheadings
  calc compile options source
      = ⟨(compile options source).title, (compile options source).description,
          (compile options source).sections⟩ := rfl
    _ = _ := by rw [htitle, hdescription, hsections]

/-- Without section headers, a line of the guide that begins like a heading of the second level is
    a line of the description, but for white space that was trimmed from the end of the guide. Once
    that white space is put back, every such line is a line of the description as it stands, and the
    heading of a title that is not empty and all lines of the description are there in order. -/
theorem headings_of_headless (options : ScanOptions) (palette : Palette) (source : Text)
    (h : ∀ line ∈ source.lines, Line.section? line = none) :
    (∀ line ∈ Text.splitAll '\n' (Markdown.render palette (compile options source)),
      Text.hasLead Markdown.sectionMark line = true →
        ∃ described ∈ descriptionOf source.lines, ∃ removed : Text,
          (∀ c ∈ removed, Text.isBlank c = true) ∧ described = line ++ removed) ∧
    ∃ body removed : Text,
      Markdown.render palette (compile options source) = body ++ "\n" ∧
      (∀ c ∈ removed, Text.isBlank c = true) ∧
      (∀ line ∈ Text.splitAll '\n' (body ++ removed),
        Text.hasLead Markdown.sectionMark line = true → line ∈ descriptionOf source.lines) ∧
      ((((source.lines.filterMap Line.title?).getLast?).filter (!·.isEmpty)).toList.map
          (("# " : Text) ++ ·) ++ descriptionOf source.lines).Sublist
        (Text.splitAll '\n' (body ++ removed)) := by
  have hwellFormed := wellFormed_compile options source
  rw [compile_headless options source h] at hwellFormed ⊢
  generalize (source.lines.filterMap Line.title?).getLast? = title at hwellFormed ⊢
  generalize descriptionOf source.lines = description at hwellFormed ⊢
  have hlines : Markdown.documentLines palette ⟨title, description, []⟩ =
      Markdown.headless title description := List.append_nil _
  have hplain := Markdown.newline_not_mem_headless title description
    (fun text htext => (hwellFormed.title text htext).2)
    (fun line hline => (hwellFormed.description line hline).2)
  rcases Markdown.exists_untrimmed palette ⟨title, description, []⟩ (by rwa [hlines]) with
    ⟨body, removed, hrender, hblank, hlaidOut, hsublist⟩
  rw [hlines] at hlaidOut hsublist
  -- A line with the mark is not the empty one, so it was laid out.
  have hdescribed : ∀ line ∈ Text.splitAll '\n' (body ++ removed),
      Text.hasLead Markdown.sectionMark line = true → line ∈ description := by
    intro line hline hmark
    rcases hlaidOut line hline with rfl | hline
    · exact absurd hmark (by decide)
    · exact Markdown.mem_description_of_sectionMark title description line hmark hline
  refine ⟨fun line hline hmark => ?_, body, removed, hrender, hblank, hdescribed,
    (Markdown.sublist_headless title description).trans hsublist⟩
  rw [hrender, show ("\n" : Text) = ['\n'] from rfl, Text.splitAll_append_mark,
    List.mem_append] at hline
  rcases hline with hline | hline
  · -- What was trimmed from the line is white space, and it keeps the mark when it gets it back.
    rcases Text.exists_piece_of_front '\n' body removed line hline with ⟨added, hadded, hwhole⟩
    have hmarked : Text.hasLead Markdown.sectionMark (line ++ added) = true := by
      rw [Text.hasLead_iff] at hmark ⊢
      exact hmark.trans (List.prefix_append line added)
    exact ⟨line ++ added, hdescribed _ hwhole hmarked, added,
      fun c hc => hblank c (hadded c hc), rfl⟩
  · rw [List.mem_singleton.mp hline] at hmark
    exact absurd hmark (by decide)

/-- A title, a comment that reads as a heading and has lost its hard break, and an empty comment at
    the end, of which nothing is left. -/
theorem headings_of_headless_ruleset :
    (∀ line ∈ Text.lines ("# Title: Guide\n# ## Naming\n#\n" : String),
      Line.section? line = none) ∧
    (∃ described ∈ descriptionOf (Text.lines ("# Title: Guide\n# ## Naming\n#\n" : String)),
      ∃ removed : Text, (∀ c ∈ removed, Text.isBlank c = true) ∧
        described = ("## Naming" : Text) ++ removed) ∧
    ∃ body removed : Text,
      Markdown.render {} (compile {} (("# Title: Guide\n# ## Naming\n#\n" : String) : Text)) =
        body ++ "\n" ∧
      (∀ c ∈ removed, Text.isBlank c = true) ∧
      (∀ line ∈ Text.splitAll '\n' (body ++ removed),
        Text.hasLead Markdown.sectionMark line = true →
          line ∈ [("## Naming  " : Text), ("  " : Text)]) ∧
      List.Sublist [("# Guide" : Text), ("## Naming  " : Text), ("  " : Text)]
        (Text.splitAll '\n' (body ++ removed)) := by
  have hplain : ∀ line ∈ Text.lines ("# Title: Guide\n# ## Naming\n#\n" : String),
      Line.section? line = none := by decide
  have hheadings :=
    headings_of_headless {} {} (("# Title: Guide\n# ## Naming\n#\n" : String) : Text) hplain
  exact ⟨hplain, hheadings.1 ("## Naming" : Text) (by decide) (by decide), hheadings.2⟩

/-- A comment whose text begins like a heading of the second level is one in the guide, although the
    ruleset has no section. -/
theorem heading_in_comment :
    (∀ line ∈ Text.lines ("# ## Naming\n" : String), Line.section? line = none) ∧
    Markdown.render {} (compile {} (("# ## Naming\n" : String) : Text)) =
      ("## Naming\n" : String) ∧
    ∃ line ∈ Text.splitAll '\n'
        (Markdown.render {} (compile {} (("# ## Naming\n" : String) : Text))),
      Text.hasLead Markdown.sectionMark line = true := by
  refine ⟨by decide, by decide, by decide⟩

end StyleGuide
