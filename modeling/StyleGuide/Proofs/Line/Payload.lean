import StyleGuide.Proofs.Line.Grammar

/-!
# What a recognised line holds

Each kind of line carries something: a title, the name of a section, a comment's text, a rule's
name and severity, the label of an example. The facts here say what that something can be, and
where kinds of lines exclude each other.

Comments are told from everything else by the first character that is not white space. A title
line and a section header begin with `#` there and are comments too; no other kind is. The two
markers differ in their third character. So a line is at most one of a title line and a section
header, and a comment is neither the start of a rules block nor a rule header nor a nested
severity, whatever white space stands in front of it.

What is read off a line is a part of the line, which is how the absence of line feeds carries over
from the line to everything in a document. For the headers both are seen in what their patterns
build a line from.

## Main definitions

* `Line.IsLabel`: What may stand in the parentheses of an example header.

## Theorems

* `title?_eq_some_iff`, `section?_eq_some_iff`: A marked line, split behind its marker.
* `isComment_iff_gap`: What a comment is built from.
* `isComment_of_title?`, `isComment_of_section?`: Marked lines are comments.
* `title?_eq_none_of_not_isComment`, `section?_eq_none_of_not_isComment`: No other line is marked.
* `section?_eq_none_of_title?`, `title?_eq_none_of_section?`: A title line is no section header.
* `startsRules_iff`: What the start of a rules block is built from.
* `startsRules_eq_false_of_isComment`: A comment starts no rules block.
* `ruleHeader?_eq_some`: What a rule header is made of.
* `isWord_of_nestedSeverity?`: What is read as a nested severity is a word.
* `ruleHeader?_eq_none_of_isComment`, `isComment_eq_false_of_ruleHeader?`: No comment is a rule
  header.
* `ruleHeader?_eq_none_of_isNested`, `isNested_eq_false_of_ruleHeader?`: No line of a nested block
  is a rule header.
* `nestedSeverity?_eq_none_of_isComment`: No comment is a nested severity.
* `uncomment_gap`, `uncomment_of_not_isComment`: What a line is without its `#`.
* `uncomment_of_trimStart`, `mem_of_mem_uncomment`: The text of a comment is a part of it.
* `isLabel_of_exampleHeader?`: What a label is made of.
-/

namespace StyleGuide

namespace Line

/-- A label that an example may have. -/
def IsLabel (label : Text) : Prop := label ≠ [] ∧ ')' ∉ label ∧ '\n' ∉ label

/-! ### Markers and comments -/

/-- A line with a given marker, split behind the marker. -/
theorem marked_eq_some_iff (marker line payload : Text) :
    (Text.afterLead? marker line.trim).map Text.trim = some payload ↔
      ∃ rest : Text, line.trim = marker ++ rest ∧ rest.trim = payload := by
  rw [Option.map_eq_some_iff]
  constructor
  · rintro ⟨rest, hrest, hpayload⟩
    exact ⟨rest, (Text.afterLead?_eq_some_iff _ _ _).mp hrest, hpayload⟩
  · rintro ⟨rest, hrest, hpayload⟩
    exact ⟨rest, (Text.afterLead?_eq_some_iff _ _ _).mpr hrest, hpayload⟩

theorem title?_eq_some_iff (line title : Text) : title? line = some title ↔
    ∃ rest : Text, line.trim = titleMarker ++ rest ∧ rest.trim = title :=
  marked_eq_some_iff titleMarker line title

theorem section?_eq_some_iff (line name : Text) : section? line = some name ↔
    ∃ rest : Text, line.trim = sectionMarker ++ rest ∧ rest.trim = name :=
  marked_eq_some_iff sectionMarker line name

/-- What is marked on a line has no white space at its ends and is a part of the line. -/
theorem trimmed_of_marked (marker line payload : Text)
    (h : ∃ rest : Text, line.trim = marker ++ rest ∧ rest.trim = payload) :
    Text.Trimmed payload ∧ ∀ c ∈ payload, c ∈ line := by
  rcases h with ⟨rest, hline, rfl⟩
  refine ⟨Text.trimmed_trim rest, fun c hc => Text.mem_of_mem_trim c line ?_⟩
  rw [hline]
  exact List.mem_append_right _ (Text.mem_of_mem_trim c rest hc)

theorem isComment_iff (line : Text) :
    isComment line = true ↔ ∃ text : Text, line.trimStart = '#' :: text := by
  rw [isComment, beq_iff_eq, List.head?_eq_some_iff]

/-- The first visible character decides what a line can be; trimming the end does not hide it. -/
theorem trimStart_eq_of_trim_eq (line rest : Text) (c : Char) (h : line.trim = c :: rest) :
    ∃ text : Text, line.trimStart = c :: text := by
  rcases Text.trim_prefix_trimStart line with ⟨tail, htail⟩
  exact ⟨rest ++ tail, by rw [← htail, h, List.cons_append]⟩

theorem isComment_of_trim_eq (line rest : Text) (h : line.trim = '#' :: rest) :
    isComment line = true :=
  (isComment_iff line).mpr (trimStart_eq_of_trim_eq line rest '#' h)

/-- Behind white space a comment begins with its `#`. -/
theorem trimStart_comment (blanks text : Text) (h : ∀ c ∈ blanks, Text.isBlank c = true) :
    Text.trimStart (blanks ++ '#' :: text) = '#' :: text := by
  rw [Text.trimStart_append_of_blank _ _ h, Text.trimStart_cons_of_not_blank _ _ (by decide)]

/-- A comment is white space, a `#` and anything. -/
theorem isComment_iff_gap (line : Text) :
    isComment line = true ↔ ∃ gap rest : Text, IsGap gap ∧ line = gap ++ '#' :: rest := by
  rw [isComment_iff]
  constructor
  · rintro ⟨rest, hrest⟩
    rcases exists_gap line with ⟨gap, hgap, hline⟩
    rw [hrest] at hline
    exact ⟨gap, rest, hgap, hline⟩
  · rintro ⟨gap, rest, hgap, rfl⟩
    exact ⟨rest, trimStart_comment gap rest hgap⟩

/-- A title line is a comment. -/
theorem isComment_of_title? (line title : Text) (h : title? line = some title) :
    isComment line = true := by
  rcases (title?_eq_some_iff line title).mp h with ⟨rest, hline, _⟩
  exact isComment_of_trim_eq line _ hline

/-- A section header is a comment. -/
theorem isComment_of_section? (line name : Text) (h : section? line = some name) :
    isComment line = true := by
  rcases (section?_eq_some_iff line name).mp h with ⟨rest, hline, _⟩
  exact isComment_of_trim_eq line _ hline

theorem title?_eq_none_of_not_isComment (line : Text) (h : isComment line = false) :
    title? line = none := by
  cases htitle : title? line with
  | none => rfl
  | some title =>
      rw [isComment_of_title? line title htitle] at h
      exact absurd h (by decide)

theorem section?_eq_none_of_not_isComment (line : Text) (h : isComment line = false) :
    Line.section? line = none := by
  cases hsection : Line.section? line with
  | none => rfl
  | some name =>
      rw [isComment_of_section? line name hsection] at h
      exact absurd h (by decide)

/-- A title line is no section header. -/
theorem section?_eq_none_of_title? (line title : Text) (h : title? line = some title) :
    Line.section? line = none := by
  rcases (title?_eq_some_iff line title).mp h with ⟨rest, hline, _⟩
  cases hsection : section? line with
  | none => rfl
  | some name =>
      rcases (section?_eq_some_iff line name).mp hsection with ⟨rest', hline', _⟩
      rw [hline] at hline'
      -- The markers part at their third character.
      have hthird := congrArg (fun text : Text => text[2]?) hline'
      rw [show (titleMarker ++ rest)[2]? = some 'T' from rfl,
        show (sectionMarker ++ rest')[2]? = some 'S' from rfl] at hthird
      exact absurd hthird (by decide)

theorem title?_eq_none_of_section? (line name : Text) (h : Line.section? line = some name) :
    title? line = none := by
  cases htitle : title? line with
  | none => rfl
  | some title =>
      rw [section?_eq_none_of_title? line title htitle] at h
      exact absurd h (by simp only [reduceCtorEq, not_false_eq_true])

/-- The start of a rules block is its keyword between white space. -/
theorem startsRules_iff (line : Text) : startsRules line = true ↔
    ∃ lead tail : Text, IsGap lead ∧ IsGap tail ∧ line = lead ++ (("rules:" : Text) ++ tail) := by
  rw [startsRules, beq_iff_eq]
  constructor
  · intro htrim
    rcases exists_gap line with ⟨lead, hlead, hline⟩
    rcases Text.trimEnd_append_removed line.trimStart with ⟨tail, htail, hstart⟩
    rw [show Text.trimEnd line.trimStart = rulesMarker from htrim] at hstart
    rw [hstart] at hline
    exact ⟨lead, tail, hlead, htail, hline⟩
  · rintro ⟨lead, tail, hlead, htail, rfl⟩
    rw [Text.trim_blanks_append _ _ hlead, Text.trim_append_blanks _ _ htail]
    decide

/-- The first visible character of the start of a rules block is the `r` of its keyword. -/
theorem trimStart_of_startsRules (line : Text) (h : startsRules line = true) :
    ∃ text : Text, line.trimStart = 'r' :: text :=
  trimStart_eq_of_trim_eq line ("ules:" : Text) 'r' (beq_iff_eq.mp h)

/-- A comment starts no rules block. -/
theorem startsRules_eq_false_of_isComment (line : Text) (h : isComment line = true) :
    startsRules line = false := by
  rcases (isComment_iff line).mp h with ⟨text, htext⟩
  rw [Bool.eq_false_iff]
  intro hrules
  rcases trimStart_of_startsRules line hrules with ⟨text', htext'⟩
  rw [htext, List.cons.injEq] at htext'
  exact absurd htext'.1 (by decide)

/-! ### Rule headers -/

/-- What a rule header is made of: white space of two characters, a name, and the rest, from which
    a severity may have been read. -/
theorem ruleHeader?_eq_some (line : Text) (header : RuleHeader)
    (h : ruleHeader? line = some header) :
    ∃ blanks rest : Text, line = blanks ++ (header.name ++ rest) ∧
      (∀ c ∈ blanks, Text.isBlank c = true) ∧ blanks.length = 2 ∧ IsName header.name ∧
      ∀ severity ∈ header.severity, IsWord severity := by
  cases (ruleHeader?_eq_some_iff line header).mp h with
  | bare lead name gap tail hlead hlength hname hgap htail =>
      exact ⟨lead, _, rfl, hlead, hlength, hname, fun _ h => absurd h (Option.not_mem_none _)⟩
  | inline lead name gap before severity tail hlead hlength hname hgap hbefore hseverity htail =>
      refine ⟨lead, _, rfl, hlead, hlength, hname, fun word hword => ?_⟩
      rw [← Option.some.inj hword]
      exact hseverity

/-- What is read as a nested severity is a word. -/
theorem isWord_of_nestedSeverity? (line severity : Text)
    (h : nestedSeverity? line = some severity) : IsWord severity := by
  rcases (nestedSeverity?_eq_some_iff line severity).mp h with ⟨_, _, _, _, _, _, _, hword, _⟩
  exact hword

/-- The first visible character of a rule header is the first one of the rule's name. -/
theorem trimStart_of_ruleHeader? (line : Text) (header : RuleHeader)
    (h : ruleHeader? line = some header) :
    ∃ (c : Char) (text : Text), isNameChar c = true ∧ line.trimStart = c :: text := by
  rcases ruleHeader?_eq_some line header h with ⟨blanks, rest, hline, hblanks, _, hname, _⟩
  cases hcs : header.name with
  | nil => exact absurd hcs hname.1
  | cons c name =>
      have hc : isNameChar c = true := hname.2 c (by rw [hcs]; exact List.mem_cons_self)
      refine ⟨c, name ++ rest, hc, ?_⟩
      rw [hline, hcs, Text.trimStart_append_of_blank _ _ hblanks, List.cons_append,
        Text.trimStart_cons_of_not_blank _ _ (isBlank_eq_false_of_isNameChar c hc)]

/-- A comment is no rule header. -/
theorem ruleHeader?_eq_none_of_isComment (line : Text) (h : isComment line = true) :
    ruleHeader? line = none := by
  rcases (isComment_iff line).mp h with ⟨text, htext⟩
  cases hheader : ruleHeader? line with
  | none => rfl
  | some header =>
      rcases trimStart_of_ruleHeader? line header hheader with ⟨c, text', hc, htext'⟩
      rw [htext, List.cons.injEq] at htext'
      rw [← htext'.1] at hc
      exact absurd hc (by decide)

/-- A rule header is no comment. -/
theorem isComment_eq_false_of_ruleHeader? (line : Text) (header : RuleHeader)
    (h : ruleHeader? line = some header) : isComment line = false := by
  rw [Bool.eq_false_iff]
  intro hcomment
  rw [ruleHeader?_eq_none_of_isComment line hcomment] at h
  simp only [reduceCtorEq] at h

/-- The first visible character of a nested severity is the `s` of its keyword. -/
theorem trimStart_of_nestedSeverity? (line severity : Text)
    (h : nestedSeverity? line = some severity) : ∃ text : Text, line.trimStart = 's' :: text := by
  rcases (nestedSeverity?_eq_some_iff line severity).mp h with
    ⟨lead, before, _, tail, hlead, _, _, _, _⟩
  refine ⟨("everity:" : Text) ++ (before ++ (severity ++ tail)), ?_⟩
  rw [Text.trimStart_append_of_blank _ _ hlead]
  exact Text.trimStart_cons_of_not_blank 's' _ (by decide)

/-- A comment is no nested severity. -/
theorem nestedSeverity?_eq_none_of_isComment (line : Text) (h : isComment line = true) :
    nestedSeverity? line = none := by
  rcases (isComment_iff line).mp h with ⟨text, htext⟩
  cases hnested : nestedSeverity? line with
  | none => rfl
  | some severity =>
      rcases trimStart_of_nestedSeverity? line severity hnested with ⟨text', htext'⟩
      rw [htext, List.cons.injEq] at htext'
      exact absurd htext'.1 (by decide)

theorem isNested_iff (line : Text) :
    isNested line = true ↔ ∃ rest : Text, line = ' ' :: ' ' :: ' ' :: ' ' :: rest := by
  rw [isNested, Text.hasLead_iff]
  exact ⟨fun ⟨rest, hrest⟩ => ⟨rest, hrest.symm⟩, fun ⟨rest, hrest⟩ => ⟨rest, hrest.symm⟩⟩

/-- A line of a nested block is no rule header, its third character being white space. -/
theorem ruleHeader?_eq_none_of_isNested (line : Text) (h : isNested line = true) :
    ruleHeader? line = none := by
  rcases (isNested_iff line).mp h with ⟨rest, rfl⟩
  rfl

theorem isNested_eq_false_of_ruleHeader? (line : Text) (header : RuleHeader)
    (h : ruleHeader? line = some header) : isNested line = false := by
  rw [Bool.eq_false_iff]
  intro hnested
  rw [ruleHeader?_eq_none_of_isNested line hnested] at h
  simp only [reduceCtorEq] at h

/-! ### Comment texts and labels -/

theorem mem_of_mem_dropBlank (c : Char) (text : Text) (h : c ∈ dropBlank text) : c ∈ text := by
  cases text with
  | nil => exact h
  | cons d text =>
      rw [dropBlank] at h
      split at h
      · exact List.mem_cons_of_mem d h
      · exact h

/-- The text of a comment is what stands behind the `#`, less one white space character. -/
theorem uncomment_of_trimStart (line text : Text) (h : line.trimStart = '#' :: text) :
    uncomment line = dropBlank text := by
  simp only [uncomment, h]

theorem uncomment_gap (gap rest : Text) (hgap : IsGap gap) :
    uncomment (gap ++ '#' :: rest) = if rest.head?.any Text.isBlank then rest.tail else rest := by
  rw [uncomment_of_trimStart _ rest (trimStart_comment gap rest hgap)]
  cases rest with
  | nil => rfl
  | cons c rest => rw [dropBlank, List.head?_cons, Option.any_some, List.tail_cons]

/-- A line that is no comment has no `#` to lose. -/
theorem uncomment_of_not_isComment (line : Text) (h : isComment line = false) :
    uncomment line = line := by
  rw [uncomment]
  split
  · rename_i rest hrest
    rw [(isComment_iff line).mpr ⟨rest, hrest⟩] at h
    exact absurd h (by decide)
  · rfl

/-- The text of a comment is a part of it. -/
theorem mem_of_mem_uncomment (c : Char) (line : Text) (h : c ∈ uncomment line) : c ∈ line := by
  rw [uncomment] at h
  split at h
  · rename_i text htext
    refine (List.dropWhile_sublist Text.isBlank).subset ?_
    rw [show line.dropWhile Text.isBlank = '#' :: text from htext]
    exact List.mem_cons_of_mem _ (mem_of_mem_dropBlank c text h)
  · exact h

theorem newline_not_mem_uncomment (line : Text) (h : '\n' ∉ line) : '\n' ∉ uncomment line :=
  fun hmem => h (mem_of_mem_uncomment '\n' line hmem)

theorem newline_not_mem_described (line : Text) (h : '\n' ∉ line) : '\n' ∉ described line := by
  rw [described, List.mem_append, not_or]
  exact ⟨newline_not_mem_uncomment line h, by decide⟩

/-- What a label is made of, when the text it was read from has no line feed. -/
theorem isLabel_of_exampleHeader? (text : Text) (header : ExampleHeader)
    (h : exampleHeader? text = some header) (hnl : '\n' ∉ text) :
    ∀ label ∈ header.label, IsLabel label := by
  rcases (exampleHeader?_eq_some_iff text header).mp h with
    ⟨kind, label, keyword, gap, word, ending, _, _, _, _, hending⟩
  intro found hfound
  cases hending with
  | bare => exact absurd hfound (Option.not_mem_none _)
  | labelled before label _ hne hclose =>
      rw [← Option.some.inj hfound]
      refine ⟨hne, hclose, fun hmem => hnl ?_⟩
      simp only [List.mem_append, List.mem_cons]
      exact .inr (.inr (.inr (.inr (.inr (.inl hmem)))))

end Line

end StyleGuide
