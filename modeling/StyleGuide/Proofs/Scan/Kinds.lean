import StyleGuide.Proofs.Line.Written
import StyleGuide.Proofs.Scan.Description

/-!
# Kinds of lines

Which kinds a line can be of at once, and which of them counts then.

The questions asked of a line come in three forms. Markers and the start of a rules block are looked
for in the trimmed line, a comment is recognised by its first visible character, and names and
severities are read off the line as it stands, behind a fixed number of white space characters. What
makes the answers agree is that each of them says something about the same two things: the
indentation of the line, which is the white space in front, and the first character behind it.

```text
title, section header, comment    any indentation    #
start of a rules block            any indentation    r
rule header                       two characters     one of a name
nested severity                   four characters    s
```

So a comment is none of the last three, and no line that is indented further than a rule header is
one, be it a nested severity or any other line of a nested block. A rule header and the start of a
rules block are kept apart by neither. They are the same line where a rule is called `rules`, has no
severity and no white space in front of its colon.

That leaves three overlaps: a title line is a comment, a section header is a comment, and the header
of such a rule starts a rules block. The kinds are listed in the order in which the scanner tries
them, and `kind?_role` takes the role of a line apart by that list: a line counts as the first of
its kinds, if the state heeds that kind, and as none if the state does not. It never counts as a
kind further back in the list. The first kinds of the three overlaps are heeded in every state, so
where kinds overlap the order alone decides.

## Main definitions

* `Line.Kind`: The kinds of lines, in the order in which they are tried.
* `Line.kinds`: All kinds that a line is of.
* `Line.Kind.combinations`: The kinds that a line can be of at once.
* `Line.indent`: How much white space a line begins with.
* `Role.kind?`: The kind that a line counts as in a role.
* `Scanner.heeds`: The kinds of lines that count in a state.
* `Line.KeptApart`: How far the kinds of a line exclude each other.

## Theorems

* `indent_of_ruleHeader?`, `indent_of_nestedSeverity?`: How far two kinds of lines are indented.
* `ruleHeader?_eq_none_of_nestedSeverity?`, `startsRules_eq_false_of_nestedSeverity?`: A nested
  severity is nothing else.
* `startsRules_and_ruleHeader?_iff`: The lines that are a rule header and start a rules block.
* `kinds_of_isComment`, `kinds_of_not_isComment`: The kinds of comments and of other lines.
* `kinds_mem_combinations`: A line is of the kinds of one combination.
* `kind?_role`: A line counts as the first of its kinds, where the state heeds it.
* `heeds_of_overlap`: The first of several kinds is heeded everywhere.
* `keptApart`: Kinds overlap only where the order of the tests decides.
-/

namespace StyleGuide

namespace Line

/-- The kinds of lines, in the order in which the scanner tries them. Nested severities come last,
    which are not tried but looked for below a rule header. -/
inductive Kind where
  | title
  | sectionHeader
  | comment
  | rulesStart
  | ruleHeader
  | nestedSeverity
  deriving DecidableEq, Repr

namespace Kind

/-- All kinds in their order. -/
def all : List Kind := [title, sectionHeader, comment, rulesStart, ruleHeader, nestedSeverity]

/-- Whether a line is of a kind. -/
def fits (line : Text) : Kind → Bool
  | title => (title? line).isSome
  | sectionHeader => (Line.section? line).isSome
  | comment => isComment line
  | rulesStart => startsRules line
  | ruleHeader => (ruleHeader? line).isSome
  | nestedSeverity => (nestedSeverity? line).isSome

/-- The kinds that a line can be of at once. -/
def combinations : List (List Kind) :=
  [[], [title, comment], [sectionHeader, comment], [comment], [rulesStart],
    [rulesStart, ruleHeader], [ruleHeader], [nestedSeverity]]

end Kind

/-- All kinds that a line is of, in the order in which they are tried. -/
def kinds (line : Text) : List Kind := Kind.all.filter (Kind.fits line)

/-- How many white space characters a line begins with. -/
def indent (line : Text) : Nat := (line.takeWhile Text.isBlank).length

/-! ### Indentation and the first visible character -/

theorem indent_append (gap rest : Text) (hgap : IsGap gap)
    (hrest : ∀ c ∈ rest.head?, Text.isBlank c = false) : indent (gap ++ rest) = gap.length := by
  rw [indent, Text.takeWhile_append_of_stop _ _ _ hgap hrest]

/-- Rule headers are indented by two characters. -/
theorem indent_of_ruleHeader? (line : Text) (header : RuleHeader)
    (h : ruleHeader? line = some header) : indent line = 2 := by
  rcases ruleHeader?_eq_some line header h with ⟨blanks, rest, rfl, hblanks, hlength, hname, _⟩
  rw [indent_append blanks _ hblanks (head?_of_isName header.name rest hname), hlength]

/-- Nested severities are indented by four characters. -/
theorem indent_of_nestedSeverity? (line severity : Text)
    (h : nestedSeverity? line = some severity) : indent line = 4 := by
  rcases (nestedSeverity?_eq_some_iff line severity).mp h with
    ⟨lead, before, severity, tail, hlead, hlength, _, _, _⟩
  have hvisible := Text.forall_mem_head?_cons (Text.isBlank · = false) 's'
    (("everity:" : Text) ++ (before ++ (severity ++ tail))) (by decide)
  exact (indent_append lead _ hlead hvisible).trans hlength

/-- A nested severity is no rule header: it is indented further. -/
theorem ruleHeader?_eq_none_of_nestedSeverity? (line severity : Text)
    (h : nestedSeverity? line = some severity) : ruleHeader? line = none := by
  cases hheader : ruleHeader? line with
  | none => rfl
  | some header =>
      have htwo := indent_of_ruleHeader? line header hheader
      rw [indent_of_nestedSeverity? line severity h] at htwo
      exact absurd htwo (by decide)

/-- A nested severity starts no rules block: its keyword begins with another letter. -/
theorem startsRules_eq_false_of_nestedSeverity? (line severity : Text)
    (h : nestedSeverity? line = some severity) : startsRules line = false := by
  rw [Bool.eq_false_iff]
  intro hrules
  rcases trimStart_of_startsRules line hrules with ⟨text, htext⟩
  rcases trimStart_of_nestedSeverity? line severity h with ⟨text', htext'⟩
  rw [htext, List.cons.injEq] at htext'
  exact absurd htext'.1 (by decide)

/-- A rule header that starts a rules block is the header of a rule called `rules`, without a
    severity and with nothing in front of the colon. -/
theorem startsRules_and_ruleHeader?_iff (line : Text) :
    startsRules line = true ∧ (ruleHeader? line).isSome = true ↔
      ∃ lead tail : Text, IsGap lead ∧ lead.length = 2 ∧ IsGap tail ∧
        line = lead ++ (("rules:" : Text) ++ tail) := by
  constructor
  · rintro ⟨hrules, hsome⟩
    rcases (startsRules_iff line).mp hrules with ⟨lead, tail, hlead, htail, rfl⟩
    rcases Option.isSome_iff_exists.mp hsome with ⟨header, hheader⟩
    -- The white space in front of the keyword is all of the indentation, the `r` being visible.
    have hindent : indent (lead ++ (("rules:" : Text) ++ tail)) = lead.length :=
      indent_append lead _ hlead (Text.forall_mem_head?_cons _ 'r' _ (by decide))
    rw [indent_of_ruleHeader? _ header hheader] at hindent
    exact ⟨lead, tail, hlead, hindent.symm, htail, rfl⟩
  · rintro ⟨lead, tail, hlead, hlength, htail, rfl⟩
    refine ⟨(startsRules_iff _).mpr ⟨lead, tail, hlead, htail, rfl⟩, ?_⟩
    have hletters : ("rules" : Text).all isNameChar = true := by decide
    have hname : IsName ("rules" : Text) := ⟨by decide, List.all_eq_true.mp hletters⟩
    have hwritten := IsRuleHeader.bare lead ("rules" : Text) [] tail hlead hlength hname
      (List.forall_mem_nil _) htail
    exact Option.isSome_iff_exists.mpr ⟨_, (ruleHeader?_eq_some_iff _ _).mpr hwritten⟩

example : startsRules ("\t\u00A0rules: " : Text) = true ∧
    ruleHeader? ("\t\u00A0rules: " : Text) = some ⟨("rules" : Text), none⟩ := by decide

/-! ### Kinds that come together -/

/-- A comment is marked or is nothing else. -/
theorem kinds_of_isComment (line : Text) (h : isComment line = true) :
    kinds line = [Kind.title, .sectionHeader].filter (Kind.fits line) ++ [.comment] := by
  have hrules := startsRules_eq_false_of_isComment line h
  have hheader := ruleHeader?_eq_none_of_isComment line h
  have hnested := nestedSeverity?_eq_none_of_isComment line h
  have hsplit : kinds line = [Kind.title, .sectionHeader].filter (Kind.fits line) ++
      [Kind.comment, .rulesStart, .ruleHeader, .nestedSeverity].filter (Kind.fits line) :=
    List.filter_append [Kind.title, .sectionHeader]
      [Kind.comment, .rulesStart, .ruleHeader, .nestedSeverity]
  have hrest : [Kind.comment, .rulesStart, .ruleHeader, .nestedSeverity].filter (Kind.fits line) =
      [.comment] := by
    simp only [List.filter, Kind.fits, h, hrules, hheader, hnested, Option.isSome_none]
  rw [hsplit, hrest]

/-- A line that is no comment is of none of the first three kinds. -/
theorem kinds_of_not_isComment (line : Text) (h : isComment line = false) :
    kinds line = [Kind.rulesStart, .ruleHeader, .nestedSeverity].filter (Kind.fits line) := by
  have htitle := title?_eq_none_of_not_isComment line h
  have hsection := section?_eq_none_of_not_isComment line h
  have hsplit : kinds line = [Kind.title, .sectionHeader, .comment].filter (Kind.fits line) ++
      [Kind.rulesStart, .ruleHeader, .nestedSeverity].filter (Kind.fits line) :=
    List.filter_append [Kind.title, .sectionHeader, .comment]
      [Kind.rulesStart, .ruleHeader, .nestedSeverity]
  have hfirst : [Kind.title, .sectionHeader, .comment].filter (Kind.fits line) = [] := by
    simp only [List.filter, Kind.fits, htitle, hsection, h, Option.isSome_none]
  rw [hsplit, hfirst, List.nil_append]

/-- A line is of the kinds of one combination. -/
theorem kinds_mem_combinations (line : Text) : kinds line ∈ Kind.combinations := by
  cases hcomment : isComment line with
  | true =>
      rw [kinds_of_isComment line hcomment]
      cases htitle : title? line with
      | some title =>
          have hsection := section?_eq_none_of_title? line title htitle
          simp only [List.filter, Kind.fits, htitle, hsection, Option.isSome_some,
            Option.isSome_none]
          decide
      | none =>
          simp only [List.filter, Kind.fits, htitle, Option.isSome_none]
          cases (Line.section? line).isSome <;> decide
  | false =>
      rw [kinds_of_not_isComment line hcomment]
      cases hnested : nestedSeverity? line with
      | some severity =>
          have hrules := startsRules_eq_false_of_nestedSeverity? line severity hnested
          have hheader := ruleHeader?_eq_none_of_nestedSeverity? line severity hnested
          simp only [List.filter, Kind.fits, hrules, hheader, hnested, Option.isSome_some,
            Option.isSome_none]
          decide
      | none =>
          -- Of the other two kinds a line may be both.
          simp only [List.filter, Kind.fits, hnested, Option.isSome_none]
          cases startsRules line <;> cases (ruleHeader? line).isSome <;> decide

-- There is a line for each of them.
example : [("a" : Text), "# Title: a", "# Section: a", "# a", "rules:", "  rules:", "  a: b",
    "    severity: a"].map kinds = Kind.combinations := by decide

end Line

/-! ### Roles -/

/-- The kind that a line counts as in a role. Two of the roles are for lines that count as none. -/
def Role.kind? : Role → Option Line.Kind
  | .title _ => some .title
  | .sectionHeader _ => some .sectionHeader
  | .documentText | .sectionText | .ruleText => some .comment
  | .rulesStart => some .rulesStart
  | .ruleHeader _ => some .ruleHeader
  | .outside | .other => none

theorem Mode.settled_eq_rules_iff (mode : Mode) :
    mode.settled = .rules ↔ mode.rulesOpen = true := by
  cases mode with
  | describing rulesOpen => cases rulesOpen <;> decide
  | preSection | rules | idle => decide

namespace Scanner

/-- Whether a line counts in a state for being of a kind. -/
def heeds (scanner : Scanner) : Line.Kind → Bool
  | .title | .sectionHeader | .rulesStart => true
  | .comment => !scanner.hasSection || scanner.mode.describes || scanner.mode.rulesOpen
  | .ruleHeader => scanner.hasSection && scanner.mode.rulesOpen
  | .nestedSeverity => false

variable (scanner : Scanner) (line : Text)

/-- A comment that is not marked counts as a comment or not at all. -/
theorem kind?_role_of_isComment (hcomment : Line.isComment line = true)
    (htitle : Line.title? line = none) (hheader : Line.section? line = none) :
    (scanner.role line).kind? = if scanner.heeds .comment then some .comment else none := by
  have hrules := Line.startsRules_eq_false_of_isComment line hcomment
  cases hsection : scanner.hasSection with
  | false =>
      simp only [role, htitle, hheader, hcomment, heeds, hsection, Role.kind?, Bool.not_false,
        Bool.and_self, Bool.true_or, if_true]
  | true =>
      -- What is left is a question to the mode, which both sides ask in their own way.
      simp only [role, bodyRole, htitle, hheader, hcomment, hrules, heeds, hsection]
      cases scanner.mode with
      | describing rulesOpen => rfl
      | preSection | rules | idle => rfl

/-- A line that is no comment counts as the start of a rules block if it is one, and otherwise as a
    rule header or not at all. -/
theorem kind?_role_of_not_isComment (hcomment : Line.isComment line = false) :
    (scanner.role line).kind? =
      if Line.startsRules line then some .rulesStart
      else if (Line.ruleHeader? line).isSome && scanner.heeds .ruleHeader then some .ruleHeader
      else none := by
  cases hrules : Line.startsRules line with
  | true =>
      rw [role_of_startsRules scanner line hrules]
      rfl
  | false =>
      rcases inside_or_outside scanner with ⟨hmode, hsection⟩ | hout
      · have hheeds : scanner.heeds .ruleHeader = true := by
          rw [heeds, hsection, (Mode.settled_eq_rules_iff _).mp hmode, Bool.and_self]
        rw [bodyRole_of_rules scanner line hcomment hrules hmode hsection, hheeds, Bool.and_true]
        cases Line.ruleHeader? line <;> rfl
      · -- The role asks what mode the state settles in, which says whether a block is open.
        have hheeds : scanner.heeds .ruleHeader = false := by
          rw [heeds, Bool.and_eq_false_iff, ← Bool.not_eq_true scanner.mode.rulesOpen,
            ← Mode.settled_eq_rules_iff]
          exact hout.symm
        rw [role_of_outside scanner line hcomment hrules hout, hheeds, Bool.and_false]
        rfl

/-- A line counts as the first of its kinds in the states that heed it, and not at all in others. -/
theorem kind?_role :
    (scanner.role line).kind? = (Line.kinds line).head?.filter scanner.heeds := by
  cases hcomment : Line.isComment line with
  | true =>
      rw [Line.kinds_of_isComment line hcomment]
      cases htitle : Line.title? line with
      | some title =>
          simp only [role, htitle, List.filter, Line.Kind.fits, Option.isSome_some]
          rfl
      | none =>
          cases hheader : Line.section? line with
          | some name =>
              simp only [role, htitle, hheader, List.filter, Line.Kind.fits, Option.isSome_some,
                Option.isSome_none]
              rfl
          | none =>
              rw [kind?_role_of_isComment scanner line hcomment htitle hheader]
              simp only [List.filter, Line.Kind.fits, htitle, hheader, Option.isSome_none]
              rfl
  | false =>
      rw [Line.kinds_of_not_isComment line hcomment,
        kind?_role_of_not_isComment scanner line hcomment]
      simp only [List.filter, Line.Kind.fits]
      -- A nested severity counts in no state, so it may be one as well.
      cases Line.startsRules line <;> cases (Line.ruleHeader? line).isSome <;>
        cases (Line.nestedSeverity? line).isSome <;> rfl

/-- The first of several kinds is heeded in every state. -/
theorem heeds_of_overlap (first second : Line.Kind) (others : List Line.Kind)
    (h : Line.kinds line = first :: second :: others) : scanner.heeds first = true := by
  -- Which kinds come first is read off the table of combinations.
  have htable : ∀ kinds ∈ Line.Kind.combinations, 2 ≤ kinds.length →
      kinds.head? ∈ [some .title, some .sectionHeader, some Line.Kind.rulesStart] := by decide
  have hfirst := htable _ (Line.kinds_mem_combinations line)
  rw [h] at hfirst
  have hcases := hfirst (by simp only [List.length_cons]; omega)
  simp only [List.head?_cons, List.mem_cons, Option.some.injEq, List.not_mem_nil,
    or_false] at hcases
  rcases hcases with rfl | rfl | rfl <;> rfl

end Scanner

namespace Line

/-- The kinds of a line exclude each other but for three overlaps, and where they overlap the order
    of the tests decides what the line is. -/
structure KeptApart (line : Text) : Prop where
  /-- A line has at most one of the two markers. -/
  one_marker : title? line = none ∨ Line.section? line = none
  comment_of_title : (title? line).isSome = true → isComment line = true
  comment_of_section : (Line.section? line).isSome = true → isComment line = true
  comment_iff : isComment line = true ↔
    ∃ gap rest : Text, IsGap gap ∧ line = gap ++ '#' :: rest
  /-- The text of a comment is what stands behind the `#`, less one white space character. -/
  text_of_comment : ∀ gap rest : Text, IsGap gap → line = gap ++ '#' :: rest →
    uncomment line = if rest.head?.any Text.isBlank then rest.tail else rest
  text_of_other : isComment line = false → uncomment line = line
  /-- A comment is none of the kinds that are not marked by a `#`. -/
  comment_apart : isComment line = true →
    startsRules line = false ∧ ruleHeader? line = none ∧ nestedSeverity? line = none
  nested_iff : isNested line = true ↔ ("    " : Text) <+: line
  nested_apart : ("    " : Text) <+: line → ruleHeader? line = none
  severity_apart : (nestedSeverity? line).isSome = true → ruleHeader? line = none
  /-- A rule header starts a rules block just when the rule is called `rules`, without anything in
      front of the colon or a severity behind it. -/
  rules_and_header_iff : startsRules line = true ∧ (ruleHeader? line).isSome = true ↔
    ∃ lead tail : Text, IsGap lead ∧ lead.length = 2 ∧ IsGap tail ∧
      line = lead ++ (("rules:" : Text) ++ tail)
  /-- Only the kinds of one combination come together. -/
  kinds_mem : kinds line ∈ Kind.combinations
  /-- Of several kinds the line counts as the one that is tried first, whatever the state. -/
  first_counts : ∀ first second others, kinds line = first :: second :: others →
    ∀ scanner : Scanner, (scanner.role line).kind? = some first

/-- Kinds of lines overlap only where the order in which they are tried decides. -/
theorem keptApart (line : Text) : KeptApart line := by
  have hmarker : title? line = none ∨ Line.section? line = none := by
    cases htitle : title? line with
    | none => exact Or.inl rfl
    | some title => exact Or.inr (section?_eq_none_of_title? line title htitle)
  have hnested : isNested line = true ↔ ("    " : Text) <+: line := by
    rw [isNested_iff]
    exact ⟨fun ⟨rest, hrest⟩ => ⟨rest, hrest.symm⟩, fun ⟨rest, hrest⟩ => ⟨rest, hrest.symm⟩⟩
  refine ⟨hmarker, fun htitle => ?_, fun hsection => ?_, isComment_iff_gap line,
    fun gap rest hgap hline => ?_, uncomment_of_not_isComment line, fun hcomment => ?_, hnested,
    fun hspaces => ruleHeader?_eq_none_of_isNested line (hnested.mpr hspaces), fun hseverity => ?_,
    startsRules_and_ruleHeader?_iff line, kinds_mem_combinations line,
    fun first second others hkinds scanner => ?_⟩
  · rcases Option.isSome_iff_exists.mp htitle with ⟨title, htitle⟩
    exact isComment_of_title? line title htitle
  · rcases Option.isSome_iff_exists.mp hsection with ⟨name, hsection⟩
    exact isComment_of_section? line name hsection
  · rw [hline, uncomment_gap gap rest hgap]
  · exact ⟨startsRules_eq_false_of_isComment line hcomment,
      ruleHeader?_eq_none_of_isComment line hcomment,
      nestedSeverity?_eq_none_of_isComment line hcomment⟩
  · rcases Option.isSome_iff_exists.mp hseverity with ⟨severity, hseverity⟩
    exact ruleHeader?_eq_none_of_nestedSeverity? line severity hseverity
  · have hheeds := scanner.heeds_of_overlap line first second others hkinds
    rw [scanner.kind?_role line, hkinds, List.head?_cons, Option.filter_some, if_pos hheeds]

end Line

end StyleGuide
