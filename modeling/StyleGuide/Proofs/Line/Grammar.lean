import StyleGuide.Line
import StyleGuide.Proofs.Text.Fold
import StyleGuide.Proofs.Text.Trim
import Mathlib.Data.Option.Basic
import Mathlib.Logic.Relator

/-!
# The grammar of headers

Rule headers, nested severities and example headers are each given by a pattern: parts of text in a
row, where a part may repeat a class of characters and an optional part may be missing. A pattern
says which lines match and leaves open which of several ways to divide a line is taken.

Here the patterns are relations between a line and what is read off it, one constructor for each way
a line can be built. The readers take as much as possible of each part, from left to right, and never
go back. That they accept the same lines is one fact about each part: the character that may follow
it is none of its own, so it can end in one place only. White space is followed by something visible,
a name by white space or the colon, a word by white space, a label by the closing parenthesis. For
the same reason a line can be read in one way only, and the relations are functions.

The keywords of an example header match in any case, by case folding of all of Unicode. Both keywords
and `example` itself have no spelling beyond ASCII, so what such a pattern matches is also a keyword
to a comparison that knows ASCII letters only.

## Main definitions

* `Line.IsName`: What a rule may be called.
* `Line.IsWord`: What may be written down as a severity.
* `Line.IsGap`: White space of any length.
* `Line.IsRuleHeader`, `Line.IsNestedSeverity`, `Line.IsExampleHeader`: What a line of each kind is
  built from.
* `Line.IsHeaderEnd`: What may follow the two words of an example header.

## Theorems

* `loneWord?_eq_some_iff`: A word and white space up to the end.
* `ruleHeader?_append`, `headerLabel?_append`: What is put together from its parts is read.
* `ruleHeader?_eq_some_iff`, `nestedSeverity?_eq_some_iff`, `exampleHeader?_eq_some_iff`: Each reader
  accepts what its pattern allows, and nothing else.
* `ofKeyword?_eq_some_iff`: Every spelling of a keyword names its kind.
* `readers_iff_patterns`: The three readers are their patterns, and the patterns are functions.
-/

namespace StyleGuide

namespace Line

/-- A name that a rule may have. -/
def IsName (name : Text) : Prop := name ≠ [] ∧ ∀ c ∈ name, isNameChar c = true

/-- A word, as severities are. -/
def IsWord (word : Text) : Prop := word ≠ [] ∧ ∀ c ∈ word, Text.isWordChar c = true

/-- White space, or nothing. -/
def IsGap (gap : Text) : Prop := ∀ c ∈ gap, Text.isBlank c = true

/-- How a rule header is built, and what it gives: the name alone, or the name and a severity. -/
inductive IsRuleHeader : Text → RuleHeader → Prop where
  | bare (lead name gap tail : Text) (hlead : IsGap lead) (hlength : lead.length = 2)
      (hname : IsName name) (hgap : IsGap gap) (htail : IsGap tail) :
      IsRuleHeader (lead ++ (name ++ (gap ++ ':' :: tail))) ⟨name, none⟩
  | inline (lead name gap before severity tail : Text) (hlead : IsGap lead)
      (hlength : lead.length = 2) (hname : IsName name) (hgap : IsGap gap) (hbefore : IsGap before)
      (hseverity : IsWord severity) (htail : IsGap tail) :
      IsRuleHeader (lead ++ (name ++ (gap ++ ':' :: (before ++ (severity ++ tail)))))
        ⟨name, some severity⟩

/-- How the severity of a nested block is written. -/
inductive IsNestedSeverity : Text → Text → Prop where
  | intro (lead before severity tail : Text) (hlead : IsGap lead) (hlength : lead.length = 4)
      (hbefore : IsGap before) (hseverity : IsWord severity) (htail : IsGap tail) :
      IsNestedSeverity (lead ++ (("severity:" : Text) ++ (before ++ (severity ++ tail)))) severity

/-- What may follow the two words of an example header: the colon, or a label in parentheses and the
    colon. -/
inductive IsHeaderEnd : Text → Option Text → Prop where
  | bare : IsHeaderEnd (":" : Text) none
  | labelled (gap label : Text) (hgap : IsGap gap) (hne : label ≠ []) (hclose : ')' ∉ label) :
      IsHeaderEnd (gap ++ '(' :: (label ++ ("):" : Text))) (some label)

/-- How an example header is built, and what it gives. -/
inductive IsExampleHeader : Text → ExampleHeader → Prop where
  | intro (kind : ExampleKind) (label : Option Text) (keyword gap word ending : Text)
      (hkeyword : Text.fold keyword = kind.keyword) (hgap : IsGap gap) (hne : gap ≠ [])
      (hword : Text.fold word = ("example" : Text)) (hending : IsHeaderEnd ending label) :
      IsExampleHeader (keyword ++ (gap ++ (word ++ ending))) ⟨kind, label⟩

/-! ### Gaps and words -/

/-- A text is the white space at its start and what trimming leaves. -/
theorem exists_gap (text : Text) : ∃ gap : Text, IsGap gap ∧ text = gap ++ text.trimStart :=
  ⟨text.takeWhile Text.isBlank, fun _ hc => List.mem_takeWhile_imp hc,
    List.takeWhile_append_dropWhile.symm⟩

/-- White space in front of something visible is what trimming removes. -/
theorem trimStart_gap_append (gap rest : Text) (hgap : IsGap gap)
    (hrest : ∀ c ∈ rest.head?, Text.isBlank c = false) : Text.trimStart (gap ++ rest) = rest :=
  Text.dropWhile_append_of_stop Text.isBlank gap rest hgap hrest

theorem trimStart_gap (gap : Text) (hgap : IsGap gap) : gap.trimStart = [] := by
  have htrim := trimStart_gap_append gap [] hgap (by simp only [List.head?_nil, Option.mem_def,
    reduceCtorEq, false_implies, implies_true])
  rwa [List.append_nil] at htrim

/-- What is made of a class of characters without white space has a visible first character. -/
theorem head?_of_class (p : Char → Bool) (hp : ∀ c, p c = true → Text.isBlank c = false)
    (front rest : Text) (hne : front ≠ []) (hfront : ∀ c ∈ front, p c = true) :
    ∀ c ∈ (front ++ rest).head?, Text.isBlank c = false := by
  cases front with
  | nil => exact absurd rfl hne
  | cons d front =>
      exact Text.forall_mem_head?_cons _ d (front ++ rest) (hp d (hfront d List.mem_cons_self))

/-- The first character of a word is visible. -/
theorem head?_of_isWord (word rest : Text) (h : IsWord word) :
    ∀ c ∈ (word ++ rest).head?, Text.isBlank c = false :=
  head?_of_class Text.isWordChar Text.isBlank_eq_false_of_isWordChar word rest h.1 h.2

/-- A word with white space behind it is read as that word. -/
theorem loneWord?_append (word blanks : Text) (hword : ∀ c ∈ word, Text.isWordChar c = true)
    (hblanks : ∀ c ∈ blanks, Text.isBlank c = true) : loneWord? (word ++ blanks) = some word := by
  have hstop : ∀ c ∈ blanks.head?, Text.isWordChar c = false := by
    intro c hc
    rw [← Bool.not_eq_true]
    intro hw
    have hblank := hblanks c (List.mem_of_mem_head? hc)
    rw [Text.isBlank_eq_false_of_isWordChar c hw] at hblank
    exact Bool.false_ne_true hblank
  rw [loneWord?, Text.dropWhile_append_of_stop _ _ _ hword hstop,
    Text.takeWhile_append_of_stop _ _ _ hword hstop,
    if_pos ((Text.allBlank_iff blanks).mpr hblanks)]

/-- A lone word is a word, or nothing, with white space behind it. -/
theorem loneWord?_eq_some_iff (text word : Text) : loneWord? text = some word ↔
    ∃ tail : Text, text = word ++ tail ∧ (∀ c ∈ word, Text.isWordChar c = true) ∧ IsGap tail := by
  constructor
  · intro h
    rw [loneWord?, Option.ite_none_right_eq_some, Option.some.injEq] at h
    refine ⟨text.dropWhile Text.isWordChar, ?_, ?_, (Text.allBlank_iff _).mp h.1⟩
    · rw [← h.2, List.takeWhile_append_dropWhile]
    · rw [← h.2]
      exact fun c hc => List.mem_takeWhile_imp hc
  · rintro ⟨tail, rfl, hword, htail⟩
    exact loneWord?_append word tail hword htail

/-- Behind a gap a word with white space behind it is read as that word. -/
theorem loneWord?_behind_gap (before word tail : Text) (hbefore : IsGap before) (hword : IsWord word)
    (htail : IsGap tail) : loneWord? (Text.trimStart (before ++ (word ++ tail))) = some word := by
  rw [trimStart_gap_append before _ hbefore (head?_of_isWord word tail hword)]
  exact loneWord?_append word tail hword.2 htail

/-! ### Rule headers and nested severities -/

theorem isBlank_eq_false_of_isNameChar (c : Char) (h : isNameChar c = true) :
    Text.isBlank c = false :=
  Text.isBlank_eq_false_of_codes isNameChar (by decide +kernel) c h

/-- The first character of a name is visible. -/
theorem head?_of_isName (name rest : Text) (h : IsName name) :
    ∀ c ∈ (name ++ rest).head?, Text.isBlank c = false :=
  head?_of_class isNameChar isBlank_eq_false_of_isNameChar name rest h.1 h.2

/-- What is read as a rule header is built like one. -/
theorem isRuleHeader_of_ruleHeader? (line : Text) (header : RuleHeader)
    (h : ruleHeader? line = some header) : IsRuleHeader line header := by
  simp only [ruleHeader?, Option.bind_eq_bind, Option.bind_eq_some_iff, Option.guard_eq_some',
    Option.pure_def, Option.some.injEq] at h
  rcases h with ⟨body, hbody, _, hvisible, value, hvalue, severity, hseverity, rfl⟩
  rcases Text.skipBlanks?_eq_some 2 line body hbody with ⟨lead, hlead, hlength, rfl⟩
  -- The line is taken apart from left to right, each part as the reader found it.
  have hbodySplit := List.takeWhile_append_dropWhile (p := isNameChar) (l := body)
  have hname : IsName (body.takeWhile isNameChar) := by
    refine ⟨?_, fun c hc => List.mem_takeWhile_imp hc⟩
    simpa only [Bool.not_eq_true', List.isEmpty_eq_false_iff] using hvisible
  generalize body.takeWhile isNameChar = name at hbodySplit hname
  generalize body.dropWhile isNameChar = rest at hbodySplit hvalue
  rcases exists_gap rest with ⟨gap, hgap, hrest⟩
  rw [(Text.afterLead?_eq_some_iff _ _ _).mp hvalue] at hrest
  rcases exists_gap value with ⟨before, hbefore, hvalueSplit⟩
  rcases (loneWord?_eq_some_iff _ _).mp hseverity with ⟨tail, htrim, hword, htail⟩
  rw [htrim] at hvalueSplit
  rw [← hbodySplit, hrest]
  by_cases hempty : severity = []
  · have hblank : IsGap value := by
      rw [hvalueSplit, hempty, List.nil_append]
      exact List.forall_mem_append.mpr ⟨hbefore, htail⟩
    rw [if_pos (List.isEmpty_iff.mpr hempty)]
    exact .bare lead name gap value hlead hlength hname hgap hblank
  · rw [if_neg (fun h => hempty (List.isEmpty_iff.mp h)), hvalueSplit]
    exact .inline lead name gap before severity tail hlead hlength hname hgap hbefore
      ⟨hempty, hword⟩ htail

/-- A rule header is read from its parts: white space of two characters, the name, more white
    space, the colon, and a value that is one word or nothing. -/
theorem ruleHeader?_append (blanks name gap value severity : Text)
    (hblanks : ∀ c ∈ blanks, Text.isBlank c = true) (hlength : blanks.length = 2)
    (hname : IsName name) (hgap : ∀ c ∈ gap, Text.isBlank c = true)
    (hvalue : loneWord? value.trimStart = some severity) :
    ruleHeader? (blanks ++ (name ++ (gap ++ ':' :: value))) =
      some ⟨name, if severity.isEmpty then none else some severity⟩ := by
  have hskip : Text.skipBlanks? 2 (blanks ++ (name ++ (gap ++ ':' :: value))) =
      some (name ++ (gap ++ ':' :: value)) := by
    rw [← hlength]
    exact Text.skipBlanks?_append _ _ hblanks
  -- Neither the white space nor the colon can be a part of the name.
  have hstop : ∀ c ∈ (gap ++ ':' :: value).head?, isNameChar c = false := by
    refine Text.forall_mem_head?_append _ gap ':' value (fun c hc => ?_) (by decide)
    rw [← Bool.not_eq_true]
    intro hn
    have hblank := hgap c hc
    rw [isBlank_eq_false_of_isNameChar c hn] at hblank
    exact Bool.false_ne_true hblank
  have hcolon : Text.trimStart (gap ++ ':' :: value) = (":" : Text) ++ value := by
    rw [Text.trimStart_append_of_blank _ _ hgap,
      Text.trimStart_cons_of_not_blank _ _ (by decide)]
    rfl
  have hne : (!name.isEmpty) = true := by
    rw [Bool.not_eq_true', List.isEmpty_eq_false_iff]
    exact hname.1
  simp only [ruleHeader?, Option.bind_eq_bind, hskip, Option.bind_some,
    Text.takeWhile_append_of_stop _ _ _ hname.2 hstop,
    Text.dropWhile_append_of_stop _ _ _ hname.2 hstop, hcolon, Text.afterLead?_append, hvalue,
    guard, hne, if_true, Option.pure_def]

/-- A line built like a rule header is read as one. -/
theorem ruleHeader?_of_isRuleHeader (line : Text) (header : RuleHeader)
    (h : IsRuleHeader line header) : ruleHeader? line = some header := by
  cases h with
  | bare lead name gap tail hlead hlength hname hgap htail =>
      have hnothing : loneWord? tail.trimStart = some [] := by
        rw [trimStart_gap tail htail]
        rfl
      exact ruleHeader?_append lead name gap tail [] hlead hlength hname hgap hnothing
  | inline lead name gap before severity tail hlead hlength hname hgap hbefore hseverity htail =>
      have hword := loneWord?_behind_gap before severity tail hbefore hseverity htail
      have hread := ruleHeader?_append lead name gap _ severity hlead hlength hname hgap hword
      rwa [if_neg (fun hempty => hseverity.1 (List.isEmpty_iff.mp hempty))] at hread

/-- The reader of rule headers accepts what the pattern allows, and nothing else. -/
theorem ruleHeader?_eq_some_iff (line : Text) (header : RuleHeader) :
    ruleHeader? line = some header ↔ IsRuleHeader line header :=
  ⟨isRuleHeader_of_ruleHeader? line header, ruleHeader?_of_isRuleHeader line header⟩

/-- The reader of nested severities accepts what the pattern allows, and nothing else. -/
theorem nestedSeverity?_eq_some_iff (line severity : Text) :
    nestedSeverity? line = some severity ↔ IsNestedSeverity line severity := by
  constructor
  · intro h
    simp only [nestedSeverity?, Option.bind_eq_bind, Option.bind_eq_some_iff,
      Option.guard_eq_some', Option.pure_def, Option.some.injEq] at h
    rcases h with ⟨body, hbody, value, hvalue, found, hfound, _, hvisible, rfl⟩
    rcases Text.skipBlanks?_eq_some 4 line body hbody with ⟨lead, hlead, hlength, rfl⟩
    rcases exists_gap value with ⟨before, hbefore, hsplit⟩
    rcases (loneWord?_eq_some_iff _ _).mp hfound with ⟨tail, htrim, hword, htail⟩
    have hne : found ≠ [] := by
      simpa only [Bool.not_eq_true', List.isEmpty_eq_false_iff] using hvisible
    rw [(Text.afterLead?_eq_some_iff _ _ _).mp hvalue, hsplit, htrim]
    exact .intro lead before found tail hlead hlength hbefore ⟨hne, hword⟩ htail
  · rintro ⟨lead, before, severity, tail, hlead, hlength, hbefore, hseverity, htail⟩
    have hskip := Text.skipBlanks?_append lead
      (("severity:" : Text) ++ (before ++ (severity ++ tail))) hlead
    rw [hlength] at hskip
    have hword := loneWord?_behind_gap before severity tail hbefore hseverity htail
    have hne : (!severity.isEmpty) = true := by
      rw [Bool.not_eq_true', List.isEmpty_eq_false_iff]
      exact hseverity.1
    simp only [nestedSeverity?, Option.bind_eq_bind, hskip, Option.bind_some,
      Text.afterLead?_append, hword, guard, hne, if_true, Option.pure_def]

/-! ### Keywords in any case -/

theorem spelledInAscii_keyword (kind : ExampleKind) : Text.SpelledInAscii kind.keyword := by
  cases kind <;> decide

/-- What a keyword matches in any case is what folds to it. -/
theorem afterWord?_eq_some_iff (word text rest : Text) (hword : Text.SpelledInAscii word) :
    afterWord? word text = some rest ↔
      ∃ found : Text, text = found ++ rest ∧ Text.fold found = word := by
  constructor
  · intro h
    rw [afterWord?, Option.ite_none_right_eq_some, Option.some.injEq] at h
    refine ⟨text.take word.length, ?_, (Text.fold_eq_iff _ word hword).mpr h.1⟩
    rw [← h.2, List.take_append_drop]
  · rintro ⟨found, rfl, hfound⟩
    have hlength : found.length = word.length := by rw [← hfound, Text.length_fold]
    rw [afterWord?, List.take_left' hlength, List.drop_left' hlength,
      if_pos ((Text.fold_eq_iff found word hword).mp hfound)]

/-- Every spelling of a keyword names its kind, and nothing else does. -/
theorem ofKeyword?_eq_some_iff (keyword : Text) (kind : ExampleKind) :
    ExampleKind.ofKeyword? keyword = some kind ↔ Text.fold keyword = kind.keyword := by
  have hvalid := Text.fold_eq_iff keyword ExampleKind.valid.keyword (spelledInAscii_keyword _)
  have hinvalid := Text.fold_eq_iff keyword ExampleKind.invalid.keyword (spelledInAscii_keyword _)
  have happart : ExampleKind.valid.keyword ≠ ExampleKind.invalid.keyword := by decide
  have hread : ExampleKind.ofKeyword? keyword =
      if Text.sameIgnoringCase keyword ExampleKind.valid.keyword then some .valid
      else if Text.sameIgnoringCase keyword ExampleKind.invalid.keyword then some .invalid
      else none := rfl
  rw [hread]
  by_cases h : Text.fold keyword = ExampleKind.valid.keyword
  · rw [if_pos (hvalid.mp h), h]
    cases kind with
    | valid => exact iff_of_true rfl rfl
    | invalid => exact iff_of_false (by decide) happart
  · rw [if_neg (fun hsame => h (hvalid.mpr hsame)), Option.ite_none_right_eq_some]
    cases kind with
    | valid => exact iff_of_false (fun hsame => absurd hsame.2 (by decide)) h
    | invalid => exact ⟨fun hsame => hinvalid.mpr hsame.1, fun hfold => ⟨hinvalid.mp hfold, rfl⟩⟩

/-- The kind at the start of a text is read off the keyword that stands there. -/
theorem leadingKind?_eq_some_iff (text rest : Text) (kind : ExampleKind) :
    leadingKind? text = some (kind, rest) ↔
      ∃ keyword : Text, text = keyword ++ rest ∧ Text.fold keyword = kind.keyword := by
  have hvalid := afterWord?_eq_some_iff ExampleKind.valid.keyword text rest
    (spelledInAscii_keyword _)
  have hinvalid := afterWord?_eq_some_iff ExampleKind.invalid.keyword text rest
    (spelledInAscii_keyword _)
  unfold leadingKind?
  cases hfirst : afterWord? ExampleKind.valid.keyword text with
  | some rest' =>
      rcases (afterWord?_eq_some_iff _ text rest' (spelledInAscii_keyword _)).mp hfirst with
        ⟨found, hsplit, hfound⟩
      cases kind with
      | valid =>
          rw [← hvalid, hfirst, Option.some.injEq, Option.some.injEq, Prod.mk.injEq]
          exact ⟨And.right, And.intro rfl⟩
      | invalid =>
          refine iff_of_false (by simp only [Option.some.injEq, Prod.mk.injEq, reduceCtorEq,
            false_and, not_false_eq_true]) ?_
          -- The first letter of the text would fold to that of each of the two words.
          rintro ⟨keyword, hkeyword, hfold⟩
          have hboth := congrArg Text.fold (hsplit.symm.trans hkeyword)
          rw [Text.fold_append, Text.fold_append, hfound, hfold] at hboth
          exact absurd (List.cons.inj hboth).1 (by decide)
  | none =>
      cases kind with
      | valid =>
          rw [← hvalid, hfirst]
          refine iff_of_false (fun h => ?_) (by simp only [reduceCtorEq, not_false_eq_true])
          rcases Option.map_eq_some_iff.mp h with ⟨_, _, hpair⟩
          exact absurd (Prod.mk.inj hpair).1 (by decide)
      | invalid =>
          rw [← hinvalid, Option.map_eq_some_iff]
          constructor
          · rintro ⟨rest', hrest, hpair⟩
            rw [← (Prod.mk.inj hpair).2]
            exact hrest
          · exact fun h => ⟨rest, h, rfl⟩

/-! ### Example headers -/

/-- A label in its parentheses is read back, with white space in front of them. -/
theorem headerLabel?_append (gap label : Text) (hgap : ∀ c ∈ gap, Text.isBlank c = true)
    (hne : label ≠ []) (hclose : ')' ∉ label) :
    headerLabel? (gap ++ '(' :: (label ++ ("):" : Text))) = some (some label) := by
  have hinside : ∀ c ∈ label, (c != ')') = true := by
    intro c hc
    rw [bne_iff_ne]
    exact fun h => hclose (h ▸ hc)
  have hstop : ∀ c ∈ (("):" : String) : Text).head?, (c != ')') = false :=
    Text.forall_mem_head?_cons _ ')' [':'] rfl
  have htrim : Text.trimStart (gap ++ '(' :: (label ++ ("):" : Text))) =
      ("(" : Text) ++ (label ++ ("):" : Text)) := by
    rw [Text.trimStart_append_of_blank _ _ hgap, Text.trimStart_cons_of_not_blank _ _ (by decide)]
    rfl
  -- The whole text is not a colon alone: it holds a parenthesis.
  have hcolon : gap ++ '(' :: (label ++ ("):" : Text)) ≠ ((":" : String) : Text) := by
    intro h
    have hparenthesis : '(' ∈ ((":" : String) : Text) := by
      rw [← h]
      exact List.mem_append_right _ List.mem_cons_self
    exact absurd hparenthesis (by decide)
  have hne' : (!label.isEmpty) = true := by
    rw [Bool.not_eq_true', List.isEmpty_eq_false_iff]
    exact hne
  simp only [headerLabel?, if_neg hcolon, htrim, Text.afterLead?_append, Option.bind_eq_bind,
    Option.bind_some, Text.takeWhile_append_of_stop _ _ _ hinside hstop,
    Text.dropWhile_append_of_stop _ _ _ hinside hstop, guard, hne', if_true, Option.pure_def]

/-- The end of an example header is read as the pattern has it. -/
theorem headerLabel?_eq_some_iff (text : Text) (label : Option Text) :
    headerLabel? text = some label ↔ IsHeaderEnd text label := by
  constructor
  · intro h
    rw [headerLabel?] at h
    split at h
    · rename_i hcolon
      rw [hcolon, ← Option.some.inj h]
      exact .bare
    · simp only [Option.bind_eq_bind, Option.bind_eq_some_iff, Option.guard_eq_some',
        Option.pure_def, Option.some.injEq] at h
      rcases h with ⟨body, hbody, _, hvisible, _, hclose, rfl⟩
      rcases exists_gap text with ⟨gap, hgap, hsplit⟩
      have hbodySplit := List.takeWhile_append_dropWhile (p := (· != ')')) (l := body)
      rw [hclose] at hbodySplit
      have hne : body.takeWhile (· != ')') ≠ [] := by
        simpa only [Bool.not_eq_true', List.isEmpty_eq_false_iff] using hvisible
      have hinside : ')' ∉ body.takeWhile (· != ')') :=
        fun hmem => absurd (List.mem_takeWhile_imp hmem) (by decide)
      rw [hsplit, (Text.afterLead?_eq_some_iff _ _ _).mp hbody]
      generalize body.takeWhile (· != ')') = label at hbodySplit hne hinside
      rw [← hbodySplit]
      exact .labelled gap label hgap hne hinside
  · rintro (_ | ⟨gap, label, hgap, hne, hclose⟩)
    · rfl
    · exact headerLabel?_append gap label hgap hne hclose

/-- The word `example` begins with a visible character, however it is written. -/
theorem head?_of_fold_example (word rest : Text) (h : Text.fold word = ("example" : Text)) :
    ∀ c ∈ (word ++ rest).head?, Text.isBlank c = false := by
  cases word with
  | nil => exact absurd h (by decide)
  | cons d word =>
      have hletter : (Text.foldChar d == 'e') = true := beq_iff_eq.mpr (List.cons.inj h).1
      exact Text.forall_mem_head?_cons _ d (word ++ rest)
        (Text.isBlank_eq_false_of_codes (fun c => Text.foldChar c == 'e') (by decide +kernel) d
          hletter)

/-- The reader of example headers accepts what the pattern allows, and nothing else. -/
theorem exampleHeader?_eq_some_iff (text : Text) (header : ExampleHeader) :
    exampleHeader? text = some header ↔ IsExampleHeader text header := by
  have hexample : Text.SpelledInAscii ("example" : Text) := by decide
  constructor
  · intro h
    simp only [exampleHeader?, Option.bind_eq_bind, Option.bind_eq_some_iff, Option.guard_eq_some',
      Option.pure_def, Option.some.injEq, Prod.exists] at h
    rcases h with ⟨kind, rest, hkind, _, hgap, ending, hword, label, hlabel, rfl⟩
    rcases (leadingKind?_eq_some_iff text rest kind).mp hkind with ⟨keyword, rfl, hkeyword⟩
    rcases (afterWord?_eq_some_iff _ _ ending hexample).mp hword with ⟨word, htrim, hfold⟩
    have hrest := List.takeWhile_append_dropWhile (p := Text.isBlank) (l := rest)
    have hblank : IsGap (rest.takeWhile Text.isBlank) := fun c hc => List.mem_takeWhile_imp hc
    generalize rest.takeWhile Text.isBlank = gap at hrest hgap hblank
    rw [← hrest, show rest.dropWhile Text.isBlank = word ++ ending from htrim]
    exact .intro kind label keyword gap word ending hkeyword hblank hgap hfold
      ((headerLabel?_eq_some_iff ending label).mp hlabel)
  · rintro ⟨kind, label, keyword, gap, word, ending, hkeyword, hgap, hne, hword, hending⟩
    have hvisible := head?_of_fold_example word ending hword
    have hkind := (leadingKind?_eq_some_iff (keyword ++ (gap ++ (word ++ ending)))
      (gap ++ (word ++ ending)) kind).mpr ⟨keyword, rfl, hkeyword⟩
    have htake := Text.takeWhile_append_of_stop Text.isBlank gap (word ++ ending) hgap hvisible
    have htail := (afterWord?_eq_some_iff ("example" : Text) (word ++ ending) ending hexample).mpr
      ⟨word, rfl, hword⟩
    have hlabel := (headerLabel?_eq_some_iff ending label).mpr hending
    simp only [exampleHeader?, Option.bind_eq_bind, hkind, Option.bind_some, htake,
      trimStart_gap_append gap (word ++ ending) hgap hvisible, htail, hlabel, guard, hne,
      ne_eq, not_false_eq_true, if_true, Option.pure_def]

/-! ### Readers and patterns -/

/-- A relation that a reader decides is a function. -/
theorem rightUnique_of_reader {α : Type} (read : Text → Option α) (IsWritten : Text → α → Prop)
    (h : ∀ text value, read text = some value ↔ IsWritten text value) :
    Relator.RightUnique IsWritten := by
  intro text a b ha hb
  exact Option.some.inj (((h text a).mpr ha).symm.trans ((h text b).mpr hb))

/-- The three readers accept what their patterns allow and give what the patterns give, which is
    never more than one thing for a line. Whatever spelling of a keyword the pattern of an example
    header lets through, the keyword names its kind. -/
theorem readers_iff_patterns :
    (∀ line header, ruleHeader? line = some header ↔ IsRuleHeader line header) ∧
    (∀ line severity, nestedSeverity? line = some severity ↔ IsNestedSeverity line severity) ∧
    (∀ text header, exampleHeader? text = some header ↔ IsExampleHeader text header) ∧
    (∀ keyword kind,
      ExampleKind.ofKeyword? keyword = some kind ↔ Text.fold keyword = kind.keyword) ∧
    Relator.RightUnique IsRuleHeader ∧ Relator.RightUnique IsNestedSeverity ∧
    Relator.RightUnique IsExampleHeader :=
  ⟨ruleHeader?_eq_some_iff, nestedSeverity?_eq_some_iff, exampleHeader?_eq_some_iff,
    ofKeyword?_eq_some_iff, rightUnique_of_reader _ _ ruleHeader?_eq_some_iff,
    rightUnique_of_reader _ _ nestedSeverity?_eq_some_iff,
    rightUnique_of_reader _ _ exampleHeader?_eq_some_iff⟩

end Line

end StyleGuide
