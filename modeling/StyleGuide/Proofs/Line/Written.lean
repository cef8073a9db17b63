import StyleGuide.Proofs.Line.Payload

/-!
# Lines as they are written

The other direction: lines that are put together from their parts, and what they are read as.

Most kinds of lines can be written in more than one way, and the ways are not equally safe. A
comment whose text is `Title: a` must not become a title line, so comments are written with a tab
behind the `#`: one white space character is removed there whatever it is, and the markers ask for
a space. A rule called `rules` must not start a rules block, so a space stands in front of the
colon of a header without severity. `startsRules_named` is what makes that enough: a line that
begins with a name starts a rules block only if the name is `rules` and the colon follows at once.

## Main definitions

* `Line.titleLine`, `Line.sectionLine`, `Line.commentLine`: Marked lines and comments.
* `Line.descriptionLine`: The comment for a line of a description.
* `Line.inlineHeader`, `Line.bareHeader`: Rule headers with and without a severity.
* `Line.spacedHeader`: A rule header that starts no rules block.
* `Line.severityLine`: A nested severity.
* `Line.exampleText`: The comment text that heads an example.

## Theorems

* `title?_titleLine`, `section?_sectionLine`: Marked lines are read back.
* `uncomment_commentLine`: The text of a comment is read back.
* `title?_commentLine`, `section?_commentLine`: Such a comment is never a marked line.
* `described_descriptionLine`: A description line is read back.
* `startsRules_named`: When a line that begins with a name starts a rules block.
* `ruleHeader?_inlineHeader`, `ruleHeader?_bareHeader`, `ruleHeader?_spacedHeader`: Rule headers
  are read back.
* `startsRules_bareHeader`, `startsRules_spacedHeader`: Which of them start no rules block.
* `nestedSeverity?_severityLine`: A nested severity is read back.
* `exampleHeader?_exampleText`: An example header is read back.
-/

namespace StyleGuide

namespace Line

/-- The title line of a title. -/
def titleLine (title : Text) : Text := titleMarker ++ ' ' :: title

/-- The section header of a section name. -/
def sectionLine (name : Text) : Text := sectionMarker ++ ' ' :: name

/-- A comment with a given text. -/
def commentLine (text : Text) : Text := '#' :: '\t' :: text

/-- The comment that gives a line of a description. -/
def descriptionLine (line : Text) : Text := commentLine (line.rdrop hardBreak.length)

/-- The header of a rule with its severity behind the colon. -/
def inlineHeader (name severity : Text) : Text := ' ' :: ' ' :: (name ++ ':' :: ' ' :: severity)

/-- The header of a rule that ends with the colon. -/
def bareHeader (name : Text) : Text := ' ' :: ' ' :: (name ++ [':'])

/-- The header of a rule, with a space in front of the colon. -/
def spacedHeader (name value : Text) : Text := ' ' :: ' ' :: (name ++ ' ' :: ':' :: value)

/-- The line that gives the rule above it a severity. -/
def severityLine (severity : Text) : Text := ("    severity: " : Text) ++ severity

/-- The comment text that heads an example. -/
def exampleText (kind : ExampleKind) : Option Text → Text
  | none => kind.keyword ++ (" example:" : Text)
  | some label => kind.keyword ++ ((" example (" : Text) ++ (label ++ ("):" : Text)))

/-! ### Marked lines and comments -/

/-- A marker that ends with a visible character, a space and a payload make up a marked line. -/
theorem marked_append (marker payload : Text) (c : Char) (hc : Text.isBlank c = false)
    (hstart : Text.trimStart (marker ++ [c]) = marker ++ [c]) (hne : marker ≠ [])
    (h : Text.Trimmed payload) :
    (Text.afterLead? (marker ++ [c]) (Text.trim (marker ++ [c] ++ ' ' :: payload))).map Text.trim =
      some payload := by
  cases marker with
  | nil => exact absurd rfl hne
  | cons d marker =>
      have hd : Text.isBlank d = false := by
        have hhead := List.head?_dropWhile_not Text.isBlank (d :: marker ++ [c])
        rw [show List.dropWhile Text.isBlank (d :: marker ++ [c]) = d :: marker ++ [c] from hstart]
          at hhead
        simpa only [List.cons_append, List.head?_cons, Bool.not_eq_true'] using hhead
      have htrim : Text.trim (d :: marker ++ [c] ++ ' ' :: payload) =
          d :: marker ++ [c] ++ Text.trimEnd (' ' :: payload) := by
        rw [List.cons_append, List.cons_append, Text.trim_cons_of_not_blank _ _ hd,
          List.append_assoc, List.singleton_append,
          Text.trimEnd_append_cons_of_not_blank _ _ _ hc]
        simp only [List.cons_append, List.append_assoc, List.nil_append]
      have hpayload : Text.trim (' ' :: payload) = payload := by
        rw [← List.singleton_append, Text.trim_blanks_append _ _ Text.isBlank_of_mem_space,
          Text.trim_eq_self _ h]
      rw [htrim, Text.afterLead?_append, Option.map_some, Text.trim_trimEnd, hpayload]

/-- A title line is read back. -/
theorem title?_titleLine (title : Text) (h : Text.Trimmed title) :
    title? (titleLine title) = some title :=
  marked_append ("# Title" : Text) title ':' (by decide) (by decide) (by decide) h

/-- A section header is read back. -/
theorem section?_sectionLine (name : Text) (h : Text.Trimmed name) :
    Line.section? (sectionLine name) = some name :=
  marked_append ("# Section" : Text) name ':' (by decide) (by decide) (by decide) h

@[simp] theorem isComment_commentLine (text : Text) : isComment (commentLine text) = true := rfl

@[simp] theorem uncomment_commentLine (text : Text) : uncomment (commentLine text) = text := rfl

/-- Where a marker has a space, the comment has a tab. -/
theorem marked_commentLine (marker text : Text) (hmarker : marker[1]? = some ' ') :
    (Text.afterLead? marker (commentLine text).trim).map Text.trim = none := by
  cases hmarked : (Text.afterLead? marker (commentLine text).trim).map Text.trim with
  | none => rfl
  | some payload =>
      rcases (marked_eq_some_iff marker _ payload).mp hmarked with ⟨rest, hline, _⟩
      have htrim : (commentLine text).trim = '#' :: Text.trimEnd ('\t' :: text) :=
        Text.trim_cons_of_not_blank '#' ('\t' :: text) (by decide)
      rw [htrim] at hline
      have hsecond := congrArg (fun text : Text => text[1]?) hline
      simp only [List.getElem?_cons_succ] at hsecond
      rw [List.getElem?_append_left (List.getElem?_eq_some_iff.mp hmarker).1, hmarker] at hsecond
      rcases Text.trimEnd_append_removed ('\t' :: text) with ⟨blanks, _, htext⟩
      have hfirst : ('\t' :: text)[0]? = some ' ' := by
        rw [htext, List.getElem?_append_left (List.getElem?_eq_some_iff.mp hsecond).1]
        exact hsecond
      exact absurd hfirst (by
        rw [List.getElem?_cons_zero, Option.some.injEq]
        decide)

@[simp] theorem title?_commentLine (text : Text) : title? (commentLine text) = none :=
  marked_commentLine titleMarker text rfl

@[simp] theorem section?_commentLine (text : Text) : Line.section? (commentLine text) = none :=
  marked_commentLine sectionMarker text rfl

/-- A description line is read back. -/
theorem described_descriptionLine (line : Text) (h : hardBreak <:+ line) :
    described (descriptionLine line) = line := by
  rcases h with ⟨text, rfl⟩
  rw [described, descriptionLine, uncomment_commentLine, List.rdrop, List.length_append,
    Nat.add_sub_cancel, List.take_left' rfl]

/-! ### Rule headers and nested severities -/

/-- Behind a space a word is read as that word. -/
theorem loneWord?_spaced (word : Text) (h : IsWord word) :
    loneWord? (Text.trimStart (' ' :: word)) = some word := by
  have hword := loneWord?_behind_gap [' '] word [] Text.isBlank_of_mem_space h
    (List.forall_mem_nil _)
  rwa [List.append_nil] at hword

/-- The indentation of a rule header is white space. -/
theorem isBlank_of_mem_indent : ∀ c ∈ (("  " : String) : Text), Text.isBlank c = true :=
  (Text.allBlank_iff _).mp rfl

/-- When a line that begins with a name starts a rules block. -/
theorem startsRules_named (blanks name rest : Text)
    (hblanks : ∀ c ∈ blanks, Text.isBlank c = true) (hname : IsName name)
    (hrest : ∀ c ∈ rest.head?, isNameChar c = false)
    (h : startsRules (blanks ++ (name ++ rest)) = true) :
    name = ("rules" : Text) ∧
      ∃ after : Text, rest = ':' :: after ∧ ∀ c ∈ after, Text.isBlank c = true := by
  rcases (startsRules_iff _).mp h with ⟨lead, tail, hlead, htail, hline⟩
  -- Both ways to divide the line end the white space at the first visible character.
  have hkeyword : ∀ c ∈ (("rules:" : Text) ++ tail).head?, Text.isBlank c = false :=
    Text.forall_mem_head?_cons _ 'r' _ (by decide)
  have hsame : name ++ rest = ("rules:" : Text) ++ tail := by
    have htrim := congrArg Text.trimStart hline
    rwa [trimStart_gap_append blanks _ hblanks (head?_of_isName name rest hname),
      trimStart_gap_append lead _ hlead hkeyword] at htrim
  -- The name ends in front of the colon in both as well.
  have hfirst := congrArg (List.takeWhile isNameChar) hsame
  have hsecond := congrArg (List.dropWhile isNameChar) hsame
  rw [Text.takeWhile_append_of_stop _ _ _ hname.2 hrest] at hfirst
  rw [Text.dropWhile_append_of_stop _ _ _ hname.2 hrest] at hsecond
  exact ⟨hfirst, tail, hsecond, htail⟩

/-- A rule header with its severity is read back. -/
theorem ruleHeader?_inlineHeader (name severity : Text) (hname : IsName name)
    (hseverity : IsWord severity) :
    ruleHeader? (inlineHeader name severity) = some ⟨name, some severity⟩ := by
  have hread := ruleHeader?_append ("  " : Text) name [] (' ' :: severity) severity
    isBlank_of_mem_indent rfl hname (List.forall_mem_nil _)
    (loneWord?_spaced severity hseverity)
  rwa [if_neg (fun hempty => hseverity.1 (List.isEmpty_iff.mp hempty))] at hread

/-- A rule header without severity is read back. -/
theorem ruleHeader?_bareHeader (name : Text) (hname : IsName name) :
    ruleHeader? (bareHeader name) = some ⟨name, none⟩ :=
  ruleHeader?_append ("  " : Text) name [] [] [] isBlank_of_mem_indent rfl hname
    (List.forall_mem_nil _) rfl

theorem ruleHeader?_spacedHeader (name value severity : Text) (hname : IsName name)
    (hvalue : loneWord? value.trimStart = some severity) :
    ruleHeader? (spacedHeader name value) =
      some ⟨name, if severity.isEmpty then none else some severity⟩ :=
  ruleHeader?_append ("  " : Text) name [' '] value severity isBlank_of_mem_indent rfl hname
    Text.isBlank_of_mem_space hvalue

/-- Behind the colon of an inline header stands the severity, so it starts no rules block. -/
theorem startsRules_inlineHeader (name severity : Text) (hname : IsName name)
    (hseverity : IsWord severity) : startsRules (inlineHeader name severity) = false := by
  rw [Bool.eq_false_iff]
  intro h
  rcases startsRules_named ("  " : Text) name (':' :: ' ' :: severity) isBlank_of_mem_indent hname
    (Text.forall_mem_head?_cons _ ':' _ (by decide)) h with
    ⟨_, after, hafter, hblank⟩
  cases severity with
  | nil => exact hseverity.1 rfl
  | cons c severity =>
      have hc : Text.isBlank c = true := by
        refine hblank c ?_
        rw [← (List.cons.inj hafter).2]
        exact List.mem_cons_of_mem _ List.mem_cons_self
      rw [Text.isBlank_eq_false_of_isWordChar c (hseverity.2 c List.mem_cons_self)] at hc
      exact Bool.false_ne_true hc

/-- A bare header starts a rules block only if the rule is called `rules`. -/
theorem startsRules_bareHeader (name : Text) (hname : IsName name)
    (hrules : name ≠ ("rules" : Text)) : startsRules (bareHeader name) = false := by
  rw [Bool.eq_false_iff]
  intro h
  exact hrules (startsRules_named ("  " : Text) name [':'] isBlank_of_mem_indent hname
    (Text.forall_mem_head?_cons _ ':' _ (by decide)) h).1

/-- With a space in front of the colon not even that one does. -/
theorem startsRules_spacedHeader (name value : Text) (hname : IsName name) :
    startsRules (spacedHeader name value) = false := by
  rw [Bool.eq_false_iff]
  intro h
  rcases startsRules_named ("  " : Text) name (' ' :: ':' :: value) isBlank_of_mem_indent hname
    (Text.forall_mem_head?_cons _ ' ' _ (by decide)) h with
    ⟨_, after, hafter, _⟩
  exact absurd (List.cons.inj hafter).1 (by decide)

example : startsRules (bareHeader ("rules" : Text)) = true ∧
    startsRules (spacedHeader ("rules" : Text) []) = false := by decide

/-- A nested severity is read back. -/
theorem nestedSeverity?_severityLine (severity : Text) (h : IsWord severity) :
    nestedSeverity? (severityLine severity) = some severity := by
  have hwritten := IsNestedSeverity.intro ("    " : Text) [' '] severity []
    ((Text.allBlank_iff _).mp rfl) rfl Text.isBlank_of_mem_space h (List.forall_mem_nil _)
  rw [List.append_nil] at hwritten
  exact (nestedSeverity?_eq_some_iff _ severity).mpr hwritten

/-! ### Example headers -/

/-- An example header is read back. -/
theorem exampleHeader?_exampleText (kind : ExampleKind) (label : Option Text)
    (h : ∀ l ∈ label, IsLabel l) :
    exampleHeader? (exampleText kind label) = some ⟨kind, label⟩ := by
  have hkeyword : Text.fold kind.keyword = kind.keyword := by
    cases kind <;> decide +kernel
  have hword : Text.fold ("example" : Text) = ("example" : Text) := by decide +kernel
  have hwritten : ∀ ending : Text, IsHeaderEnd ending label →
      exampleHeader? (kind.keyword ++ ([' '] ++ (("example" : Text) ++ ending))) =
        some ⟨kind, label⟩ := by
    intro ending hending
    exact (exampleHeader?_eq_some_iff _ _).mpr (.intro kind label _ _ _ ending hkeyword
      Text.isBlank_of_mem_space (List.cons_ne_nil _ _) hword hending)
  cases label with
  | none => exact hwritten _ .bare
  | some label =>
      have hlabel := h label rfl
      exact hwritten _ (.labelled [' '] label Text.isBlank_of_mem_space hlabel.1 hlabel.2.1)

end Line

end StyleGuide
