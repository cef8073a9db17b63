import StyleGuide.Proofs.Scan.History
import Mathlib.Data.List.Forall2

/-!
# The outline of a document

Which lines of a ruleset become sections and which become rules, and where the rules go.

Scanning decides this line by line from a mode, but the outcome can be read off the lines. Every
section header becomes a section. A rule header becomes a rule if a section header and the start of
a rules block stand somewhere above it, in any order and at any distance; only a rule called
`rules` may be mistaken for the start of a rules block itself. The rule goes to the section whose
header is the last one above.

The rules made so far, with their places, are the ones read off the lines so far:
`placedRules_step` adds what one line makes, and `placedRules_feed` is the induction. It holds of
steps with any lines shown as following, since these decide nothing but severities. What stands in
the rule, and not only where it stands, is kept track of along with it, so that the facts about the
content of rules start from `placedRules_compile`.

## Main definitions

* `headerAt?`, `headerLines`: The lines that open sections.
* `ruleAt?`, `ruleLines`: The lines that make rules.
* `IsLastBefore`: The last line of some kind above a line.
* `newRule?`: The rule that a line makes, from the lines above it.

## Theorems

* `role_eq_ruleHeader_iff`: When a line has the role of a rule header.
* `placedRules_step`: A line adds the rule it makes and no other.
* `sections_feed`, `placedRules_feed`: The outline after any steps.
* `sections_compile`, `placedRules_compile`: The outline of a compiled document.
* `exists_last`: The last of those that have a property.
* `outline_compile`: Sections and rules correspond to their lines, one to one and in order.
-/

namespace StyleGuide

/-- The name of the section that line `i` opens. -/
def headerAt? (lines : List Text) (i : Nat) : Option Text := lines[i]?.bind Line.section?

/-- The lines that open sections. -/
def headerLines (lines : List Text) : List Nat :=
  (List.range lines.length).filter fun i => (headerAt? lines i).isSome

/-- The header of the rule that line `i` makes: it is a rule header and starts no rules block, and
    both a section header and the start of a rules block stand above it. -/
def ruleAt? (lines : List Text) (i : Nat) : Option RuleHeader :=
  if headerSeen (lines.take i) && rulesSeen (lines.take i) then
    lines[i]?.bind fun line => if Line.startsRules line then none else Line.ruleHeader? line
  else none

/-- The lines that make rules. -/
def ruleLines (lines : List Text) : List Nat :=
  (List.range lines.length).filter fun i => (ruleAt? lines i).isSome

/-- Line `j` is the last line above line `i` that `p` holds of. -/
def IsLastBefore (p : Text → Bool) (lines : List Text) (i j : Nat) : Prop :=
  j < i ∧ lines[j]?.any p = true ∧ ∀ k, j < k → k < i → lines[k]?.any p = false

/-- The rule that a line makes, below the lines seen and above the lines that follow. -/
def newRule? (options : ScanOptions) (seen : List Text) (line : Text) (following : List Text) :
    Option Rule :=
  if headerSeen seen && rulesSeen seen && !Line.startsRules line then
    (Line.ruleHeader? line).map fun header =>
      documentRule header.name (resolveSeverity options header following) (pendingAfter seen)
  else none

/-- The rule that step `i` makes, with the number of its section. -/
def placedAt? (options : ScanOptions) (steps : List (Text × List Text)) (i : Nat) :
    Option (Nat × Rule) :=
  steps[i]?.bind fun step =>
    (newRule? options ((steps.take i).map Prod.fst) step.1 step.2).map
      (Prod.mk ((((steps.take i).map Prod.fst).filterMap Line.section?).length - 1))

namespace Scanner

/-! ### One step -/

section Step

variable (options : ScanOptions) (scanner : Scanner) (line : Text) (following : List Text)

/-- When a line has the role of a rule header. -/
theorem role_eq_ruleHeader_iff (header : RuleHeader) :
    scanner.role line = .ruleHeader header ↔ Line.ruleHeader? line = some header ∧
      Line.startsRules line = false ∧ scanner.mode.settled = .rules ∧
        scanner.hasSection = true := by
  constructor
  · intro h
    have hbody : scanner.bodyRole line = .ruleHeader header := by
      simp only [role] at h
      repeat' split at h
      all_goals first | exact h | simp only [reduceCtorEq] at h
    simp only [bodyRole] at hbody
    split at hbody
    · simp only [reduceCtorEq] at hbody
    rename_i hrules
    split at hbody
    · simp only [reduceCtorEq] at hbody
    rename_i hin
    split at hbody
    · simp only [reduceCtorEq] at hbody
    split at hbody
    · rename_i found hfound
      rw [not_or, not_not, Bool.not_eq_true', Bool.not_eq_false] at hin
      rw [hfound, Role.ruleHeader.inj hbody]
      exact ⟨rfl, Bool.not_eq_true _ ▸ hrules, hin.1, hin.2⟩
    · simp only [reduceCtorEq] at hbody
  · rintro ⟨hheader, hrules, hmode, hsection⟩
    have hcomment : Line.isComment line = false :=
      Line.isComment_eq_false_of_ruleHeader? line header hheader
    rw [bodyRole_of_rules scanner line hcomment hrules hmode hsection, hheader]

variable (seen : List Text)

/-- A rule is made in the state that fits the lines seen just when the lines say so. -/
theorem newRule?_eq (h : scanner.Follows seen) :
    newRule? options seen line following = match scanner.role line with
      | .ruleHeader header => some (documentRule header.name
          (resolveSeverity options header following) scanner.pending)
      | _ => none := by
  have hopen : (scanner.mode.settled = .rules ∧ scanner.hasSection = true) ↔
      (headerSeen seen && rulesSeen seen) = true := by
    rw [h.mode, h.hasSection, settled_modeAfter]
    cases headerSeen seen <;> cases rulesSeen seen <;> decide
  have hnone : (∀ header, scanner.role line ≠ .ruleHeader header) →
      newRule? options seen line following = none := by
    intro hrole
    rw [newRule?]
    split
    · rename_i hcond
      rw [Bool.and_eq_true, Bool.not_eq_true'] at hcond
      cases hheader : Line.ruleHeader? line with
      | none => rfl
      | some header =>
          have hin := hopen.mpr hcond.1
          exact absurd ((role_eq_ruleHeader_iff scanner line header).mpr
            ⟨hheader, hcond.2, hin.1, hin.2⟩) (hrole header)
    · rfl
  cases hrole : scanner.role line with
  | ruleHeader header =>
      rcases (role_eq_ruleHeader_iff scanner line header).mp hrole with
        ⟨hheader, hrules, hmode, hsection⟩
      rw [newRule?, hopen.mp ⟨hmode, hsection⟩, hrules, hheader, h.pending]
      rfl
  | _ =>
      refine hnone fun header hheader => ?_
      rw [hrole] at hheader
      simp only [reduceCtorEq] at hheader

/-- A line adds the rule it makes and no other, and adds it to the last section. -/
theorem placedRules_step (h : scanner.Follows seen) :
    (scanner.step options line following).document.placedRules =
      scanner.document.placedRules ++ ((newRule? options seen line following).map
        (Prod.mk (scanner.document.sections.length - 1))).toList := by
  rw [step_document, edit?, newRule?_eq options scanner line following seen h]
  cases hrole : scanner.role line with
  | ruleHeader header =>
      have hne : scanner.document.sections ≠ [] :=
        scanner.hasSection_iff.mp ((role_eq_ruleHeader_iff scanner line header).mp hrole).2.2.2
      exact Document.placedRules_addRule scanner.document _ hne
  | sectionHeader name =>
      exact (Document.placedRules_openSection scanner.document name).trans
        (List.append_nil _).symm
  | sectionText =>
      exact (Document.placedRules_describeSection scanner.document _).trans
        (List.append_nil _).symm
  | _ => exact (List.append_nil _).symm

/-- The names of the sections grow by the name that the line opens a section with. -/
theorem names_step : (scanner.step options line following).document.sections.map Section.name =
    scanner.document.sections.map Section.name ++ (Line.section? line).toList := by
  cases hsection : Line.section? line with
  | some name =>
      rw [step_sectionHeader options scanner line following name hsection]
      exact List.map_append
  | none =>
      rw [Option.toList_none, List.append_nil, step_document]
      cases hedit : scanner.edit? options line following with
      | none => rfl
      | some edit =>
          cases edit with
          | openSection name =>
              rw [isHeader_of_edit? options scanner line following name hedit] at hsection
              simp only [reduceCtorEq] at hsection
          | retitle | describe => rfl
          | describeSection text => exact Document.names_describeSection scanner.document text
          | addRule rule => exact Document.names_addRule scanner.document rule

end Step

/-! ### Any steps -/

/-- After any steps the sections are those of the section headers read. -/
theorem sections_feed (options : ScanOptions) (steps : List (Text × List Text)) :
    (start.feed options steps).document.sections.map Section.name =
      (steps.map Prod.fst).filterMap Line.section? := by
  induction steps using List.reverseRecOn with
  | nil => rfl
  | append_singleton steps step ih =>
      rw [feed_append, feed_cons, feed_nil, names_step, ih, List.map_append, List.filterMap_append]
      rw [List.map_cons, List.map_nil, List.filterMap_cons, List.filterMap_nil]
      cases Line.section? step.1 <;> rfl

/-- After any steps the rules are those that the steps make by themselves. -/
theorem placedRules_feed (options : ScanOptions) (steps : List (Text × List Text)) :
    (start.feed options steps).document.placedRules =
      (List.range steps.length).filterMap (placedAt? options steps) := by
  induction steps using List.reverseRecOn with
  | nil => rfl
  | append_singleton steps step ih =>
      have hold : (List.range steps.length).filterMap (placedAt? options (steps ++ [step])) =
          (List.range steps.length).filterMap (placedAt? options steps) := by
        refine List.filterMap_congr fun i hi => ?_
        have hlt : i < steps.length := List.mem_range.mp hi
        rw [placedAt?, placedAt?, List.getElem?_append_left hlt,
          List.take_append_of_le_length (Nat.le_of_lt hlt)]
      have hcount : (start.feed options steps).document.sections.length =
          ((steps.map Prod.fst).filterMap Line.section?).length := by
        rw [← sections_feed options steps, List.length_map]
      have hnew : placedAt? options (steps ++ [step]) steps.length =
          (newRule? options (steps.map Prod.fst) step.1 step.2).map
            (Prod.mk ((start.feed options steps).document.sections.length - 1)) := by
        rw [placedAt?, List.getElem?_concat_length, Option.bind_some,
          List.take_left' rfl, hcount]
      rw [feed_append, feed_cons, feed_nil,
        placedRules_step options _ step.1 step.2 _ (follows_feed options steps), ih,
        List.length_append, List.length_singleton, List.range_succ, List.filterMap_append, hold,
        List.filterMap_cons, List.filterMap_nil, hnew]
      cases (newRule? options (steps.map Prod.fst) step.1 step.2) <;> rfl

end Scanner

/-! ### Compiled documents -/

theorem compile_eq_feed (options : ScanOptions) (source : Text) :
    compile options source = (Scanner.start.feed options (withRest source.lines)).document := by
  rw [compile, Scanner.run_eq_feed]

/-- The rule of line `i` with its place: all of it can be read off the lines. -/
theorem placedAt?_withRest (options : ScanOptions) (lines : List Text) (i : Nat) :
    placedAt? options (withRest lines) i = (ruleAt? lines i).map fun header =>
      (((lines.take i).filterMap Line.section?).length - 1,
        documentRule header.name (resolveSeverity options header (lines.drop (i + 1)))
          (pendingAfter (lines.take i))) := by
  rw [placedAt?, getElem?_withRest, List.map_take, map_fst_withRest, ruleAt?]
  cases lines[i]? with
  | none => rw [Option.map_none, Option.bind_none, Option.bind_none, ite_self, Option.map_none]
  | some line =>
      rw [Option.map_some, Option.bind_some, Option.bind_some, newRule?]
      cases headerSeen (lines.take i) && rulesSeen (lines.take i) <;>
        cases Line.startsRules line <;> cases Line.ruleHeader? line <;> rfl

/-- Those that a partial function is defined on correspond to its values. -/
theorem forall₂_filter_filterMap {α β : Type} (f : α → Option β) (l : List α) :
    List.Forall₂ (fun a b => f a = some b) (l.filter fun a => (f a).isSome) (l.filterMap f) := by
  induction l with
  | nil => exact List.Forall₂.nil
  | cons a l ih =>
      cases hf : f a with
      | none =>
          rw [List.filter_cons_of_neg (by rw [hf]; exact Bool.false_ne_true),
            List.filterMap_cons_none hf]
          exact ih
      | some b =>
          rw [List.filter_cons_of_pos (by rw [hf]; rfl), List.filterMap_cons_some hf]
          exact List.Forall₂.cons hf ih

theorem filterMap_getElem?_range {α β : Type} (f : α → Option β) (l : List α) :
    (List.range l.length).filterMap (fun i => l[i]?.bind f) = l.filterMap f := by
  induction l using List.reverseRecOn with
  | nil => rfl
  | append_singleton l a ih =>
      have hold : (List.range l.length).filterMap (fun i => (l ++ [a])[i]?.bind f) =
          (List.range l.length).filterMap (fun i => l[i]?.bind f) := by
        refine List.filterMap_congr fun i hi => ?_
        rw [List.getElem?_append_left (List.mem_range.mp hi)]
      rw [List.length_append, List.length_singleton, List.range_succ, List.filterMap_append, hold,
        ih, List.filterMap_append]
      congr 1
      rw [List.filterMap_cons, List.filterMap_nil, List.getElem?_concat_length, Option.bind_some,
        List.filterMap_cons, List.filterMap_nil]

/-- The sections of a compiled document correspond to the section headers. -/
theorem sections_compile (options : ScanOptions) (source : Text) :
    List.Forall₂ (fun i (s : Section) => headerAt? source.lines i = some s.name)
      (headerLines source.lines) (compile options source).sections := by
  have hnames : (compile options source).sections.map Section.name =
      (List.range source.lines.length).filterMap (headerAt? source.lines) := by
    rw [compile_eq_feed, Scanner.sections_feed, map_fst_withRest]
    exact (filterMap_getElem?_range Line.section? source.lines).symm
  have hlines := forall₂_filter_filterMap (headerAt? source.lines)
    (List.range source.lines.length)
  rw [← hnames, List.forall₂_map_right_iff] at hlines
  exact hlines

/-- The rules of a compiled document correspond to the lines that make them, and each is the rule
    that can be read off its line and the lines around it. -/
theorem placedRules_compile (options : ScanOptions) (source : Text) :
    List.Forall₂ (fun i (placed : Nat × Rule) => ∃ header : RuleHeader,
        ruleAt? source.lines i = some header ∧
        placed.1 = ((source.lines.take i).filterMap Line.section?).length - 1 ∧
        placed.2 = documentRule header.name
          (resolveSeverity options header (source.lines.drop (i + 1)))
          (pendingAfter (source.lines.take i)))
      (ruleLines source.lines) (compile options source).placedRules := by
  have hrules := forall₂_filter_filterMap (placedAt? options (withRest source.lines))
    (List.range source.lines.length)
  have hlength : (withRest source.lines).length = source.lines.length := by
    rw [← List.length_map Prod.fst, map_fst_withRest]
  have hsome : ∀ i, (placedAt? options (withRest source.lines) i).isSome =
      (ruleAt? source.lines i).isSome := by
    intro i
    rw [placedAt?_withRest, Option.isSome_map]
  rw [compile_eq_feed, Scanner.placedRules_feed, hlength, ruleLines]
  simp only [hsome] at hrules
  refine hrules.imp fun i placed hplaced => ?_
  rw [placedAt?_withRest, Option.map_eq_some_iff] at hplaced
  rcases hplaced with ⟨header, hheader, rfl⟩
  exact ⟨header, hheader, rfl, rfl⟩

/-! ### The last line above -/

/-- The last of those that have a property, with what comes before and after it. -/
theorem exists_last {α : Type} (p : α → Bool) (l : List α) (h : l.any p = true) :
    ∃ (front : List α) (a : α) (rest : List α), l = front ++ a :: rest ∧ p a = true ∧
      ∀ b ∈ rest, p b = false := by
  induction l using List.reverseRecOn with
  | nil => exact absurd h (by rw [List.any_nil]; exact Bool.false_ne_true)
  | append_singleton l b ih =>
      cases hb : p b with
      | true => exact ⟨l, b, [], rfl, hb, List.forall_mem_nil _⟩
      | false =>
          rw [List.any_append, List.any_cons, List.any_nil, hb, Bool.or_false, Bool.or_false] at h
          rcases ih h with ⟨front, a, rest, hl, ha, hrest⟩
          refine ⟨front, a, rest ++ [b], by rw [hl, List.append_assoc, List.cons_append], ha, ?_⟩
          intro c hc
          rcases List.mem_append.mp hc with hc | hc
          · exact hrest c hc
          · rw [List.mem_singleton.mp hc, hb]

/-- The place of the last line of some kind above line `i`. -/
theorem isLastBefore_of_take (p : Text → Bool) (lines front rest : List Text) (line : Text)
    (i : Nat) (hi : i ≤ lines.length) (h : lines.take i = front ++ line :: rest)
    (hline : p line = true) (hrest : ∀ l ∈ rest, p l = false) :
    IsLastBefore p lines i front.length := by
  have hlength : front.length + (rest.length + 1) = i := by
    have hlen := congrArg List.length h
    rw [List.length_take, Nat.min_eq_left hi, List.length_append, List.length_cons] at hlen
    exact hlen.symm
  have hget : ∀ k, k < i → lines[k]? = (front ++ line :: rest)[k]? := by
    intro k hk
    rw [← h, List.getElem?_take_of_lt hk]
  refine ⟨by omega, ?_, fun k hlow hhigh => ?_⟩
  · rw [hget _ (by omega), List.getElem?_append_right (Nat.le_refl _), Nat.sub_self,
      List.getElem?_cons_zero, Option.any_some, hline]
  · have hinside : k - front.length - 1 < rest.length := by omega
    rw [hget k hhigh, List.getElem?_append_right (Nat.le_of_lt hlow),
      show k - front.length = k - front.length - 1 + 1 by omega, List.getElem?_cons_succ,
      List.getElem?_eq_getElem hinside, Option.any_some]
    exact hrest _ (List.getElem_mem hinside)

/-- The headers in the first `n` lines are the first headers. -/
theorem headerLines_eq_take_append (lines : List Text) (n : Nat) (hn : n ≤ lines.length) :
    ∃ later : List Nat, headerLines lines = headerLines (lines.take n) ++ later := by
  have hold : (List.range n).filter (fun i => (headerAt? lines i).isSome) =
      (List.range n).filter (fun i => (headerAt? (lines.take n) i).isSome) := by
    refine List.filter_congr fun i hi => ?_
    rw [headerAt?, headerAt?, List.getElem?_take_of_lt (List.mem_range.mp hi)]
  rw [headerLines, headerLines, List.length_take, Nat.min_eq_left hn,
    show lines.length = n + (lines.length - n) by omega, List.range_add, List.filter_append, hold]
  exact ⟨_, rfl⟩

/-- A header that comes next is the next of the headers. -/
theorem headerLines_concat (lines : List Text) (line : Text) (h : Line.isHeader line = true) :
    headerLines (lines ++ [line]) = headerLines lines ++ [lines.length] := by
  have hlast : (headerAt? (lines ++ [line]) lines.length).isSome = true := by
    rw [headerAt?, List.getElem?_concat_length, Option.bind_some]
    exact h
  have hold : (List.range lines.length).filter
      (fun i => (headerAt? (lines ++ [line]) i).isSome) = headerLines lines := by
    refine List.filter_congr fun i hi => ?_
    rw [headerAt?, headerAt?, List.getElem?_append_left (List.mem_range.mp hi)]
  rw [headerLines, List.length_append, List.length_singleton, List.range_succ,
    List.filter_append, hold, List.filter_singleton, hlast]
  rfl

theorem length_headerLines (lines : List Text) :
    (headerLines lines).length = (lines.filterMap Line.section?).length := by
  rw [← filterMap_getElem?_range Line.section? lines]
  exact (forall₂_filter_filterMap (headerAt? lines) (List.range lines.length)).length_eq

/-- Counting the headers above a line finds the last of them. -/
theorem getElem?_headerLines_of_last (lines front rest : List Text) (line : Text) (i : Nat)
    (hi : i ≤ lines.length) (h : lines.take i = front ++ line :: rest)
    (hline : Line.isHeader line = true) (hrest : ∀ l ∈ rest, Line.isHeader l = false) :
    (headerLines lines)[((lines.take i).filterMap Line.section?).length - 1]? =
      some front.length := by
  rcases (Line.isHeader_iff line).mp hline with ⟨name, hname⟩
  have hnone : rest.filterMap Line.section? = [] := by
    refine List.filterMap_eq_nil_iff.mpr fun l hl => ?_
    exact (Line.isHeader_eq_false_iff l).mp (hrest l hl)
  have hcount : ((lines.take i).filterMap Line.section?).length - 1 =
      (headerLines front).length := by
    rw [h, List.filterMap_append, List.filterMap_cons_some hname, hnone, List.length_append,
      List.length_singleton, Nat.add_sub_cancel, length_headerLines]
  -- The header is the one that comes next after the headers in front of it.
  have hfront : lines.take (front.length + 1) = front ++ [line] := by
    have hle : front.length + 1 ≤ i := by
      have hlen := congrArg List.length h
      rw [List.length_take, Nat.min_eq_left hi, List.length_append, List.length_cons] at hlen
      omega
    have htake := congrArg (List.take (front.length + 1)) h
    rw [List.take_take, Nat.min_eq_left hle, List.take_append, Nat.add_sub_cancel_left,
      List.take_of_length_le (Nat.le_succ _)] at htake
    exact htake
  have hbound : front.length + 1 ≤ lines.length := by
    have hlen := congrArg List.length hfront
    rw [List.length_take, List.length_append, List.length_singleton] at hlen
    omega
  rcases headerLines_eq_take_append lines (front.length + 1) hbound with ⟨later, hlater⟩
  rw [hcount, hlater, hfront, headerLines_concat front line hline, List.append_assoc,
    List.getElem?_append_right (Nat.le_refl _), Nat.sub_self]
  rfl

/-- Above a line that makes a rule there is a section header. -/
theorem headerSeen_of_ruleAt? (lines : List Text) (i : Nat) (header : RuleHeader)
    (h : ruleAt? lines i = some header) :
    i < lines.length ∧ headerSeen (lines.take i) = true ∧ rulesSeen (lines.take i) = true := by
  rw [ruleAt?] at h
  split at h
  · rename_i hseen
    rw [Bool.and_eq_true] at hseen
    refine ⟨?_, hseen.1, hseen.2⟩
    by_contra hle
    rw [List.getElem?_eq_none (Nat.le_of_not_lt hle), Option.bind_none] at h
    simp only [reduceCtorEq] at h
  · simp only [reduceCtorEq] at h

/-- No section or rule is lost, invented or misplaced. The sections correspond to the section
    headers, and have their names. The rules correspond to the lines that make rules, have their
    names, and each is in the section of the last section header above its line. -/
theorem outline_compile (options : ScanOptions) (source : Text) :
    List.Forall₂ (fun i (s : Section) => headerAt? source.lines i = some s.name)
      (headerLines source.lines) (compile options source).sections ∧
    List.Forall₂ (fun i (placed : Nat × Rule) =>
        (ruleAt? source.lines i).map RuleHeader.name = some placed.2.name ∧
        ∃ h, (headerLines source.lines)[placed.1]? = some h ∧
          IsLastBefore Line.isHeader source.lines i h)
      (ruleLines source.lines) (compile options source).placedRules ∧
    (compile options source).placedRules.map Prod.snd = (compile options source).rules := by
  refine ⟨sections_compile options source, ?_, Document.map_snd_placedRules _⟩
  refine (placedRules_compile options source).imp fun i placed hplaced => ?_
  rcases hplaced with ⟨header, hheader, hplace, hrule⟩
  rcases headerSeen_of_ruleAt? source.lines i header hheader with ⟨hi, hseen, _⟩
  rcases exists_last Line.isHeader (source.lines.take i) hseen with
    ⟨front, line, rest, htake, hline, hrest⟩
  refine ⟨by rw [hheader, hrule]; rfl, front.length, ?_, ?_⟩
  · rw [hplace]
    exact getElem?_headerLines_of_last source.lines front rest line i (Nat.le_of_lt hi) htake hline
      hrest
  · exact isLastBefore_of_take Line.isHeader source.lines front rest line i (Nat.le_of_lt hi) htake
      hline hrest

end StyleGuide
