import StyleGuide.Proofs.Assertion.Statement
import Mathlib.Data.List.Infix

/-!
# What assertions decide

Checks decide what they say, report the first thing that is false where it is, and can tell any
document from all others.

Each statement about a child has in front of it the one that says there is such a child. So the first
false statement of a list is always about a node that exists, and its failure, which is what comes of
that check alone, is at the path of that node. The words for a failure below the document hold this
path.

A document is told from all others by the checks that ask for all its parts. Going up the tree, equal
counts and equal children at each index make equal lists of children, so a node that passes all the
checks has the parts of the node they were made for.

## Main definitions

* `Guarded`: Statements of which each is about a node that exists if those before it are true.
* `Failure.IsAt`: A failure is at a path and says so.
* `Example.allChecks`, `Rule.allChecks`, `Section.allChecks`, `Document.allChecks`: The checks that
  ask for all parts of a node.

## Theorems

* `Guarded.reached`: The first false statement is about a node that exists.
* `Failure.path_infix_message`: The words for a failure name the path.
* `Statement.isAt_of_reached`: A failure is at the path of its node.
* `Example.check_allChecks`, `Rule.check_allChecks`, `Section.check_allChecks`,
  `Document.check_allChecks`: All parts together are the node.
* `Document.check_decides`: What checks decide.
-/

namespace StyleGuide

/-! ### Where a failure is -/

/-- Statements of which each is about a node that exists as far as those before it are true. -/
def Guarded (d : Document) : List Statement → Prop
  | [] => True
  | st :: rest => st.Reached d ∧ (st.Holds d → Guarded d rest)

section Guarded

variable {d : Document}

theorem guarded_of_reached (sts : List Statement) (h : ∀ st ∈ sts, st.Reached d) :
    Guarded d sts := by
  induction sts with
  | nil => trivial
  | cons st sts ih =>
      exact ⟨h st List.mem_cons_self, fun _ => ih fun t ht => h t (List.mem_cons_of_mem _ ht)⟩

theorem guarded_append (first second : List Statement) (hfirst : Guarded d first)
    (hsecond : Guarded d second) : Guarded d (first ++ second) := by
  induction first with
  | nil => exact hsecond
  | cons st first ih => exact ⟨hfirst.1, fun h => ih (hfirst.2 h)⟩

theorem guarded_flatMap {α : Type} (checks : List α) (parts : α → List Statement)
    (h : ∀ c ∈ checks, Guarded d (parts c)) : Guarded d (checks.flatMap parts) := by
  induction checks with
  | nil => trivial
  | cons c checks ih =>
      exact guarded_append _ _ (h c List.mem_cons_self)
        (ih fun c hc => h c (List.mem_cons_of_mem _ hc))

/-- The first false statement is about a node that exists. -/
theorem Guarded.reached {before after : List Statement} {st : Statement}
    (h : Guarded d (before ++ st :: after)) (hbefore : ∀ t ∈ before, t.Holds d) :
    st.Reached d := by
  induction before with
  | nil => exact h.1
  | cons t before ih =>
      exact ih (h.2 (hbefore t List.mem_cons_self)) fun u hu =>
        hbefore u (List.mem_cons_of_mem _ hu)

theorem guarded_rule (i j : Nat) (r : Rule) (h : d.ruleAt? i j = some r) (check : RuleCheck) :
    Guarded d (check.statements i j) := by
  unfold RuleCheck.statements
  refine ⟨⟨r, h⟩, fun hholds => ?_⟩
  rcases hholds with ⟨r', hr', hcheck⟩
  obtain rfl : r = r' := Option.some.inj (h.symm.trans hr')
  cases check with
  | exampleAt k checks =>
      refine guarded_of_reached _ fun st hst => ?_
      rcases List.mem_map.mp hst with ⟨c, _, rfl⟩
      exact ⟨r.examples[k], Option.bind_eq_some_iff.mpr ⟨r, h, List.getElem?_eq_getElem hcheck⟩⟩
  | _ => trivial

theorem guarded_section (i : Nat) (s : Section) (h : d.sections[i]? = some s)
    (check : SectionCheck) : Guarded d (check.statements i) := by
  unfold SectionCheck.statements
  refine ⟨⟨s, h⟩, fun hholds => ?_⟩
  rcases hholds with ⟨s', hs', hcheck⟩
  obtain rfl : s = s' := Option.some.inj (h.symm.trans hs')
  cases check with
  | ruleAt j checks =>
      refine guarded_flatMap checks _ fun c _ => guarded_rule i j s.rules[j] ?_ c
      exact Option.bind_eq_some_iff.mpr ⟨s, h, List.getElem?_eq_getElem hcheck⟩
  | _ => trivial

theorem guarded_statements (checks : List DocumentCheck) : Guarded d (statements checks) := by
  refine guarded_flatMap checks _ fun check _ => ?_
  unfold DocumentCheck.statements
  refine ⟨trivial, fun hcheck => ?_⟩
  cases check with
  | sectionAt i checks =>
      exact guarded_flatMap checks _ fun c _ =>
        guarded_section i d.sections[i] (List.getElem?_eq_getElem hcheck) c
  | _ => trivial

end Guarded

/-! ### What a failure names -/

/-- Whether a cause is one that only a document can have. -/
def Cause.isOfDocument : Cause → Bool
  | title .. | titlePresent .. | sectionCount .. | sectionIndex .. => true
  | _ => false

theorem infix_unequal (part rest actual expected : Text) :
    part <:+: unequal (part ++ rest) actual expected := by
  unfold unequal
  simp only [List.append_assoc]
  exact List.infix_append' _ _ _

/-- The words for a failure below the document hold the path of the node. -/
theorem Failure.path_infix_message (path : NodePath) (cause : Cause)
    (h : cause.isOfDocument = false) : path.toText <:+: Failure.message ⟨path, cause⟩ := by
  cases cause with
  | title | titlePresent | sectionCount | sectionIndex => exact Bool.noConfusion h
  | ruleIndex | exampleIndex | labelPresent =>
      simp only [message, List.append_assoc]
      exact (List.prefix_append _ _).isInfix
  | _ =>
      simp only [message, List.append_assoc]
      exact infix_unequal _ _ _ _

/-- A failure is at a path, and if that is below the document the words for it name it. -/
def Failure.IsAt (failure : Failure) (path : NodePath) : Prop :=
  failure.path = path ∧ (path ≠ [] → path.toText <:+: failure.message)

theorem isAt_mk (path : NodePath) (cause : Cause) (h : path ≠ [] → cause.isOfDocument = false) :
    Failure.IsAt ⟨path, cause⟩ path :=
  ⟨rfl, fun hne => Failure.path_infix_message path cause (h hne)⟩

theorem isAt_of_failUnless {agree : Bool} {path : NodePath} {cause : Cause} {failure : Failure}
    (h : failUnless agree path cause = some failure)
    (hcause : path ≠ [] → cause.isOfDocument = false) : failure.IsAt path := by
  unfold failUnless at h
  split at h
  · exact absurd h.symm (Option.some_ne_none _)
  · rw [← Option.some.inj h]
    exact isAt_mk path cause hcause

theorem isAt_of_childFailure {α : Type} {children : List α} {index : Nat} {path : NodePath}
    {cause : Cause} {failure : Failure}
    (h : childFailure children index ⟨path, cause⟩ (fun _ => none) = some failure)
    (hcause : path ≠ [] → cause.isOfDocument = false) : failure.IsAt path := by
  unfold childFailure at h
  split at h
  · exact absurd h.symm (Option.some_ne_none _)
  · rw [← Option.some.inj h]
    exact isAt_mk path cause hcause

theorem Example.isAt_failure? (e : Example) (path : NodePath) (check : ExampleCheck)
    (failure : Failure) (h : e.failure? path check = some failure) : failure.IsAt path := by
  cases check with
  | noLabel =>
      rcases Option.map_eq_some_iff.mp h with ⟨label, _, rfl⟩
      exact isAt_mk path _ fun _ => rfl
  | _ => exact isAt_of_failUnless h fun _ => rfl

theorem Rule.isAt_failure?_bare (r : Rule) (path : NodePath) (check : RuleCheck)
    (failure : Failure) (h : r.failure? path check.bare = some failure) : failure.IsAt path := by
  cases check with
  | exampleAt index checks =>
      rw [RuleCheck.bare, r.failure?_exampleAt] at h
      exact isAt_of_childFailure h fun _ => rfl
  | _ => exact isAt_of_failUnless h fun _ => rfl

theorem Section.isAt_failure?_bare (s : Section) (path : NodePath) (check : SectionCheck)
    (failure : Failure) (h : s.failure? path check.bare = some failure) : failure.IsAt path := by
  cases check with
  | ruleAt index checks =>
      rw [SectionCheck.bare, s.failure?_ruleAt] at h
      exact isAt_of_childFailure h fun _ => rfl
  | _ => exact isAt_of_failUnless h fun _ => rfl

theorem Document.isAt_failure?_bare (d : Document) (check : DocumentCheck) (failure : Failure)
    (h : d.failure? check.bare = some failure) : failure.IsAt [] := by
  cases check with
  | noTitle =>
      rcases Option.map_eq_some_iff.mp h with ⟨title, _, rfl⟩
      exact isAt_mk [] _ fun hne => absurd rfl hne
  | sectionAt index checks =>
      rw [DocumentCheck.bare, d.failure?_sectionAt] at h
      exact isAt_of_childFailure h fun hne => absurd rfl hne
  | _ => exact isAt_of_failUnless h fun hne => absurd rfl hne

/-- The failure of a statement about a node that exists is at the path of that node. -/
theorem Statement.isAt_of_reached (d : Document) (st : Statement) (hreached : st.Reached d)
    (failure : Failure) (h : d.failure? st.alone = some failure) : failure.IsAt st.path := by
  cases st with
  | ofDocument check => exact d.isAt_failure?_bare check failure h
  | ofSection i check =>
      rcases hreached with ⟨s, hs⟩
      rw [alone, d.failure?_sectionAt, childFailure_of_some _ _ _ _ s hs,
        firstFailure_singleton] at h
      exact s.isAt_failure?_bare [i] check failure h
  | ofRule i j check =>
      rcases hreached with ⟨r, hr⟩
      rw [alone, d.failure?_rule i j r _ hr, firstFailure_singleton] at h
      exact r.isAt_failure?_bare [i, j] check failure h
  | ofExample i j k check =>
      rcases hreached with ⟨e, he⟩
      rcases Option.bind_eq_some_iff.mp he with ⟨r, hr, hexample⟩
      rw [alone, d.failure?_rule i j r _ hr, firstFailure_singleton, r.failure?_exampleAt,
        childFailure_of_some _ _ _ _ e hexample, firstFailure_singleton] at h
      exact e.isAt_failure? [i, j, k] check failure h

/-! ### All there is to check -/

/-- The checks that ask for all parts of an example. -/
def Example.allChecks (e : Example) : List ExampleCheck :=
  [.kind e.kind, match e.label with
    | some label => .label label
    | none => .noLabel, .content e.content]

/-- The checks that ask for all parts of a rule. -/
def Rule.allChecks (r : Rule) : List RuleCheck :=
  [.name r.name, .severity r.severity, .description r.description,
    .exampleCount r.examples.length] ++
    r.examples.mapIdx fun k e => .exampleAt k e.allChecks

/-- The checks that ask for all parts of a section. -/
def Section.allChecks (s : Section) : List SectionCheck :=
  [.name s.name, .description s.description, .ruleCount s.rules.length] ++
    s.rules.mapIdx fun j r => .ruleAt j r.allChecks

/-- The checks that ask for all parts of a document. -/
def Document.allChecks (d : Document) : List DocumentCheck :=
  [match d.title with
    | some title => .title title
    | none => .noTitle, .description d.description, .sectionCount d.sections.length] ++
    d.sections.mapIdx fun i s => .sectionAt i s.allChecks

/-- Lists of children are equal if there are as many of them and each is found at its index. -/
theorem children_eq_iff {α : Type} (actual expected : List α) : actual = expected ↔
    actual.length = expected.length ∧
      ∀ (i : Nat) (child : α), expected[i]? = some child → actual[i]? = some child := by
  constructor
  · rintro rfl
    exact ⟨rfl, fun _ _ h => h⟩
  · rintro ⟨hlength, hchildren⟩
    refine List.ext_getElem? fun i => ?_
    cases hi : expected[i]? with
    | some child => exact hchildren i child hi
    | none =>
        have hout := List.getElem?_eq_none_iff.mp hi
        exact List.getElem?_eq_none (by omega)

/-- Checking the children at all their indices. -/
theorem forall_mem_mapIdx_iff {α γ : Type} (actual expected : List α) (check : Nat → α → γ)
    (fails : γ → Option Failure)
    (h : ∀ (i : Nat) (child : α), expected[i]? = some child →
      (fails (check i child) = none ↔ actual[i]? = some child)) :
    (∀ c ∈ expected.mapIdx check, fails c = none) ↔
      ∀ (i : Nat) (child : α), expected[i]? = some child → actual[i]? = some child := by
  simp only [List.mem_mapIdx, forall_exists_index]
  constructor
  · intro hall i child hi
    rcases List.getElem?_eq_some_iff.mp hi with ⟨hlt, rfl⟩
    exact (h i _ hi).mp (hall _ i hlt rfl)
  · rintro hall c i hlt rfl
    have hi := List.getElem?_eq_getElem hlt
    exact (h i _ hi).mpr (hall i _ hi)

/-- At an index where a child is expected, checking all of it is asking for that child. -/
theorem childFailure_eq_none_iff_of_all {α : Type} (actual : List α) (i : Nat) (missing : Failure)
    (check : α → Option Failure) (child : α) (h : ∀ a, check a = none ↔ a = child) :
    childFailure actual i missing check = none ↔ actual[i]? = some child := by
  rw [childFailure_eq_none_iff]
  simp only [h, exists_eq_right]

theorem Example.check_allChecks (e expected : Example) (path : NodePath) :
    firstFailure (e.failure? path) expected.allChecks = none ↔ e = expected := by
  rw [firstFailure_eq_none_iff]
  simp only [failure?_eq_none_iff, allChecks, List.forall_mem_cons, List.not_mem_nil,
    false_implies, implies_true, and_true]
  have hlabel : ExampleCheck.Holds e (match expected.label with
      | some label => .label label
      | none => .noLabel) ↔ e.label = expected.label := by
    cases expected.label <;> rfl
  rw [hlabel]
  cases e
  cases expected
  simp only [ExampleCheck.Holds, Example.mk.injEq]

theorem Rule.check_allChecks (r expected : Rule) (path : NodePath) :
    firstFailure (r.failure? path) expected.allChecks = none ↔ r = expected := by
  have hchildren := forall_mem_mapIdx_iff r.examples expected.examples
    (fun k e => RuleCheck.exampleAt k e.allChecks) (r.failure? path) fun k e _ =>
      (congrArg (· = none) (r.failure?_exampleAt path k e.allChecks)).to_iff.trans
        (childFailure_eq_none_iff_of_all _ _ _ _ e fun a => a.check_allChecks e _)
  have hexamples := children_eq_iff r.examples expected.examples
  rw [firstFailure_eq_none_iff]
  simp only [allChecks, List.forall_mem_append, hchildren, List.forall_mem_cons, List.not_mem_nil,
    false_implies, implies_true, and_true]
  simp only [failure?, failUnless_eq_none_iff, beq_iff_eq]
  cases r
  cases expected
  simp only [Rule.mk.injEq, hexamples, and_assoc]

theorem Section.check_allChecks (s expected : Section) (path : NodePath) :
    firstFailure (s.failure? path) expected.allChecks = none ↔ s = expected := by
  have hchildren := forall_mem_mapIdx_iff s.rules expected.rules
    (fun j r => SectionCheck.ruleAt j r.allChecks) (s.failure? path) fun j r _ =>
      (congrArg (· = none) (s.failure?_ruleAt path j r.allChecks)).to_iff.trans
        (childFailure_eq_none_iff_of_all _ _ _ _ r fun a => a.check_allChecks r _)
  have hrules := children_eq_iff s.rules expected.rules
  rw [firstFailure_eq_none_iff]
  simp only [allChecks, List.forall_mem_append, hchildren, List.forall_mem_cons, List.not_mem_nil,
    false_implies, implies_true, and_true]
  simp only [failure?, failUnless_eq_none_iff, beq_iff_eq]
  cases s
  cases expected
  simp only [Section.mk.injEq, hrules, and_assoc]

/-- All parts together are the document. -/
theorem Document.check_allChecks (d expected : Document) :
    d.check expected.allChecks = none ↔ d = expected := by
  have hchildren := forall_mem_mapIdx_iff d.sections expected.sections
    (fun i s => DocumentCheck.sectionAt i s.allChecks) d.failure? fun i s _ =>
      (congrArg (· = none) (d.failure?_sectionAt i s.allChecks)).to_iff.trans
        (childFailure_eq_none_iff_of_all _ _ _ _ s fun a => a.check_allChecks s _)
  have htitle : d.failure? (match expected.title with
      | some title => .title title
      | none => .noTitle) = none ↔ d.title = expected.title := by
    cases expected.title <;>
      simp only [failure?, failUnless_eq_none_iff, beq_iff_eq, Option.map_eq_none_iff]
  have hsections := children_eq_iff d.sections expected.sections
  rw [check, firstFailure_eq_none_iff]
  simp only [allChecks, List.forall_mem_append, hchildren, List.forall_mem_cons, List.not_mem_nil,
    false_implies, implies_true, and_true, htitle]
  simp only [failure?, failUnless_eq_none_iff, beq_iff_eq]
  cases d
  cases expected
  simp only [Document.mk.injEq, hsections, and_assoc]

/-- Checks decide whether a document is the one that is described. The checks that ask for all parts
    of a document pass on that document only. Any checks pass just when the statements they make are
    all true, an index that leads nowhere making its statement false. Otherwise the failure is that
    of the first false statement, which is what comes of that check alone; it is at the path of the
    node that the statement is about, and the words for it name the path. -/
theorem Document.check_decides (d : Document) :
    (∀ expected : Document, d.check expected.allChecks = none ↔ d = expected) ∧
    ∀ checks : List DocumentCheck,
      (d.check checks = none ↔ ∀ st ∈ statements checks, st.Holds d) ∧
      ∀ failure, d.check checks = some failure ↔
        ∃ before st after, statements checks = before ++ st :: after ∧
          (∀ earlier ∈ before, earlier.Holds d) ∧ ¬st.Holds d ∧
          d.check [st.alone] = some failure ∧ failure.path = st.path ∧
          (st.path ≠ [] → st.path.toText <:+: failure.message) := by
  refine ⟨fun expected => check_allChecks d expected, fun checks => ⟨?_, fun failure => ?_⟩⟩
  · rw [check_eq_findSome?, List.findSome?_eq_none_iff]
    simp only [Statement.check_alone_eq_none_iff]
  · rw [check_eq_findSome?, List.findSome?_eq_some_iff]
    simp only [Statement.check_alone_eq_none_iff]
    constructor
    · rintro ⟨before, st, after, hsplit, hfailure, hbefore⟩
      have hguarded := guarded_statements (d := d) checks
      rw [hsplit] at hguarded
      have hat := st.isAt_of_reached d (hguarded.reached hbefore) failure hfailure
      refine ⟨before, st, after, hsplit, hbefore, fun hholds => ?_, ?_, hat.1, hat.2⟩
      · rw [(st.check_alone_eq_none_iff d).mpr hholds] at hfailure
        exact absurd hfailure.symm (Option.some_ne_none _)
      · rw [check, firstFailure_singleton, hfailure]
    · rintro ⟨before, st, after, hsplit, hbefore, _, hfailure, _, _⟩
      rw [check, firstFailure_singleton] at hfailure
      exact ⟨before, st, after, hsplit, hfailure, hbefore⟩

end StyleGuide
