import StyleGuide.Assertion

/-!
# What assertions say

What a list of checks says about a document, and that checking looks for the first thing in it that
is false.

Checks are nested like the nodes they lead to. Each of them is still a statement about one node of
the document, the one that the indices around it lead to. An index is a statement too: it says that
its node has a child there. Written down in the order in which the checks are made, the statements
are a plain list, and a check that is made alone passes just when its statement is true. Checking the
whole list level by level comes to the same as going through the statements from the first to the
last.

## Main definitions

* `ExampleCheck.Holds`, `RuleCheck.Holds`, `SectionCheck.Holds`, `DocumentCheck.Holds`: What a check
  says of its node.
* `Statement`: A check together with the indices that lead to its node.
* `Statement.path`, `Statement.Holds`: The node it is about, and what it says of a document.
* `Statement.alone`: A statement as a single check on the document.
* `statements`: The statements of a list of checks, in the order in which they are checked.

## Theorems

* `childFailure_eq_none_iff`: Checking a child by its index.
* `Statement.check_alone_eq_none_iff`: A check made alone passes just when its statement is true.
* `check_eq_findSome?`: Checking looks for the first false statement.
-/

namespace StyleGuide

/-! ### What a check says of its node -/

theorem failUnless_eq_none_iff (agree : Bool) (path : NodePath) (cause : Cause) :
    failUnless agree path cause = none ↔ agree = true := by
  cases agree <;> simp [failUnless]

theorem firstFailure_eq_none_iff {α : Type} (check : α → Option Failure) (checks : List α) :
    firstFailure check checks = none ↔ ∀ c ∈ checks, check c = none :=
  List.findSome?_eq_none_iff

/-- What checking a child by its index comes to: a failure if there is no such child. -/
def childFailure {α : Type} (children : List α) (index : Nat) (missing : Failure)
    (check : α → Option Failure) : Option Failure :=
  match children[index]? with
  | some child => check child
  | none => some missing

theorem childFailure_of_some {α : Type} (children : List α) (index : Nat) (missing : Failure)
    (check : α → Option Failure) (child : α) (h : children[index]? = some child) :
    childFailure children index missing check = check child := by
  unfold childFailure
  rw [h]

theorem childFailure_eq_none_iff {α : Type} (children : List α) (index : Nat) (missing : Failure)
    (check : α → Option Failure) : childFailure children index missing check = none ↔
      ∃ child, children[index]? = some child ∧ check child = none := by
  unfold childFailure
  cases children[index]? <;> simp

/-- Without further checks an index says no more than that there is a child. -/
theorem childFailure_bare_eq_none_iff {α : Type} (children : List α) (index : Nat)
    (missing : Failure) : childFailure children index missing (fun _ => none) = none ↔
      index < children.length := by
  rw [childFailure_eq_none_iff]
  simp only [and_true, List.getElem?_eq_some_iff]
  exact ⟨fun ⟨_, h, _⟩ => h, fun h => ⟨_, h, rfl⟩⟩

theorem firstFailure_singleton {α : Type} (check : α → Option Failure) (c : α) :
    firstFailure check [c] = check c := by
  unfold firstFailure
  rw [List.findSome?_cons]
  cases check c <;> rfl

/-- What a check says of an example. -/
def ExampleCheck.Holds (e : Example) : ExampleCheck → Prop
  | kind expected => e.kind = expected
  | label expected => e.label = some expected
  | noLabel => e.label = none
  | content expected => e.content = expected

/-- What a check says of a rule. An index says that there is an example. -/
def RuleCheck.Holds (r : Rule) : RuleCheck → Prop
  | name expected => r.name = expected
  | severity expected => r.severity = expected
  | description expected => r.description = expected
  | exampleCount expected => r.examples.length = expected
  | exampleAt index _ => index < r.examples.length

/-- What a check says of a section. An index says that there is a rule. -/
def SectionCheck.Holds (s : Section) : SectionCheck → Prop
  | name expected => s.name = expected
  | description expected => s.description = expected
  | ruleCount expected => s.rules.length = expected
  | ruleAt index _ => index < s.rules.length

/-- What a check says of a document. An index says that there is a section. -/
def DocumentCheck.Holds (d : Document) : DocumentCheck → Prop
  | title expected => d.title = some expected
  | noTitle => d.title = none
  | description expected => d.description = expected
  | sectionCount expected => d.sections.length = expected
  | sectionAt index _ => index < d.sections.length

/-- A check without the checks below its index. -/
def RuleCheck.bare : RuleCheck → RuleCheck
  | exampleAt index _ => exampleAt index []
  | check => check

/-- A check without the checks below its index. -/
def SectionCheck.bare : SectionCheck → SectionCheck
  | ruleAt index _ => ruleAt index []
  | check => check

/-- A check without the checks below its index. -/
def DocumentCheck.bare : DocumentCheck → DocumentCheck
  | sectionAt index _ => sectionAt index []
  | check => check

theorem Rule.failure?_exampleAt (r : Rule) (path : NodePath) (index : Nat)
    (checks : List ExampleCheck) : r.failure? path (.exampleAt index checks) =
      childFailure r.examples index ⟨path, .exampleIndex index r.examples.length⟩
        fun e => firstFailure (e.failure? (path ++ [index])) checks := by
  simp only [Rule.failure?, childFailure]
  cases r.examples[index]? <;> rfl

theorem Section.failure?_ruleAt (s : Section) (path : NodePath) (index : Nat)
    (checks : List RuleCheck) : s.failure? path (.ruleAt index checks) =
      childFailure s.rules index ⟨path, .ruleIndex index s.rules.length⟩
        fun r => firstFailure (r.failure? (path ++ [index])) checks := by
  simp only [Section.failure?, childFailure]
  cases s.rules[index]? <;> rfl

theorem Document.failure?_sectionAt (d : Document) (index : Nat) (checks : List SectionCheck) :
    d.failure? (.sectionAt index checks) =
      childFailure d.sections index ⟨[], .sectionIndex index d.sections.length⟩
        fun s => firstFailure (s.failure? [index]) checks := by
  simp only [Document.failure?, childFailure]
  cases d.sections[index]? <;> rfl

theorem Example.failure?_eq_none_iff (e : Example) (path : NodePath) (check : ExampleCheck) :
    e.failure? path check = none ↔ check.Holds e := by
  cases check <;>
    simp only [Example.failure?, ExampleCheck.Holds, failUnless_eq_none_iff, beq_iff_eq,
      Option.map_eq_none_iff]

theorem Rule.failure?_bare_eq_none_iff (r : Rule) (path : NodePath) (check : RuleCheck) :
    r.failure? path check.bare = none ↔ check.Holds r := by
  cases check with
  | exampleAt index checks =>
      rw [RuleCheck.bare, Rule.failure?_exampleAt]
      exact childFailure_bare_eq_none_iff _ _ _
  | _ =>
      simp only [RuleCheck.bare, Rule.failure?, RuleCheck.Holds, failUnless_eq_none_iff, beq_iff_eq]

theorem Section.failure?_bare_eq_none_iff (s : Section) (path : NodePath) (check : SectionCheck) :
    s.failure? path check.bare = none ↔ check.Holds s := by
  cases check with
  | ruleAt index checks =>
      rw [SectionCheck.bare, Section.failure?_ruleAt]
      exact childFailure_bare_eq_none_iff _ _ _
  | _ =>
      simp only [SectionCheck.bare, Section.failure?, SectionCheck.Holds, failUnless_eq_none_iff,
        beq_iff_eq]

theorem Document.failure?_bare_eq_none_iff (d : Document) (check : DocumentCheck) :
    d.failure? check.bare = none ↔ check.Holds d := by
  cases check with
  | sectionAt index checks =>
      rw [DocumentCheck.bare, Document.failure?_sectionAt]
      exact childFailure_bare_eq_none_iff _ _ _
  | _ =>
      simp only [DocumentCheck.bare, Document.failure?, DocumentCheck.Holds,
        failUnless_eq_none_iff, beq_iff_eq, Option.map_eq_none_iff]

/-! ### Statements -/

/-- The rule that two indices lead to. -/
def Document.ruleAt? (d : Document) (i j : Nat) : Option Rule :=
  d.sections[i]?.bind fun s => s.rules[j]?

/-- The example that three indices lead to. -/
def Document.exampleAt? (d : Document) (i j k : Nat) : Option Example :=
  (d.ruleAt? i j).bind fun r => r.examples[k]?

/-- A check together with the indices that lead to the node it is about. -/
inductive Statement where
  | ofDocument (check : DocumentCheck)
  | ofSection (i : Nat) (check : SectionCheck)
  | ofRule (i j : Nat) (check : RuleCheck)
  | ofExample (i j k : Nat) (check : ExampleCheck)

namespace Statement

/-- The path of the node that a statement is about. -/
def path : Statement → NodePath
  | ofDocument _ => []
  | ofSection i _ => [i]
  | ofRule i j _ => [i, j]
  | ofExample i j k _ => [i, j, k]

/-- What a statement says of a document: that its indices lead to a node, and what the check says
    of that node. -/
def Holds (d : Document) : Statement → Prop
  | ofDocument check => check.Holds d
  | ofSection i check => ∃ s, d.sections[i]? = some s ∧ check.Holds s
  | ofRule i j check => ∃ r, d.ruleAt? i j = some r ∧ check.Holds r
  | ofExample i j k check => ∃ e, d.exampleAt? i j k = some e ∧ check.Holds e

/-- Whether the indices of a statement lead to a node. -/
def Reached (d : Document) : Statement → Prop
  | ofDocument _ => True
  | ofSection i _ => ∃ s, d.sections[i]? = some s
  | ofRule i j _ => ∃ r, d.ruleAt? i j = some r
  | ofExample i j k _ => ∃ e, d.exampleAt? i j k = some e

/-- A statement as a single check on the document. -/
def alone : Statement → DocumentCheck
  | ofDocument check => check.bare
  | ofSection i check => .sectionAt i [check.bare]
  | ofRule i j check => .sectionAt i [.ruleAt j [check.bare]]
  | ofExample i j k check => .sectionAt i [.ruleAt j [.exampleAt k [check]]]

end Statement

theorem Document.failure?_at_rule (d : Document) (i j : Nat) (checks : List RuleCheck) :
    d.failure? (.sectionAt i [.ruleAt j checks]) = none ↔
      ∃ r, d.ruleAt? i j = some r ∧ firstFailure (r.failure? [i, j]) checks = none := by
  rw [failure?_sectionAt, childFailure_eq_none_iff]
  simp only [firstFailure_singleton, Section.failure?_ruleAt, childFailure_eq_none_iff, ruleAt?,
    Option.bind_eq_some_iff]
  constructor
  · rintro ⟨s, hs, r, hr, hchecks⟩
    exact ⟨r, ⟨s, hs, hr⟩, hchecks⟩
  · rintro ⟨r, ⟨s, hs, hr⟩, hchecks⟩
    exact ⟨s, hs, r, hr, hchecks⟩

/-- Two indices that lead to a rule lead the checks to it. -/
theorem Document.failure?_rule (d : Document) (i j : Nat) (r : Rule) (checks : List RuleCheck)
    (h : d.ruleAt? i j = some r) :
    d.failure? (.sectionAt i [.ruleAt j checks]) = firstFailure (r.failure? [i, j]) checks := by
  rcases Option.bind_eq_some_iff.mp h with ⟨s, hs, hr⟩
  rw [failure?_sectionAt, childFailure_of_some _ _ _ _ s hs, firstFailure_singleton,
    Section.failure?_ruleAt, childFailure_of_some _ _ _ _ r hr]
  rfl

/-- A check made alone passes just when its statement is true. -/
theorem Statement.check_alone_eq_none_iff (d : Document) (statement : Statement) :
    d.failure? statement.alone = none ↔ statement.Holds d := by
  cases statement with
  | ofDocument check => exact d.failure?_bare_eq_none_iff check
  | ofSection i check =>
      unfold alone Holds
      rw [Document.failure?_sectionAt, childFailure_eq_none_iff]
      simp only [firstFailure_singleton, Section.failure?_bare_eq_none_iff]
  | ofRule i j check =>
      unfold alone Holds
      rw [Document.failure?_at_rule]
      simp only [firstFailure_singleton, Rule.failure?_bare_eq_none_iff]
  | ofExample i j k check =>
      unfold alone Holds Document.exampleAt?
      rw [Document.failure?_at_rule]
      simp only [firstFailure_singleton, Rule.failure?_exampleAt, childFailure_eq_none_iff,
        Example.failure?_eq_none_iff, Option.bind_eq_some_iff]
      constructor
      · rintro ⟨r, hr, e, he, hcheck⟩
        exact ⟨e, ⟨r, hr, he⟩, hcheck⟩
      · rintro ⟨e, ⟨r, hr, he⟩, hcheck⟩
        exact ⟨r, hr, e, he, hcheck⟩

/-! ### The order of statements -/

/-- The statements of a check on a rule, first the one about the rule itself. -/
def RuleCheck.statements (i j : Nat) (check : RuleCheck) : List Statement :=
  .ofRule i j check :: match check with
    | exampleAt k checks => checks.map (Statement.ofExample i j k)
    | _ => []

/-- The statements of a check on a section, first the one about the section itself. -/
def SectionCheck.statements (i : Nat) (check : SectionCheck) : List Statement :=
  .ofSection i check :: match check with
    | ruleAt j checks => checks.flatMap (RuleCheck.statements i j)
    | _ => []

/-- The statements of a check on a document, first the one about the document itself. -/
def DocumentCheck.statements (check : DocumentCheck) : List Statement :=
  .ofDocument check :: match check with
    | sectionAt i checks => checks.flatMap (SectionCheck.statements i)
    | _ => []

/-- The statements of a list of checks, in the order in which they are checked. -/
def statements (checks : List DocumentCheck) : List Statement :=
  checks.flatMap DocumentCheck.statements

/-- An index that leads nowhere is the first failure; one that leads to a child leaves it to the
    statements about that child. -/
theorem findSome?_child {α : Type} (children : List α) (index : Nat) (missing : Failure)
    (check : α → Option Failure) (fails : Statement → Option Failure) (statement : Statement)
    (below : List Statement)
    (hindex : fails statement = childFailure children index missing fun _ => none)
    (hbelow : ∀ child, children[index]? = some child → below.findSome? fails = check child) :
    (statement :: below).findSome? fails = childFailure children index missing check := by
  unfold childFailure at hindex ⊢
  rw [List.findSome?_cons]
  cases hchild : children[index]? with
  | none =>
      rw [hchild] at hindex
      simp only [hindex]
  | some child =>
      rw [hchild] at hindex
      simp only [hindex]
      exact hbelow child hchild

/-- The checks on a list of children are the checks on all their statements in a row. -/
theorem firstFailure_flatMap {α : Type} (checks : List α) (check : α → Option Failure)
    (parts : α → List Statement) (fails : Statement → Option Failure)
    (h : ∀ c ∈ checks, (parts c).findSome? fails = check c) :
    (checks.flatMap parts).findSome? fails = firstFailure check checks := by
  unfold firstFailure
  induction checks with
  | nil => rfl
  | cons c checks ih =>
      rw [List.flatMap_cons, List.findSome?_append, h c List.mem_cons_self, List.findSome?_cons,
        ih fun c hc => h c (List.mem_cons_of_mem _ hc)]
      cases check c <;> rfl

section Order

variable (d : Document)

theorem findSome?_rule (i j : Nat) (r : Rule) (h : d.ruleAt? i j = some r) (check : RuleCheck) :
    (check.statements i j).findSome? (fun st => d.failure? st.alone) = r.failure? [i, j] check := by
  have halone : d.failure? (Statement.ofRule i j check).alone = r.failure? [i, j] check.bare := by
    rw [Statement.alone, d.failure?_rule i j r _ h, firstFailure_singleton]
  unfold RuleCheck.statements
  cases check with
  | exampleAt k checks =>
      rw [r.failure?_exampleAt]
      refine findSome?_child _ k _ _ _ _ _ (halone.trans (r.failure?_exampleAt _ k [])) ?_
      intro e he
      rw [List.findSome?_map]
      refine congrArg (List.findSome? · checks) (funext fun c => ?_)
      rw [Function.comp_apply, Statement.alone, d.failure?_rule i j r _ h, firstFailure_singleton,
        r.failure?_exampleAt, childFailure_of_some _ _ _ _ e he, firstFailure_singleton]
  | _ => exact (firstFailure_singleton _ _).trans halone

theorem findSome?_section (i : Nat) (s : Section) (h : d.sections[i]? = some s)
    (check : SectionCheck) :
    (check.statements i).findSome? (fun st => d.failure? st.alone) = s.failure? [i] check := by
  have halone : d.failure? (Statement.ofSection i check).alone = s.failure? [i] check.bare := by
    rw [Statement.alone, d.failure?_sectionAt, childFailure_of_some _ _ _ _ s h,
      firstFailure_singleton]
  unfold SectionCheck.statements
  cases check with
  | ruleAt j checks =>
      rw [s.failure?_ruleAt]
      refine findSome?_child _ j _ _ _ _ _ (halone.trans (s.failure?_ruleAt _ j [])) ?_
      intro r hr
      have hrule : d.ruleAt? i j = some r := Option.bind_eq_some_iff.mpr ⟨s, h, hr⟩
      exact firstFailure_flatMap checks _ _ _ fun c _ => findSome?_rule d i j r hrule c
  | _ => exact (firstFailure_singleton _ _).trans halone

theorem findSome?_document (check : DocumentCheck) :
    check.statements.findSome? (fun st => d.failure? st.alone) = d.failure? check := by
  unfold DocumentCheck.statements
  cases check with
  | sectionAt i checks =>
      rw [d.failure?_sectionAt]
      refine findSome?_child _ i _ _ _ _ _ (d.failure?_sectionAt i []) ?_
      intro s hs
      exact firstFailure_flatMap checks _ _ _ fun c _ => findSome?_section d i s hs c
  | _ => exact firstFailure_singleton _ _

/-- Checking looks for the first statement that does not pass alone. -/
theorem check_eq_findSome? (checks : List DocumentCheck) :
    d.check checks = (statements checks).findSome? fun st => d.failure? st.alone :=
  (firstFailure_flatMap checks _ _ _ fun c _ => findSome?_document d c).symm

end Order

end StyleGuide
