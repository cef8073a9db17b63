import StyleGuide.Format.Registry
import StyleGuide.Proofs.Yaml.Scalar

/-!
# Documents are told apart by their YAML

The layout of the export is known in advance: which keys a node has, in which order, and at which
column its entries stand. What is open is where a text ends and where a list ends. A part of the
layout is delimited when two equal exports that begin with it must agree on the part and on what
stands behind it. Scalars are, since a scalar is read back whatever follows, and what is put together
from delimited parts is delimited as well, as long as each part may be followed by the next.

A scalar asks for something that is indented less than its own lines. A list asks for more: what
follows it must not look like one more item, and an item is a dash at the column of the list. Keys of
the node the list belongs to stand at that very column and have no dash; whatever lies further out
stands left of it. Both demands are met everywhere in the layout, and this is the one place where the
columns matter.

## Main definitions

* `YamlExport.Delimited`: What is written is told apart, and from what follows it.
* `YamlExport.Closes`: What may follow a list.

## Theorems

* `Delimited.followed`, `Delimited.of_parts`: Delimited parts make up something delimited.
* `delimited_optional`: A missing text is told apart from every text.
* `delimited_list`: Lists are told apart where their items are.
* `delimited_exampleText`, `delimited_ruleText`, `delimited_sectionText`, `delimited_render`: So are
  the nodes of a document, and the document itself.
* `Formatter.yaml_unambiguous`: Two documents with one export are the same.
-/

namespace StyleGuide

namespace YamlExport

open Yaml

/-- Two things that are written alike, with something behind them that may stand there, are the
    same, and the same stands behind them. -/
def Delimited {α : Type} (Ends : Text → Prop) (write : α → Text) : Prop :=
  ∀ (a b : α) (r s : Text), Ends r → Ends s → write a ++ r = write b ++ s → a = b ∧ r = s

/-- What follows is the same where what is written is. -/
theorem delimited_of_inj {α : Type} (Ends : Text → Prop) (write : α → Text)
    (h : ∀ (a b : α) (r s : Text), Ends r → Ends s → write a ++ r = write b ++ s → a = b) :
    Delimited Ends write := by
  intro a b r s hr hs heq
  have hsame := h a b r s hr hs heq
  rw [hsame] at heq
  exact ⟨hsame, List.append_cancel_left heq⟩

/-- A fixed text in front changes nothing. -/
theorem Delimited.behind {α : Type} {Ends : Text → Prop} {write : α → Text}
    (h : Delimited Ends write) (front : Text) : Delimited Ends fun a => front ++ write a := by
  intro a b r s hr hs heq
  rw [List.append_assoc, List.append_assoc] at heq
  exact h a b r s hr hs (List.append_cancel_left heq)

/-- Fewer things may follow. -/
theorem Delimited.mono {α : Type} {Ends Ends' : Text → Prop} {write : α → Text}
    (h : Delimited Ends write) (hends : ∀ rest, Ends' rest → Ends rest) : Delimited Ends' write :=
  fun a b r s hr hs => h a b r s (hends r hr) (hends s hs)

/-- One part behind another is told apart where the second may follow the first. -/
theorem Delimited.followed {α β : Type} {EndsFirst Ends : Text → Prop} {first : α → Text}
    {second : β → Text} (hfirst : Delimited EndsFirst first) (hsecond : Delimited Ends second)
    (hends : ∀ b rest, Ends rest → EndsFirst (second b ++ rest)) :
    Delimited Ends fun parts : α × β => first parts.1 ++ second parts.2 := by
  rintro ⟨a, b⟩ ⟨a', b'⟩ r s hr hs heq
  rw [List.append_assoc, List.append_assoc] at heq
  rcases hfirst _ _ _ _ (hends b r hr) (hends b' s hs) heq with ⟨ha, hrest⟩
  rcases hsecond _ _ _ _ hr hs hrest with ⟨hb, hsame⟩
  exact ⟨Prod.ext ha hb, hsame⟩

/-- What is written part by part is told apart where it is made up of these parts. -/
theorem Delimited.of_parts {α β : Type} {Ends : Text → Prop} {writeParts : β → Text}
    (h : Delimited Ends writeParts) (write : α → Text) (parts : α → β)
    (hwrite : ∀ a, write a = writeParts (parts a)) (hinj : Function.Injective parts) :
    Delimited Ends write := by
  intro a b r s hr hs heq
  rw [hwrite, hwrite] at heq
  rcases h _ _ _ _ hr hs heq with ⟨hparts, hsame⟩
  exact ⟨hinj hparts, hsame⟩

/-! ### Columns -/

/-- What may follow a list whose items stand at a column: nothing, a line further out, or a key at
    the column. -/
inductive Closes (column : Nat) : Text → Prop where
  | stop : Closes column []
  | line (n : Nat) (c : Char) (tail : Text) (hn : n < column) (hspace : c ≠ ' ')
      (hbreak : isBreak c = false) : Closes column (indent n ++ c :: tail)
  | key (c : Char) (tail : Text) (hspace : c ≠ ' ') (hbreak : isBreak c = false) (hdash : c ≠ '-') :
      Closes column (indent column ++ c :: tail)

/-- A line tells at which column it begins. -/
theorem indent_append_inj (m n : Nat) (c d : Char) (a b : Text) (hc : c ≠ ' ') (hd : d ≠ ' ')
    (h : indent m ++ c :: a = indent n ++ d :: b) : m = n ∧ c = d := by
  induction m generalizing n with
  | zero =>
      cases n with
      | zero => exact ⟨rfl, (List.cons.inj h).1⟩
      | succ n => exact absurd (List.cons.inj h).1 hc
  | succ m ih =>
      cases n with
      | zero => exact absurd (List.cons.inj h).1.symm hd
      | succ n =>
          rcases ih n (List.cons.inj h).2 with ⟨hmn, hcd⟩
          exact ⟨congrArg (· + 1) hmn, hcd⟩

/-- What closes a list is no item of it. -/
theorem Closes.ne_item {column : Nat} {rest : Text} (h : Closes column rest) (tail : Text) :
    rest ≠ indent column ++ '-' :: tail := by
  intro heq
  cases h with
  | stop => exact absurd heq.symm (List.append_ne_nil_of_right_ne_nil _ (List.cons_ne_nil _ _))
  | line n c _ hn hspace _ =>
      have hcolumn := (indent_append_inj _ _ _ _ _ _ hspace (by decide) heq).1
      omega
  | key c _ hspace _ hdash =>
      exact hdash (indent_append_inj _ _ _ _ _ _ hspace (by decide) heq).2

theorem Closes.outdented {column : Nat} {rest : Text} (h : Closes column rest) :
    Outdented (column + 1) rest := by
  cases h with
  | stop => exact .stop
  | line n c tail hn hspace hbreak => exact .line n c tail (by omega) hspace hbreak
  | key c tail hspace hbreak _ => exact .line column c tail (Nat.lt_succ_self _) hspace hbreak

/-- What stands left of a column closes every list from there on. -/
theorem closes_of_outdented {column : Nat} {rest : Text} (h : Outdented column rest) :
    Closes column rest := by
  cases h with
  | stop => exact .stop
  | line n c tail hn hspace hbreak => exact .line n c tail hn hspace hbreak

theorem outdented_mono {column column' : Nat} {rest : Text} (hle : column ≤ column')
    (h : Outdented column rest) : Outdented column' rest := by
  cases h with
  | stop => exact .stop
  | line n c tail hn hspace hbreak => exact .line n c tail (by omega) hspace hbreak

/-- Whether a name can be that of an entry: its first character is visible and no dash. -/
def namesEntry (name : Text) : Bool := name.head?.any fun c => c != ' ' && !isBreak c && c != '-'

/-- An entry of a node closes the lists of that node. -/
theorem closes_key (column : Nat) (name rest : Text) (h : namesEntry name = true) :
    Closes column (key column name ++ rest) := by
  cases name with
  | nil => exact absurd h (by decide)
  | cons c name =>
      simp only [namesEntry, List.head?_cons, Option.any_some, Bool.and_eq_true, bne_iff_ne,
        Bool.not_eq_true'] at h
      rw [key, List.append_assoc, List.append_assoc, List.cons_append]
      exact .key c _ h.1.1 h.1.2 h.2

theorem closes_list (column : Nat) (name : Text) (items : List Text) (rest : Text)
    (h : namesEntry name = true) : Closes column (list column name items ++ rest) := by
  rw [list, List.append_assoc]
  exact closes_key column name _ h

/-! ### Texts -/

theorem delimited_scalar (column : Nat) : Delimited (Outdented column) (scalar column) :=
  delimited_of_inj _ _ (scalar_append_inj column)

/-- No text is written like a missing one: the text `null` is written in quotes. -/
theorem scalar_ne_null (column : Nat) (text r s : Text) (hr : Outdented column r) :
    scalar column text ++ r ≠ ("null\n" : Text) ++ s := by
  intro heq
  have htext : text = ("null" : Text) := by
    rw [← readScalar_scalar column text r hr, heq]
    rfl
  rw [htext] at heq
  exact absurd (List.cons.inj heq).1 (by decide)

/-- A missing text is told apart from every text. -/
theorem delimited_optional (column : Nat) :
    Delimited (Outdented (column + 2)) (optional column) := by
  refine delimited_of_inj _ _ fun a b r s hr hs heq => ?_
  cases a with
  | none =>
      cases b with
      | none => rfl
      | some b => exact absurd heq.symm (scalar_ne_null (column + 2) b s r hs)
  | some a =>
      cases b with
      | none => exact absurd heq (scalar_ne_null (column + 2) a r s hr)
      | some b => exact congrArg some (scalar_append_inj (column + 2) a b r s hr hs heq)

/-! ### Lists -/

theorem item_eq (column : Nat) (written : Text) :
    item column written = indent column ++ '-' :: ' ' :: written := by
  rw [item, List.append_assoc]
  rfl

section Lists

variable {α : Type} {column : Nat} {write : α → Text}

/-- Behind an item stands one more item, or what closes the list. -/
theorem outdented_items (hdash : ∀ a, ∃ tail, write a = indent column ++ '-' :: tail)
    (items : List α) (rest : Text) (hrest : Closes column rest) :
    Outdented (column + 1) ((items.map write).flatten ++ rest) := by
  cases items with
  | nil => exact hrest.outdented
  | cons a items =>
      rcases hdash a with ⟨tail, htail⟩
      rw [List.map_cons, List.flatten_cons, List.append_assoc, htail, List.append_assoc]
      exact .line column '-' _ (Nat.lt_succ_self _) (by decide) (by decide)

/-- What closes a list is not a further item of it. -/
theorem items_ne_rest (hdash : ∀ a, ∃ tail, write a = indent column ++ '-' :: tail)
    (a : α) (items : List α) (r s : Text) (hs : Closes column s) :
    ((a :: items).map write).flatten ++ r ≠ s := by
  intro heq
  rcases hdash a with ⟨tail, htail⟩
  rw [List.map_cons, List.flatten_cons, List.append_assoc, htail, List.append_assoc] at heq
  exact hs.ne_item _ heq.symm

/-- Items are told apart from each other and from what closes their list. -/
theorem delimited_items (hwrite : Delimited (Outdented (column + 1)) write)
    (hdash : ∀ a, ∃ tail, write a = indent column ++ '-' :: tail) :
    Delimited (Closes column) fun items : List α => (items.map write).flatten := by
  refine delimited_of_inj _ _ fun as bs r s hr hs heq => ?_
  induction as generalizing bs with
  | nil =>
      cases bs with
      | nil => rfl
      | cons b bs => exact absurd heq.symm (items_ne_rest hdash b bs s r hr)
  | cons a as ih =>
      cases bs with
      | nil => exact absurd heq (items_ne_rest hdash a as r s hs)
      | cons b bs =>
          rw [List.map_cons, List.map_cons, List.flatten_cons, List.flatten_cons,
            List.append_assoc, List.append_assoc] at heq
          rcases hwrite a b _ _ (outdented_items hdash as r hr) (outdented_items hdash bs s hs)
            heq with ⟨rfl, hrest⟩
          exact congrArg (a :: ·) (ih bs hrest)

/-- Lists are told apart where their items are. An empty list has a notation of its own. -/
theorem delimited_list (name : Text) (hwrite : Delimited (Outdented (column + 1)) write)
    (hdash : ∀ a, ∃ tail, write a = indent column ++ '-' :: tail) :
    Delimited (Closes column) fun items : List α => list column name (items.map write) := by
  refine Delimited.behind ?_ (key column name)
  refine delimited_of_inj _ _ fun as bs r s hr hs heq => ?_
  cases as with
  | nil =>
      cases bs with
      | nil => rfl
      | cons b bs => exact absurd (List.cons.inj heq).1 (by decide)
  | cons a as =>
      cases bs with
      | nil => exact absurd (List.cons.inj heq).1 (by decide)
      | cons b bs =>
          exact (delimited_items hwrite hdash (a :: as) (b :: bs) r s hr hs
            (List.cons.inj heq).2).1

end Lists

theorem delimited_lines (column : Nat) (name : Text) :
    Delimited (Closes column) (lines column name) := by
  have hline := ((delimited_scalar (column + 2)).behind (indent column ++ "- ")).mono
    fun _ => outdented_mono (Nat.le_succ _)
  exact delimited_list name hline fun _ => ⟨_, item_eq column _⟩

/-! ### Nodes -/

/-- An entry stands left of the lines of every text in front of it. -/
theorem outdented_key (column : Nat) (name rest : Text) (h : namesEntry name = true) :
    Outdented (column + 2) (key column name ++ rest) :=
  outdented_mono (Nat.le_succ _) (closes_key column name rest h).outdented

theorem outdented_list (column : Nat) (name : Text) (items : List Text) (rest : Text)
    (h : namesEntry name = true) : Outdented (column + 2) (list column name items ++ rest) :=
  outdented_mono (Nat.le_succ _) (closes_list column name items rest h).outdented

/-- What stands behind a node closes the lists inside it, which are further in. -/
theorem closes_inside {column : Nat} {rest : Text} (h : Outdented (column + 1) rest) :
    Closes (column + 2) rest :=
  closes_of_outdented (outdented_mono (Nat.le_succ _) h)

/-- The two kinds of examples have different keywords. -/
theorem keyword_injective : Function.Injective ExampleKind.keyword := by
  intro a b h
  cases a <;> cases b
  · rfl
  · exact absurd h (by decide)
  · exact absurd h (by decide)
  · rfl

/-- Examples are told apart. -/
theorem delimited_exampleText (column : Nat) :
    Delimited (Outdented (column + 1)) (exampleText column) := by
  -- The entries from the last one to the first, each with what stands behind it.
  have hcontent := (delimited_lines (column + 2) "content").mono fun _ => closes_inside
  have hlabel := (((delimited_optional (column + 2)).followed hcontent
    fun _ _ _ => outdented_list _ _ _ _ (by decide)).behind " ").behind (key (column + 2) "label")
  have hkind := ((delimited_scalar (column + 4)).followed hlabel fun _ _ _ => by
    rw [List.append_assoc]
    exact outdented_key _ _ _ (by decide)).behind (item column ("kind" ++ ": "))
  refine hkind.of_parts _ (fun e => (e.kind.keyword, e.label, e.content)) (fun e => ?_) ?_
  · unfold exampleText node item
    simp only [List.flatten_cons, List.flatten_nil, List.append_nil, List.append_assoc]
  · rintro ⟨kind, label, content⟩ ⟨kind', label', content'⟩ h
    simp only [Prod.mk.injEq] at h
    rw [Example.mk.injEq]
    exact ⟨keyword_injective h.1, h.2⟩

/-- Rules are told apart. -/
theorem delimited_ruleText (column : Nat) :
    Delimited (Outdented (column + 1)) (ruleText column) := by
  have hexamples := (delimited_list "examples" (delimited_exampleText (column + 2))
    fun _ => ⟨_, item_eq (column + 2) _⟩).mono fun _ => closes_inside
  have hdescription := (delimited_lines (column + 2) "description").followed hexamples
    fun _ _ _ => closes_list _ _ _ _ (by decide)
  have hseverity := (((delimited_scalar (column + 4)).followed hdescription fun _ _ _ => by
    rw [List.append_assoc]
    exact outdented_list _ _ _ _ (by decide)).behind " ").behind (key (column + 2) "severity")
  have hname := ((delimited_scalar (column + 4)).followed hseverity fun _ _ _ => by
    rw [List.append_assoc]
    exact outdented_key _ _ _ (by decide)).behind (item column ("name" ++ ": "))
  refine hname.of_parts _ (fun rule => (rule.name, rule.severity, rule.description, rule.examples))
    (fun rule => ?_) ?_
  · unfold ruleText node item entry
    simp only [List.flatten_cons, List.flatten_nil, List.append_nil, List.append_assoc]
  · rintro ⟨name, severity, description, examples⟩ ⟨name', severity', description', examples'⟩ h
    simp only [Prod.mk.injEq] at h
    rw [Rule.mk.injEq]
    exact h

/-- Sections are told apart. -/
theorem delimited_sectionText (column : Nat) :
    Delimited (Outdented (column + 1)) (sectionText column) := by
  have hrules := (delimited_list "rules" (delimited_ruleText (column + 2))
    fun _ => ⟨_, item_eq (column + 2) _⟩).mono fun _ => closes_inside
  have hdescription := (delimited_lines (column + 2) "description").followed hrules
    fun _ _ _ => closes_list _ _ _ _ (by decide)
  have hname := ((delimited_scalar (column + 4)).followed hdescription fun _ _ _ => by
    rw [List.append_assoc]
    exact outdented_list _ _ _ _ (by decide)).behind (item column ("name" ++ ": "))
  refine hname.of_parts _ (fun found => (found.name, found.description, found.rules))
    (fun found => ?_) ?_
  · unfold sectionText node item
    simp only [List.flatten_cons, List.flatten_nil, List.append_nil, List.append_assoc]
  · rintro ⟨name, description, rules⟩ ⟨name', description', rules'⟩ h
    simp only [Prod.mk.injEq] at h
    rw [Section.mk.injEq]
    exact h

/-- Documents are told apart. -/
theorem delimited_render : Delimited (Closes 0) render := by
  have hsections := delimited_list "sections" (delimited_sectionText 0)
    fun _ => ⟨_, item_eq 0 _⟩
  have hdescription := (delimited_lines 0 "description").followed hsections
    fun _ _ _ => closes_list _ _ _ _ (by decide)
  have htitle := (((delimited_optional 0).followed hdescription fun _ _ _ => by
    rw [List.append_assoc]
    exact outdented_list _ _ _ _ (by decide)).behind " ").behind (key 0 "title")
  refine htitle.of_parts _ (fun d => (d.title, d.description, d.sections)) (fun d => ?_) ?_
  · unfold render
    simp only [List.append_assoc]
  · rintro ⟨title, description, sections⟩ ⟨title', description', sections'⟩ h
    simp only [Prod.mk.injEq] at h
    rw [Document.mk.injEq]
    exact h

end YamlExport

namespace Formatter

/-- The YAML format gives one text for two documents just when they are the same document. -/
theorem yaml_unambiguous (d e : Document) :
    (∃ text, yaml.serialize d = .ok text ∧ yaml.serialize e = .ok text) ↔ d = e := by
  constructor
  · rintro ⟨text, hd, he⟩
    have hsame : YamlExport.render d = YamlExport.render e :=
      (Except.ok.inj hd).trans (Except.ok.inj he).symm
    exact (YamlExport.delimited_render d e [] [] .stop .stop (congrArg (· ++ []) hsame)).1
  · rintro rfl
    exact ⟨YamlExport.render d, rfl, rfl⟩

end Formatter

end StyleGuide
