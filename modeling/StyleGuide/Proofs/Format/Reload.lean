import StyleGuide.Format.Registry
import StyleGuide.Proofs.Json.TakesBack

/-!
# Reloading an exported document

The JSON export of a document holds all of it: reading the text gives the document back, whatever
its texts are made of and however many parts it has. So no two documents share a JSON text, and a
text that has been read and written anew says the same as before, in a form that stays as it is when
this is done again.

The proof goes up the tree. Each record is taken back since each of its fields is, in the order in
which they are written, and the lists of records in between are taken back since their elements are.

## Main definitions

* `JsonExport.rewrite`: A JSON text that has been read and written anew.

## Theorems

* `JsonExport.takesBack_example`, `JsonExport.takesBack_rule`, `JsonExport.takesBack_section`,
  `JsonExport.takesBack_document`: Each node of the tree is taken back.
* `JsonExport.reload_export`: An exported document is reloaded as it was.
-/

namespace StyleGuide

namespace JsonExport

open Json

/-- A field is filled by the member that its value is written as. -/
theorem fills_field {σ α : Type} {fields : List (Member σ)} {read : Reader α} {write : α → Text}
    (h : TakesBack read write) (name : Text) (get : σ → Option α) (put : σ → α → σ) (state last : σ)
    (value : α) (members : List (Text × Text))
    (hfind : fields.find? (·.name == name) = some (field name get put read))
    (hempty : get state = none) (hrest : Fills fields (put state value) members last) :
    Fills fields state ((name, write value) :: members) last := by
  refine .cons _ hfind ?_ (fun space rest hspace => ?_) hrest
  · simp only [field, hempty, Option.isSome_none]
  · simp only [field, h.reads value space rest hspace, Except.map]

theorem takesBack_kind : TakesBack readKind fun kind => string kind.keyword where
  begins := fun kind => begins_string kind.keyword
  reads := fun kind space rest hspace => by
    have hword : kindOfWord kind.keyword = .ok kind := by cases kind <;> rfl
    rw [readKind, string_append, skipSpace_append space _ '"' hspace rfl]
    simp only [readStringRest_flatMap, bind, Except.bind, hword, pure, Except.pure]

theorem takesBack_lines (level : Nat) : TakesBack (readList readString) (linesText level) :=
  takesBack_list takesBack_string level

theorem takesBack_example (level : Nat) : TakesBack readExample (exampleText level) := by
  refine takesBack_record level _ _ _ _
    (fun e => ⟨some e.kind, some e.label, some e.content⟩) (fun _ => List.cons_ne_nil _ _)
    (fun e => ?_) fun _ => rfl
  exact fills_field takesBack_kind _ _ _ _ _ _ _ rfl rfl
    (fills_field takesBack_optional _ _ _ _ _ _ _ rfl rfl
      (fills_field (takesBack_lines (level + 1)) _ _ _ _ _ _ _ rfl rfl (.nil _)))

theorem takesBack_rule (level : Nat) : TakesBack readRule (ruleText level) := by
  have hexamples := takesBack_list (takesBack_example (level + 2)) (level + 1)
  refine takesBack_record level _ _ _ _
    (fun r => ⟨some r.name, some r.severity, some r.description, some r.examples⟩)
    (fun _ => List.cons_ne_nil _ _) (fun r => ?_) fun _ => rfl
  exact fills_field takesBack_string _ _ _ _ _ _ _ rfl rfl
    (fills_field takesBack_string _ _ _ _ _ _ _ rfl rfl
      (fills_field (takesBack_lines (level + 1)) _ _ _ _ _ _ _ rfl rfl
        (fills_field hexamples _ _ _ _ _ _ _ rfl rfl (.nil _))))

theorem takesBack_section (level : Nat) : TakesBack readSection (sectionText level) := by
  have hrules := takesBack_list (takesBack_rule (level + 2)) (level + 1)
  refine takesBack_record level _ _ _ _
    (fun s => ⟨some s.name, some s.description, some s.rules⟩)
    (fun _ => List.cons_ne_nil _ _) (fun s => ?_) fun _ => rfl
  exact fills_field takesBack_string _ _ _ _ _ _ _ rfl rfl
    (fills_field (takesBack_lines (level + 1)) _ _ _ _ _ _ _ rfl rfl
      (fills_field hrules _ _ _ _ _ _ _ rfl rfl (.nil _)))

theorem takesBack_document : TakesBack readDocument documentText := by
  have hsections := takesBack_list (takesBack_section 2) 1
  refine takesBack_record 0 _ _ _ _
    (fun d => ⟨some d.title, some d.description, some d.sections⟩)
    (fun _ => List.cons_ne_nil _ _) (fun d => ?_) fun _ => rfl
  exact fills_field takesBack_optional _ _ _ _ _ _ _ rfl rfl
    (fills_field (takesBack_lines 1) _ _ _ _ _ _ _ rfl rfl
      (fills_field hsections _ _ _ _ _ _ _ rfl rfl (.nil _)))

/-- What is exported is read back. -/
theorem read_render (d : Document) : read (render d) = .ok d := by
  rw [read, readWhole, render]
  change (readDocument (documentText d ++ ['\n']) >>= _) = _
  rw [takesBack_document.reads_here]
  rfl

/-- The export of the document that a JSON text holds. -/
def rewrite (text : Text) : Except Fault Text := (read text).map render

/-- The JSON export loses nothing: what is exported is reloaded as it was, a text that is reloaded
    holds the same document as its rewriting, which is its own rewriting, and different documents
    have different exports. -/
theorem reload_export :
    (∀ d, ∃ text, Formatter.json.serialize d = .ok text ∧ read text = .ok d) ∧
      (∀ text, (rewrite text).bind read = read text ∧
        (rewrite text).bind rewrite = rewrite text) ∧
      Function.Injective Formatter.json.serialize := by
  refine ⟨fun d => ⟨render d, rfl, read_render d⟩, fun text => ?_, fun d e h => ?_⟩
  · cases hread : read text with
    | error fault => simp only [rewrite, hread, Except.map, Except.bind, and_self]
    | ok d => simp only [rewrite, hread, Except.map, Except.bind, read_render, and_self]
  · have htext : render d = render e := Except.ok.inj h
    have hread := read_render d
    rw [htext, read_render e, Except.ok.injEq] at hread
    exact hread.symm

end JsonExport

end StyleGuide
