import StyleGuide.Text.Basic

/-!
# Pieces of a text

Cutting a text at every occurrence of a mark, and joining pieces with the mark again.

Both directions rest on one law: where two texts meet, the last piece of the one and the first piece
of the other become one piece, and no other piece changes. So where the mark stands, the pieces of
the whole are the pieces of the two sides. A text without the mark is its own only piece, and pieces
without the mark therefore come back from their join as they were. And a text that breaks off early
lacks the end of a single piece.

## Theorems

* `splitAll_cons_self`, `splitAll_cons`: Cutting character by character.
* `splitAll_append`: The pieces of a text that something follows.
* `splitAll_append_mark`: A mark cuts a text in two.
* `splitAll_eq_singleton`: Without the mark there is one piece.
* `forall_mem_of_mem_splitAll`: What pieces consist of.
* `mark_not_mem_of_mem_splitAll`: No piece holds the mark.
* `joinWith_cons`: Joining piece by piece.
* `joinWith_append_nil`: With an empty piece at the end, the separator ends every other piece.
* `splitAll_joinWith`: Pieces that were joined are cut apart again.
* `exists_piece_of_front`: A piece of the front of a text, and what the rest adds to it.
-/

namespace StyleGuide

namespace Text

variable (mark : Char)

theorem splitAll_cons_self (text : Text) :
    splitAll mark (mark :: text) = [] :: splitAll mark text := by
  simp only [splitAll, if_true]

theorem splitAll_ne_nil (text : Text) : splitAll mark text ≠ [] := by
  cases text with
  | nil => exact List.cons_ne_nil _ _
  | cons c text =>
      unfold splitAll
      split
      · exact List.cons_ne_nil _ _
      · split <;> exact List.cons_ne_nil _ _

/-- A character that is not the mark belongs to the first piece. -/
theorem splitAll_cons (c : Char) (text : Text) (h : c ≠ mark) :
    ∃ piece pieces, splitAll mark text = piece :: pieces ∧
      splitAll mark (c :: text) = (c :: piece) :: pieces := by
  rcases List.exists_cons_of_ne_nil (splitAll_ne_nil mark text) with ⟨piece, pieces, hsplit⟩
  refine ⟨piece, pieces, hsplit, ?_⟩
  simp only [splitAll, if_neg h, hsplit]

/-- What follows a text goes on in its last piece, up to the first mark. -/
theorem splitAll_append (front rest added : Text) (others : List Text)
    (h : splitAll mark rest = added :: others) :
    ∃ whole broken, splitAll mark front = whole ++ [broken] ∧
      splitAll mark (front ++ rest) = whole ++ (broken ++ added) :: others := by
  induction front with
  | nil => exact ⟨[], [], rfl, h⟩
  | cons c front ih =>
      rcases ih with ⟨whole, broken, hfront, htext⟩
      rw [List.cons_append]
      by_cases hc : c = mark
      · rw [hc, splitAll_cons_self, splitAll_cons_self, hfront, htext]
        exact ⟨[] :: whole, broken, rfl, rfl⟩
      · rcases splitAll_cons mark c front hc with ⟨piece, pieces, hpieces, hcons⟩
        rcases splitAll_cons mark c (front ++ rest) hc with ⟨first, more, hmore, hfirst⟩
        rw [hfront] at hpieces
        rw [htext] at hmore
        rw [hcons, hfirst]
        -- The new character goes in front of the first piece, which may be the last one as well.
        cases whole with
        | nil =>
            rw [List.nil_append, List.cons.injEq] at hpieces hmore
            rw [← hpieces.1, ← hpieces.2, ← hmore.1, ← hmore.2]
            exact ⟨[], c :: broken, rfl, rfl⟩
        | cons begun whole =>
            rw [List.cons_append, List.cons.injEq] at hpieces hmore
            rw [← hpieces.1, ← hpieces.2, ← hmore.1, ← hmore.2]
            exact ⟨(c :: begun) :: whole, broken, rfl, rfl⟩

/-- A mark cuts a text in two. -/
theorem splitAll_append_mark (before after : Text) :
    splitAll mark (before ++ mark :: after) = splitAll mark before ++ splitAll mark after := by
  rcases splitAll_append mark before _ _ _ (splitAll_cons_self mark after) with
    ⟨whole, broken, hbefore, hwhole⟩
  rw [hwhole, hbefore, List.append_nil, List.append_assoc, List.singleton_append]

/-- A text without the mark is its own only piece. -/
theorem splitAll_eq_singleton (text : Text) (h : mark ∉ text) : splitAll mark text = [text] := by
  induction text with
  | nil => rfl
  | cons c text ih =>
      rw [List.mem_cons, not_or] at h
      rcases splitAll_cons mark c text (Ne.symm h.1) with ⟨piece, pieces, htext, hcons⟩
      rw [ih h.2, List.cons.injEq] at htext
      rw [hcons, ← htext.1, ← htext.2]

/-- Pieces consist of characters of the text, without the mark. -/
theorem forall_mem_of_mem_splitAll (text piece : Text) (h : piece ∈ splitAll mark text) :
    ∀ c ∈ piece, c ∈ text ∧ c ≠ mark := by
  induction text generalizing piece with
  | nil =>
      rw [splitAll, List.mem_singleton] at h
      rw [h]
      exact fun c hc => absurd hc List.not_mem_nil
  | cons first text ih =>
      -- What is true of a piece further behind is true of it here.
      have hlater : ∀ other ∈ splitAll mark text, ∀ c ∈ other, c ∈ first :: text ∧ c ≠ mark :=
        fun other hother c hc =>
          ⟨List.mem_cons_of_mem _ (ih other hother c hc).1, (ih other hother c hc).2⟩
      by_cases hfirst : first = mark
      · rw [hfirst, splitAll_cons_self, List.mem_cons] at h
        rcases h with rfl | h
        · exact fun c hc => absurd hc List.not_mem_nil
        · exact hlater piece h
      · rcases splitAll_cons mark first text hfirst with ⟨begun, others, htext, hcons⟩
        rw [htext] at hlater
        rw [hcons, List.mem_cons] at h
        rcases h with rfl | h
        · intro c hc
          rcases List.mem_cons.mp hc with rfl | hc
          · exact ⟨List.mem_cons_self, hfirst⟩
          · exact hlater begun List.mem_cons_self c hc
        · exact hlater piece (List.mem_cons_of_mem _ h)

/-- No piece holds the mark. -/
theorem mark_not_mem_of_mem_splitAll (text piece : Text) (h : piece ∈ splitAll mark text) :
    mark ∉ piece :=
  fun hmark => (forall_mem_of_mem_splitAll mark text piece h mark hmark).2 rfl

/-- The pieces after the first one each have the separator in front of them. -/
theorem joinWith_cons (separator piece : Text) (pieces : List Text) :
    joinWith separator (piece :: pieces) = piece ++ pieces.flatMap (separator ++ ·) := by
  induction pieces generalizing piece with
  | nil => rw [joinWith, List.flatMap_nil, List.append_nil]
  | cons next pieces ih =>
      rw [joinWith, ih, List.flatMap_cons, List.append_assoc, List.append_assoc]

/-- With an empty piece at the end, every other piece has the separator behind it. -/
theorem joinWith_append_nil (separator : Text) (pieces : List Text) :
    joinWith separator (pieces ++ [[]]) = pieces.flatMap (· ++ separator) := by
  induction pieces with
  | nil => rfl
  | cons piece pieces ih =>
      rw [List.flatMap_cons, ← ih]
      cases pieces with
      | nil => rfl
      | cons next pieces => rw [List.cons_append, List.cons_append, joinWith, ← List.cons_append]

/-- Pieces that were joined are cut apart again. -/
theorem splitAll_joinWith (pieces : List Text) (hne : pieces ≠ [])
    (h : ∀ piece ∈ pieces, mark ∉ piece) : splitAll mark (joinWith [mark] pieces) = pieces := by
  induction pieces with
  | nil => exact absurd rfl hne
  | cons piece pieces ih =>
      have hpiece : splitAll mark piece = [piece] :=
        splitAll_eq_singleton mark piece (h piece List.mem_cons_self)
      cases pieces with
      | nil => exact hpiece
      | cons next pieces =>
          rw [joinWith, List.append_assoc, List.singleton_append, splitAll_append_mark, hpiece,
            ih (List.cons_ne_nil _ _) fun p hp => h p (List.mem_cons_of_mem _ hp)]
          rfl

/-- A piece of the front of a text is a piece of the text once something of the rest is added. -/
theorem exists_piece_of_front (front rest piece : Text) (h : piece ∈ splitAll mark front) :
    ∃ added : Text, (∀ c ∈ added, c ∈ rest) ∧ piece ++ added ∈ splitAll mark (front ++ rest) := by
  rcases List.exists_cons_of_ne_nil (splitAll_ne_nil mark rest) with ⟨added, others, hrest⟩
  rcases splitAll_append mark front rest added others hrest with ⟨whole, broken, hfront, htext⟩
  rw [hfront, List.mem_append, List.mem_singleton] at h
  rw [htext]
  rcases h with h | rfl
  · refine ⟨[], fun c hc => absurd hc List.not_mem_nil, ?_⟩
    rw [List.append_nil]
    exact List.mem_append_left _ h
  · have hadded : added ∈ splitAll mark rest := by
      rw [hrest]
      exact List.mem_cons_self
    exact ⟨added, fun c hc => (forall_mem_of_mem_splitAll mark rest added hadded c hc).1,
      List.mem_append_right _ List.mem_cons_self⟩

end Text

end StyleGuide
