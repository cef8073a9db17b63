import StyleGuide.Text.Basic

/-!
# The lines of a text

Cutting a text into lines and putting lines together again.

A line never holds a line feed, which is all that cutting promises. The other way round it takes
some care, since a carriage return at the end of a line is taken for a part of the line end when a
line feed follows. `ofLines` therefore ends each line with both characters: the carriage return
that is dropped is then always its own, and any lines without a line feed come back as they were.

## Main definitions

* `Text.ofLines`: Lines put together to a text.
* `Text.withReturns`: A text with a carriage return in front of every line feed.

## Theorems

* `newline_not_mem_of_mem_lines`: A line holds no line feed.
* `lines_cons`: Any other character belongs to the line it stands in.
* `lines_terminated_append`: A line that is ended properly is the first line.
* `lines_ofLines`: Lines that were put together are cut apart again.
* `lines_newline_append`: A line feed alone ends a line, too, where no carriage return is before it.
* `lines_joinWith`: Lines with line feeds between them are cut apart again, but an empty last one.
* `lines_withReturns`: Carriage returns in front of the line feeds do not change the lines.
* `lines_append_newline`: A line feed at the end ends the last line, or gives an empty one.
-/

namespace StyleGuide

namespace Text

/-- Lines put together to a text, each of them ended by a carriage return and a line feed. -/
def ofLines (lines : List Text) : Text := lines.flatMap (· ++ ['\r', '\n'])

/-- A text with a carriage return put in front of every line feed. -/
def withReturns (text : Text) : Text :=
  text.flatMap fun c => if c = '\n' then ['\r', '\n'] else [c]

/-- A character that neither ends a line nor belongs to a line end stands in the first line. -/
theorem lines_cons (c : Char) (text : Text) (hc : c ≠ '\n')
    (hr : c = '\r' → text.head? ≠ some '\n') : lines (c :: text) = consLine c (lines text) := by
  rw [lines.eq_def]
  split
  · rename_i h
    exact absurd h (List.cons_ne_nil c text)
  · rename_i rest h
    rw [List.cons.injEq] at h
    exact absurd (by rw [h.2, List.head?_cons]) (hr h.1)
  · rename_i rest _ h
    rw [List.cons.injEq] at h
    exact absurd h.1 hc
  · rename_i d rest _ _ h
    rw [List.cons.injEq] at h
    rw [h.1, h.2]

/-- The first of the lines that `consLine` makes begins with the new character; the others were
    there before. -/
theorem mem_consLine (c : Char) (lines : List Text) (line : Text) (h : line ∈ consLine c lines) :
    line = [c] ∨ line ∈ lines ∨ ∃ rest ∈ lines, line = c :: rest := by
  cases lines with
  | nil => exact Or.inl (List.mem_singleton.mp h)
  | cons first others =>
      simp only [consLine, List.mem_cons] at h
      rcases h with h | h
      · exact Or.inr (Or.inr ⟨first, List.mem_cons_self, h⟩)
      · exact Or.inr (Or.inl (List.mem_cons_of_mem _ h))

/-- A line holds no line feed. -/
theorem newline_not_mem_of_mem_lines (text line : Text) (h : line ∈ lines text) : '\n' ∉ line := by
  induction text using lines.induct generalizing line with
  | case1 => exact absurd h List.not_mem_nil
  | case2 text ih =>
      rw [lines_return_newline, List.mem_cons] at h
      rcases h with rfl | h
      · exact List.not_mem_nil
      · exact ih line h
  | case3 text ih =>
      rw [lines_newline, List.mem_cons] at h
      rcases h with rfl | h
      · exact List.not_mem_nil
      · exact ih line h
  | case4 c text hcr hlf ih =>
      have hc : '\n' ≠ c := fun hc => hlf hc.symm
      rw [lines_cons c text (fun h => hlf h)] at h
      · rcases mem_consLine c _ line h with rfl | h | ⟨rest, hrest, rfl⟩
        · rw [List.mem_singleton]
          exact hc
        · exact ih line h
        · rw [List.mem_cons, not_or]
          exact ⟨hc, ih rest hrest⟩
      · intro hr hhead
        cases text with
        | nil => simp only [List.head?_nil, reduceCtorEq] at hhead
        | cons d text =>
            rw [List.head?_cons, Option.some.injEq] at hhead
            exact hcr text hr (by rw [hhead])

/-- A line that is ended properly is the first line. -/
theorem lines_terminated_append (line rest : Text) (h : '\n' ∉ line) :
    lines (line ++ '\r' :: '\n' :: rest) = line :: lines rest := by
  induction line with
  | nil => rw [List.nil_append, lines_return_newline]
  | cons c line ih =>
      rw [List.mem_cons, not_or] at h
      rw [List.cons_append, lines_cons c _ (fun hc => h.1 hc.symm), ih h.2, consLine]
      -- A carriage return inside the line is followed by the rest of the line, not by a line feed.
      intro _ hhead
      cases line with
      | nil =>
          rw [List.nil_append, List.head?_cons, Option.some.injEq] at hhead
          exact absurd hhead (by decide)
      | cons d line =>
          rw [List.cons_append, List.head?_cons, Option.some.injEq] at hhead
          exact h.2 (by rw [hhead]; exact List.mem_cons_self)

/-- Lines that were put together are cut apart again. -/
theorem lines_ofLines (ls : List Text) (h : ∀ line ∈ ls, '\n' ∉ line) :
    lines (ofLines ls) = ls := by
  induction ls with
  | nil => rfl
  | cons line ls ih =>
      have hrest : lines (ofLines ls) = ls := ih fun l hl => h l (List.mem_cons_of_mem _ hl)
      have hsplit : ofLines (line :: ls) = line ++ '\r' :: '\n' :: ofLines ls := by
        simp only [ofLines, List.flatMap_cons, List.append_assoc, List.cons_append,
          List.nil_append]
      rw [hsplit, lines_terminated_append _ _ (h line List.mem_cons_self), hrest]

/-- Without a line feed there is one line, or none at all. -/
theorem lines_eq_singleton (line : Text) (h : '\n' ∉ line) (hne : line ≠ []) :
    lines line = [line] := by
  induction line with
  | nil => exact absurd rfl hne
  | cons c line ih =>
      rw [List.mem_cons, not_or] at h
      have hhead : line.head? ≠ some '\n' := fun hhead => h.2 (List.mem_of_head? hhead)
      rw [lines_cons c line (Ne.symm h.1) fun _ => hhead]
      by_cases hline : line = []
      · rw [hline]
        rfl
      · rw [ih h.2 hline]
        rfl

/-- A line feed ends the first line. What stands before it must not end in a carriage return, which
    would be taken for a part of the line end. -/
theorem lines_newline_append (line rest : Text) (h : '\n' ∉ line)
    (hreturn : line.getLast? ≠ some '\r') : lines (line ++ '\n' :: rest) = line :: lines rest := by
  induction line with
  | nil =>
      rw [List.nil_append, lines.eq_3]
  | cons c line ih =>
      rw [List.mem_cons, not_or] at h
      have hlast : line.getLast? ≠ some '\r' := by
        intro hlast
        rw [List.getLast?_cons, hlast, Option.getD_some] at hreturn
        exact hreturn rfl
      rw [List.cons_append, lines_cons c _ (Ne.symm h.1), ih h.2 hlast, consLine]
      -- A carriage return is the last of the line only where the line goes on behind it.
      intro hc hhead
      cases line with
      | nil => exact hreturn (by rw [hc, List.getLast?_singleton])
      | cons d line =>
          rw [List.cons_append, List.head?_cons, Option.some.injEq] at hhead
          exact h.2 (by rw [hhead]; exact List.mem_cons_self)

/-- Lines with line feeds between them are cut apart again. An empty line at the end is lost, since
    the line feed before it ends the line above and opens no further one. -/
theorem lines_joinWith (ls : List Text)
    (h : ∀ line ∈ ls, '\n' ∉ line ∧ line.getLast? ≠ some '\r') :
    lines (joinWith ['\n'] ls) = ls ∨ lines (joinWith ['\n'] ls) ++ [[]] = ls := by
  induction ls with
  | nil => exact Or.inl rfl
  | cons line ls ih =>
      cases ls with
      | nil =>
          by_cases hline : line = []
          · exact Or.inr (by rw [hline]; rfl)
          · exact Or.inl (lines_eq_singleton line (h line List.mem_cons_self).1 hline)
      | cons next ls =>
          have hline := h line List.mem_cons_self
          have hcut : lines (joinWith ['\n'] (line :: next :: ls)) =
              line :: lines (joinWith ['\n'] (next :: ls)) := by
            rw [joinWith, List.append_assoc, List.singleton_append,
              lines_newline_append _ _ hline.1 hline.2]
          rw [hcut, List.cons_append]
          rcases ih fun l hl => h l (List.mem_cons_of_mem _ hl) with hsame | hless
          · exact Or.inl (by rw [hsame])
          · exact Or.inr (by rw [hless])

/-! ### Other line ends -/

/-- Carriage returns in front of the line feeds do not change the lines. -/
theorem lines_withReturns (text : Text) (h : '\r' ∉ text) :
    lines (withReturns text) = lines text := by
  induction text with
  | nil => rfl
  | cons c text ih =>
      rw [List.mem_cons, not_or] at h
      have hrest := ih h.2
      by_cases hc : c = '\n'
      · subst hc
        have hends : withReturns ('\n' :: text) = '\r' :: '\n' :: withReturns text := rfl
        rw [hends, lines_return_newline, lines_newline, hrest]
      · have hstays : withReturns (c :: text) = c :: withReturns text := by
          rw [withReturns, List.flatMap_cons, if_neg hc, List.singleton_append, withReturns]
        have hreturn : c ≠ '\r' := fun heq => h.1 heq.symm
        rw [hstays, lines_cons c _ hc fun heq => absurd heq hreturn,
          lines_cons c _ hc fun heq => absurd heq hreturn, hrest]

/-- A line feed at the end of a text ends its last line. Where that line has ended already, or there
    is none, it gives one more line, which is empty. -/
theorem lines_append_newline (text : Text) (h : '\r' ∉ text) :
    lines (text ++ ['\n']) = lines text ∨ lines (text ++ ['\n']) = lines text ++ [[]] := by
  induction text with
  | nil => exact Or.inr rfl
  | cons c text ih =>
      rw [List.mem_cons, not_or] at h
      rw [List.cons_append]
      by_cases hc : c = '\n'
      · subst hc
        rw [lines_newline, lines_newline]
        rcases ih h.2 with hsame | hmore
        · exact Or.inl (by rw [hsame])
        · exact Or.inr (by rw [hmore, List.cons_append])
      · have hreturn : c ≠ '\r' := fun heq => h.1 heq.symm
        rw [lines_cons c _ hc fun heq => absurd heq hreturn,
          lines_cons c _ hc fun heq => absurd heq hreturn]
        rcases ih h.2 with hsame | hmore
        · exact Or.inl (by rw [hsame])
        · rw [hmore]
          -- A line that the character opens is the one that the line feed ends.
          cases hlines : lines text with
          | nil => exact Or.inl rfl
          | cons line rest => exact Or.inr rfl

end Text

end StyleGuide
