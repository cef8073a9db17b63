import StyleGuide.Text.Blank
import StyleGuide.Text.Word
import Mathlib.Data.List.DropRight

/-!
# Cutting at the ends

What it takes to read a line: removing white space at the ends of a text, cutting off a known
beginning, and counting off the white space a line is indented by.

A line is only ever looked at from its ends, so the facts here come in pairs. White space in front
of a text does not change its trimmed form and neither does white space behind it. A character
that is not white space stops the trimming, and what stands on its far side is left alone. With
these a marker or a header that has been written down is read back without unfolding how trimming
works.

Word characters and white space have nothing in common, although both are tables of Unicode. White
space is the small table, so the comparison runs over its twenty-five characters.

## Main definitions

* `Text.Trimmed`: A text without white space at either end.

## Theorems

* `isBlank_eq_false_of_codes`: A class of characters is compared with white space code by code.
* `isBlank_eq_false_of_isWordChar`: No word character is white space.
* `afterLead?_eq_some_iff`: Cutting off a beginning is undone by putting it back.
* `hasLead_iff`: A beginning is a prefix.
* `skipBlanks?_eq_some`, `skipBlanks?_append`: Skipped white space can be put back.
* `forall_mem_head?_append`, `forall_mem_head?_cons`: What can come first.
* `takeWhile_append_of_stop`, `dropWhile_append_of_stop`: Reading a class of characters.
* `trim_blanks_append`, `trim_append_blanks`: White space at the ends does not count.
* `trim_cons_of_not_blank`: The first visible character stays.
* `trimEnd_append_cons_of_not_blank`: Trimming stops at the last visible character.
* `trimmed_trim`: A trimmed text has no white space at its ends.
* `trim_eq_self`: Without white space at its ends, a text is its own trimmed form.
-/

namespace StyleGuide

namespace Text

/-- Neither the first nor the last character of the text is white space. -/
def Trimmed (text : Text) : Prop :=
  (∀ c ∈ text.head?, isBlank c = false) ∧ ∀ c ∈ text.getLast?, isBlank c = false

/-- The code points that are white space. -/
def blankCodes : List Nat :=
  [9, 10, 11, 12, 13, 0x20, 0x85, 0xA0, 0x1680, 0x2000, 0x2001, 0x2002, 0x2003, 0x2004, 0x2005,
    0x2006, 0x2007, 0x2008, 0x2009, 0x200A, 0x2028, 0x2029, 0x202F, 0x205F, 0x3000]

theorem mem_blankCodes_of_isBlank (c : Char) (h : isBlank c = true) : c.toNat ∈ blankCodes := by
  simp only [isBlank, Bool.or_eq_true, Bool.and_eq_true, decide_eq_true_eq, beq_iff_eq] at h
  simp only [blankCodes, List.mem_cons, List.not_mem_nil, or_false]
  omega

/-- A class of characters that none of the twenty-five belongs to has no white space in it. -/
theorem isBlank_eq_false_of_codes (p : Char → Bool)
    (hcodes : ∀ n ∈ blankCodes, p (Char.ofNat n) = false) (c : Char) (h : p c = true) :
    isBlank c = false := by
  rw [Bool.eq_false_iff]
  intro hblank
  have hp := hcodes c.toNat (mem_blankCodes_of_isBlank c hblank)
  rw [Char.ofNat_toNat] at hp
  exact Bool.false_ne_true (hp.symm.trans h)

/-- No word character is white space. -/
theorem isBlank_eq_false_of_isWordChar (c : Char) (h : isWordChar c = true) :
    isBlank c = false :=
  isBlank_eq_false_of_codes isWordChar (by decide +kernel) c h

/-- Cutting off a beginning is undone by putting it back. -/
theorem afterLead?_eq_some_iff (lead text rest : Text) :
    afterLead? lead text = some rest ↔ text = lead ++ rest := by
  induction lead generalizing text with
  | nil => simp only [afterLead?, Option.some.injEq, List.nil_append]
  | cons l lead ih =>
      cases text with
      | nil => simp only [afterLead?, reduceCtorEq, List.cons_append]
      | cons c text =>
          simp only [afterLead?, List.cons_append, List.cons.injEq]
          by_cases hc : l = c
          · rw [if_pos hc, ih]
            exact ⟨fun h => ⟨hc.symm, h⟩, fun h => h.2⟩
          · rw [if_neg hc]
            exact ⟨fun h => absurd h (by simp only [reduceCtorEq, not_false_eq_true]),
              fun h => absurd h.1.symm hc⟩

@[simp] theorem afterLead?_append (lead rest : Text) : afterLead? lead (lead ++ rest) = some rest :=
  (afterLead?_eq_some_iff lead _ rest).mpr rfl

theorem hasLead_iff (lead text : Text) : hasLead lead text = true ↔ lead <+: text := by
  rw [hasLead, Option.isSome_iff_exists]
  constructor
  · rintro ⟨rest, hrest⟩
    exact ⟨rest, ((afterLead?_eq_some_iff lead text rest).mp hrest).symm⟩
  · rintro ⟨rest, hrest⟩
    exact ⟨rest, (afterLead?_eq_some_iff lead text rest).mpr hrest.symm⟩

/-- Skipped white space can be put back. -/
theorem skipBlanks?_eq_some (n : Nat) (text rest : Text) (h : skipBlanks? n text = some rest) :
    ∃ blanks : Text, (∀ c ∈ blanks, isBlank c = true) ∧ blanks.length = n ∧
      text = blanks ++ rest := by
  induction n generalizing text with
  | zero =>
      simp only [skipBlanks?, Option.some.injEq] at h
      exact ⟨[], by simp only [List.not_mem_nil, false_implies, implies_true], rfl, h⟩
  | succ n ih =>
      cases text with
      | nil => simp only [skipBlanks?, reduceCtorEq] at h
      | cons c text =>
          simp only [skipBlanks?] at h
          split at h
          · rename_i hc
            rcases ih text h with ⟨blanks, hblanks, hlength, htext⟩
            refine ⟨c :: blanks, ?_, by rw [List.length_cons, hlength], by rw [htext]; rfl⟩
            intro d hd
            rcases List.mem_cons.mp hd with rfl | hd
            · exact hc
            · exact hblanks d hd
          · exact absurd h (by simp only [reduceCtorEq, not_false_eq_true])

theorem skipBlanks?_append (blanks rest : Text) (h : ∀ c ∈ blanks, isBlank c = true) :
    skipBlanks? blanks.length (blanks ++ rest) = some rest := by
  induction blanks with
  | nil => rfl
  | cons c blanks ih =>
      rw [List.length_cons, List.cons_append, skipBlanks?, if_pos (h c List.mem_cons_self)]
      exact ih fun d hd => h d (List.mem_cons_of_mem _ hd)

/-- What holds of some characters and of the one behind them holds of the first character. -/
theorem forall_mem_head?_append (p : Char → Prop) (front : Text) (c : Char) (rest : Text)
    (hfront : ∀ d ∈ front, p d) (hc : p c) : ∀ d ∈ (front ++ c :: rest).head?, p d := by
  intro d hd
  cases front with
  | nil =>
      rw [← Option.some.inj hd]
      exact hc
  | cons e front =>
      rw [← Option.some.inj hd]
      exact hfront e List.mem_cons_self

theorem forall_mem_head?_cons (p : Char → Prop) (c : Char) (rest : Text) (hc : p c) :
    ∀ d ∈ (c :: rest).head?, p d :=
  forall_mem_head?_append p [] c rest (List.forall_mem_nil p) hc

/-- Reading as much as possible of a class of characters stops where the class does. -/
theorem takeWhile_append_of_stop (p : Char → Bool) (front rest : Text)
    (hfront : ∀ c ∈ front, p c = true) (hrest : ∀ c ∈ rest.head?, p c = false) :
    (front ++ rest).takeWhile p = front := by
  rw [List.takeWhile_append_of_pos hfront]
  cases rest with
  | nil => rw [List.takeWhile_nil, List.append_nil]
  | cons c rest =>
      rw [List.takeWhile_cons_of_neg (by rw [hrest c rfl]; exact Bool.false_ne_true),
        List.append_nil]

theorem dropWhile_append_of_stop (p : Char → Bool) (front rest : Text)
    (hfront : ∀ c ∈ front, p c = true) (hrest : ∀ c ∈ rest.head?, p c = false) :
    (front ++ rest).dropWhile p = rest := by
  rw [List.dropWhile_append_of_pos hfront]
  cases rest with
  | nil => rw [List.dropWhile_nil]
  | cons c rest =>
      rw [List.dropWhile_cons_of_neg (by rw [hrest c rfl]; exact Bool.false_ne_true)]

theorem allBlank_iff (text : Text) : allBlank text = true ↔ ∀ c ∈ text, isBlank c = true := by
  simp only [allBlank, List.all_eq_true]

/-- A space is white space. -/
theorem isBlank_of_mem_space : ∀ c ∈ [' '], isBlank c = true := (allBlank_iff [' ']).mp rfl

theorem trimStart_append_of_blank (blanks text : Text) (h : ∀ c ∈ blanks, isBlank c = true) :
    trimStart (blanks ++ text) = trimStart text :=
  List.dropWhile_append_of_pos h

@[simp] theorem trimStart_cons_of_not_blank (c : Char) (text : Text) (h : isBlank c = false) :
    trimStart (c :: text) = c :: text := by
  unfold trimStart
  rw [List.dropWhile_cons_of_neg (by rw [h]; exact Bool.false_ne_true)]

theorem trimEnd_append_of_blank (text blanks : Text) (h : ∀ c ∈ blanks, isBlank c = true) :
    trimEnd (text ++ blanks) = trimEnd text := by
  unfold trimEnd
  rw [List.reverse_append, List.dropWhile_append_of_pos]
  intro c hc
  exact h c (List.mem_reverse.mp hc)

/-- Trimming stops at the last visible character. -/
theorem trimEnd_append_cons_of_not_blank (before after : Text) (c : Char) (h : isBlank c = false) :
    trimEnd (before ++ c :: after) = before ++ c :: trimEnd after := by
  induction after using List.reverseRecOn with
  | nil =>
      exact List.rdropWhile_concat_neg _ _ _ (by rw [h]; exact Bool.false_ne_true)
  | append_singleton after d ih =>
      rw [← List.cons_append, ← List.append_assoc]
      by_cases hd : isBlank d = true
      · have hblank : ∀ e ∈ [d], isBlank e = true := by
          intro e he
          rw [List.mem_singleton.mp he, hd]
        rw [trimEnd_append_of_blank _ _ hblank, trimEnd_append_of_blank _ _ hblank, ih]
      · have hkeep : ∀ text : Text, trimEnd (text ++ [d]) = text ++ [d] :=
          fun text => List.rdropWhile_concat_neg _ _ _ hd
        rw [hkeep, hkeep, List.append_assoc, List.cons_append]

/-- White space in front of a text does not count. -/
theorem trim_blanks_append (blanks text : Text) (h : ∀ c ∈ blanks, isBlank c = true) :
    trim (blanks ++ text) = trim text := by
  unfold trim
  rw [trimStart_append_of_blank _ _ h]

/-- White space behind a text does not count. -/
theorem trim_append_blanks (text blanks : Text) (h : ∀ c ∈ blanks, isBlank c = true) :
    trim (text ++ blanks) = trim text := by
  induction text with
  | nil =>
      have hend := trimEnd_append_of_blank [] blanks h
      have hstart := trimStart_append_of_blank blanks [] h
      rw [List.append_nil] at hstart
      rw [List.nil_append, trim, hstart]
      rfl
  | cons c text ih =>
      by_cases hc : isBlank c = true
      · have hskip : ∀ rest : Text, trim (c :: rest) = trim rest := by
          intro rest
          unfold trim trimStart
          rw [List.dropWhile_cons_of_pos hc]
        rw [List.cons_append, hskip, hskip, ih]
      · rw [Bool.not_eq_true] at hc
        unfold trim
        rw [List.cons_append, trimStart_cons_of_not_blank _ _ hc,
          trimStart_cons_of_not_blank _ _ hc, ← List.cons_append, trimEnd_append_of_blank _ _ h]

/-- The first visible character stays. -/
theorem trim_cons_of_not_blank (c : Char) (text : Text) (h : isBlank c = false) :
    trim (c :: text) = c :: trimEnd text := by
  unfold trim
  rw [trimStart_cons_of_not_blank _ _ h]
  exact trimEnd_append_cons_of_not_blank [] text c h

/-- What trimming at the end leaves, followed by the white space it removed. -/
theorem trimEnd_append_removed (text : Text) :
    ∃ blanks : Text, (∀ c ∈ blanks, isBlank c = true) ∧ text = trimEnd text ++ blanks :=
  ⟨List.rtakeWhile isBlank text, fun _ hc => List.mem_rtakeWhile_imp hc,
    (List.rdropWhile_append_rtakeWhile ..).symm⟩

/-- Trimming at the end leaves a beginning of the text. -/
theorem trim_prefix_trimStart (text : Text) : trim text <+: trimStart text :=
  List.rdropWhile_prefix _ _

/-- A text trimmed at its end trims to the same as the text itself. -/
theorem trim_trimEnd (text : Text) : trim (trimEnd text) = trim text := by
  rcases trimEnd_append_removed text with ⟨blanks, hblanks, htext⟩
  calc trim (trimEnd text) = trim (trimEnd text ++ blanks) :=
        (trim_append_blanks _ _ hblanks).symm
    _ = trim text := by rw [← htext]

theorem mem_of_mem_trim (c : Char) (text : Text) (h : c ∈ trim text) : c ∈ text :=
  (List.dropWhile_sublist _).subset ((List.rdropWhile_prefix _ _).subset h)

/-- A trimmed text has no white space at its ends. -/
theorem trimmed_trim (text : Text) : Trimmed (trim text) := by
  constructor
  · intro c hc
    cases hstart : trimStart text with
    | nil =>
        rw [trim, hstart] at hc
        exact absurd hc (by simp only [trimEnd, List.reverse_nil, List.dropWhile_nil,
          List.head?_nil, Option.mem_def, reduceCtorEq, not_false_eq_true])
    | cons d rest =>
        have hd : isBlank d = false := by
          have h := List.head?_dropWhile_not isBlank text
          rw [show text.dropWhile isBlank = d :: rest from hstart] at h
          simpa only [List.head?_cons, Bool.not_eq_true'] using h
        rw [trim, hstart, ← List.nil_append (d :: rest),
          trimEnd_append_cons_of_not_blank _ _ _ hd] at hc
        simp only [List.nil_append, List.head?_cons, Option.mem_def, Option.some.injEq] at hc
        rw [← hc, hd]
  · intro c hc
    have hne : trim text ≠ [] := by
      intro h
      rw [h] at hc
      exact absurd hc (by simp only [List.getLast?_nil, Option.mem_def, reduceCtorEq,
        not_false_eq_true])
    rw [List.getLast?_eq_getLast_of_ne_nil hne, Option.mem_def, Option.some.injEq] at hc
    rw [← hc, ← Bool.not_eq_true]
    exact List.rdropWhile_last_not _ _ hne

/-- Without white space at its ends, a text is its own trimmed form. -/
theorem trim_eq_self (text : Text) (h : Trimmed text) : trim text = text := by
  have hstart : trimStart text = text := by
    cases text with
    | nil => rfl
    | cons c rest => exact trimStart_cons_of_not_blank c rest (h.1 c rfl)
  rw [trim, hstart]
  refine List.rdropWhile_eq_self_iff.mpr fun hne => ?_
  rw [h.2 _ (List.getLast?_eq_getLast_of_ne_nil hne)]
  exact Bool.false_ne_true

end Text

end StyleGuide
