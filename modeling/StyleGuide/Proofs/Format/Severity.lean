import StyleGuide.Format.Palette
import StyleGuide.Proofs.Text.Upper
import Mathlib

/-!
# Severities in a guide

Which severities are shown in colour, and that the guide tells nothing apart that reads the same.

A severity is shown in its upper case form, while the choice of a colour compares its ASCII letters
only. The two notions of case agree on the words that matter. Each of their letters is the upper
case form of ASCII letters alone, and where another character becomes several, one of these is no
letter of the two words. So a severity is shown as `ERROR` just when it is `error` but for the case
of ASCII letters, and what is shown of a severity is a function of its upper case form.

## Main definitions

* `Text.colouredLetters`: The letters of the two words.

## Theorems

* `Text.ascii_of_upperChar`: Only ASCII characters become letters of the two words.
* `Text.upper_eq_iff_map_toUpper`: A text is shown as such a word just when its ASCII form is it.
* `Text.sameIgnoringCase_iff`: Texts that are the same but for the case of ASCII letters.
* `Palette.tag_eq`: A severity is shown as its upper case form says.
* `Palette.tag_styles_as_shown`: Severities that display alike are styled alike.
-/

namespace StyleGuide

namespace Text

/-- The letters of the two severities that are shown in colour. -/
def colouredLetters : Text := "ERONWA"

theorem colouredLetters_ascii (d : Char) (h : d ∈ colouredLetters) : d.toNat < 0x80 := by
  have hall : (colouredLetters.all fun letter => letter.toNat.blt 0x80) = true := by decide
  exact Nat.blt_eq.mp (List.all_eq_true.mp hall d h)

/-- Only ASCII characters become letters of the two words: another one becomes, or has among those
    it becomes, a character that is no such letter. -/
theorem ascii_of_upperChar (c : Char) (h : ∀ d ∈ upperChar c, d ∈ colouredLetters) :
    c.toNat < 0x80 := by
  have hform := upperForm c
  generalize upperChar c = upper at h hform
  cases hform with
  | ascii hlow => exact hlow
  | several expansion hmem =>
      have hother : ∀ entry ∈ upperExpansions, ∃ n ∈ entry.2, Char.ofNat n ∉ colouredLetters := by
        decide +kernel
      rcases hother _ hmem with ⟨n, hn, hletter⟩
      exact absurd (h _ (List.mem_map_of_mem hn)) hletter
  | moved run image hmem himage =>
      have hletter := h _ List.mem_cons_self
      have hlow := colouredLetters_ascii _ hletter
      -- Two images are ASCII characters, and these are in neither word. Nor is the character zero.
      rcases toNat_ofNat_or image with hcode | hzero
      · rw [hcode] at hlow
        have hasciiImages : ∀ n ∈ [0x49, 0x53], Char.ofNat n ∉ colouredLetters := by decide +kernel
        exact absurd hletter (hasciiImages image (mem_of_ascii_image run hmem _ image himage hlow))
      · rw [hzero] at hletter
        exact absurd hletter (by decide +kernel)
  | kept hhigh => exact colouredLetters_ascii c (h c List.mem_cons_self)

/-- Beyond ASCII the simple upper-casing does nothing. -/
theorem toUpper_of_not_ascii (c : Char) (h : 0x80 ≤ c.toNat) : c.toUpper = c := by
  refine Char.toUpper_eq_of_not_isLower fun hlower => ?_
  simp only [Char.isLower, Bool.and_eq_true, decide_eq_true_eq] at hlower
  have hbound : c.toNat ≤ 0x7A := hlower.2
  omega

/-- A text of ASCII characters is upper-cased letter by letter. -/
theorem upper_of_ascii (text : Text) (h : ∀ c ∈ text, c.toNat < 0x80) :
    upper text = text.map Char.toUpper := by
  induction text with
  | nil => rfl
  | cons c text ih =>
      have hrest := ih fun d hd => h d (List.mem_cons_of_mem _ hd)
      have hfirst : upperChar c = [c.toUpper] := by
        rw [upperChar, if_pos (h c List.mem_cons_self)]
      rw [upper] at hrest ⊢
      rw [List.flatMap_cons, hfirst, hrest, List.map_cons, List.singleton_append]

/-- A text becomes a word of these letters just when its ASCII letters do so alone. -/
theorem upper_eq_iff_map_toUpper (text word : Text) (hword : word ⊆ colouredLetters) :
    upper text = word ↔ text.map Char.toUpper = word := by
  constructor
  · intro h
    have hascii : ∀ c ∈ text, c.toNat < 0x80 := by
      intro c hc
      refine ascii_of_upperChar c fun d hd => hword ?_
      rw [← h]
      exact List.mem_flatMap.mpr ⟨c, hc, hd⟩
    rw [← upper_of_ascii text hascii, h]
  · intro h
    have hascii : ∀ c ∈ text, c.toNat < 0x80 := by
      intro c hc
      by_contra hhigh
      -- The character would be a letter of the word itself.
      have hsame := toUpper_of_not_ascii c (Nat.le_of_not_lt hhigh)
      have hmem : c ∈ word := by
        rw [← h, ← hsame]
        exact List.mem_map_of_mem hc
      exact hhigh (colouredLetters_ascii c (hword hmem))
    rw [upper_of_ascii text hascii, h]

/-- Comparing lower case forms of ASCII letters is comparing their upper case forms. -/
theorem sameIgnoringCase_iff (a b : Text) :
    sameIgnoringCase a b = true ↔ a.map Char.toUpper = b.map Char.toUpper := by
  have hup : Char.toUpper ∘ Char.toLower = Char.toUpper :=
    funext Char.toUpper_toLower_eq_toUpper
  have hdown : Char.toLower ∘ Char.toUpper = Char.toLower :=
    funext Char.toLower_toUpper_eq_toLower
  rw [sameIgnoringCase, beq_iff_eq]
  constructor
  · intro h
    have hagain := congrArg (List.map Char.toUpper) h
    rwa [List.map_map, List.map_map, hup] at hagain
  · intro h
    have hagain := congrArg (List.map Char.toLower) h
    rwa [List.map_map, List.map_map, hdown] at hagain

/-- A word of these letters is named, but for the case of ASCII letters, just by what is shown as
    the word. -/
theorem sameIgnoringCase_iff_upper_eq (text name word : Text)
    (hword : word ⊆ colouredLetters) (hname : name.map Char.toUpper = word) :
    sameIgnoringCase text name = true ↔ upper text = word := by
  rw [sameIgnoringCase_iff, hname, upper_eq_iff_map_toUpper text word hword]

end Text

namespace Palette

/-- The word that an error is shown as. -/
def errorWord : Text := "ERROR"

/-- The word that a warning is shown as. -/
def warnWord : Text := "WARN"

/-- A severity is shown as its upper case form says. -/
theorem tag_eq (palette : Palette) (severity : Text) : palette.tag severity =
    if severity.upper = errorWord then span palette.error errorWord
    else if severity.upper = warnWord then span palette.warn warnWord
    else severity.upper := by
  have herror := Text.sameIgnoringCase_iff_upper_eq severity "error" errorWord (by decide)
    (by decide)
  have hwarn := Text.sameIgnoringCase_iff_upper_eq severity "warn" warnWord (by decide)
    (by decide)
  rw [tag]
  by_cases hisError : severity.upper = errorWord
  · rw [if_pos (herror.mpr hisError), if_pos hisError, hisError]
  · rw [if_neg fun h => hisError (herror.mp h), if_neg hisError]
    by_cases hisWarn : severity.upper = warnWord
    · rw [if_pos (hwarn.mpr hisWarn), if_pos hisWarn, hisWarn]
    · rw [if_neg fun h => hisWarn (hwarn.mp h), if_neg hisWarn]

/-- An upper case form is no coloured text, since the mark of one has lower case letters. -/
theorem upper_ne_span (severity colour text : Text) : severity.upper ≠ span colour text := by
  intro h
  have hmem : 's' ∈ severity.upper := by
    rw [h]
    exact List.mem_append_left _ (List.mem_append_left _ (List.mem_append_left _
      (List.mem_append_left _ (by decide))))
  have hupper := Text.upperChar_of_mem_upper severity 's' hmem
  exact absurd hupper (by decide)

/-- Coloured text is neither of the two words. -/
theorem span_ne_word (colour text word : Text) (hword : word = errorWord ∨ word = warnWord) :
    span colour text ≠ word := by
  have hupper : word.upper = word := by
    rcases hword with rfl | rfl <;> decide
  intro h
  exact upper_ne_span word colour text (hupper.trans h.symm)

/-- Severities that display alike are styled alike. What is shown of a severity depends on its upper
    case form only; it is in colour just where that form is one of the two words, in the colour of
    that word, so neither word is ever shown without its colour; and a severity that is in upper
    case already is shown in the same way. -/
theorem tag_styles_as_shown (palette : Palette) :
    (∀ severity other : Text, severity.upper = other.upper →
      palette.tag severity = palette.tag other) ∧
    ∀ severity : Text,
      ((∃ colour text, palette.tag severity = span colour text) ↔
        severity.upper = errorWord ∨ severity.upper = warnWord) ∧
      (severity.upper = errorWord → palette.tag severity = span palette.error errorWord) ∧
      (severity.upper = warnWord → palette.tag severity = span palette.warn warnWord) ∧
      palette.tag severity ≠ errorWord ∧ palette.tag severity ≠ warnWord ∧
      palette.tag severity.upper = palette.tag severity := by
  refine ⟨fun severity other h => by rw [tag_eq, tag_eq, h], fun severity => ?_⟩
  have hagain : palette.tag severity.upper = palette.tag severity := by
    rw [tag_eq, tag_eq palette severity, Text.upper_upper]
  have hdiffer : errorWord ≠ warnWord := by decide
  -- What is in colour is neither of the bare words.
  have hnever : ∀ colour text, palette.tag severity = span colour text →
      palette.tag severity ≠ errorWord ∧ palette.tag severity ≠ warnWord := by
    intro colour text hspan
    rw [hspan]
    exact ⟨span_ne_word colour text _ (Or.inl rfl), span_ne_word colour text _ (Or.inr rfl)⟩
  by_cases hisError : severity.upper = errorWord
  · have htag : palette.tag severity = span palette.error errorWord := by
      rw [tag_eq, if_pos hisError]
    refine ⟨⟨fun _ => Or.inl hisError, fun _ => ⟨_, _, htag⟩⟩, fun _ => htag, fun hisWarn => ?_,
      (hnever _ _ htag).1, (hnever _ _ htag).2, hagain⟩
    exact absurd (hisError.symm.trans hisWarn) hdiffer
  · by_cases hisWarn : severity.upper = warnWord
    · have htag : palette.tag severity = span palette.warn warnWord := by
        rw [tag_eq, if_neg hisError, if_pos hisWarn]
      exact ⟨⟨fun _ => Or.inr hisWarn, fun _ => ⟨_, _, htag⟩⟩, fun h => absurd h hisError,
        fun _ => htag, (hnever _ _ htag).1, (hnever _ _ htag).2, hagain⟩
    · have htag : palette.tag severity = severity.upper := by
        rw [tag_eq, if_neg hisError, if_neg hisWarn]
      refine ⟨⟨?_, fun h => absurd h (not_or.mpr ⟨hisError, hisWarn⟩)⟩,
        fun h => absurd h hisError, fun h => absurd h hisWarn, by rwa [htag], by rwa [htag],
        hagain⟩
      rintro ⟨colour, text, hspan⟩
      exact absurd (htag.symm.trans hspan) (upper_ne_span severity colour text)

/-- Two words with one upper case form that are not the same but for the case of ASCII letters, and
    a word whose upper case form is `WARN` but for a character in front of its last letter. -/
theorem tag_styles_as_shown_expanded :
    Text.upper ("straße" : String) = Text.upper ("STRASSE" : String) ∧
    Palette.tag {} ("straße" : String) = Palette.tag {} ("STRASSE" : String) ∧
    ¬Text.sameIgnoringCase ("straße" : String) ("STRASSE" : String) = true ∧
    Text.upper ("war\u0149" : String) = ("WAR\u02BCN" : String) ∧
    Palette.tag {} ("war\u0149" : String) = ("WAR\u02BCN" : String) :=
  ⟨by decide +kernel, (tag_styles_as_shown {}).1 _ _ (by decide +kernel), by decide +kernel,
    by decide +kernel, by decide +kernel⟩

end Palette

end StyleGuide
