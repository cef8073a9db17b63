import StyleGuide.Text.Upper

/-!
# Upper case forms

What upper-casing can give, read off the tables once and for all.

The upper case form of a character comes from one of four places: from ASCII, from the table of
characters that become several, from a run of characters that move by one distance, or it is the
character itself. `UpperForm` lists the four, and a fact about all upper case forms is a fact about
each of them, which for the tables is a finite check.

The check that upper-casing is done after one pass would be one for each image of a run. It is made
for whole runs instead: the images of one run and the characters of another lie in ranges that do
not meet, or where they do meet the ones are even and the others odd.

## Main definitions

* `UpperForm`: Where the upper case form of a character comes from.
* `CaseRun.apart`: No image of a run belongs to another run.

## Theorems

* `upperForm`: Every upper case form comes from one of these places.
* `upperChar_of_mem_upper`: The characters of an upper case form are upper case.
* `upper_upper`: Upper-casing a second time changes nothing.
* `slash_not_mem_upper`: Upper-casing makes no slash.
-/

namespace StyleGuide

namespace Text

/-! ### Runs -/

namespace CaseRun

theorem imageOf?_eq_some_iff (run : CaseRun) (n image : Nat) :
    run.imageOf? n = some image ↔ (run.first ≤ n ∧ n ≤ run.last) ∧
      (n - run.first) % run.step = 0 ∧ image = run.image + (n - run.first) := by
  unfold imageOf?
  simp only [Bool.and_eq_true, Nat.ble_eq, beq_iff_eq, Option.ite_none_right_eq_some,
    Option.some.injEq, and_assoc, eq_comm (a := image)]

/-- Whether the images of a run and the characters of another lie in ranges that do not meet, or are
    even on one side and odd on the other. -/
def apart (run other : CaseRun) : Bool :=
  other.last.blt run.image || (run.image + (run.last - run.first)).blt other.first ||
    ((run.step == 2 || run.first == run.last) && other.step == 2 &&
      (run.image + other.first) % 2 == 1)

/-- No image of a run belongs to a run that is apart from it. -/
theorem imageOf?_image (run other : CaseRun) (h : run.apart other = true) (n image : Nat)
    (himage : run.imageOf? n = some image) : other.imageOf? image = none := by
  rcases (imageOf?_eq_some_iff run n image).mp himage with ⟨⟨hfirst, hlast⟩, hstep, rfl⟩
  rw [Option.eq_none_iff_forall_ne_some]
  intro next hnext
  rcases (imageOf?_eq_some_iff other _ next).mp hnext with ⟨⟨hlow, hhigh⟩, hother, _⟩
  simp only [apart, Bool.or_eq_true, Bool.and_eq_true, Nat.blt_eq, beq_iff_eq] at h
  rcases h with (hbelow | habove) | ⟨⟨hrun, htwo⟩, hodd⟩
  · omega
  · omega
  · -- The distance inside the run is even, and the distance inside the other one would be, too.
    have heven : (n - run.first) % 2 = 0 := by
      rcases hrun with hrun | hrun
      · rw [← hrun, hstep]
      · omega
    rw [htwo] at hother
    omega

end CaseRun

/-! ### What is checked of the tables -/

theorem apart_upperRuns :
    (upperRuns.all fun run => upperRuns.all fun other => run.apart other) = true := by
  decide +kernel

/-- No image of a run becomes several characters. -/
theorem expansions_apart : (upperRuns.all fun run => upperExpansions.all fun (n, _) =>
    n.blt run.image || (run.image + (run.last - run.first)).blt n) = true := by
  decide +kernel

/-- Two characters beyond ASCII have an ASCII letter for their upper case form. -/
theorem ascii_image (run : CaseRun) (hrun : run ∈ upperRuns) :
    0x80 ≤ run.image ∨ run.first = run.last ∧ run.image ∈ [0x49, 0x53] := by
  revert run
  decide +kernel

/-- Where a character becomes several, they are upper case. -/
theorem upperChar_of_mem_expansion :
    ∀ entry ∈ upperExpansions, ∀ n ∈ entry.2, upperChar (Char.ofNat n) = [Char.ofNat n] := by
  decide +kernel

theorem slash_not_mem_expansion : ∀ entry ∈ upperExpansions, (0x2F : Nat) ∉ entry.2 := by
  decide +kernel

/-! ### Where upper case forms come from -/

/-- A number that is no code point stands for the character zero. -/
theorem toNat_ofNat_or (n : Nat) : (Char.ofNat n).toNat = n ∨ Char.ofNat n = Char.ofNat 0 := by
  by_cases hvalid : n.isValidChar
  · refine Or.inl ?_
    rw [Char.ofNat, dif_pos hvalid]
    rfl
  · refine Or.inr ?_
    rw [Char.ofNat, dif_neg hvalid]
    rfl

/-- A fact about ASCII characters is checked code point by code point. -/
theorem forall_ascii {p : Char → Prop} (h : ∀ n < 0x80, p (Char.ofNat n)) (c : Char)
    (hlow : c.toNat < 0x80) : p c := by
  have hcode := h c.toNat hlow
  rwa [Char.ofNat_toNat] at hcode

/-- Where the upper case form of a character comes from: it is that of an ASCII character, it has
    several characters, it is the image in a run, or it is the character itself. -/
inductive UpperForm (c : Char) : Text → Prop where
  | ascii (hlow : c.toNat < 0x80) : UpperForm c [c.toUpper]
  | several (expansion : List Nat) (hmem : (c.toNat, expansion) ∈ upperExpansions) :
      UpperForm c (expansion.map Char.ofNat)
  | moved (run : CaseRun) (image : Nat) (hmem : run ∈ upperRuns)
      (himage : run.imageOf? c.toNat = some image) : UpperForm c [Char.ofNat image]
  | kept (hhigh : 0x80 ≤ c.toNat) : UpperForm c [c]

theorem upperForm (c : Char) : UpperForm c (upperChar c) := by
  rw [upperChar]
  by_cases hlow : c.toNat < 0x80
  · rw [if_pos hlow]
    exact .ascii hlow
  · rw [if_neg hlow]
    cases hexpansion : upperExpansions.lookup c.toNat with
    | some expansion =>
        rcases List.lookup_eq_some_iff.mp hexpansion with ⟨front, back, htable, _⟩
        exact .several expansion (by rw [htable]; exact List.mem_append_right _ List.mem_cons_self)
    | none =>
        cases hrun : upperRuns.findSome? fun run => run.imageOf? c.toNat with
        | some image =>
            rcases List.exists_of_findSome?_eq_some hrun with ⟨run, hmem, himage⟩
            exact .moved run image hmem himage
        | none => exact .kept (Nat.not_lt.mp hlow)

/-! ### Upper case forms are upper case -/

/-- An image that is an ASCII character is one of these two letters. -/
theorem mem_of_ascii_image (run : CaseRun) (hrun : run ∈ upperRuns) (n image : Nat)
    (himage : run.imageOf? n = some image) (hlow : image < 0x80) : image ∈ [0x49, 0x53] := by
  rcases (CaseRun.imageOf?_eq_some_iff run n image).mp himage with ⟨⟨hfirst, hlast⟩, _, hvalue⟩
  rcases ascii_image run hrun with hhigh | ⟨hsingle, hletter⟩
  · omega
  · -- The run has this image only.
    have hsame : image = run.image := by omega
    rw [hsame]
    exact hletter

/-- An image in a run stays as it is. -/
theorem upperChar_image (run : CaseRun) (hrun : run ∈ upperRuns) (n image : Nat)
    (himage : run.imageOf? n = some image) :
    upperChar (Char.ofNat image) = [Char.ofNat image] := by
  rcases (CaseRun.imageOf?_eq_some_iff run n image).mp himage with ⟨⟨hfirst, hlast⟩, _, hvalue⟩
  rcases toNat_ofNat_or image with hcode | hzero
  · by_cases hlow : image < 0x80
    · have hletters : ∀ letter ∈ [0x49, 0x53],
          upperChar (Char.ofNat letter) = [Char.ofNat letter] := by decide
      exact hletters image (mem_of_ascii_image run hrun n image himage hlow)
    · have hexpansion : upperExpansions.lookup image = none := by
        rw [List.lookup_eq_none_iff]
        intro entry hentry
        have hapart := List.all_eq_true.mp (List.all_eq_true.mp expansions_apart run hrun) entry
          hentry
        simp only [Bool.or_eq_true, Nat.blt_eq] at hapart
        rw [bne_iff_ne]
        omega
      have hruns : (upperRuns.findSome? fun other => other.imageOf? image) = none := by
        rw [List.findSome?_eq_none_iff]
        intro other hother
        exact CaseRun.imageOf?_image run other
          (List.all_eq_true.mp (List.all_eq_true.mp apart_upperRuns run hrun) other hother) n image
          himage
      rw [upperChar, hcode, if_neg hlow, hexpansion, hruns]
  · rw [hzero]
    decide

/-- The characters of an upper case form are upper case. -/
theorem upperChar_of_mem (c d : Char) (h : d ∈ upperChar c) : upperChar d = [d] := by
  have hform := upperForm c
  generalize hupper : upperChar c = upper at h hform
  cases hform with
  | ascii hlow =>
      have hdone : upperChar c.toUpper = [c.toUpper] :=
        forall_ascii (p := fun c => upperChar c.toUpper = [c.toUpper]) (by decide +kernel) c hlow
      rw [List.mem_singleton.mp h, hdone]
  | several expansion hmem =>
      rcases List.mem_map.mp h with ⟨n, hn, rfl⟩
      exact upperChar_of_mem_expansion _ hmem n hn
  | moved run image hmem himage =>
      rw [List.mem_singleton.mp h]
      exact upperChar_image run hmem c.toNat image himage
  | kept hhigh =>
      rw [List.mem_singleton.mp h, hupper]

theorem upperChar_of_mem_upper (text : Text) (d : Char) (h : d ∈ upper text) :
    upperChar d = [d] := by
  rcases List.mem_flatMap.mp h with ⟨c, _, hd⟩
  exact upperChar_of_mem c d hd

/-- A text of upper case characters is its own upper case form. -/
theorem upper_eq_self (text : Text) (h : ∀ d ∈ text, upperChar d = [d]) : upper text = text := by
  induction text with
  | nil => rfl
  | cons d text ih =>
      have hrest : upper text = text := ih fun e he => h e (List.mem_cons_of_mem _ he)
      rw [upper] at hrest ⊢
      rw [List.flatMap_cons, h d List.mem_cons_self, hrest, List.singleton_append]

/-- Upper-casing a second time changes nothing. -/
theorem upper_upper (text : Text) : upper (upper text) = upper text :=
  upper_eq_self (upper text) (upperChar_of_mem_upper text)

/-! ### Slashes -/

theorem slash_ne_ofNat (n : Nat) (h : n ≠ 0x2F) : '/' ≠ Char.ofNat n := by
  intro heq
  rcases toNat_ofNat_or n with hcode | hzero
  · rw [← heq] at hcode
    exact h hcode.symm
  · rw [hzero] at heq
    exact absurd heq (by decide)

/-- No character but the slash becomes one. -/
theorem slash_not_mem_upperChar (c : Char) (h : c ≠ '/') : '/' ∉ upperChar c := by
  have hform := upperForm c
  generalize upperChar c = upper at hform
  intro hslash
  cases hform with
  | ascii hlow =>
      have honly : '/' = c.toUpper → c = '/' :=
        forall_ascii (p := fun c => '/' = c.toUpper → c = '/') (by decide) c hlow
      exact h (honly (List.mem_singleton.mp hslash))
  | several expansion hmem =>
      rcases List.mem_map.mp hslash with ⟨n, hn, heq⟩
      exact slash_ne_ofNat n (fun hcode => slash_not_mem_expansion _ hmem (hcode ▸ hn)) heq.symm
  | moved run image hmem himage =>
      refine slash_ne_ofNat image (fun himageSlash => ?_) (List.mem_singleton.mp hslash)
      have hletter := mem_of_ascii_image run hmem _ image himage (by omega)
      exact absurd (himageSlash ▸ hletter) (by decide)
  | kept hhigh => exact h (List.mem_singleton.mp hslash).symm

theorem slash_not_mem_upper (text : Text) (h : '/' ∉ text) : '/' ∉ upper text := by
  rw [upper, List.mem_flatMap]
  rintro ⟨c, hc, hslash⟩
  exact slash_not_mem_upperChar c (fun heq => h (heq ▸ hc)) hslash

end Text

end StyleGuide
