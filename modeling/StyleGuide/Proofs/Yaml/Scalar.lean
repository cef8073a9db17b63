import StyleGuide.Yaml.Scalar
import StyleGuide.Proofs.Text.Trim
import Mathlib

/-!
# Scalars are read back

A text is written as a scalar in one of four styles, and the style depends on nearly every character
of it. Reading needs none of that: the first character of a scalar tells its style, and each style
is read in one pass. `readScalar` is such a reader, and it gives the text back whatever stands behind
the scalar, so no two texts are written alike.

Each style has its own way to end. A plain scalar ends with its line. Quotes end at the quote, which
is doubled or escaped where it belongs to the text. A literal block ends at the first line that is
indented less than the block, so what follows has to be such a line, or nothing: that is the one
demand on the surroundings. A block always ends a line, and whether that line end is the text's own
is told by the hints in its head.

Between single quotes the indentation of a further line is dropped when it is read, which is why a
text with a space behind a line break is never written in this style.

## Main definitions

* `Yaml.Outdented`: What may follow a block.
* `Yaml.readSingle`, `Yaml.readDouble`, `Yaml.readLiteral`: The readers of three styles.
* `Yaml.readScalar`: The reader of scalars.

## Theorems

* `readSingle_singleBody`, `readDouble_flatMap`, `readLiteral_literalBody`: Each style is read back.
* `readScalar_scalar`: A scalar is read back, whatever its style.
-/

namespace StyleGuide

namespace Yaml

/-- Nothing more, or a line that begins left of a column. -/
inductive Outdented (column : Nat) : Text → Prop where
  | stop : Outdented column []
  | line (n : Nat) (c : Char) (tail : Text) (hn : n < column) (hspace : c ≠ ' ')
      (hbreak : isBreak c = false) : Outdented column (indent n ++ c :: tail)

/-! ### Single quotes -/

/-- The text between single quotes, up to the closing quote. `fresh` tells whether a line has just
    begun, so that spaces are indentation, and `quoted` whether a quote has just been read, which
    counts if another one follows. -/
def readSingle : (fresh quoted : Bool) → Text → Text
  | _, _, [] => []
  | fresh, quoted, c :: text =>
    if quoted then
      if c = '\x27' then c :: readSingle false false text else []
    else if c = '\x27' then readSingle fresh true text
    else if c = ' ' ∧ fresh then readSingle true false text
    else c :: readSingle (isBreak c) false text

/-- Indentation is dropped when it is read. -/
theorem readSingle_indent (column : Nat) (fresh : Bool) (text : Text) :
    readSingle fresh false ((if fresh then indent column else []) ++ text) =
      readSingle fresh false text := by
  cases fresh with
  | false => rfl
  | true =>
      induction column with
      | zero => rfl
      | succ column ih => exact ih

/-- A quote that is not doubled ends the text. -/
theorem readSingle_end (fresh : Bool) (rest : Text) (h : rest.head? ≠ some '\x27') :
    readSingle fresh false ('\x27' :: rest) = [] := by
  rw [readSingle, if_neg Bool.false_ne_true, if_pos rfl]
  cases rest with
  | nil => rfl
  | cons c rest =>
      rw [readSingle, if_pos rfl, if_neg]
      exact fun hc => h (congrArg some hc)

theorem readSingle_cons (fresh : Bool) (c : Char) (text : Text) (hquote : c ≠ '\x27')
    (hspace : fresh = true → c ≠ ' ') :
    readSingle fresh false (c :: text) = c :: readSingle (isBreak c) false text := by
  rw [readSingle, if_neg Bool.false_ne_true, if_neg hquote, if_neg (fun h => hspace h.2 h.1)]

/-- A visible character is read, with the indentation in front of it dropped and a quote read once. -/
theorem readSingle_visible (column : Nat) (fresh : Bool) (c : Char) (text : Text) (hspace : c ≠ ' ')
    (hbreak : isBreak c = false) :
    readSingle fresh false ((if fresh then indent column else []) ++
      (if c == '\x27' then ['\x27', '\x27'] else [c]) ++ text) = c :: readSingle false false text := by
  rw [List.append_assoc, readSingle_indent]
  by_cases hquote : c = '\x27'
  · subst hquote
    rw [if_pos (by rfl), List.cons_append, List.cons_append, List.nil_append, readSingle,
      if_neg Bool.false_ne_true, if_pos rfl, readSingle, if_pos rfl, if_pos rfl]
  · rw [if_neg (by rwa [beq_iff_eq]), List.singleton_append,
      readSingle_cons _ _ _ hquote fun _ => hspace, hbreak]

theorem hasBreakSpace_tail (c : Char) (text : Text) (h : hasBreakSpace (c :: text) = false) :
    hasBreakSpace text = false ∧ (isBreak c = true → text.head? ≠ some ' ') := by
  cases text with
  | nil => exact ⟨rfl, fun _ => by simp only [List.head?_nil, ne_eq, reduceCtorEq,
      not_false_eq_true]⟩
  | cons d text =>
      rw [hasBreakSpace, hasNeighbours, Bool.or_eq_false_iff, Bool.and_eq_false_iff] at h
      refine ⟨h.2, fun hbreak hhead => ?_⟩
      rw [List.head?_cons, Option.some.injEq] at hhead
      rcases h.1 with hno | hno
      · rw [hbreak] at hno
        exact Bool.noConfusion hno
      · rw [hhead] at hno
        exact Bool.noConfusion hno

/-- Text between single quotes is read back. Where a line begins, the text has no space. -/
theorem readSingle_singleBody (column : Nat) (fresh : Bool) (text rest : Text)
    (hrest : rest.head? ≠ some '\x27') (htext : hasBreakSpace text = false)
    (hfresh : fresh = true → text.head? ≠ some ' ') :
    readSingle fresh false (singleBody column fresh text ++ '\x27' :: rest) = text := by
  -- Behind every character the text is read on in the state in which it was written on.
  induction text generalizing fresh with
  | nil =>
      rw [singleBody, readSingle_indent]
      exact readSingle_end fresh rest hrest
  | cons c text ih =>
      rcases hasBreakSpace_tail c text htext with ⟨htail, hafter⟩
      rw [singleBody]
      by_cases hspace : c = ' '
      · have hold : fresh = false := by
          cases fresh with
          | true => exact absurd (congrArg some hspace) (hfresh rfl)
          | false => rfl
        subst hspace hold
        rw [if_pos (by rfl), List.cons_append, readSingle_cons _ _ _ (by decide) (by decide)]
        exact congrArg _ (ih false htail fun h => absurd h Bool.false_ne_true)
      · rw [if_neg (by rwa [beq_iff_eq])]
        by_cases hbreak : isBreak c = true
        · have hquote : c ≠ '\x27' := by
            rintro rfl
            exact absurd hbreak (by decide)
          rw [if_pos hbreak, List.cons_append, readSingle_cons _ _ _ hquote fun _ => hspace, hbreak,
            ih true htail fun _ => hafter hbreak]
        · rw [if_neg hbreak, List.append_assoc, readSingle_visible _ _ _ _ hspace
            (Bool.eq_false_iff.mpr hbreak), ih false htail fun h => absurd h Bool.false_ne_true]

/-! ### Double quotes -/

/-- How many digits follow a letter behind the backslash that announces a code point. -/
def codeWidth? (c : Char) : Option Nat :=
  if c = 'x' then some 2 else if c = 'u' then some 4 else if c = 'U' then some 8 else none

/-- The code points that the other letters behind the backslash stand for. -/
def escapes : List (Char × Nat) :=
  [('0', 0x00), ('a', 0x07), ('b', 0x08), ('t', 0x09), ('n', 0x0A), ('v', 0x0B), ('f', 0x0C),
    ('r', 0x0D), ('e', 0x1B), ('"', 0x22), ('\\', 0x5C), ('N', 0x85), ('L', 0x2028), ('P', 0x2029)]

/-- How far the reading of a character between double quotes has come. -/
inductive Progress where
  | fresh
  | escaped
  | coded (left value : Nat)

/-- The text between double quotes, up to the closing quote. -/
def readDouble : Progress → Text → Text
  | _, [] => []
  | .fresh, c :: text =>
    if c = '"' then [] else if c = '\\' then readDouble .escaped text
    else c :: readDouble .fresh text
  | .escaped, c :: text =>
    match codeWidth? c with
    | some width => readDouble (.coded width 0) text
    | none => Char.ofNat ((escapes.lookup c).getD 0) :: readDouble .fresh text
  | .coded left value, c :: text =>
    let value := value * 16 + (Text.digitValue? c).getD 0
    if left ≤ 1 then Char.ofNat value :: readDouble .fresh text
    else readDouble (.coded (left - 1) value) text

theorem length_hexDigits (width n : Nat) : (hexDigits width n).length = width := by
  induction width generalizing n with
  | zero => rfl
  | succ width ih => rw [hexDigits, List.length_append, ih, List.length_singleton]

theorem digitValue?_hexDigit : ∀ n < 16, Text.digitValue? (hexDigit n) = some n := by decide

/-- Hexadecimal digits spell the number they are the last digits of. -/
theorem readNat_hexDigits (width n : Nat) : Text.readNat 16 (hexDigits width n) = n % 16 ^ width := by
  induction width generalizing n with
  | zero => rw [Nat.pow_zero, Nat.mod_one]; rfl
  | succ width ih =>
      have hfront := ih (n / 16)
      unfold Text.readNat at hfront ⊢
      rw [hexDigits, List.foldl_append, hfront, List.foldl_cons, List.foldl_nil,
        digitValue?_hexDigit _ (Nat.mod_lt n (by decide)), Option.getD_some, Nat.pow_succ,
        Nat.mul_comm (16 ^ width) 16, Nat.mod_mul]
      omega

/-- Digits of a code point are read as the number they spell. -/
theorem readDouble_digits (digits rest : Text) (value : Nat) (hne : digits ≠ []) :
    readDouble (.coded digits.length value) (digits ++ rest) =
      Char.ofNat (digits.foldl (fun n c => n * 16 + (Text.digitValue? c).getD 0) value) ::
        readDouble .fresh rest := by
  induction digits generalizing value with
  | nil => exact absurd rfl hne
  | cons c digits ih =>
      rw [List.cons_append, readDouble, List.foldl_cons, List.length_cons]
      by_cases hlast : digits = []
      · subst hlast
        rw [if_pos (by rfl)]
        rfl
      · have hlength := List.length_pos_iff.mpr hlast
        rw [if_neg (by omega), Nat.add_sub_cancel, ih _ hlast]

/-- A code point that fits the width is read back. -/
theorem readDouble_coded (mark c : Char) (width : Nat) (rest : Text)
    (hmark : codeWidth? mark = some width) (hpos : width ≠ 0) (hbound : c.toNat < 16 ^ width) :
    readDouble .fresh ('\\' :: mark :: hexDigits width c.toNat ++ rest) =
      c :: readDouble .fresh rest := by
  have hlength := length_hexDigits width c.toNat
  have hne : hexDigits width c.toNat ≠ [] := by
    intro hnil
    rw [hnil] at hlength
    exact hpos hlength.symm
  have hread := readDouble_digits _ rest 0 hne
  have hvalue := readNat_hexDigits width c.toNat
  rw [Text.readNat, Nat.mod_eq_of_lt hbound] at hvalue
  rw [hlength, hvalue, Char.ofNat_toNat] at hread
  rw [List.cons_append, List.cons_append, readDouble, if_neg (by decide), if_pos rfl, readDouble,
    hmark]
  exact hread

/-- A letter behind the backslash stands for its character. -/
theorem escape_of_escapeLetter? (c letter : Char) (h : escapeLetter? c = some letter) :
    codeWidth? letter = none ∧ escapes.lookup letter = some c.toNat := by
  unfold escapeLetter? at h
  split at h
  case h_15 => exact absurd h (by simp only [reduceCtorEq, not_false_eq_true])
  all_goals
    rename_i hcode
    rw [← Option.some.inj h, hcode]
    exact ⟨rfl, rfl⟩

/-- A character between double quotes is read back. -/
theorem readDouble_doubleChar (c : Char) (rest : Text) :
    readDouble .fresh (doubleChar c ++ rest) = c :: readDouble .fresh rest := by
  unfold doubleChar
  by_cases hplain : (isPrintable c && !isBreak c && c != '"' && c != '\\') = true
  · simp only [Bool.and_eq_true, bne_iff_ne] at hplain
    rw [if_pos (by simpa only [Bool.and_eq_true, bne_iff_ne] using hplain), List.singleton_append,
      readDouble, if_neg hplain.1.2, if_neg hplain.2]
  · rw [if_neg hplain]
    cases hletter : escapeLetter? c with
    | some letter =>
        rcases escape_of_escapeLetter? c letter hletter with ⟨hmark, hcode⟩
        change readDouble .fresh ('\\' :: letter :: rest) = _
        rw [readDouble, if_neg (by decide), if_pos rfl, readDouble, hmark, hcode, Option.getD_some,
          Char.ofNat_toNat]
    | none =>
        -- The narrowest of the three widths is taken, and the widest holds every code point.
        have hvalid : c.toNat < 16 ^ 8 := c.val.toNat_lt
        by_cases htwo : c.toNat ≤ 0xFF
        · rw [if_pos htwo]
          exact readDouble_coded 'x' c 2 rest rfl (by decide) (by omega)
        · by_cases hfour : c.toNat ≤ 0xFFFF
          · rw [if_neg htwo, if_pos hfour]
            exact readDouble_coded 'u' c 4 rest rfl (by decide) (by omega)
          · rw [if_neg htwo, if_neg hfour]
            exact readDouble_coded 'U' c 8 rest rfl (by decide) hvalid

/-- A text between double quotes is read back. -/
theorem readDouble_flatMap (text rest : Text) :
    readDouble .fresh (text.flatMap doubleChar ++ '"' :: rest) = text := by
  induction text with
  | nil => rfl
  | cons c text ih =>
      rw [List.flatMap_cons, List.append_assoc, readDouble_doubleChar, ih]

/-! ### Literal blocks -/

/-- The text of a literal block whose lines begin at a column, up to the first line that begins left
    of it. `missing` tells how much of the indentation is still to come. -/
def readLiteral (column : Nat) : (missing : Nat) → Text → Text
  | _, [] => []
  | 0, c :: text => c :: readLiteral column (if isBreak c then column else 0) text
  | missing + 1, c :: text =>
    if isBreak c then c :: readLiteral column column text
    else if c = ' ' then readLiteral column missing text
    else []

/-- Whether a text ends a line, if it begins where `fresh` tells. -/
def endsLine : (fresh : Bool) → Text → Bool
  | fresh, [] => fresh
  | _, c :: text => endsLine (isBreak c) text

/-- Indentation is dropped when it is read. -/
theorem readLiteral_indent (column : Nat) (missing : Nat) (text : Text) :
    readLiteral column missing (indent missing ++ text) = readLiteral column 0 text := by
  induction missing with
  | zero => rfl
  | succ missing ih => exact ih

/-- A line that begins left of the block ends it. -/
theorem readLiteral_outdented (column : Nat) (rest : Text) (h : Outdented column rest) :
    readLiteral column column rest = [] := by
  cases h with
  | stop => rw [readLiteral]
  | line n c tail hn hspace hbreak =>
      have hleft : ∀ missing, n < missing →
          readLiteral column missing (indent n ++ c :: tail) = [] := by
        clear hn
        induction n with
        | zero =>
            intro missing hmissing
            cases missing with
            | zero => omega
            | succ missing =>
                change readLiteral column (missing + 1) (c :: tail) = []
                rw [readLiteral, if_neg (by rw [hbreak]; decide), if_neg hspace]
        | succ n ih =>
            intro missing hmissing
            cases missing with
            | zero => omega
            | succ missing => exact ih missing (by omega)
      exact hleft column hn

theorem readLiteral_break (column missing : Nat) (c : Char) (text : Text) (h : isBreak c = true) :
    readLiteral column missing (c :: text) = c :: readLiteral column column text := by
  cases missing <;> rw [readLiteral, if_pos h]

/-- A literal block that ends a line is read back. -/
theorem readLiteral_literalBody (column : Nat) (fresh : Bool) (text rest : Text)
    (hrest : Outdented column rest) (hend : endsLine fresh text = true) :
    readLiteral column (if fresh then column else 0) (literalBody column fresh text ++ rest) =
      text := by
  induction text generalizing fresh with
  | nil =>
      rw [show fresh = true from hend, if_pos rfl]
      exact readLiteral_outdented column rest hrest
  | cons c text ih =>
      rw [endsLine] at hend
      rw [literalBody]
      by_cases hbreak : isBreak c = true
      · rw [hbreak] at hend
        rw [if_pos hbreak, List.cons_append, readLiteral_break column _ c _ hbreak]
        exact congrArg _ (ih true hend)
      · have hlead : (if fresh then indent column else []) = indent (if fresh then column else 0) := by
          cases fresh <;> rfl
        have hinside := ih (isBreak c) hend
        rw [if_neg hbreak, hlead, List.append_assoc, readLiteral_indent, List.cons_append,
          readLiteral]
        rw [Bool.not_eq_true] at hbreak
        rw [hbreak] at hinside ⊢
        exact congrArg _ hinside

/-- A line feed that closes a block stands behind the lines of the block. -/
theorem literalBody_append_newline (column : Nat) (fresh : Bool) (text : Text) :
    literalBody column fresh (text ++ ['\n']) = literalBody column fresh text ++ ['\n'] := by
  induction text generalizing fresh with
  | nil => rfl
  | cons c text ih =>
      rw [List.cons_append, literalBody, literalBody, ih, ih]
      by_cases hbreak : isBreak c = true
      · rw [if_pos hbreak, if_pos hbreak, List.cons_append]
      · rw [if_neg hbreak, if_neg hbreak, List.append_assoc, List.cons_append]

theorem endsLine_append (fresh : Bool) (text : Text) (c : Char) :
    endsLine fresh (text ++ [c]) = isBreak c := by
  induction text generalizing fresh with
  | nil => rfl
  | cons d text ih => exact ih (isBreak d)

/-- The hints in the head of a block tell whether the text ends a line. -/
theorem dash_mem_literalHints (text : Text) (c : Char) :
    '-' ∈ literalHints (text ++ [c]) ↔ isBreak c = false := by
  have hindent : ∀ text : Text, '-' ∉ (if text.head?.any isSpaceOrBreak then ['2'] else []) := by
    intro text
    split <;> decide
  rw [literalHints, List.mem_append, or_iff_right (hindent _), List.reverse_append,
    List.reverse_singleton, List.singleton_append]
  by_cases hbreak : isBreak c = true
  · refine iff_of_false ?_ (by rw [hbreak]; decide)
    cases text.reverse with
    | nil => simp only [hbreak, if_true]; decide
    | cons d front =>
        simp only [hbreak, Bool.not_true, Bool.false_eq_true, if_false]
        split <;> decide
  · rw [Bool.not_eq_true] at hbreak
    refine iff_of_true ?_ hbreak
    cases text.reverse with
    | nil => simp only [hbreak, Bool.false_eq_true, if_false]; decide
    | cons d front => simp only [hbreak, Bool.not_false, if_true]; decide

theorem newline_not_mem_literalHints (text : Text) : '\n' ∉ literalHints text := by
  rw [literalHints, List.mem_append, not_or]
  constructor
  · split <;> decide
  · split
    · decide
    · split <;> decide
    · split
      · decide
      · split <;> decide

/-! ### Scalars -/

/-- The text that a scalar stands for, whose further lines begin at a column. -/
def readScalar (column : Nat) : Text → Text
  | '\x27' :: body => readSingle false false body
  | '"' :: body => readDouble .fresh body
  | '|' :: body =>
    let block := readLiteral column column (body.dropWhile (· != '\n')).tail
    if (body.takeWhile (· != '\n')).contains '-' then block.dropLast else block
  | body => body.takeWhile (· != '\n')

/-- A line without line feed is read up to its end. -/
theorem takeWhile_line (line rest : Text) (h : '\n' ∉ line) :
    (line ++ '\n' :: rest).takeWhile (· != '\n') = line ∧
      (line ++ '\n' :: rest).dropWhile (· != '\n') = '\n' :: rest := by
  have hline : ∀ c ∈ line, (c != '\n') = true := by
    intro c hc
    rw [bne_iff_ne]
    exact fun heq => h (heq ▸ hc)
  have hstop : ∀ c ∈ ('\n' :: rest).head?, (c != '\n') = false :=
    Text.forall_mem_head?_cons _ '\n' rest rfl
  exact ⟨Text.takeWhile_append_of_stop _ _ _ hline hstop,
    Text.dropWhile_append_of_stop _ _ _ hline hstop⟩

/-- A scalar that opens no other style is read up to the end of its line. -/
theorem readScalar_plain (column : Nat) (c : Char) (body : Text) (h : isIndicator c = false) :
    readScalar column (c :: body) = (c :: body).takeWhile (· != '\n') := by
  have hother : ∀ d, isIndicator d = true → c ≠ d := by
    rintro d hd rfl
    rw [h] at hd
    exact Bool.false_ne_true hd
  unfold readScalar
  split
  · rename_i heq
    exact absurd (List.cons.inj heq).1 (hother '\x27' (by decide))
  · rename_i heq
    exact absurd (List.cons.inj heq).1 (hother '"' (by decide))
  · rename_i heq
    exact absurd (List.cons.inj heq).1 (hother '|' (by decide))
  · rfl

/-- A literal block is read back, with or without a line end of its own. -/
theorem readScalar_literal (column : Nat) (text rest : Text) (hrest : Outdented column rest)
    (hne : text ≠ []) :
    readScalar column ('|' :: literalHints text ++ '\n' :: literalBody column true text ++
      (if text.getLast?.any isBreak then [] else ['\n']) ++ rest) = text := by
  rcases List.eq_nil_or_concat' text with hnil | ⟨front, last, rfl⟩
  · exact absurd hnil hne
  have hdash := dash_mem_literalHints front last
  have hlast : (front ++ [last]).getLast?.any isBreak = isBreak last := by
    rw [List.getLast?_concat, Option.any_some]
  rw [hlast, List.append_assoc, List.append_assoc, List.cons_append, List.cons_append]
  simp only [readScalar, takeWhile_line _ _ (newline_not_mem_literalHints (front ++ [last])),
    List.tail_cons]
  cases hbreak : isBreak last with
  | true =>
      have hread := readLiteral_literalBody column true (front ++ [last]) rest hrest
        (by rw [endsLine_append, hbreak])
      have hhint : (literalHints (front ++ [last])).contains '-' = false := by
        rw [List.contains_eq_mem, decide_eq_false_iff_not, hdash, hbreak]
        decide
      rw [hhint, if_neg Bool.false_ne_true]
      exact hread
  | false =>
      -- The line feed behind the block is read as part of it, and the hints say to drop it.
      have hread := readLiteral_literalBody column true (front ++ [last] ++ ['\n']) rest hrest
        (by rw [endsLine_append]; decide)
      have hhint : (literalHints (front ++ [last])).contains '-' = true := by
        rw [List.contains_iff_mem, hdash, hbreak]
      rw [literalBody_append_newline, List.append_assoc, if_pos rfl] at hread
      rw [hhint, if_pos rfl, if_neg Bool.false_ne_true, hread, List.dropLast_concat]

/-- A text written plain is not empty and begins with none of the characters that open another
    style. -/
theorem plain_head (text : Text) (htyped : looksTyped text = false)
    (hplain : plainAllowed text = true) :
    ∃ (c : Char) (rest : Text), text = c :: rest ∧ isIndicator c = false := by
  cases text with
  | nil => exact absurd htyped (by decide)
  | cons c rest =>
      refine ⟨c, rest, rfl, ?_⟩
      simp only [plainAllowed, looksStructural, Bool.and_eq_true, Bool.not_eq_true',
        Bool.or_eq_false_iff] at hplain
      exact hplain.1.1.2.1.2.1

/-- What the choice of a style guarantees. -/
inductive Styled (text : Text) : Style → Prop where
  | plain (htyped : looksTyped text = false) (hplain : plainAllowed text = true)
      (hline : '\n' ∉ text) : Styled text .plain
  | single (hsingle : singleAllowed text = true) : Styled text .single
  | double : Styled text .double
  | literal (hline : '\n' ∈ text) : Styled text .literal

theorem styled_style (text : Text) : Styled text (style text) := by
  unfold style
  by_cases hline : text.contains '\n' = true
  · rw [if_pos hline]
    split
    · exact .literal (List.contains_iff_mem.mp hline)
    · exact .double
  · rw [if_neg hline]
    rw [List.contains_iff_mem] at hline
    by_cases hplain : (!looksTyped text && plainAllowed text) = true
    · rw [if_pos hplain]
      rw [Bool.and_eq_true, Bool.not_eq_true'] at hplain
      exact .plain hplain.1 hplain.2 hline
    · rw [if_neg hplain]
      split
      · rename_i hsingle
        exact .single hsingle
      · exact .double

/-- A scalar is read back, whatever its style. -/
theorem readScalar_scalar (column : Nat) (text rest : Text) (hrest : Outdented column rest) :
    readScalar column (scalar column text ++ rest) = text := by
  have hstyled := styled_style text
  unfold scalar
  generalize style text = chosen at hstyled
  cases hstyled with
  | plain htyped hplain hline =>
      rcases plain_head text htyped hplain with ⟨c, body, rfl, hc⟩
      have hread := (takeWhile_line (c :: body) rest hline).1
      rw [List.cons_append, ← readScalar_plain column c _ hc] at hread
      rw [List.append_assoc]
      exact hread
  | single hsingle =>
      rw [singleAllowed, Bool.and_eq_true, Bool.and_eq_true, Bool.not_eq_true'] at hsingle
      rw [List.append_assoc]
      exact readSingle_singleBody column false text ('\n' :: rest) (by
        rw [List.head?_cons, ne_eq, Option.some.injEq]
        decide) hsingle.1.2 fun h => absurd h Bool.false_ne_true
  | double =>
      rw [List.append_assoc]
      exact readDouble_flatMap text ('\n' :: rest)
  | literal hline => exact readScalar_literal column text rest hrest (List.ne_nil_of_mem hline)

/-- Texts are told apart by their scalars. -/
theorem scalar_append_inj (column : Nat) (a b r s : Text) (hr : Outdented column r)
    (hs : Outdented column s) (h : scalar column a ++ r = scalar column b ++ s) : a = b := by
  rw [← readScalar_scalar column a r hr, h, readScalar_scalar column b s hs]

end Yaml

end StyleGuide
