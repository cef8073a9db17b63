import StyleGuide.Json.Printer
import StyleGuide.Json.Reader
import StyleGuide.Proofs.Text.Pieces

/-!
# Reading what has been written

A reader takes back what a writer writes if it finds the value behind any space and leaves what
follows the written text as it is. In this form the property passes from the parts of a value to the
whole: the elements of a list and the members of an object are each read up to where the next one
begins, and the depth of the indentation makes no difference, since it is only space.

Records are read into a state, one field after the other. `Fills` follows the state along the members
of an object, so a record is taken back once the fields that its members name fill the state.

Reading takes fuel, of which there is one unit for each character of the text. Each element, each
member and each character of a string is at least one character long when it is written, so the fuel
lasts.

## Main definitions

* `Json.Spaces`: Space between values.
* `Json.Begins`: How the text of a value begins.
* `Json.Escaped`: How a character is written in a string.
* `Json.TakesBack`: A reader takes back what a writer writes.
* `Json.lineStart`: The line end and the indentation before a part.
* `Json.Fills`: Members that fill the state of a record.

## Theorems

* `Json.takesBack_string`, `Json.takesBack_optional`: Strings are taken back.
* `Json.takesBack_list`: Lists are taken back if their elements are.
* `Json.takesBack_record`: Records are taken back if their fields are.
-/

namespace StyleGuide

namespace Json

/-! ### Space -/

/-- Space between values. -/
def Spaces (text : Text) : Prop := ∀ c ∈ text, isSpace c = true

theorem spaces_nil : Spaces [] := fun _ hc => absurd hc List.not_mem_nil

theorem spaces_singleton : Spaces [' '] := by
  intro c hc
  rw [List.mem_singleton] at hc
  rw [hc]
  rfl

theorem skipSpace_append (space rest : Text) (c : Char) (hspace : Spaces space)
    (hc : isSpace c = false) : skipSpace (space ++ c :: rest) = c :: rest := by
  rw [skipSpace, List.dropWhile_append_of_pos hspace,
    List.dropWhile_cons_of_neg (by rw [hc]; exact Bool.false_ne_true)]

/-- How the text of a value begins: not with space, and not with the end of a list. -/
def Begins (text : Text) : Prop :=
  ∃ c rest, text = c :: rest ∧ isSpace c = false ∧ c ≠ ']'

theorem Begins.append {text : Text} (h : Begins text) (rest : Text) : Begins (text ++ rest) := by
  rcases h with ⟨c, tail, rfl, hspace, hclosing⟩
  exact ⟨c, tail ++ rest, List.cons_append, hspace, hclosing⟩

/-- A reader takes back what a writer writes, behind any space and whatever follows. -/
structure TakesBack {α : Type} (read : Reader α) (write : α → Text) : Prop where
  begins : ∀ value, Begins (write value)
  reads : ∀ value space rest, Spaces space →
    read (space ++ (write value ++ rest)) = .ok (value, rest)

theorem TakesBack.reads_here {α : Type} {read : Reader α} {write : α → Text}
    (h : TakesBack read write) (value : α) (rest : Text) :
    read (write value ++ rest) = .ok (value, rest) :=
  h.reads value [] rest spaces_nil

/-! ### Strings -/

/-- How a character is written in a string. -/
inductive Escaped (c : Char) : Text → Prop where
  | letter (letter : Char) (hunit : letter ≠ 'u') (hletter : escaped? letter = some c) :
      Escaped c ['\\', letter]
  | unit (hcontrol : c.toNat < 0x20) :
      Escaped c ['\\', 'u', '0', '0', hexDigit (c.toNat / 16), hexDigit (c.toNat % 16)]
  | plain (hquote : c ≠ '"') (hslash : c ≠ '\\') (hcontrol : ¬ c.toNat < 0x20) : Escaped c [c]

theorem escaped_escapeChar (c : Char) : Escaped c (escapeChar c) := by
  by_cases hquote : c = '"'
  · rw [hquote]
    exact .letter '"' (by decide) rfl
  by_cases hslash : c = '\\'
  · rw [hslash]
    exact .letter '\\' (by decide) rfl
  by_cases hnewline : c = '\n'
  · rw [hnewline]
    exact .letter 'n' (by decide) rfl
  by_cases hreturn : c = '\r'
  · rw [hreturn]
    exact .letter 'r' (by decide) rfl
  by_cases htab : c = '\t'
  · rw [htab]
    exact .letter 't' (by decide) rfl
  by_cases hbackspace : c.toNat = 8
  · have hc : c = Char.ofNat 8 := by rw [← hbackspace, Char.ofNat_toNat]
    rw [hc]
    exact .letter 'b' (by decide) rfl
  by_cases hfeed : c.toNat = 12
  · have hc : c = Char.ofNat 12 := by rw [← hfeed, Char.ofNat_toNat]
    rw [hc]
    exact .letter 'f' (by decide) rfl
  -- What is left has no letter of its own.
  have hrest : escapeChar c = if c.toNat < 0x20 then
      ['\\', 'u', '0', '0', hexDigit (c.toNat / 16), hexDigit (c.toNat % 16)] else [c] := by
    rw [escapeChar, if_neg hbackspace, if_neg hfeed]
    · rfl
    all_goals assumption
  by_cases hcontrol : c.toNat < 0x20
  · rw [hrest, if_pos hcontrol]
    exact .unit hcontrol
  · rw [hrest, if_neg hcontrol]
    exact .plain hquote hslash hcontrol

theorem escapeChar_ne_nil (c : Char) : escapeChar c ≠ [] := by
  have hescaped := escaped_escapeChar c
  generalize escapeChar c = text at hescaped
  cases hescaped with
  | letter | unit | plain => exact List.cons_ne_nil _ _

theorem length_le_length_flatMap {α β : Type} (f : α → List β) (hf : ∀ a, f a ≠ [])
    (items : List α) : items.length ≤ (items.flatMap f).length := by
  induction items with
  | nil => exact Nat.zero_le _
  | cons item items ih =>
      have hpos := List.length_pos_iff.mpr (hf item)
      rw [List.flatMap_cons, List.length_append, List.length_cons]
      omega

/-- The code unit of a control character is read off its digits. -/
theorem readNat?_hexDigits : ∀ n < 32,
    Text.readNat? 16 ['0', '0', hexDigit (n / 16), hexDigit (n % 16)] = some n := by
  decide

theorem readEscapedUnit_control (n : Nat) (hn : n < 32) (rest : Text) :
    readEscapedUnit ('0' :: '0' :: hexDigit (n / 16) :: hexDigit (n % 16) :: rest) =
      .ok (Char.ofNat n, rest) := by
  have hpair : ¬ (0xDC00 ≤ n ∧ n ≤ 0xDFFF) := by omega
  have hsingle : n < 0xD800 ∨ 0xDBFF < n := by omega
  simp only [readEscapedUnit, readCodeUnit, readNat?_hexDigits n hn, bind, Except.bind,
    if_neg hpair, if_pos hsingle]

section StringBody

variable (fuel : Nat) (rest body last : Text) (h : readStringBody fuel rest = .ok (body, last))

include h

/-- A character is read back from the way in which it is written. -/
theorem readStringBody_escapeChar (c : Char) :
    readStringBody (fuel + 1) (escapeChar c ++ rest) = .ok (c :: body, last) := by
  have hescaped := escaped_escapeChar c
  generalize escapeChar c = text at hescaped
  cases hescaped with
  | letter letter hunit hletter =>
      change readStringBody (fuel + 1) ('\\' :: letter :: rest) = _
      rw [readStringBody]
      · simp only [hletter, h, bind, Except.bind, pure, Except.pure]
      · exact hunit
  | unit hcontrol =>
      simp only [List.cons_append, List.nil_append, readStringBody,
        readEscapedUnit_control c.toNat hcontrol, h, bind, Except.bind, pure, Except.pure,
        Char.ofNat_toNat]
  | plain hquote hslash hcontrol =>
      rw [List.singleton_append, readStringBody]
      · simp only [if_neg hcontrol, h, bind, Except.bind, pure, Except.pure]
      all_goals simp [hquote, hslash]

end StringBody

theorem readStringBody_flatMap (text rest : Text) (fuel : Nat) (hfuel : text.length < fuel) :
    readStringBody fuel (text.flatMap escapeChar ++ '"' :: rest) = .ok (text, rest) := by
  induction text generalizing fuel with
  | nil =>
      cases fuel with
      | zero => exact absurd hfuel (Nat.not_lt_zero _)
      | succ fuel => rfl
  | cons c text ih =>
      cases fuel with
      | zero => exact absurd hfuel (Nat.not_lt_zero _)
      | succ fuel =>
          rw [List.flatMap_cons, List.append_assoc]
          exact readStringBody_escapeChar fuel _ text rest (ih fuel (Nat.lt_of_succ_lt_succ hfuel)) c

/-- A string is read back behind its opening quote. -/
theorem readStringRest_flatMap (text rest : Text) :
    readStringRest (text.flatMap escapeChar ++ '"' :: rest) = .ok (text, rest) := by
  have hlength := length_le_length_flatMap escapeChar escapeChar_ne_nil text
  refine readStringBody_flatMap text rest _ ?_
  rw [List.length_append]
  omega

theorem string_append (text rest : Text) :
    string text ++ rest = '"' :: (text.flatMap escapeChar ++ '"' :: rest) := by
  rw [string, List.append_assoc, List.cons_append]
  rfl

theorem begins_string (text : Text) : Begins (string text) :=
  ⟨'"', text.flatMap escapeChar ++ ['"'], rfl, rfl, by decide⟩

theorem takesBack_string : TakesBack readString string where
  begins := begins_string
  reads := fun text space rest hspace => by
    rw [readString, string_append, skipSpace_append space _ '"' hspace rfl]
    exact readStringRest_flatMap text rest

theorem takesBack_optional : TakesBack (readOptional readString) optional where
  begins := fun text => by
    cases text with
    | none => exact ⟨'n', "ull", rfl, rfl, by decide⟩
    | some text => exact begins_string text
  reads := fun text space rest hspace => by
    cases text with
    | none =>
        have hnull : optional none ++ rest = 'n' :: ("ull" ++ rest) := rfl
        rw [readOptional, hnull, skipSpace_append space _ 'n' hspace rfl]
        rfl
    | some text =>
        have hread := takesBack_string.reads_here text rest
        rw [string_append] at hread
        rw [readOptional, optional, string_append, skipSpace_append space _ '"' hspace rfl]
        change (readString _).map (fun read => (some read.1, read.2)) = _
        rw [hread]
        rfl

/-! ### Parts on lines of their own -/

/-- The line end and the indentation before a part. -/
def lineStart (level : Nat) : Text := '\n' :: indent level

theorem spaces_lineStart (level : Nat) : Spaces (lineStart level) := by
  intro c hc
  rw [lineStart, List.mem_cons, indent, List.mem_replicate] at hc
  rcases hc with rfl | ⟨_, rfl⟩ <;> rfl

/-- The parts after the first one, each behind a comma. -/
def restOfBlock (level : Nat) (parts : List Text) : Text :=
  parts.flatMap fun part => ',' :: (lineStart level ++ part)

theorem length_le_length_restOfBlock (level : Nat) (parts : List Text) :
    parts.length ≤ (restOfBlock level parts).length :=
  length_le_length_flatMap _ (fun _ => List.cons_ne_nil _ _) parts

theorem block_cons (level : Nat) (opening closing : Char) (part : Text) (parts : List Text)
    (rest : Text) : block level opening closing (part :: parts) ++ rest =
      opening :: (lineStart (level + 1) ++ (part ++ (restOfBlock (level + 1) parts ++
        (lineStart level ++ closing :: rest)))) := by
  have hseparator : (",\n" : Text) = [',', '\n'] := rfl
  have hparts : (parts.map (indent (level + 1) ++ ·)).flatMap ([',', '\n'] ++ ·) =
      restOfBlock (level + 1) parts := by
    rw [restOfBlock, List.flatMap_map]
    rfl
  rw [block, List.map_cons, hseparator, Text.joinWith_cons, hparts]
  simp only [lineStart, List.cons_append, List.append_assoc, List.nil_append]

/-! ### Lists -/

section Elements

variable (space text rest : Text) (hspace : Spaces space)

include hspace

theorem atElement_end (first : Bool) : atElement first (space ++ ']' :: rest) = .ok none := by
  rw [atElement, skipSpace_append space rest ']' hspace rfl]
  rfl

theorem atElement_first (h : Begins text) :
    atElement true (space ++ text) = .ok (some text) := by
  rcases h with ⟨c, tail, rfl, hc, hclosing⟩
  simp [atElement, skipSpace_append space tail c hspace hc]

theorem atElement_next (h : Begins text) :
    atElement false (',' :: (space ++ text)) = .ok (some text) := by
  rcases h with ⟨c, tail, rfl, hc, hclosing⟩
  have hcomma := skipSpace_append [] (space ++ c :: tail) ',' spaces_nil rfl
  rw [List.nil_append] at hcomma
  simp [atElement, hcomma, skipSpace_append space tail c hspace hc, hclosing]

end Elements

section List

variable {α : Type} {read : Reader α} {write : α → Text} (h : TakesBack read write)

include h

theorem readElements_rest (level : Nat) (space rest : Text) (hspace : Spaces space)
    (values : List α) (fuel : Nat) (hfuel : values.length < fuel) :
    readElements read fuel false
      (restOfBlock level (values.map write) ++ (space ++ ']' :: rest)) = .ok (values, rest) := by
  induction values generalizing fuel with
  | nil =>
      cases fuel with
      | zero => exact absurd hfuel (Nat.not_lt_zero _)
      | succ fuel =>
          rw [List.map_nil, restOfBlock, List.flatMap_nil, List.nil_append, readElements,
            atElement_end space rest hspace, skipSpace_append space rest ']' hspace rfl]
          rfl
  | cons value values ih =>
      cases fuel with
      | zero => exact absurd hfuel (Nat.not_lt_zero _)
      | succ fuel =>
          have hnext := ih fuel (Nat.lt_of_succ_lt_succ hfuel)
          rw [restOfBlock] at hnext ⊢
          rw [List.map_cons, List.flatMap_cons, List.cons_append, List.cons_append,
            List.append_assoc, List.append_assoc, readElements,
            atElement_next _ _ (spaces_lineStart level) ((h.begins value).append _)]
          simp only [bind, Except.bind, h.reads_here, hnext, pure, Except.pure]

/-- A list is taken back if its elements are. -/
theorem takesBack_list (level : Nat) :
    TakesBack (readList read) fun values => list level (values.map write) where
  begins := fun values => by
    cases values with
    | nil => exact ⟨'[', [']'], rfl, rfl, by decide⟩
    | cons value values => exact ⟨'[', _, rfl, rfl, by decide⟩
  reads := fun values space rest hspace => by
    cases values with
    | nil =>
        have hempty : list level (([] : List α).map write) ++ rest = '[' :: ([] ++ ']' :: rest) := rfl
        rw [readList, hempty, skipSpace_append space _ '[' hspace rfl]
        simp only [readElements, atElement_end [] rest spaces_nil, bind, Except.bind]
        rw [skipSpace_append [] rest ']' spaces_nil rfl]
        rfl
    | cons value values =>
        have hlist : list level ((value :: values).map write) =
            block level '[' ']' (write value :: values.map write) := rfl
        rw [readList, hlist, block_cons, skipSpace_append space _ '[' hspace rfl]
        -- Each element takes at least the comma before it, so the fuel lasts.
        have hlength := length_le_length_restOfBlock (level + 1) (values.map write)
        rw [List.length_map] at hlength
        have hrest := readElements_rest h (level + 1) (lineStart level) rest (spaces_lineStart level)
          values
        simp only [readElements, atElement_first _ _ (spaces_lineStart (level + 1))
          ((h.begins value).append _), bind, Except.bind, h.reads_here]
        rw [hrest]
        · rfl
        · simp only [List.length_append, List.length_cons, lineStart]
          omega

end List

/-! ### Records -/

section Members

variable (space key rest : Text) (hspace : Spaces space)

include hspace

theorem atMember_end (first : Bool) : atMember first (space ++ '\x7d' :: rest) = .ok none := by
  rw [atMember, skipSpace_append space rest '\x7d' hspace rfl]
  rfl

theorem atMember_first :
    atMember true (space ++ (string key ++ rest)) = .ok (some (key, rest)) := by
  rw [string_append]
  simp [atMember, skipSpace_append space _ '"' hspace rfl, readStringRest_flatMap, Except.map]

theorem atMember_next :
    atMember false (',' :: (space ++ (string key ++ rest))) = .ok (some (key, rest)) := by
  rw [string_append]
  have hcomma := fun text => skipSpace_append [] text ',' spaces_nil rfl
  simp only [List.nil_append] at hcomma
  simp [atMember, hcomma, skipSpace_append space _ '"' hspace rfl, readStringRest_flatMap,
    Except.map]

end Members

/-- The text of a member of an object. -/
def memberText (member : Text × Text) : Text := string member.1 ++ ": " ++ member.2

theorem memberText_append (key value rest : Text) :
    memberText (key, value) ++ rest = string key ++ (':' :: ([' '] ++ (value ++ rest))) := by
  rw [memberText, List.append_assoc, List.append_assoc]
  rfl

theorem afterColon_colon (text : Text) : afterColon (':' :: text) = .ok text := by
  have hcolon := skipSpace_append [] text ':' spaces_nil rfl
  rw [List.nil_append] at hcolon
  rw [afterColon, hcolon]
  rfl

section Record

variable {σ : Type} (fields : List (Member σ))

/-- Members of an object fill the state of a record, one field after the other. -/
inductive Fills : σ → List (Text × Text) → σ → Prop where
  | nil (state : σ) : Fills state [] state
  | cons {state next last : σ} {key value : Text} {members : List (Text × Text)}
      (field : Member σ) (hfind : fields.find? (·.name == key) = some field)
      (hempty : field.filled state = false)
      (hread : ∀ space rest, Spaces space →
        field.read state (space ++ (value ++ rest)) = .ok (next, rest))
      (hrest : Fills next members last) : Fills state ((key, value) :: members) last

variable {fields}

/-- A member whose key has been read is read into the state. -/
theorem readMembers_step (fuel : Nat) (first : Bool) (state next : σ) (text key value rest : Text)
    (field : Member σ) (hfind : fields.find? (·.name == key) = some field)
    (hempty : field.filled state = false)
    (hread : ∀ space rest, Spaces space →
      field.read state (space ++ (value ++ rest)) = .ok (next, rest))
    (hat : atMember first text = .ok (some (key, ':' :: ([' '] ++ (value ++ rest))))) :
    readMembers fields (fuel + 1) first state text =
      readMembers fields fuel false next rest := by
  rw [readMembers, hat]
  simp only [bind, Except.bind, hfind, hempty, Bool.false_eq_true, if_false, afterColon_colon,
    hread [' '] rest spaces_singleton]

theorem readMembers_rest (level : Nat) (space rest : Text) (hspace : Spaces space)
    {state last : σ} {members : List (Text × Text)} (h : Fills fields state members last)
    (fuel : Nat) (hfuel : members.length < fuel) :
    readMembers fields fuel false state
      (restOfBlock level (members.map memberText) ++ (space ++ '\x7d' :: rest)) =
        .ok (last, rest) := by
  induction h generalizing fuel with
  | nil state =>
      cases fuel with
      | zero => exact absurd hfuel (Nat.not_lt_zero _)
      | succ fuel =>
          rw [List.map_nil, restOfBlock, List.flatMap_nil, List.nil_append, readMembers,
            atMember_end space rest hspace, skipSpace_append space rest '\x7d' hspace rfl]
          rfl
  | @cons state next last key value members field hfind hempty hread hrest ih =>
      cases fuel with
      | zero => exact absurd hfuel (Nat.not_lt_zero _)
      | succ fuel =>
          have hnext := ih fuel (Nat.lt_of_succ_lt_succ hfuel)
          rw [restOfBlock] at hnext ⊢
          rw [List.map_cons, List.flatMap_cons, List.cons_append, List.cons_append,
            List.append_assoc, List.append_assoc, memberText_append,
            readMembers_step fuel false state next _ key value _ field hfind hempty hread
              (atMember_next _ key _ (spaces_lineStart level))]
          exact hnext

/-- A record is taken back from an object if the members fill its state and the state amounts to
    the record. -/
theorem takesBack_record {α : Type} (level : Nat) (record : Text) (initial : σ)
    (complete : σ → Except Fault α) (members : α → List (Text × Text)) (last : α → σ)
    (hne : ∀ value, members value ≠ [])
    (hfills : ∀ value, Fills fields initial (members value) (last value))
    (hcomplete : ∀ value, complete (last value) = .ok value) :
    TakesBack (readRecord record fields initial complete)
      fun value => object level (members value) where
  begins := fun value => ⟨'\x7b', _, rfl, rfl, by decide⟩
  reads := fun value space rest hspace => by
    rcases List.exists_cons_of_ne_nil (hne value) with ⟨⟨key, text⟩, others, hmembers⟩
    have hfill := hfills value
    rw [hmembers] at hfill
    have hobject : object level (members value) =
        block level '\x7b' '\x7d' (memberText (key, text) :: others.map memberText) := by
      rw [hmembers]
      rfl
    rw [readRecord, hobject, block_cons, skipSpace_append space _ '\x7b' hspace rfl]
    -- Each member takes at least the comma before it, so the fuel lasts.
    have hlength := length_le_length_restOfBlock (level + 1) (others.map memberText)
    rw [List.length_map] at hlength
    cases hfill with
    | @cons _ next _ _ _ _ field hfind hempty hread hrest =>
        have hothers := readMembers_rest (level + 1) (lineStart level) rest (spaces_lineStart level)
          hrest
        simp only [memberText_append,
          readMembers_step _ true initial next _ key text _ field hfind hempty hread
            (atMember_first _ key _ (spaces_lineStart (level + 1)))]
        rw [hothers]
        · simp only [bind, Except.bind, hcomplete, pure, Except.pure]
        · simp only [List.length_append, List.length_cons, lineStart]
          omega

end Record

end Json

end StyleGuide
