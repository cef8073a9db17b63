import StyleGuide.Disk.Basic
import StyleGuide.Proofs.Text.Pieces
import Mathlib.Data.List.DropRight

/-!
# Segments of joined paths

What a path means once names have been put behind it.

All that a path means is read off its segments and its first character, so a joined path is
understood when these are. Names of directory entries hold no slash: each is one segment, and
joining them one after the other appends them one after the other. Any other text that is joined may
bring several segments or start at the root, but it ends in its own last segment.

## Main definitions

* `Disk.IsEntryName`: A name that leads to an entry of a directory.

## Theorems

* `segments_append_slash`: Segments on both sides of a slash.
* `segments_join`, `isAbsolute_join`, `wantsDirectory_join`: What a joined path means.
* `segments_join_name`, `isAbsolute_join_name`: A name without slashes is one segment.
* `segments_below`, `isAbsolute_below`: What the path of a place below a directory means.
* `fileName?_join_entry`: A path ends in the name of the entry that was joined to it.
* `exists_last_segment`: A path that does not end in a slash ends in its last segment.
-/

namespace StyleGuide

/-- A name that leads to an entry of a directory when it stands in a path. -/
structure Disk.IsEntryName (name : Text) : Prop where
  nonempty : name ≠ []
  noSlash : '/' ∉ name
  notHere : name ≠ Path.here
  notAbove : name ≠ Path.above
  short : name.utf8Size ≤ nameLimit

namespace Path

/-! ### Segments -/

theorem segments_append_slash (before after : Path) :
    segments (before ++ '/' :: after) = segments before ++ segments after := by
  rw [segments, segments, segments, Text.splitAll_append_mark, List.filter_append]

@[simp] theorem segments_nil : segments [] = [] := rfl

theorem segments_singleton (name : Text) (hne : name ≠ []) (hslash : '/' ∉ name) :
    segments name = [name] := by
  rw [segments, Text.splitAll_eq_singleton '/' name hslash, List.filter_cons_of_pos,
    List.filter_nil]
  rw [Bool.not_eq_true', List.isEmpty_eq_false_iff]
  exact hne

/-- A segment is not empty and holds no slash. -/
theorem of_mem_segments (path : Path) (segment : Text) (h : segment ∈ segments path) :
    segment ≠ [] ∧ '/' ∉ segment := by
  rw [segments, List.mem_filter, Bool.not_eq_true', List.isEmpty_eq_false_iff] at h
  exact ⟨h.2, Text.mark_not_mem_of_mem_splitAll '/' path segment h.1⟩

theorem slash_not_mem_fileName (path : Path) (name : Text) (h : fileName? path = some name) :
    '/' ∉ name := by
  rw [fileName?, Option.filter_eq_some_iff] at h
  have hmem : name ∈ segments path := (List.mem_filter.mp (List.mem_of_getLast? h.1)).1
  exact (of_mem_segments path name hmem).2

/-- A path that does not end in a slash ends in its last segment. -/
theorem exists_last_segment (path : Path) (hne : path ≠ []) (h : wantsDirectory path = false) :
    ∃ front last, segments path = front ++ [last] ∧ last <:+ path := by
  -- The last segment is what stands behind the last slash.
  have hsplit : path.rdropWhile (· != '/') ++ path.rtakeWhile (· != '/') = path :=
    List.rdropWhile_append_rtakeWhile ..
  generalize hfront : path.rdropWhile (· != '/') = front at hsplit
  generalize hlast : path.rtakeWhile (· != '/') = last at hsplit
  have hslash : '/' ∉ last := by
    intro hmem
    rw [← hlast] at hmem
    exact absurd (List.mem_rtakeWhile_imp hmem) (by decide)
  have hnonempty : last ≠ [] := by
    intro hnil
    rw [hnil, List.rtakeWhile_eq_nil_iff] at hlast
    rw [wantsDirectory, List.getLast?_eq_getLast_of_ne_nil hne] at h
    simp only [bne_iff_ne, ne_eq, Decidable.not_not] at hlast
    rw [hlast hne] at h
    exact absurd h (by decide)
  -- What stands before the last segment is nothing or ends in a slash.
  have hbefore : front = [] ∨ ∃ before, front = before ++ ['/'] := by
    rcases List.eq_nil_or_concat' front with hnil | ⟨before, c, hc⟩
    · exact Or.inl hnil
    · have hstop := List.rdropWhile_last_not (· != '/') path (by
        rw [hfront, hc]
        exact List.append_ne_nil_of_right_ne_nil _ (List.cons_ne_nil _ _))
      simp only [hfront, hc, List.getLast_append_singleton, bne_iff_ne, ne_eq,
        Decidable.not_not] at hstop
      exact Or.inr ⟨before, by rw [hc, hstop]⟩
  refine ⟨segments front, last, ?_, front, hsplit⟩
  rw [← hsplit]
  rcases hbefore with hnil | ⟨before, hbefore⟩
  · rw [hnil, List.nil_append, segments_singleton last hnonempty hslash, segments_nil,
      List.nil_append]
  · rw [hbefore, List.append_assoc, List.singleton_append, segments_append_slash,
      segments_append_slash, segments_singleton last hnonempty hslash, segments_nil,
      List.append_nil]

/-! ### Joined paths -/

theorem wantsDirectory_append (base name : Path) (h : name ≠ []) :
    wantsDirectory (base ++ name) = wantsDirectory name := by
  rw [wantsDirectory, wantsDirectory, List.getLast?_append_of_ne_nil base h]

theorem segments_join (base name : Path) :
    segments (join base name) =
      if isAbsolute name then segments name else segments base ++ segments name := by
  rw [join]
  cases habsolute : isAbsolute name with
  | true => rfl
  | false =>
      rw [Bool.false_or, if_neg Bool.false_ne_true]
      cases base with
      | nil => rfl
      | cons c base =>
          rw [List.isEmpty_cons, if_neg Bool.false_ne_true]
          split
          · rename_i hslash
            -- The slash at the end of the base is the one between the two.
            rcases List.eq_nil_or_concat' (c :: base) with hnil | ⟨front, last, hbase⟩
            · exact absurd hnil (List.cons_ne_nil _ _)
            · rw [hbase, wantsDirectory, List.getLast?_concat, beq_iff_eq,
                Option.some.injEq] at hslash
              rw [hbase, hslash, List.append_assoc, List.singleton_append, segments_append_slash,
                segments_append_slash, segments_nil, List.append_nil]
          · exact segments_append_slash _ _

theorem isAbsolute_join (base name : Path) :
    isAbsolute (join base name) = (isAbsolute name || isAbsolute base) := by
  rw [join]
  cases habsolute : isAbsolute name with
  | true => exact habsolute
  | false =>
      rw [Bool.false_or, Bool.false_or]
      cases base with
      | nil => exact habsolute
      | cons c base =>
          rw [List.isEmpty_cons, if_neg Bool.false_ne_true]
          split <;> rfl

theorem wantsDirectory_join (base name : Path) (h : name ≠ []) :
    wantsDirectory (join base name) = wantsDirectory name := by
  rw [join]
  split
  · rfl
  · split
    · exact wantsDirectory_append base name h
    · rw [← List.singleton_append, ← List.append_assoc, wantsDirectory_append _ name h]

/-! ### Names without slashes -/

section Name

variable (base : Path) (name : Text)

theorem isAbsolute_eq_false (hslash : '/' ∉ name) : isAbsolute name = false := by
  rw [isAbsolute, beq_eq_false_iff_ne]
  intro hhead
  exact hslash (List.mem_of_head? hhead)

theorem isAbsolute_join_name (hslash : '/' ∉ name) :
    isAbsolute (join base name) = isAbsolute base := by
  rw [isAbsolute_join, isAbsolute_eq_false name hslash, Bool.false_or]

theorem segments_join_name (hne : name ≠ []) (hslash : '/' ∉ name) :
    segments (join base name) = segments base ++ [name] := by
  rw [segments_join, isAbsolute_eq_false name hslash, if_neg Bool.false_ne_true,
    segments_singleton name hne hslash]

/-- A path ends in the name of the entry that was joined to it. -/
theorem fileName?_join_entry (hname : Disk.IsEntryName name) :
    fileName? (join base name) = some name := by
  have hnames : names (join base name) = names base ++ [name] := by
    rw [names, segments_join_name base name hname.nonempty hname.noSlash, List.filter_append, names]
    refine congrArg _ (List.filter_cons_of_pos ?_)
    rw [bne_iff_ne]
    exact hname.notHere
  rw [fileName?, hnames, List.getLast?_concat, Option.filter_some_pos]
  rw [bne_iff_ne]
  exact hname.notAbove

end Name

theorem below_concat (base : Path) (place : List Text) (name : Text) :
    below base (place ++ [name]) = join (below base place) name := by
  rw [below, List.foldl_append]
  rfl

variable (base : Path) (place : List Text) (hplace : ∀ name ∈ place, Disk.IsEntryName name)

include hplace

theorem segments_below : segments (below base place) = segments base ++ place := by
  -- Names are joined at the end of a path, so the induction takes the last one off.
  induction place using List.reverseRecOn with
  | nil => rw [List.append_nil]; rfl
  | append_singleton place name ih =>
      rw [List.forall_mem_append] at hplace
      have hname := hplace.2 name (List.mem_singleton.mpr rfl)
      rw [below_concat, segments_join_name _ name hname.nonempty hname.noSlash, ih hplace.1,
        List.append_assoc]

theorem isAbsolute_below : isAbsolute (below base place) = isAbsolute base := by
  induction place using List.reverseRecOn with
  | nil => rfl
  | append_singleton place name ih =>
      rw [List.forall_mem_append] at hplace
      have hname := hplace.2 name (List.mem_singleton.mpr rfl)
      rw [below_concat, isAbsolute_join_name _ name hname.noSlash, ih hplace.1]

end Path

end StyleGuide
