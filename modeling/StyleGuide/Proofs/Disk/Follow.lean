import StyleGuide.Proofs.Disk.Plain

/-!
# Following a path without links

Where a path leads in a plain tree.

Without symbolic links neither the ending of a path nor the number of links that are left plays any
role, and following a path is one recursion over its segments that looks at what stands where:
`follow`. The walk of a disk is that recursion on every plain tree, `walk_eq_follow`, and everything
about paths is proved of the recursion.

What is made on a disk is made where nothing was or where a file was, so places that a path passes
stay directories and nothing disappears. `Node.Grows` says just that of two trees, and a path that
leads somewhere in the first leads to the same place in the second.

## Main definitions

* `Target.place`: The place that a path leads to, whether something stands there or not.
* `follow`: Where segments lead from a place.
* `Passes`, `Misses`: What one segment does.
* `Node.Grows`: Directories stay and nothing disappears.

## Theorems

* `walkBy_cons`: The walk looks at kinds of nodes only.
* `walk_eq_follow`: In a plain tree the walk is this recursion.
* `passes_or_misses`: What the first segment of a path does.
* `follow_append`, `exists_of_follow_concat`: Following in two parts.
* `place_of_follow_singleton`, `directory_of_follow_singleton`: What the last segment leads to.
* `misses_of_follow`, `isSome_of_follow`: What stands where a path leads.
* `follow_names`: Dots may be left out.
* `follow_place`, `follow_grows`: A path leads to the same place in a tree that has grown.
-/

namespace StyleGuide

namespace Disk

/-- The place that a path leads to, whether something stands there or not. -/
def Target.place : Target → Location
  | .present location => location
  | .absent parent name => parent ++ [name]

/-- Where segments lead from a place in a tree without symbolic links. -/
def follow (root : Node) : Location → List Text → Except Fault Target
  | here, [] => .ok (.present here)
  | here, segment :: rest =>
    if root.item? here ≠ some .directory then .error .notADirectory
    else if segment = Path.here then follow root here rest
    else if segment = Path.above then follow root here.dropLast rest
    else if nameLimit < segment.utf8Size then .error .nameTooLong
    else if (root.item? (here ++ [segment])).isSome then follow root (here ++ [segment]) rest
    else if rest.isEmpty then .ok (.absent here segment)
    else .error .notFound

/-- The walk over a first segment looks at the kinds of two nodes. -/
theorem walkBy_cons (expand : Location → List Text → Except Fault Target) (root : Node)
    (ending : Ending) (here : Location) (segment : Text) (rest : List Text) :
    walkBy expand root ending here (segment :: rest) =
      if root.item? here ≠ some .directory then .error .notADirectory
      else if segment = Path.here then walkBy expand root ending here rest
      else if segment = Path.above then walkBy expand root ending here.dropLast rest
      else if nameLimit < segment.utf8Size then .error .nameTooLong
      else match root.item? (here ++ [segment]) with
        | none => if rest.isEmpty then .ok (.absent here segment) else .error .notFound
        | some (.link target) =>
          if rest.isEmpty && ending = .link then .ok (.present (here ++ [segment]))
          else if target.isEmpty then .error .notFound
          else if rest.isEmpty && ending = .file && Path.wantsDirectory target then do
            let _ ← expand (startOf target here) (segmentsAround target)
            .error .isADirectory
          else expand (startOf target here) (segmentsOf target ++ rest)
        | some _ => walkBy expand root ending (here ++ [segment]) rest := by
  rw [walkBy]
  cases hhere : root.at? here with
  | none =>
      have hitem : root.item? here ≠ some .directory := by
        rw [Node.item?, hhere]
        simp only [Option.map_none, ne_eq, reduceCtorEq, not_false_eq_true]
      rw [if_pos hitem]
  | some found =>
      cases found with
      | file | link =>
          have hitem : root.item? here ≠ some .directory := by
            rw [Node.item?, hhere]
            simp only [Option.map_some, Node.item, ne_eq, Option.some.injEq, reduceCtorEq,
              not_false_eq_true]
          rw [if_pos hitem]
      | directory entries =>
          have hitem : root.item? here = some .directory := by
            rw [Node.item?, hhere]
            rfl
          have hentry : root.item? (here ++ [segment]) =
              (Keyed.get? entries segment).map Node.item := by
            rw [Node.item?, Node.at?_concat, hhere]
            rfl
          rw [if_neg (not_not.mpr hitem), hentry]
          dsimp only
          cases Keyed.get? entries segment with
          | none => rfl
          | some child => cases child <;> rfl

/-- In a plain tree there is nothing to expand on the way. -/
theorem walkBy_eq_follow (expand : Location → List Text → Except Fault Target) (root : Node)
    (h : root.Plain) (ending : Ending) (here : Location) (segments : List Text) :
    walkBy expand root ending here segments = follow root here segments := by
  induction segments generalizing here with
  | nil => rfl
  | cons segment rest ih =>
      rw [walkBy_cons, follow, ih here, ih here.dropLast]
      cases hitem : root.item? (here ++ [segment]) with
      | none => rfl
      | some item =>
          cases item with
          | file | directory =>
              dsimp only
              rw [ih (here ++ [segment])]
              rfl
          | link target =>
              -- A plain tree holds no link.
              rw [Node.item?, Option.map_eq_some_iff] at hitem
              rcases hitem with ⟨found, hfound, hlink⟩
              cases found with
              | file | directory => simp only [Node.item, reduceCtorEq] at hlink
              | link => exact absurd (h _ _ hfound) not_false

/-- In a plain tree neither the ending of a path nor the number of links matters. -/
theorem walk_eq_follow (root : Node) (h : root.Plain) (ending : Ending) (links : Nat)
    (here : Location) (segments : List Text) :
    walk root ending links here segments = follow root here segments := by
  cases links with
  | zero => exact walkBy_eq_follow _ root h ending here segments
  | succ links => exact walkBy_eq_follow _ root h ending here segments

/-! ### One segment at a time -/

/-- A segment leads from a directory to itself, to the one above or to one of its entries. -/
inductive Passes (root : Node) (here : Location) : Text → Location → Prop where
  | stay (hhere : root.item? here = some .directory) : Passes root here Path.here here
  | up (hhere : root.item? here = some .directory) : Passes root here Path.above here.dropLast
  | entry (name : Text) (hhere : root.item? here = some .directory) (hstay : name ≠ Path.here)
      (hup : name ≠ Path.above) (hshort : name.utf8Size ≤ nameLimit)
      (hsome : (root.item? (here ++ [name])).isSome = true) : Passes root here name (here ++ [name])

/-- The last segment may name what is missing in a directory. -/
structure Misses (root : Node) (here : Location) (name : Text) : Prop where
  around : root.item? here = some .directory
  notHere : name ≠ Path.here
  notAbove : name ≠ Path.above
  short : name.utf8Size ≤ nameLimit
  missing : root.item? (here ++ [name]) = none

theorem Passes.around {root : Node} {here there : Location} {segment : Text}
    (h : Passes root here segment there) : root.item? here = some .directory := by
  cases h with
  | stay hhere => exact hhere
  | up hhere => exact hhere
  | entry _ hhere => exact hhere

section Follow

variable (root : Node) (here : Location)

theorem follow_of_passes (segment : Text) (there : Location) (rest : List Text)
    (h : Passes root here segment there) :
    follow root here (segment :: rest) = follow root there rest := by
  cases h with
  | stay hhere => rw [follow, if_neg (not_not.mpr hhere), if_pos rfl]
  | up hhere =>
      rw [follow, if_neg (not_not.mpr hhere), if_neg (by decide), if_pos rfl]
  | entry _ hhere hstay hup hshort hsome =>
      rw [follow, if_neg (not_not.mpr hhere), if_neg hstay, if_neg hup,
        if_neg (Nat.not_lt.mpr hshort), if_pos hsome]

theorem follow_of_misses (name : Text) (h : Misses root here name) :
    follow root here [name] = .ok (.absent here name) := by
  rw [follow, if_neg (not_not.mpr h.around), if_neg h.notHere, if_neg h.notAbove,
    if_neg (Nat.not_lt.mpr h.short), h.missing]
  rfl

/-- What the first segment of a path that leads somewhere does. -/
theorem passes_or_misses (segment : Text) (rest : List Text) (target : Target)
    (h : follow root here (segment :: rest) = .ok target) :
    (∃ there, Passes root here segment there ∧ follow root there rest = .ok target) ∨
      (rest = [] ∧ Misses root here segment ∧ target = .absent here segment) := by
  rw [follow] at h
  -- The cases are the tests of the recursion, in its order.
  by_cases hhere : root.item? here = some .directory
  · rw [if_neg (not_not.mpr hhere)] at h
    by_cases hstay : segment = Path.here
    · rw [if_pos hstay] at h
      exact Or.inl ⟨here, hstay ▸ Passes.stay hhere, h⟩
    rw [if_neg hstay] at h
    by_cases hup : segment = Path.above
    · rw [if_pos hup] at h
      exact Or.inl ⟨here.dropLast, hup ▸ Passes.up hhere, h⟩
    rw [if_neg hup] at h
    by_cases hlong : nameLimit < segment.utf8Size
    · rw [if_pos hlong] at h
      exact absurd h (by simp only [reduceCtorEq, not_false_eq_true])
    rw [if_neg hlong] at h
    have hshort := Nat.not_lt.mp hlong
    cases hentry : root.item? (here ++ [segment]) with
    | some found =>
        rw [hentry, Option.isSome_some, if_pos rfl] at h
        exact Or.inl ⟨_, Passes.entry segment hhere hstay hup hshort (by rw [hentry]; rfl), h⟩
    | none =>
        rw [hentry, Option.isSome_none, if_neg Bool.false_ne_true] at h
        cases rest with
        | nil =>
            rw [List.isEmpty_nil, if_pos rfl, Except.ok.injEq] at h
            exact Or.inr ⟨rfl, ⟨hhere, hstay, hup, hshort, hentry⟩, h.symm⟩
        | cons next rest =>
            rw [List.isEmpty_cons, if_neg Bool.false_ne_true] at h
            exact absurd h (by simp only [reduceCtorEq, not_false_eq_true])
  · rw [if_pos hhere] at h
    exact absurd h (by simp only [reduceCtorEq, not_false_eq_true])

/-! ### Following in two parts -/

theorem follow_append (there : Location) (front back : List Text)
    (h : follow root here front = .ok (.present there)) :
    follow root here (front ++ back) = follow root there back := by
  induction front generalizing here with
  | nil =>
      rw [follow, Except.ok.injEq, Target.present.injEq] at h
      rw [List.nil_append, h]
  | cons segment front ih =>
      rcases passes_or_misses root here segment front _ h with
        ⟨next, hnext, hrest⟩ | ⟨_, _, habsent⟩
      · rw [List.cons_append, follow_of_passes root here segment next _ hnext]
        exact ih next hrest
      · exact absurd habsent (by simp only [reduceCtorEq, not_false_eq_true])

/-- A path that leads somewhere leads to a directory up to its last segment. -/
theorem exists_of_follow_concat (front : List Text) (last : Text) (target : Target)
    (h : follow root here (front ++ [last]) = .ok target) :
    ∃ there, follow root here front = .ok (.present there) ∧
      follow root there [last] = .ok target := by
  induction front generalizing here with
  | nil => exact ⟨here, rfl, h⟩
  | cons segment front ih =>
      rw [List.cons_append] at h
      rcases passes_or_misses root here segment _ _ h with ⟨next, hnext, hrest⟩ | ⟨hnil, _⟩
      · rcases ih next hrest with ⟨there, hfront, hlast⟩
        exact ⟨there, by rw [follow_of_passes root here segment next _ hnext, hfront], hlast⟩
      · exact absurd hnil (List.append_ne_nil_of_right_ne_nil _ (List.cons_ne_nil _ _))

/-- What a path ends in stands in a directory, unless the path ends in a dot or goes up. -/
theorem place_of_follow_singleton (name : Text) (target : Target) (hstay : name ≠ Path.here)
    (hup : name ≠ Path.above) (h : follow root here [name] = .ok target) :
    root.item? here = some .directory ∧ name.utf8Size ≤ nameLimit ∧
      target.place = here ++ [name] := by
  rcases passes_or_misses root here name [] target h with ⟨there, hpasses, hrest⟩ |
    ⟨_, hmisses, habsent⟩
  · rw [follow, Except.ok.injEq] at hrest
    cases hpasses with
    | stay => exact absurd rfl hstay
    | up => exact absurd rfl hup
    | entry _ hhere _ _ hshort => exact ⟨hhere, hshort, by rw [← hrest]; rfl⟩
  · exact ⟨hmisses.around, hmisses.short, by rw [habsent]; rfl⟩

/-- Where a path ends in a dot or goes up, it leads to a directory. -/
theorem directory_of_follow_singleton (segment : Text) (target : Target)
    (hsegment : segment = Path.here ∨ segment = Path.above)
    (h : follow root here [segment] = .ok target) :
    root.item? here = some .directory ∧
      ∃ there, target = .present there ∧ root.item? there = some .directory := by
  rcases passes_or_misses root here segment [] target h with ⟨there, hpasses, hrest⟩ |
    ⟨_, hmisses, _⟩
  · rw [follow, Except.ok.injEq] at hrest
    cases hpasses with
    | stay hhere => exact ⟨hhere, here, hrest.symm, hhere⟩
    | up hhere => exact ⟨hhere, here.dropLast, hrest.symm, root.item?_dropLast here hhere⟩
    | entry _ _ hstay hup => exact absurd hsegment (not_or.mpr ⟨hstay, hup⟩)
  · exact absurd hsegment (not_or.mpr ⟨hmisses.notHere, hmisses.notAbove⟩)

/-- Dots may be left out. -/
theorem follow_names (segments : List Text) (there : Location)
    (h : follow root here segments = .ok (.present there)) :
    follow root here (segments.filter (· != Path.here)) = .ok (.present there) := by
  induction segments generalizing here with
  | nil => exact h
  | cons segment rest ih =>
      rcases passes_or_misses root here segment rest _ h with ⟨next, hnext, hrest⟩ | ⟨_, _, habsent⟩
      · have hinner := ih next hrest
        by_cases hdot : segment = Path.here
        · rw [List.filter_cons_of_neg (by rw [hdot]; decide)]
          cases hnext with
          | stay => exact hinner
          | up => exact absurd hdot (by decide)
          | entry _ _ hstay => exact absurd hdot hstay
        · rw [List.filter_cons_of_pos (by rw [bne_iff_ne]; exact hdot),
            follow_of_passes root here segment next _ hnext, hinner]
      · exact absurd habsent (by simp only [reduceCtorEq, not_false_eq_true])

/-- A missing name is the last segment of the path that leads to it. -/
theorem misses_of_follow (segments : List Text) (parent : Location) (name : Text)
    (h : follow root here segments = .ok (.absent parent name)) :
    name ∈ segments ∧ Misses root parent name := by
  induction segments generalizing here with
  | nil => exact absurd h (by simp only [follow, Except.ok.injEq, reduceCtorEq, not_false_eq_true])
  | cons segment rest ih =>
      rcases passes_or_misses root here segment rest _ h with ⟨next, _, hrest⟩ |
        ⟨_, hmisses, habsent⟩
      · rcases ih next hrest with ⟨hmem, hmisses⟩
        exact ⟨List.mem_cons_of_mem _ hmem, hmisses⟩
      · rw [Target.absent.injEq] at habsent
        rw [habsent.1, habsent.2]
        exact ⟨List.mem_cons_self, hmisses⟩

/-- Something stands where a path leads, unless it leads to a missing name. -/
theorem isSome_of_follow (segments : List Text) (there : Location)
    (hhere : (root.item? here).isSome = true)
    (h : follow root here segments = .ok (.present there)) :
    (root.item? there).isSome = true := by
  induction segments generalizing here with
  | nil =>
      rw [follow, Except.ok.injEq, Target.present.injEq] at h
      rw [← h]
      exact hhere
  | cons segment rest ih =>
      rcases passes_or_misses root here segment rest _ h with ⟨next, hnext, hrest⟩ | ⟨_, _, habsent⟩
      · refine ih next ?_ hrest
        cases hnext with
        | stay => exact hhere
        | up hdirectory => rw [root.item?_dropLast here hdirectory]; rfl
        | entry _ _ _ _ _ hsome => exact hsome
      · exact absurd habsent (by simp only [reduceCtorEq, not_false_eq_true])

end Follow

/-! ### Trees that have grown -/

/-- Directories stay directories and nothing disappears. -/
structure Node.Grows (before after : Node) : Prop where
  directory : ∀ location, before.item? location = some .directory →
    after.item? location = some .directory
  present : ∀ location, (before.item? location).isSome = true →
    (after.item? location).isSome = true

theorem Node.Grows.refl (node : Node) : node.Grows node := ⟨fun _ h => h, fun _ h => h⟩

theorem Node.Grows.trans {before middle after : Node} (first : before.Grows middle)
    (last : middle.Grows after) : before.Grows after :=
  ⟨fun location h => last.directory location (first.directory location h),
    fun location h => last.present location (first.present location h)⟩

theorem Passes.grows {before after : Node} {here there : Location} {segment : Text}
    (h : Passes before here segment there) (hgrows : before.Grows after) :
    Passes after here segment there := by
  cases h with
  | stay hhere => exact .stay (hgrows.directory here hhere)
  | up hhere => exact .up (hgrows.directory here hhere)
  | entry _ hhere hstay hup hshort hsome =>
      exact .entry segment (hgrows.directory here hhere) hstay hup hshort (hgrows.present _ hsome)

/-- A path leads to the same place in a tree that has grown. -/
theorem follow_place (before after : Node) (hgrows : before.Grows after) (here : Location)
    (segments : List Text) (target : Target) (h : follow before here segments = .ok target) :
    ∃ later, follow after here segments = .ok later ∧ later.place = target.place := by
  induction segments generalizing here with
  | nil =>
      rw [follow, Except.ok.injEq] at h
      exact ⟨target, by rw [← h]; rfl, rfl⟩
  | cons segment rest ih =>
      rcases passes_or_misses before here segment rest target h with ⟨next, hnext, hrest⟩ |
        ⟨rfl, hmisses, habsent⟩
      · rw [follow_of_passes after here segment next rest (hnext.grows hgrows)]
        exact ih next hrest
      · -- What was missing may be there by now.
        rw [habsent]
        have haround := hgrows.directory here hmisses.around
        cases hitem : after.item? (here ++ [segment]) with
        | none =>
            exact ⟨_, follow_of_misses after here segment ⟨haround, hmisses.notHere,
              hmisses.notAbove, hmisses.short, hitem⟩, rfl⟩
        | some found =>
            refine ⟨.present (here ++ [segment]), ?_, rfl⟩
            rw [follow_of_passes after here segment _ [] (.entry segment haround hmisses.notHere
              hmisses.notAbove hmisses.short (by rw [hitem]; rfl))]
            rfl

/-- A path that leads to something leads there in a tree that has grown. -/
theorem follow_grows (before after : Node) (hgrows : before.Grows after) (here there : Location)
    (segments : List Text) (h : follow before here segments = .ok (.present there)) :
    follow after here segments = .ok (.present there) := by
  induction segments generalizing here with
  | nil => exact h
  | cons segment rest ih =>
      rcases passes_or_misses before here segment rest _ h with
        ⟨next, hnext, hrest⟩ | ⟨_, _, habsent⟩
      · rw [follow_of_passes after here segment next rest (hnext.grows hgrows)]
        exact ih next hrest
      · exact absurd habsent (by simp only [reduceCtorEq, not_false_eq_true])

end Disk

end StyleGuide
