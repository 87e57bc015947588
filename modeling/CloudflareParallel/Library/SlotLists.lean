import Mathlib.Data.List.Perm.Basic

namespace SlotLists

/-!
# Lists of slots

A list of slots that are filled one by one, out of order, and taken out again.
What the filled slots hold is a `filterMap`; the lemmas say how it changes when
one slot is filled and when the first filled one is taken out.
-/

variable {α β : Type}

/-- A slot and the others are the list. -/
theorem cons_eraseIdx_perm
    {slots : List α}
    {position : Nat}
    {slot : α}
    (there : slots[position]? = some slot) :
    (slot :: slots.eraseIdx position).Perm slots := by
  obtain ⟨inside, rfl⟩ := List.getElem?_eq_some_iff.mp there
  exact List.getElem_cons_eraseIdx_perm inside

/-- A changed slot stands before the others. -/
theorem set_perm
    {slots : List α}
    {position : Nat}
    {slot : α}
    (there : slots[position]? = some slot)
    (changed : α) :
    (slots.set position changed).Perm
      (changed :: slots.eraseIdx position) := by
  obtain ⟨inside, -⟩ := List.getElem?_eq_some_iff.mp there
  exact List.set_perm_cons_eraseIdx inside changed

/-- A change that a map does not see. -/
theorem map_set
    {slots : List α}
    {position : Nat}
    {slot changed : α}
    (there : slots[position]? = some slot)
    {image : α → β}
    (same : image changed = image slot) :
    (slots.set position changed).map image = slots.map image := by
  obtain ⟨inside, rfl⟩ := List.getElem?_eq_some_iff.mp there
  rw [List.map_set, same]
  apply List.ext_getElem?
  intro index
  rw [List.getElem?_set]
  split
  next here =>
    subst index
    simp [inside]
  next => rfl

/-- Filling an empty slot adds what it is filled with. -/
theorem filterMap_set_perm
    {slots : List α}
    {position : Nat}
    {slot filled : α}
    {held : α → Option β}
    {content : β}
    (there : slots[position]? = some slot)
    (empty : held slot = none)
    (full : held filled = some content) :
    ((slots.set position filled).filterMap held).Perm
      (content :: slots.filterMap held) := by
  have changed := (set_perm there filled).filterMap held
  have others := (cons_eraseIdx_perm there).filterMap held
  rw [List.filterMap_cons_some full] at changed
  rw [List.filterMap_cons_none empty] at others
  exact changed.trans (others.cons content)

/-- Filling an empty slot behind all filled ones adds at the end. -/
theorem filterMap_set_last
    {slots : List α}
    {position : Nat}
    {slot filled : α}
    {held : α → Option β}
    {content : β}
    (there : slots[position]? = some slot)
    (empty : held slot = none)
    (full : held filled = some content)
    (last :
      ∀ later other,
        position < later → slots[later]? = some other → held other = none) :
    (slots.set position filled).filterMap held =
      slots.filterMap held ++ [content] := by
  induction slots generalizing position with
  | nil =>
      cases there
  | cons first rest inductionHypothesis =>
      cases position with
      | zero =>
          cases there
          have blank : rest.filterMap held = [] := by
            apply List.filterMap_eq_nil_iff.mpr
            intro other member
            obtain ⟨later, found⟩ := List.mem_iff_getElem?.mp member
            exact last (later + 1) other (Nat.succ_pos _) found
          rw [List.set_cons_zero, List.filterMap_cons_some full,
            List.filterMap_cons_none empty, blank]
          rfl
      | succ position =>
          have behind :=
            inductionHypothesis there fun later other after found =>
              last (later + 1) other (Nat.succ_lt_succ after) found
          rw [List.set_cons_succ]
          cases holds : held first with
          | none =>
              rw [List.filterMap_cons_none holds,
                List.filterMap_cons_none holds, behind]
          | some firstContent =>
              rw [List.filterMap_cons_some holds,
                List.filterMap_cons_some holds, behind, List.cons_append]

/-- The first filled slot is taken out first. -/
theorem filterMap_first
    {slots : List α}
    {position : Nat}
    {held : α → Option β}
    (first :
      slots.findIdx? (fun slot => (held slot).isSome) = some position) :
    slots.filterMap held =
      (slots[position]?.bind held).toList ++
        (slots.eraseIdx position).filterMap held := by
  induction slots generalizing position with
  | nil =>
      cases first
  | cons slot rest inductionHypothesis =>
      rw [List.findIdx?_cons] at first
      cases holds : held slot with
      | some content =>
          simp only [holds, Option.isSome_some, ↓reduceIte] at first
          cases first
          rw [List.filterMap_cons_some holds]
          simp [holds]
      | none =>
          simp only [holds, Option.isSome_none, Bool.false_eq_true,
            ↓reduceIte] at first
          obtain ⟨before, found, rfl⟩ := Option.map_eq_some_iff.mp first
          rw [List.filterMap_cons_none holds, inductionHypothesis found,
            List.getElem?_cons_succ, List.eraseIdx_cons_succ,
            List.filterMap_cons_none holds]

/-- Changing one slot and taking out another. -/
theorem set_eraseIdx_of_ne
    {slots : List α}
    {position taken : Nat}
    (apart : position ≠ taken)
    (changed : α) :
    (slots.set position changed).eraseIdx taken =
      (slots.eraseIdx taken).set
        (if position < taken then position else position - 1) changed := by
  rcases Nat.lt_or_gt_of_ne apart with before | after
  · rw [if_pos before, List.eraseIdx_set_gt before]
  · rw [if_neg (Nat.not_lt.mpr (Nat.le_of_lt after)), List.eraseIdx_set_lt after]

/-- Where a slot stands when another is taken out. -/
theorem getElem?_eraseIdx_of_ne
    {slots : List α}
    {position taken : Nat}
    (apart : position ≠ taken) :
    (slots.eraseIdx taken)[
        if position < taken then position else position - 1]? =
      slots[position]? := by
  rw [List.getElem?_eraseIdx]
  rcases Nat.lt_or_gt_of_ne apart with before | after
  · simp only [before, ↓reduceIte]
  · have shifted : ¬ position - 1 < taken := by omega
    simp only [Nat.not_lt.mpr (Nat.le_of_lt after), ↓reduceIte, shifted]
    congr 1
    omega

end SlotLists
