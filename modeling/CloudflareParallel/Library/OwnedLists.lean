import Mathlib.Data.List.Nodup
import Mathlib.Data.Set.Lattice

namespace OwnedLists

/-!
# Lists without repetitions inside a scope

`Owned scope items` says that a list names every item at most once and stays in
a scope.  Lists with disjoint scopes are owned together, so that no item of a
tree of parts is named twice as soon as the parts of each node have scopes of
their own.
-/

/-- Every item is named at most once, and lies in the scope. -/
structure Owned (scope : Set α) (items : List α) : Prop where
  nodup : items.Nodup
  inside : ∀ item ∈ items, item ∈ scope

section Owned

variable {scope first second : Set α} {items rest : List α}

/-- Nothing is named. -/
theorem owned_nil : Owned scope ([] : List α) where
  nodup := .nil
  inside := nofun

/-- One item of the scope is named. -/
theorem owned_singleton
    {item : α}
    (inside : item ∈ scope) :
    Owned scope [item] where
  nodup := List.nodup_singleton item
  inside other member := by
    rw [List.mem_singleton.mp member]
    exact inside

/-- A larger scope. -/
theorem Owned.mono
    (owned : Owned first items)
    (included : first ⊆ second) :
    Owned second items where
  nodup := owned.nodup
  inside item member := included (owned.inside item member)

/-- The order of the items does not matter. -/
theorem Owned.perm
    (owned : Owned scope items)
    (same : rest.Perm items) :
    Owned scope rest where
  nodup := same.nodup_iff.mpr owned.nodup
  inside item member := owned.inside item (same.mem_iff.mp member)

/-- Lists of disjoint scopes are owned together. -/
theorem Owned.append
    (head : Owned first items)
    (tail : Owned second rest)
    (apart : ∀ item ∈ first, item ∉ second) :
    Owned (first ∪ second) (items ++ rest) where
  nodup := by
    refine List.nodup_append.mpr ⟨head.nodup, tail.nodup, ?_⟩
    intro item inHead other inTail same
    subst same
    exact apart item (head.inside item inHead) (tail.inside item inTail)
  inside item member := by
    rcases List.mem_append.mp member with inHead | inTail
    · exact .inl (head.inside item inHead)
    · exact .inr (tail.inside item inTail)

/-- The parts of a node are owned together, each in a scope of its own. -/
theorem owned_flatten_mapIdx
    {parts : List β}
    {run : Nat → β → List α}
    {scopes : Nat → Set α}
    (apart :
      ∀ index other,
        index ≠ other →
        ∀ item ∈ scopes index, item ∉ scopes other)
    (each :
      ∀ index part,
        parts[index]? = some part →
        Owned (scopes index) (run index part)) :
    Owned (⋃ index, scopes index) (parts.mapIdx run).flatten := by
  induction parts generalizing run scopes with
  | nil =>
      exact owned_nil
  | cons part parts inductionHypothesis =>
      have later :
          Owned (⋃ index, scopes (index + 1))
            (parts.mapIdx fun index => run (index + 1)).flatten :=
        inductionHypothesis
          (fun index other differ => apart _ _ (by omega))
          (fun index part found => each (index + 1) part (by simpa using found))
      rw [List.mapIdx_cons, List.flatten_cons]
      refine ((each 0 part rfl).append later ?_).mono ?_
      · intro item inFirst inLater
        obtain ⟨index, inside⟩ := Set.mem_iUnion.mp inLater
        exact apart 0 (index + 1) (by omega) item inFirst inside
      · refine Set.union_subset (Set.subset_iUnion scopes 0) ?_
        exact
          Set.iUnion_subset fun index => Set.subset_iUnion scopes (index + 1)

end Owned

/-- What the parts add twice over is added part by part. -/
theorem flatten_mapIdx_append_perm
    (parts : List β)
    (first second : Nat → β → List α) :
    ((parts.mapIdx first).flatten ++ (parts.mapIdx second).flatten).Perm
      (parts.mapIdx fun index part =>
        first index part ++ second index part).flatten := by
  induction parts generalizing first second with
  | nil =>
      exact .refl _
  | cons part parts inductionHypothesis =>
      have later :=
        inductionHypothesis (fun index => first (index + 1))
          fun index => second (index + 1)
      simp only [List.mapIdx_cons, List.flatten_cons, List.append_assoc]
      refine List.Perm.append_left _ ?_
      refine List.Perm.trans ?_ (List.Perm.append_left _ later)
      rw [← List.append_assoc, ← List.append_assoc]
      exact List.Perm.append_right _ List.perm_append_comm

end OwnedLists
