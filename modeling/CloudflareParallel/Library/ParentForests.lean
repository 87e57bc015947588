import Mathlib.Data.List.Basic

namespace ParentForests

/-!
# Forests by their parents

A forest that only grows: its nodes are numbered in the order in which they
were added, and each of them has the number of its parent, if it has one.
-/

/-- The parents of the nodes, oldest node first. -/
abbrev ParentForest := List (Option Nat)

/-- A node is older than its children. -/
def Ordered (forest : ParentForest) : Prop :=
  ∀ node parent : Nat, forest[node]? = some (some parent) → parent < node

/-- A node is the top of a tree or lies below it. -/
inductive Descends
    (forest : ParentForest)
    (top : Nat) : Nat → Prop where
  | top : Descends forest top top
  | child {parent node : Nat} :
      Descends forest top parent →
      forest[node]? = some (some parent) →
      Descends forest top node

variable {forest : ParentForest}
variable {top node : Nat}

theorem ordered_nil : Ordered [] := by
  intro node parent found
  simp at found

/-- An old node keeps its parent. -/
theorem getElem?_append_old
    {parent? : Option Nat}
    (found : forest[node]? = some parent?)
    (added : ParentForest) :
    (forest ++ added)[node]? = some parent? := by
  obtain ⟨inside, -⟩ := List.getElem?_eq_some_iff.mp found
  rw [List.getElem?_append_left inside]
  exact found

/-- The parent of a node of a forest with one more node. -/
theorem getElem?_snoc
    {parent? : Option Nat}
    {parent : Nat}
    (found : (forest ++ [parent?])[node]? = some (some parent)) :
    forest[node]? = some (some parent) ∨
      node = forest.length ∧ parent? = some parent := by
  by_cases old : node < forest.length
  · rw [List.getElem?_append_left old] at found
    exact .inl found
  · rw [List.getElem?_append_right (Nat.le_of_not_lt old),
      List.getElem?_singleton] at found
    split at found
    next => exact .inr ⟨by omega, Option.some.inj found⟩
    next => cases found

/-- A new node keeps the order if its parent is there. -/
theorem Ordered.snoc
    (ordered : Ordered forest)
    {parent? : Option Nat}
    (there : ∀ parent, parent? = some parent → parent < forest.length) :
    Ordered (forest ++ [parent?]) := by
  intro node parent found
  rcases getElem?_snoc found with old | ⟨rfl, below⟩
  · exact ordered node parent old
  · exact there parent below

namespace Descends

/-- What goes from a parent to its children goes down the tree. -/
theorem closed
    {holds : Nat → Prop}
    (down :
      ∀ {parent node},
        forest[node]? = some (some parent) →
        holds parent →
        holds node)
    (descends : Descends forest top node)
    (atTop : holds top) :
    holds node := by
  induction descends with
  | top => exact atTop
  | child _ found inductionHypothesis =>
      exact down found inductionHypothesis

theorem trans
    {middle : Nat}
    (upper : Descends forest top middle)
    (lower : Descends forest middle node) :
    Descends forest top node :=
  lower.closed (fun found above => .child above found) upper

/-- New nodes change nothing above the old ones. -/
theorem append
    (descends : Descends forest top node)
    (added : ParentForest) :
    Descends (forest ++ added) top node := by
  refine descends.closed ?_ .top
  intro parent node found above
  exact .child above (getElem?_append_old found added)

/-- Whatever lies above an old node is old. -/
theorem of_append
    (ordered : Ordered forest)
    {added : ParentForest}
    (descends : Descends (forest ++ added) top node)
    (old : node < forest.length) :
    Descends forest top node := by
  induction descends with
  | top => exact .top
  | child _ found inductionHypothesis =>
      rw [List.getElem?_append_left old] at found
      have parentOlder := ordered _ _ found
      exact .child (inductionHypothesis (by omega)) found

/-- A node below another one has its parent there. -/
theorem parent
    {found : Nat}
    (descends : Descends forest top node)
    (different : node ≠ top)
    (parentOf : forest[node]? = some (some found)) :
    Descends forest top found := by
  cases descends with
  | top => exact absurd rfl different
  | child above other =>
      rw [other] at parentOf
      cases parentOf
      exact above

end Descends

end ParentForests
