import Mathlib.Data.List.Basic

namespace PairingRounds

/-!
# Reducing a list in rounds of pairs

A round combines neighbours and keeps an odd last element in its place.  Rounds
over the leaves build one tree, which does not depend on the elements; every
other reduction in rounds is an evaluation of this tree.  An associative
operation evaluates it to the fold from the left.
-/

variable {α β : Type}

/-- Combine neighbours; an odd last element stays. -/
def pairRound (combine : α → α → α) : List α → List α
  | first :: second :: rest => combine first second :: pairRound combine rest
  | [last] => [last]
  | [] => []

/-- A round halves the length, rounded up. -/
theorem length_pairRound
    (combine : α → α → α)
    (items : List α) :
    (pairRound combine items).length = (items.length + 1) / 2 := by
  induction items using pairRound.induct with
  | case1 first second rest inductionHypothesis =>
      simp only [pairRound, List.length_cons, inductionHypothesis]
      omega
  | case2 last => simp [pairRound]
  | case3 => simp [pairRound]

/-- A map that respects the operations respects the rounds. -/
theorem map_pairRound
    {combine : α → α → α}
    {combine' : β → β → β}
    {image : α → β}
    (respects :
      ∀ first second,
        image (combine first second) = combine' (image first) (image second))
    (items : List α) :
    (pairRound combine items).map image = pairRound combine' (items.map image) := by
  induction items using pairRound.induct with
  | case1 first second rest inductionHypothesis =>
      simp only [pairRound, List.map_cons, respects, inductionHypothesis]
  | case2 last => rfl
  | case3 => rfl

/-- The rounds while more than one element is left; each makes one less. -/
def pairRounds
    (combine : α → α → α) :
    Nat → List α → List α
  | 0, items => items
  | count + 1, items =>
      if 1 < items.length then
        pairRounds combine count (pairRound combine items)
      else
        items

/-- A map that respects the operations respects all rounds. -/
theorem map_pairRounds
    {combine : α → α → α}
    {combine' : β → β → β}
    {image : α → β}
    (respects :
      ∀ first second,
        image (combine first second) = combine' (image first) (image second))
    (count : Nat)
    (items : List α) :
    (pairRounds combine count items).map image =
      pairRounds combine' count (items.map image) := by
  induction count generalizing items with
  | zero =>
      rfl
  | succ count inductionHypothesis =>
      unfold pairRounds
      rw [List.length_map]
      split
      · rw [inductionHypothesis, map_pairRound respects]
      · rfl

/-- Enough rounds leave one element. -/
theorem exists_pairRounds_eq_singleton
    (combine : α → α → α)
    {count : Nat}
    {items : List α}
    (nonempty : 0 < items.length)
    (enough : items.length ≤ count + 1) :
    ∃ value, pairRounds combine count items = [value] := by
  induction count generalizing items with
  | zero =>
      have single : items.length = 1 := by omega
      exact List.length_eq_one_iff.mp single
  | succ count inductionHypothesis =>
      unfold pairRounds
      split
      next more =>
        have halved := length_pairRound combine items
        have left : 0 < (pairRound combine items).length := by omega
        exact inductionHypothesis left (by omega)
      next single =>
        exact List.length_eq_one_iff.mp (by omega)

/-! ## The tree of the rounds -/

/-- How a reduction has combined its elements. -/
inductive PairingTree (α : Type) where
  | leaf (value : α)
  | node (left right : PairingTree α)
  deriving DecidableEq

namespace PairingTree

/-- The value of a tree under an operation. -/
def evaluate (combine : α → α → α) : PairingTree α → α
  | .leaf value => value
  | .node left right =>
      combine (left.evaluate combine) (right.evaluate combine)

/-- The elements from left to right. -/
def leaves : PairingTree α → List α
  | .leaf value => [value]
  | .node left right => left.leaves ++ right.leaves

/-- The same tree over other elements. -/
def map (image : α → β) : PairingTree α → PairingTree β
  | .leaf value => .leaf (image value)
  | .node left right => .node (left.map image) (right.map image)

/-- The first element and the others. -/
theorem exists_leaves_eq_cons (tree : PairingTree α) :
    ∃ first others, tree.leaves = first :: others := by
  induction tree with
  | leaf value =>
      exact ⟨value, [], rfl⟩
  | node left right leftHypothesis rightHypothesis =>
      obtain ⟨first, others, same⟩ := leftHypothesis
      exact ⟨first, others ++ right.leaves, by rw [leaves, same]; rfl⟩

/-- An associative operation folds the leaves from the left. -/
theorem foldl_leaves
    {combine : α → α → α}
    (associative :
      ∀ first second third,
        combine (combine first second) third =
          combine first (combine second third))
    (tree : PairingTree α)
    (initial : α) :
    tree.leaves.foldl combine initial =
      combine initial (tree.evaluate combine) := by
  induction tree generalizing initial with
  | leaf value =>
      rfl
  | node left right leftHypothesis rightHypothesis =>
      rw [leaves, List.foldl_append, leftHypothesis, rightHypothesis,
        associative]
      rfl

/-- An associative operation evaluates a tree to the fold of its leaves. -/
theorem evaluate_eq_foldl
    {combine : α → α → α}
    (associative :
      ∀ first second third,
        combine (combine first second) third =
          combine first (combine second third))
    {tree : PairingTree α}
    {first : α}
    {others : List α}
    (ordered : tree.leaves = first :: others) :
    tree.evaluate combine = others.foldl combine first := by
  induction tree generalizing first others with
  | leaf value =>
      cases ordered
      rfl
  | node left right leftHypothesis rightHypothesis =>
      obtain ⟨leftFirst, leftOthers, leftOrdered⟩ :=
        left.exists_leaves_eq_cons
      rw [leaves, leftOrdered, List.cons_append] at ordered
      cases ordered
      rw [evaluate, leftHypothesis leftOrdered, List.foldl_append,
        foldl_leaves associative]

end PairingTree

/-- A round of trees keeps the leaves in order. -/
theorem flatMap_leaves_pairRound (trees : List (PairingTree α)) :
    (pairRound .node trees).flatMap PairingTree.leaves =
      trees.flatMap PairingTree.leaves := by
  induction trees using pairRound.induct with
  | case1 first second rest inductionHypothesis =>
      simp only [pairRound, List.flatMap_cons, inductionHypothesis,
        PairingTree.leaves, List.append_assoc]
  | case2 last => rfl
  | case3 => rfl

/-- Rounds of trees keep the leaves in order. -/
theorem flatMap_leaves_pairRounds
    (count : Nat)
    (trees : List (PairingTree α)) :
    (pairRounds .node count trees).flatMap PairingTree.leaves =
      trees.flatMap PairingTree.leaves := by
  induction count generalizing trees with
  | zero =>
      rfl
  | succ count inductionHypothesis =>
      unfold pairRounds
      split
      · rw [inductionHypothesis, flatMap_leaves_pairRound]
      · rfl

/-- The tree that the rounds build over a list. -/
def pairingTree
    (first : α)
    (others : List α) : PairingTree α :=
  (pairRounds .node others.length ((first :: others).map .leaf)).headD
    (.leaf first)

/-- The rounds over the leaves leave the tree alone. -/
theorem pairRounds_leaves
    (first : α)
    (others : List α) :
    pairRounds .node others.length ((first :: others).map .leaf) =
      [pairingTree first others] := by
  obtain ⟨tree, left⟩ :=
    @exists_pairRounds_eq_singleton _ PairingTree.node others.length
      ((first :: others).map PairingTree.leaf) (by simp) (by simp)
  rw [pairingTree, left]
  rfl

/-- The tree has the elements as its leaves, in order. -/
theorem leaves_pairingTree
    (first : α)
    (others : List α) :
    (pairingTree first others).leaves = first :: others := by
  have kept :=
    flatMap_leaves_pairRounds others.length
      ((first :: others).map PairingTree.leaf)
  rw [pairRounds_leaves] at kept
  simpa [List.flatMap_map, PairingTree.leaves] using kept

/-- The rounds of an operation evaluate the tree. -/
theorem pairRounds_eq_evaluate
    (combine : α → α → α)
    (first : α)
    (others : List α) :
    pairRounds combine others.length (first :: others) =
      [(pairingTree first others).evaluate combine] := by
  have mapped :=
    @map_pairRounds _ _ PairingTree.node combine (PairingTree.evaluate combine)
      (fun _ _ => rfl) others.length ((first :: others).map PairingTree.leaf)
  have sameItems :
      ((first :: others).map PairingTree.leaf).map
          (PairingTree.evaluate combine) =
        first :: others := by
    simp [PairingTree.evaluate, Function.comp_def]
  rw [pairRounds_leaves, sameItems] at mapped
  exact mapped.symm

end PairingRounds
