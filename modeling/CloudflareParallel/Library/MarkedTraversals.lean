import CloudflareParallel.Library.GraphUnfolding
import Mathlib.Algebra.BigOperators.Group.Finset.Basic
import Mathlib.Algebra.BigOperators.Ring.Finset
import Mathlib.Algebra.Order.BigOperators.Group.Finset

namespace GraphUnfolding

/-!
# Traversals that mark what they enter

A depth-first traversal enters a node unless it is marked, and marks it first.
Leaves refer to nothing and are not marked.  A traversal from some roots is told
by the marks before and after it: it marks nodes that the roots reach, and all
nodes that a newly marked one refers to.  Of these facts those of a longer
traversal are composed, and without any marks before they make up the set of
the nodes reached.
-/

variable {Node : Type}
variable {references : Node → List Node}
variable {IsLeaf : Node → Prop}

/-- What a reached node refers to is reached from there. -/
theorem Reaches.cons
    {root node : Node}
    {roots : List Node}
    (member : root ∈ roots)
    (reached : Reaches references (references root) node) :
    Reaches references roots node := by
  obtain ⟨child, refers, path⟩ := reached
  exact ⟨root, member, path.head refers⟩

/-- More roots reach more nodes. -/
theorem Reaches.mono
    {fewer roots : List Node}
    {node : Node}
    (subset : fewer ⊆ roots)
    (reached : Reaches references fewer node) :
    Reaches references roots node := by
  obtain ⟨root, member, path⟩ := reached
  exact ⟨root, subset member, path⟩

/-- A reached node is a root or a reached node refers to it. -/
theorem Reaches.cases
    {roots : List Node}
    {node : Node}
    (reached : Reaches references roots node) :
    node ∈ roots ∨
      ∃ parent, Reaches references roots parent ∧ node ∈ references parent := by
  obtain ⟨root, member, path⟩ := reached
  cases path with
  | refl => exact .inl member
  | tail before refers => exact .inr ⟨_, ⟨root, member, before⟩, refers⟩

/--
A traversal from the roots turns the marks from those before into those after,
and its newly marked nodes have this total weight.
-/
structure Marks
    [DecidableEq Node]
    (references : Node → List Node)
    (IsLeaf : Node → Prop)
    (weight : Node → Nat)
    (roots : List Node)
    (before after : Finset Node)
    (total : Nat) : Prop where
  keeps : before ⊆ after
  entered : ∀ root ∈ roots, ¬ IsLeaf root → root ∈ after
  reached :
    ∀ node ∈ after, node ∉ before →
      ¬ IsLeaf node ∧ Reaches references roots node
  closed :
    ∀ node ∈ after, node ∉ before →
      ∀ child ∈ references node, ¬ IsLeaf child → child ∈ after
  total : total = ∑ node ∈ after \ before, weight node

namespace Marks

variable [DecidableEq Node]
variable {weight : Node → Nat}
variable {before after : Finset Node}
variable {total : Nat}

/-- Roots that are leaves or marked are not entered. -/
theorem skip
    {roots : List Node}
    (known : ∀ root ∈ roots, ¬ IsLeaf root → root ∈ before) :
    Marks references IsLeaf weight roots before before 0 where
  keeps := Finset.Subset.refl before
  entered := known
  reached _ member fresh := absurd member fresh
  closed _ member fresh := absurd member fresh
  total := by rw [Finset.sdiff_self, Finset.sum_empty]

/-- A root that is entered is marked before what it refers to is traversed. -/
theorem enter
    {root : Node}
    (inner : ¬ IsLeaf root)
    (fresh : root ∉ before)
    (marks :
      Marks references IsLeaf weight (references root) (insert root before)
        after total) :
    Marks references IsLeaf weight [root] before after
      (weight root + total) where
  keeps := (Finset.subset_insert root before).trans marks.keeps
  entered node member _ := by
    rw [List.mem_singleton.mp member]
    exact marks.keeps (Finset.mem_insert_self root before)
  reached node member new := by
    by_cases same : node = root
    · subst same
      exact ⟨inner, .root (List.mem_singleton_self _)⟩
    · have unmarked : node ∉ insert root before := fun marked =>
        (Finset.mem_insert.mp marked).elim same new
      obtain ⟨notLeaf, reached⟩ := marks.reached node member unmarked
      exact ⟨notLeaf, reached.cons (List.mem_singleton_self root)⟩
  closed node member new child refers notLeaf := by
    by_cases same : node = root
    · subst same
      exact marks.entered child refers notLeaf
    · have unmarked : node ∉ insert root before := fun marked =>
        (Finset.mem_insert.mp marked).elim same new
      exact marks.closed node member unmarked child refers notLeaf
  total := by
    have marked : root ∈ after :=
      marks.keeps (Finset.mem_insert_self root before)
    have parted :
        after \ before = insert root (after \ insert root before) := by
      ext node
      simp only [Finset.mem_sdiff, Finset.mem_insert]
      by_cases same : node = root
      · subst same
        simp [marked, fresh]
      · simp [same]
    rw [parted, Finset.sum_insert (by simp), marks.total]

/-- Traversals that follow each other. -/
theorem append
    {first second : List Node}
    {between : Finset Node}
    {ofFirst ofSecond : Nat}
    (early :
      Marks references IsLeaf weight first before between ofFirst)
    (late : Marks references IsLeaf weight second between after ofSecond) :
    Marks references IsLeaf weight (first ++ second) before after
      (ofFirst + ofSecond) where
  keeps := early.keeps.trans late.keeps
  entered root member notLeaf := by
    rcases List.mem_append.mp member with inFirst | inSecond
    · exact late.keeps (early.entered root inFirst notLeaf)
    · exact late.entered root inSecond notLeaf
  reached node member new := by
    by_cases marked : node ∈ between
    · obtain ⟨notLeaf, reached⟩ := early.reached node marked new
      exact ⟨notLeaf, reached.mono (List.subset_append_left first second)⟩
    · obtain ⟨notLeaf, reached⟩ := late.reached node member marked
      exact ⟨notLeaf, reached.mono (List.subset_append_right first second)⟩
  closed node member new child refers notLeaf := by
    by_cases marked : node ∈ between
    · exact
        late.keeps (early.closed node marked new child refers notLeaf)
    · exact late.closed node member marked child refers notLeaf
  total := by
    have parted :
        after \ before = (between \ before) ∪ (after \ between) := by
      ext node
      simp only [Finset.mem_union, Finset.mem_sdiff]
      constructor
      · rintro ⟨member, new⟩
        by_cases marked : node ∈ between
        · exact .inl ⟨marked, new⟩
        · exact .inr ⟨member, marked⟩
      · rintro (⟨marked, new⟩ | ⟨member, unmarked⟩)
        · exact ⟨late.keeps marked, new⟩
        · exact ⟨member, fun old => unmarked (early.keeps old)⟩
    have apart : Disjoint (between \ before) (after \ between) := by
      rw [Finset.disjoint_left]
      intro node inFirst inSecond
      exact
        (Finset.mem_sdiff.mp inSecond).2 (Finset.mem_sdiff.mp inFirst).1
    rw [parted, Finset.sum_union apart, early.total, late.total]

/--
Without any marks before, a traversal marks the nodes that the roots reach and
that are no leaves.
-/
theorem mem_iff
    {roots : List Node}
    (ends : ∀ node, IsLeaf node → references node = [])
    (marks : Marks references IsLeaf weight roots ∅ after total)
    (node : Node) :
    node ∈ after ↔ Reaches references roots node ∧ ¬ IsLeaf node := by
  constructor
  · intro member
    have := marks.reached node member (Finset.notMem_empty node)
    exact ⟨this.2, this.1⟩
  · rintro ⟨⟨root, member, path⟩, notLeaf⟩
    induction path with
    | refl => exact marks.entered root member notLeaf
    | @tail parent child before refers inductionHypothesis =>
        have parentInner : ¬ IsLeaf parent := by
          intro leaf
          have refers : child ∈ references parent := refers
          rw [ends parent leaf] at refers
          cases refers
        exact
          marks.closed parent (inductionHypothesis parentInner)
            (Finset.notMem_empty parent) child refers notLeaf

end Marks

end GraphUnfolding
