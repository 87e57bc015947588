import CloudflareParallel.Library.BalancedDivision

namespace CloudflareParallel

/-!
# Topology plans

The selector returns a plan and the coordinators consume it: `in-do` is the
single-job fast path, `hybrid` dispatches one RPC per leaf entry, and `tree`
hands sliced plans to sub-coordinators.  A tree's children are hybrid plans or
trees, never `in-do`, which the type `FanOutPlan` records.
-/

/-- One coordinator that dispatches one RPC per entry of `leafShape`. -/
structure HybridPlan where
  size : Nat
  leafShape : List Nat
  deriving Repr, DecidableEq

/-- The plans of a real fan-out: hybrid, or a tree of fan-outs. -/
inductive FanOutPlan where
  | hybrid (plan : HybridPlan)
  | tree
      (size branchingFactor depth : Nat)
      (children : List FanOutPlan)
  deriving Repr

/-- A topology execution plan. -/
inductive TopologyPlan where
  | inDo (size : Nat)
  | fanOut (plan : FanOutPlan)
  deriving Repr

namespace FanOutPlan

/-- Number of jobs below one plan node. -/
def size : FanOutPlan → Nat
  | .hybrid plan => plan.size
  | .tree size _ _ _ => size

/-- Direct children of a plan node. -/
def children : FanOutPlan → List FanOutPlan
  | .hybrid _ => []
  | .tree _ _ _ children => children

mutual

/-- A plan node followed by everything below it. -/
def nodes : FanOutPlan → List FanOutPlan
  | .hybrid plan => [.hybrid plan]
  | .tree size branchingFactor depth children =>
      .tree size branchingFactor depth children ::
        nodesOfChildren children

/-- The nodes of all children, left to right. -/
def nodesOfChildren : List FanOutPlan → List FanOutPlan
  | [] => []
  | child :: rest => nodes child ++ nodesOfChildren rest

end

/-- Children contribute their nodes one after the other. -/
theorem nodesOfChildren_eq_flatMap
    (children : List FanOutPlan) :
    nodesOfChildren children = children.flatMap nodes := by
  induction children with
  | nil =>
      rfl
  | cons child rest inductionHypothesis =>
      rw [nodesOfChildren, inductionHypothesis, List.flatMap_cons]

/-- A plan is its own first node. -/
theorem self_mem_nodes (plan : FanOutPlan) : plan ∈ plan.nodes := by
  cases plan <;> simp [nodes]

/-- The children of a tree are nodes of it. -/
theorem child_mem_nodes
    {size branchingFactor depth : Nat}
    {children : List FanOutPlan}
    {child : FanOutPlan}
    (member : child ∈ children) :
    child ∈ (tree size branchingFactor depth children).nodes := by
  rw [nodes, nodesOfChildren_eq_flatMap]
  exact List.mem_cons_of_mem _
    (List.mem_flatMap.mpr ⟨child, member, child.self_mem_nodes⟩)

/-- Leaf entries carried by one node itself. -/
def ownLeafEntries : FanOutPlan → List Nat
  | .hybrid plan => plan.leafShape
  | .tree .. => []

/-- All leaf entries of a plan, left to right. -/
def leafEntries (plan : FanOutPlan) : List Nat :=
  plan.nodes.flatMap ownLeafEntries

@[simp] theorem leafEntries_hybrid
    (plan : HybridPlan) :
    leafEntries (.hybrid plan) = plan.leafShape := by
  simp [leafEntries, nodes, ownLeafEntries]

/-- A tree has exactly the leaf entries of its children. -/
@[simp] theorem leafEntries_tree
    (size branchingFactor depth : Nat)
    (children : List FanOutPlan) :
    leafEntries (.tree size branchingFactor depth children) =
      children.flatMap leafEntries := by
  simp only [leafEntries, nodes, List.flatMap_cons, ownLeafEntries,
    List.nil_append, nodesOfChildren_eq_flatMap, List.flatMap_assoc]
  rfl

end FanOutPlan

/--
Distribute `size` jobs across `n` slots as evenly as possible.  No caller
passes the optional per-slot maximum of the source, so the two checks that
only it enables are left out.
-/
def balancedFill (size n : Nat) : List Nat :=
  if n = 0 then
    []
  else if size = 0 then
    List.replicate n 0
  else
    let base := size / n
    let extras := size % n
    (List.range n).map fun i => base + if i < extras then 1 else 0

/-- The early returns agree with the general division. -/
theorem balancedFill_eq_parts
    (size n : Nat) :
    balancedFill size n = BalancedDivision.parts size n := by
  unfold balancedFill
  split
  next noSlots =>
    subst noSlots
    rfl
  next =>
    split
    next noJobs =>
      subst noJobs
      have partZero :
          BalancedDivision.part 0 n = fun _ => 0 := by
        funext index
        simp [BalancedDivision.part]
      simp [BalancedDivision.parts, partZero]
    next =>
      rfl

example : balancedFill 17 5 = [4, 4, 3, 3, 3] := by decide

/-- The slots that the selector keeps. -/
theorem usedChildren_eq_usedParts
    (size n : Nat) :
    (balancedFill size n).filter (0 < ·) =
      BalancedDivision.usedParts size n := by
  rw [balancedFill_eq_parts, BalancedDivision.usedParts]

end CloudflareParallel
