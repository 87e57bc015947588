import CloudflareParallel.TopologySelector

namespace CloudflareParallel

/-!
# Plans conserve their jobs

Every job of the request appears as exactly one leaf entry of the plan, and
every tree node splits its own size over nonempty, balanced children.  The
recursion carries one capacity invariant: a subtree of depth `K` receives at
most `maxFanOut * F ^ K` jobs, so that the clamp of the bottom tier never cuts.
-/

/-- What conservation asks of one tree node. -/
structure TreeNodeConserved
    (maxFanOut size branchingFactor : Nat)
    (children : List FanOutPlan) : Prop where
  size_eq_sum :
    size = (children.map FanOutPlan.size).sum
  childPositive :
    ∀ child ∈ children, 0 < child.size
  siblingsBalanced :
    ∀ first ∈ children, ∀ second ∈ children,
      first.size ≤ second.size + 1
  nothingClamped :
    children.map FanOutPlan.size =
      (balancedFill size branchingFactor).filter (0 < ·)
  bottomBounded :
    ∀ hybrid, .hybrid hybrid ∈ children →
      hybrid.leafShape.length ≤ maxFanOut

/-- What conservation asks of a whole plan for `size` jobs. -/
structure PlanConserved
    (maxFanOut size : Nat)
    (plan : FanOutPlan) : Prop where
  leafEntryOne :
    ∀ entry ∈ plan.leafEntries, entry = 1
  leafEntries_length :
    plan.leafEntries.length = size
  hybridNode :
    ∀ hybrid, .hybrid hybrid ∈ plan.nodes →
      hybrid.leafShape.length = hybrid.size
  treeNode :
    ∀ {nodeSize branchingFactor depth children},
      .tree nodeSize branchingFactor depth children ∈ plan.nodes →
      TreeNodeConserved maxFanOut nodeSize branchingFactor children

/-- A hybrid plan has one unit entry per job. -/
theorem planConserved_buildHybridPlan
    (maxFanOut size : Nat) :
    PlanConserved maxFanOut size (.hybrid (buildHybridPlan size)) where
  leafEntryOne entry member := by
    rw [FanOutPlan.leafEntries_hybrid] at member
    exact List.eq_of_mem_replicate member
  leafEntries_length := by
    simp [buildHybridPlan]
  hybridNode hybrid member := by
    simp only [FanOutPlan.nodes, List.mem_singleton,
      FanOutPlan.hybrid.injEq] at member
    simp [member, buildHybridPlan]
  treeNode member := by
    simp [FanOutPlan.nodes] at member

/--
A tree is conserved when its children are built one per used slot, each
conserved for the size of its slot.
-/
private theorem planConserved_tree
    {maxFanOut size branchingFactor depth : Nat}
    {build : Nat → FanOutPlan}
    (branchingPositive : 0 < branchingFactor)
    (childSize :
      ∀ slice ∈ (balancedFill size branchingFactor).filter (0 < ·),
        (build slice).size = slice)
    (childConserved :
      ∀ slice ∈ (balancedFill size branchingFactor).filter (0 < ·),
        PlanConserved maxFanOut slice (build slice))
    (childBounded :
      ∀ slice ∈ (balancedFill size branchingFactor).filter (0 < ·),
        ∀ hybrid, build slice = .hybrid hybrid →
          hybrid.leafShape.length ≤ maxFanOut) :
    PlanConserved maxFanOut size
      (.tree size branchingFactor depth
        (((balancedFill size branchingFactor).filter (0 < ·)).map build)) := by
  have slotsSum :
      ((balancedFill size branchingFactor).filter (0 < ·)).sum = size := by
    rw [usedChildren_eq_usedParts,
      BalancedDivision.sum_usedParts branchingPositive]
  have slotsBalanced :
      ∀ first ∈ (balancedFill size branchingFactor).filter (0 < ·),
        ∀ second ∈ (balancedFill size branchingFactor).filter (0 < ·),
          first ≤ second + 1 := by
    rw [usedChildren_eq_usedParts]
    intro first firstMember second secondMember
    exact BalancedDivision.le_succ_of_mem_parts
      (BalancedDivision.mem_parts_of_mem_usedParts firstMember)
      (BalancedDivision.mem_parts_of_mem_usedParts secondMember)
  have slotPositive :
      ∀ slice ∈ (balancedFill size branchingFactor).filter (0 < ·),
        0 < slice := by
    rw [usedChildren_eq_usedParts]
    intro slice member
    exact BalancedDivision.pos_of_mem_usedParts member
  generalize slotsShape :
    (balancedFill size branchingFactor).filter (0 < ·) = slots at *
  have sizes : (slots.map build).map FanOutPlan.size = slots := by
    rw [List.map_map]
    calc
      slots.map (FanOutPlan.size ∘ build) = slots.map id :=
        List.map_congr_left childSize
      _ = slots := List.map_id slots
  have rootConserved :
      TreeNodeConserved maxFanOut size branchingFactor
        (slots.map build) := by
    refine {
      size_eq_sum := ?_
      childPositive := ?_
      siblingsBalanced := ?_
      nothingClamped := ?_
      bottomBounded := ?_
    }
    · rw [sizes, slotsSum]
    · intro child member
      obtain ⟨slice, sliceMember, rfl⟩ := List.mem_map.mp member
      rw [childSize slice sliceMember]
      exact slotPositive slice sliceMember
    · intro first firstMember second secondMember
      obtain ⟨firstSlice, firstSliceMember, rfl⟩ :=
        List.mem_map.mp firstMember
      obtain ⟨secondSlice, secondSliceMember, rfl⟩ :=
        List.mem_map.mp secondMember
      rw [childSize firstSlice firstSliceMember,
        childSize secondSlice secondSliceMember]
      exact slotsBalanced _ firstSliceMember _ secondSliceMember
    · rw [sizes, slotsShape]
    · intro hybrid member
      obtain ⟨slice, sliceMember, shape⟩ := List.mem_map.mp member
      exact childBounded slice sliceMember hybrid shape
  have nodeOfChild :
      ∀ {node},
        node ∈ FanOutPlan.nodesOfChildren (slots.map build) →
        ∃ slice ∈ slots, node ∈ (build slice).nodes := by
    intro node member
    rw [FanOutPlan.nodesOfChildren_eq_flatMap, List.mem_flatMap] at member
    obtain ⟨child, childMember, nodeMember⟩ := member
    obtain ⟨slice, sliceMember, rfl⟩ := List.mem_map.mp childMember
    exact ⟨slice, sliceMember, nodeMember⟩
  refine {
    leafEntryOne := ?_
    leafEntries_length := ?_
    hybridNode := ?_
    treeNode := ?_
  }
  · intro entry member
    rw [FanOutPlan.leafEntries_tree, List.mem_flatMap] at member
    obtain ⟨child, childMember, entryMember⟩ := member
    obtain ⟨slice, sliceMember, rfl⟩ := List.mem_map.mp childMember
    exact (childConserved slice sliceMember).leafEntryOne entry entryMember
  · rw [FanOutPlan.leafEntries_tree, List.length_flatMap, List.map_map]
    calc
      (slots.map
          ((fun child => child.leafEntries.length) ∘ build)).sum =
          (slots.map id).sum := by
        congr 1
        exact List.map_congr_left fun slice sliceMember =>
          (childConserved slice sliceMember).leafEntries_length
      _ = size := by
        rw [List.map_id, slotsSum]
  · intro hybrid member
    simp only [FanOutPlan.nodes, List.mem_cons, reduceCtorEq,
      false_or] at member
    obtain ⟨slice, sliceMember, nodeMember⟩ := nodeOfChild member
    exact (childConserved slice sliceMember).hybridNode hybrid nodeMember
  · intro nodeSize nodeBranching nodeDepth children member
    rw [FanOutPlan.nodes, List.mem_cons] at member
    rcases member with atRoot | below
    · cases atRoot
      exact rootConserved
    · obtain ⟨slice, sliceMember, nodeMember⟩ := nodeOfChild below
      exact (childConserved slice sliceMember).treeNode nodeMember

/-- The root of a built tree carries the size it was built for. -/
@[simp] theorem size_buildTreePlanAt
    (branchingFactor maxFanOut K size : Nat) :
    (buildTreePlanAt branchingFactor maxFanOut K size).size = size := by
  cases K <;> rfl

/-- A built tree is never a hybrid plan. -/
theorem buildTreePlanAt_ne_hybrid
    {branchingFactor maxFanOut K size : Nat}
    {hybrid : HybridPlan} :
    buildTreePlanAt branchingFactor maxFanOut K size ≠ .hybrid hybrid := by
  cases K <;> simp [buildTreePlanAt]

/--
One level down, a balanced slot of a subtree of depth `K + 1` fits a subtree
of depth `K`.
-/
theorem slot_le_capacity
    {branchingFactor maxFanOut K size slice : Nat}
    (capacity : size ≤ maxFanOut * branchingFactor ^ (K + 1))
    (member :
      slice ∈ (balancedFill size branchingFactor).filter (0 < ·)) :
    slice ≤ maxFanOut * branchingFactor ^ K := by
  rw [usedChildren_eq_usedParts] at member
  rw [Nat.pow_succ, ← Nat.mul_assoc] at capacity
  exact BalancedDivision.le_of_mem_parts capacity
    (BalancedDivision.mem_parts_of_mem_usedParts member)

/--
A tree plan within its capacity conserves its jobs; by induction on the depth,
with the capacity of the current subtree as invariant.
-/
theorem planConserved_buildTreePlanAt
    {branchingFactor maxFanOut K size : Nat}
    (branchingPositive : 0 < branchingFactor)
    (capacity : size ≤ maxFanOut * branchingFactor ^ (K + 1)) :
    PlanConserved maxFanOut size
      (buildTreePlanAt branchingFactor maxFanOut (K + 1) size) := by
  induction K generalizing size with
  | zero =>
      have unclamped :
          ∀ slice ∈ (balancedFill size branchingFactor).filter (0 < ·),
            min slice maxFanOut = slice := by
        intro slice member
        have fits := slot_le_capacity capacity member
        rw [Nat.pow_zero, Nat.mul_one] at fits
        exact Nat.min_eq_left fits
      apply planConserved_tree branchingPositive
      · intro slice member
        exact unclamped slice member
      · intro slice member
        simp only [Nat.zero_add, Nat.le_refl, ↓reduceIte,
          unclamped slice member]
        exact planConserved_buildHybridPlan maxFanOut slice
      · intro slice member hybrid shape
        simp only [Nat.zero_add, Nat.le_refl, ↓reduceIte,
          FanOutPlan.hybrid.injEq] at shape
        subst shape
        simp [buildHybridPlan]
  | succ K inductionHypothesis =>
      have notBottom : ¬ K + 1 + 1 ≤ 1 := by omega
      apply planConserved_tree branchingPositive
      · intro slice member
        simp [notBottom]
      · intro slice member
        simp only [notBottom, ↓reduceIte]
        exact inductionHypothesis (slot_le_capacity capacity member)
      · intro slice member hybrid shape
        simp only [notBottom, ↓reduceIte] at shape
        exact (buildTreePlanAt_ne_hybrid shape).elim

/-- The root of a built tree has its branching factor and its depth. -/
theorem buildTreePlan_eq_tree
    (treeDepth : TreeDepth)
    (size branchingFactor maxFanOut : Nat) :
    ∃ children,
      buildTreePlan treeDepth size branchingFactor maxFanOut =
        .tree size branchingFactor
          (treeDepth.depth size maxFanOut branchingFactor) children := by
  unfold buildTreePlan
  cases treeDepth.depth size maxFanOut branchingFactor
  · exact ⟨_, rfl⟩
  · exact ⟨_, rfl⟩

/-- Above the bottom tier the children of a built tree are built trees. -/
theorem children_of_buildTreePlanAt
    {branchingFactor maxFanOut K size : Nat}
    {children : List FanOutPlan}
    {child : FanOutPlan}
    (deep : 1 ≤ K)
    (shape :
      buildTreePlanAt branchingFactor maxFanOut (K + 1) size =
        .tree size branchingFactor (K + 1) children)
    (member : child ∈ children) :
    ∃ slice grandchildren,
      child = .tree slice branchingFactor K grandchildren := by
  have notBottom : ¬ K + 1 ≤ 1 := by omega
  simp only [buildTreePlanAt, notBottom, ↓reduceIte,
    FanOutPlan.tree.injEq, true_and] at shape
  subst shape
  obtain ⟨slice, _, rfl⟩ := List.mem_map.mp member
  obtain ⟨lower, rfl⟩ : ∃ lower, K = lower + 1 :=
    ⟨_, (Nat.sub_add_cancel deep).symm⟩
  exact ⟨slice, _, rfl⟩

/-- The depth formula gives every tree the capacity it needs. -/
theorem planConserved_buildTreePlan
    (treeDepth : TreeDepth)
    {size branchingFactor maxFanOut : Nat}
    (branchingLarge : 2 ≤ branchingFactor)
    (fanOutPositive : 1 ≤ maxFanOut) :
    PlanConserved maxFanOut size
      (buildTreePlan treeDepth size branchingFactor maxFanOut) := by
  have depthPositive :=
    treeDepth.one_le size maxFanOut branchingFactor
  have capacity :
      size ≤
        maxFanOut *
          branchingFactor ^
            treeDepth.depth size maxFanOut branchingFactor :=
    treeDepth.covers fanOutPositive branchingLarge
  unfold buildTreePlan
  obtain ⟨K, depthShape⟩ :
      ∃ K, treeDepth.depth size maxFanOut branchingFactor = K + 1 :=
    ⟨_, (Nat.sub_add_cancel depthPositive).symm⟩
  rw [depthShape] at capacity ⊢
  exact planConserved_buildTreePlanAt (by omega) capacity

/-- Every selected fan-out plan conserves its jobs, however logarithms round. -/
theorem planConserved_of_selectTopology
    {treeDepth : TreeDepth}
    {size : Nat}
    {opts : SelectorOptions}
    {plan : FanOutPlan}
    (selected : selectTopology treeDepth size opts = .ok (.fanOut plan)) :
    PlanConserved opts.fanOutCap size plan := by
  obtain ⟨branchingInRange, fanOutInRange, shape⟩ :=
    selectTopology_cases selected
  rcases shape with ⟨_, shape, _⟩ | ⟨_, shape⟩ | ⟨_, shape⟩
  · cases shape
  · cases shape
    exact planConserved_buildHybridPlan _ _
  · cases shape
    exact planConserved_buildTreePlan treeDepth (by omega)
      fanOutInRange.1

/-- A selected plan runs here, is flat, or is a tree that keeps its jobs. -/
theorem selectTopology_plan
    {treeDepth : TreeDepth}
    {size : Nat}
    {opts : SelectorOptions}
    {plan : TopologyPlan}
    (selected : selectTopology treeDepth size opts = .ok plan) :
    (plan = .inDo size ∧ size ≤ 1) ∨
      plan = .fanOut (.hybrid (buildHybridPlan size)) ∨
      ∃ branchingFactor depth children,
        plan = .fanOut (.tree size branchingFactor depth children) ∧
          0 < branchingFactor ∧
          PlanConserved opts.fanOutCap size
            (.tree size branchingFactor depth children) := by
  obtain ⟨branchingInRange, _, shape⟩ := selectTopology_cases selected
  rcases shape with ⟨_, isInDo, small⟩ | ⟨_, isHybrid⟩ | ⟨_, rfl⟩
  · exact .inl ⟨isInDo, small⟩
  · exact .inr (.inl isHybrid)
  · have conserved := planConserved_of_selectTopology selected
    obtain ⟨children, built⟩ :=
      buildTreePlan_eq_tree treeDepth size opts.branching opts.fanOutCap
    rw [built] at conserved ⊢
    exact .inr (.inr ⟨_, _, _, rfl, by omega, conserved⟩)

/--
Plan conservation, with the depth read as the exact ceiling of the logarithm:
whenever `selectTopology` returns a hybrid or tree plan, every leaf entry is
one, there are `size` of them, every tree node's size is the sum of its
positive and balanced children, every bottom hybrid child has at most
`maxFanOut` entries, and no clamp drops a job.
-/
theorem selectTopology_conserves
    {size : Nat}
    {opts : SelectorOptions}
    {plan : FanOutPlan}
    (selected :
      selectTopology .exact size opts = .ok (.fanOut plan)) :
    PlanConserved opts.fanOutCap size plan ∧ plan.size = size := by
  refine ⟨planConserved_of_selectTopology selected, ?_⟩
  obtain ⟨_, _, shape⟩ := selectTopology_cases selected
  rcases shape with ⟨_, shape, _⟩ | ⟨_, shape⟩ | ⟨_, shape⟩
  · cases shape
  · cases shape
    rfl
  · cases shape
    exact size_buildTreePlanAt _ _ _ _

/-- Conservation at seventeen jobs over four branches with a cap of four. -/
theorem selectTopology_conserves_seventeen :
    (∃ children, buildTreePlanAt 4 4 2 17 = .tree 17 4 2 children) ∧
      PlanConserved 4 17 (buildTreePlanAt 4 4 2 17) ∧
      (buildTreePlanAt 4 4 2 17).size = 17 := by
  have selected :
      selectTopology .exact (17 : Nat)
          { maxFanOut := some 4, branchingFactor := some 4 } =
        .ok (.fanOut (buildTreePlanAt 4 4 2 17)) :=
    rfl
  exact ⟨⟨_, rfl⟩, selectTopology_conserves selected⟩

end CloudflareParallel
