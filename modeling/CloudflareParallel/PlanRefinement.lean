import CloudflareParallel.FanOutExecution

namespace CloudflareParallel

/-!
# Execution against the selected plan

The selected plan is refined when its nodes are carried out one for one and the
sub-coordinator levels that are run are as many as its depth.  A hybrid plan
and a tree of one level are; a deeper tree loses its last level.
-/

/-- Some chain of sub-coordinator runs below a log has the given length. -/
inductive SubCoordLevels : Nat → List Activity → Prop where
  | zero {log : List Activity} : SubCoordLevels 0 log
  | succ {levels : Nat} {log inner : List Activity} :
      Delegates log inner →
      SubCoordLevels levels inner →
      SubCoordLevels (levels + 1) log

/-- The sub-coordinator levels that a plan asks for. -/
def TopologyPlan.subCoordLevels : TopologyPlan → Nat
  | .fanOut (.tree _ _ depth _) => depth
  | _ => 0

/-- The activity of a request refines its selected plan. -/
structure RefinesPlan
    (platform : Platform)
    (plan : TopologyPlan)
    (log : List Activity) : Prop where
  realizes : RealizesTopology platform plan log
  noDeeper :
    ∀ levels, SubCoordLevels levels log → levels ≤ plan.subCoordLevels
  everyLevel :
    platform.Reliable → SubCoordLevels plan.subCoordLevels log

/-- A coordinator that delegates nothing runs no level. -/
theorem levels_le_zero
    {log : List Activity}
    (alone : ∀ inner, ¬ Delegates log inner)
    {levels : Nat}
    (chain : SubCoordLevels levels log) :
    levels ≤ 0 := by
  cases chain with
  | zero =>
      exact le_rfl
  | succ delegates =>
      exact (alone _ delegates).elim

/-- No chain is longer than the levels of the executed plan. -/
theorem levels_le_of_realizes_executedPlan
    {platform : Platform}
    {branchingFactor executedLevels size : Nat}
    {log : List Activity}
    (realized :
      Realizes platform
        (executedPlan branchingFactor executedLevels size) log)
    {levels : Nat}
    (chain : SubCoordLevels levels log) :
    levels ≤ executedLevels := by
  induction executedLevels generalizing size log levels with
  | zero =>
      exact levels_le_zero
        (fun _ => not_delegates_of_realizes_hybrid realized) chain
  | succ executedLevels inductionHypothesis =>
      cases chain with
      | zero =>
          exact Nat.zero_le _
      | succ delegates below =>
          obtain ⟨child, childMember, childRealized⟩ :=
            realizes_child_of_delegates realized delegates
          obtain ⟨slice, _, rfl⟩ := List.mem_map.mp childMember
          exact Nat.succ_le_succ (inductionHypothesis childRealized below)

/-- On a reliable platform every level of the executed plan is run. -/
theorem levels_of_realizes_executedPlan
    {platform : Platform}
    (reliable : platform.Reliable)
    {branchingFactor levels size : Nat}
    {log : List Activity}
    (branchingPositive : 0 < branchingFactor)
    (sizePositive : 0 < size)
    (realized :
      Realizes platform (executedPlan branchingFactor levels size) log) :
    SubCoordLevels levels log := by
  induction levels generalizing size log with
  | zero =>
      exact .zero
  | succ levels inductionHypothesis =>
      obtain ⟨slice, sliceMember⟩ :=
        BalancedDivision.exists_mem_usedParts branchingPositive sizePositive
      have slicePositive :=
        BalancedDivision.pos_of_mem_usedParts sliceMember
      rw [← usedChildren_eq_usedParts] at sliceMember
      obtain ⟨inner, delegates, childRealized⟩ :=
        delegates_of_mem_children reliable realized
          (List.mem_map_of_mem sliceMember)
      exact .succ delegates
        (inductionHypothesis slicePositive childRealized)

/-- A tree of one level is carried out as the plan that was selected. -/
theorem executedPlan_one
    {branchingFactor maxFanOut size : Nat}
    (capacity : size ≤ maxFanOut * branchingFactor ^ 1) :
    executedPlan branchingFactor 1 size =
      buildTreePlanAt branchingFactor maxFanOut 1 size := by
  simp only [executedPlan, buildTreePlanAt, Nat.zero_add, Nat.le_refl,
    ↓reduceIte, FanOutPlan.tree.injEq, true_and]
  apply List.map_congr_left
  intro slice member
  have fits : slice ≤ maxFanOut * branchingFactor ^ 0 :=
    slot_le_capacity capacity member
  rw [Nat.pow_zero, Nat.mul_one] at fits
  rw [Nat.min_eq_left fits]

/-- The requests whose plan has at most one level of sub-coordinators. -/
def SelectorOptions.atMostOneLevel
    (opts : SelectorOptions)
    (treeDepth : TreeDepth)
    (size : Nat) : Prop :=
  opts.selectsTree size →
    treeDepth.depth size opts.fanOutCap opts.branching ≤ 1

/-- With exact logarithms one level is the capacity of one level. -/
theorem atMostOneLevel_exact_iff
    {opts : SelectorOptions}
    {size : Nat}
    (fanOutPositive : 1 ≤ opts.fanOutCap)
    (branchingLarge : 2 ≤ opts.branching) :
    opts.atMostOneLevel .exact size ↔
      (opts.selectsTree size →
        size ≤ opts.fanOutCap * opts.branching) := by
  unfold SelectorOptions.atMostOneLevel
  rw [TreeDepth.exact_depth_le_one_iff fanOutPositive branchingLarge]

/-- With at most one level the plan is carried out as it was selected. -/
theorem refinesPlan_of_atMostOneLevel
    {treeDepth : TreeDepth}
    {platform : Platform}
    {self : CfpCoordinator}
    {request : CoordinatorFanOutRequest}
    {plan : TopologyPlan}
    {response : FanOutResponse}
    (selected :
      selectTopology treeDepth request.argsList.length
        request.selectorOptions = .ok plan)
    (ran : runMany treeDepth platform self request = .ok response)
    (shallow :
      request.selectorOptions.atMostOneLevel treeDepth
        request.argsList.length) :
    RefinesPlan platform plan response.activity := by
  have realized := runMany_realizes selected ran
  obtain ⟨branchingInRange, fanOutInRange, shape⟩ :=
    selectTopology_cases selected
  rcases shape with ⟨_, rfl, _⟩ | ⟨_, rfl⟩ | ⟨isTree, rfl⟩
  · refine ⟨realized, ?_, fun _ => .zero⟩
    intro levels chain
    refine levels_le_zero ?_ chain
    rintro inner ⟨_, _, _, member, _, _⟩
    obtain ⟨_, _, shape⟩ := realized.2 _ member
    cases shape
  · refine ⟨realized, ?_, fun _ => .zero⟩
    intro levels chain
    refine levels_le_zero ?_ chain
    intro inner
    exact @not_delegates_of_realizes_hybrid platform _ _ _ realized
  · have planShape :
        buildTreePlan treeDepth request.argsList.length
            request.selectorOptions.branching
            request.selectorOptions.fanOutCap =
          executedPlan request.selectorOptions.branching 1
            request.argsList.length := by
      have capacity :
          request.argsList.length ≤
            request.selectorOptions.fanOutCap *
              request.selectorOptions.branching ^
                treeDepth.depth request.argsList.length
                  request.selectorOptions.fanOutCap
                  request.selectorOptions.branching :=
        treeDepth.covers fanOutInRange.1 (by omega)
      have oneLevel :
          treeDepth.depth request.argsList.length
              request.selectorOptions.fanOutCap
              request.selectorOptions.branching = 1 :=
        Nat.le_antisymm (shallow isTree) (treeDepth.one_le _ _ _)
      rw [oneLevel] at capacity
      rw [buildTreePlan, oneLevel, executedPlan_one capacity]
    rw [planShape] at realized ⊢
    refine {
      realizes := realized
      noDeeper := fun _ chain =>
        levels_le_of_realizes_executedPlan realized chain
      everyLevel := fun reliable =>
        levels_of_realizes_executedPlan reliable (by omega) isTree.1
          realized
    }

/-- A tree of more levels loses one of them on every reliable platform. -/
theorem not_refinesPlan_of_deeper
    {treeDepth : TreeDepth}
    {platform : Platform}
    (reliable : platform.Reliable)
    {self : CfpCoordinator}
    {request : CoordinatorFanOutRequest}
    {plan : TopologyPlan}
    {response : FanOutResponse}
    (selected :
      selectTopology treeDepth request.argsList.length
        request.selectorOptions = .ok plan)
    (ran : runMany treeDepth platform self request = .ok response)
    (deeper :
      ¬ request.selectorOptions.atMostOneLevel treeDepth
        request.argsList.length) :
    ¬ RefinesPlan platform plan response.activity := by
  intro refined
  have realized := runMany_realizes selected ran
  have everyLevel := refined.everyLevel reliable
  unfold SelectorOptions.atMostOneLevel at deeper
  push Not at deeper
  obtain ⟨isTree, deep⟩ := deeper
  obtain ⟨_, _, shape⟩ := selectTopology_cases selected
  rcases shape with ⟨notTree, _, _⟩ | ⟨notTree, _⟩ | ⟨_, rfl⟩
  · exact notTree isTree
  · exact notTree isTree
  · obtain ⟨children, shape⟩ :=
      buildTreePlan_eq_tree treeDepth request.argsList.length
        request.selectorOptions.branching
        request.selectorOptions.fanOutCap
    rw [shape] at realized everyLevel
    have fewer :=
      levels_le_of_realizes_executedPlan realized everyLevel
    simp only [TopologyPlan.subCoordLevels] at fewer
    omega

/--
Execution refines the plan, on every platform, exactly when the plan has at
most one level of sub-coordinators.  With exact logarithms it has if one level
has room for the jobs.
-/
theorem runMany_refinesPlan_iff
    {treeDepth : TreeDepth}
    {self : CfpCoordinator}
    {request : CoordinatorFanOutRequest}
    {plan : TopologyPlan}
    (selected :
      selectTopology treeDepth request.argsList.length
        request.selectorOptions = .ok plan)
    (leafBound : self.hasBinding "CfpWorkerDO")
    (subCoordBound : self.hasBinding "CfpSubCoord") :
    ((∀ platform response,
        runMany treeDepth platform self request = .ok response →
        RefinesPlan platform plan response.activity) ↔
      request.selectorOptions.atMostOneLevel treeDepth
        request.argsList.length) ∧
      (request.selectorOptions.atMostOneLevel .exact
          request.argsList.length ↔
        (request.selectorOptions.selectsTree request.argsList.length →
          request.argsList.length ≤
            request.selectorOptions.fanOutCap *
              request.selectorOptions.branching)) := by
  refine ⟨⟨?_, ?_⟩, ?_⟩
  · intro refined
    by_contra deeper
    obtain ⟨response, ran⟩ :=
      runMany_answers .ideal selected leafBound subCoordBound
    exact
      not_refinesPlan_of_deeper Platform.reliable_ideal selected ran deeper
        (refined _ _ ran)
  · intro shallow platform response ran
    exact refinesPlan_of_atMostOneLevel selected ran shallow
  · obtain ⟨branchingInRange, fanOutInRange, _⟩ :=
      selectTopology_cases selected
    exact atMostOneLevel_exact_iff fanOutInRange.1 (by omega)

/-- Sixteen jobs over four branches are carried out as planned. -/
theorem runMany_refinesPlan_sixteen :
    ∃ response,
      runMany .exact .ideal .configured (.overFour 16) = .ok response ∧
        RefinesPlan .ideal (.fanOut (buildTreePlanAt 4 4 1 16))
          response.activity := by
  have selected :
      selectTopology .exact
          (CoordinatorFanOutRequest.overFour 16).argsList.length
          (CoordinatorFanOutRequest.overFour 16).selectorOptions =
        .ok (.fanOut (buildTreePlanAt 4 4 1 16)) :=
    rfl
  obtain ⟨leafBound, subCoordBound⟩ := CfpCoordinator.hasBinding_configured
  obtain ⟨response, ran⟩ :=
    runMany_answers .ideal selected leafBound subCoordBound
  have refines :=
    (runMany_refinesPlan_iff selected leafBound subCoordBound).1.mpr
      (fun _ => by decide)
  exact ⟨response, ran, refines _ _ ran⟩

/-- Seventeen jobs are planned over two levels and carried out over one. -/
theorem runMany_not_refinesPlan_seventeen :
    ∃ response,
      runMany .exact .ideal .configured (.overFour 17) = .ok response ∧
        ¬ RefinesPlan .ideal (.fanOut (buildTreePlanAt 4 4 2 17))
          response.activity := by
  have selected :
      selectTopology .exact
          (CoordinatorFanOutRequest.overFour 17).argsList.length
          (CoordinatorFanOutRequest.overFour 17).selectorOptions =
        .ok (.fanOut (buildTreePlanAt 4 4 2 17)) :=
    rfl
  obtain ⟨leafBound, subCoordBound⟩ := CfpCoordinator.hasBinding_configured
  obtain ⟨response, ran⟩ :=
    runMany_answers .ideal selected leafBound subCoordBound
  refine ⟨response, ran, ?_⟩
  apply not_refinesPlan_of_deeper Platform.reliable_ideal selected ran
  intro shallow
  have oneLevel := shallow (by decide)
  revert oneLevel
  decide

end CloudflareParallel
