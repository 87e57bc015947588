import CloudflareParallel.FanOutExecution

namespace CloudflareParallel

/-!
# The per-coordinator fan-out cap

`maxFanOut` is documented as the cap on the RPCs of one coordinator.  What a
coordinator sends is the width of the plan node it carries out, so the cap is a
question about the widths of the executed plan.
-/

/-- No coordinator run below a log makes more dispatch RPCs than the cap. -/
def WithinCap
    (maxFanOut : Nat)
    (log : List Activity) : Prop :=
  ∀ run, CoordinatorRun run log → rpcCount run ≤ maxFanOut

/-- Nodes within the cap make runs within the cap. -/
theorem withinCap_of_width_le
    {platform : Platform}
    {plan : FanOutPlan}
    {log : List Activity}
    {maxFanOut : Nat}
    (realized : Realizes platform plan log)
    (narrow : ∀ node ∈ plan.nodes, node.width ≤ maxFanOut) :
    WithinCap maxFanOut log := by
  intro run below
  obtain ⟨node, member, nodeRealized⟩ := realized.exists_node below
  rw [nodeRealized.rpcCount_eq]
  exact narrow node member

/-- On a reliable platform every node is run, so every width shows. -/
theorem width_le_of_withinCap
    {platform : Platform}
    (reliable : platform.Reliable)
    {plan : FanOutPlan}
    {log : List Activity}
    {maxFanOut : Nat}
    (realized : Realizes platform plan log)
    (capped : WithinCap maxFanOut log) :
    ∀ node ∈ plan.nodes, node.width ≤ maxFanOut := by
  intro node member
  obtain ⟨run, below, nodeRealized⟩ := realized.exists_run reliable member
  rw [← nodeRealized.rpcCount_eq]
  exact capped run below

/-- Nodes of an executed tree: the root and the nodes of its children. -/
theorem forall_nodes_executedPlan
    {branchingFactor levels size : Nat}
    {holds : FanOutPlan → Prop} :
    (∀ node ∈ (executedPlan branchingFactor (levels + 1) size).nodes,
        holds node) ↔
      holds (executedPlan branchingFactor (levels + 1) size) ∧
        ∀ slice ∈ BalancedDivision.usedParts size branchingFactor,
          ∀ node ∈ (executedPlan branchingFactor levels slice).nodes,
            holds node := by
  simp only [executedPlan, FanOutPlan.nodes,
    FanOutPlan.nodesOfChildren_eq_flatMap, List.forall_mem_cons,
    List.flatMap_map, List.mem_flatMap, usedChildren_eq_usedParts]
  refine and_congr_right fun _ => ⟨?_, ?_⟩
  · intro all slice sliceMember node member
    exact all node ⟨slice, sliceMember, member⟩
  · rintro all node ⟨slice, sliceMember, member⟩
    exact all slice sliceMember node member

/-- A tree node makes one call per used slot. -/
theorem width_executedPlan_succ
    (branchingFactor levels size : Nat) :
    (executedPlan branchingFactor (levels + 1) size).width =
      (BalancedDivision.usedParts size branchingFactor).length := by
  rw [executedPlan, FanOutPlan.width, List.length_map,
    usedChildren_eq_usedParts]

/--
The nodes of an executed plan are within the cap when all jobs fit one
coordinator, or when neither the branching nor the bottom tier exceeds it; by
induction on the levels, with the capacity of a subtree as invariant.
-/
theorem width_executedPlan_le_iff
    {branchingFactor levels size maxFanOut : Nat}
    (branchingPositive : 0 < branchingFactor) :
    (∀ node ∈ (executedPlan branchingFactor levels size).nodes,
        node.width ≤ maxFanOut) ↔
      size ≤ maxFanOut ∨
        (branchingFactor ≤ maxFanOut ∧
          size ≤ maxFanOut * branchingFactor ^ levels) := by
  induction levels generalizing size with
  | zero =>
      simp [executedPlan, FanOutPlan.nodes, FanOutPlan.width,
        buildHybridPlan]
  | succ levels inductionHypothesis =>
      rw [forall_nodes_executedPlan, width_executedPlan_succ]
      simp only [inductionHypothesis]
      constructor
      · rintro ⟨rootNarrow, slicesFit⟩
        by_cases small : size ≤ maxFanOut
        · exact .inl small
        · have allUsed :=
            BalancedDivision.length_usedParts_of_lt branchingPositive
              (rootNarrow.trans_lt (Nat.lt_of_not_le small))
          have sliceBounded :
              ∀ slice ∈ BalancedDivision.usedParts size branchingFactor,
                slice ≤ maxFanOut * branchingFactor ^ levels := by
            intro slice member
            rcases slicesFit slice member with fits | ⟨_, fits⟩
            · exact fits.trans
                (Nat.le_mul_of_pos_right _
                  (Nat.pow_pos branchingPositive))
            · exact fits
          have whole :=
            BalancedDivision.total_le_of_forall_usedParts
              branchingPositive sliceBounded
          rw [allUsed] at rootNarrow whole
          refine .inr ⟨rootNarrow, ?_⟩
          rw [Nat.pow_succ, ← Nat.mul_assoc, Nat.mul_comm]
          exact whole
      · rintro (small | ⟨narrow, fits⟩)
        · refine ⟨?_, ?_⟩
          · exact
              (BalancedDivision.length_usedParts_le_total
                branchingPositive).trans small
          · intro slice member
            have sliceLe : slice ≤ size :=
              BalancedDivision.le_of_mem_parts
                (Nat.le_mul_of_pos_right _ branchingPositive)
                (BalancedDivision.mem_parts_of_mem_usedParts member)
            exact .inl (sliceLe.trans small)
        · refine ⟨?_, ?_⟩
          · exact
              (BalancedDivision.length_usedParts_le _ _).trans narrow
          · intro slice member
            rw [Nat.pow_succ, ← Nat.mul_assoc] at fits
            exact .inr ⟨narrow,
              BalancedDivision.le_of_mem_parts fits
                (BalancedDivision.mem_parts_of_mem_usedParts member)⟩

/-- The requests whose every coordinator stays within the cap. -/
def SelectorOptions.fitsFanOutCap
    (opts : SelectorOptions)
    (treeDepth : TreeDepth)
    (size : Nat) : Prop :=
  size ≤ opts.fanOutCap ∨
    (opts.selectsTree size ∧
      opts.branching ≤ opts.fanOutCap ∧
      size ≤
        opts.fanOutCap *
          opts.branching ^
            max 1
              (treeDepth.depth size opts.fanOutCap opts.branching - 1))

instance
    (opts : SelectorOptions)
    (treeDepth : TreeDepth)
    (size : Nat) :
    Decidable (opts.fitsFanOutCap treeDepth size) :=
  inferInstanceAs (Decidable (_ ∨ _))

/--
With exact logarithms the last condition leaves single-level trees: the bottom
tier of a deeper one always carries more than `maxFanOut` jobs.
-/
theorem fitsFanOutCap_exact_iff
    {opts : SelectorOptions}
    {size : Nat}
    (fanOutPositive : 1 ≤ opts.fanOutCap)
    (branchingLarge : 2 ≤ opts.branching) :
    opts.fitsFanOutCap .exact size ↔
      size ≤ opts.fanOutCap ∨
        (opts.selectsTree size ∧
          opts.branching ≤ opts.fanOutCap ∧
          size ≤ opts.fanOutCap * opts.branching) := by
  unfold SelectorOptions.fitsFanOutCap
  refine or_congr_right (and_congr_right fun _ => and_congr_right fun _ => ?_)
  by_cases shallow :
      TreeDepth.exact.depth size opts.fanOutCap opts.branching ≤ 1
  · rw [Nat.max_eq_left (by omega), Nat.pow_one]
  · have minimal :=
      TreeDepth.exact_depth_minimal fanOutPositive
        (Nat.lt_of_not_le shallow)
    have tooLarge :=
      (TreeDepth.exact_depth_le_one_iff fanOutPositive
        branchingLarge).not.mp shallow
    rw [Nat.max_eq_right (by omega)]
    exact iff_of_false (by omega) tooLarge

/-- An object that only runs jobs itself makes no dispatch RPC. -/
theorem withinCap_of_executions
    {maxFanOut : Nat}
    {log : List Activity}
    (executions : ∀ entry ∈ log, ∃ path call, entry = .execute path call) :
    WithinCap maxFanOut log := by
  intro run below
  cases below with
  | root =>
      have noRpc : rpcCount log = 0 := by
        rw [rpcCount, List.countP_eq_zero]
        intro entry member
        obtain ⟨_, _, rfl⟩ := executions entry member
        simp [Activity.isRpc]
      omega
  | nested delegates =>
      obtain ⟨_, _, _, member, _, _⟩ := delegates
      obtain ⟨_, _, shape⟩ := executions _ member
      cases shape

/-- The widths of the executed topology are those of the condition. -/
theorem width_executedTopology_le_iff
    {treeDepth : TreeDepth}
    {size : Nat}
    {opts : SelectorOptions}
    {plan : FanOutPlan}
    (selected :
      selectTopology treeDepth size opts = .ok (.fanOut plan)) :
    ∃ executed,
      executedTopology (.fanOut plan) = .fanOut executed ∧
        ((∀ node ∈ executed.nodes, node.width ≤ opts.fanOutCap) ↔
          opts.fitsFanOutCap treeDepth size) := by
  obtain ⟨branchingInRange, _, shape⟩ := selectTopology_cases selected
  unfold SelectorOptions.fitsFanOutCap
  rcases shape with ⟨_, shape, _⟩ | ⟨notTree, shape⟩ | ⟨isTree, shape⟩
  · cases shape
  · cases shape
    refine ⟨_, rfl, ?_⟩
    simp [FanOutPlan.nodes, FanOutPlan.width, buildHybridPlan, notTree]
  · cases shape
    obtain ⟨children, shape⟩ :=
      buildTreePlan_eq_tree treeDepth size opts.branching opts.fanOutCap
    rw [shape]
    refine ⟨_, rfl, ?_⟩
    rw [width_executedPlan_le_iff (by omega)]
    generalize treeDepth.depth size opts.fanOutCap opts.branching = depth
    have levels : depth - 1 - 1 + 1 = max 1 (depth - 1) := by omega
    rw [levels]
    simp [isTree]

/-- Within the condition no coordinator exceeds the cap on any platform. -/
theorem withinCap_of_fits
    {treeDepth : TreeDepth}
    {platform : Platform}
    {self : CfpCoordinator}
    {request : CoordinatorFanOutRequest}
    {plan : TopologyPlan}
    {response : FanOutResponse}
    (selected :
      selectTopology treeDepth request.argsList.length
        request.selectorOptions = .ok plan)
    (ran : runMany treeDepth platform self request = .ok response)
    (fits :
      request.selectorOptions.fitsFanOutCap treeDepth
        request.argsList.length) :
    WithinCap request.selectorOptions.fanOutCap response.activity := by
  have realized := runMany_realizes selected ran
  cases plan with
  | inDo size =>
      exact withinCap_of_executions realized.2
  | fanOut plan =>
      obtain ⟨executed, shape, narrow⟩ :=
        width_executedTopology_le_iff selected
      rw [shape] at realized
      exact withinCap_of_width_le realized (narrow.mpr fits)

/-- On a reliable platform the condition is needed. -/
theorem fits_of_withinCap
    {treeDepth : TreeDepth}
    {platform : Platform}
    (reliable : platform.Reliable)
    {self : CfpCoordinator}
    {request : CoordinatorFanOutRequest}
    {plan : TopologyPlan}
    {response : FanOutResponse}
    (selected :
      selectTopology treeDepth request.argsList.length
        request.selectorOptions = .ok plan)
    (ran : runMany treeDepth platform self request = .ok response)
    (capped :
      WithinCap request.selectorOptions.fanOutCap response.activity) :
    request.selectorOptions.fitsFanOutCap treeDepth
      request.argsList.length := by
  cases plan with
  | inDo size =>
      obtain ⟨_, fanOutInRange, shape⟩ := selectTopology_cases selected
      rcases shape with ⟨_, _, small⟩ | ⟨_, shape⟩ | ⟨_, shape⟩
      · exact .inl (small.trans fanOutInRange.1)
      · cases shape
      · cases shape
  | fanOut plan =>
      obtain ⟨executed, shape, narrow⟩ :=
        width_executedTopology_le_iff selected
      have realized := runMany_realizes selected ran
      rw [shape] at realized
      exact narrow.mp (width_le_of_withinCap reliable realized capped)

/--
The per-coordinator fan-out cap holds, on every platform, exactly for the
requests whose jobs fit one coordinator and for the trees whose branching
factor is within the cap and whose bottom tier is, one level above the planned
one.  With exact logarithms these are the trees of one level.
-/
theorem runMany_withinCap_iff
    {treeDepth : TreeDepth}
    {self : CfpCoordinator}
    {request : CoordinatorFanOutRequest}
    {plan : TopologyPlan}
    (selected :
      selectTopology treeDepth request.argsList.length
        request.selectorOptions = .ok plan)
    (leafBound : self.hasBinding "CfpWorkerDO")
    (subCoordBound : self.hasBinding "CfpSubCoord") :
    ((∀ platform response,
        runMany treeDepth platform self request = .ok response →
        WithinCap request.selectorOptions.fanOutCap response.activity) ↔
      request.selectorOptions.fitsFanOutCap treeDepth
        request.argsList.length) ∧
      (request.selectorOptions.fitsFanOutCap .exact request.argsList.length ↔
        request.argsList.length ≤ request.selectorOptions.fanOutCap ∨
          (request.selectorOptions.selectsTree request.argsList.length ∧
            request.selectorOptions.branching ≤
              request.selectorOptions.fanOutCap ∧
            request.argsList.length ≤
              request.selectorOptions.fanOutCap *
                request.selectorOptions.branching)) := by
  refine ⟨⟨?_, ?_⟩, ?_⟩
  · intro capped
    obtain ⟨response, ran⟩ :=
      runMany_answers .ideal selected leafBound subCoordBound
    exact fits_of_withinCap Platform.reliable_ideal selected ran
      (capped _ _ ran)
  · intro fits platform response ran
    exact withinCap_of_fits selected ran fits
  · obtain ⟨branchingInRange, fanOutInRange, _⟩ :=
      selectTopology_cases selected
    exact fitsFanOutCap_exact_iff fanOutInRange.1 (by omega)

/-- Sixteen jobs over four branches stay within a cap of four. -/
theorem runMany_withinCap_sixteen :
    ∃ response,
      runMany .exact .ideal .configured (.overFour 16) = .ok response ∧
        WithinCap 4 response.activity := by
  have selected :
      selectTopology .exact
          (CoordinatorFanOutRequest.overFour 16).argsList.length
          (CoordinatorFanOutRequest.overFour 16).selectorOptions =
        .ok (.fanOut (buildTreePlanAt 4 4 1 16)) :=
    rfl
  obtain ⟨leafBound, subCoordBound⟩ := CfpCoordinator.hasBinding_configured
  obtain ⟨response, ran⟩ :=
    runMany_answers .ideal selected leafBound subCoordBound
  have capped :=
    (runMany_withinCap_iff selected leafBound subCoordBound).1.mpr
      (by decide)
  exact ⟨response, ran, capped _ _ ran⟩

/--
One job more makes a tree of depth two, of which only one level is carried
out: a sub-coordinator calls five leaves under a cap of four.
-/
theorem runMany_exceeds_cap_seventeen :
    ∃ response,
      runMany .exact .ideal .configured (.overFour 17) = .ok response ∧
        ¬ WithinCap 4 response.activity := by
  have selected :
      selectTopology .exact
          (CoordinatorFanOutRequest.overFour 17).argsList.length
          (CoordinatorFanOutRequest.overFour 17).selectorOptions =
        .ok (.fanOut (buildTreePlanAt 4 4 2 17)) :=
    rfl
  obtain ⟨leafBound, subCoordBound⟩ := CfpCoordinator.hasBinding_configured
  obtain ⟨response, ran⟩ :=
    runMany_answers .ideal selected leafBound subCoordBound
  refine ⟨response, ran, ?_⟩
  intro capped
  have fits :=
    fits_of_withinCap Platform.reliable_ideal selected ran capped
  revert fits
  decide

end CloudflareParallel
