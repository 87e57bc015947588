import CloudflareParallel.FanOutAlignment

namespace CloudflareParallel

open ListSlices

/-!
# The plan that a fan-out carries out

`Realizes` compares a plan with the activity of a coordinator: a hybrid plan is
one leaf call per entry of its shape, and a tree is one sub-coordinator call
per child, whose target realizes the child.  The coordinators pass on a number
instead of the plan; `executedPlan` is the plan which that number describes,
and every run realizes it.
-/

/-- An entry is one leaf call that carries a given number of jobs. -/
def LeafCall (jobs : Nat) (entry : Activity) : Prop :=
  ∃ leafName attempts,
    entry = .runBatch leafName attempts ∧
      attempts ≠ [] ∧
      ∀ attempt ∈ attempts, attempt.request.argsList.length = jobs

/--
An entry is one sub-coordinator call that carries a given number of jobs; a
delivered attempt is carried out, and whatever was carried out is as `below`
says.
-/
def SubCoordCall
    (platform : Platform)
    (jobs : Nat)
    (below : List Activity → Prop)
    (entry : Activity) : Prop :=
  ∃ subName attempts,
    entry = .dispatch subName attempts ∧
      attempts ≠ [] ∧
      ∀ attempt ∈ attempts,
        attempt.request.argsList.length = jobs ∧
          (platform.transport attempt.path = .delivered →
            ∃ inner, attempt.reached = some inner) ∧
          ∀ inner, attempt.reached = some inner → below inner

mutual

/-- The activity is that of a coordinator which carries out the plan. -/
def Realizes
    (platform : Platform) :
    FanOutPlan → List Activity → Prop
  | .hybrid plan, log => List.Forall₂ LeafCall plan.leafShape log
  | .tree _ _ _ children, log => RealizesChildren platform children log

/-- The activity is one call per child, in order. -/
def RealizesChildren
    (platform : Platform) :
    List FanOutPlan → List Activity → Prop
  | [], log => log = []
  | child :: rest, log =>
      ∃ entry later,
        log = entry :: later ∧
          SubCoordCall platform child.size (Realizes platform child) entry ∧
          RealizesChildren platform rest later

end

/-- A tree is realized child by child. -/
theorem realizesChildren_iff
    {platform : Platform}
    {children : List FanOutPlan}
    {log : List Activity} :
    RealizesChildren platform children log ↔
      List.Forall₂
        (fun child entry =>
          SubCoordCall platform child.size (Realizes platform child) entry)
        children log := by
  induction children generalizing log with
  | nil =>
      rw [RealizesChildren, List.forall₂_nil_left_iff]
  | cons child rest inductionHypothesis =>
      rw [RealizesChildren, List.forall₂_cons_left_iff]
      constructor
      · rintro ⟨entry, later, rfl, called, realized⟩
        exact ⟨entry, later, called, inductionHypothesis.mp realized, rfl⟩
      · rintro ⟨entry, later, called, realized, rfl⟩
        exact ⟨entry, later, rfl, called, inductionHypothesis.mpr realized⟩

/-- Induction over a plan, with the hypothesis for every child of a tree. -/
theorem FanOutPlan.induction
    {holds : FanOutPlan → Prop}
    (hybrid : ∀ plan, holds (.hybrid plan))
    (tree :
      ∀ size branchingFactor depth children,
        (∀ child ∈ children, holds child) →
        holds (.tree size branchingFactor depth children)) :
    ∀ plan, holds plan
  | .hybrid plan => hybrid plan
  | .tree size branchingFactor depth children =>
      tree size branchingFactor depth children fun child _ =>
        FanOutPlan.induction hybrid tree child

/-- Calls that a plan node makes itself. -/
def FanOutPlan.width : FanOutPlan → Nat
  | .hybrid plan => plan.leafShape.length
  | .tree _ _ _ children => children.length

/-- The dispatch RPCs of one coordinator run. -/
def rpcCount (log : List Activity) : Nat :=
  log.countP Activity.isRpc

/-- Calls matched with a shape are counted by the shape. -/
private theorem rpcCount_of_forall₂
    {related : γ → Activity → Prop}
    {shape : List γ}
    {log : List Activity}
    (matched : List.Forall₂ related shape log)
    (isRpc : ∀ {item entry}, related item entry → entry.isRpc) :
    rpcCount log = shape.length := by
  rw [matched.length_eq, rpcCount, List.countP_eq_length]
  intro entry member
  obtain ⟨_, _, call⟩ := exists_left_of_mem matched member
  exact isRpc call

/-- A run that realizes a plan node makes exactly its calls. -/
theorem Realizes.rpcCount_eq
    {platform : Platform}
    {plan : FanOutPlan}
    {log : List Activity}
    (realized : Realizes platform plan log) :
    rpcCount log = plan.width := by
  cases plan with
  | hybrid plan =>
      rw [Realizes] at realized
      refine rpcCount_of_forall₂ realized ?_
      rintro jobs _ ⟨leafName, attempts, rfl, _⟩
      rfl
  | tree size branchingFactor depth children =>
      rw [Realizes, realizesChildren_iff] at realized
      refine rpcCount_of_forall₂ realized ?_
      rintro child _ ⟨subName, attempts, rfl, _⟩
      rfl

/-- A sub-coordinator called from one run did what `inner` records. -/
def Delegates (log inner : List Activity) : Prop :=
  ∃ subName attempts attempt,
    .dispatch subName attempts ∈ log ∧
      attempt ∈ attempts ∧
      attempt.reached = some inner

/-- A run of the coordinator itself, or of a sub-coordinator below it. -/
inductive CoordinatorRun (run : List Activity) : List Activity → Prop where
  | root : CoordinatorRun run run
  | nested {log inner : List Activity} :
      Delegates log inner →
      CoordinatorRun run inner →
      CoordinatorRun run log

/-- A hybrid plan delegates nothing. -/
theorem not_delegates_of_realizes_hybrid
    {platform : Platform}
    {plan : HybridPlan}
    {log inner : List Activity}
    (realized : Realizes platform (.hybrid plan) log) :
    ¬ Delegates log inner := by
  rintro ⟨subName, attempts, attempt, member, _, _⟩
  rw [Realizes] at realized
  obtain ⟨_, _, leafName, leafAttempts, shape, _⟩ :=
    exists_left_of_mem realized member
  cases shape

/-- A sub-coordinator called from a tree carries out one of its children. -/
theorem realizes_child_of_delegates
    {platform : Platform}
    {size branchingFactor depth : Nat}
    {children : List FanOutPlan}
    {log inner : List Activity}
    (realized :
      Realizes platform (.tree size branchingFactor depth children) log)
    (delegates : Delegates log inner) :
    ∃ child ∈ children, Realizes platform child inner := by
  obtain ⟨subName, attempts, attempt, member, attemptMember, reached⟩ :=
    delegates
  rw [Realizes, realizesChildren_iff] at realized
  obtain ⟨child, childMember, _, _, shape, _, calls⟩ :=
    exists_left_of_mem realized member
  cases shape
  exact ⟨child, childMember, (calls attempt attemptMember).2.2 inner reached⟩

/-- On a reliable platform every child of a tree is carried out. -/
theorem delegates_of_mem_children
    {platform : Platform}
    (reliable : platform.Reliable)
    {size branchingFactor depth : Nat}
    {children : List FanOutPlan}
    {child : FanOutPlan}
    {log : List Activity}
    (realized :
      Realizes platform (.tree size branchingFactor depth children) log)
    (childMember : child ∈ children) :
    ∃ inner, Delegates log inner ∧ Realizes platform child inner := by
  rw [Realizes, realizesChildren_iff] at realized
  obtain ⟨entry, member, subName, attempts, rfl, someAttempt, calls⟩ :=
    exists_right_of_mem realized childMember
  obtain ⟨attempt, attemptMember⟩ :=
    List.exists_mem_of_ne_nil attempts someAttempt
  obtain ⟨_, delivered, realizes⟩ := calls attempt attemptMember
  obtain ⟨inner, reached⟩ := delivered (reliable attempt.path)
  exact ⟨inner, ⟨subName, attempts, attempt, member, attemptMember, reached⟩,
    realizes inner reached⟩

/-- Every coordinator run below a realized plan realizes a node of it. -/
theorem Realizes.exists_node
    {platform : Platform}
    {plan : FanOutPlan}
    {log run : List Activity}
    (realized : Realizes platform plan log)
    (below : CoordinatorRun run log) :
    ∃ node ∈ plan.nodes, Realizes platform node run := by
  induction below generalizing plan with
  | root =>
      exact ⟨plan, plan.self_mem_nodes, realized⟩
  | nested delegates _ inductionHypothesis =>
      cases plan with
      | hybrid plan =>
          exact (not_delegates_of_realizes_hybrid realized delegates).elim
      | tree size branchingFactor depth children =>
          obtain ⟨child, childMember, childRealized⟩ :=
            realizes_child_of_delegates realized delegates
          obtain ⟨node, nodeMember, nodeRealized⟩ :=
            inductionHypothesis childRealized
          refine ⟨node, ?_, nodeRealized⟩
          rw [FanOutPlan.nodes, FanOutPlan.nodesOfChildren_eq_flatMap]
          exact List.mem_cons_of_mem _
            (List.mem_flatMap.mpr ⟨child, childMember, nodeMember⟩)

/-- On a reliable platform every node of a realized plan is carried out. -/
theorem Realizes.exists_run
    {platform : Platform}
    (reliable : platform.Reliable)
    {plan node : FanOutPlan}
    {log : List Activity}
    (realized : Realizes platform plan log)
    (member : node ∈ plan.nodes) :
    ∃ run, CoordinatorRun run log ∧ Realizes platform node run := by
  induction plan using FanOutPlan.induction generalizing log with
  | hybrid plan =>
      rw [FanOutPlan.nodes, List.mem_singleton] at member
      exact ⟨log, .root, member ▸ realized⟩
  | tree size branchingFactor depth children inductionHypothesis =>
      rw [FanOutPlan.nodes, List.mem_cons] at member
      rcases member with isRoot | isBelow
      · exact ⟨log, .root, isRoot ▸ realized⟩
      · rw [FanOutPlan.nodesOfChildren_eq_flatMap] at isBelow
        obtain ⟨child, childMember, nodeMember⟩ :=
          List.mem_flatMap.mp isBelow
        obtain ⟨inner, delegates, childRealized⟩ :=
          delegates_of_mem_children reliable realized childMember
        obtain ⟨run, runBelow, nodeRealized⟩ :=
          inductionHypothesis child childMember childRealized nodeMember
        exact ⟨run, .nested delegates runBelow, nodeRealized⟩

/-- What `forEachSlice` does is shaped by the slice sizes, in order. -/
theorem forEachSlice_forall₂
    {related : γ → Activity → Prop}
    {shape : Nat → List γ}
    {jobs : List (List JsValue)}
    {childSizes : List Nat}
    {cancelStream : Option CancelStream}
    {child :
      Nat → Slice (List JsValue) → Option CancelStream → Dispatched}
    (covered : childSizes.sum = jobs.length)
    (skipped : shape 0 = [])
    (shaped :
      ∀ index slice stream,
        (cut jobs 0 childSizes)[index]? = some slice →
        slice.items ≠ [] →
        List.Forall₂ related (shape slice.items.length)
          (child index slice stream).activity) :
    List.Forall₂ related (childSizes.flatMap shape)
      (forEachSlice jobs childSizes cancelStream child).activity := by
  obtain ⟨run, ranAs, ran⟩ :=
    forEachSlice_eq_join jobs childSizes cancelStream child
  rw [ranAs]
  simp only [Dispatched.join, map_mapIdx]
  apply forall₂_flatten_mapIdx_cut
  · intro index slice found
    rcases ran index slice with ⟨noItems, nothing⟩ | ⟨stream, someItems, ranChild⟩
    · rw [nothing, noItems, List.length_nil, skipped]
      exact .nil
    · rw [ranChild]
      exact shaped index slice stream found someItems
  · omega

/-- A retried leaf RPC is one leaf call, whatever its attempts come to. -/
theorem leafCall_runBatchWithRetry
    {platform : Platform}
    {path : Path}
    {leafName : String}
    {buildBatch : Option CancelStream → RunBatchRequest}
    {cancelStream : Option CancelStream}
    {jobs : Nat}
    (carries : ∀ stream, (buildBatch stream).argsList.length = jobs) :
    LeafCall jobs
      (.runBatch leafName
        (runBatchWithRetry platform path leafName buildBatch
          cancelStream).2) := by
  refine ⟨leafName, _, rfl, ?_, ?_⟩
  · exact List.ne_nil_of_mem (first_mem_retryTransient _ _ _)
  · intro attempt member
    obtain ⟨made, rfl⟩ := mem_retryTransient member
    simp [carries]

/-- A retried sub-coordinator RPC is one sub-coordinator call. -/
theorem subCoordCall_retryTransient
    {platform : Platform}
    {jobs remaining attempt : Nat}
    {below : List Activity → Prop}
    {subName : String}
    {call : Nat → RpcOutcome × Attempt DispatchTreeRequest Activity}
    {path : Nat → Path}
    {request : Nat → DispatchTreeRequest}
    {run : Nat → Dispatched}
    (calls :
      ∀ made,
        call made = platform.call (path made) (request made) (run made))
    (carries : ∀ made, (request made).argsList.length = jobs)
    (realizes : ∀ made, below (run made).activity) :
    SubCoordCall platform jobs below
      (.dispatch subName (retryTransient call remaining attempt).2) := by
  refine ⟨subName, _, rfl, ?_, ?_⟩
  · exact List.ne_nil_of_mem (first_mem_retryTransient _ _ _)
  · intro record member
    obtain ⟨made, rfl⟩ := mem_retryTransient member
    rw [calls]
    refine ⟨?_, ?_, ?_⟩
    · simp [carries]
    · intro delivered
      rw [Platform.call_path] at delivered
      exact ⟨_, platform.call_delivered _ _ _ delivered⟩
    · intro inner reached
      rw [platform.call_reached _ _ _ reached]
      exact realizes made

/--
The plan carried out below a number of sub-coordinator levels: without any,
one leaf per job.
-/
def executedPlan
    (branchingFactor : Nat) :
    (levels size : Nat) → FanOutPlan
  | 0, size => .hybrid (buildHybridPlan size)
  | levels + 1, size =>
      .tree size branchingFactor (levels + 1)
        (((balancedFill size branchingFactor).filter (0 < ·)).map
          (executedPlan branchingFactor levels))

@[simp] theorem size_executedPlan
    (branchingFactor levels size : Nat) :
    (executedPlan branchingFactor levels size).size = size := by
  cases levels <;> rfl

/-- At `depth <= 1` a sub-coordinator calls one leaf per job. -/
theorem realizes_hybridLeaves
    {platform : Platform}
    {path : Path}
    {ownerId : String}
    {request : DispatchTreeRequest}
    {slotBase : Slice (List JsValue) → Nat}
    (covered : request.planChildSizes.sum = request.argsList.length) :
    Realizes platform (.hybrid (buildHybridPlan request.argsList.length))
      (forEachSlice request.argsList request.planChildSizes
        request.cancelStream
        fun i slice childStream =>
          dispatchHybridLeaf platform path ownerId request slice.items
            (slotBase slice) i childStream).activity := by
  rw [Realizes, buildHybridPlan, ← covered, ← flatMap_replicate]
  apply forEachSlice_forall₂ covered rfl
  intro index slice stream _ _
  simp only [dispatchHybridLeaf, Dispatched.join, map_mapIdx]
  apply forall₂_flatten_mapIdx_replicate
  intro i args
  exact .cons (leafCall_runBatchWithRetry fun _ => rfl) .nil

/--
A sub-coordinator carries out the plan of its depth: by induction on the depth,
where above `depth 1` its child sizes must be those of a balanced split.
-/
theorem dispatchOnEnv_realizes
    (platform : Platform)
    (depth : Nat)
    (path : Path)
    (ownerId : String)
    (request : DispatchTreeRequest)
    (branchingPositive : 0 < request.branchingFactor)
    (covered : request.planChildSizes.sum = request.argsList.length)
    (balanced :
      2 ≤ depth →
      request.planChildSizes.filter (0 < ·) =
        (balancedFill request.argsList.length
          request.branchingFactor).filter (0 < ·)) :
    Realizes platform
      (executedPlan request.branchingFactor (depth - 1)
        request.argsList.length)
      (dispatchOnEnv platform depth path ownerId request).activity := by
  induction depth generalizing path ownerId request with
  | zero =>
      exact realizes_hybridLeaves covered
  | succ depth inductionHypothesis =>
      cases depth with
      | zero =>
          exact realizes_hybridLeaves covered
      | succ depth =>
          have notBottom : ¬ depth + 1 + 1 ≤ 1 := by omega
          simp only [Nat.add_sub_cancel, executedPlan, Realizes,
            realizesChildren_iff]
          rw [← balanced (by omega), ← flatMap_nonempty]
          apply forEachSlice_forall₂ covered rfl
          intro index slice stream _ someItems
          have lengthPositive : slice.items.length ≠ 0 :=
            fun empty => someItems (List.length_eq_zero_iff.mp empty)
          simp only [lengthPositive, notBottom, ↓reduceIte]
          refine .cons ?_ .nil
          rw [size_executedPlan]
          refine subCoordCall_retryTransient (fun _ => rfl)
            (fun _ => rfl) ?_
          intro made
          have splitCovers :
              (balancedFill slice.items.length
                request.branchingFactor).sum = slice.items.length := by
            rw [balancedFill_eq_parts,
              BalancedDivision.sum_parts branchingPositive]
          exact inductionHypothesis _ _
            (deeperRequest request (depth + 1) slice.items
              (request.taskSlotBase.getD 0 + slice.offset)
              (if made = 0 then stream else none))
            branchingPositive splitCovers (fun _ => rfl)

/-- The hybrid shape is carried out as planned. -/
theorem dispatchHybrid_realizes
    {platform : Platform}
    {self : CfpCoordinator}
    {request : CoordinatorFanOutRequest}
    {dispatched : Dispatched}
    (ran :
      dispatchHybrid platform self
        (buildHybridPlan request.argsList.length) request =
          .ok dispatched) :
    Realizes platform (.hybrid (buildHybridPlan request.argsList.length))
      dispatched.activity := by
  rw [dispatchHybrid, if_pos (bound_of_dispatchHybrid ran)] at ran
  cases ran
  have unitSizes :
      ((buildHybridPlan request.argsList.length).leafShape.flatMap
          fun size => if size = 0 then [] else [size]) =
        (buildHybridPlan request.argsList.length).leafShape := by
    rw [flatMap_nonempty]
    simp [buildHybridPlan]
  rw [Realizes]
  refine
    (congrArg (fun shape => List.Forall₂ LeafCall shape _) unitSizes).mp ?_
  apply forEachSlice_forall₂ (by simp [buildHybridPlan]) rfl
  intro index slice stream _ someItems
  have lengthPositive : slice.items.length ≠ 0 :=
    fun empty => someItems (List.length_eq_zero_iff.mp empty)
  simp only [lengthPositive, ↓reduceIte]
  exact .cons (leafCall_runBatchWithRetry fun _ => rfl) .nil

/--
A tree is carried out one level short of its depth, because the first tier is
already told `depth - 1` and a sub-coordinator at `depth <= 1` recurses no more.
-/
theorem dispatchTree_realizes
    {platform : Platform}
    {self : CfpCoordinator}
    {maxFanOut size branchingFactor depth : Nat}
    {children : List FanOutPlan}
    {request : CoordinatorFanOutRequest}
    {dispatched : Dispatched}
    (branchingPositive : 0 < branchingFactor)
    (conserved :
      PlanConserved maxFanOut size
        (.tree size branchingFactor depth children))
    (childTrees :
      3 ≤ depth →
      ∀ child ∈ children,
        ∃ childSize childDepth grandchildren,
          child =
            .tree childSize branchingFactor childDepth grandchildren)
    (sameSize : size = request.argsList.length)
    (ran :
      dispatchTree platform self branchingFactor depth children request =
        .ok dispatched) :
    Realizes platform
      (executedPlan branchingFactor (depth - 1 - 1 + 1) size)
      dispatched.activity := by
  have covered :
      (children.map FanOutPlan.size).sum = request.argsList.length := by
    rw [← sameSize]
    exact sum_planSliceChildSizes conserved (FanOutPlan.self_mem_nodes _)
  have unclamped :
      children.map FanOutPlan.size =
        (balancedFill size branchingFactor).filter (0 < ·) :=
    (conserved.treeNode (FanOutPlan.self_mem_nodes _)).nothingClamped
  have noEmptyChild :
      (children.map FanOutPlan.size).filter (0 < ·) =
        (balancedFill size branchingFactor).filter (0 < ·) := by
    rw [unclamped]
    simp
  obtain ⟨subCoordBound, leafBound⟩ := bound_of_dispatchTree ran
  rw [dispatchTree, if_neg (not_not.mpr subCoordBound),
    if_neg (not_not.mpr leafBound)] at ran
  cases ran
  simp only [executedPlan, Realizes, realizesChildren_iff]
  rw [← noEmptyChild, ← flatMap_nonempty]
  apply forEachSlice_forall₂ covered rfl
  intro index slice stream found someItems
  have lengthPositive : slice.items.length ≠ 0 :=
    fun empty => someItems (List.length_eq_zero_iff.mp empty)
  have sizeFound :
      (children.map FanOutPlan.size)[index]? =
        some slice.items.length :=
    getElem?_sizes_of_cut (by omega) found
  rw [List.getElem?_map] at sizeFound
  obtain ⟨child, childFound, childSize⟩ :=
    Option.map_eq_some_iff.mp sizeFound
  have childMember : child ∈ children :=
    List.mem_of_getElem? childFound
  simp only [lengthPositive, ↓reduceIte]
  refine .cons ?_ .nil
  rw [size_executedPlan]
  refine subCoordCall_retryTransient (fun _ => rfl) (fun _ => rfl) ?_
  intro made
  refine dispatchOnEnv_realizes _ _ _ _ (treeRequest ..)
    branchingPositive ?_ ?_
  · simp only [treeRequest, childFound, Option.map_some,
      Option.getD_some]
    rw [← childSize]
    exact sum_planSliceChildSizes conserved
      (FanOutPlan.child_mem_nodes childMember)
  · intro deep
    simp only [treeRequest, childFound, Option.map_some,
      Option.getD_some] at deep ⊢
    obtain ⟨childSlice, childDepth, grandchildren, rfl⟩ :=
      childTrees (by omega) child childMember
    have childUnclamped :=
      (conserved.treeNode
        (FanOutPlan.child_mem_nodes childMember)).nothingClamped
    rw [← childSize]
    simp only [planSliceChildSizes, childUnclamped, FanOutPlan.size]
    simp

/-- The plan that is carried out when a given plan was selected. -/
def executedTopology : TopologyPlan → TopologyPlan
  | .inDo size => .inDo size
  | .fanOut (.hybrid plan) => .fanOut (.hybrid plan)
  | .fanOut (.tree size branchingFactor depth _) =>
      .fanOut (executedPlan branchingFactor (depth - 1 - 1 + 1) size)

/-- The activity carries out a topology plan; `in-do` makes no call at all. -/
def RealizesTopology
    (platform : Platform) :
    TopologyPlan → List Activity → Prop
  | .inDo size, log =>
      log.length = size ∧
        ∀ entry ∈ log, ∃ path call, entry = .execute path call
  | .fanOut plan, log => Realizes platform plan log

/-- Every answered request carried out the executed form of its plan. -/
theorem runMany_realizes
    {treeDepth : TreeDepth}
    {platform : Platform}
    {self : CfpCoordinator}
    {request : CoordinatorFanOutRequest}
    {plan : TopologyPlan}
    {response : FanOutResponse}
    (selected :
      selectTopology treeDepth request.argsList.length
        request.selectorOptions = .ok plan)
    (ran : runMany treeDepth platform self request = .ok response) :
    RealizesTopology platform (executedTopology plan)
      response.activity := by
  obtain ⟨branchingInRange, _, shape⟩ := selectTopology_cases selected
  rcases runMany_cases ran with
    ⟨noJobs, -, nothing⟩ |
      ⟨_, dispatched, someJob, isSelected, dispatch, -, activity⟩
  · rw [noJobs] at shape
    rw [nothing]
    rcases shape with ⟨_, inDo, _⟩ | ⟨_, hybrid⟩ | ⟨⟨sizePositive, _⟩, _⟩
    · subst inDo
      exact ⟨rfl, by simp⟩
    · subst hybrid
      simp [executedTopology, RealizesTopology, Realizes, buildHybridPlan]
    · cases sizePositive
  · cases selected.symm.trans isSelected
    rw [activity]
    rcases shape with ⟨_, inDo, small⟩ | ⟨_, hybrid⟩ | ⟨_, tree⟩
    · subst inDo
      simp only [dispatchPlan, dispatchInDo] at dispatch
      rw [if_neg (by omega), if_neg (by omega)] at dispatch
      cases dispatch
      refine ⟨?_, ?_⟩
      · simp only [executeJob, List.length_singleton]
        omega
      · intro entry member
        exact ⟨_, _, List.mem_singleton.mp member⟩
    · subst hybrid
      exact dispatchHybrid_realizes dispatch
    · subst tree
      have conserved := planConserved_of_selectTopology selected
      have depthPositive :=
        treeDepth.one_le request.argsList.length
          request.selectorOptions.fanOutCap
          request.selectorOptions.branching
      obtain ⟨children, shape⟩ :=
        buildTreePlan_eq_tree treeDepth request.argsList.length
          request.selectorOptions.branching
          request.selectorOptions.fanOutCap
      have builtAs := shape
      rw [shape] at dispatch conserved ⊢
      refine dispatchTree_realizes (by omega) conserved ?_ rfl dispatch
      intro deep child member
      unfold buildTreePlan at builtAs
      obtain ⟨lower, depthShape⟩ :
          ∃ lower,
            treeDepth.depth request.argsList.length
                request.selectorOptions.fanOutCap
                request.selectorOptions.branching = lower + 1 :=
        ⟨_, (Nat.sub_add_cancel depthPositive).symm⟩
      rw [depthShape] at builtAs deep
      obtain ⟨slice, grandchildren, childShape⟩ :=
        children_of_buildTreePlanAt (by omega) builtAs member
      exact ⟨slice, lower, grandchildren, childShape⟩

end CloudflareParallel
