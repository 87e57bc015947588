import CloudflareParallel.FanOutExecution
import CloudflareParallel.FanOutOptions
import CloudflareParallel.LeafAddress

namespace CloudflareParallel

open ListSlices

/-!
# Runs put every job at its address

`EntryPlaced` says of a leaf call that it carries one job, to the leaf which the
plan has for the position of that job, and of an execution that it is the
execution of one job at its own global slot.  Each tier keeps this for its own
part of the jobs, and `EntryPlaced.embed` is how the part of a child sits inside
the part of its parent.
-/

/--
What an entry of a run owes to the names of the leaves, to the jobs of the run
and to the global slot of the first of them.
-/
def EntryPlaced
    (nameAt : Nat → Option String)
    (jobs : List (List JsValue))
    (base : Nat) : Activity → Prop
  | .execute _ call =>
      ∃ position,
        jobs[position]? = some call.input.args ∧
          call.input.taskSlot = some (.index (base + position))
  | .runBatch leafName attempts =>
      ∃ position args,
        nameAt position = some leafName ∧
          jobs[position]? = some args ∧
          ∀ attempt ∈ attempts,
            attempt.request.argsList = [args] ∧
              attempt.request.taskSlotBase = some (base + position) ∧
              ∀ inner path call,
                attempt.reached = some inner →
                Occurs (.execute path call) inner →
                call.input.taskSlot = some (.index (base + position))
  | .dispatch _ _ => True

/-- The part of a child sits inside the part of its parent, at an offset. -/
theorem EntryPlaced.embed
    {nameAt childNameAt : Nat → Option String}
    {jobs items : List (List JsValue)}
    {base offset : Nat}
    (sameJobs :
      ∀ {position args},
        items[position]? = some args →
        jobs[offset + position]? = some args)
    (sameNames :
      ∀ {position leafName},
        position < items.length →
        childNameAt position = some leafName →
        nameAt (offset + position) = some leafName)
    {entry : Activity}
    (placed : EntryPlaced childNameAt items (base + offset) entry) :
    EntryPlaced nameAt jobs base entry := by
  cases entry with
  | execute path call =>
      obtain ⟨position, found, slotIs⟩ := placed
      refine ⟨offset + position, sameJobs found, ?_⟩
      rw [slotIs, Nat.add_assoc]
  | runBatch leafName attempts =>
      obtain ⟨position, args, named, found, carried⟩ := placed
      have inside : position < items.length :=
        (List.getElem?_eq_some_iff.mp found).1
      refine ⟨offset + position, args, sameNames inside named,
        sameJobs found, ?_⟩
      rw [← Nat.add_assoc]
      exact carried
  | dispatch subName attempts =>
      trivial

/-- A sliced dispatch places its jobs when the child of every slice does. -/
theorem placed_forEachSlice
    {nameAt : Nat → Option String}
    {jobs : List (List JsValue)}
    {base : Nat}
    {childSizes : List Nat}
    {cancelStream : Option CancelStream}
    {child :
      Nat → Slice (List JsValue) → Option CancelStream → Dispatched}
    (childNameAt : Nat → Slice (List JsValue) → Nat → Option String)
    (covered : childSizes.sum = jobs.length)
    (sameNames :
      ∀ {index slice position within leafName},
        locate childSizes position = some (index, within) →
        childSizes[index]? = some slice.items.length →
        childNameAt index slice within = some leafName →
        nameAt position = some leafName)
    (placed :
      ∀ index slice stream,
        childSizes[index]? = some slice.items.length →
        Throughout
          (EntryPlaced (childNameAt index slice) slice.items
            (base + slice.offset))
          (child index slice stream).activity) :
    Throughout (EntryPlaced nameAt jobs base)
      (forEachSlice jobs childSizes cancelStream child).activity := by
  have enough : 0 + childSizes.sum ≤ jobs.length := by omega
  apply throughout_forEachSlice
  intro index slice stream found
  have sizeAt := getElem?_sizes_of_cut enough found
  intro entry occurs
  apply (placed index slice stream sizeAt entry occurs).embed
  · intro position args holds
    exact getElem?_of_cut found holds
  · intro position leafName inside named
    obtain ⟨lead, offsetIs, located⟩ := locate_of_cut enough found inside
    rw [Nat.zero_add] at offsetIs
    rw [offsetIs]
    exact sameNames located sizeAt named

/-- A leaf that is sent one job executes that job at its slot. -/
theorem placed_runBatchOnEnv
    {nameAt : Nat → Option String}
    {args : List JsValue}
    {base : Nat}
    {request : RunBatchRequest}
    (oneJob : request.argsList = [args])
    (sameBase : request.taskSlotBase = some base)
    (platform : Platform)
    (path : Path)
    (env : Env) :
    Throughout (EntryPlaced nameAt [args] base)
      (runBatchOnEnv platform path env request).activity := by
  unfold runBatchOnEnv
  simp only [oneJob, sameBase]
  exact throughout_execute ⟨0, rfl, rfl⟩

/-- A retried call that carries one job puts it on its leaf. -/
theorem placed_runBatchWithRetry
    {platform : Platform}
    {path : Path}
    {leafName : String}
    {buildBatch : Option CancelStream → RunBatchRequest}
    {cancelStream : Option CancelStream}
    {args : List JsValue}
    {base : Nat}
    (oneJob : ∀ stream, (buildBatch stream).argsList = [args])
    (sameBase : ∀ stream, (buildBatch stream).taskSlotBase = some base) :
    Throughout (EntryPlaced (fun _ => some leafName) [args] base)
      [.runBatch leafName
        (runBatchWithRetry platform path leafName buildBatch
          cancelStream).2] := by
  apply throughout_runBatchWithRetry
  · refine ⟨0, args, rfl, rfl, ?_⟩
    intro attempt member
    obtain ⟨made, rfl⟩ := mem_retryTransient member
    rw [Platform.call_request]
    refine ⟨oneJob _, sameBase _, ?_⟩
    intro inner hop call reached occurs
    rw [platform.call_reached _ _ _ reached] at occurs
    obtain ⟨position, found, slotIs⟩ :=
      @placed_runBatchOnEnv (fun _ => none) _ _ _ (oneJob _) (sameBase _)
        _ _ _ _ occurs
    obtain rfl : position = 0 := by
      have inside := (List.getElem?_eq_some_iff.mp found).1
      simpa using inside
    exact slotIs
  · intro hop stream
    exact placed_runBatchOnEnv (oneJob stream) (sameBase stream) _ _ _

/-- One leaf per job of a slice, named by the slice and the job. -/
theorem placed_dispatchHybridLeaf
    (platform : Platform)
    (path : Path)
    (ownerId : String)
    (request : DispatchTreeRequest)
    (slice : List (List JsValue))
    (sliceSlotBase sliceIdx : Nat)
    (cancelStream : Option CancelStream) :
    Throughout
      (EntryPlaced
        (fun position =>
          some s!"{ownerId}-r{reqIdx}-leaf-{sliceIdx}-{position}")
        slice sliceSlotBase)
      (dispatchHybridLeaf platform path ownerId request slice
        sliceSlotBase sliceIdx cancelStream).activity := by
  apply throughout_join
  intro part member
  obtain ⟨index, inRange, rfl⟩ := List.mem_mapIdx.mp member
  intro entry occurs
  have placed :=
    placed_runBatchWithRetry (fun _ => rfl) (fun _ => rfl) entry occurs
  apply placed.embed
  · intro position args holds
    obtain rfl : position = 0 := by
      have inside := (List.getElem?_eq_some_iff.mp holds).1
      simpa using inside
    simpa [inRange] using holds
  · intro position leafName inside named
    obtain rfl : position = 0 := by simpa using inside
    exact named

/-- The names of the leaves below a sub-coordinator, by position. -/
def tierLeafNames
    (idFromName : String → String)
    (ownerId : String)
    (branchingFactor levels : Nat)
    (childSizes : List Nat)
    (position : Nat) : Option String :=
  (tierAddress branchingFactor levels childSizes position).map
    (TierAddress.leafName idFromName ownerId)

/-- At the last level a position has the leaf of its slice and job. -/
theorem tierLeafNames_zero
    {idFromName : String → String}
    {ownerId : String}
    {branchingFactor position index within : Nat}
    {childSizes : List Nat}
    (located : locate childSizes position = some (index, within)) :
    tierLeafNames idFromName ownerId branchingFactor 0 childSizes position =
      some s!"{ownerId}-r{reqIdx}-leaf-{index}-{within}" := by
  simp only [tierLeafNames, tierAddress, located]
  rfl

/-- Above, a position has the leaf that its sub-coordinator has for it. -/
theorem tierLeafNames_succ
    {idFromName : String → String}
    {ownerId : String}
    {branchingFactor levels position index within size : Nat}
    {childSizes : List Nat}
    (located : locate childSizes position = some (index, within))
    (sizeAt : childSizes[index]? = some size) :
    tierLeafNames idFromName ownerId branchingFactor (levels + 1)
        childSizes position =
      tierLeafNames idFromName
        (idFromName s!"{ownerId}-r{reqIdx}-sub-{index}")
        branchingFactor levels (balancedFill size branchingFactor)
        within := by
  simp only [tierLeafNames, tierAddress, located, sizeAt, Option.bind_some,
    Option.map_map]
  rfl

/-- At `depth <= 1` the slices of a sub-coordinator go to leaves. -/
theorem placed_lastTier
    {platform : Platform}
    {path : Path}
    {ownerId : String}
    {request : DispatchTreeRequest}
    (covered : request.planChildSizes.sum = request.argsList.length) :
    Throughout
      (EntryPlaced
        (tierLeafNames platform.idFromName ownerId
          request.branchingFactor 0 request.planChildSizes)
        request.argsList (request.taskSlotBase.getD 0))
      (forEachSlice request.argsList request.planChildSizes
        request.cancelStream
        fun i slice childStream =>
          dispatchHybridLeaf platform path ownerId request slice.items
            (request.taskSlotBase.getD 0 + slice.offset) i
            childStream).activity := by
  apply placed_forEachSlice
    (fun index _ within =>
      some s!"{ownerId}-r{reqIdx}-leaf-{index}-{within}")
    covered
  · intro index slice position within leafName located _ named
    rw [tierLeafNames_zero located]
    exact named
  · intro index slice stream _
    exact placed_dispatchHybridLeaf _ _ _ _ _ _ _ _

/--
A sub-coordinator places its jobs at every depth: by induction on it, where the
sizes that a deeper one is sent are a balanced split of its slice.
-/
theorem placed_dispatchOnEnv
    (platform : Platform)
    (depth : Nat)
    (path : Path)
    (ownerId : String)
    (request : DispatchTreeRequest)
    (branchingPositive : 0 < request.branchingFactor)
    (covered : request.planChildSizes.sum = request.argsList.length) :
    Throughout
      (EntryPlaced
        (tierLeafNames platform.idFromName ownerId
          request.branchingFactor (depth - 1) request.planChildSizes)
        request.argsList (request.taskSlotBase.getD 0))
      (dispatchOnEnv platform depth path ownerId request).activity := by
  induction depth generalizing path ownerId request with
  | zero =>
      exact placed_lastTier covered
  | succ depth inductionHypothesis =>
      cases depth with
      | zero =>
          exact placed_lastTier covered
      | succ depth =>
          have notBottom : ¬ depth + 1 + 1 ≤ 1 := by omega
          rw [dispatchOnEnv]
          simp only [notBottom, ↓reduceIte]
          apply placed_forEachSlice
            (fun index slice =>
              tierLeafNames platform.idFromName
                (platform.idFromName s!"{ownerId}-r{reqIdx}-sub-{index}")
                request.branchingFactor depth
                (balancedFill slice.items.length request.branchingFactor))
            covered
          · intro index slice position within leafName located sizeAt named
            rw [Nat.add_sub_cancel, tierLeafNames_succ located sizeAt]
            exact named
          · intro index slice stream _
            refine throughout_retriedDispatch (fun _ => rfl)
              (fun _ => trivial) ?_
            intro made
            have splitCovers :
                (balancedFill slice.items.length
                  request.branchingFactor).sum = slice.items.length := by
              rw [balancedFill_eq_parts,
                BalancedDivision.sum_parts branchingPositive]
            exact inductionHypothesis _ _
              (deeperRequest request (depth + 1) slice.items
                (request.taskSlotBase.getD 0 + slice.offset)
                (if made = 0 then stream else none))
              branchingPositive splitCovers

/-- The name of the leaf that a plan has for a position. -/
def TopologyPlan.leafNames
    (idFromName : String → String)
    (coordId : String)
    (plan : TopologyPlan)
    (position : Nat) : Option String :=
  (plan.jobAddress position).map (LeafAddress.leafName idFromName coordId)

/-- A hybrid plan with one job per leaf puts every job on its own leaf. -/
theorem placed_dispatchHybrid
    {platform : Platform}
    {self : CfpCoordinator}
    {plan : HybridPlan}
    {request : CoordinatorFanOutRequest}
    {dispatched : Dispatched}
    (covered : plan.leafShape.sum = request.argsList.length)
    (oneJobPerLeaf : ∀ size ∈ plan.leafShape, size = 1)
    (ran : dispatchHybrid platform self plan request = .ok dispatched) :
    Throughout
      (EntryPlaced
        (TopologyPlan.leafNames platform.idFromName self.id
          (.fanOut (.hybrid plan)))
        request.argsList 0)
      dispatched.activity := by
  rw [dispatchHybrid, if_pos (bound_of_dispatchHybrid ran)] at ran
  cases ran
  apply placed_forEachSlice
    (fun index _ _ => some s!"{self.id}-{requestId}-leaf-{index}") covered
  · intro index slice position within leafName located _ named
    simp only [TopologyPlan.leafNames, TopologyPlan.jobAddress,
      FanOutPlan.jobAddress, located]
    exact named
  · intro index slice stream sizeAt
    have lengthOne : slice.items.length = 1 :=
      oneJobPerLeaf _ (List.mem_of_getElem? sizeAt)
    obtain ⟨args, oneJob⟩ := List.length_eq_one_iff.mp lengthOne
    rw [oneJob, Nat.zero_add]
    exact placed_runBatchWithRetry (fun _ => rfl) (fun _ => rfl)

/-- A tree of any depth puts every job on the leaf of its address. -/
theorem placed_dispatchTree
    {platform : Platform}
    {self : CfpCoordinator}
    {maxFanOut size branchingFactor depth : Nat}
    {children : List FanOutPlan}
    {request : CoordinatorFanOutRequest}
    {dispatched : Dispatched}
    (branchingPositive : 0 < branchingFactor)
    (conserved :
      PlanConserved maxFanOut size
        (.tree size branchingFactor depth children))
    (sameSize : size = request.argsList.length)
    (ran :
      dispatchTree platform self branchingFactor depth children request =
        .ok dispatched) :
    Throughout
      (EntryPlaced
        (TopologyPlan.leafNames platform.idFromName self.id
          (.fanOut (.tree size branchingFactor depth children)))
        request.argsList 0)
      dispatched.activity := by
  have covered :
      (children.map FanOutPlan.size).sum = request.argsList.length := by
    rw [← sameSize]
    exact sum_planSliceChildSizes conserved (FanOutPlan.self_mem_nodes _)
  obtain ⟨subCoordBound, leafBound⟩ := bound_of_dispatchTree ran
  rw [dispatchTree, if_neg (not_not.mpr subCoordBound),
    if_neg (not_not.mpr leafBound)] at ran
  cases ran
  apply placed_forEachSlice
    (fun index _ =>
      tierLeafNames platform.idFromName
        (platform.idFromName s!"{self.id}-{requestId}-sub-{index}")
        branchingFactor (depth - 1 - 1)
        ((children[index]?.map planSliceChildSizes).getD []))
    covered
  · intro index slice position within leafName located sizeAt named
    rw [List.getElem?_map] at sizeAt
    obtain ⟨child, childAt, _⟩ := Option.map_eq_some_iff.mp sizeAt
    simp only [childAt, Option.map_some, Option.getD_some] at named
    simp only [TopologyPlan.leafNames, TopologyPlan.jobAddress,
      FanOutPlan.jobAddress, located, childAt, Option.bind_some,
      Option.map_map]
    exact named
  · intro index slice stream sizeAt
    rw [List.getElem?_map] at sizeAt
    obtain ⟨child, childAt, childSize⟩ :=
      Option.map_eq_some_iff.mp sizeAt
    refine throughout_retriedDispatch (fun _ => rfl)
      (fun _ => trivial) ?_
    intro made
    have childCovered :
        ((children[index]?.map planSliceChildSizes).getD []).sum =
          slice.items.length := by
      rw [← childSize, childAt]
      exact sum_planSliceChildSizes conserved
        (FanOutPlan.child_mem_nodes (List.mem_of_getElem? childAt))
    rw [Nat.zero_add]
    exact placed_dispatchOnEnv _ _ _ _ (treeRequest ..)
      branchingPositive childCovered

/-- The single-job path executes its job at slot zero. -/
theorem placed_dispatchInDo
    {platform : Platform}
    {self : CfpCoordinator}
    {nameAt : Nat → Option String}
    {request : CoordinatorFanOutRequest}
    {dispatched : Dispatched}
    (ran :
      dispatchInDo platform self request.argsList.length request =
        .ok dispatched) :
    Throughout (EntryPlaced nameAt request.argsList 0)
      dispatched.activity := by
  unfold dispatchInDo at ran
  split at ran
  · cases ran
    exact throughout_nil
  next someJobs =>
    split at ran
    · cases ran
    next atMostOne =>
      cases ran
      obtain ⟨args, singleJob⟩ :
          ∃ args, request.argsList = [args] :=
        List.length_eq_one_iff.mp (by omega)
      rw [singleJob]
      exact throughout_execute ⟨0, rfl, rfl⟩

/-- A request puts every job on the leaf that its plan has for it. -/
theorem placed_runMany
    {treeDepth : TreeDepth}
    {platform : Platform}
    {self : CfpCoordinator}
    {request : CoordinatorFanOutRequest}
    {plan : TopologyPlan}
    {response : FanOutResponse}
    (selected :
      selectTopology treeDepth request.argsList.length
        request.selectorOptions = .ok plan)
    (ran : runMany treeDepth platform self request = .ok response) :
    Throughout
      (EntryPlaced (plan.leafNames platform.idFromName self.id)
        request.argsList 0)
      response.activity := by
  rcases activity_of_runMany selected ran with
    nothing | ⟨dispatched, dispatch, same⟩
  · rw [nothing]
    exact throughout_nil
  · rw [same]
    rcases selectTopology_plan selected with
      ⟨rfl, _⟩ | rfl | ⟨_, _, _, rfl, branchingPositive, conserved⟩
    · exact placed_dispatchInDo dispatch
    · refine placed_dispatchHybrid ?_ ?_ dispatch
      · simp [buildHybridPlan]
      · intro size member
        exact List.eq_of_mem_replicate member
    · exact placed_dispatchTree branchingPositive conserved rfl dispatch

/-- No two positions of a selected plan have leaves of one name. -/
theorem leafNames_inj
    {treeDepth : TreeDepth}
    {size : Nat}
    {opts : SelectorOptions}
    {plan : TopologyPlan}
    (selected : selectTopology treeDepth size opts = .ok plan)
    {idFromName : String → String}
    (injective : Function.Injective idFromName)
    {coordId leafName : String}
    {first second : Nat}
    (firstNamed : plan.leafNames idFromName coordId first = some leafName)
    (secondNamed : plan.leafNames idFromName coordId second = some leafName) :
    first = second := by
  obtain ⟨address, firstAt, firstName⟩ :=
    Option.map_eq_some_iff.mp firstNamed
  obtain ⟨other, secondAt, secondName⟩ :=
    Option.map_eq_some_iff.mp secondNamed
  obtain rfl : address = other :=
    LeafAddress.leafName_inj injective (firstName.trans secondName.symm)
  cases plan with
  | inDo size =>
      cases firstAt
  | fanOut plan =>
      refine FanOutPlan.jobAddress_inj ?_ firstAt secondAt
      rintro hybrid rfl entry member
      rcases selectTopology_plan selected with
        ⟨shape, _⟩ | shape | ⟨_, _, _, shape, _, _⟩
      · cases shape
      · cases shape
        exact List.eq_of_mem_replicate member
      · cases shape

end CloudflareParallel
