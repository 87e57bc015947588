import CloudflareParallel.FanOutOptions

namespace CloudflareParallel

open ListSlices

/-!
# Laws of a fan-out, put together part by part

A law about the logs of a fan-out speaks of the jobs from a base slot on.  Where
it holds of nothing done for no jobs, and of two neighbouring parts together, it
holds of a run as soon as it holds of a single leaf call and carries over to the
retried dispatch of a part.
-/

/-- What holds of no jobs, and of neighbouring parts together. -/
structure PartLaw
    (holds : (base size : Nat) → List Activity → Prop) : Prop where
  nil : ∀ base, holds base 0 []
  append :
    ∀ {base size rest first second},
      holds base size first →
      holds (base + size) rest second →
      holds base (size + rest) (first ++ second)

namespace PartLaw

variable {holds : (base size : Nat) → List Activity → Prop} {base : Nat}

/-- The parts of consecutive slices make up one part. -/
theorem flatten_cut
    (law : PartLaw holds)
    {items : List α}
    {cursor : Nat}
    {sizes : List Nat}
    {run : Nat → Slice α → List Activity}
    (enough : cursor + sizes.sum ≤ items.length)
    (each :
      ∀ index slice,
        (cut items cursor sizes)[index]? = some slice →
        holds (base + slice.offset) slice.items.length (run index slice)) :
    holds (base + cursor) sizes.sum
      ((cut items cursor sizes).mapIdx run).flatten := by
  induction sizes generalizing cursor run with
  | nil =>
      exact law.nil _
  | cons size rest inductionHypothesis =>
      simp only [List.sum_cons] at enough
      have head := each 0 _ rfl
      have sliceSize : min size (items.length - cursor) = size := by omega
      simp only [List.length_take, List.length_drop, sliceSize] at head
      have tail :=
        @inductionHypothesis (cursor + size) (fun index => run (index + 1))
          (by omega)
          fun index slice found =>
            each (index + 1) slice (by simpa [cut] using found)
      simp only [cut, List.mapIdx_cons, List.flatten_cons, List.sum_cons]
      rw [← Nat.add_assoc] at tail
      exact law.append head tail

/-- The parts of single items make up one part. -/
theorem flatten_mapIdx
    (law : PartLaw holds)
    {items : List α}
    {run : Nat → α → List Activity}
    (each :
      ∀ index item, holds (base + index) 1 (run index item)) :
    holds base items.length (items.mapIdx run).flatten := by
  induction items generalizing base run with
  | nil =>
      exact law.nil _
  | cons item rest inductionHypothesis =>
      have tail :=
        @inductionHypothesis (base + 1) (fun index => run (index + 1))
          fun index later => by
            have shift : base + 1 + index = base + (index + 1) := by omega
            rw [shift]
            exact each (index + 1) later
      simp only [List.mapIdx_cons, List.flatten_cons, List.length_cons]
      rw [Nat.add_comm]
      exact law.append (each 0 item) tail

/-- A sliced dispatch obeys the law of its children. -/
theorem forEachSlice
    (law : PartLaw holds)
    {jobs : List (List JsValue)}
    {childSizes : List Nat}
    {cancelStream : Option CancelStream}
    {child :
      Nat → Slice (List JsValue) → Option CancelStream → Dispatched}
    (covered : childSizes.sum = jobs.length)
    (each :
      ∀ index slice stream,
        (cut jobs 0 childSizes)[index]? = some slice →
        slice.items ≠ [] →
        holds (base + slice.offset) slice.items.length
          (child index slice stream).activity) :
    holds base jobs.length
      (CloudflareParallel.forEachSlice jobs childSizes cancelStream
        child).activity := by
  obtain ⟨run, shape, ran⟩ :=
    forEachSlice_eq_join jobs childSizes cancelStream child
  have activity :
      (Dispatched.join ((cut jobs 0 childSizes).mapIdx run)).activity =
        ((cut jobs 0 childSizes).mapIdx fun index slice =>
          (run index slice).activity).flatten := by
    simp only [Dispatched.join, map_mapIdx]
  rw [shape, activity, ← covered]
  refine
    @flatten_cut holds base _ law jobs 0 childSizes _ (by omega) ?_
  intro index slice found
  rcases ran index slice with
    ⟨noItems, skipped⟩ | ⟨stream, someItem, dispatched⟩
  · rw [noItems, skipped]
    exact law.nil _
  · rw [dispatched]
    exact each index slice stream found someItem

/-- A leaf tier obeys the law of its leaf calls. -/
theorem dispatchHybridLeaf
    (law : PartLaw holds)
    {platform : Platform}
    {path : Path}
    {ownerId : String}
    {request : DispatchTreeRequest}
    {slice : List (List JsValue)}
    {sliceSlotBase sliceIdx : Nat}
    {cancelStream : Option CancelStream}
    (each :
      ∀ leafName args slot stream,
        holds slot 1
          [.runBatch leafName
            (runBatchWithRetry platform path leafName
              (hybridLeafBatch request args slot) stream).2]) :
    holds sliceSlotBase slice.length
      (CloudflareParallel.dispatchHybridLeaf platform path ownerId request
        slice sliceSlotBase sliceIdx cancelStream).activity := by
  unfold CloudflareParallel.dispatchHybridLeaf
  simp only [Dispatched.join, map_mapIdx]
  apply law.flatten_mapIdx
  intro index args
  exact each _ _ _ _

/--
A tree obeys the law of its sub-coordinator calls.  What such a call carries is
covered by the child sizes that it passes on.
-/
theorem dispatchTree
    (law : PartLaw holds)
    {platform : Platform}
    {self : CfpCoordinator}
    {maxFanOut size branchingFactor depth : Nat}
    {children : List FanOutPlan}
    {request : CoordinatorFanOutRequest}
    {dispatched : Dispatched}
    (conserved :
      PlanConserved maxFanOut size
        (.tree size branchingFactor depth children))
    (sameSize : size = request.argsList.length)
    (ran :
      CloudflareParallel.dispatchTree platform self branchingFactor depth
        children request = .ok dispatched)
    (each :
      ∀ (index : Nat) (slice : Slice (List JsValue)) (subName : String)
        (path : Nat → Path) (sent : Nat → Option CancelStream),
        slice.items ≠ [] →
        slice.items.length ∈ children.map FanOutPlan.size →
        (∀ stream,
          (treeRequest request children[index]? branchingFactor depth
              slice.items slice.offset stream).planChildSizes.sum =
            slice.items.length) →
        holds slice.offset slice.items.length
          [.dispatch subName
            (retryTransient
              (fun made =>
                platform.call (path made)
                  (treeRequest request children[index]? branchingFactor depth
                    slice.items slice.offset (sent made))
                  (subCoordDispatch platform (path made) subName
                    (treeRequest request children[index]? branchingFactor
                      depth slice.items slice.offset (sent made))))
              MAX_TRANSIENT_RETRIES 0).2]) :
    holds 0 request.argsList.length dispatched.activity := by
  have covered :
      (children.map FanOutPlan.size).sum = request.argsList.length := by
    rw [← sameSize]
    exact sum_planSliceChildSizes conserved (FanOutPlan.self_mem_nodes _)
  obtain ⟨subCoordBound, leafBound⟩ := bound_of_dispatchTree ran
  rw [CloudflareParallel.dispatchTree, if_neg (not_not.mpr subCoordBound),
    if_neg (not_not.mpr leafBound)] at ran
  cases ran
  apply law.forEachSlice covered
  intro index slice stream found someItem
  obtain ⟨child, childFound, childCovered⟩ :=
    child_of_slice conserved covered found
  rw [Nat.zero_add]
  refine each index slice _ _ _ someItem ?_ ?_
  · exact
      List.mem_of_getElem? (getElem?_sizes_of_cut (by omega) found)
  · intro sent
    simpa [treeRequest, childFound] using childCovered

end PartLaw

/-! ## Tier by tier -/

/-- The retry loops between a plan and its leaves. -/
def TopologyPlan.retryTiers : TopologyPlan → Nat
  | .inDo _ => 0
  | .fanOut (.hybrid _) => 1
  | .fanOut (.tree _ _ depth _) => max 1 (depth - 1) + 1

/--
What makes a law hold at every tier: a job run by the coordinator obeys the law
of no tier, leaf calls obey that of the first, and a retried dispatch obeys the
law of the tier above its targets.
-/
structure TierLaw
    (platform : Platform)
    (holds : (tier base size : Nat) → List Activity → Prop) : Prop where
  parts : ∀ tier, PartLaw (holds tier)
  inDo :
    ∀ self request args,
      holds 0 0 1 [.execute [] (inDoRunnerCall self request args)]
  leafCall :
    ∀ path leafName buildBatch stream slot args,
      (∀ sent, (buildBatch sent).taskSlotBase = some slot) →
      (∀ sent, (buildBatch sent).argsList = [args]) →
      holds 1 slot 1
        [.runBatch leafName
          (runBatchWithRetry platform path leafName buildBatch stream).2]
  dispatch :
    ∀ (tier base : Nat) (jobs : List (List JsValue)) (subName : String)
      (path : Nat → Path) (request : Nat → DispatchTreeRequest)
      (run : Nat → Dispatched),
      0 < tier →
      jobs ≠ [] →
      (∀ made,
        Aligned (JobOutcome platform (run made).activity) base jobs
          (run made).results) →
      (∀ made, holds tier base jobs.length (run made).activity) →
      holds (tier + 1) base jobs.length
        [.dispatch subName
          (retryTransient
            (fun made => platform.call (path made) (request made) (run made))
            MAX_TRANSIENT_RETRIES 0).2]

namespace TierLaw

variable {platform : Platform}
variable {holds : (tier base size : Nat) → List Activity → Prop}

/-- A sub-coordinator obeys the law of its depth. -/
theorem dispatchOnEnv
    (law : TierLaw platform holds)
    (depth : Nat)
    (path : Path)
    (ownerId : String)
    (request : DispatchTreeRequest)
    (branchingPositive : 0 < request.branchingFactor)
    (covered : request.planChildSizes.sum = request.argsList.length) :
    holds (max 1 depth) (request.taskSlotBase.getD 0)
      request.argsList.length
      (CloudflareParallel.dispatchOnEnv platform depth path ownerId
        request).activity := by
  induction depth generalizing path ownerId request with
  | zero =>
      apply (law.parts _).forEachSlice covered
      intro index slice stream _ _
      apply (law.parts _).dispatchHybridLeaf
      intro leafName args slot sent
      exact law.leafCall _ _ _ _ _ _ (fun _ => rfl) (fun _ => rfl)
  | succ depth inductionHypothesis =>
      apply (law.parts _).forEachSlice covered
      intro index slice stream _ someItem
      simp only
      split
      next bottom =>
        have oneTier : max 1 (depth + 1) = 1 := by omega
        rw [oneTier]
        apply (law.parts _).dispatchHybridLeaf
        intro leafName args slot sent
        exact law.leafCall _ _ _ _ _ _ (fun _ => rfl) (fun _ => rfl)
      next above =>
        have oneMore : max 1 (depth + 1) = max 1 depth + 1 := by omega
        have deeperCovered :
            (balancedFill slice.items.length request.branchingFactor).sum =
              slice.items.length := by
          rw [balancedFill_eq_parts,
            BalancedDivision.sum_parts branchingPositive]
        rw [oneMore]
        refine law.dispatch _ _ _ _ _ _ _ (by omega) someItem ?_ ?_
        · intro made
          exact
            dispatchOnEnv_aligned _ _ _ _ (deeperRequest ..)
              branchingPositive deeperCovered
        · intro made
          exact
            inductionHypothesis _ _ (deeperRequest ..) branchingPositive
              deeperCovered

/-- A tree obeys the law of the tier above its sub-coordinators. -/
theorem dispatchTree
    (law : TierLaw platform holds)
    {self : CfpCoordinator}
    {maxFanOut size branchingFactor depth : Nat}
    {children : List FanOutPlan}
    {request : CoordinatorFanOutRequest}
    {dispatched : Dispatched}
    (branchingPositive : 0 < branchingFactor)
    (conserved :
      PlanConserved maxFanOut size
        (.tree size branchingFactor depth children))
    (sameSize : size = request.argsList.length)
    (ran :
      CloudflareParallel.dispatchTree platform self branchingFactor depth
        children request = .ok dispatched) :
    holds (max 1 (depth - 1) + 1) 0 request.argsList.length
      dispatched.activity := by
  apply (law.parts _).dispatchTree conserved sameSize ran
  intro index slice subName path sent someItem _ requestCovered
  refine law.dispatch _ _ _ _ _ _ _ (by omega) someItem ?_ ?_
  · intro made
    exact
      dispatchOnEnv_aligned _ _ _ _ (treeRequest ..) branchingPositive
        (requestCovered _)
  · intro made
    exact
      law.dispatchOnEnv (depth - 1) _ _ (treeRequest ..) branchingPositive
        (requestCovered _)

/-- A hybrid plan obeys the law of its leaf calls. -/
theorem dispatchHybrid
    (law : TierLaw platform holds)
    {self : CfpCoordinator}
    {request : CoordinatorFanOutRequest}
    {dispatched : Dispatched}
    (ran :
      CloudflareParallel.dispatchHybrid platform self
        (buildHybridPlan request.argsList.length) request =
          .ok dispatched) :
    holds 1 0 request.argsList.length dispatched.activity := by
  rw [CloudflareParallel.dispatchHybrid, if_pos (bound_of_dispatchHybrid ran)] at ran
  cases ran
  have covered :
      (buildHybridPlan request.argsList.length).leafShape.sum =
        request.argsList.length := by
    simp [buildHybridPlan]
  apply (law.parts _).forEachSlice covered
  intro index slice stream found _
  have sizeAt := getElem?_sizes_of_cut (by omega) found
  have oneJob : slice.items.length = 1 := by
    have member := List.mem_of_getElem? sizeAt
    simp only [buildHybridPlan, List.mem_replicate] at member
    exact member.2
  obtain ⟨args, single⟩ := List.length_eq_one_iff.mp oneJob
  rw [Nat.zero_add, oneJob]
  exact law.leafCall _ _ _ _ _ args (fun _ => rfl) (fun _ => single)

/-- The job that the coordinator runs itself obeys the law of no tier. -/
theorem dispatchInDo
    (law : TierLaw platform holds)
    {self : CfpCoordinator}
    {request : CoordinatorFanOutRequest}
    {dispatched : Dispatched}
    (ran :
      CloudflareParallel.dispatchInDo platform self request.argsList.length
        request = .ok dispatched) :
    holds 0 0 request.argsList.length dispatched.activity := by
  unfold CloudflareParallel.dispatchInDo at ran
  split at ran
  next noJob =>
    cases ran
    rw [noJob]
    exact (law.parts _).nil _
  next someJob =>
    split at ran
    · cases ran
    next atMostOne =>
      cases ran
      have oneJob : request.argsList.length = 1 := by omega
      rw [oneJob]
      exact law.inDo _ _ _

/-- A run obeys the law of the tiers of its plan. -/
theorem runMany
    (law : TierLaw platform holds)
    {treeDepth : TreeDepth}
    {self : CfpCoordinator}
    {request : CoordinatorFanOutRequest}
    {plan : TopologyPlan}
    {response : FanOutResponse}
    (selected :
      selectTopology treeDepth request.argsList.length
        request.selectorOptions = .ok plan)
    (ran :
      CloudflareParallel.runMany treeDepth platform self request =
        .ok response) :
    holds plan.retryTiers 0 request.argsList.length response.activity := by
  rcases runMany_cases ran with
    ⟨noJobs, -, nothing⟩ | ⟨_, _, someJob, -⟩
  · rw [noJobs, nothing]
    exact (law.parts _).nil _
  · obtain ⟨dispatched, dispatch, same⟩ :=
      dispatched_of_runMany selected someJob ran
    rw [same]
    rcases selectTopology_plan selected with
      ⟨rfl, _⟩ | rfl | ⟨_, _, _, rfl, branchingPositive, conserved⟩
    · exact law.dispatchInDo dispatch
    · exact law.dispatchHybrid dispatch
    · exact law.dispatchTree branchingPositive conserved rfl dispatch

end TierLaw

end CloudflareParallel
