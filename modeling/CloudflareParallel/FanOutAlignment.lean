import CloudflareParallel.Coordinator
import CloudflareParallel.TopologyConservation

namespace CloudflareParallel

open ListSlices

/-!
# Fan-out results are aligned with their arguments

`JobOutcome` is what one entry of a result list may be: the outcome of an
execution of that very job (its own arguments, its own global slot), or the
failure record of a rejected RPC that carried the job.  Every level keeps the
invariant that its results are aligned, position by position, with the slots
that start at its `taskSlotBase`.
-/

/-- The result is that of an execution of the job, or of a lost RPC with it. -/
inductive JobOutcome
    (platform : Platform)
    (log : List Activity)
    (slot : Nat)
    (args : List JsValue) : RunOneResult → Prop where
  | executed {path : Path} {call : RunnerCall} :
      Occurs (.execute path call) log →
      call.input.args = args →
      call.input.taskSlot = some (.index slot) →
      JobOutcome platform log slot args
        (runnerResult (platform.runOne path call))
  | leafRejected {leafName : String}
      {attempts : List (Attempt RunBatchRequest Activity)}
      {attempt : Attempt RunBatchRequest Activity}
      {err : Thrown} :
      Occurs (.runBatch leafName attempts) log →
      attempt ∈ attempts →
      platform.rejection? attempt.path = some err →
      CarriesJob attempt.request.argsList attempt.request.taskSlotBase
        slot args →
      JobOutcome platform log slot args (errorToFailedResult err)
  | subCoordRejected {subName : String}
      {attempts : List (Attempt DispatchTreeRequest Activity)}
      {attempt : Attempt DispatchTreeRequest Activity}
      {err : Thrown} :
      Occurs (.dispatch subName attempts) log →
      attempt ∈ attempts →
      platform.rejection? attempt.path = some err →
      CarriesJob attempt.request.argsList attempt.request.taskSlotBase
        slot args →
      JobOutcome platform log slot args (errorToFailedResult err)

namespace JobOutcome

/-- An outcome explained by one log is explained by any log containing it. -/
theorem lift
    {platform : Platform}
    {log larger : List Activity}
    {slot : Nat}
    {args : List JsValue}
    {result : RunOneResult}
    (outcome : JobOutcome platform log slot args result)
    (embeds : ∀ {entry}, Occurs entry log → Occurs entry larger) :
    JobOutcome platform larger slot args result := by
  cases outcome with
  | executed occurs sameArgs sameSlot =>
      exact .executed (embeds occurs) sameArgs sameSlot
  | leafRejected occurs member rejected carries =>
      exact .leafRejected (embeds occurs) member rejected carries
  | subCoordRejected occurs member rejected carries =>
      exact .subCoordRejected (embeds occurs) member rejected carries

end JobOutcome

/-- Results aligned within one log are aligned within a larger one. -/
theorem aligned_lift
    {platform : Platform}
    {log larger : List Activity}
    {base : Nat}
    {jobs : List (List JsValue)}
    {results : List RunOneResult}
    (aligned : Aligned (JobOutcome platform log) base jobs results)
    (embeds : ∀ {entry}, Occurs entry log → Occurs entry larger) :
    Aligned (JobOutcome platform larger) base jobs results :=
  aligned.mono fun _ outcome => outcome.lift embeds

/-- Dispatching every job by itself answers the whole list. -/
theorem join_mapIdx_aligned
    {platform : Platform}
    {base : Nat}
    {jobs : List (List JsValue)}
    {run : Nat → List JsValue → Dispatched}
    (answers :
      ∀ index args,
        jobs[index]? = some args →
        Aligned (JobOutcome platform (run index args).activity)
          (base + index) [args] (run index args).results) :
    Aligned
      (JobOutcome platform (Dispatched.join (jobs.mapIdx run)).activity)
      base jobs (Dispatched.join (jobs.mapIdx run)).results := by
  rw [Dispatched.results_join, map_mapIdx]
  apply Aligned.flatten_mapIdx
  intro index args found
  apply aligned_lift (answers index args found)
  intro entry occurs
  exact occurs.mono
    (Dispatched.activity_subset_join (mem_mapIdx_of_getElem? run found))

/-- Dispatching every slice at its own offset answers the whole list. -/
theorem forEachSlice_aligned
    {platform : Platform}
    {base : Nat}
    {jobs : List (List JsValue)}
    {childSizes : List Nat}
    {cancelStream : Option CancelStream}
    {child :
      Nat → Slice (List JsValue) → Option CancelStream → Dispatched}
    (covered : childSizes.sum = jobs.length)
    (answers :
      ∀ index slice stream,
        (cut jobs 0 childSizes)[index]? = some slice →
        Aligned
          (JobOutcome platform (child index slice stream).activity)
          (base + slice.offset) slice.items
          (child index slice stream).results) :
    Aligned
      (JobOutcome platform
        (forEachSlice jobs childSizes cancelStream child).activity)
      base jobs
      (forEachSlice jobs childSizes cancelStream child).results := by
  obtain ⟨run, shape, ran⟩ :=
    forEachSlice_eq_join jobs childSizes cancelStream child
  have whole :
      (jobs.drop 0).take childSizes.sum = jobs := by
    rw [List.drop_zero, covered, List.take_length]
  have sliced :
      Aligned
        (JobOutcome platform
          (Dispatched.join
            ((cut jobs 0 childSizes).mapIdx run)).activity)
        (base + 0) ((jobs.drop 0).take childSizes.sum)
        (Dispatched.join ((cut jobs 0 childSizes).mapIdx run)).results := by
    rw [Dispatched.results_join, map_mapIdx]
    apply Aligned.flatten_mapIdx_cut
    · intro index slice found
      have sliceAligned :
          Aligned (JobOutcome platform (run index slice).activity)
            (base + slice.offset) slice.items
            (run index slice).results := by
        rcases ran index slice with ⟨noItems, skipped⟩ | ⟨stream, _, dispatched⟩
        · rw [skipped, noItems]
          exact .nil
        · rw [dispatched]
          exact answers index slice stream found
      apply aligned_lift sliceAligned
      intro entry occurs
      exact occurs.mono
        (Dispatched.activity_subset_join (mem_mapIdx_of_getElem? run found))
    · omega
  rw [whole] at sliced
  rw [shape]
  exact sliced

/--
A retried call answers its jobs: an answered attempt returns the aligned
results of its target, and a rejected call fails every job it carried.
-/
theorem settledCall_aligned
    {platform : Platform}
    {log : List Activity}
    {base remaining attempt : Nat}
    {jobs : List (List JsValue)}
    {call : Nat → RpcOutcome × Attempt Request Activity}
    {path : Nat → Path}
    {request : Nat → Request}
    {run : Nat → Dispatched}
    (calls :
      ∀ made,
        call made = platform.call (path made) (request made) (run made))
    (answers :
      ∀ made,
        Aligned (JobOutcome platform (run made).activity) base jobs
          (run made).results)
    (embeds :
      ∀ {record inner entry},
        record ∈ (retryTransient call remaining attempt).2 →
        record.reached = some inner →
        Occurs entry inner →
        Occurs entry log)
    (rejects :
      ∀ {made err slot args},
        (call made).2 ∈ (retryTransient call remaining attempt).2 →
        platform.rejection? (path made) = some err →
        CarriesJob jobs (some base) slot args →
        JobOutcome platform log slot args (errorToFailedResult err)) :
    Aligned (JobOutcome platform log) base jobs
      (settleRpc jobs (retryTransient call remaining attempt).1) := by
  obtain ⟨last, final, recorded⟩ :=
    retryTransient_final call remaining attempt
  rw [final]
  cases outcome : (call last).1 with
  | ok results =>
      rw [calls] at outcome
      obtain ⟨sameResults, reached⟩ :=
        platform.call_ok _ _ _ outcome
      rw [settleRpc, sameResults]
      apply aligned_lift (answers last)
      intro entry occurs
      exact embeds recorded (by rw [calls, reached]) occurs
  | error err =>
      rw [calls] at outcome
      apply Aligned.map_const
      intro index args found
      exact rejects recorded (platform.call_error _ _ _ outcome)
        ⟨index, found, rfl⟩

/-- A leaf answers its batch from its slot base on, on either path. -/
theorem runBatchOnEnv_aligned
    (platform : Platform)
    (path : Path)
    (env : Env)
    (request : RunBatchRequest) :
    Aligned
      (JobOutcome platform
        (runBatchOnEnv platform path env request).activity)
      (request.taskSlotBase.getD 0) request.argsList
      (runBatchOnEnv platform path env request).results := by
  have jobAligned :
      ∀ slot args stream,
        Aligned
          (JobOutcome platform
            (executeJob platform path
              (leafRunnerCall env request args slot stream)).activity)
          slot [args]
          (executeJob platform path
            (leafRunnerCall env request args slot stream)).results := by
    intro slot args stream
    exact .cons
      (.executed (.here (List.mem_singleton.mpr rfl)) rfl rfl)
      .nil
  unfold runBatchOnEnv
  split
  next args singleJob =>
    rw [singleJob]
    exact jobAligned _ _ _
  next =>
    apply join_mapIdx_aligned
    intro index args _
    exact jobAligned _ _ _

/-- A retried leaf RPC answers the batch that its builder carries. -/
theorem runBatchWithRetry_aligned
    {platform : Platform}
    {path : Path}
    {leafName : String}
    {buildBatch : Option CancelStream → RunBatchRequest}
    {cancelStream : Option CancelStream}
    {base : Nat}
    {jobs : List (List JsValue)}
    (carriesJobs : ∀ stream, (buildBatch stream).argsList = jobs)
    (carriesBase : ∀ stream, (buildBatch stream).taskSlotBase = some base) :
    Aligned
      (JobOutcome platform
        [.runBatch leafName
          (runBatchWithRetry platform path leafName buildBatch
            cancelStream).2])
      base jobs
      (settleRpc jobs
        (runBatchWithRetry platform path leafName buildBatch
          cancelStream).1) := by
  unfold runBatchWithRetry
  refine settledCall_aligned (fun _ => rfl) ?_ ?_ ?_
  · intro made
    have answered :=
      runBatchOnEnv_aligned platform
        (path ++ [{ target := leafName, attempt := made }])
        (platform.leafEnv leafName)
        (buildBatch (if made = 0 then cancelStream else none))
    rw [carriesJobs, carriesBase] at answered
    exact answered
  · intro record inner entry recorded reached occurs
    exact .belowLeaf (List.mem_singleton.mpr rfl) recorded reached occurs
  · intro made err slot args recorded rejected carries
    refine .leafRejected (.here (List.mem_singleton.mpr rfl)) recorded
      (by simpa using rejected) ?_
    simp only [Platform.call_request, carriesJobs, carriesBase]
    exact carries

/-- One leaf per job of a slice answers the slice. -/
theorem dispatchHybridLeaf_aligned
    (platform : Platform)
    (path : Path)
    (ownerId : String)
    (request : DispatchTreeRequest)
    (slice : List (List JsValue))
    (sliceSlotBase sliceIdx : Nat)
    (cancelStream : Option CancelStream) :
    Aligned
      (JobOutcome platform
        (dispatchHybridLeaf platform path ownerId request slice
          sliceSlotBase sliceIdx cancelStream).activity)
      sliceSlotBase slice
      (dispatchHybridLeaf platform path ownerId request slice
        sliceSlotBase sliceIdx cancelStream).results := by
  apply join_mapIdx_aligned
  intro index args _
  exact runBatchWithRetry_aligned (fun _ => rfl) (fun _ => rfl)

/--
A sub-coordinator answers its slice from its slot base on, at every depth: the
slices it hands down are re-split over `branchingFactor`, which covers them.
-/
theorem dispatchOnEnv_aligned
    (platform : Platform)
    (depth : Nat)
    (path : Path)
    (ownerId : String)
    (request : DispatchTreeRequest)
    (branchingPositive : 0 < request.branchingFactor)
    (covered : request.planChildSizes.sum = request.argsList.length) :
    Aligned
      (JobOutcome platform
        (dispatchOnEnv platform depth path ownerId request).activity)
      (request.taskSlotBase.getD 0) request.argsList
      (dispatchOnEnv platform depth path ownerId request).results := by
  induction depth generalizing path ownerId request with
  | zero =>
      apply forEachSlice_aligned covered
      intro index slice stream _
      exact dispatchHybridLeaf_aligned ..
  | succ depth inductionHypothesis =>
      apply forEachSlice_aligned covered
      intro index slice stream _
      simp only
      split
      · exact dispatchHybridLeaf_aligned ..
      · refine settledCall_aligned (fun _ => rfl) ?_ ?_ ?_
        · intro made
          refine inductionHypothesis _ _ (deeperRequest ..)
            branchingPositive ?_
          rw [deeperRequest, balancedFill_eq_parts,
            BalancedDivision.sum_parts branchingPositive]
        · intro record inner entry recorded reached occurs
          exact .belowSubCoord (List.mem_singleton.mpr rfl)
            recorded reached occurs
        · intro made err slot args recorded rejected carries
          refine .subCoordRejected (.here (List.mem_singleton.mpr rfl))
            recorded (by simpa using rejected) ?_
          simp only [Platform.call_request, deeperRequest]
          exact carries

/-- The sizes one level below a conserved node add up to its size. -/
theorem sum_planSliceChildSizes
    {maxFanOut size : Nat}
    {plan node : FanOutPlan}
    (conserved : PlanConserved maxFanOut size plan)
    (member : node ∈ plan.nodes) :
    (planSliceChildSizes node).sum = node.size := by
  cases node with
  | hybrid hybrid =>
      have entriesOne : ∀ entry ∈ hybrid.leafShape, entry = 1 := by
        intro entry entryMember
        exact conserved.leafEntryOne entry
          (List.mem_flatMap.mpr ⟨_, member, entryMember⟩)
      calc
        hybrid.leafShape.sum =
            (List.replicate hybrid.leafShape.length 1).sum :=
          congrArg List.sum (List.eq_replicate_of_mem entriesOne)
        _ = hybrid.size := by
          rw [List.sum_replicate, smul_eq_mul, Nat.mul_one,
            conserved.hybridNode hybrid member]
  | tree nodeSize branchingFactor depth children =>
      exact (conserved.treeNode member).size_eq_sum.symm

/-- The slice with an index belongs to the child with this index. -/
theorem child_of_slice
    {maxFanOut size branchingFactor depth index : Nat}
    {children : List FanOutPlan}
    {jobs : List (List JsValue)}
    {slice : Slice (List JsValue)}
    (conserved :
      PlanConserved maxFanOut size
        (.tree size branchingFactor depth children))
    (covered : (children.map FanOutPlan.size).sum = jobs.length)
    (found :
      (cut jobs 0 (children.map FanOutPlan.size))[index]? = some slice) :
    ∃ child,
      children[index]? = some child ∧
        (planSliceChildSizes child).sum = slice.items.length := by
  have sizeFound :
      (children.map FanOutPlan.size)[index]? = some slice.items.length :=
    getElem?_sizes_of_cut (by omega) found
  rw [List.getElem?_map] at sizeFound
  obtain ⟨child, childFound, childSize⟩ :=
    Option.map_eq_some_iff.mp sizeFound
  refine ⟨child, childFound, ?_⟩
  rw [← childSize]
  exact sum_planSliceChildSizes conserved
    (FanOutPlan.child_mem_nodes (List.mem_of_getElem? childFound))

/-- The hybrid shape answers the whole argument list. -/
theorem dispatchHybrid_aligned
    {platform : Platform}
    {self : CfpCoordinator}
    {plan : HybridPlan}
    {request : CoordinatorFanOutRequest}
    {dispatched : Dispatched}
    (covered : plan.leafShape.sum = request.argsList.length)
    (ran : dispatchHybrid platform self plan request = .ok dispatched) :
    Aligned (JobOutcome platform dispatched.activity) 0
      request.argsList dispatched.results := by
  rw [dispatchHybrid, if_pos (bound_of_dispatchHybrid ran)] at ran
  cases ran
  apply forEachSlice_aligned covered
  intro index slice stream _
  rw [Nat.zero_add]
  exact runBatchWithRetry_aligned (fun _ => rfl) (fun _ => rfl)

/-- A tree of any depth answers the whole argument list. -/
theorem dispatchTree_aligned
    {platform : Platform}
    {self : CfpCoordinator}
    {maxFanOut size branchingFactor depth : Nat}
    {children : List FanOutPlan}
    {request : CoordinatorFanOutRequest}
    {dispatched : Dispatched}
    (branchingPositive : 0 < branchingFactor)
    (conserved :
      PlanConserved maxFanOut size
        (.tree size branchingFactor depth children))
    (sameSize : size = request.argsList.length)
    (ran :
      dispatchTree platform self branchingFactor depth children request =
        .ok dispatched) :
    Aligned (JobOutcome platform dispatched.activity) 0
      request.argsList dispatched.results := by
  have covered :
      (children.map FanOutPlan.size).sum = request.argsList.length := by
    rw [← sameSize]
    exact sum_planSliceChildSizes conserved (FanOutPlan.self_mem_nodes _)
  obtain ⟨subCoordBound, leafBound⟩ := bound_of_dispatchTree ran
  rw [dispatchTree, if_neg (not_not.mpr subCoordBound),
    if_neg (not_not.mpr leafBound)] at ran
  cases ran
  apply forEachSlice_aligned covered
  intro index slice stream found
  obtain ⟨child, childFound, childCovered⟩ :=
    child_of_slice conserved covered found
  rw [Nat.zero_add]
  refine settledCall_aligned (fun _ => rfl) ?_ ?_ ?_
  · intro made
    refine dispatchOnEnv_aligned _ _ _ _ (treeRequest ..)
      branchingPositive ?_
    simp only [treeRequest, childFound, Option.map_some,
      Option.getD_some]
    exact childCovered
  · intro record inner entry recorded reached occurs
    exact .belowSubCoord (List.mem_singleton.mpr rfl)
      recorded reached occurs
  · intro made err slot args recorded rejected carries
    refine .subCoordRejected (.here (List.mem_singleton.mpr rfl))
      recorded (by simpa using rejected) ?_
    simp only [Platform.call_request, treeRequest]
    exact carries

/-- The single-job path answers its job. -/
theorem dispatchInDo_aligned
    {platform : Platform}
    {self : CfpCoordinator}
    {request : CoordinatorFanOutRequest}
    {dispatched : Dispatched}
    (ran :
      dispatchInDo platform self request.argsList.length request =
        .ok dispatched) :
    Aligned (JobOutcome platform dispatched.activity) 0
      request.argsList dispatched.results := by
  unfold dispatchInDo at ran
  split at ran
  next noJobs =>
    cases ran
    rw [List.length_eq_zero_iff.mp noJobs]
    exact .nil
  next someJobs =>
    split at ran
    · cases ran
    next atMostOne =>
      cases ran
      obtain ⟨args, singleJob⟩ :
          ∃ args, request.argsList = [args] :=
        List.length_eq_one_iff.mp (by omega)
      rw [singleJob]
      exact .cons
        (.executed (.here (List.mem_singleton.mpr rfl)) rfl rfl)
        .nil

/-- Whatever plan was selected, its dispatch answers the argument list. -/
theorem dispatchPlan_aligned
    {treeDepth : TreeDepth}
    {platform : Platform}
    {self : CfpCoordinator}
    {request : CoordinatorFanOutRequest}
    {plan : TopologyPlan}
    {dispatched : Dispatched}
    (selected :
      selectTopology treeDepth request.argsList.length
        request.selectorOptions = .ok plan)
    (ran : dispatchPlan platform self plan request = .ok dispatched) :
    Aligned (JobOutcome platform dispatched.activity) 0
      request.argsList dispatched.results := by
  rcases selectTopology_plan selected with
    ⟨rfl, _⟩ | rfl | ⟨_, _, _, rfl, branchingPositive, conserved⟩
  · exact dispatchInDo_aligned ran
  · refine dispatchHybrid_aligned ?_ ran
    simp [buildHybridPlan]
  · exact dispatchTree_aligned branchingPositive conserved rfl ran

/-- A plan is carried out where its bindings are there. -/
theorem dispatchPlan_answers_iff
    {treeDepth : TreeDepth}
    {platform : Platform}
    {self : CfpCoordinator}
    {request : CoordinatorFanOutRequest}
    {plan : TopologyPlan}
    (selected :
      selectTopology treeDepth request.argsList.length
        request.selectorOptions = .ok plan) :
    (∃ dispatched,
        dispatchPlan platform self plan request = .ok dispatched) ↔
      self.carriesOut plan = true := by
  rcases selectTopology_plan selected with
    ⟨rfl, small⟩ | rfl | ⟨_, _, _, rfl, -, -⟩
  · refine iff_of_true ?_ rfl
    simp only [dispatchPlan, dispatchInDo]
    split
    · exact ⟨_, rfl⟩
    · rw [if_neg (by omega)]
      exact ⟨_, rfl⟩
  · simp only [dispatchPlan, dispatchHybrid, CfpCoordinator.carriesOut]
    split
    next bound => exact iff_of_true ⟨_, rfl⟩ bound
    next unbound =>
      refine iff_of_false ?_ unbound
      rintro ⟨dispatched, ran⟩
      cases ran
  · simp only [dispatchPlan, dispatchTree, CfpCoordinator.carriesOut,
      Bool.and_eq_true]
    split
    next unbound =>
      refine iff_of_false ?_ fun bound => unbound bound.1
      rintro ⟨dispatched, ran⟩
      cases ran
    next subCoordBound =>
      split
      next unbound =>
        refine iff_of_false ?_ fun bound => unbound bound.2
        rintro ⟨dispatched, ran⟩
        cases ran
      next leafBound =>
        exact iff_of_true ⟨_, rfl⟩
          ⟨not_not.mp subCoordBound, not_not.mp leafBound⟩

/-- A fan-out of some jobs is answered where its plan can be carried out. -/
theorem runMany_answers_iff
    {treeDepth : TreeDepth}
    {platform : Platform}
    {self : CfpCoordinator}
    {request : CoordinatorFanOutRequest}
    (someJob : 0 < request.argsList.length) :
    (∃ response, runMany treeDepth platform self request = .ok response) ↔
      ∃ plan,
        selectTopology treeDepth request.argsList.length
            request.selectorOptions = .ok plan ∧
          self.carriesOut plan = true := by
  have notEmpty : request.argsList.length ≠ 0 := by omega
  unfold runMany
  simp only [notEmpty, ↓reduceIte]
  cases selected :
      selectTopology treeDepth request.argsList.length
        request.selectorOptions with
  | error err =>
      constructor
      · rintro ⟨response, answered⟩
        cases answered
      · rintro ⟨plan, isPlan, -⟩
        cases isPlan
  | ok plan =>
      have carriedOut :=
        @dispatchPlan_answers_iff treeDepth platform self request plan selected
      dsimp only
      constructor
      · rintro ⟨response, answered⟩
        cases dispatch : dispatchPlan platform self plan request with
        | error err =>
            rw [dispatch] at answered
            cases answered
        | ok dispatched =>
            exact ⟨plan, rfl, carriedOut.mp ⟨dispatched, dispatch⟩⟩
      · rintro ⟨other, same, bound⟩
        cases same
        obtain ⟨dispatched, dispatch⟩ := carriedOut.mpr bound
        rw [dispatch]
        exact ⟨_, rfl⟩

/--
With the selector's consent and both namespaces bound, every request is
answered.
-/
theorem runMany_answers
    {treeDepth : TreeDepth}
    (platform : Platform)
    {self : CfpCoordinator}
    {request : CoordinatorFanOutRequest}
    {plan : TopologyPlan}
    (selected :
      selectTopology treeDepth request.argsList.length
        request.selectorOptions = .ok plan)
    (leafBound : self.hasBinding "CfpWorkerDO")
    (subCoordBound : self.hasBinding "CfpSubCoord") :
    ∃ response, runMany treeDepth platform self request = .ok response := by
  rcases Nat.eq_zero_or_pos request.argsList.length with noJob | someJob
  · simp only [runMany, noJob, ↓reduceIte]
    exact ⟨_, rfl⟩
  · refine (runMany_answers_iff someJob).mpr ⟨plan, selected, ?_⟩
    unfold CfpCoordinator.carriesOut
    split
    · rfl
    · exact leafBound
    · rw [leafBound, subCoordBound]
      rfl

/-- No job is answered with nothing, and others by the dispatch of a plan. -/
theorem runMany_cases
    {treeDepth : TreeDepth}
    {platform : Platform}
    {self : CfpCoordinator}
    {request : CoordinatorFanOutRequest}
    {response : FanOutResponse}
    (ran : runMany treeDepth platform self request = .ok response) :
    (request.argsList = [] ∧
        response.results = [] ∧ response.activity = []) ∨
      ∃ plan dispatched,
        0 < request.argsList.length ∧
          selectTopology treeDepth request.argsList.length
              request.selectorOptions = .ok plan ∧
            dispatchPlan platform self plan request = .ok dispatched ∧
              response.results = dispatched.results ∧
                response.activity = dispatched.activity := by
  unfold runMany at ran
  simp only at ran
  split at ran
  next noJobs =>
    cases ran
    exact .inl ⟨List.length_eq_zero_iff.mp noJobs, rfl, rfl⟩
  next someJobs =>
    split at ran
    · cases ran
    next plan selected =>
      cases dispatch : dispatchPlan platform self plan request with
      | error err =>
          rw [dispatch] at ran
          cases ran
      | ok dispatched =>
          rw [dispatch] at ran
          cases ran
          exact .inr
            ⟨plan, dispatched, Nat.pos_of_ne_zero someJobs, selected,
              dispatch, rfl, rfl⟩

/-- Every answer is aligned with the argument list of its request. -/
theorem response_aligned
    {treeDepth : TreeDepth}
    {platform : Platform}
    {self : CfpCoordinator}
    {request : CoordinatorFanOutRequest}
    {response : FanOutResponse}
    (ran : runMany treeDepth platform self request = .ok response) :
    Aligned (JobOutcome platform response.activity) 0
      request.argsList response.results := by
  rcases runMany_cases ran with
    ⟨noJobs, noResults, -⟩ |
      ⟨plan, dispatched, -, selected, dispatch, results, activity⟩
  · rw [noJobs, noResults]
    exact .nil
  · rw [results, activity]
    exact dispatchPlan_aligned selected dispatch

end CloudflareParallel
