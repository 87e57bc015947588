import CloudflareParallel.FanOutAlignment

namespace CloudflareParallel

open ListSlices

/-!
# Request options along every chain of hops

Each hop rebuilds the request for the next one field by field.  `KeepsOptions`
says that every batch sent and every job run below a request carries its
options; the tree hop loses one of them, `freshIsolate`.
-/

/-- The batch carries the options of the request. -/
structure CarriesOptions
    (request : CoordinatorFanOutRequest)
    (batch : RunBatchRequest) : Prop where
  fnSource : batch.fnSource = request.fnSource
  fnHash : batch.fnHash = request.fnHash
  context : batch.context = request.context
  allowList : batch.allowList = request.allowList
  workerOptions : batch.workerOptions = request.workerOptions
  cacheKeyStrategy : batch.cacheKeyStrategy = request.cacheKeyStrategy
  envelope : batch.envelope = request.envelope
  freshIsolate :
    batch.freshIsolate.getD false = request.freshIsolate.getD false

/-- The runner call is made under the options of the request. -/
structure RunsUnder
    (request : CoordinatorFanOutRequest)
    (env : Env)
    (call : RunnerCall) : Prop where
  options :
    call.options = {
      callSite := .doMethod
      cacheKeyStrategy := request.cacheKeyStrategy.getD .stable
      workerOptions := wireToWorkerOptions request.workerOptions env
      allowList := request.allowList
    }
  fnSource : call.input.fnSource = request.fnSource
  fnHash : call.input.fnHash = request.fnHash
  context : call.input.context = request.context
  bindings : call.input.bindings = some env
  envelope : call.input.envelope = request.envelope.withMode .poolFn
  freshIsolate :
    call.input.freshIsolate.getD false = request.freshIsolate.getD false

/-- What one activity entry owes to the options of the request. -/
def EntryKeepsOptions
    (request : CoordinatorFanOutRequest) : Activity → Prop
  | .execute _ call => ∃ env, RunsUnder request env call
  | .runBatch _ attempts =>
      ∀ attempt ∈ attempts, CarriesOptions request attempt.request
  | .dispatch _ _ => True

/-- Every batch and every job below a log keeps the options. -/
def KeepsOptions
    (request : CoordinatorFanOutRequest)
    (log : List Activity) : Prop :=
  ∀ entry, Occurs entry log → EntryKeepsOptions request entry

/-- A leaf runs every job of its batch under the options of the batch. -/
theorem keepsOptions_runBatchOnEnv
    {request : CoordinatorFanOutRequest}
    {batch : RunBatchRequest}
    (carries : CarriesOptions request batch)
    (platform : Platform)
    (path : Path)
    (env : Env) :
    KeepsOptions request
      (runBatchOnEnv platform path env batch).activity := by
  have under :
      ∀ args slot stream,
        RunsUnder request env
          (leafRunnerCall env batch args slot stream) := by
    intro args slot stream
    refine {
      options := ?_
      fnSource := carries.fnSource
      fnHash := carries.fnHash
      context := carries.context
      bindings := rfl
      envelope := ?_
      freshIsolate := carries.freshIsolate
    }
    · simp only [leafRunnerCall, carries.cacheKeyStrategy,
        carries.workerOptions, carries.allowList]
    · simp only [leafRunnerCall, carries.envelope]
  unfold runBatchOnEnv
  split
  · exact throughout_execute ⟨env, under _ _ _⟩
  · apply throughout_join
    intro part member
    obtain ⟨index, inRange, rfl⟩ := List.mem_mapIdx.mp member
    exact throughout_execute ⟨env, under _ _ _⟩

/-- A retried leaf RPC keeps the options of the batches it builds. -/
theorem keepsOptions_runBatchWithRetry
    {request : CoordinatorFanOutRequest}
    {platform : Platform}
    {path : Path}
    {leafName : String}
    {buildBatch : Option CancelStream → RunBatchRequest}
    {cancelStream : Option CancelStream}
    (carries : ∀ stream, CarriesOptions request (buildBatch stream)) :
    KeepsOptions request
      [.runBatch leafName
        (runBatchWithRetry platform path leafName buildBatch
          cancelStream).2] := by
  apply throughout_runBatchWithRetry
  · intro attempt attemptMember
    obtain ⟨made, rfl⟩ := mem_retryTransient attemptMember
    rw [Platform.call_request]
    exact carries _
  · intro hop stream
    exact keepsOptions_runBatchOnEnv (carries stream) platform hop _

/-- The tree request carries the options that its type has a field for. -/
structure CarriesTreeOptions
    (request : CoordinatorFanOutRequest)
    (tree : DispatchTreeRequest) : Prop where
  fnSource : tree.fnSource = request.fnSource
  fnHash : tree.fnHash = request.fnHash
  context : tree.context = request.context
  allowList : tree.allowList = request.allowList
  workerOptions : tree.workerOptions = request.workerOptions
  cacheKeyStrategy : tree.cacheKeyStrategy = request.cacheKeyStrategy
  envelope : tree.envelope = request.envelope

/-- A sub-coordinator hands the options down, except for a fresh isolate. -/
theorem keepsOptions_dispatchHybridLeaf
    {request : CoordinatorFanOutRequest}
    {tree : DispatchTreeRequest}
    (shared : request.freshIsolate.getD false = false)
    (carries : CarriesTreeOptions request tree)
    (platform : Platform)
    (path : Path)
    (ownerId : String)
    (slice : List (List JsValue))
    (sliceSlotBase sliceIdx : Nat)
    (cancelStream : Option CancelStream) :
    KeepsOptions request
      (dispatchHybridLeaf platform path ownerId tree slice
        sliceSlotBase sliceIdx cancelStream).activity := by
  apply throughout_join
  intro part member
  obtain ⟨index, inRange, rfl⟩ := List.mem_mapIdx.mp member
  apply keepsOptions_runBatchWithRetry
  intro stream
  exact {
    fnSource := carries.fnSource
    fnHash := carries.fnHash
    context := carries.context
    allowList := carries.allowList
    workerOptions := carries.workerOptions
    cacheKeyStrategy := carries.cacheKeyStrategy
    envelope := carries.envelope
    freshIsolate := shared.symm
  }

/-- The options survive every depth, by induction on it. -/
theorem keepsOptions_dispatchOnEnv
    {request : CoordinatorFanOutRequest}
    {tree : DispatchTreeRequest}
    (shared : request.freshIsolate.getD false = false)
    (carries : CarriesTreeOptions request tree)
    (platform : Platform)
    (depth : Nat)
    (path : Path)
    (ownerId : String) :
    KeepsOptions request
      (dispatchOnEnv platform depth path ownerId tree).activity := by
  induction depth generalizing path ownerId tree with
  | zero =>
      apply throughout_forEachSlice
      intro index slice stream _
      exact keepsOptions_dispatchHybridLeaf shared carries _ _ _ _ _ _ _
  | succ depth inductionHypothesis =>
      apply throughout_forEachSlice
      intro index slice stream _
      simp only
      split
      · exact keepsOptions_dispatchHybridLeaf shared carries _ _ _ _ _ _ _
      · refine throughout_retriedDispatch (fun _ => rfl)
          (fun _ => trivial) ?_
        intro made
        apply inductionHypothesis
        exact {
          fnSource := carries.fnSource
          fnHash := carries.fnHash
          context := carries.context
          allowList := carries.allowList
          workerOptions := carries.workerOptions
          cacheKeyStrategy := carries.cacheKeyStrategy
          envelope := carries.envelope
        }

/-- The hybrid shape keeps every option. -/
theorem keepsOptions_dispatchHybrid
    {platform : Platform}
    {self : CfpCoordinator}
    {plan : HybridPlan}
    {request : CoordinatorFanOutRequest}
    {dispatched : Dispatched}
    (ran : dispatchHybrid platform self plan request = .ok dispatched) :
    KeepsOptions request dispatched.activity := by
  rw [dispatchHybrid, if_pos (bound_of_dispatchHybrid ran)] at ran
  cases ran
  apply throughout_forEachSlice
  intro index slice stream _
  apply keepsOptions_runBatchWithRetry
  intro childStream
  constructor <;> rfl

/-- A tree keeps the options of a request that shares its isolates. -/
theorem keepsOptions_dispatchTree
    {platform : Platform}
    {self : CfpCoordinator}
    {branchingFactor depth : Nat}
    {children : List FanOutPlan}
    {request kept : CoordinatorFanOutRequest}
    {dispatched : Dispatched}
    (shared : kept.freshIsolate.getD false = false)
    (sameOtherwise :
      { request with freshIsolate := kept.freshIsolate } = kept)
    (ran :
      dispatchTree platform self branchingFactor depth children request =
        .ok dispatched) :
    KeepsOptions kept dispatched.activity := by
  obtain ⟨subCoordBound, leafBound⟩ := bound_of_dispatchTree ran
  rw [dispatchTree, if_neg (not_not.mpr subCoordBound),
    if_neg (not_not.mpr leafBound)] at ran
  cases ran
  apply throughout_forEachSlice
  intro index slice stream _
  refine throughout_retriedDispatch (fun _ => rfl)
    (fun _ => trivial) ?_
  intro made
  apply keepsOptions_dispatchOnEnv shared
  rw [← sameOtherwise]
  constructor <;> rfl

/-- The single-job path keeps every option. -/
theorem keepsOptions_dispatchInDo
    {platform : Platform}
    {self : CfpCoordinator}
    {size : Nat}
    {request : CoordinatorFanOutRequest}
    {dispatched : Dispatched}
    (ran : dispatchInDo platform self size request = .ok dispatched) :
    KeepsOptions request dispatched.activity := by
  unfold dispatchInDo at ran
  split at ran
  · cases ran
    exact throughout_nil
  · split at ran
    · cases ran
    · cases ran
      have under :
          RunsUnder request self.env
            (inDoRunnerCall self request
              (request.argsList.head?.getD [])) := by
        constructor <;> rfl
      exact throughout_execute ⟨self.env, under⟩

/-- What a request with some job runs is the dispatch of its plan. -/
theorem dispatched_of_runMany
    {treeDepth : TreeDepth}
    {platform : Platform}
    {self : CfpCoordinator}
    {request : CoordinatorFanOutRequest}
    {plan : TopologyPlan}
    {response : FanOutResponse}
    (selected :
      selectTopology treeDepth request.argsList.length
        request.selectorOptions = .ok plan)
    (someJob : 0 < request.argsList.length)
    (ran : runMany treeDepth platform self request = .ok response) :
    ∃ dispatched,
      dispatchPlan platform self plan request = .ok dispatched ∧
        response.activity = dispatched.activity := by
  rcases runMany_cases ran with
    ⟨noJobs, -⟩ | ⟨_, dispatched, -, isSelected, dispatch, -, activity⟩
  · rw [noJobs] at someJob
    cases someJob
  · cases selected.symm.trans isSelected
    exact ⟨dispatched, dispatch, activity⟩

/-- What a request runs is empty or the dispatch of its selected plan. -/
theorem activity_of_runMany
    {treeDepth : TreeDepth}
    {platform : Platform}
    {self : CfpCoordinator}
    {request : CoordinatorFanOutRequest}
    {plan : TopologyPlan}
    {response : FanOutResponse}
    (selected :
      selectTopology treeDepth request.argsList.length
        request.selectorOptions = .ok plan)
    (ran : runMany treeDepth platform self request = .ok response) :
    response.activity = [] ∨
      ∃ dispatched,
        dispatchPlan platform self plan request = .ok dispatched ∧
          response.activity = dispatched.activity := by
  rcases runMany_cases ran with ⟨-, -, nothing⟩ | ⟨_, _, someJob, -⟩
  · exact .inl nothing
  · exact .inr (dispatched_of_runMany selected someJob ran)

/-- Outside a tree every option is kept. -/
theorem keepsOptions_of_not_selectsTree
    {treeDepth : TreeDepth}
    {platform : Platform}
    {self : CfpCoordinator}
    {request : CoordinatorFanOutRequest}
    {plan : TopologyPlan}
    {response : FanOutResponse}
    (selected :
      selectTopology treeDepth request.argsList.length
        request.selectorOptions = .ok plan)
    (ran : runMany treeDepth platform self request = .ok response)
    (notTree :
      ¬ request.selectorOptions.selectsTree request.argsList.length) :
    KeepsOptions request response.activity := by
  rcases activity_of_runMany selected ran with
    nothing | ⟨dispatched, dispatch, same⟩
  · rw [nothing]
    exact throughout_nil
  · rw [same]
    obtain ⟨_, _, shape⟩ := selectTopology_cases selected
    rcases shape with ⟨_, rfl, _⟩ | ⟨_, rfl⟩ | ⟨isTree, _⟩
    · exact keepsOptions_dispatchInDo dispatch
    · exact keepsOptions_dispatchHybrid dispatch
    · exact (notTree isTree).elim

/-- Inside a tree the options are kept with isolates shared. -/
theorem keepsOptions_of_selectsTree
    {treeDepth : TreeDepth}
    {platform : Platform}
    {self : CfpCoordinator}
    {request kept : CoordinatorFanOutRequest}
    {plan : TopologyPlan}
    {response : FanOutResponse}
    (selected :
      selectTopology treeDepth request.argsList.length
        request.selectorOptions = .ok plan)
    (ran : runMany treeDepth platform self request = .ok response)
    (isTree :
      request.selectorOptions.selectsTree request.argsList.length)
    (shared : kept.freshIsolate.getD false = false)
    (sameOtherwise :
      { request with freshIsolate := kept.freshIsolate } = kept) :
    KeepsOptions kept response.activity := by
  rcases activity_of_runMany selected ran with
    nothing | ⟨dispatched, dispatch, same⟩
  · rw [nothing]
    exact throughout_nil
  · rw [same]
    obtain ⟨_, _, shape⟩ := selectTopology_cases selected
    rcases shape with ⟨notTree, _, _⟩ | ⟨notTree, _⟩ | ⟨_, rfl⟩
    · exact (notTree isTree).elim
    · exact (notTree isTree).elim
    · obtain ⟨children, shape⟩ :=
        buildTreePlan_eq_tree treeDepth request.argsList.length
          request.selectorOptions.branching
          request.selectorOptions.fanOutCap
      rw [shape] at dispatch
      exact keepsOptions_dispatchTree shared sameOtherwise dispatch

/--
Every job of a fan-out runs under the options of its request, except that it
may get no fresh isolate.
-/
theorem exists_runsUnder_of_runMany
    {treeDepth : TreeDepth}
    {platform : Platform}
    {self : CfpCoordinator}
    {request : CoordinatorFanOutRequest}
    {response : FanOutResponse}
    (ran : runMany treeDepth platform self request = .ok response)
    {path : Path}
    {call : RunnerCall}
    (executed : Occurs (.execute path call) response.activity) :
    ∃ env freshIsolate,
      RunsUnder { request with freshIsolate := freshIsolate } env call := by
  rcases runMany_cases ran with ⟨-, -, noActivity⟩ | ⟨_, _, -, selected, -⟩
  · have nothing : Throughout (fun _ => False) [] := throughout_nil
    rw [noActivity] at executed
    exact (nothing _ executed).elim
  · by_cases isTree :
        request.selectorOptions.selectsTree request.argsList.length
    · have keeps :
          KeepsOptions { request with freshIsolate := none }
            response.activity :=
        keepsOptions_of_selectsTree selected ran isTree rfl rfl
      obtain ⟨env, under⟩ := keeps _ executed
      exact ⟨env, none, under⟩
    · obtain ⟨env, under⟩ :=
        keepsOptions_of_not_selectsTree selected ran isTree _ executed
      exact ⟨env, request.freshIsolate, under⟩

/--
Fan-out results are aligned with their arguments in every topology.  A
request that the selector accepts is answered, and every answer has exactly one
entry per job, whose entry at a position is the outcome of that very job with
its own arguments and that position as its global task slot.  Whatever is
executed for an answer is the function of the request, under its options.
-/
theorem runMany_aligned
    (treeDepth : TreeDepth)
    (platform : Platform)
    (self : CfpCoordinator)
    (request : CoordinatorFanOutRequest) :
    (∀ plan,
      selectTopology treeDepth request.argsList.length
        request.selectorOptions = .ok plan →
      self.hasBinding "CfpWorkerDO" →
      self.hasBinding "CfpSubCoord" →
      ∃ response,
        runMany treeDepth platform self request = .ok response) ∧
    (∀ response,
      runMany treeDepth platform self request = .ok response →
      (response.results.length = request.argsList.length ∧
        ∀ slot args,
          request.argsList[slot]? = some args →
          ∃ result,
            response.results[slot]? = some result ∧
              JobOutcome platform response.activity slot args result) ∧
        ∀ path call,
          Occurs (.execute path call) response.activity →
          ∃ env freshIsolate,
            RunsUnder { request with freshIsolate := freshIsolate } env
              call) := by
  refine ⟨?_, ?_⟩
  · intro plan selected leafBound subCoordBound
    exact runMany_answers platform selected leafBound subCoordBound
  · intro response ran
    have aligned := response_aligned ran
    refine ⟨⟨aligned.length_eq, ?_⟩, ?_⟩
    · intro slot args found
      obtain ⟨result, resultFound, outcome⟩ := aligned.getElem? found
      rw [Nat.zero_add] at outcome
      exact ⟨result, resultFound, outcome⟩
    · intro path call executed
      exact exists_runsUnder_of_runMany ran executed

/--
Seventeen jobs over a tree of two levels come back as seventeen results, the
last of them that of the function of the request on the last arguments.
-/
theorem runMany_aligned_seventeen :
    ∃ response path call,
      runMany .exact .ideal .configured (.overFour 17) = .ok response ∧
        response.results.length = 17 ∧
        Occurs (.execute path call) response.activity ∧
        call.input.fnSource = "(x) => x" ∧
        call.input.args = [.number (.finite "16")] ∧
        call.input.taskSlot = some (.index 16) ∧
        response.results[16]? =
          some (runnerResult (Platform.ideal.runOne path call)) := by
  have aligned :=
    runMany_aligned .exact .ideal .configured (.overFour 17)
  obtain ⟨leafBound, subCoordBound⟩ := CfpCoordinator.hasBinding_configured
  obtain ⟨response, ran⟩ := aligned.1 _ rfl leafBound subCoordBound
  obtain ⟨⟨sameLength, entries⟩, options⟩ := aligned.2 response ran
  obtain ⟨result, found, outcome⟩ :=
    entries 16 [.number (.finite "16")] rfl
  cases outcome with
  | @executed path call occurs argsAre slotIs =>
      obtain ⟨_, _, under⟩ := options _ _ occurs
      exact ⟨response, path, call, ran, sameLength, occurs, under.fnSource,
        argsAre, slotIs, found⟩
  | leafRejected _ _ rejected =>
      rw [Platform.reliable_ideal.not_rejected] at rejected
      cases rejected
  | subCoordRejected _ _ rejected =>
      rw [Platform.reliable_ideal.not_rejected] at rejected
      cases rejected

/-- On a reliable platform every answered request with a job ran that job. -/
theorem exists_execution
    {treeDepth : TreeDepth}
    {platform : Platform}
    (reliable : platform.Reliable)
    {self : CfpCoordinator}
    {request : CoordinatorFanOutRequest}
    {response : FanOutResponse}
    (ran : runMany treeDepth platform self request = .ok response)
    (someJob : 0 < request.argsList.length) :
    ∃ path call, Occurs (.execute path call) response.activity := by
  obtain ⟨args, found⟩ : ∃ args, request.argsList[0]? = some args :=
    ⟨request.argsList[0], List.getElem?_eq_getElem someJob⟩
  obtain ⟨result, _, outcome⟩ := (response_aligned ran).getElem? found
  cases outcome with
  | executed occurs =>
      exact ⟨_, _, occurs⟩
  | leafRejected _ _ rejected =>
      rw [reliable.not_rejected] at rejected
      cases rejected
  | subCoordRejected _ _ rejected =>
      rw [reliable.not_rejected] at rejected
      cases rejected

/-- A tree asked for fresh isolates runs its jobs without. -/
theorem not_keepsOptions_of_fresh_tree
    {treeDepth : TreeDepth}
    {platform : Platform}
    (reliable : platform.Reliable)
    {self : CfpCoordinator}
    {request : CoordinatorFanOutRequest}
    {plan : TopologyPlan}
    {response : FanOutResponse}
    (selected :
      selectTopology treeDepth request.argsList.length
        request.selectorOptions = .ok plan)
    (ran : runMany treeDepth platform self request = .ok response)
    (isTree :
      request.selectorOptions.selectsTree request.argsList.length)
    (fresh : request.freshIsolate = some true) :
    ¬ KeepsOptions request response.activity := by
  intro keeps
  have sharing :
      KeepsOptions { request with freshIsolate := none }
        response.activity :=
    keepsOptions_of_selectsTree selected ran isTree rfl rfl
  obtain ⟨path, call, occurs⟩ := exists_execution reliable ran isTree.1
  obtain ⟨_, asked⟩ := keeps _ occurs
  obtain ⟨_, shared⟩ := sharing _ occurs
  have freshCall := asked.freshIsolate
  rw [shared.freshIsolate, fresh] at freshCall
  cases freshCall

/--
Request options are independent of topology, on every platform, exactly when
the topology is no tree or the request does not ask for fresh isolates.
-/
theorem runMany_keepsOptions_iff
    {treeDepth : TreeDepth}
    {self : CfpCoordinator}
    {request : CoordinatorFanOutRequest}
    {plan : TopologyPlan}
    (selected :
      selectTopology treeDepth request.argsList.length
        request.selectorOptions = .ok plan)
    (leafBound : self.hasBinding "CfpWorkerDO")
    (subCoordBound : self.hasBinding "CfpSubCoord") :
    (∀ platform response,
        runMany treeDepth platform self request = .ok response →
        KeepsOptions request response.activity) ↔
      ¬ request.selectorOptions.selectsTree request.argsList.length ∨
        request.freshIsolate ≠ some true := by
  constructor
  · intro keeps
    by_contra neither
    push Not at neither
    obtain ⟨response, ran⟩ :=
      runMany_answers .ideal selected leafBound subCoordBound
    exact
      not_keepsOptions_of_fresh_tree Platform.reliable_ideal selected ran
        neither.1 neither.2 (keeps _ _ ran)
  · intro condition platform response ran
    by_cases isTree :
        request.selectorOptions.selectsTree request.argsList.length
    · have shared : request.freshIsolate.getD false = false := by
        rcases condition with notTree | notFresh
        · exact (notTree isTree).elim
        · cases asked : request.freshIsolate with
          | none =>
              rfl
          | some fresh =>
              cases fresh with
              | false =>
                  rfl
              | true =>
                  exact (notFresh asked).elim
      exact keepsOptions_of_selectsTree selected ran isTree shared rfl
    · exact keepsOptions_of_not_selectsTree selected ran isTree

/-- Seventeen jobs over a tree keep their options when isolates are shared. -/
theorem runMany_keepsOptions_seventeen :
    ∃ response,
      runMany .exact .ideal .configured (.overFour 17) = .ok response ∧
        KeepsOptions (.overFour 17) response.activity := by
  have selected :
      selectTopology .exact
          (CoordinatorFanOutRequest.overFour 17).argsList.length
          (CoordinatorFanOutRequest.overFour 17).selectorOptions =
        .ok (.fanOut (buildTreePlanAt 4 4 2 17)) :=
    rfl
  obtain ⟨leafBound, subCoordBound⟩ := CfpCoordinator.hasBinding_configured
  obtain ⟨response, ran⟩ :=
    runMany_answers .ideal selected leafBound subCoordBound
  have keeps :=
    (runMany_keepsOptions_iff selected leafBound subCoordBound).mpr
      (.inr (by decide))
  exact ⟨response, ran, keeps _ _ ran⟩

/-- Asked for fresh isolates, five jobs over a tree do not get them. -/
theorem runMany_drops_freshIsolate :
    ∃ response,
      runMany .exact .ideal .configured (.overFour 5 (some true)) =
          .ok response ∧
        ¬ KeepsOptions (.overFour 5 (some true)) response.activity := by
  have selected :
      selectTopology .exact
          (CoordinatorFanOutRequest.overFour 5 (some true)).argsList.length
          (CoordinatorFanOutRequest.overFour 5 (some true)).selectorOptions =
        .ok (.fanOut (buildTreePlanAt 4 4 1 5)) :=
    rfl
  obtain ⟨leafBound, subCoordBound⟩ := CfpCoordinator.hasBinding_configured
  obtain ⟨response, ran⟩ :=
    runMany_answers .ideal selected leafBound subCoordBound
  exact ⟨response, ran,
    not_keepsOptions_of_fresh_tree Platform.reliable_ideal selected ran
      (by decide) rfl⟩

end CloudflareParallel
