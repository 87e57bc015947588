import CloudflareParallel.FanOutReruns

namespace CloudflareParallel

open ListSlices

/-!
# Where a completed job is run again

For every way in which a conduct does not spare a plan there is a platform that
keeps to the conduct and runs a completed job again: one whose leaf calls all
repeat, one that loses the answers of the leaves, and one whose first job takes
its neighbours with it.
-/

/-- Every call reaches its target. -/
def Platform.Reaches (platform : Platform) : Prop :=
  ∀ path err, platform.transport path ≠ .lost err

section Reaches

variable {platform : Platform}

/-- A call that arrives is carried out. -/
theorem Platform.Reaches.call_reached
    (reaches : platform.Reaches)
    (path : Path)
    (request : Request)
    (run : Dispatched) :
    (platform.call path request run).2.reached = some run.activity := by
  unfold Platform.call
  cases hop : platform.transport path with
  | delivered => rfl
  | lost err => exact (reaches path err hop).elim
  | answerLost err => rfl

/-- Where every call arrives, a leaf call runs its job in every attempt. -/
theorem Platform.Reaches.about_leafCall
    (reaches : platform.Reaches)
    {path : Path}
    {leafName : String}
    {buildBatch : Option CancelStream → RunBatchRequest}
    {stream : Option CancelStream}
    {slot : Nat}
    {args : List JsValue}
    (sameBase : ∀ sent, (buildBatch sent).taskSlotBase = some slot)
    (sameJobs : ∀ sent, (buildBatch sent).argsList = [args]) :
    (runTrace.about slot
        [.runBatch leafName
          (runBatchWithRetry platform path leafName buildBatch
            stream).2]).length =
      (runBatchWithRetry platform path leafName buildBatch
        stream).2.length := by
  have perAttempt :
      ∀ record ∈
          (runBatchWithRetry platform path leafName buildBatch stream).2,
        (runTrace.aboutRunBatch slot record).length = 1 := by
    intro record member
    obtain ⟨made, rfl⟩ := mem_retryTransient member
    rw [FanOutTrace.aboutRunBatch, reaches.call_reached,
      runBatchOnEnv_single (sameJobs _), sameBase]
    simp [FanOutTrace.about, FanOutTrace.collect, FanOutTrace.collectEntry,
      runTrace, executeJob, leafRunnerCall]
  rw [runTrace.about_runBatch, List.length_flatMap,
    List.map_congr_left perAttempt]
  simp

/-- Where every call arrives, a dispatch does what its first attempt does. -/
theorem Platform.Reaches.about_dispatch
    (reaches : platform.Reaches)
    {subName : String}
    {path : Nat → Path}
    {request : Nat → DispatchTreeRequest}
    {run : Nat → Dispatched}
    (slot : Nat) :
    List.Sublist (runTrace.about slot (run 0).activity)
      (runTrace.about slot
        [.dispatch subName
          (retryTransient
            (fun made => platform.call (path made) (request made) (run made))
            MAX_TRANSIENT_RETRIES 0).2]) := by
  rw [runTrace.about_dispatch]
  have first :=
    List.sublist_flatten_of_mem
      (List.mem_map_of_mem
        (f := fun record : Attempt DispatchTreeRequest Activity =>
          runTrace.about slot (record.reached.getD []))
        (first_mem_retryTransient
          (fun made => platform.call (path made) (request made) (run made))
          MAX_TRANSIENT_RETRIES 0))
  rw [reaches.call_reached, Option.getD_some] at first
  rw [List.flatMap_def]
  exact first

/-- Where leaf calls make so many attempts, every job is run as often. -/
theorem Platform.Reaches.tierRules_runs
    (reaches : platform.Reaches)
    {least : Nat → Nat}
    (inDo : least 0 ≤ 1)
    (above : ∀ tier, least (tier + 1 + 1) ≤ least (tier + 1))
    (leafCall :
      ∀ path leafName buildBatch stream args,
        (∀ sent, (buildBatch sent).argsList = [args]) →
        least 1 ≤
          (runBatchWithRetry platform path leafName buildBatch
            stream).2.length) :
    TierRules runTrace platform fun tier runs => least tier ≤ runs.length where
  inDo self request args := by
    constructor
    · intro slot _ _
      have zero : slot = 0 := by omega
      subst zero
      simpa [FanOutTrace.about, FanOutTrace.collect,
        FanOutTrace.collectEntry, runTrace, inDoRunnerCall] using inDo
    · intro slot outside
      have otherSlot : 0 ≠ slot := by omega
      simp [FanOutTrace.about, FanOutTrace.collect,
        FanOutTrace.collectEntry, runTrace, inDoRunnerCall, otherSlot]
  leafCall path leafName buildBatch stream slot args sameBase sameJobs := by
    constructor
    · intro other notBefore notAfter
      obtain rfl : other = slot := by omega
      rw [reaches.about_leafCall sameBase sameJobs]
      exact leafCall _ _ _ _ args sameJobs
    · intro other outside
      exact about_leafCall_eq_nil sameBase sameJobs (by omega)
  dispatch tier base jobs subName path request run someTier _ aligned each := by
    constructor
    · intro slot notBefore notAfter
      obtain ⟨lower, rfl⟩ : ∃ lower, tier = lower + 1 :=
        ⟨tier - 1, by omega⟩
      calc
        least (lower + 1 + 1) ≤ least (lower + 1) := above lower
        _ ≤ (runTrace.about slot (run 0).activity).length :=
          (each 0).inside slot notBefore notAfter
        _ ≤ _ := (reaches.about_dispatch slot).length_le
    · intro slot outside
      exact
        about_retriedDispatch_eq_nil (fun _ => rfl) fun made =>
          (each made).outside slot outside

/-- Where every call arrives, every job is run. -/
theorem Platform.Reaches.tierRules_someRun
    (reaches : platform.Reaches) :
    TierRules runTrace platform fun _ runs => 1 ≤ runs.length :=
  reaches.tierRules_runs (Nat.le_refl 1) (fun _ => Nat.le_refl 1)
    fun _ _ _ _ _ _ =>
      List.length_pos_of_mem (first_mem_retryTransient _ _ _)

/-- Where every leaf call repeats as well, every job is run again. -/
theorem Platform.Reaches.tierRules_runsAgain
    (reaches : platform.Reaches)
    (repeats :
      ∀ (path : Path) (request : RunBatchRequest) (env : Env)
        (args : List JsValue),
        request.argsList = [args] →
        (platform.call path request
          (runBatchOnEnv platform path env request)).1.isTransient) :
    TierRules runTrace platform fun tier runs =>
      (if tier = 0 then 0 else 2) ≤ runs.length := by
  refine
    @Platform.Reaches.tierRules_runs platform reaches
      (fun tier => if tier = 0 then 0 else 2) (by simp) (by simp) ?_
  intro path leafName buildBatch stream args sameJobs
  have everyAttempt :=
    length_retryTransient_of_transient
      (fun made =>
        repeats (path ++ [{ target := leafName, attempt := made }])
          (buildBatch (if made = 0 then stream else none))
          (platform.leafEnv leafName) args (sameJobs _))
      MAX_TRANSIENT_RETRIES 0
  rw [runBatchWithRetry, everyAttempt]
  decide

/-- The runs of a job for which completion is certain are all completed. -/
theorem all_completionsOf
    {completes : Path → RunnerCall → Bool}
    {slot : Nat}
    (certain :
      ∀ path (call : RunnerCall),
        call.input.taskSlot = some (.index slot) →
        completes path call = true)
    (log : List Activity) :
    ∀ completed ∈ completionsOf completes slot log, completed = true := by
  intro completed member
  obtain ⟨run, runMember, rfl⟩ := List.mem_map.mp member
  have isAbout := (List.mem_filter.mp runMember).2
  exact certain _ _ (by simpa [runTrace] using isAbout)

/-- Two completed runs of a job are one too many. -/
theorem not_neverReruns_of_two
    {completes : Path → RunnerCall → Bool}
    {slot : Nat}
    {log : List Activity}
    (certain :
      ∀ path (call : RunnerCall),
        call.input.taskSlot = some (.index slot) →
        completes path call = true)
    (two : 2 ≤ (runTrace.about slot log).length) :
    ¬ NeverReruns (completionsOf completes slot log) := by
  refine not_neverReruns (all_completionsOf certain log) ?_
  rwa [completionsOf, List.length_map]

/-! ## The first slice of a tree -/

/-- What the first sub-coordinator call of a tree carries. -/
structure FirstCall
    (platform : Platform)
    (size branchingFactor depth : Nat)
    (log : List Activity) where
  subName : String
  path : Nat → Path
  request : Nat → DispatchTreeRequest
  carried : Nat
  later : List Activity
  isFirst :
    log =
      .dispatch subName
          (retryTransient
            (fun made =>
              platform.call (path made) (request made)
                (subCoordDispatch platform (path made) subName
                  (request made)))
            MAX_TRANSIENT_RETRIES 0).2 ::
        later
  oneHop : ∀ made, (path made).length = 1
  sameBase : ∀ made, (request made).taskSlotBase = some 0
  sameDepth : ∀ made, (request made).depth = depth - 1
  sameBranching : ∀ made, (request made).branchingFactor = branchingFactor
  covered :
    ∀ made,
      (request made).planChildSizes.sum = (request made).argsList.length
  carries : ∀ made, (request made).argsList.length = carried
  someJob : 0 < carried
  neighbours : branchingFactor < size → 2 ≤ carried

/-- Every tree of some jobs has a first sub-coordinator call. -/
theorem exists_firstCall
    {platform : Platform}
    {self : CfpCoordinator}
    {maxFanOut size branchingFactor depth : Nat}
    {children : List FanOutPlan}
    {request : CoordinatorFanOutRequest}
    {dispatched : Dispatched}
    (branchingPositive : 0 < branchingFactor)
    (conserved :
      PlanConserved maxFanOut size
        (.tree size branchingFactor depth children))
    (sameSize : size = request.argsList.length)
    (someJob : 0 < size)
    (ran :
      dispatchTree platform self branchingFactor depth children request =
        .ok dispatched) :
    Nonempty
      (FirstCall platform size branchingFactor depth
        dispatched.activity) := by
  have unclamped :=
    (conserved.treeNode (FanOutPlan.self_mem_nodes _)).nothingClamped
  obtain ⟨restSizes, used⟩ :=
    BalancedDivision.usedParts_eq_cons branchingPositive someJob
  rw [usedChildren_eq_usedParts, used] at unclamped
  obtain ⟨child, others, rfl, childSize, _⟩ :=
    List.map_eq_cons_iff.mp unclamped
  have childPositive : 0 < child.size := by
    rw [childSize]
    exact BalancedDivision.first_pos branchingPositive someJob
  have sum :=
    sum_planSliceChildSizes conserved (FanOutPlan.self_mem_nodes _)
  have fits : child.size ≤ request.argsList.length := by
    rw [planSliceChildSizes, List.map_cons, List.sum_cons, FanOutPlan.size,
      sameSize] at sum
    omega
  have carriedLength :
      (request.argsList.take child.size).length = child.size := by
    rw [List.length_take, Nat.min_eq_left fits]
  have someItem : request.argsList.take child.size ≠ [] := by
    intro nothing
    rw [nothing, List.length_nil] at carriedLength
    omega
  have childCovered :=
    sum_planSliceChildSizes conserved
      (FanOutPlan.child_mem_nodes (List.mem_cons_self ..))
  obtain ⟨subCoordBound, leafBound⟩ := bound_of_dispatchTree ran
  rw [dispatchTree, if_neg (not_not.mpr subCoordBound),
    if_neg (not_not.mpr leafBound)] at ran
  cases ran
  obtain ⟨stream, later, first⟩ :=
    @forEachSlice_first request.argsList child.size
      (others.map FanOutPlan.size) request.cancelStream _ someItem
  refine ⟨?_⟩
  exact
    { subName := _
      path := _
      request := _
      carried := child.size
      later := later
      isFirst := first
      oneHop := fun _ => rfl
      sameBase := fun _ => rfl
      sameDepth := fun _ => rfl
      sameBranching := fun _ => rfl
      covered := fun _ => by
        simpa [treeRequest, carriedLength] using childCovered
      carries := fun _ => carriedLength
      someJob := childPositive
      neighbours := fun many => by
        rw [childSize]
        exact BalancedDivision.two_le_first branchingPositive many }

/-- A dispatch whose attempts all repeat runs its jobs again. -/
theorem Platform.Reaches.repeated_dispatch
    (reaches : platform.Reaches)
    {subName : String}
    {path : Nat → Path}
    {request : Nat → DispatchTreeRequest}
    {run : Nat → Dispatched}
    {slot : Nat}
    (eachRuns : ∀ made, 1 ≤ (runTrace.about slot (run made).activity).length)
    (repeats :
      ∀ made,
        (platform.call (path made) (request made) (run made)).1.isTransient) :
    2 ≤
      (runTrace.about slot
        [.dispatch subName
          (retryTransient
            (fun made => platform.call (path made) (request made) (run made))
            MAX_TRANSIENT_RETRIES 0).2]).length := by
  have perAttempt :
      ∀ count ∈
          (retryTransient
              (fun made =>
                platform.call (path made) (request made) (run made))
              MAX_TRANSIENT_RETRIES 0).2.map
            fun record =>
              (runTrace.about slot (record.reached.getD [])).length,
        1 ≤ count := by
    intro count member
    obtain ⟨record, recordMember, rfl⟩ := List.mem_map.mp member
    obtain ⟨made, rfl⟩ := mem_retryTransient recordMember
    rw [reaches.call_reached, Option.getD_some]
    exact eachRuns made
  have enough := List.length_le_sum_of_one_le _ perAttempt
  rw [List.length_map, ← List.length_flatMap, ← runTrace.about_dispatch,
    length_retryTransient_of_transient repeats] at enough
  exact Nat.le_trans (by decide) enough

/-- Where the first call of a tree repeats, it runs its jobs again. -/
theorem Platform.Reaches.repeated_firstCall
    (reaches : platform.Reaches)
    {size branchingFactor depth slot : Nat}
    {log : List Activity}
    (branchingPositive : 0 < branchingFactor)
    (first : FirstCall platform size branchingFactor depth log)
    (inSlice : slot < first.carried)
    (repeats :
      ∀ made,
        (platform.call (first.path made) (first.request made)
          (subCoordDispatch platform (first.path made) first.subName
            (first.request made))).1.isTransient) :
    2 ≤ (runTrace.about slot log).length := by
  have eachRuns :
      ∀ made,
        1 ≤
          (runTrace.about slot
            (subCoordDispatch platform (first.path made) first.subName
              (first.request made)).activity).length := by
    intro made
    have law :=
      reaches.tierRules_someRun.tierLaw.dispatchOnEnv
        (first.request made).depth (first.path made)
        (platform.idFromName first.subName) (first.request made)
        (by rw [first.sameBranching]; exact branchingPositive)
        (first.covered made)
    rw [first.sameBase, Option.getD_some, first.carries] at law
    exact law.inside slot (Nat.zero_le _) (by omega)
  have twice :=
    @Platform.Reaches.repeated_dispatch platform reaches first.subName _ _ _
      slot eachRuns repeats
  rw [first.isFirst, ← List.singleton_append, runTrace.about_append,
    List.length_append]
  exact Nat.le_trans twice (Nat.le_add_right _ _)

/-! ## Platforms that keep to a conduct -/

/-- Every function ends alike, and every call meets with the same fate. -/
def Platform.uniform
    (transport : Transport)
    (outcome : Except Thrown JsValue) : Platform where
  idFromName name := name
  leafEnv _ := []
  transport _ := transport
  runOne _ _ := outcome

/-- The calls of the leaves at the end of a tree lose their answers. -/
def Platform.losingAnswers
    (tiers : Nat)
    (err : Thrown)
    (outcome : Except Thrown JsValue) : Platform where
  idFromName name := name
  leafEnv _ := []
  transport path := if path.length = tiers then .answerLost err else .delivered
  runOne _ _ := outcome

/-- The first job fails, and every other function ends alike. -/
def Platform.failingFirst
    (err : Thrown)
    (outcome : Except Thrown JsValue) : Platform where
  idFromName name := name
  leafEnv _ := []
  transport _ := .delivered
  runOne _ call :=
    if call.input.taskSlot = some (.index 0) then .error err else outcome

/-- How a call ends on a platform that loses the answers of the leaves. -/
theorem call_losingAnswers
    {tiers : Nat}
    {err : Thrown}
    {outcome : Except Thrown JsValue}
    (path : Path)
    (request : Request)
    (run : Dispatched) :
    ((Platform.losingAnswers tiers err outcome).call path request run).1 =
      if path.length = tiers then .error err else .ok run.results := by
  unfold Platform.call Platform.losingAnswers
  by_cases atLeaf : path.length = tiers <;> simp [atLeaf]

/-- Leaves that lose their answers are taken for leaves that failed. -/
theorem results_losingLeaves
    {tiers : Nat}
    {err : Thrown}
    {outcome : Except Thrown JsValue}
    {path : Path}
    (above : path.length + 1 = tiers)
    (ownerId : String)
    (request : DispatchTreeRequest)
    (slice : List (List JsValue))
    (sliceSlotBase sliceIdx : Nat)
    (stream : Option CancelStream) :
    ∀ result ∈
        (dispatchHybridLeaf (.losingAnswers tiers err outcome) path ownerId
          request slice sliceSlotBase sliceIdx stream).results,
      result = errorToFailedResult err := by
  unfold dispatchHybridLeaf
  rw [Dispatched.results_join, map_mapIdx]
  intro result member
  obtain ⟨results, resultsMember, inside⟩ := List.mem_flatten.mp member
  obtain ⟨job, _, rfl⟩ := List.mem_mapIdx.mp resultsMember
  simp only [runBatchWithRetry] at inside
  obtain ⟨last, final, _⟩ := retryTransient_final _ MAX_TRANSIENT_RETRIES 0
  rw [final, call_losingAnswers, List.length_append, List.length_singleton,
    if_pos above] at inside
  exact List.mem_singleton.mp inside

/--
Below a tree whose leaves lose their answers, every result says so: by
induction on the depth, which says how far away the leaves are.
-/
theorem results_losingAnswers
    {tiers : Nat}
    {err : Thrown}
    {outcome : Except Thrown JsValue}
    (depth : Nat)
    (path : Path)
    (ownerId : String)
    (request : DispatchTreeRequest)
    (atDepth : path.length + max 1 depth = tiers) :
    ∀ result ∈
        (dispatchOnEnv (.losingAnswers tiers err outcome) depth path ownerId
          request).results,
      result = errorToFailedResult err := by
  induction depth generalizing path ownerId request with
  | zero =>
      apply results_forEachSlice
      intro index slice stream
      have above : path.length + 1 = tiers := by omega
      exact results_losingLeaves above _ _ _ _ _ _
  | succ depth inductionHypothesis =>
      apply results_forEachSlice
      intro index slice stream
      simp only
      split
      next bottom =>
        have above : path.length + 1 = tiers := by omega
        exact results_losingLeaves above _ _ _ _ _ _
      next notBottom =>
        intro result member
        obtain ⟨last, final, _⟩ :=
          retryTransient_final _ MAX_TRANSIENT_RETRIES 0
        rw [final, call_losingAnswers, List.length_append,
          List.length_singleton, if_neg (by omega)] at member
        refine inductionHypothesis _ _ _ ?_ result member
        rw [List.length_append, List.length_singleton]
        omega

end Reaches

/-- Some platform that keeps to a conduct runs a completed job again. -/
def Conduct.Reruns
    (conduct : Conduct)
    (treeDepth : TreeDepth)
    (self : CfpCoordinator)
    (request : CoordinatorFanOutRequest) : Prop :=
  ∃ platform completes response slot,
    conduct.Allows platform completes ∧
      runMany treeDepth platform self request = .ok response ∧
      ¬ NeverReruns (completionsOf completes slot response.activity)

section Reruns

variable {conduct : Conduct} {treeDepth : TreeDepth} {self : CfpCoordinator}
variable {request : CoordinatorFanOutRequest} {plan : TopologyPlan}

/-- A uniform platform keeps to a conduct that lets everything complete so. -/
theorem Conduct.allows_uniform
    {transport : Transport}
    {outcome : Except Thrown JsValue}
    (isCompleted : outcome ∈ conduct.completed)
    (notLost : ∀ err, transport ≠ .lost err)
    (isLost :
      ∀ err, transport = .answerLost err → err ∈ conduct.answerLost) :
    conduct.Allows (.uniform transport outcome) fun _ _ => true where
  lost _ err same := (notLost err same).elim
  answerLost _ err same := isLost err same
  completed _ _ _ := isCompleted
  cutShort _ _ never := nomatch never

/-- On a uniform platform whose leaf calls repeat, every job is run again. -/
theorem Conduct.reruns_of_uniform
    (transport : Transport)
    {outcome : Except Thrown JsValue}
    (isCompleted : outcome ∈ conduct.completed)
    (notLost : ∀ err, transport ≠ .lost err)
    (isLost :
      ∀ err, transport = .answerLost err → err ∈ conduct.answerLost)
    (repeats :
      ∀ (path : Path) (batch : RunBatchRequest) (env : Env)
        (args : List JsValue),
        batch.argsList = [args] →
        ((Platform.uniform transport outcome).call path batch
          (runBatchOnEnv (.uniform transport outcome) path env
            batch)).1.isTransient)
    (someJob : 0 < request.argsList.length)
    (selected :
      selectTopology treeDepth request.argsList.length
        request.selectorOptions = .ok plan)
    (bound : self.carriesOut plan = true)
    (someTier : 0 < plan.retryTiers) :
    conduct.Reruns treeDepth self request := by
  obtain ⟨response, ran⟩ :=
    (runMany_answers_iff someJob).mpr ⟨plan, selected, bound⟩
  have reaches : (Platform.uniform transport outcome).Reaches :=
    fun _ err => notLost err
  have again :=
    ((reaches.tierRules_runsAgain repeats).runMany selected ran).inside 0
      (Nat.zero_le _) (by omega)
  rw [if_neg (by omega)] at again
  exact
    ⟨_, _, response, 0, conduct.allows_uniform isCompleted notLost isLost, ran,
      not_neverReruns_of_two (fun _ _ _ => rfl) again⟩

/-- A conduct that repeats leaf calls runs a completed job again. -/
theorem Conduct.reruns_of_leafCalls
    (leafCalls : conduct.RepeatsLeafCalls)
    (someJob : 0 < request.argsList.length)
    (selected :
      selectTopology treeDepth request.argsList.length
        request.selectorOptions = .ok plan)
    (bound : self.carriesOut plan = true)
    (someTier : 0 < plan.retryTiers) :
    conduct.Reruns treeDepth self request := by
  rcases leafCalls with
    ⟨outcome, isCompleted, transient⟩ |
      ⟨⟨outcome, isCompleted⟩, err, isLost, transient⟩
  · refine
      conduct.reruns_of_uniform .delivered isCompleted nofun nofun ?_ someJob
        selected bound someTier
    intro path batch env args single
    rw [runBatchOnEnv_single single]
    exact transient
  · refine
      conduct.reruns_of_uniform (.answerLost err) isCompleted nofun ?_ ?_
        someJob selected bound someTier
    · rintro _ ⟨⟩
      exact isLost
    · intro path batch env args _
      exact transient

/-- The first call of a run whose plan is a tree. -/
theorem exists_firstCall_runMany
    {platform : Platform}
    {size branchingFactor depth : Nat}
    {children : List FanOutPlan}
    {response : FanOutResponse}
    (someJob : 0 < request.argsList.length)
    (selected :
      selectTopology treeDepth request.argsList.length
          request.selectorOptions =
        .ok (.fanOut (.tree size branchingFactor depth children)))
    (ran : runMany treeDepth platform self request = .ok response) :
    0 < branchingFactor ∧
      Nonempty
        (FirstCall platform size branchingFactor depth
          response.activity) := by
  obtain ⟨dispatched, dispatch, same⟩ :=
    dispatched_of_runMany selected someJob ran
  rcases selectTopology_plan selected with
    ⟨shape, _⟩ | shape | ⟨_, _, _, shape, branchingPositive, conserved⟩
  · cases shape
  · cases shape
  · cases shape
    rw [same]
    exact
      ⟨branchingPositive,
        exists_firstCall branchingPositive conserved rfl someJob dispatch⟩

/-- The first result of the first call is that of the first job. -/
theorem FirstCall.exists_result
    {platform : Platform}
    {size branchingFactor depth : Nat}
    {log : List Activity}
    (first : FirstCall platform size branchingFactor depth log)
    (branchingPositive : 0 < branchingFactor)
    (made : Nat) :
    ∃ args,
      ∃ result ∈
          (subCoordDispatch platform (first.path made) first.subName
            (first.request made)).results,
        JobOutcome platform
          (subCoordDispatch platform (first.path made) first.subName
            (first.request made)).activity
          0 args result := by
  have aligned :=
    dispatchOnEnv_aligned platform (first.request made).depth
      (first.path made) (platform.idFromName first.subName)
      (first.request made)
      (by rw [first.sameBranching]; exact branchingPositive)
      (first.covered made)
  rw [first.sameBase, Option.getD_some] at aligned
  have someJob := first.someJob
  rw [← first.carries made] at someJob
  obtain ⟨result, found, outcome⟩ :=
    aligned.getElem? (List.getElem?_eq_getElem someJob)
  exact ⟨_, result, List.mem_of_getElem? found, outcome⟩

/-- Where the first call of a tree repeats, a completed job is run again. -/
theorem Conduct.reruns_of_firstCall
    {platform : Platform}
    {completes : Path → RunnerCall → Bool}
    {size branchingFactor depth : Nat}
    {children : List FanOutPlan}
    (slot : Nat)
    (allowed : conduct.Allows platform completes)
    (reaches : platform.Reaches)
    (certain :
      ∀ path (call : RunnerCall),
        call.input.taskSlot = some (.index slot) →
        completes path call = true)
    (repeats :
      ∀ log (first : FirstCall platform size branchingFactor depth log),
        0 < branchingFactor →
        slot < first.carried ∧
          ∀ made,
            (platform.call (first.path made) (first.request made)
              (subCoordDispatch platform (first.path made) first.subName
                (first.request made))).1.isTransient)
    (someJob : 0 < request.argsList.length)
    (selected :
      selectTopology treeDepth request.argsList.length
          request.selectorOptions =
        .ok (.fanOut (.tree size branchingFactor depth children)))
    (bound :
      self.carriesOut (.fanOut (.tree size branchingFactor depth children)) =
        true) :
    conduct.Reruns treeDepth self request := by
  obtain ⟨response, ran⟩ :=
    (@runMany_answers_iff treeDepth platform self request someJob).mpr
      ⟨_, selected, bound⟩
  obtain ⟨branchingPositive, ⟨first⟩⟩ :=
    exists_firstCall_runMany someJob selected ran
  obtain ⟨inSlice, everyAttempt⟩ := repeats _ first branchingPositive
  exact
    ⟨platform, completes, response, slot, allowed, ran,
      not_neverReruns_of_two certain
        (reaches.repeated_firstCall branchingPositive first inSlice
          everyAttempt)⟩

/-- A conduct that repeats slices runs a completed job of a tree again. -/
theorem Conduct.reruns_of_slices
    (slices : conduct.RepeatsSlices)
    {size branchingFactor depth : Nat}
    {children : List FanOutPlan}
    (someJob : 0 < request.argsList.length)
    (selected :
      selectTopology treeDepth request.argsList.length
          request.selectorOptions =
        .ok (.fanOut (.tree size branchingFactor depth children)))
    (bound :
      self.carriesOut (.fanOut (.tree size branchingFactor depth children)) =
        true) :
    conduct.Reruns treeDepth self request := by
  obtain ⟨⟨outcome, isCompleted⟩, err, isLost, transient⟩ := slices
  have fates :
      ∀ path,
        (Platform.losingAnswers (max 1 (depth - 1) + 1) err
              outcome).transport path = .answerLost err ∨
          (Platform.losingAnswers (max 1 (depth - 1) + 1) err
              outcome).transport path = .delivered := by
    intro path
    dsimp only [Platform.losingAnswers]
    split
    · exact .inl rfl
    · exact .inr rfl
  have reaches :
      (Platform.losingAnswers (max 1 (depth - 1) + 1) err outcome).Reaches := by
    intro path lostErr lost
    rcases fates path with fate | fate <;> rw [fate] at lost <;> cases lost
  have allowed :
      conduct.Allows (.losingAnswers (max 1 (depth - 1) + 1) err outcome)
        fun _ _ => true := by
    refine ⟨fun path lostErr lost => (reaches path lostErr lost).elim,
      fun path lostErr lost => ?_, fun _ _ _ => isCompleted,
      fun _ _ never => nomatch never⟩
    rcases fates path with fate | fate <;> rw [fate] at lost <;> cases lost
    exact isLost
  refine
    conduct.reruns_of_firstCall 0 allowed reaches (fun _ _ _ => rfl) ?_
      someJob selected bound
  intro log first branchingPositive
  refine ⟨first.someJob, fun made => ?_⟩
  rw [call_losingAnswers, first.oneHop, if_neg (by omega)]
  obtain ⟨_, result, member, _⟩ := first.exists_result branchingPositive made
  have failed :=
    results_losingAnswers (first.request made).depth (first.path made) _
      (first.request made) (by rw [first.oneHop, first.sameDepth]; omega)
      result member
  rw [failed] at member
  exact hasTransientRunFailure_of_mem transient member

/-- A conduct that repeats neighbours does so where a slice has two jobs. -/
theorem Conduct.reruns_of_neighbours
    (neighbours : conduct.RepeatsNeighbours)
    {size branchingFactor depth : Nat}
    {children : List FanOutPlan}
    (many : branchingFactor < size)
    (someJob : 0 < request.argsList.length)
    (selected :
      selectTopology treeDepth request.argsList.length
          request.selectorOptions =
        .ok (.fanOut (.tree size branchingFactor depth children)))
    (bound :
      self.carriesOut (.fanOut (.tree size branchingFactor depth children)) =
        true) :
    conduct.Reruns treeDepth self request := by
  obtain ⟨⟨outcome, isCompleted⟩, err, isFailure, transient⟩ := neighbours
  have allowed :
      conduct.Allows (.failingFirst err outcome)
        fun _ call => decide (call.input.taskSlot ≠ some (.index 0)) := by
    refine ⟨fun _ _ => nofun, fun _ _ => nofun, fun path call isOther => ?_,
      fun path call isFirst => ⟨err, isFailure, ?_⟩⟩
    · rw [decide_eq_true_eq] at isOther
      unfold Platform.failingFirst
      simp only [if_neg isOther]
      exact isCompleted
    · rw [decide_eq_false_iff_not, not_not] at isFirst
      unfold Platform.failingFirst
      simp only [if_pos isFirst]
  refine
    conduct.reruns_of_firstCall 1 allowed (fun _ _ => nofun) ?_ ?_ someJob
      selected bound
  · intro path call isSecond
    simp [isSecond]
  · intro log first branchingPositive
    refine ⟨first.neighbours many, fun made => ?_⟩
    obtain ⟨_, result, member, answer⟩ :=
      first.exists_result branchingPositive made
    refine hasTransientRunFailure_of_mem ?_ member
    cases answer with
    | @executed path call _ _ isFirst =>
        simpa [Platform.failingFirst, isFirst, runnerResult] using transient
    | leafRejected _ _ rejected => cases rejected
    | subCoordRejected _ _ rejected => cases rejected

/-- A conduct that does not spare a plan runs a completed job again. -/
theorem Conduct.reruns_of_not_spares
    (notSpared : ¬ conduct.Spares plan)
    (someJob : 0 < request.argsList.length)
    (selected :
      selectTopology treeDepth request.argsList.length
        request.selectorOptions = .ok plan)
    (bound : self.carriesOut plan = true) :
    conduct.Reruns treeDepth self request := by
  match plan, notSpared with
  | .inDo _, notSpared =>
      exact (notSpared trivial).elim
  | .fanOut (.hybrid _), repeats =>
      exact
        conduct.reruns_of_leafCalls (not_not.mp repeats) someJob selected
          bound Nat.one_pos
  | .fanOut (.tree size branchingFactor depth children), notSpared =>
      by_cases leafCalls : conduct.RepeatsLeafCalls
      · exact
          conduct.reruns_of_leafCalls leafCalls someJob selected bound
            (Nat.succ_pos _)
      · by_cases slices : conduct.RepeatsSlices
        · exact conduct.reruns_of_slices slices someJob selected bound
        · unfold Conduct.Spares at notSpared
          simp only [leafCalls, slices, not_false_eq_true, true_and,
            Classical.not_imp, Nat.not_le] at notSpared
          exact
            conduct.reruns_of_neighbours notSpared.1 notSpared.2 someJob
              selected bound

end Reruns
end CloudflareParallel
