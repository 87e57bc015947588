import CloudflareParallel.FanOutTraces
import CloudflareParallel.PoolFanOut

namespace CloudflareParallel

open ListSlices

/-!
# Runs of a job after it was completed

A run is complete when the user function returned or threw an error of its own;
otherwise the platform ended it.  `Conduct` lists what a platform may do: how
functions end, and what calls and runs fail with.  Every retry reads outcomes
only, so it depends on these whether a completed job is run again.
-/

/-- What the platform and the user functions may do. -/
structure Conduct where
  /-- What a run comes to whose function ran to completion. -/
  completed : Set (Except Thrown JsValue)
  /-- What a call fails with on its way, and a run that is cut short. -/
  failures : Set Thrown
  /-- What a call rejects with whose target ran. -/
  answerLost : Set Thrown
  /-- The same for the pool's call of the coordinator. -/
  poolAnswerLost : Set Rejection

/-- Every run of a job, in order. -/
def runTrace : FanOutTrace (Path × RunnerCall) where
  execute path call := [(path, call)]
  isAbout slot run := run.2.input.taskSlot = some (.index slot)

/-- For every run of a job, in order, whether it was completed. -/
def completionsOf
    (completes : Path → RunnerCall → Bool)
    (slot : Nat)
    (log : List Activity) : List Bool :=
  (runTrace.about slot log).map fun run => completes run.1 run.2

/-- No run comes after a completed one. -/
def NeverReruns (completions : List Bool) : Prop :=
  completions.Pairwise fun earlier _ => earlier = false

namespace Conduct

variable (conduct : Conduct)

/-- A platform and the completions of its runs keep to a conduct. -/
structure Allows
    (platform : Platform)
    (completes : Path → RunnerCall → Bool) : Prop where
  lost :
    ∀ path err, platform.transport path = .lost err → err ∈ conduct.failures
  answerLost :
    ∀ path err,
      platform.transport path = .answerLost err → err ∈ conduct.answerLost
  completed :
    ∀ path call,
      completes path call = true →
      platform.runOne path call ∈ conduct.completed
  cutShort :
    ∀ path call,
      completes path call = false →
      ∃ err ∈ conduct.failures, platform.runOne path call = .error err

/-- A leaf call is repeated although its job was completed. -/
def RepeatsLeafCalls : Prop :=
  (∃ outcome ∈ conduct.completed,
      hasTransientRunFailure [runnerResult outcome]) ∨
    conduct.completed.Nonempty ∧
      ∃ err ∈ conduct.answerLost, isTransientLeafError err

/-- A slice is repeated for the lost answer of a completed job. -/
def RepeatsSlices : Prop :=
  conduct.completed.Nonempty ∧
    ∃ err ∈ conduct.answerLost,
      hasTransientRunFailure [errorToFailedResult err]

/-- A slice is repeated for the failure of another job in it. -/
def RepeatsNeighbours : Prop :=
  conduct.completed.Nonempty ∧
    ∃ err ∈ conduct.failures,
      hasTransientRunFailure [errorToFailedResult err]

/-- A whole fan-out is repeated after its answer was lost. -/
def RepeatsFanOuts (globals : MarshalGlobals) : Prop :=
  conduct.completed.Nonempty ∧
    ∃ err ∈ conduct.poolAnswerLost,
      (marshalError globals err).isRetryable = true

/-- No retry below the pool runs a completed job of a plan again. -/
def Spares : TopologyPlan → Prop
  | .inDo _ => True
  | .fanOut (.hybrid _) => ¬ conduct.RepeatsLeafCalls
  | .fanOut (.tree size branchingFactor _ _) =>
      ¬ conduct.RepeatsLeafCalls ∧ ¬ conduct.RepeatsSlices ∧
        (conduct.RepeatsNeighbours → size ≤ branchingFactor)

/-- No retry of a tier runs a completed job again, whatever is in a slice. -/
def SparesTier : (tier : Nat) → Prop
  | 0 => True
  | 1 => ¬ conduct.RepeatsLeafCalls
  | _ + 2 =>
      ¬ conduct.RepeatsLeafCalls ∧ ¬ conduct.RepeatsSlices ∧
        ¬ conduct.RepeatsNeighbours

end Conduct

/-! ## Lists of completions -/

/-- Without a completed run there is nothing to run again. -/
theorem neverReruns_of_all_false
    {completions : List Bool}
    (none : ∀ completed ∈ completions, completed = false) :
    NeverReruns completions := by
  induction completions with
  | nil =>
      exact .nil
  | cons completed rest inductionHypothesis =>
      rw [List.forall_mem_cons] at none
      exact
        .cons (fun _ _ => none.1) (inductionHypothesis none.2)

/-- What follows attempts without a completed run may complete the job. -/
theorem NeverReruns.append
    {earlier later : List Bool}
    (none : ∀ completed ∈ earlier, completed = false)
    (orderly : NeverReruns later) :
    NeverReruns (earlier ++ later) :=
  List.pairwise_append.mpr
    ⟨neverReruns_of_all_false none, orderly,
      fun completed member _ _ => none completed member⟩

/-- Attempts of which only the last one completes the job. -/
theorem neverReruns_flatMap
    {attempts : List α}
    {completions : α → List Bool}
    (none :
      ∀ attempt ∈ attempts.dropLast,
        ∀ completed ∈ completions attempt, completed = false)
    (orderly : ∀ attempt ∈ attempts, NeverReruns (completions attempt)) :
    NeverReruns (attempts.flatMap completions) := by
  rcases List.eq_nil_or_concat attempts with rfl | ⟨earlier, last, rfl⟩
  · exact .nil
  · rw [List.concat_eq_append] at none orderly ⊢
    rw [List.dropLast_concat] at none
    rw [List.flatMap_append, List.flatMap_singleton]
    refine NeverReruns.append ?_ (orderly last (by simp))
    intro completed member
    obtain ⟨attempt, attemptMember, inAttempt⟩ := List.mem_flatMap.mp member
    exact none attempt attemptMember completed inAttempt

/-- Two completed runs are one too many. -/
theorem not_neverReruns
    {completions : List Bool}
    (all : ∀ completed ∈ completions, completed = true)
    (two : 2 ≤ completions.length) :
    ¬ NeverReruns completions := by
  match completions with
  | first :: second :: rest =>
      intro orderly
      have early := (List.pairwise_cons.mp orderly).1 second (by simp)
      rw [all first (by simp)] at early
      cases early

section Completions

variable (completes : Path → RunnerCall → Bool) (slot : Nat)

/-- A job run here is about its own slot. -/
theorem completionsOf_execute
    (path : Path)
    (call : RunnerCall) :
    completionsOf completes slot [.execute path call] =
      if call.input.taskSlot = some (.index slot) then
        [completes path call]
      else
        [] := by
  unfold completionsOf
  simp only [FanOutTrace.about, FanOutTrace.collect,
    FanOutTrace.collectEntry, runTrace, List.append_nil]
  rw [List.filter_singleton]
  split <;> simp [*]

/-- The completions of a leaf call, attempt by attempt. -/
theorem completionsOf_runBatch
    (leafName : String)
    (attempts : List (Attempt RunBatchRequest Activity)) :
    completionsOf completes slot [.runBatch leafName attempts] =
      attempts.flatMap fun record =>
        completionsOf completes slot (record.reached.getD []) := by
  rw [completionsOf, runTrace.about_runBatch, List.map_flatMap]
  rfl

/-- The completions of a sub-coordinator call, attempt by attempt. -/
theorem completionsOf_dispatch
    (subName : String)
    (attempts : List (Attempt DispatchTreeRequest Activity)) :
    completionsOf completes slot [.dispatch subName attempts] =
      attempts.flatMap fun record =>
        completionsOf completes slot (record.reached.getD []) := by
  rw [completionsOf, runTrace.about_dispatch, List.map_flatMap]
  rfl

end Completions

/-! ## One job, tier by tier -/

/--
A run of one job: it is not run after it was completed, and once it is, what
comes back is no transient failure.
-/
structure SettledRun
    (completes : Path → RunnerCall → Bool)
    (slot : Nat)
    (dispatched : Dispatched) : Prop where
  orderly : NeverReruns (completionsOf completes slot dispatched.activity)
  settled :
    true ∈ completionsOf completes slot dispatched.activity →
    hasTransientRunFailure dispatched.results = false

section Allowed

variable {conduct : Conduct} {platform : Platform}
variable {completes : Path → RunnerCall → Bool}

/-- Where a run is completed, some function can be. -/
theorem Conduct.Allows.nonempty
    (allowed : conduct.Allows platform completes)
    {slot : Nat}
    {log : List Activity}
    (someRun : true ∈ completionsOf completes slot log) :
    conduct.completed.Nonempty := by
  obtain ⟨run, _, completed⟩ := List.mem_map.mp someRun
  exact ⟨_, allowed.completed run.1 run.2 completed⟩

/-- A transient attempt has not completed its job. -/
theorem Conduct.Allows.all_false_of_isTransient
    (allowed : conduct.Allows platform completes)
    (notLeaf : ¬ conduct.RepeatsLeafCalls)
    {path : Path}
    {request : Request}
    {run : Dispatched}
    {slot : Nat}
    (settledRun : SettledRun completes slot run)
    (transient : (platform.call path request run).1.isTransient) :
    ∀ completed ∈
        completionsOf completes slot
          ((platform.call path request run).2.reached.getD []),
      completed = false := by
  intro completed member
  by_contra isCompleted
  rw [Bool.not_eq_false] at isCompleted
  subst isCompleted
  unfold Platform.call at transient member
  cases hop : platform.transport path with
  | delivered =>
      simp only [hop, Option.getD_some] at transient member
      have quiet := settledRun.settled member
      rw [RpcOutcome.isTransient, quiet] at transient
      cases transient
  | lost err =>
      simp only [hop] at member
      cases member
  | answerLost err =>
      simp only [hop, Option.getD_some] at transient member
      exact notLeaf
        (.inr
          ⟨allowed.nonempty member, err, allowed.answerLost path err hop,
            transient⟩)

/-- A retried call runs no job again that it completed. -/
theorem Conduct.Allows.orderly_retried
    (allowed : conduct.Allows platform completes)
    (notLeaf : ¬ conduct.RepeatsLeafCalls)
    {path : Nat → Path}
    {request : Nat → Request}
    {run : Nat → Dispatched}
    {slot : Nat}
    (settledRun : ∀ made, SettledRun completes slot (run made))
    (remaining attempt : Nat) :
    NeverReruns
      ((retryTransient
          (fun made => platform.call (path made) (request made) (run made))
          remaining attempt).2.flatMap
        fun record => completionsOf completes slot (record.reached.getD [])) := by
  obtain ⟨earlier, last, records, _, transient⟩ :=
    retryTransient_split
      (fun made => platform.call (path made) (request made) (run made))
      remaining attempt
  rw [records]
  apply neverReruns_flatMap
  · intro record member
    rw [List.dropLast_concat] at member
    obtain ⟨made, madeMember, rfl⟩ := List.mem_map.mp member
    exact
      allowed.all_false_of_isTransient notLeaf (settledRun made)
        (transient made madeMember)
  · intro record member
    obtain ⟨made, rfl⟩ : ∃ made,
        record =
          (platform.call (path made) (request made) (run made)).2 := by
      rw [← records] at member
      exact mem_retryTransient member
    cases reached :
        (platform.call (path made) (request made) (run made)).2.reached with
    | none =>
        exact .nil
    | some inner =>
        rw [Option.getD_some, platform.call_reached _ _ _ reached]
        exact (settledRun made).orderly

/-- Once a retried call has completed its job, its results say so. -/
theorem Conduct.Allows.settled_retried
    (allowed : conduct.Allows platform completes)
    (notLeaf : ¬ conduct.RepeatsLeafCalls)
    (notSlice : ¬ conduct.RepeatsSlices)
    {path : Nat → Path}
    {request : Nat → Request}
    {run : Nat → Dispatched}
    {slot : Nat}
    (settledRun : ∀ made, SettledRun completes slot (run made))
    (jobs : List (List JsValue))
    (remaining attempt : Nat)
    (someRun :
      true ∈
        ((retryTransient
            (fun made => platform.call (path made) (request made) (run made))
            remaining attempt).2.flatMap
          fun record =>
            completionsOf completes slot (record.reached.getD []))) :
    hasTransientRunFailure
        (settleRpc jobs
          (retryTransient
            (fun made => platform.call (path made) (request made) (run made))
            remaining attempt).1) =
      false := by
  obtain ⟨earlier, last, records, outcome, transient⟩ :=
    retryTransient_split
      (fun made => platform.call (path made) (request made) (run made))
      remaining attempt
  -- Only the last attempt can have completed the job.
  have inLast :
      true ∈
        completionsOf completes slot
          ((platform.call (path last) (request last)
            (run last)).2.reached.getD []) := by
    rw [records, List.flatMap_append, List.mem_append] at someRun
    rcases someRun with inEarlier | inLast
    · obtain ⟨record, member, completed⟩ := List.mem_flatMap.mp inEarlier
      obtain ⟨made, madeMember, rfl⟩ := List.mem_map.mp member
      have none :=
        allowed.all_false_of_isTransient notLeaf (settledRun made)
          (transient made madeMember) true completed
      cases none
    · rwa [List.flatMap_singleton] at inLast
  rw [outcome]
  unfold Platform.call at inLast ⊢
  cases hop : platform.transport (path last) with
  | delivered =>
      simp only [hop, Option.getD_some] at inLast ⊢
      exact (settledRun last).settled inLast
  | lost err =>
      simp only [hop] at inLast
      cases inLast
  | answerLost err =>
      simp only [hop, Option.getD_some] at inLast ⊢
      rw [Bool.eq_false_iff]
      intro failed
      obtain ⟨result, member, resultFails⟩ := List.any_eq_true.mp failed
      obtain ⟨args, _, rfl⟩ := List.mem_map.mp member
      refine notSlice
        ⟨allowed.nonempty inLast, err, allowed.answerLost _ err hop, ?_⟩
      unfold hasTransientRunFailure
      rw [List.any_cons, resultFails, Bool.true_or]

/-- A leaf runs its single job once, and says how it ended. -/
theorem Conduct.Allows.settledRun_leaf
    (allowed : conduct.Allows platform completes)
    (notLeaf : ¬ conduct.RepeatsLeafCalls)
    (path : Path)
    (env : Env)
    (request : RunBatchRequest)
    {args : List JsValue}
    (single : request.argsList = [args])
    (slot : Nat) :
    SettledRun completes slot (runBatchOnEnv platform path env request) := by
  rw [runBatchOnEnv_single single]
  constructor
  · rw [executeJob, completionsOf_execute]
    split
    · exact List.pairwise_singleton _ _
    · exact .nil
  · intro someRun
    rw [executeJob, completionsOf_execute] at someRun
    split at someRun
    next =>
      rw [List.mem_singleton] at someRun
      rw [Bool.eq_false_iff]
      exact fun transient =>
        notLeaf
          (.inl ⟨_, allowed.completed _ _ someRun.symm, transient⟩)
    next =>
      cases someRun

/-- A retried leaf call settles its job. -/
theorem Conduct.Allows.settledRun_leafCall
    (allowed : conduct.Allows platform completes)
    (notLeaf : ¬ conduct.RepeatsLeafCalls)
    (notSlice : ¬ conduct.RepeatsSlices)
    {path : Path}
    {leafName : String}
    {buildBatch : Option CancelStream → RunBatchRequest}
    {stream : Option CancelStream}
    {args : List JsValue}
    (sameJobs : ∀ sent, (buildBatch sent).argsList = [args])
    (slot : Nat) :
    SettledRun completes slot
      { results :=
          settleRpc [args]
            (runBatchWithRetry platform path leafName buildBatch stream).1
        activity :=
          [.runBatch leafName
            (runBatchWithRetry platform path leafName buildBatch
              stream).2] } := by
  have settledRun :=
    fun made =>
      allowed.settledRun_leaf notLeaf
        (path ++ [{ target := leafName, attempt := made }])
        (platform.leafEnv leafName)
        (buildBatch (if made = 0 then stream else none))
        (sameJobs _) slot
  constructor
  · rw [completionsOf_runBatch]
    exact allowed.orderly_retried notLeaf settledRun _ _
  · rw [completionsOf_runBatch]
    exact allowed.settled_retried notLeaf notSlice settledRun [args] _ _

/-- The leaf tier of a single job settles it. -/
theorem Conduct.Allows.settledRun_hybridLeaf
    (allowed : conduct.Allows platform completes)
    (notLeaf : ¬ conduct.RepeatsLeafCalls)
    (notSlice : ¬ conduct.RepeatsSlices)
    (path : Path)
    (ownerId : String)
    (request : DispatchTreeRequest)
    (args : List JsValue)
    (sliceSlotBase sliceIdx : Nat)
    (stream : Option CancelStream)
    (slot : Nat) :
    SettledRun completes slot
      (dispatchHybridLeaf platform path ownerId request [args]
        sliceSlotBase sliceIdx stream) := by
  unfold dispatchHybridLeaf
  simp only [List.mapIdx_cons, List.mapIdx_nil, Dispatched.join,
    List.map_cons, List.map_nil, List.flatten_cons, List.flatten_nil,
    List.append_nil]
  exact allowed.settledRun_leafCall notLeaf notSlice (fun _ => rfl) slot

/-- A retried dispatch settles the job that its targets settle. -/
theorem Conduct.Allows.settledRun_retriedDispatch
    (allowed : conduct.Allows platform completes)
    (notLeaf : ¬ conduct.RepeatsLeafCalls)
    (notSlice : ¬ conduct.RepeatsSlices)
    {path : Nat → Path}
    {request : Nat → DispatchTreeRequest}
    {run : Nat → Dispatched}
    {slot : Nat}
    (settledRun : ∀ made, SettledRun completes slot (run made))
    (subName : String)
    (jobs : List (List JsValue)) :
    SettledRun completes slot
      { results :=
          settleRpc jobs
            (retryTransient
              (fun made => platform.call (path made) (request made) (run made))
              MAX_TRANSIENT_RETRIES 0).1
        activity :=
          [.dispatch subName
            (retryTransient
              (fun made => platform.call (path made) (request made) (run made))
              MAX_TRANSIENT_RETRIES 0).2] } := by
  constructor
  · rw [completionsOf_dispatch]
    exact allowed.orderly_retried notLeaf settledRun _ _
  · rw [completionsOf_dispatch]
    exact allowed.settled_retried notLeaf notSlice settledRun jobs _ _

/--
A sub-coordinator settles a single job, at every depth: by induction on the
depth, since each slice that it cuts is the job itself.
-/
theorem Conduct.Allows.settledRun_dispatchOnEnv
    (allowed : conduct.Allows platform completes)
    (notLeaf : ¬ conduct.RepeatsLeafCalls)
    (notSlice : ¬ conduct.RepeatsSlices)
    (depth : Nat)
    (path : Path)
    (ownerId : String)
    (request : DispatchTreeRequest)
    {args : List JsValue}
    (branchingPositive : 0 < request.branchingFactor)
    (single : request.argsList = [args])
    (one : request.planChildSizes.sum = 1)
    (slot : Nat) :
    SettledRun completes slot
      (dispatchOnEnv platform depth path ownerId request) := by
  induction depth generalizing path ownerId request with
  | zero =>
      unfold dispatchOnEnv
      rw [single]
      obtain ⟨index, stream, only⟩ := forEachSlice_single one
      rw [only]
      exact allowed.settledRun_hybridLeaf notLeaf notSlice ..
  | succ depth inductionHypothesis =>
      unfold dispatchOnEnv
      rw [single]
      obtain ⟨index, stream, only⟩ := forEachSlice_single one
      rw [only]
      simp only
      split
      next =>
        exact allowed.settledRun_hybridLeaf notLeaf notSlice ..
      next =>
        refine
          allowed.settledRun_retriedDispatch notLeaf notSlice ?_ _ _
        intro made
        refine
          inductionHypothesis _ _ (deeperRequest ..) branchingPositive rfl ?_
        rw [deeperRequest, balancedFill_eq_parts,
          BalancedDivision.sum_parts branchingPositive, List.length_singleton]

/-! ## A whole fan-out -/

/-- A log is orderly in a part of the jobs, and runs no others. -/
abbrev RunsOrderly
    (completes : Path → RunnerCall → Bool)
    (base size : Nat)
    (log : List Activity) : Prop :=
  TraceLaw runTrace
    (fun runs => NeverReruns (runs.map fun run => completes run.1 run.2))
    base size log

/-- A leaf call runs the job of its own slot only. -/
theorem about_leafCall_eq_nil
    {path : Path}
    {leafName : String}
    {buildBatch : Option CancelStream → RunBatchRequest}
    {stream : Option CancelStream}
    {slot other : Nat}
    {args : List JsValue}
    (sameBase : ∀ sent, (buildBatch sent).taskSlotBase = some slot)
    (sameJobs : ∀ sent, (buildBatch sent).argsList = [args])
    (otherSlot : other ≠ slot) :
    runTrace.about other
        [.runBatch leafName
          (runBatchWithRetry platform path leafName buildBatch stream).2] =
      [] := by
  rw [runTrace.about_runBatch, List.flatMap_eq_nil_iff]
  intro record member
  obtain ⟨made, rfl⟩ := mem_retryTransient member
  rw [FanOutTrace.aboutRunBatch]
  cases reached :
      (platform.call (path ++ [{ target := leafName, attempt := made }])
        (buildBatch (if made = 0 then stream else none))
        (runBatchOnEnv platform
          (path ++ [{ target := leafName, attempt := made }])
          (platform.leafEnv leafName)
          (buildBatch (if made = 0 then stream else none)))).2.reached with
  | none => rfl
  | some inner =>
      rw [platform.call_reached _ _ _ reached,
        runBatchOnEnv_single (sameJobs _), sameBase]
      simp [FanOutTrace.about, FanOutTrace.collect,
        FanOutTrace.collectEntry, runTrace, executeJob, leafRunnerCall,
        Ne.symm otherSlot]

/-- Where neighbours do no harm, no outcome of a job is transient. -/
theorem Conduct.Allows.quiet_of_jobOutcome
    (allowed : conduct.Allows platform completes)
    (spared : conduct.SparesTier 2)
    (someCompleted : conduct.completed.Nonempty)
    {log : List Activity}
    {slot : Nat}
    {args : List JsValue}
    {result : RunOneResult}
    (outcome : JobOutcome platform log slot args result) :
    hasTransientRunFailure [result] = false := by
  obtain ⟨notLeaf, notSlice, notNeighbours⟩ := spared
  have rejected :
      ∀ path err,
        platform.rejection? path = some err →
        hasTransientRunFailure [errorToFailedResult err] = false := by
    intro path err rejects
    rw [Bool.eq_false_iff]
    intro transient
    unfold Platform.rejection? at rejects
    cases hop : platform.transport path with
    | delivered =>
        simp only [hop] at rejects
        cases rejects
    | lost lostErr =>
        simp only [hop, Option.some.injEq] at rejects
        subst rejects
        exact
          notNeighbours
            ⟨someCompleted, _, allowed.lost path _ hop, transient⟩
    | answerLost lostErr =>
        simp only [hop, Option.some.injEq] at rejects
        subst rejects
        exact
          notSlice
            ⟨someCompleted, _, allowed.answerLost path _ hop, transient⟩
  cases outcome with
  | @executed path call _ _ _ =>
      rw [Bool.eq_false_iff]
      intro transient
      cases completion : completes path call with
      | true =>
          exact
            notLeaf
              (.inl ⟨_, allowed.completed path call completion, transient⟩)
      | false =>
          obtain ⟨err, isFailure, ended⟩ :=
            allowed.cutShort path call completion
          rw [ended] at transient
          exact
            notNeighbours ⟨someCompleted, err, isFailure, transient⟩
  | leafRejected _ _ rejects _ =>
      exact rejected _ _ rejects
  | subCoordRejected _ _ rejects _ =>
      exact rejected _ _ rejects

/-- The same of the results of some jobs. -/
theorem Conduct.Allows.quiet_of_aligned
    (allowed : conduct.Allows platform completes)
    (spared : conduct.SparesTier 2)
    (someCompleted : conduct.completed.Nonempty)
    {log : List Activity}
    {base : Nat}
    {jobs : List (List JsValue)}
    {results : List RunOneResult}
    (aligned : Aligned (JobOutcome platform log) base jobs results) :
    hasTransientRunFailure results = false := by
  induction aligned with
  | nil =>
      rfl
  | cons outcome _ inductionHypothesis =>
      have first := allowed.quiet_of_jobOutcome spared someCompleted outcome
      unfold hasTransientRunFailure at first inductionHypothesis ⊢
      rw [List.any_cons, List.any_nil, Bool.or_false] at first
      rw [List.any_cons, first, inductionHypothesis, Bool.or_false]

/-- On an allowed platform the tiers are as orderly as the conduct is. -/
theorem Conduct.Allows.tierRules_orderly
    (allowed : conduct.Allows platform completes) :
    TierRules runTrace platform fun tier runs =>
      conduct.SparesTier tier →
      NeverReruns (runs.map fun run => completes run.1 run.2) where
  inDo self request args := by
    constructor
    · intro slot _ _ _
      change NeverReruns (completionsOf completes slot [.execute _ _])
      rw [completionsOf_execute]
      split
      · exact List.pairwise_singleton _ _
      · exact .nil
    · intro slot outside
      have otherSlot : slot ≠ 0 := by omega
      simp [FanOutTrace.about, FanOutTrace.collect,
        FanOutTrace.collectEntry, runTrace, inDoRunnerCall,
        Ne.symm otherSlot]
  leafCall path leafName buildBatch stream slot args sameBase sameJobs := by
    constructor
    · intro other _ _ notLeaf
      change NeverReruns (completionsOf completes other [.runBatch _ _])
      rw [completionsOf_runBatch]
      exact
        allowed.orderly_retried notLeaf
          (fun made =>
            allowed.settledRun_leaf notLeaf
              (path ++ [{ target := leafName, attempt := made }])
              (platform.leafEnv leafName)
              (buildBatch (if made = 0 then stream else none))
              (sameJobs _) other)
          _ _
    · intro other outside
      exact about_leafCall_eq_nil sameBase sameJobs (by omega)
  dispatch tier base jobs subName path request run someTier _ aligned each := by
    constructor
    · intro slot notBefore notAfter spared
      obtain ⟨lower, rfl⟩ : ∃ lower, tier = lower + 1 :=
        ⟨tier - 1, by omega⟩
      change NeverReruns (completionsOf completes slot [.dispatch _ _])
      refine
        (allowed.settledRun_retriedDispatch spared.1 spared.2.1 ?_ subName
          jobs).orderly
      intro made
      constructor
      · refine (each made).inside slot notBefore notAfter ?_
        cases lower with
        | zero => exact spared.1
        | succ lower => exact spared
      · intro someRun
        exact
          allowed.quiet_of_aligned spared (allowed.nonempty someRun)
            (aligned made)
    · intro slot outside
      exact
        about_retriedDispatch_eq_nil (fun _ => rfl) fun made =>
          (each made).outside slot outside

/-- Where every slice is one job, neighbours do no harm either. -/
theorem Conduct.Allows.orderly_dispatchTree
    (allowed : conduct.Allows platform completes)
    (notLeaf : ¬ conduct.RepeatsLeafCalls)
    (notSlice : ¬ conduct.RepeatsSlices)
    {self : CfpCoordinator}
    {maxFanOut size branchingFactor depth : Nat}
    {children : List FanOutPlan}
    {request : CoordinatorFanOutRequest}
    {dispatched : Dispatched}
    (branchingPositive : 0 < branchingFactor)
    (conserved :
      PlanConserved maxFanOut size
        (.tree size branchingFactor depth children))
    (sameSize : size = request.argsList.length)
    (small : size ≤ branchingFactor)
    (ran :
      dispatchTree platform self branchingFactor depth children request =
        .ok dispatched) :
    RunsOrderly completes 0 request.argsList.length dispatched.activity := by
  have oneJobEach :
      ∀ childSize ∈ children.map FanOutPlan.size, childSize ≤ 1 := by
    intro childSize member
    rw [(conserved.treeNode (FanOutPlan.self_mem_nodes _)).nothingClamped,
      usedChildren_eq_usedParts] at member
    exact
      BalancedDivision.le_of_mem_parts (by omega)
        (BalancedDivision.mem_parts_of_mem_usedParts member)
  apply partLaw_traceLaw.dispatchTree conserved sameSize ran
  intro index slice subName path sent someItem isChild requestCovered
  have atMostOne := oneJobEach _ isChild
  have notNone := List.length_pos_of_ne_nil someItem
  obtain ⟨args, single⟩ :=
    List.length_eq_one_iff.mp (Nat.le_antisymm atMostOne notNone)
  constructor
  · intro slot _ _
    change NeverReruns (completionsOf completes slot [.dispatch _ _])
    refine
      (allowed.settledRun_retriedDispatch notLeaf notSlice ?_ subName
        slice.items).orderly
    intro made
    refine
      allowed.settledRun_dispatchOnEnv notLeaf notSlice _ _ _
        (treeRequest ..) branchingPositive single ?_ slot
    rw [requestCovered, single, List.length_singleton]
  · intro slot outside
    refine about_retriedDispatch_eq_nil (fun _ => rfl) fun made => ?_
    exact
      (allowed.tierRules_orderly.tierLaw.dispatchOnEnv _ _ _
          (treeRequest ..) branchingPositive (requestCovered _)).outside
        slot outside

/-- What a run is orderly in, it is orderly everywhere. -/
theorem RunsOrderly.everywhere
    {size : Nat}
    {log : List Activity}
    (orderly : RunsOrderly completes 0 size log)
    (slot : Nat) :
    NeverReruns (completionsOf completes slot log) := by
  by_cases inRange : slot < size
  · exact orderly.inside slot (Nat.zero_le _) (by omega)
  · rw [completionsOf, orderly.outside slot (by omega)]
    exact .nil

/-- Within a conduct that spares the plan, no job is run after it completed. -/
theorem Conduct.Allows.orderly_runMany
    (allowed : conduct.Allows platform completes)
    {treeDepth : TreeDepth}
    {self : CfpCoordinator}
    {request : CoordinatorFanOutRequest}
    {plan : TopologyPlan}
    {response : FanOutResponse}
    (spared : conduct.Spares plan)
    (selected :
      selectTopology treeDepth request.argsList.length
        request.selectorOptions = .ok plan)
    (ran : runMany treeDepth platform self request = .ok response) :
    RunsOrderly completes 0 request.argsList.length response.activity := by
  have byTier :
      conduct.SparesTier plan.retryTiers →
      RunsOrderly completes 0 request.argsList.length response.activity :=
    fun spares =>
      (allowed.tierRules_orderly.runMany selected ran).mono
        fun _ orderly => orderly spares
  match plan, spared with
  | .inDo _, _ =>
      exact byTier trivial
  | .fanOut (.hybrid _), notLeaf =>
      exact byTier notLeaf
  | .fanOut (.tree size branchingFactor depth children), spared =>
      obtain ⟨notLeaf, notSlice, small⟩ := spared
      by_cases neighbours : conduct.RepeatsNeighbours
      · rcases runMany_cases ran with
          ⟨noJobs, -, nothing⟩ | ⟨_, _, someJob, -⟩
        · rw [noJobs, nothing]
          exact traceLaw_nil
        · obtain ⟨dispatched, dispatch, same⟩ :=
            dispatched_of_runMany selected someJob ran
          rcases selectTopology_plan selected with
            ⟨shape, _⟩ | shape | ⟨_, _, _, shape, branchingPositive, conserved⟩
          · cases shape
          · cases shape
          · cases shape
            rw [same]
            exact
              allowed.orderly_dispatchTree notLeaf notSlice
                branchingPositive conserved rfl (small neighbours) dispatch
      · refine byTier ?_
        obtain ⟨tier, tiers⟩ :
            ∃ tier, max 1 (depth - 1) + 1 = tier + 2 :=
          ⟨max 1 (depth - 1) - 1, by omega⟩
        rw [TopologyPlan.retryTiers, tiers]
        exact ⟨notLeaf, notSlice, neighbours⟩

end Allowed

end CloudflareParallel
