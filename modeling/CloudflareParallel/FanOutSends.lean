import Mathlib.Algebra.Order.BigOperators.Group.List
import CloudflareParallel.FanOutTraces

namespace CloudflareParallel

open ListSlices

/-!
# How often a job is sent to a leaf

Every tier of a fan-out runs the retry loop around the tier below, so the
attempts of the tiers multiply.  `sendsOf` counts the leaf calls that carry the
job of a global slot: never more than the product of the budgets, and just
that many where every call fails transiently.
-/

/-- Whether a batch carries the job of a global slot. -/
def RunBatchRequest.carriesSlot
    (request : RunBatchRequest)
    (slot : Nat) : Bool :=
  let slotBase := request.taskSlotBase.getD 0
  slotBase ≤ slot && slot < slotBase + request.argsList.length

/-- The leaf calls, attempt by attempt. -/
def sendTrace : FanOutTrace RunBatchRequest where
  runBatch _ request := [request]
  isAbout slot request := request.carriesSlot slot

/-- How often the job of a global slot is sent to a leaf. -/
def sendsOf (slot : Nat) (log : List Activity) : Nat :=
  (sendTrace.about slot log).length

/-- The sends along a chain of retry loops that all use their budget up. -/
def sendBudget : (tiers : Nat) → Nat
  | 0 => 0
  | tiers + 1 => (1 + MAX_TRANSIENT_RETRIES) ^ (tiers + 1)

/-- One more retry loop multiplies the sends. -/
theorem sendBudget_succ
    {tiers : Nat}
    (someTier : 0 < tiers) :
    sendBudget (tiers + 1) =
      (1 + MAX_TRANSIENT_RETRIES) * sendBudget tiers := by
  cases tiers with
  | zero =>
      omega
  | succ tiers =>
      rw [sendBudget, sendBudget, Nat.pow_succ, Nat.mul_comm]

/-- An attempt of a leaf call sends its batch, whatever becomes of it. -/
theorem aboutRunBatch_sendTrace
    {platform : Platform}
    {path : Path}
    {env : Env}
    {request : RunBatchRequest}
    {args : List JsValue}
    (single : request.argsList = [args])
    (slot : Nat) :
    sendTrace.aboutRunBatch slot
        (platform.call path request
          (runBatchOnEnv platform path env request)).2 =
      if request.taskSlotBase.getD 0 = slot then [request] else [] := by
  have noSendBelow :
      sendTrace.about slot
          ((platform.call path request
            (runBatchOnEnv platform path env request)).2.reached.getD []) =
        [] := by
    cases reached :
        (platform.call path request
          (runBatchOnEnv platform path env request)).2.reached with
    | none =>
        rfl
    | some inner =>
        rw [Option.getD_some, platform.call_reached _ _ _ reached,
          runBatchOnEnv_single single]
        rfl
  rw [FanOutTrace.aboutRunBatch, noSendBelow, List.append_nil,
    Platform.call_request, Platform.call_path]
  have carries :
      request.carriesSlot slot =
        decide (request.taskSlotBase.getD 0 = slot) := by
    rw [RunBatchRequest.carriesSlot, single, List.length_singleton,
      ← Bool.decide_and]
    apply decide_eq_decide.mpr
    omega
  simp [sendTrace, List.filter_singleton, carries, Bool.cond_decide]

/-- A leaf call sends its job in every attempt, and no other job. -/
theorem traceLaw_leafCall_sends
    {platform : Platform}
    {path : Path}
    {leafName : String}
    {buildBatch : Option CancelStream → RunBatchRequest}
    {stream : Option CancelStream}
    {slot : Nat}
    {args : List JsValue}
    (sameBase : ∀ sent, (buildBatch sent).taskSlotBase = some slot)
    (sameJobs : ∀ sent, (buildBatch sent).argsList = [args]) :
    TraceLaw sendTrace
      (fun sends =>
        sends.length =
          (runBatchWithRetry platform path leafName buildBatch
            stream).2.length)
      slot 1
      [.runBatch leafName
        (runBatchWithRetry platform path leafName buildBatch stream).2] := by
  have perAttempt :
      ∀ other,
        ∀ attempt ∈
            (runBatchWithRetry platform path leafName buildBatch stream).2,
          sendTrace.aboutRunBatch other attempt =
            if slot = other then [attempt.request] else [] := by
    intro other attempt member
    obtain ⟨made, rfl⟩ := mem_retryTransient member
    simp only [aboutRunBatch_sendTrace (sameJobs _), sameBase,
      Option.getD_some, Platform.call_request]
  constructor
  · intro other notBefore notAfter
    have same : slot = other := by omega
    rw [sendTrace.about_runBatch, List.length_flatMap,
      List.map_congr_left fun attempt member => by
        rw [perAttempt other attempt member, if_pos same,
          List.length_singleton]]
    simp
  · intro other outside
    rw [sendTrace.about_runBatch, List.flatMap_eq_nil_iff]
    intro attempt member
    rw [perAttempt other attempt member, if_neg (by omega)]

/-- Whatever the coordinator runs itself, it does not send. -/
theorem traceLaw_inDo_sends
    (self : CfpCoordinator)
    (request : CoordinatorFanOutRequest)
    (args : List JsValue) :
    TraceLaw sendTrace (fun sends => sends.length = 0) 0 1
      [.execute [] (inDoRunnerCall self request args)] where
  inside _ _ _ := rfl
  outside _ _ := rfl

/-- The attempts of a retried dispatch, each with what its target sent. -/
theorem length_about_retriedDispatch
    (slot : Nat)
    (subName : String)
    (attempts : List (Attempt DispatchTreeRequest Activity)) :
    (sendTrace.about slot [.dispatch subName attempts]).length =
      (attempts.map fun attempt =>
        sendsOf slot (attempt.reached.getD [])).sum := by
  rw [sendTrace.about_dispatch, List.length_flatMap]
  rfl

/-- On every platform the sends stay within the budget of the tiers. -/
theorem tierRules_sends_le (platform : Platform) :
    TierRules sendTrace platform
      (fun tiers sends => sends.length ≤ sendBudget tiers) where
  inDo self request args :=
    (traceLaw_inDo_sends self request args).mono fun _ none => Nat.le_of_eq none
  leafCall path leafName buildBatch stream slot args sameBase sameJobs := by
    refine (traceLaw_leafCall_sends sameBase sameJobs).mono ?_
    intro sends asMany
    rw [asMany, sendBudget, Nat.pow_one, Nat.add_comm]
    exact length_retryTransient_le _ _ _
  dispatch tier base jobs subName path request run someTier _ _ each := by
    constructor
    · intro slot notBefore notAfter
      rw [length_about_retriedDispatch, sendBudget_succ someTier]
      have perAttempt :
          ∀ count ∈
              (retryTransient
                  (fun made =>
                    platform.call (path made) (request made) (run made))
                  MAX_TRANSIENT_RETRIES 0).2.map
                fun attempt => sendsOf slot (attempt.reached.getD []),
            count ≤ sendBudget tier := by
        intro count member
        obtain ⟨attempt, attemptMember, rfl⟩ := List.mem_map.mp member
        obtain ⟨made, rfl⟩ := mem_retryTransient attemptMember
        cases reached :
            (platform.call (path made) (request made) (run made)).2.reached
          with
        | none =>
            exact Nat.zero_le _
        | some inner =>
            rw [Option.getD_some, platform.call_reached _ _ _ reached]
            exact (each made).inside slot notBefore notAfter
      refine (List.sum_le_card_nsmul _ _ perAttempt).trans ?_
      rw [List.length_map, smul_eq_mul, Nat.add_comm 1]
      exact Nat.mul_le_mul_right _ (length_retryTransient_le _ _ _)
    · intro slot outside
      exact
        about_retriedDispatch_eq_nil (fun _ => rfl) fun made =>
          (each made).outside slot outside

/-! ## Where everything fails -/

/-- Every call arrives, and every function ends with a transient failure. -/
structure Platform.Losing (platform : Platform) : Prop where
  reliable : platform.Reliable
  transient :
    ∀ path call,
      hasTransientRunFailure [runnerResult (platform.runOne path call)]

/-- Every function ends with the error of a lost connection. -/
def Platform.losing : Platform :=
  { Platform.ideal with
    runOne := fun _ _ => .error (plainError "Network connection lost.") }

/-- A lost connection is a transient failure. -/
theorem transient_connectionLost :
    hasTransientRunFailure
      [runnerResult (.error (plainError "Network connection lost."))] := by
  decide +kernel

/-- The losing platform loses. -/
theorem Platform.losing_losing : Platform.losing.Losing where
  reliable _ := rfl
  transient _ _ := transient_connectionLost

section Losing

variable {platform : Platform}

/-- Aligned outcomes of some jobs are transient failures. -/
theorem Platform.Losing.failed
    (losing : platform.Losing)
    {log : List Activity}
    {base : Nat}
    {jobs : List (List JsValue)}
    {results : List RunOneResult}
    (aligned : Aligned (JobOutcome platform log) base jobs results)
    (someJob : jobs ≠ []) :
    hasTransientRunFailure results := by
  cases aligned with
  | nil =>
      exact (someJob rfl).elim
  | cons outcome rest =>
      unfold hasTransientRunFailure
      rw [List.any_cons, Bool.or_eq_true]
      left
      cases outcome with
      | @executed path call _ _ _ =>
          simpa [hasTransientRunFailure] using losing.transient path call
      | leafRejected _ _ rejected =>
          rw [losing.reliable.not_rejected] at rejected
          cases rejected
      | subCoordRejected _ _ rejected =>
          rw [losing.reliable.not_rejected] at rejected
          cases rejected

/-- On a losing platform a call with some job fails transiently. -/
theorem Platform.Losing.call_isTransient
    (losing : platform.Losing)
    {path : Path}
    {request : Request}
    {run : Dispatched}
    (failed : hasTransientRunFailure run.results) :
    (platform.call path request run).1.isTransient := by
  simpa [Platform.call, losing.reliable path, RpcOutcome.isTransient]
    using failed

/-- On a losing platform the sends use the budgets of all tiers up. -/
theorem Platform.Losing.tierRules_sends
    (losing : platform.Losing) :
    TierRules sendTrace platform
      (fun tiers sends => sends.length = sendBudget tiers) where
  inDo := traceLaw_inDo_sends
  leafCall path leafName buildBatch stream slot args sameBase sameJobs := by
    refine (traceLaw_leafCall_sends sameBase sameJobs).mono ?_
    intro sends asMany
    rw [asMany, runBatchWithRetry, length_retryTransient_of_transient,
      sendBudget, Nat.pow_one, Nat.add_comm]
    intro made
    apply losing.call_isTransient
    refine losing.failed (runBatchOnEnv_aligned platform _ _ _) ?_
    rw [sameJobs]
    exact List.cons_ne_nil args []
  dispatch tier base jobs subName path request run someTier someJob aligned
      each := by
    constructor
    · intro slot notBefore notAfter
      have perAttempt :
          ∀ attempt ∈
              (retryTransient
                (fun made =>
                  platform.call (path made) (request made) (run made))
                MAX_TRANSIENT_RETRIES 0).2,
            sendsOf slot (attempt.reached.getD []) = sendBudget tier := by
        intro attempt member
        obtain ⟨made, rfl⟩ := mem_retryTransient member
        rw [platform.call_delivered _ _ _ (losing.reliable _),
          Option.getD_some]
        exact (each made).inside slot notBefore notAfter
      have tries :
          (retryTransient
            (fun made =>
              platform.call (path made) (request made) (run made))
            MAX_TRANSIENT_RETRIES 0).2.length = 1 + MAX_TRANSIENT_RETRIES := by
        rw [length_retryTransient_of_transient, Nat.add_comm]
        intro made
        exact losing.call_isTransient (losing.failed (aligned made) someJob)
      rw [length_about_retriedDispatch, sendBudget_succ someTier,
        List.map_congr_left perAttempt, List.map_const', List.sum_replicate,
        smul_eq_mul, tries]
    · intro slot outside
      exact
        about_retriedDispatch_eq_nil (fun _ => rfl) fun made =>
          (each made).outside slot outside

end Losing

/-! ## The budget of a run -/

section RunMany

variable {treeDepth : TreeDepth} {self : CfpCoordinator}
variable {request : CoordinatorFanOutRequest} {plan : TopologyPlan}

/-- Only a tree has more than one tier of retry loops. -/
theorem retryTiers_le_one_iff
    (selected :
      selectTopology treeDepth request.argsList.length
        request.selectorOptions = .ok plan) :
    plan.retryTiers ≤ 1 ↔
      ¬ request.selectorOptions.selectsTree request.argsList.length := by
  obtain ⟨_, _, shape⟩ := selectTopology_cases selected
  rcases shape with ⟨notTree, rfl, _⟩ | ⟨notTree, rfl⟩ | ⟨isTree, rfl⟩
  · exact ⟨fun _ => notTree, fun _ => Nat.zero_le 1⟩
  · exact ⟨fun _ => notTree, fun _ => Nat.le_refl 1⟩
  · obtain ⟨children, shape⟩ :=
      buildTreePlan_eq_tree treeDepth request.argsList.length
        request.selectorOptions.branching
        request.selectorOptions.fanOutCap
    rw [shape, TopologyPlan.retryTiers]
    exact ⟨fun few => by omega, fun notTree => (notTree isTree).elim⟩

/-- The budget of one retry loop is not exceeded by one tier at most. -/
theorem sendBudget_le_iff
    {tiers : Nat} :
    sendBudget tiers ≤ 1 + MAX_TRANSIENT_RETRIES ↔ tiers ≤ 1 := by
  match tiers with
  | 0 => simp [sendBudget]
  | tiers + 1 =>
      have oneBase : 1 < 1 + MAX_TRANSIENT_RETRIES := by decide
      have single :
          (1 + MAX_TRANSIENT_RETRIES) ^ 1 = 1 + MAX_TRANSIENT_RETRIES :=
        Nat.pow_one _
      rw [sendBudget]
      nth_rewrite 2 [← single]
      exact Nat.pow_le_pow_iff_right oneBase

/-- On a losing platform every job is sent as often as the tiers allow. -/
theorem sendsOf_runMany_losing
    {platform : Platform}
    (losing : platform.Losing)
    {response : FanOutResponse}
    (selected :
      selectTopology treeDepth request.argsList.length
        request.selectorOptions = .ok plan)
    (ran : runMany treeDepth platform self request = .ok response)
    {slot : Nat}
    (inRange : slot < request.argsList.length) :
    sendsOf slot response.activity = sendBudget plan.retryTiers :=
  (losing.tierRules_sends.runMany selected ran).inside slot (Nat.zero_le _)
    (by omega)

/--
Within one run every job is sent to a leaf at most as often as one retry budget
allows, on every platform, exactly when the topology is no tree.
-/
theorem runMany_sendsBounded_iff
    (selected :
      selectTopology treeDepth request.argsList.length
        request.selectorOptions = .ok plan)
    (leafBound : self.hasBinding "CfpWorkerDO")
    (subCoordBound : self.hasBinding "CfpSubCoord") :
    (∀ platform response,
        runMany treeDepth platform self request = .ok response →
        ∀ slot,
          sendsOf slot response.activity ≤ 1 + MAX_TRANSIENT_RETRIES) ↔
      ¬ request.selectorOptions.selectsTree request.argsList.length := by
  constructor
  · intro bounded isTree
    obtain ⟨response, ran⟩ :=
      runMany_answers .losing selected leafBound subCoordBound
    have sent :=
      sendsOf_runMany_losing Platform.losing_losing selected ran isTree.1
    have within := bounded _ _ ran 0
    rw [sent, sendBudget_le_iff, retryTiers_le_one_iff selected] at within
    exact within isTree
  · intro notTree platform response ran slot
    have law := (tierRules_sends_le platform).runMany selected ran
    by_cases inRange : slot < request.argsList.length
    · refine (law.inside slot (Nat.zero_le _) (by omega)).trans ?_
      rwa [sendBudget_le_iff, retryTiers_le_one_iff selected]
    · rw [sendsOf, law.outside slot (by omega)]
      exact Nat.zero_le _

end RunMany

/-- Four jobs in one hybrid tier are sent at most five times each. -/
theorem runMany_sendsBounded_four :
    ∃ response,
      runMany .exact .losing .configured (.overFour 4) = .ok response ∧
        ∀ slot, sendsOf slot response.activity ≤ 5 := by
  have selected :
      selectTopology .exact
          (CoordinatorFanOutRequest.overFour 4).argsList.length
          (CoordinatorFanOutRequest.overFour 4).selectorOptions =
        .ok (.fanOut (.hybrid (buildHybridPlan 4))) :=
    rfl
  obtain ⟨leafBound, subCoordBound⟩ := CfpCoordinator.hasBinding_configured
  obtain ⟨response, ran⟩ :=
    runMany_answers .losing selected leafBound subCoordBound
  have bounded :=
    (runMany_sendsBounded_iff selected leafBound subCoordBound).mpr
      (by decide)
  exact ⟨response, ran, bounded _ _ ran⟩

/-- The first of seventeen jobs is sent twenty-five times. -/
theorem runMany_sends_seventeen :
    ∃ response,
      runMany .exact .losing .configured (.overFour 17) = .ok response ∧
        sendsOf 0 response.activity = 25 := by
  have selected :
      selectTopology .exact
          (CoordinatorFanOutRequest.overFour 17).argsList.length
          (CoordinatorFanOutRequest.overFour 17).selectorOptions =
        .ok (.fanOut (buildTreePlanAt 4 4 2 17)) :=
    rfl
  obtain ⟨leafBound, subCoordBound⟩ := CfpCoordinator.hasBinding_configured
  obtain ⟨response, ran⟩ :=
    runMany_answers .losing selected leafBound subCoordBound
  exact ⟨response, ran,
    sendsOf_runMany_losing Platform.losing_losing selected ran (by decide)⟩

end CloudflareParallel
