import CloudflareParallel.CoordinatorActivity

namespace CloudflareParallel

/-!
# The leaf: `runBatchOnEnv`

A leaf builds one runner call per job.  A single job takes the fast path that
passes the upstream cancel stream on unforked; several jobs fork it.
-/

/-- The envelope of a settled `runner.runOne`. -/
def runnerResult : Except Thrown JsValue → RunOneResult
  | .ok value => .ok value
  | .error err => errorToFailedResult err

/-- The runner call a leaf makes for one job of its batch. -/
def leafRunnerCall
    (env : Env)
    (request : RunBatchRequest)
    (args : List JsValue)
    (taskSlot : Nat)
    (cancelStream : Option CancelStream) : RunnerCall where
  options := {
    callSite := .doMethod
    cacheKeyStrategy := request.cacheKeyStrategy.getD .stable
    workerOptions := wireToWorkerOptions request.workerOptions env
    allowList := request.allowList
  }
  input := {
    fnSource := request.fnSource
    fnHash := request.fnHash
    context := request.context
    bindings := some env
    envelope := request.envelope.withMode .poolFn
    args := args
    freshIsolate := request.freshIsolate
    taskSlot := some (.index taskSlot)
    cancelStream := cancelStream
  }

/-- Run one job here and record it. -/
def executeJob
    (platform : Platform)
    (path : Path)
    (call : RunnerCall) : Dispatched where
  results := [runnerResult (platform.runOne path call)]
  activity := [.execute path call]

/-- Shared by `CfpWorkerDO.runBatch` and `WorkerDOSession.runBatch`. -/
def runBatchOnEnv
    (platform : Platform)
    (path : Path)
    (env : Env)
    (request : RunBatchRequest) : Dispatched :=
  let slotBase := request.taskSlotBase.getD 0
  match request.argsList with
  | [args] =>
      executeJob platform path
        (leafRunnerCall env request args slotBase request.cancelStream)
  | argsList =>
      let childStreams :=
        forkCancelStream request.cancelStream argsList.length
      .join (argsList.mapIdx fun i args =>
        executeJob platform path
          (leafRunnerCall env request args (slotBase + i)
            (childStreams[i]?.getD none)))

/-- A leaf with one job executes it, from the slot of the batch. -/
theorem runBatchOnEnv_single
    {platform : Platform}
    {path : Path}
    {env : Env}
    {request : RunBatchRequest}
    {args : List JsValue}
    (single : request.argsList = [args]) :
    runBatchOnEnv platform path env request =
      executeJob platform path
        (leafRunnerCall env request args (request.taskSlotBase.getD 0)
          request.cancelStream) := by
  unfold runBatchOnEnv
  rw [single]

/--
A leaf RPC under the retry loop.  Only the first attempt carries the cancel
stream, because a stream cannot be read twice.
-/
def runBatchWithRetry
    (platform : Platform)
    (path : Path)
    (leafName : String)
    (buildBatch : Option CancelStream → RunBatchRequest)
    (cancelStream : Option CancelStream) :
    RpcOutcome × List (Attempt RunBatchRequest Activity) :=
  retryTransient
    (fun attempt =>
      let hop := path ++ [{ target := leafName, attempt := attempt }]
      let request :=
        buildBatch (if attempt = 0 then cancelStream else none)
      platform.call hop request
        (runBatchOnEnv platform hop (platform.leafEnv leafName) request))
    MAX_TRANSIENT_RETRIES 0

/-- A retried leaf RPC has what its leaf's runs have. -/
theorem throughout_runBatchWithRetry
    {holds : Activity → Prop}
    {platform : Platform}
    {path : Path}
    {leafName : String}
    {buildBatch : Option CancelStream → RunBatchRequest}
    {cancelStream : Option CancelStream}
    (itself :
      holds
        (.runBatch leafName
          (runBatchWithRetry platform path leafName buildBatch
            cancelStream).2))
    (below :
      ∀ hop stream,
        Throughout holds
          (runBatchOnEnv platform hop (platform.leafEnv leafName)
            (buildBatch stream)).activity) :
    Throughout holds
      [.runBatch leafName
        (runBatchWithRetry platform path leafName buildBatch
          cancelStream).2] := by
  apply throughout_runBatch itself
  intro record member inner reached
  obtain ⟨made, rfl⟩ := mem_retryTransient member
  rw [platform.call_reached _ _ _ reached]
  exact below _ _

end CloudflareParallel
