import CloudflareParallel.SubCoordinator

namespace CloudflareParallel

/-!
# The coordinator: `CfpCoordinator.runMany`

The coordinator selects a topology from the number of jobs and dispatches the
plan: in its own loader, to one leaf per job, or to a tier of sub-coordinators.
-/

/-- A coordinator Durable Object: its id and its environment. -/
structure CfpCoordinator where
  id : String
  env : Env

/-- Whether a namespace binding is configured. -/
def CfpCoordinator.hasBinding
    (self : CfpCoordinator)
    (name : String) : Bool :=
  (self.env.get? name).isSome

/-- A plain `Error` with a message. -/
def plainError (message : String) : Thrown :=
  .error "Error" message none none

/-- The request index in leaf names is a stable empty string. -/
def requestId : String := ""

/-- The runner call of the single-job path. -/
def inDoRunnerCall
    (self : CfpCoordinator)
    (request : CoordinatorFanOutRequest)
    (args : List JsValue) : RunnerCall where
  options := {
    callSite := .doMethod
    cacheKeyStrategy := request.cacheKeyStrategy.getD .stable
    workerOptions := wireToWorkerOptions request.workerOptions self.env
    allowList := request.allowList
  }
  input := {
    fnSource := request.fnSource
    fnHash := request.fnHash
    context := request.context
    bindings := some self.env
    envelope := request.envelope.withMode .poolFn
    args := args
    freshIsolate := request.freshIsolate
    taskSlot := some (.index 0)
    cancelStream := request.cancelStream
  }

/-- `#dispatchInDo`. -/
def dispatchInDo
    (platform : Platform)
    (self : CfpCoordinator)
    (size : Nat)
    (request : CoordinatorFanOutRequest) :
    Except Thrown Dispatched :=
  if size = 0 then
    .ok .empty
  else if size > 1 then
    .error (plainError
      s!"BUG: #dispatchInDo received size={size}; in-do is single-job only")
  else
    .ok (executeJob platform []
      (inDoRunnerCall self request (request.argsList.head?.getD [])))

/-- The batch the coordinator sends to a hybrid leaf. -/
def leafBatch
    (request : CoordinatorFanOutRequest)
    (slice : List (List JsValue))
    (slotBase : Nat)
    (cancelStream : Option CancelStream) : RunBatchRequest where
  fnSource := request.fnSource
  fnHash := request.fnHash
  context := request.context
  workerOptions := request.workerOptions
  cacheKeyStrategy := request.cacheKeyStrategy
  allowList := request.allowList
  argsList := slice
  envelope := request.envelope
  freshIsolate := request.freshIsolate
  taskSlotBase := some slotBase
  cancelStream := cancelStream

/-- `#dispatchHybrid`. -/
def dispatchHybrid
    (platform : Platform)
    (self : CfpCoordinator)
    (plan : HybridPlan)
    (request : CoordinatorFanOutRequest) :
    Except Thrown Dispatched :=
  if self.hasBinding "CfpWorkerDO" then
    .ok (forEachSlice request.argsList plan.leafShape request.cancelStream
      fun leafIdx slice childStream =>
        let leafName := s!"{self.id}-{requestId}-leaf-{leafIdx}"
        let answered :=
          runBatchWithRetry platform [] leafName
            (leafBatch request slice.items slice.offset) childStream
        { results := settleRpc slice.items answered.1
          activity := [.runBatch leafName answered.2] })
  else
    .error (plainError
      ("hybrid topology requires CfpWorkerDO binding; " ++
        "add it to wrangler.toml and re-deploy"))

/-- Walk a child plan's sizes one level down. -/
def planSliceChildSizes : FanOutPlan → List Nat
  | .hybrid plan => plan.leafShape
  | .tree _ _ _ children => children.map FanOutPlan.size

/-- The request the coordinator sends to one first-tier sub-coordinator. -/
def treeRequest
    (request : CoordinatorFanOutRequest)
    (child : Option FanOutPlan)
    (branchingFactor depth : Nat)
    (slice : List (List JsValue))
    (slotBase : Nat)
    (cancelStream : Option CancelStream) : DispatchTreeRequest where
  fnSource := request.fnSource
  fnHash := request.fnHash
  context := request.context
  workerOptions := request.workerOptions
  cacheKeyStrategy := request.cacheKeyStrategy
  allowList := request.allowList
  argsList := slice
  planChildSizes := (child.map planSliceChildSizes).getD []
  branchingFactor := branchingFactor
  depth := depth - 1
  maxFanOut :=
    (request.selector.bind SelectorOptions.maxFanOut).getD
      DEFAULT_MAX_FAN_OUT
  envelope := request.envelope
  taskSlotBase := some slotBase
  cancelStream := cancelStream
  locationHint := request.locationHint

/-- `#dispatchTree`. -/
def dispatchTree
    (platform : Platform)
    (self : CfpCoordinator)
    (branchingFactor depth : Nat)
    (children : List FanOutPlan)
    (request : CoordinatorFanOutRequest) :
    Except Thrown Dispatched :=
  if ¬ self.hasBinding "CfpSubCoord" then
    .error (plainError
      ("tree topology requires CfpSubCoord binding; " ++
        "add it to wrangler.toml and re-deploy"))
  else if ¬ self.hasBinding "CfpWorkerDO" then
    .error (plainError "tree topology requires CfpWorkerDO binding")
  else
    .ok (forEachSlice request.argsList (children.map FanOutPlan.size)
      request.cancelStream
      fun subIdx slice childStream =>
        let subName := s!"{self.id}-{requestId}-sub-{subIdx}"
        let answered :=
          retryTransient
            (fun attempt =>
              let hop := [{ target := subName, attempt := attempt }]
              let next :=
                treeRequest request children[subIdx]? branchingFactor depth
                  slice.items slice.offset
                  (if attempt = 0 then childStream else none)
              platform.call hop next
                (subCoordDispatch platform hop subName next))
            MAX_TRANSIENT_RETRIES 0
        { results := settleRpc slice.items answered.1
          activity := [.dispatch subName answered.2] })

/-- The hybrid shape is dispatched with a leaf binding only. -/
theorem bound_of_dispatchHybrid
    {platform : Platform}
    {self : CfpCoordinator}
    {plan : HybridPlan}
    {request : CoordinatorFanOutRequest}
    {dispatched : Dispatched}
    (ran : dispatchHybrid platform self plan request = .ok dispatched) :
    self.hasBinding "CfpWorkerDO" := by
  unfold dispatchHybrid at ran
  split at ran
  next bound => exact bound
  next => cases ran

/-- A tree is dispatched with both bindings only. -/
theorem bound_of_dispatchTree
    {platform : Platform}
    {self : CfpCoordinator}
    {branchingFactor depth : Nat}
    {children : List FanOutPlan}
    {request : CoordinatorFanOutRequest}
    {dispatched : Dispatched}
    (ran :
      dispatchTree platform self branchingFactor depth children request =
        .ok dispatched) :
    self.hasBinding "CfpSubCoord" ∧ self.hasBinding "CfpWorkerDO" := by
  unfold dispatchTree at ran
  split at ran
  next => cases ran
  next subCoordBound =>
    split at ran
    next => cases ran
    next leafBound =>
      exact ⟨not_not.mp subCoordBound, not_not.mp leafBound⟩

/-- `#dispatchPlan`. -/
def dispatchPlan
    (platform : Platform)
    (self : CfpCoordinator)
    (plan : TopologyPlan)
    (request : CoordinatorFanOutRequest) :
    Except Thrown Dispatched :=
  match plan with
  | .inDo size => dispatchInDo platform self size request
  | .fanOut (.hybrid plan) => dispatchHybrid platform self plan request
  | .fanOut (.tree _ branchingFactor depth children) =>
      dispatchTree platform self branchingFactor depth children request

/-- The bindings that a plan needs are there. -/
def CfpCoordinator.carriesOut
    (self : CfpCoordinator) : TopologyPlan → Bool
  | .inDo _ => true
  | .fanOut (.hybrid _) => self.hasBinding "CfpWorkerDO"
  | .fanOut (.tree ..) =>
      self.hasBinding "CfpSubCoord" && self.hasBinding "CfpWorkerDO"

/-- The topology a plan reports. -/
def planTopology : TopologyPlan → Topology
  | .inDo _ => .inDo
  | .fanOut (.hybrid _) => .hybrid
  | .fanOut (.tree ..) => .tree

/-- Widths down the leftmost branch of a fan-out plan. -/
def leftmostWidths : FanOutPlan → List Nat
  | .hybrid plan => [plan.leafShape.length]
  | .tree _ _ _ [] => [0]
  | .tree _ _ _ (first :: rest) =>
      (rest.length + 1) :: leftmostWidths first

/-- Fan-out widths per level, for observability. -/
def planFanOutPerLevel : TopologyPlan → List Nat
  | .inDo size => [size]
  | .fanOut plan => leftmostWidths plan

/-- The tree depth a plan reports. -/
def planTreeDepth : TopologyPlan → Nat
  | .fanOut (.tree _ _ depth _) => depth
  | _ => 1

/-- The response of `runMany`, with the activity behind it. -/
structure FanOutResponse where
  results : List RunOneResult
  topology : Topology
  fanOutPerLevel : List Nat
  treeDepth : Nat
  activity : List Activity

/-- The selector options of a request. -/
def CoordinatorFanOutRequest.selectorOptions
    (request : CoordinatorFanOutRequest) : SelectorOptions :=
  request.selector.getD {}

/-- `CfpCoordinator.runMany`; an error is the rejection of the call. -/
def runMany
    (treeDepth : TreeDepth)
    (platform : Platform)
    (self : CfpCoordinator)
    (request : CoordinatorFanOutRequest) :
    Except Thrown FanOutResponse :=
  let size := request.argsList.length
  if size = 0 then
    .ok {
      results := []
      topology := .inDo
      fanOutPerLevel := []
      treeDepth := 1
      activity := []
    }
  else
    match selectTopology treeDepth size request.selectorOptions with
    | .error err => .error (.error "TopologyError" err.message none none)
    | .ok plan =>
        (dispatchPlan platform self plan request).map fun dispatched =>
          { results := dispatched.results
            topology := planTopology plan
            fanOutPerLevel := planFanOutPerLevel plan
            treeDepth := planTreeDepth plan
            activity := dispatched.activity }

/-- A platform that delivers every call to functions that return nothing. -/
def Platform.ideal : Platform where
  idFromName name := name
  leafEnv _ := []
  transport _ := .delivered
  runOne _ _ := .ok .undefined

/-- The ideal platform is reliable. -/
theorem Platform.reliable_ideal : Platform.ideal.Reliable :=
  fun _ => rfl

/-- A coordinator with both namespaces bound. -/
def CfpCoordinator.configured : CfpCoordinator where
  id := "pool"
  env := [
    ("CfpWorkerDO", { id := 0, hasFetch := false }),
    ("CfpSubCoord", { id := 1, hasFetch := false })
  ]

/-- Both namespaces of the configured coordinator are found. -/
theorem CfpCoordinator.hasBinding_configured :
    CfpCoordinator.configured.hasBinding "CfpWorkerDO" ∧
      CfpCoordinator.configured.hasBinding "CfpSubCoord" := by
  decide

/--
A request to map the identity over the first natural numbers, with a fan-out
cap and a branching factor of four.
-/
def CoordinatorFanOutRequest.overFour
    (size : Nat)
    (freshIsolate : Option Bool := none) : CoordinatorFanOutRequest where
  fnSource := "(x) => x"
  fnHash := "0"
  argsList :=
    (List.range size).map fun i => [.number (.finite (toString i))]
  envelope := {
    deadlineEpochMs := 0
    signal := { cancelled := false }
  }
  freshIsolate := freshIsolate
  selector := some { maxFanOut := some 4, branchingFactor := some 4 }

end CloudflareParallel
