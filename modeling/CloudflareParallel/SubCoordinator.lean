import CloudflareParallel.WorkerLeaf

namespace CloudflareParallel

/-!
# The sub-coordinator: `dispatchOnEnv` and `dispatchHybridLeaf`

A sub-coordinator cuts its jobs by `planChildSizes`.  At `depth <= 1` it calls
one leaf per job; above, it hands every slice to a peer with `depth - 1` and a
fresh balanced split.
-/

/-- Every session dispatches with this request index. -/
def reqIdx : Nat := 0

/-- The batch a sub-coordinator sends to the leaf of one job. -/
def hybridLeafBatch
    (request : DispatchTreeRequest)
    (args : List JsValue)
    (slotBase : Nat)
    (cancelStream : Option CancelStream) : RunBatchRequest where
  fnSource := request.fnSource
  fnHash := request.fnHash
  context := request.context
  workerOptions := request.workerOptions
  cacheKeyStrategy := request.cacheKeyStrategy
  allowList := request.allowList
  argsList := [args]
  envelope := request.envelope
  freshIsolate := some false
  taskSlotBase := some slotBase
  cancelStream := cancelStream

/-- One leaf DO per job of a slice. -/
def dispatchHybridLeaf
    (platform : Platform)
    (path : Path)
    (ownerId : String)
    (request : DispatchTreeRequest)
    (slice : List (List JsValue))
    (sliceSlotBase sliceIdx : Nat)
    (cancelStream : Option CancelStream) : Dispatched :=
  let leafCancelStreams := forkCancelStream cancelStream slice.length
  .join (slice.mapIdx fun i args =>
    let leafName := s!"{ownerId}-r{reqIdx}-leaf-{sliceIdx}-{i}"
    let answered :=
      runBatchWithRetry platform path leafName
        (hybridLeafBatch request args (sliceSlotBase + i))
        (leafCancelStreams[i]?.getD none)
    { results := settleRpc [args] answered.1
      activity := [.runBatch leafName answered.2] })

/-- The request a sub-coordinator sends one tier down. -/
def deeperRequest
    (request : DispatchTreeRequest)
    (depth : Nat)
    (slice : List (List JsValue))
    (slotBase : Nat)
    (cancelStream : Option CancelStream) : DispatchTreeRequest :=
  { request with
    argsList := slice
    planChildSizes := balancedFill slice.length request.branchingFactor
    depth := depth
    taskSlotBase := some slotBase
    cancelStream := cancelStream }

/--
`dispatchOnEnv`.  The recursion is on the depth that the request carries: every
call passes `request.depth`.
-/
def dispatchOnEnv
    (platform : Platform) :
    (depth : Nat) → Path → (ownerId : String) →
      DispatchTreeRequest → Dispatched
  | 0, path, ownerId, request =>
      forEachSlice request.argsList request.planChildSizes
        request.cancelStream
        fun i slice childStream =>
          dispatchHybridLeaf platform path ownerId request slice.items
            (request.taskSlotBase.getD 0 + slice.offset) i childStream
  | depth + 1, path, ownerId, request =>
      forEachSlice request.argsList request.planChildSizes
        request.cancelStream
        fun i slice childStream =>
          let slotBase := request.taskSlotBase.getD 0 + slice.offset
          if depth + 1 ≤ 1 then
            dispatchHybridLeaf platform path ownerId request slice.items
              slotBase i childStream
          else
            let subId := s!"{ownerId}-r{reqIdx}-sub-{i}"
            let answered :=
              retryTransient
                (fun attempt =>
                  let hop := path ++ [{ target := subId, attempt := attempt }]
                  let next :=
                    deeperRequest request depth slice.items slotBase
                      (if attempt = 0 then childStream else none)
                  platform.call hop next
                    (dispatchOnEnv platform depth hop
                      (platform.idFromName subId) next))
                MAX_TRANSIENT_RETRIES 0
            { results := settleRpc slice.items answered.1
              activity := [.dispatch subId answered.2] }

/-- A dispatch call arriving at the sub-coordinator of a given name. -/
def subCoordDispatch
    (platform : Platform)
    (path : Path)
    (subName : String)
    (request : DispatchTreeRequest) : Dispatched :=
  dispatchOnEnv platform request.depth path
    (platform.idFromName subName) request

end CloudflareParallel
