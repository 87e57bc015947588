import CloudflareParallel.JsValue
import CloudflareParallel.TopologySelector

namespace CloudflareParallel

/-!
# Wire shapes between the coordinators and the leaves

Requests and results of the fan-out RPCs, field by field.  Optional fields are
`Option`s.  Stub caches and the unawaited `noop()` prewarm calls change neither
requests nor results and are left out.
-/

/-- Cancel state snapshot at dispatch time. -/
structure CancelSnapshot where
  cancelled : Bool
  reason : Option String := none
  deriving Repr, DecidableEq

/-- `DispatchEnvelope`. -/
structure DispatchEnvelope where
  deadlineEpochMs : Int
  signal : CancelSnapshot
  traceId : Option String := none
  spanId : Option String := none
  deriving Repr, DecidableEq

/-- `RpcEnvelope` modes. -/
inductive CodegenMode where
  | poolFn
  | actorClass
  deriving Repr, DecidableEq

/-- The envelope that a leaf hands to its runner. -/
structure RpcEnvelope where
  deadlineEpochMs : Int
  signal : CancelSnapshot
  cancelTokenId : Option String := none
  traceId : Option String := none
  spanId : Option String := none
  mode : CodegenMode
  deriving Repr, DecidableEq

/-- `{ ...envelope, cancelTokenId: undefined, mode }`. -/
def DispatchEnvelope.withMode
    (envelope : DispatchEnvelope)
    (mode : CodegenMode) : RpcEnvelope where
  deadlineEpochMs := envelope.deadlineEpochMs
  signal := envelope.signal
  traceId := envelope.traceId
  spanId := envelope.spanId
  mode := mode

/-- Loader cache-key strategies. -/
inductive CacheKeyStrategy where
  | stable
  | fresh
  | auto
  deriving Repr, DecidableEq

/-- `WorkerCodeLimits`. -/
structure WorkerCodeLimits where
  cpuMs : Option Int := none
  subRequests : Option Int := none
  deriving Repr, DecidableEq

/-- Outbound policy as it travels on the wire. -/
inductive WireOutbound where
  | inherit
  | sandboxed
  deriving Repr, DecidableEq

/-- Wire-level `workerOptions`. -/
structure WireWorkerOptions where
  compatibilityDate : Option String := none
  compatibilityFlags : Option (List String) := none
  globalOutbound : Option WireOutbound := none
  limits : Option WorkerCodeLimits := none
  tailBindingName : Option String := none
  deriving Repr, DecidableEq

/-- Region hints understood by Durable Objects. -/
inductive LocationHint where
  | wnam | enam | sam | weur | eeur | apac | oc | afr | me
  deriving Repr, DecidableEq

/-- A cancel stream, identified by the forks that lead to it. -/
inductive CancelStream where
  | source (id : Nat)
  | fork (upstream : CancelStream) (index : Nat)
  deriving Repr, DecidableEq

/-- One fresh child stream per slot, or as many absent streams. -/
def forkCancelStream
    (upstream : Option CancelStream)
    (n : Nat) : List (Option CancelStream) :=
  match upstream with
  | none => List.replicate n none
  | some stream => (List.range n).map fun index => some (.fork stream index)

/-- The payload of a failed leaf result. -/
structure ErrorRecord where
  name : String
  message : String
  stack : Option String := none
  originalName : Option String := none
  deriving Repr, DecidableEq

/-- `RunOneResult`. -/
inductive RunOneResult where
  | ok (value : JsValue)
  | failed (error : ErrorRecord)

/--
`errorToRecord`.  A value that is not an `Error` is wrapped in one first; the
stack of that wrapper is the runtime's own text and is left out.
-/
def errorToRecord : Thrown → ErrorRecord
  | .error name message stack originalName =>
      { name := if name = "" then "Error" else name
        message := message
        stack := stack
        originalName := originalName }
  | .string value => { name := "Error", message := value }
  | .object _ asText => { name := "Error", message := asText }

/-- Wrap an error in the leaf-RPC failure envelope. -/
def errorToFailedResult (err : Thrown) : RunOneResult :=
  .failed (errorToRecord err)

/-- `RunBatchRequest`: the work for one leaf. -/
structure RunBatchRequest where
  fnSource : String
  fnHash : String
  context : Option JsRecord := none
  workerOptions : Option WireWorkerOptions := none
  cacheKeyStrategy : Option CacheKeyStrategy := none
  allowList : Option (List String) := none
  argsList : List (List JsValue)
  envelope : DispatchEnvelope
  freshIsolate : Option Bool := none
  taskSlotBase : Option Nat := none
  cancelStream : Option CancelStream := none

/-- `DispatchTreeRequest`: a slice of a tree plan for one sub-coordinator. -/
structure DispatchTreeRequest where
  fnSource : String
  fnHash : String
  context : Option JsRecord := none
  workerOptions : Option WireWorkerOptions := none
  cacheKeyStrategy : Option CacheKeyStrategy := none
  allowList : Option (List String) := none
  argsList : List (List JsValue)
  planChildSizes : List Nat
  branchingFactor : Nat
  depth : Nat
  maxFanOut : Int
  envelope : DispatchEnvelope
  taskSlotBase : Option Nat := none
  cancelStream : Option CancelStream := none
  locationHint : Option LocationHint := none

/-- `CoordinatorFanOutRequest`. -/
structure CoordinatorFanOutRequest where
  fnSource : String
  fnHash : String
  context : Option JsRecord := none
  cacheKeyStrategy : Option CacheKeyStrategy := none
  workerOptions : Option WireWorkerOptions := none
  allowList : Option (List String) := none
  argsList : List (List JsValue)
  envelope : DispatchEnvelope
  freshIsolate : Option Bool := none
  selector : Option SelectorOptions := none
  cancelStream : Option CancelStream := none
  locationHint : Option LocationHint := none

/--
A job carried by a request whose first job sits at a global slot: the slot and
the arguments at one position of its list.
-/
def CarriesJob
    (argsList : List (List JsValue))
    (taskSlotBase : Option Nat)
    (slot : Nat)
    (args : List JsValue) : Prop :=
  ∃ index,
    argsList[index]? = some args ∧
      slot = taskSlotBase.getD 0 + index

end CloudflareParallel
