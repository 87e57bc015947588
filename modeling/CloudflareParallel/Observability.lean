import CloudflareParallel.PoolCounters

namespace CloudflareParallel

open JsonValues

/-!
# `emitObservabilityEvent`

Hooks and the writer of data points are code of the user.  They may do anything
to what they close over, and they may throw; the calls are in a `try` each.
-/

/-- What the `catch` of a caller gets hold of. -/
inductive CaughtValue where
  | undefined
  | error (name message : String)
  deriving DecidableEq

/-- Code that may throw, on what its closures hold. -/
def UserCode (Held Result : Type) : Type :=
  Held → Except CaughtValue Result × Held

namespace UserCode

variable {Held Result Next : Type}

instance : Monad (UserCode Held) where
  pure value := fun held => (.ok value, held)
  bind code next := fun held =>
    match code held with
    | (.ok value, after) => next value after
    | (.error err, after) => (.error err, after)

/-- `throw`. -/
def throws (err : CaughtValue) : UserCode Held Result :=
  fun held => (.error err, held)

/-- `try { … } catch (err) { … }`. -/
def catches
    (code : UserCode Held Result)
    (handler : CaughtValue → UserCode Held Result) : UserCode Held Result :=
  fun held =>
    match code held with
    | (.ok value, after) => (.ok value, after)
    | (.error err, after) => handler err after

/-- `try { … } finally { … }`, whose end throws nothing. -/
def ensures
    (code : UserCode Held Result)
    (final : Held → Held) : UserCode Held Result :=
  fun held => ((code held).1, final (code held).2)

/-- An assignment. -/
def modify (change : Held → Held) : UserCode Held Unit :=
  fun held => (.ok (), change held)

/-- What code leaves of what it holds, thrown or not. -/
def leaves
    (code : UserCode Held Result)
    (held : Held) : Held :=
  (code held).2

/-- After a part that throws nothing, the rest goes on from what it leaves. -/
theorem bind_of_ok
    {code : UserCode Held Result}
    {next : Result → UserCode Held Next}
    {held after : Held}
    {value : Result}
    (ran : code held = (.ok value, after)) :
    (code >>= next) held = next value after := by
  change
    (match code held with
      | (.ok value, after) => next value after
      | (.error err, after) => (Except.error err, after)) = _
  rw [ran]

end UserCode

/-- The text of a topology. -/
def Topology.text : Topology → String
  | .auto => "auto"
  | .inDo => "in-do"
  | .hybrid => "hybrid"
  | .tree => "tree"

/-- `TaskStartEvent`. -/
structure TaskStartEvent where
  ts : Int
  poolId : String
  taskId : String
  topology : Topology
  fnHash : String

/-- `TaskEndEvent`. -/
structure TaskEndEvent extends TaskStartEvent where
  wallMs : Int
  retryCount : Nat

/-- `TaskErrorEvent`. -/
structure TaskErrorEvent extends TaskStartEvent where
  errorClass : String
  message : String
  retryCount : Nat

/-- `TaskOrphanEvent`. -/
structure TaskOrphanEvent where
  ts : Int
  poolId : String
  taskId : String
  reason : String

/-- `PoolPressureEvent`, of the kind `lru-thrash`. -/
structure PoolPressureEvent where
  ts : Int
  detail : String

/-- `TopologyDecisionEvent`. -/
structure TopologyDecisionEvent where
  ts : Int
  size : Nat
  topology : Topology
  fanOutPerLevel : List Nat
  treeDepth : Nat

/-- The `ObservabilityEvent`s that a pool emits. -/
inductive ObservabilityEvent where
  | taskStart (payload : TaskStartEvent)
  | taskEnd (payload : TaskEndEvent)
  | taskError (payload : TaskErrorEvent)
  | taskOrphan (payload : TaskOrphanEvent)
  | poolPressure (payload : PoolPressureEvent)
  | topologyDecision (payload : TopologyDecisionEvent)

/-- The kind of an event. -/
inductive ObservabilityKind where
  | taskStart
  | taskEnd
  | taskError
  | taskOrphan
  | poolPressure
  | topologyDecision
  deriving DecidableEq

/-- `ev.kind`. -/
def ObservabilityEvent.kind : ObservabilityEvent → ObservabilityKind
  | .taskStart _ => .taskStart
  | .taskEnd _ => .taskEnd
  | .taskError _ => .taskError
  | .taskOrphan _ => .taskOrphan
  | .poolPressure _ => .poolPressure
  | .topologyDecision _ => .topologyDecision

/-- `AnalyticsEngineDataPoint`. -/
structure DataPoint where
  blobs : List String
  doubles : List Int
  indexes : List String
  deriving DecidableEq

/-- What `writeAnalyticsEngine` writes for an event. -/
def dataPoint? : ObservabilityEvent → Option DataPoint
  | .taskStart _ => none
  | .taskEnd payload =>
      some {
        blobs :=
          ["taskEnd", payload.poolId, payload.topology.text, "ok",
            payload.fnHash]
        doubles := [payload.wallMs, payload.retryCount]
        indexes := [payload.poolId]
      }
  | .taskError payload =>
      some {
        blobs :=
          ["taskError", payload.poolId, payload.topology.text,
            payload.errorClass, payload.fnHash]
        doubles := [0, payload.retryCount]
        indexes := [payload.poolId]
      }
  | .taskOrphan payload =>
      some {
        blobs := ["taskOrphan", payload.poolId, payload.taskId, payload.reason]
        doubles := [0]
        indexes := [payload.poolId]
      }
  | .poolPressure payload =>
      some {
        blobs := ["poolPressure", "lru-thrash", payload.detail]
        doubles := [1]
        indexes := ["lru-thrash"]
      }
  | .topologyDecision payload =>
      some {
        blobs := ["topologyDecision", payload.topology.text]
        doubles :=
          (payload.size : Int) :: (payload.treeDepth : Int) ::
            payload.fanOutPerLevel.map fun fanOut => (fanOut : Int)
        indexes := [payload.topology.text]
      }

/-- `ObservabilityOptions`, with one function for all hooks. -/
structure ObservabilityOptions (Held : Type) where
  hooks : Option (ObservabilityEvent → UserCode Held Unit)
  /-- `writeDataPoint`; without it `metrics` is missing or off. -/
  metrics : Option (DataPoint → UserCode Held Unit)

section Emit

variable {Held : Type}

/-- `try { … } catch { }` around a call of code that may be missing. -/
def swallow
    {Callee : Type}
    (callee : Option Callee)
    (call : Callee → UserCode Held Unit) : UserCode Held Unit :=
  match callee with
  | none => pure ()
  | some callee => (call callee).catches fun _ => pure ()

/-- `writeAnalyticsEngine`. -/
def writeAnalyticsEngine
    (write : DataPoint → UserCode Held Unit)
    (ev : ObservabilityEvent) : UserCode Held Unit :=
  match dataPoint? ev with
  | none => pure ()
  | some point => write point

/-- `emitObservabilityEvent`. -/
def emitObservabilityEvent
    (opts : Option (ObservabilityOptions Held))
    (ev : ObservabilityEvent) : UserCode Held Unit :=
  match opts with
  | none => pure ()
  | some opts => do
      swallow opts.hooks fun hook => hook ev
      swallow opts.metrics fun write => writeAnalyticsEngine write ev

/-- What an event leaves of what the hooks and the writer hold. -/
def deliver
    (opts : Option (ObservabilityOptions Held))
    (held : Held)
    (ev : ObservabilityEvent) : Held :=
  match opts with
  | none => held
  | some opts =>
      let held := opts.hooks.elim held fun hook => (hook ev).leaves held
      opts.metrics.elim held fun write =>
        (writeAnalyticsEngine write ev).leaves held

/-- Code in a `try` does what it does and throws nothing. -/
theorem swallow_eq
    {Callee : Type}
    (callee : Option Callee)
    (call : Callee → UserCode Held Unit)
    (held : Held) :
    swallow callee call held =
      (.ok (),
        callee.elim held fun callee => (call callee).leaves held) := by
  cases callee with
  | none => rfl
  | some callee =>
      unfold swallow UserCode.catches
      dsimp only [Option.elim, UserCode.leaves]
      cases call callee held with
      | mk outcome after =>
          cases outcome <;> rfl

/-- An event is delivered to the hook and to the writer, and nothing throws. -/
theorem emitObservabilityEvent_eq
    (opts : Option (ObservabilityOptions Held))
    (ev : ObservabilityEvent)
    (held : Held) :
    emitObservabilityEvent opts ev held = (.ok (), deliver opts held ev) := by
  cases opts with
  | none => rfl
  | some opts =>
      refine (UserCode.bind_of_ok (swallow_eq opts.hooks _ held)).trans ?_
      exact swallow_eq opts.metrics _ _

end Emit

end CloudflareParallel
