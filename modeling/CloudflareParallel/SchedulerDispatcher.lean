import CloudflareParallel.Dates
import CloudflareParallel.SchedulerJobStore
import CloudflareParallel.Library.OrderedMap

namespace CloudflareParallel

open KeyedTables

/-!
# The dispatcher's memory

The part of `Dispatcher` that never awaits: the ready buckets with their cyclic
tenant order, the running map, the configuration, and where the single-flight
loop is suspended.  What the dispatcher does between two awaits is in the
scheduler object, together with the storage it talks to.
-/

/-- A limit that may be infinite. -/
inductive QueueBound where
  | finite (limit : Int)
  | infinity
  deriving Repr, DecidableEq

/-- `DispatcherConfig`, with `DEFAULT_DISPATCHER_CONFIG` as the default. -/
structure DispatcherConfig where
  inFlightLimit : Int := 32
  maxQueueDepth : QueueBound := .infinity
  resultTtlMs : Int := 3600000
  fairCapacityPerTenant : Int := 4
  defaultLeaseMs : Int := 60000
  deriving Repr, DecidableEq

/-- `Partial<DispatcherConfig>`. -/
structure PartialDispatcherConfig where
  inFlightLimit : Option Int := none
  maxQueueDepth : Option QueueBound := none
  resultTtlMs : Option Int := none
  fairCapacityPerTenant : Option Int := none
  defaultLeaseMs : Option Int := none
  deriving Repr, DecidableEq

/-- `{ ...config, ...c }`. -/
def DispatcherConfig.overlay
    (config : DispatcherConfig)
    (c : PartialDispatcherConfig) : DispatcherConfig where
  inFlightLimit := c.inFlightLimit.getD config.inFlightLimit
  maxQueueDepth := c.maxQueueDepth.getD config.maxQueueDepth
  resultTtlMs := c.resultTtlMs.getD config.resultTtlMs
  fairCapacityPerTenant :=
    c.fairCapacityPerTenant.getD config.fairCapacityPerTenant
  defaultLeaseMs := c.defaultLeaseMs.getD config.defaultLeaseMs

/-- `{ ...overrides, ...c }` on partial configurations. -/
def PartialDispatcherConfig.overlay
    (overrides c : PartialDispatcherConfig) : PartialDispatcherConfig where
  inFlightLimit := c.inFlightLimit.or overrides.inFlightLimit
  maxQueueDepth := c.maxQueueDepth.or overrides.maxQueueDepth
  resultTtlMs := c.resultTtlMs.or overrides.resultTtlMs
  fairCapacityPerTenant :=
    c.fairCapacityPerTenant.or overrides.fairCapacityPerTenant
  defaultLeaseMs := c.defaultLeaseMs.or overrides.defaultLeaseMs

/-- `RunningJob`, less the start time that nothing reads. -/
structure RunningJob where
  id : String
  tenantId : String
  deriving Repr, DecidableEq

/-- The dispatch loop: not running, or suspended at one of its awaits. -/
inductive LoopState where
  | idle
  /-- Awaits `failQueued` for a job whose deadline has passed. -/
  | failedExpired
  /-- Awaits `claim`, which has found this job or none. -/
  | claimed (target : Option PersistedJob)
  /-- Awaits a store call that rejects. -/
  | rejected

/-- The dispatcher between two of its steps. -/
structure Dispatcher where
  config : DispatcherConfig := {}
  ready : OrderedMap String (List PersistedJob) := .empty
  tenantOrder : List String := []
  running : OrderedMap String RunningJob := .empty
  loop : LoopState := .idle

def RETRY_MAX_DELAY_MS : Int := 60000

/-- The delay before a failed job is put back into the ready set. -/
def retryDelayMs (job : PersistedJob) : Int :=
  let base : Int := if job.retry.backoff = .exponential then 2 else 1
  min (job.retry.baseMs * base ^ job.retryCount.toNat) RETRY_MAX_DELAY_MS

/-- The pre-claim deadline check; zero means no deadline. -/
def deadlinePassed
    (job : PersistedJob)
    (now : Int) : Bool :=
  0 < job.deadlineEpochMs && job.deadlineEpochMs ≤ now

/-- The error of `#failExpired`. -/
def deadlineError (job : PersistedJob) : ErrorRecord where
  name := "DeadlineExceededError"
  message :=
    s!"Deadline {toISOString job.deadlineEpochMs.toNat} elapsed before dispatch"

namespace Dispatcher

/-- `configure`. -/
def configure
    (dispatcher : Dispatcher)
    (c : PartialDispatcherConfig) : Dispatcher :=
  { dispatcher with config := dispatcher.config.overlay c }

/-- All jobs in the ready buckets. -/
def readyJobs (dispatcher : Dispatcher) : List PersistedJob :=
  (OrderedMap.values dispatcher.ready).flatten

/-- `totalReady`. -/
def totalReady (dispatcher : Dispatcher) : Nat :=
  ((OrderedMap.values dispatcher.ready).map List.length).sum

/-- `runningCount`. -/
def runningCount (dispatcher : Dispatcher) : Nat :=
  OrderedMap.size dispatcher.running

/-- `#enqueueReady`. -/
def enqueueReady
    (dispatcher : Dispatcher)
    (job : PersistedJob) : Dispatcher :=
  match OrderedMap.lookup dispatcher.ready job.tenantId with
  | none =>
      { dispatcher with
        ready := OrderedMap.set dispatcher.ready job.tenantId [job]
        tenantOrder := dispatcher.tenantOrder ++ [job.tenantId] }
  | some queue =>
      { dispatcher with
        ready :=
          OrderedMap.set dispatcher.ready job.tenantId (queue ++ [job]) }

/-- `#removeTenant`. -/
def removeTenant
    (dispatcher : Dispatcher)
    (tenantId : String) : Dispatcher :=
  { dispatcher with
    ready := OrderedMap.delete dispatcher.ready tenantId
    tenantOrder := dispatcher.tenantOrder.erase tenantId }

/-- `clearTenant`. -/
def clearTenant
    (dispatcher : Dispatcher)
    (tenantId : String) : Dispatcher :=
  dispatcher.removeTenant tenantId

/-- Writing back a bucket from which a job was taken. -/
def shrinkBucket
    (dispatcher : Dispatcher)
    (tenantId : String)
    (queue : List PersistedJob) : Dispatcher :=
  if queue.isEmpty then
    dispatcher.removeTenant tenantId
  else
    { dispatcher with
      ready := OrderedMap.set dispatcher.ready tenantId queue }

/-- `dropFromReady`. -/
def dropFromReady
    (dispatcher : Dispatcher)
    (jobId : String) : Dispatcher :=
  match
      dispatcher.ready.rows.find? fun entry =>
        entry.2.any (·.id = jobId) with
  | none => dispatcher
  | some (tenantId, queue) =>
      dispatcher.shrinkBucket tenantId (queue.eraseP (·.id = jobId))

/-- The part of `rebuildFromStorage` before its await. -/
def clearReady (dispatcher : Dispatcher) : Dispatcher :=
  { dispatcher with ready := .empty, tenantOrder := [] }

/-- The dispatcher with another tenant order. -/
def withOrder
    (dispatcher : Dispatcher)
    (order : List String) : Dispatcher :=
  { dispatcher with tenantOrder := order }

/-- The number of running jobs of a tenant. -/
def tenantInFlight
    (dispatcher : Dispatcher)
    (tenantId : String) : Nat :=
  (OrderedMap.values dispatcher.running).countP (·.tenantId = tenantId)

/--
The `for` loop of `#takeNextReady` from index `i` on.  Every round advances the
index, so the length of the order at the start bounds the number of rounds.
-/
def takeNextReadyFrom :
    (rounds i : Nat) → Dispatcher → Option PersistedJob × Dispatcher
  | 0, _, dispatcher => (none, dispatcher)
  | rounds + 1, i, dispatcher =>
      if i < dispatcher.tenantOrder.length then
        match dispatcher.tenantOrder with
        | [] => (none, dispatcher)
        | tenantId :: others =>
            let rotated := dispatcher.withOrder (others ++ [tenantId])
            match (OrderedMap.lookup dispatcher.ready tenantId).getD [] with
            | [] =>
                takeNextReadyFrom rounds (i + 1) (rotated.removeTenant tenantId)
            | job :: queue =>
                if dispatcher.config.fairCapacityPerTenant ≤
                    dispatcher.tenantInFlight tenantId then
                  takeNextReadyFrom rounds (i + 1) rotated
                else
                  (some job, rotated.shrinkBucket tenantId queue)
      else
        (none, dispatcher)

/-- `#takeNextReady`. -/
def takeNextReady
    (dispatcher : Dispatcher) : Option PersistedJob × Dispatcher :=
  takeNextReadyFrom dispatcher.tenantOrder.length 0 dispatcher

/-- The condition of the dispatch loop, and of the kick after a settle. -/
def hasSlot (dispatcher : Dispatcher) : Bool :=
  0 < dispatcher.totalReady &&
    dispatcher.runningCount < dispatcher.config.inFlightLimit

end Dispatcher

end CloudflareParallel
