import CloudflareParallel.RunnerInput
import CloudflareParallel.SchedulerDispatcher

namespace CloudflareParallel

open KeyedTables

/-!
# The scheduler object: `CfpSchedulerDO` with its `Dispatcher`

Every call, alarm, execution and timer of the object is a task that runs from
one await to the next.  A step lets one of them run up to its next await, or is
something the platform does: a call arrives, a run settles, the alarm is
delivered, the object is evicted.  What the code reads from the clock, and
whether the store rejects, comes with the step.
-/

/-- `SchedulerEnqueueRequest`. -/
structure SchedulerEnqueueRequest where
  id : String
  tenantId : String
  fnSource : String
  fnHash : String
  args : List JsValue
  context : Option JsRecord := none
  deadlineEpochMs : Int
  retry : RetryPolicy
  jobMeta : Option (List (String × String)) := none
  idempotencyKey : Option String := none
  workerOptions : Option WireWorkerOptions := none
  allowList : Option (List String) := none
  cacheKeyStrategy : Option CacheKeyStrategy := none

/-- The job of an enqueue request. -/
def SchedulerEnqueueRequest.toJob
    (req : SchedulerEnqueueRequest)
    (now : Int) : PersistedJob where
  id := req.id
  tenantId := req.tenantId
  fnHash := req.fnHash
  fnSource := req.fnSource
  args := req.args
  context := req.context
  workerOptions := req.workerOptions
  allowList := req.allowList
  jobMeta := req.jobMeta
  createdAt := now
  deadlineEpochMs := req.deadlineEpochMs
  retry := req.retry
  retryCount := 0
  status := .queued
  idempotencyKey := req.idempotencyKey
  cacheKeyStrategy := req.cacheKeyStrategy

/-- The object's identity and environment. -/
structure CfpSchedulerDO where
  ctxId : String
  env : Env := []

/-- The lease owner of every claim of the object. -/
def CfpSchedulerDO.ownerId (self : CfpSchedulerDO) : String :=
  s!"sched-{self.ctxId}"

/-- `#runJob`, as the runner call that it makes. -/
def CfpSchedulerDO.runJob
    (self : CfpSchedulerDO)
    (job : PersistedJob) : RunnerCall where
  options := {
    callSite := .doMethod
    cacheKeyStrategy := job.cacheKeyStrategy.getD .stable
    workerOptions := wireToWorkerOptions job.workerOptions self.env
    allowList := job.allowList
  }
  input := {
    fnSource := job.fnSource
    fnHash := job.fnHash
    context := job.context
    bindings := some self.env
    envelope :=
      DispatchEnvelope.withMode
        { deadlineEpochMs := job.deadlineEpochMs
          signal := { cancelled := false } } .poolFn
    args := job.args
  }

/-- What goes on once `rebuildFromStorage` or `#ensureInit` is done. -/
inductive RebuildCaller where
  | enqueue (req : SchedulerEnqueueRequest)
  /-- `alarm` from its beginning. -/
  | alarmStart
  /-- `alarm` from its sweep. -/
  | alarmSweep (now : Int)
  /-- `alarm` from its kick. -/
  | alarmKick (now : Int)

/-- Something the object has started, at the await where it is suspended. -/
inductive SchedulerTask where
  /-- `rebuildFromStorage` awaits the queued jobs. -/
  | rebuild (queued : List PersistedJob) (caller : RebuildCaller)
  /-- A caller awaits a rebuild that is done or was not needed. -/
  | rebuilt (caller : RebuildCaller)
  /-- `Dispatcher.enqueue` awaits the store. -/
  | enqueueStored (job : PersistedJob)
  /-- `enqueue` awaits the dispatcher. -/
  | enqueueReturn (id : String)
  /-- `cancel` awaits the store. -/
  | cancelDone (jobId : String) (ok : Bool)
  /-- `cancelByTenant`, with the jobs it has still to cancel. -/
  | cancelTenant
      (tenantId : String)
      (reason : Option String)
      (active : List PersistedJob)
      (count : Nat)
  /-- `alarm` awaits `reclaimExpiredLeases`. -/
  | alarmReclaimed (now : Int) (reclaimed : Nat)
  /-- `alarm` awaits `sweepExpired`. -/
  | alarmSwept (now : Int)
  /-- `#scheduleAlarmAt` awaits the stored alarm. -/
  | writeAlarm (existing : Option Int) (wakeAt : Int)
  /-- `#runOne` awaits `#runJob`, which has not settled. -/
  | running (job : PersistedJob) (call : RunnerCall)
  /-- `#runJob` has settled, or the ack of its value was rejected. -/
  | settled (job : PersistedJob) (outcome : Except Thrown JsValue)
  /-- `#runOne` awaits a `fail` that puts the job back into the queue. -/
  | requeueing (job : PersistedJob)
  /-- `#runOne` has come to its end; its `finally` callback is due. -/
  | finishing (job : PersistedJob)
  /-- A `setTimeout` that puts a job back into the ready set. -/
  | retryTimer (job : PersistedJob) (wakeAt : Int)
  | finished

/-- What a caller of the object is told. -/
inductive SchedulerReply where
  | enqueued (id : String) (queueDepth : Nat)
  | rejected (err : Thrown)
  | cancelled (ok : Bool)
  | cancelledByTenant (count : Nat)
  | configured (effective : DispatcherConfig)
  | status (status : Option JobStatus)
  | result (result : JobStore.JobResult)

/-- The object between two of its steps. -/
structure SchedulerState where
  store : JobStore := {}
  /-- The time of the stored alarm. -/
  alarm : Option Int := none
  /--
  The time of an alarm that was delivered and whose handler has not returned;
  the platform delivers it again if the handler is lost.
  -/
  delivering : Option Int := none
  initialized : Bool := false
  configOverrides : PartialDispatcherConfig := {}
  created : Option Dispatcher := none
  /-- Everything started since the object was loaded, oldest first. -/
  tasks : List SchedulerTask := []
  /-- The answers given so far, oldest first. -/
  replies : List SchedulerReply := []

/-- What the dispatch loop reads from the clock, and whether it is rejected. -/
structure LoopReadings where
  check : Int
  claim : Int
  rejects : Bool := false

/-- What a task reads from the clock, and what its store call throws. -/
structure Readings where
  now : Int
  rejection : Option Thrown := none
  loop : LoopReadings

/-- All clock readings of a step are the same and nothing is rejected. -/
def Readings.at (now : Int) : Readings where
  now := now
  loop := { check := now, claim := now }

namespace SchedulerState

/-- `#getDispatcher`. -/
def dispatcher (state : SchedulerState) : Dispatcher :=
  state.created.getD
    { config := ({} : DispatcherConfig).overlay state.configOverrides }

/-- The state with a changed dispatcher. -/
def withDispatcher
    (state : SchedulerState)
    (dispatcher : Dispatcher) : SchedulerState :=
  { state with created := some dispatcher }

/-- The state with a changed store. -/
def withStore
    (state : SchedulerState)
    (store : JobStore) : SchedulerState :=
  { state with store := store }

/-- The state with another stored alarm. -/
def withAlarm
    (state : SchedulerState)
    (alarm delivering : Option Int) : SchedulerState :=
  { state with alarm := alarm, delivering := delivering }

/-- A task runs up to its next await. -/
def setTask
    (state : SchedulerState)
    (index : Nat)
    (task : SchedulerTask) : SchedulerState :=
  { state with tasks := state.tasks.set index task }

/-- A new task is suspended at its first await. -/
def addTask
    (state : SchedulerState)
    (task : SchedulerTask) : SchedulerState :=
  { state with tasks := state.tasks ++ [task] }

/-- A caller is answered. -/
def reply
    (state : SchedulerState)
    (answer : SchedulerReply) : SchedulerState :=
  { state with replies := state.replies ++ [answer] }

section Projections

variable (state : SchedulerState)
variable (dispatcher : Dispatcher) (store : JobStore)
variable (alarm delivering : Option Int)
variable (index : Nat) (task : SchedulerTask) (answer : SchedulerReply)

@[simp]
theorem dispatcher_withDispatcher :
    (state.withDispatcher dispatcher).dispatcher = dispatcher :=
  rfl

@[simp]
theorem dispatcher_withStore :
    (state.withStore store).dispatcher = state.dispatcher :=
  rfl

@[simp]
theorem dispatcher_setTask :
    (state.setTask index task).dispatcher = state.dispatcher :=
  rfl

@[simp]
theorem dispatcher_addTask :
    (state.addTask task).dispatcher = state.dispatcher :=
  rfl

@[simp]
theorem store_withDispatcher :
    (state.withDispatcher dispatcher).store = state.store :=
  rfl

@[simp]
theorem store_withStore : (state.withStore store).store = store :=
  rfl

@[simp]
theorem store_setTask : (state.setTask index task).store = state.store :=
  rfl

@[simp]
theorem store_addTask : (state.addTask task).store = state.store :=
  rfl

@[simp]
theorem tasks_withDispatcher :
    (state.withDispatcher dispatcher).tasks = state.tasks :=
  rfl

@[simp]
theorem tasks_withStore : (state.withStore store).tasks = state.tasks :=
  rfl

@[simp]
theorem tasks_setTask :
    (state.setTask index task).tasks = state.tasks.set index task :=
  rfl

@[simp]
theorem tasks_addTask :
    (state.addTask task).tasks = state.tasks ++ [task] :=
  rfl

end Projections

/-- `rebuildFromStorage` up to its await, on behalf of a caller. -/
def beginRebuild
    (state : SchedulerState)
    (caller : RebuildCaller) : SchedulerState × SchedulerTask :=
  (state.withDispatcher state.dispatcher.clearReady,
    .rebuild (state.store.peek none 10000) caller)

/-- `#ensureInit` up to its await, on behalf of a caller. -/
def ensureInit
    (state : SchedulerState)
    (caller : RebuildCaller) : SchedulerState × SchedulerTask :=
  if state.initialized then
    (state, .rebuilt caller)
  else
    { state with initialized := true }.beginRebuild caller

end SchedulerState

/-- The claim of the dispatch loop. -/
def CfpSchedulerDO.claimRequest
    (self : CfpSchedulerDO)
    (config : DispatcherConfig)
    (job : PersistedJob) : ClaimRequest where
  workerId := self.ownerId
  max := 1
  leaseMs := config.defaultLeaseMs
  jobId := some job.id

/-- The body of the dispatch loop for a job, up to its await. -/
def CfpSchedulerDO.dispatchJob
    (self : CfpSchedulerDO)
    (readings : LoopReadings)
    (state : SchedulerState)
    (dispatcher : Dispatcher)
    (job : PersistedJob) : SchedulerState :=
  if readings.rejects then
    state.withDispatcher { dispatcher with loop := .rejected }
  else if deadlinePassed job readings.check then
    let failed :=
      state.store.failQueued readings.check job.id (deadlineError job)
    (state.withStore failed.1).withDispatcher
      { dispatcher with loop := .failedExpired }
  else
    let claimed :=
      state.store.claim readings.claim
        (self.claimRequest dispatcher.config job)
    (state.withStore claimed.1).withDispatcher
      { dispatcher with loop := .claimed claimed.2.head? }

/-- The dispatch loop from its condition up to its next await or its end. -/
def CfpSchedulerDO.dispatchLoop
    (self : CfpSchedulerDO)
    (readings : LoopReadings)
    (state : SchedulerState) : SchedulerState :=
  if state.dispatcher.hasSlot then
    match state.dispatcher.takeNextReady with
    | (none, dispatcher) =>
        state.withDispatcher { dispatcher with loop := .idle }
    | (some job, dispatcher) =>
        self.dispatchJob readings state dispatcher job
  else
    state.withDispatcher { state.dispatcher with loop := .idle }

/-- `kick`: the loop is single-flight. -/
def CfpSchedulerDO.kick
    (self : CfpSchedulerDO)
    (readings : LoopReadings)
    (state : SchedulerState) : SchedulerState :=
  match state.dispatcher.loop with
  | .idle => self.dispatchLoop readings state
  | _ => state

def ALARM_SWEEP_MS : Int := 5000

def IDLE_ALARM_MS : Int := 60000

/-- The end of `alarm`: the next alarm is stored. -/
def SchedulerState.setNextAlarm
    (state : SchedulerState)
    (now : Int) : SchedulerState :=
  let nextDelay :=
    if 0 < state.dispatcher.totalReady + state.dispatcher.runningCount then
      ALARM_SWEEP_MS
    else
      IDLE_ALARM_MS
  state.withAlarm (some (now + nextDelay)) none

/-- How a task goes on once it has done its own part. -/
inductive LoopEntry where
  /-- It awaits or ends. -/
  | stay
  /-- It kicks the dispatch loop, and then awaits or ends. -/
  | kick
  /-- It kicks the dispatch loop, and then stores the next alarm. -/
  | kickThenAlarm (now : Int)

/-- A task's own part of a step, before it kicks the loop. -/
structure Segment where
  state : SchedulerState
  entry : LoopEntry := .stay

/-- The rest of the step. -/
def Segment.finish
    (self : CfpSchedulerDO)
    (readings : LoopReadings)
    (segment : Segment) : SchedulerState :=
  match segment.entry with
  | .stay => segment.state
  | .kick => self.kick readings segment.state
  | .kickThenAlarm now => (self.kick readings segment.state).setNextAlarm now

/-- `queueDepth >= maxQueueDepth`. -/
def Dispatcher.queueIsFull (dispatcher : Dispatcher) : Bool :=
  match dispatcher.config.maxQueueDepth with
  | .finite limit => limit ≤ dispatcher.totalReady
  | .infinity => false

/-- `QueueFullError`. -/
def queueFullError (dispatcher : Dispatcher) : Thrown :=
  let max :=
    match dispatcher.config.maxQueueDepth with
    | .finite limit => toString limit
    | .infinity => "Infinity"
  .error "QueueFullError"
    s!"Dispatcher queue full (depth={dispatcher.totalReady}, max={max})"
    none none

/-- The rest of `enqueue` after `#ensureInit`, up to its await. -/
def SchedulerState.startEnqueue
    (state : SchedulerState)
    (index : Nat)
    (readings : Readings)
    (req : SchedulerEnqueueRequest) : SchedulerState :=
  let job := req.toJob readings.now
  let refused (err : Thrown) :=
    (state.reply (.rejected err)).setTask index .finished
  if state.dispatcher.queueIsFull then
    refused (queueFullError state.dispatcher)
  else
    match readings.rejection with
    | some err => refused err
    | none =>
        match state.store.enqueue readings.now job with
        | .error err => refused err
        | .ok store =>
            (state.withStore store).setTask index (.enqueueStored job)

/-- `#runOne` once its run has settled, up to its next await. -/
def CfpSchedulerDO.storeOutcome
    (self : CfpSchedulerDO)
    (state : SchedulerState)
    (index : Nat)
    (readings : Readings)
    (job : PersistedJob) :
    Except Thrown JsValue → SchedulerState
  | .ok value =>
      match readings.rejection with
      | some err => state.setTask index (.settled job (.error err))
      | none =>
          let acked :=
            state.store.ack readings.now job.id self.ownerId value
              (readings.now + state.dispatcher.config.resultTtlMs)
          (state.withStore acked.1).setTask index (.finishing job)
  | .error rawErr =>
      match readings.rejection with
      | some _ => state.setTask index (.finishing job)
      | none =>
          let failed :=
            state.store.fail readings.now job.id self.ownerId
              (errorToRecord rawErr)
          (state.withStore failed.1).setTask index
            (if failed.2 = .queued then .requeueing job else .finishing job)

/-- The snapshot that is put back into the ready set. -/
def retryJob (job : PersistedJob) : PersistedJob :=
  { job with
    retryCount := job.retryCount + 1
    status := .queued
    leaseOwner := none
    leaseExpiresMs := none }

/-- `#runOne` after a `fail` that queued the job again. -/
def SchedulerState.scheduleRetry
    (state : SchedulerState)
    (index : Nat)
    (now : Int)
    (job : PersistedJob) : Segment :=
  let delayMs := retryDelayMs job
  let hooked :=
    (state.setTask index (.finishing job)).addTask
      (.writeAlarm state.alarm (now + delayMs))
  if delayMs ≤ 0 then
    { state :=
        hooked.withDispatcher (state.dispatcher.enqueueReady (retryJob job))
      entry := .kick }
  else
    { state := hooked.addTask (.retryTimer (retryJob job) (now + delayMs)) }

/-- The `finally` callback of an execution. -/
def SchedulerState.finishRun
    (state : SchedulerState)
    (index : Nat)
    (job : PersistedJob) : Segment :=
  let dispatcher :=
    { state.dispatcher with
      running := OrderedMap.delete state.dispatcher.running job.id }
  { state := (state.withDispatcher dispatcher).setTask index .finished
    entry := if dispatcher.hasSlot then .kick else .stay }

/-- `alarm` after `sweepExpired`, up to its next await or its kick. -/
def SchedulerState.backstop
    (state : SchedulerState)
    (index : Nat)
    (now : Int) : Segment :=
  if state.dispatcher.config.inFlightLimit ≤
      state.dispatcher.totalReady + state.dispatcher.runningCount then
    { state := state.setTask index .finished, entry := .kickThenAlarm now }
  else
    let begun := state.beginRebuild (.alarmKick now)
    { state := begun.1.setTask index begun.2 }

/-- `alarm` at `sweepExpired`, up to its await. -/
def SchedulerState.sweep
    (state : SchedulerState)
    (index : Nat)
    (now : Int) : SchedulerState :=
  (state.withStore (state.store.sweepExpired now)).setTask index
    (.alarmSwept now)

/-- The caller of a rebuild goes on. -/
def SchedulerState.afterRebuild
    (state : SchedulerState)
    (index : Nat)
    (readings : Readings) : RebuildCaller → Segment
  | .enqueue req =>
      { state := state.startEnqueue index readings req }
  | .alarmStart =>
      let reclaimed := state.store.reclaimExpiredLeases readings.now
      { state :=
          (state.withStore reclaimed.1).setTask index
            (.alarmReclaimed readings.now reclaimed.2) }
  | .alarmSweep now =>
      { state := state.sweep index now }
  | .alarmKick now =>
      { state := state.setTask index .finished
        entry := .kickThenAlarm now }

/-- A suspended task goes on. -/
def CfpSchedulerDO.resumeTask
    (self : CfpSchedulerDO)
    (state : SchedulerState)
    (index : Nat)
    (readings : Readings) : SchedulerTask → Option Segment
  | .rebuild queued caller =>
      some {
        state :=
          (state.withDispatcher
              (queued.foldl Dispatcher.enqueueReady state.dispatcher)).setTask
            index (.rebuilt caller)
      }
  | .rebuilt caller =>
      some (state.afterRebuild index readings caller)
  | .enqueueStored job =>
      some {
        state :=
          (state.withDispatcher (state.dispatcher.enqueueReady job)).setTask
            index (.enqueueReturn job.id)
        entry := .kick
      }
  | .enqueueReturn id =>
      some {
        state :=
          (state.reply (.enqueued id state.dispatcher.totalReady)).setTask
            index .finished
      }
  | .cancelDone jobId ok =>
      let dropped :=
        if ok then
          state.withDispatcher (state.dispatcher.dropFromReady jobId)
        else
          state
      some { state := (dropped.reply (.cancelled ok)).setTask index .finished }
  | .cancelTenant tenantId _ [] count =>
      some {
        state :=
          ((state.withDispatcher
              (state.dispatcher.clearTenant tenantId)).reply
            (.cancelledByTenant count)).setTask index .finished
      }
  | .cancelTenant tenantId reason (job :: active) count =>
      let cancelled := state.store.cancel readings.now job.id reason
      some {
        state :=
          (state.withStore cancelled.1).setTask index
            (.cancelTenant tenantId reason active
              (if cancelled.2 then count + 1 else count))
      }
  | .alarmReclaimed now reclaimed =>
      if 0 < reclaimed then
        let begun := state.beginRebuild (.alarmSweep now)
        some { state := begun.1.setTask index begun.2 }
      else
        some { state := state.sweep index now }
  | .alarmSwept now =>
      some (state.backstop index now)
  | .writeAlarm existing wakeAt =>
      let kept := existing.any fun time => time ≠ 0 && time ≤ wakeAt
      some {
        state :=
          (state.withAlarm (if kept then state.alarm else some wakeAt)
            state.delivering).setTask index .finished
      }
  | .settled job outcome =>
      some { state := self.storeOutcome state index readings job outcome }
  | .requeueing job =>
      some (state.scheduleRetry index readings.now job)
  | .finishing job =>
      some (state.finishRun index job)
  | .retryTimer job wakeAt =>
      if wakeAt ≤ readings.now then
        some {
          state :=
            (state.withDispatcher (state.dispatcher.enqueueReady job)).setTask
              index .finished
          entry := .kick
        }
      else
        none
  | .running _ _ => none
  | .finished => none

/--
The dispatch loop goes on after an await.  Unless it was rejected it comes back
to its condition, which is the same as being entered afresh.
-/
def CfpSchedulerDO.resumeLoop
    (self : CfpSchedulerDO)
    (state : SchedulerState) : Option Segment :=
  let dispatcher := { state.dispatcher with loop := .idle }
  match state.dispatcher.loop with
  | .idle => none
  | .rejected => some { state := state.withDispatcher dispatcher }
  | .failedExpired | .claimed none =>
      some { state := state.withDispatcher dispatcher, entry := .kick }
  | .claimed (some target) =>
      some {
        state :=
          (state.withDispatcher
              { dispatcher with
                running :=
                  OrderedMap.set dispatcher.running target.id
                    { id := target.id, tenantId := target.tenantId } }).addTask
            (.running target (self.runJob target))
        entry := .kick
      }

/-- What can happen next at the object. -/
inductive SchedulerEvent where
  | enqueue (req : SchedulerEnqueueRequest)
  | cancel (jobId : String) (reason : Option String) (now : Int)
  | cancelByTenant (tenantId : String) (reason : Option String)
  | configure (c : PartialDispatcherConfig)
  | status (jobId : String)
  | result (jobId : String) (now : Int)
  /-- The platform delivers the stored alarm. -/
  | deliverAlarm (now : Int)
  /-- A suspended task goes on. -/
  | resume (index : Nat) (readings : Readings)
  /-- The dispatch loop goes on. -/
  | resumeLoop (readings : LoopReadings)
  /-- The run of an execution settles. -/
  | settle (index : Nat) (outcome : Except Thrown JsValue)
  /-- The object loses its memory. -/
  | evict

/-- `configure`. -/
def SchedulerState.configure
    (state : SchedulerState)
    (c : PartialDispatcherConfig) : SchedulerState :=
  let created := state.created.map (·.configure c)
  let effective :=
    match created with
    | none => ({} : DispatcherConfig).overlay c
    | some dispatcher => dispatcher.config
  { state with
    configOverrides := state.configOverrides.overlay c
    created := created }.reply (.configured effective)

/-- `configure` changes no more of the dispatcher than its configuration. -/
theorem dispatcher_configure
    (state : SchedulerState)
    (c : PartialDispatcherConfig) :
    ∃ config,
      (state.configure c).dispatcher =
        { state.dispatcher with config := config } := by
  cases created : state.created with
  | none =>
      refine ⟨({} : DispatcherConfig).overlay
        (state.configOverrides.overlay c), ?_⟩
      simp [SchedulerState.configure, SchedulerState.dispatcher,
        SchedulerState.reply, created]
  | some dispatcher =>
      refine ⟨dispatcher.config.overlay c, ?_⟩
      simp [SchedulerState.configure, SchedulerState.dispatcher,
        SchedulerState.reply, Dispatcher.configure, created]

/-- What is left of the object after an eviction. -/
def SchedulerState.evicted (state : SchedulerState) : SchedulerState where
  store := state.store
  alarm := state.alarm.or state.delivering
  replies := state.replies

/-- What happens before the dispatch loop is kicked. -/
def CfpSchedulerDO.segment
    (self : CfpSchedulerDO)
    (state : SchedulerState) : SchedulerEvent → Option Segment
  | .enqueue req =>
      let begun := state.ensureInit (.enqueue req)
      some { state := begun.1.addTask begun.2 }
  | .cancel jobId reason now =>
      let cancelled := state.store.cancel now jobId reason
      some {
        state :=
          (state.withStore cancelled.1).addTask
            (.cancelDone jobId cancelled.2)
      }
  | .cancelByTenant tenantId reason =>
      some {
        state :=
          state.addTask
            (.cancelTenant tenantId reason
              (state.store.listActiveByTenant tenantId) 0)
      }
  | .configure c =>
      some { state := state.configure c }
  | .status jobId =>
      some { state := state.reply (.status (state.store.status jobId)) }
  | .result jobId now =>
      some { state := state.reply (.result (state.store.result now jobId)) }
  | .deliverAlarm now =>
      match state.alarm, state.delivering with
      | some time, none =>
          if time ≤ now then
            let begun :=
              (state.withAlarm none (some time)).ensureInit .alarmStart
            some { state := begun.1.addTask begun.2 }
          else
            none
      | _, _ => none
  | .resume index readings =>
      state.tasks[index]?.bind (self.resumeTask state index readings)
  | .resumeLoop _ =>
      self.resumeLoop state
  | .settle index outcome =>
      match state.tasks[index]? with
      | some (.running job _) =>
          some { state := state.setTask index (.settled job outcome) }
      | _ => none
  | .evict =>
      some { state := state.evicted }

/-- The clock readings of the dispatch loop in a step. -/
def SchedulerEvent.loopReadings : SchedulerEvent → LoopReadings
  | .resume _ readings => readings.loop
  | .resumeLoop readings => readings
  | _ => { check := 0, claim := 0 }

/-- One step of the object. -/
def CfpSchedulerDO.step
    (self : CfpSchedulerDO)
    (state : SchedulerState)
    (event : SchedulerEvent) : Option SchedulerState :=
  (self.segment state event).map (Segment.finish self event.loopReadings)

/-- An object with no bindings. -/
def CfpSchedulerDO.plain : CfpSchedulerDO where
  ctxId := "jobs"

/-- A job that runs for longer than a minute. -/
def SchedulerEnqueueRequest.slow : SchedulerEnqueueRequest where
  id := "slow"
  tenantId := "tenant"
  fnSource := "async () => \x7b await new Promise(r => setTimeout(r, 90000)) \x7d"
  fnHash := "0"
  args := []
  deadlineEpochMs := 1000000
  retry := { max := 3, backoff := .constant, baseMs := 200 }

/-- The job is enqueued at time ten and its run starts. -/
def slowStarts : List SchedulerEvent :=
  [ .enqueue .slow, .resume 0 (.at 10), .resume 0 (.at 10),
    .resume 0 (.at 10), .resume 0 (.at 10),
    .resumeLoop { check := 10, claim := 10 } ]

/-- A job that fails and is retried after a minute. -/
def SchedulerEnqueueRequest.flaky : SchedulerEnqueueRequest where
  id := "flaky"
  tenantId := "tenant"
  fnSource := "() => \x7b throw new Error('not yet') \x7d"
  fnHash := "1"
  args := []
  deadlineEpochMs := 1000000
  retry := { max := 3, backoff := .constant, baseMs := 60000 }

/-- The second job is enqueued, fails at time twenty and sets the alarm. -/
def flakyFails : List SchedulerEvent :=
  [ .enqueue .flaky, .resume 2 (.at 10), .resume 2 (.at 10),
    .resume 2 (.at 10), .resumeLoop { check := 10, claim := 10 },
    .settle 3 (.error (.error "Error" "not yet" none none)),
    .resume 3 (.at 20), .resume 3 (.at 20), .resume 3 (.at 20),
    .resume 4 (.at 20) ]

end CloudflareParallel
