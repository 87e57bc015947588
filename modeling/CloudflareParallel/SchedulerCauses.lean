import CloudflareParallel.SchedulerBackoff
import CloudflareParallel.SchedulerRoundTrips

namespace CloudflareParallel

open KeyedTables LabelledRuns

/-!
# Where the answers of the scheduler come from

What `result` tells a caller about a job has a cause: a value is the one that an
execution of the job has resolved to, run with the code and the arguments of a
request that was submitted under the job's id, and a failure is the error of an
execution, of the store or of the deadline.  The store keeps arguments, contexts
and values as JSON, so the runs are those that bring only JSON into it.
-/

/-- The request that a job was made from; only retries and leases change. -/
def PersistedJob.request (job : PersistedJob) : SchedulerEnqueueRequest where
  id := job.id
  tenantId := job.tenantId
  fnSource := job.fnSource
  fnHash := job.fnHash
  args := job.args
  context := job.context
  deadlineEpochMs := job.deadlineEpochMs
  retry := job.retry
  jobMeta := job.jobMeta
  idempotencyKey := job.idempotencyKey
  workerOptions := job.workerOptions
  allowList := job.allowList
  cacheKeyStrategy := job.cacheKeyStrategy

/-- The runner call of every execution of a request. -/
def SchedulerEnqueueRequest.runnerCall
    (req : SchedulerEnqueueRequest)
    (self : CfpSchedulerDO) : RunnerCall :=
  self.runJob (req.toJob 0)

/-- A deadline is that of the request, so is the error about it. -/
theorem deadlineError_request (job : PersistedJob) :
    deadlineError (job.request.toJob 0) = deadlineError job := by
  unfold deadlineError
  rfl

/-- The arguments and the context of a request are JSON values. -/
def SchedulerEnqueueRequest.IsJson (req : SchedulerEnqueueRequest) : Prop :=
  (req.toJob 0).IsJson

/--
What an event brings into the store is JSON; the value of an execution may also
have no text.
-/
def SchedulerEvent.IsJson : SchedulerEvent → Prop
  | .enqueue req => req.IsJson
  | .settle _ (.ok value) =>
      value.IsJson ∨ value.stringifiesToUndefined = true
  | _ => True

/-- Whichever columns `enqueue` writes for a request, they give it back. -/
def SchedulerEnqueueRequest.IsReadBack
    (req : SchedulerEnqueueRequest) : Prop :=
  ∀ (adapter : JobsAdapter) (now : Int),
    adapter.rowToJob (adapter.insertedRecord (req.toJob now)) =
      some (req.toJob now)

/-- A request of JSON values is read back. -/
theorem SchedulerEnqueueRequest.IsJson.isReadBack
    {req : SchedulerEnqueueRequest}
    (isJson : req.IsJson) :
    req.IsReadBack := by
  intro adapter now
  have isNew : (req.toJob now).IsNew := ⟨rfl, rfl, rfl, rfl, rfl, rfl⟩
  exact isNew.rowToJob_insertedRecord ⟨isJson.args, isJson.context⟩ adapter

/-- An execution that has settled. -/
structure SettledExecution where
  request : SchedulerEnqueueRequest
  call : RunnerCall
  outcome : Except Thrown JsValue

/-- The store gives back what was run, and what it holds of the value. -/
structure SettledExecution.IsReadBack
    (execution : SettledExecution) : Prop where
  request : execution.request.IsReadBack
  value :
    ∀ value,
      execution.outcome = .ok value →
      ∀ exoticJson, value.decoded exoticJson = encodedResult value

/-- What was asked of the object and what has come of it, newest first. -/
structure SchedulerRecord where
  requests : List SchedulerEnqueueRequest := []
  /-- The ids that `cancel` was called with. -/
  cancels : List String := []
  /-- The tenants that `cancelByTenant` was called with. -/
  tenantCancels : List String := []
  executions : List SettledExecution := []
  /-- What the store threw when the value of a job was stored. -/
  rejections : List (String × Thrown) := []
  /-- The clock readings that deadlines were compared with. -/
  checks : List Int := []
  answers : List (String × JobStore.JobResult) := []

namespace SchedulerRecord

/-- An event and the record of it. -/
def add
    (state : SchedulerState)
    (event : SchedulerEvent)
    (record : SchedulerRecord) : SchedulerRecord :=
  let record :=
    { record with checks := event.loopReadings.check :: record.checks }
  match event with
  | .enqueue req => { record with requests := req :: record.requests }
  | .cancel jobId _ _ => { record with cancels := jobId :: record.cancels }
  | .cancelByTenant tenantId _ =>
      { record with tenantCancels := tenantId :: record.tenantCancels }
  | .settle index outcome =>
      match state.tasks[index]? with
      | some (.running job call) =>
          { record with
            executions :=
              { request := job.request, call := call, outcome := outcome } ::
                record.executions }
      | _ => record
  | .resume index readings =>
      match state.tasks[index]?, readings.rejection with
      | some (.settled job (.ok _)), some err =>
          { record with
            rejections := (job.id, err) :: record.rejections }
      | _, _ => record
  | .result jobId now =>
      { record with
        answers := (jobId, state.store.result now jobId) :: record.answers }
  | _ => record

/-! ## Causes -/

variable (self : CfpSchedulerDO) (record : SchedulerRecord)

/-- An execution of a submitted request has settled so. -/
def Settled
    (jobId : String)
    (outcome : Except Thrown JsValue) : Prop :=
  ∃ execution ∈ record.executions,
    execution.request ∈ record.requests ∧
      execution.request.id = jobId ∧
        execution.call = execution.request.runnerCall self ∧
          execution.outcome = outcome ∧
            execution.IsReadBack

/-- Why `fail` was called with an error. -/
inductive Throws (jobId : String) : Thrown → Prop where
  | execution {err : Thrown} :
      record.Settled self jobId (.error err) →
      Throws jobId err
  | rejection {value : JsValue} {err : Thrown} :
      record.Settled self jobId (.ok value) →
      (jobId, err) ∈ record.rejections →
      Throws jobId err

/-- Why a job has failed with an error. -/
inductive Fails (jobId : String) : ErrorRecord → Prop where
  | thrown {err : Thrown} :
      record.Throws self jobId err →
      Fails jobId (errorToRecord err)
  | deadline {req : SchedulerEnqueueRequest} {check : Int} :
      req ∈ record.requests →
      req.id = jobId →
      check ∈ record.checks →
      deadlinePassed (req.toJob 0) check →
      Fails jobId (deadlineError (req.toJob 0))

/-- Why a job was cancelled. -/
def Cancels (jobId : String) : Prop :=
  jobId ∈ record.cancels ∨
    ∃ req ∈ record.requests,
      req.id = jobId ∧ req.tenantId ∈ record.tenantCancels

/-- What a status with a value and an error says of a job has a cause. -/
structure Explains
    (history : SchedulerRecord)
    (scheduler : CfpSchedulerDO)
    (jobId : String)
    (status : JobStatus)
    (value : Option JsValue)
    (error : Option ErrorRecord) : Prop where
  submitted : ∃ req ∈ history.requests, req.id = jobId
  done :
    status = .done →
      ∃ result,
        (∀ exoticJson, value = some (result.decoded exoticJson)) ∧
          history.Settled scheduler jobId (.ok result)
  failed :
    status = .failed →
      ∃ err, error = some err ∧ history.Fails scheduler jobId err
  cancelled : status = .cancelled → history.Cancels jobId

/-- An answer of `result` has a cause. -/
inductive ExplainsAnswer (jobId : String) : JobStore.JobResult → Prop where
  | absent :
      ExplainsAnswer jobId
        { status := .failed
          error := some {
            name := "NotFoundError"
            message := s!"Job {jobId} not found (or result expired)"
          } }
  | expired {value : JsValue} :
      record.Settled self jobId (.ok value) →
      ExplainsAnswer jobId
        { status := .failed
          error := some {
            name := "ResultExpiredError"
            message := s!"Job {jobId} result expired"
          } }
  | known {answer : JobStore.JobResult} :
      record.Explains self jobId answer.status answer.value answer.error →
      ExplainsAnswer jobId answer

/-! ## A record that grows -/

/-- Nothing that was recorded is lost. -/
structure Extends (record later : SchedulerRecord) : Prop where
  requests : record.requests ⊆ later.requests
  cancels : record.cancels ⊆ later.cancels
  tenantCancels : record.tenantCancels ⊆ later.tenantCancels
  executions : record.executions ⊆ later.executions
  rejections : record.rejections ⊆ later.rejections
  checks : record.checks ⊆ later.checks
  answers : record.answers ⊆ later.answers

theorem extends_add
    (state : SchedulerState)
    (event : SchedulerEvent)
    (record : SchedulerRecord) :
    record.Extends (add state event record) := by
  have checked :
      record.Extends
        { record with checks := event.loopReadings.check :: record.checks } :=
    ⟨.refl _, .refl _, .refl _, .refl _, .refl _,
      List.subset_cons_self .., .refl _⟩
  unfold add
  dsimp only
  split
  · exact { checked with requests := List.subset_cons_self .. }
  · exact { checked with cancels := List.subset_cons_self .. }
  · exact { checked with tenantCancels := List.subset_cons_self .. }
  · split
    · exact { checked with executions := List.subset_cons_self .. }
    · exact checked
  · split
    · exact { checked with rejections := List.subset_cons_self .. }
    · exact checked
  · exact { checked with answers := List.subset_cons_self .. }
  · exact checked

/-- The clock reading of a step is recorded. -/
theorem check_mem_add
    (state : SchedulerState)
    (event : SchedulerEvent)
    (record : SchedulerRecord) :
    event.loopReadings.check ∈ (add state event record).checks := by
  unfold add
  dsimp only
  split
  case h_4 | h_5 =>
    split <;> exact List.mem_cons_self ..
  all_goals exact List.mem_cons_self ..

variable {self : CfpSchedulerDO} {record later : SchedulerRecord}
variable {jobId : String}

theorem Settled.mono
    (grows : record.Extends later)
    {outcome : Except Thrown JsValue}
    (settled : record.Settled self jobId outcome) :
    later.Settled self jobId outcome := by
  obtain ⟨execution, member, submitted, rest⟩ := settled
  exact ⟨execution, grows.executions member, grows.requests submitted, rest⟩

/-- What the store holds of a settled value is what is read back. -/
theorem Settled.decoded
    {value : JsValue}
    (settled : record.Settled self jobId (.ok value))
    (exoticJson : JsExotic → JsonValues.Json) :
    value.decoded exoticJson = encodedResult value := by
  obtain ⟨execution, -, -, -, -, isOutcome, isReadBack⟩ := settled
  exact isReadBack.value value isOutcome exoticJson

theorem Throws.mono
    (grows : record.Extends later)
    {err : Thrown}
    (throws : record.Throws self jobId err) :
    later.Throws self jobId err := by
  cases throws with
  | execution settled => exact .execution (settled.mono grows)
  | rejection settled rejected =>
      exact .rejection (settled.mono grows) (grows.rejections rejected)

theorem Fails.mono
    (grows : record.Extends later)
    {error : ErrorRecord}
    (fails : record.Fails self jobId error) :
    later.Fails self jobId error := by
  cases fails with
  | thrown throws => exact .thrown (throws.mono grows)
  | deadline submitted isJob checked passed =>
      exact .deadline (grows.requests submitted) isJob
        (grows.checks checked) passed

theorem Cancels.mono
    (grows : record.Extends later)
    (cancels : record.Cancels jobId) :
    later.Cancels jobId := by
  rcases cancels with called | ⟨req, submitted, isJob, ofTenant⟩
  · exact .inl (grows.cancels called)
  · exact .inr
      ⟨req, grows.requests submitted, isJob, grows.tenantCancels ofTenant⟩

theorem Explains.mono
    (grows : record.Extends later)
    {status : JobStatus}
    {value : Option JsValue}
    {error : Option ErrorRecord}
    (explains : record.Explains self jobId status value error) :
    later.Explains self jobId status value error where
  submitted := by
    obtain ⟨req, submitted, isJob⟩ := explains.submitted
    exact ⟨req, grows.requests submitted, isJob⟩
  done isDone := by
    obtain ⟨result, isResult, settled⟩ := explains.done isDone
    exact ⟨result, isResult, settled.mono grows⟩
  failed isFailed := by
    obtain ⟨err, isError, fails⟩ := explains.failed isFailed
    exact ⟨err, isError, fails.mono grows⟩
  cancelled isCancelled := (explains.cancelled isCancelled).mono grows

theorem ExplainsAnswer.mono
    (grows : record.Extends later)
    {answer : JobStore.JobResult}
    (explains : record.ExplainsAnswer self jobId answer) :
    later.ExplainsAnswer self jobId answer := by
  cases explains with
  | absent => exact .absent
  | expired settled => exact .expired (settled.mono grows)
  | known known => exact .known (known.mono grows)

end SchedulerRecord

/-! ## The invariant -/

namespace SchedulerRecord

variable (self : CfpSchedulerDO) (record : SchedulerRecord)

/-- A job in memory was made from a submitted request. -/
def Knows (job : PersistedJob) : Prop :=
  job.request ∈ record.requests

/-- The caller of a rebuild was submitted. -/
def ExplainsCaller : RebuildCaller → Prop
  | .enqueue req => req ∈ record.requests
  | _ => True

/-- Everything that a suspended task holds has a cause. -/
def ExplainsTask : SchedulerTask → Prop
  | .rebuild queued caller =>
      (∀ job ∈ queued, record.Knows job) ∧ record.ExplainsCaller caller
  | .rebuilt caller => record.ExplainsCaller caller
  | .enqueueStored job => record.Knows job
  | .cancelTenant tenantId _ active _ =>
      tenantId ∈ record.tenantCancels ∧
        ∀ job ∈ active, record.Knows job ∧ job.tenantId = tenantId
  | .running job call => record.Knows job ∧ call = self.runJob job
  | .settled job (.ok value) =>
      record.Knows job ∧ record.Settled self job.id (.ok value)
  | .settled job (.error err) =>
      record.Knows job ∧ record.Throws self job.id err
  | .requeueing job => record.Knows job
  | .retryTimer job _ => record.Knows job
  | _ => True

/-- A row of the table has a cause. -/
def ExplainsRow (row : JobsRow) : Prop :=
  record.Knows (rowToJob row) ∧
    record.Explains self row.id row.status row.result row.error

/-- Everything that the object holds in memory has a cause. -/
structure ExplainsMemory
    (history : SchedulerRecord)
    (scheduler : CfpSchedulerDO)
    (tasks : List SchedulerTask)
    (dispatcher : Dispatcher) : Prop where
  tasks : ∀ task ∈ tasks, history.ExplainsTask scheduler task
  ready : ∀ job ∈ dispatcher.readyJobs, history.Knows job
  claimed :
    ∀ target,
      dispatcher.loop = .claimed (some target) →
      history.Knows target

/-- Everything that the object holds and has answered has a cause. -/
structure ExplainsState
    (history : SchedulerRecord)
    (scheduler : CfpSchedulerDO)
    (state : SchedulerState) : Prop
    extends ExplainsMemory history scheduler state.tasks state.dispatcher where
  requests : ∀ req ∈ history.requests, req.IsReadBack
  rows :
    ∀ jobId row,
      state.store.row? jobId = some row → history.ExplainsRow scheduler row
  answers :
    ∀ answer ∈ history.answers,
      history.ExplainsAnswer scheduler answer.1 answer.2

variable {self : CfpSchedulerDO} {record later : SchedulerRecord}

theorem Knows.mono
    (grows : record.Extends later)
    {job : PersistedJob}
    (knows : record.Knows job) :
    later.Knows job :=
  grows.requests knows

theorem ExplainsCaller.mono
    (grows : record.Extends later)
    {caller : RebuildCaller}
    (explains : record.ExplainsCaller caller) :
    later.ExplainsCaller caller := by
  cases caller with
  | enqueue req => exact grows.requests explains
  | _ => exact trivial

theorem ExplainsTask.mono
    (grows : record.Extends later)
    {task : SchedulerTask}
    (explains : record.ExplainsTask self task) :
    later.ExplainsTask self task := by
  cases task with
  | rebuild queued caller =>
      exact ⟨fun job member => (explains.1 job member).mono grows,
        explains.2.mono grows⟩
  | rebuilt caller => exact ExplainsCaller.mono grows explains
  | enqueueStored | requeueing | retryTimer =>
      exact Knows.mono grows explains
  | cancelTenant tenantId reason active count =>
      exact ⟨grows.tenantCancels explains.1, fun job member =>
        ⟨(explains.2 job member).1.mono grows, (explains.2 job member).2⟩⟩
  | running job call => exact ⟨explains.1.mono grows, explains.2⟩
  | settled job outcome =>
      cases outcome with
      | ok value => exact ⟨explains.1.mono grows, explains.2.mono grows⟩
      | error err => exact ⟨explains.1.mono grows, explains.2.mono grows⟩
  | _ => exact trivial

theorem ExplainsRow.mono
    (grows : record.Extends later)
    {row : JobsRow}
    (explains : record.ExplainsRow self row) :
    later.ExplainsRow self row :=
  ⟨explains.1.mono grows, explains.2.mono grows⟩

/-- A job that is known was submitted. -/
theorem Knows.submitted
    {job : PersistedJob}
    (knows : record.Knows job) :
    ∃ req ∈ record.requests, req.id = job.id :=
  ⟨job.request, knows, rfl⟩

/-- A status that nothing is said of has no cause to give. -/
theorem Explains.of_unsettled
    {jobId : String}
    {status : JobStatus}
    {value : Option JsValue}
    {error : Option ErrorRecord}
    (submitted : ∃ req ∈ record.requests, req.id = jobId)
    (unsettled : status.isTerminal = false) :
    record.Explains self jobId status value error where
  submitted := submitted
  done isDone := by
    rw [isDone] at unsettled
    cases unsettled
  failed isFailed := by
    rw [isFailed] at unsettled
    cases unsettled
  cancelled isCancelled := by
    rw [isCancelled] at unsettled
    cases unsettled

/-! ## The rows -/

/-- Where a step cancels a row before the loop is kicked. -/
theorem cancels_of_call
    {state : SchedulerState}
    {event : SchedulerEvent}
    {now : Int}
    {jobId : String}
    {reason : Option String}
    (isCall : .cancel now jobId reason ∈ self.segmentCalls state event)
    (tasks : ∀ task ∈ state.tasks, record.ExplainsTask self task) :
    (add state event record).Cancels jobId := by
  have grows := extends_add state event record
  unfold CfpSchedulerDO.segmentCalls at isCall
  split at isCall
  · cases List.mem_singleton.mp isCall
    exact .inl (List.mem_cons_self ..)
  · split at isCall
    · cases isCall
    next task found =>
      unfold CfpSchedulerDO.taskCalls at isCall
      split at isCall
      case h_4 tenantId _ job active count =>
        cases List.mem_singleton.mp isCall
        obtain ⟨ofTenant, known⟩ := tasks _ (List.mem_of_getElem? found)
        obtain ⟨knows, isTenant⟩ := known job (List.mem_cons_self ..)
        subst isTenant
        exact .inr ⟨job.request, knows.mono grows, rfl,
          grows.tenantCancels ofTenant⟩
      case h_1 | h_6 | h_7 =>
        split at isCall
        · cases isCall
        · cases List.mem_singleton.mp isCall
      case h_8 =>
        cases isCall
      all_goals cases List.mem_singleton.mp isCall
  · cases isCall

/-- A row that a step's own call has moved has a cause. -/
theorem ExplainsRow.move
    {state : SchedulerState}
    {event : SchedulerEvent}
    {call : JobStoreCall}
    {old : Option JobsRow}
    {row : JobsRow}
    (isCall : call ∈ self.segmentCalls state event)
    (moved : JobsRow.Move call old (some row))
    (before : ∀ row, old = some row → record.ExplainsRow self row)
    (tasks : ∀ task ∈ state.tasks, record.ExplainsTask self task) :
    (add state event record).ExplainsRow self row := by
  have grows := extends_add state event record
  have task {index : Nat} {task : SchedulerTask}
      (found : state.tasks[index]? = some task) :
      (add state event record).ExplainsTask self task :=
    (tasks task (List.mem_of_getElem? found)).mono grows
  cases moved with
  | stay =>
      exact (before row rfl).mono grows
  | insert =>
      cases CfpSchedulerDO.callFrom isCall with
      | enqueue found =>
          have knows : _ ∈ (add state _ record).requests := task found
          exact ⟨knows, .of_unsettled ⟨_, knows, rfl⟩ rfl⟩
  | lease =>
      exact absurd rfl (CfpSchedulerDO.segmentCalls_ne_claim isCall _ _)
  | @ack now leaseOwner old result expires =>
      have knows := ((before old rfl).mono grows).1
      have settled :
          (add state event record).Settled self old.id (.ok result) := by
        generalize old.id = jobId at isCall ⊢
        cases CfpSchedulerDO.callFrom isCall with
        | ack found => exact (task found).2
      have isStored (exoticJson : JsExotic → JsonValues.Json) :
          (old.acked result expires).result =
            some (result.decoded exoticJson) := by
        rw [settled.decoded]
        rfl
      exact ⟨knows, knows.submitted, fun _ => ⟨result, isStored, settled⟩,
        (nomatch ·), (nomatch ·)⟩
  | @fail now leaseOwner old error =>
      have knows := ((before old rfl).mono grows).1
      have fails : (add state event record).Fails self old.id error := by
        generalize old.id = jobId at isCall ⊢
        cases CfpSchedulerDO.callFrom isCall with
        | fail found => exact .thrown (task found).2
      have status :
          (old.failedOnce error).status = .failed ∨
            (old.failedOnce error).status = .queued := by
        unfold JobsRow.failedOnce
        dsimp only
        split
        · exact .inl rfl
        · exact .inr rfl
      refine ⟨knows, knows.submitted, fun isDone => ?_,
        fun _ => ⟨error, rfl, fails⟩, fun isCancelled => ?_⟩
      · rcases status with status | status <;> rw [status] at isDone <;>
          cases isDone
      · rcases status with status | status <;> rw [status] at isCancelled <;>
          cases isCancelled
  | failQueued =>
      cases CfpSchedulerDO.callFrom isCall
  | @cancel now old reason =>
      have knows := ((before old rfl).mono grows).1
      exact ⟨knows, knows.submitted, (nomatch ·), (nomatch ·),
        fun _ => cancels_of_call isCall tasks⟩
  | @reclaim now old =>
      have knows := ((before old rfl).mono grows).1
      exact ⟨knows, .of_unsettled knows.submitted rfl⟩

/-- What `result` answers about explained rows has a cause. -/
theorem explainsAnswer_result
    {store : JobStore}
    {now : Int}
    {jobId : String}
    (rows :
      ∀ row, store.row? jobId = some row → record.ExplainsRow self row) :
    record.ExplainsAnswer self jobId (store.result now jobId) := by
  unfold JobStore.result
  split
  next =>
    exact .absent
  next row found =>
    have explains := (rows row found).2
    rw [JobStore.id_of_row? found] at explains
    split
    next isDone =>
      obtain ⟨result, isResult, settled⟩ := explains.done isDone
      split
      · exact .expired settled
      · exact .known ⟨explains.submitted, fun _ => ⟨result, isResult, settled⟩,
          (nomatch ·), (nomatch ·)⟩
    next isFailed =>
      exact .known ⟨explains.submitted, (nomatch ·),
        fun _ => explains.failed isFailed, (nomatch ·)⟩
    next notDone notFailed =>
      exact .known ⟨explains.submitted, (absurd · notDone),
        (absurd · notFailed), explains.cancelled⟩

/-! ## The memory -/

section Memory

variable {state : SchedulerState} {index : Nat} {readings : Readings}
variable {old new : SchedulerTask} {started : List SchedulerTask}
variable {dispatcher : Dispatcher}

/-- The jobs that a rebuild reads back are known. -/
theorem knows_of_peek
    (rows :
      ∀ jobId row,
        state.store.row? jobId = some row → record.ExplainsRow self row)
    {job : PersistedJob}
    (read : job ∈ state.store.peek none 10000) :
    record.Knows job := by
  obtain ⟨row, member, -, rfl⟩ := JobStore.queued_of_peek read
  exact (rows row.id row (JobStore.row?_of_mem member)).1

/-- The active jobs of a tenant are known and are the tenant's. -/
theorem knows_of_listActive
    (rows :
      ∀ jobId row,
        state.store.row? jobId = some row → record.ExplainsRow self row)
    {tenantId : String}
    {job : PersistedJob}
    (listed : job ∈ state.store.listActiveByTenant tenantId) :
    record.Knows job ∧ job.tenantId = tenantId := by
  obtain ⟨row, member, rfl⟩ := List.mem_map.mp listed
  have scanned := (List.mem_insertionSort _).mp member
  obtain ⟨stored, selected⟩ :=
    List.mem_filter.mp ((state.store.scan.mem_arrange ..).mp scanned)
  exact ⟨(rows row.id row (JobStore.row?_of_mem stored)).1,
    of_decide_eq_true (Bool.and_eq_true_iff.mp selected).1⟩

/-- What a task goes on to hold has a cause. -/
theorem ExplainsTask.goesOn
    (found : state.tasks[index]? = some old)
    (goes : old.GoesOn self state readings new started dispatcher)
    (rows :
      ∀ jobId row,
        state.store.row? jobId = some row → record.ExplainsRow self row)
    (explains : record.ExplainsTask self old) :
    (add state (.resume index readings) record).ExplainsTask self new ∧
      ∀ task ∈ started,
        (add state (.resume index readings) record).ExplainsTask self task := by
  have grows := extends_add state (.resume index readings) record
  have none (task : SchedulerTask) (member : task ∈ []) :
      (add state (.resume index readings) record).ExplainsTask self task := by
    cases member
  have after := explains.mono grows
  cases goes with
  | rebuild =>
      exact ⟨after.2, none⟩
  | accepted =>
      exact ⟨after, none⟩
  | tenantCancels =>
      exact ⟨⟨after.1, fun job member =>
        after.2 job (List.mem_cons_of_mem _ member)⟩, none⟩
  | someReclaimed =>
      exact ⟨⟨fun _ read => (knows_of_peek rows read).mono grows, trivial⟩,
        none⟩
  | backstop =>
      exact ⟨⟨fun _ read => (knows_of_peek rows read).mono grows, trivial⟩,
        none⟩
  | ackRejected rejects =>
      refine ⟨⟨after.1, .rejection after.2 ?_⟩, none⟩
      simp [add, found, rejects]
  | requeued =>
      exact ⟨after.1, none⟩
  | retryNow =>
      refine ⟨trivial, fun task member => ?_⟩
      rw [List.mem_singleton.mp member]
      trivial
  | retryLater =>
      refine ⟨trivial, fun task member => ?_⟩
      rcases List.mem_pair.mp member with rfl | rfl
      · trivial
      · exact after
  | _ =>
      exact ⟨trivial, none⟩

/-- The jobs that are ready after a task has gone on are known. -/
theorem ExplainsTask.ready
    (goes : old.GoesOn self state readings new started dispatcher)
    (explains : record.ExplainsTask self old)
    (ready : ∀ job ∈ state.dispatcher.readyJobs, record.Knows job) :
    ∀ job ∈ dispatcher.readyJobs, record.Knows job := by
  have enqueued
      {stored : PersistedJob}
      (knows : record.Knows stored) :
      ∀ job ∈ (state.dispatcher.enqueueReady stored).readyJobs,
        record.Knows job := by
    intro job isReady
    rcases Dispatcher.mem_readyJobs_enqueueReady.mp isReady with before | rfl
    · exact ready job before
    · exact knows
  cases goes with
  | rebuild =>
      intro job isReady
      rcases Dispatcher.mem_readyJobs_foldl.mp isReady with before | read
      · exact ready job before
      · exact explains.1 job read
  | enqueueStored =>
      exact enqueued explains
  | cancelled =>
      intro job isReady
      exact ready job (Dispatcher.readyJobs_of_dropFromReady isReady)
  | tenantCleared =>
      intro job isReady
      obtain ⟨other, bucket, -, found, inBucket⟩ :=
        Dispatcher.mem_readyJobs_removeTenant.mp isReady
      exact ready job
        (Dispatcher.mem_readyJobs.mpr ⟨other, bucket, found, inBucket⟩)
  | someReclaimed =>
      intro job isReady
      cases isReady
  | backstop =>
      intro job isReady
      cases isReady
  | retryNow =>
      exact enqueued explains
  | retryTimer =>
      exact enqueued explains
  | _ =>
      exact ready

end Memory

/-! ## Steps -/

/-- A run that settles is recorded with the job it has run. -/
theorem explainsTask_settle
    {state : SchedulerState}
    {index : Nat}
    {job : PersistedJob}
    {call : RunnerCall}
    {outcome : Except Thrown JsValue}
    (found : state.tasks[index]? = some (.running job call))
    (isJson : (SchedulerEvent.settle index outcome).IsJson)
    (requests : ∀ req ∈ record.requests, req.IsReadBack)
    (explains : record.ExplainsTask self (.running job call)) :
    (add state (.settle index outcome) record).ExplainsTask self
      (.settled job outcome) := by
  have grows := extends_add state (.settle index outcome) record
  have knows := explains.1.mono grows
  have settled :
      (add state (.settle index outcome) record).Settled self job.id
        outcome := by
    refine ⟨{ request := job.request, call := call, outcome := outcome }, ?_,
      knows, rfl, explains.2, rfl, requests _ explains.1, ?_⟩
    · simp [add, found]
    · intro value isOutcome
      dsimp only at isOutcome
      rw [isOutcome] at isJson
      exact JsValue.decoded_eq isJson
  cases outcome with
  | ok value => exact ⟨knows, settled⟩
  | error err => exact ⟨knows, .execution settled⟩

section Step

variable {state : SchedulerState} {event : SchedulerEvent}
variable {segment : Segment}

/-- Before the loop is kicked, every row has a cause. -/
theorem ExplainsState.rows_segment
    (isSegment : self.segment state event = some segment)
    (explains : record.ExplainsState self state)
    (jobId : String)
    (row : JobsRow)
    (after : segment.state.store.row? jobId = some row) :
    (add state event record).ExplainsRow self row := by
  rw [store_segment isSegment] at after
  rcases CfpSchedulerDO.row?_segmentCalls after with
    same | ⟨call, isCall, moved⟩
  · exact (explains.rows jobId row same).mono (extends_add ..)
  · exact .move isCall moved (explains.rows jobId) explains.tasks

/-- Every answer of a step has a cause. -/
theorem ExplainsState.answers_add
    (explains : record.ExplainsState self state)
    (event : SchedulerEvent) :
    ∀ answer ∈ (add state event record).answers,
      (add state event record).ExplainsAnswer self answer.1 answer.2 := by
  intro answer member
  have grows := extends_add state event record
  have answered :
      answer ∈ record.answers ∨
        ∃ now, answer.2 = state.store.result now answer.1 := by
    unfold add at member
    dsimp only at member
    split at member
    case h_6 =>
      rcases List.mem_cons.mp member with rfl | before
      · exact .inr ⟨_, rfl⟩
      · exact .inl before
    case h_4 | h_5 =>
      split at member <;> exact .inl member
    all_goals exact .inl member
  rcases answered with before | ⟨now, isResult⟩
  · exact (explains.answers answer before).mono grows
  · rw [isResult]
    exact (explainsAnswer_result (explains.rows answer.1)).mono grows

/-- A request that a step brings along is read back like those before it. -/
theorem ExplainsState.requests_add
    (isJson : event.IsJson)
    (explains : record.ExplainsState self state) :
    ∀ req ∈ (add state event record).requests, req.IsReadBack := by
  intro req member
  unfold add at member
  dsimp only at member
  split at member
  case h_1 =>
    rcases List.mem_cons.mp member with rfl | before
    · exact SchedulerEnqueueRequest.IsJson.isReadBack isJson
    · exact explains.requests req before
  case h_4 | h_5 =>
    split at member <;> exact explains.requests req member
  all_goals exact explains.requests req member

/-- A step takes no cause away from what is in memory. -/
theorem ExplainsState.memory_add
    (explains : record.ExplainsState self state)
    (event : SchedulerEvent) :
    (add state event record).ExplainsMemory self state.tasks
      state.dispatcher := by
  have grows := extends_add state event record
  exact
    { tasks := fun task member => (explains.tasks task member).mono grows
      ready := fun job ready => (explains.ready job ready).mono grows
      claimed := fun target claimed =>
        (explains.claimed target claimed).mono grows }

/-- A task with a cause joins the others. -/
theorem ExplainsMemory.concat
    {tasks : List SchedulerTask}
    {new : SchedulerTask}
    {dispatcher next : Dispatcher}
    (explains : record.ExplainsMemory self tasks dispatcher)
    (isNew : record.ExplainsTask self new)
    (ready : ∀ job ∈ next.readyJobs, record.Knows job)
    (sameLoop : next.loop = dispatcher.loop) :
    record.ExplainsMemory self (tasks ++ [new]) next := by
  refine ⟨fun task member => ?_, ready, sameLoop ▸ explains.claimed⟩
  rcases List.mem_append.mp member with before | same
  · exact explains.tasks task before
  · rw [List.mem_singleton.mp same]
    exact isNew

/-- A call that begins has a cause, whether it rebuilds the ready set or not. -/
theorem ExplainsState.begins
    {caller : RebuildCaller}
    {task : SchedulerTask}
    {next : Dispatcher}
    (isCaller : (add state event record).ExplainsCaller caller)
    (begun : state.Begins caller task next)
    (explains : record.ExplainsState self state) :
    (add state event record).ExplainsMemory self (state.tasks ++ [task])
      next := by
  have memory := explains.memory_add event
  cases begun with
  | rebuilds =>
      refine memory.concat ⟨fun _ read => ?_, isCaller⟩ ?_ rfl
      · exact (knows_of_peek explains.rows read).mono (extends_add ..)
      · exact fun _ ready => by cases ready
  | isReady =>
      exact memory.concat isCaller memory.ready rfl

/-- Before the loop is kicked, everything in memory has a cause. -/
theorem ExplainsState.moves
    {tasks : List SchedulerTask}
    {dispatcher : Dispatcher}
    (isJson : event.IsJson)
    (moves : self.Moves state event tasks dispatcher)
    (explains : record.ExplainsState self state) :
    (add state event record).ExplainsMemory self tasks dispatcher := by
  have grows := extends_add state event record
  have memory := explains.memory_add event
  cases moves with
  | @enqueue req _ _ begun =>
      have isCaller :
          (add state (.enqueue req) record).ExplainsCaller (.enqueue req) :=
        List.mem_cons_self ..
      exact explains.begins isCaller begun
  | cancel =>
      exact memory.concat trivial memory.ready rfl
  | @cancelByTenant tenantId =>
      refine memory.concat ⟨List.mem_cons_self .., fun job listed => ?_⟩
        memory.ready rfl
      obtain ⟨knows, ofTenant⟩ := knows_of_listActive explains.rows listed
      exact ⟨knows.mono grows, ofTenant⟩
  | @configure c =>
      obtain ⟨config, configured⟩ := dispatcher_configure state c
      rw [configured]
      exact ⟨memory.tasks, memory.ready, memory.claimed⟩
  | status =>
      exact memory
  | result =>
      exact memory
  | @deliverAlarm now _ _ begun =>
      have isCaller :
          (add state (.deliverAlarm now) record).ExplainsCaller .alarmStart :=
        trivial
      exact explains.begins isCaller begun
  | resume found goes =>
      have old := explains.tasks _ (List.mem_of_getElem? found)
      obtain ⟨isNew, isStarted⟩ := old.goesOn found goes explains.rows
      refine ⟨fun task member => ?_, fun job ready => ?_, ?_⟩
      · rcases List.mem_append.mp member with inPlace | starts
        · rcases List.mem_or_eq_of_mem_set inPlace with before | rfl
          · exact memory.tasks task before
          · exact isNew
        · exact isStarted task starts
      · exact (old.ready goes explains.ready job ready).mono grows
      · rw [goes.loop]
        exact memory.claimed
  | loopGoesOn =>
      exact ⟨memory.tasks, memory.ready, fun _ wrong => by cases wrong⟩
  | @runs _ target claimed =>
      refine ⟨fun task member => ?_, memory.ready,
        fun _ wrong => by cases wrong⟩
      rcases List.mem_append.mp member with before | same
      · exact memory.tasks task before
      · rw [List.mem_singleton.mp same]
        exact ⟨memory.claimed target claimed, rfl⟩
  | settle found =>
      refine ⟨fun task member => ?_, memory.ready, memory.claimed⟩
      rcases List.mem_or_eq_of_mem_set member with before | rfl
      · exact memory.tasks task before
      · exact explainsTask_settle found isJson explains.requests
          (explains.tasks _ (List.mem_of_getElem? found))
  | evict noneReady _ _ idle =>
      refine ⟨fun _ member => absurd member List.not_mem_nil,
        fun job ready => ?_, fun target isTarget => ?_⟩
      · rw [Dispatcher.readyJobs, noneReady] at ready
        cases ready
      · rw [idle] at isTarget
        cases isTarget

end Step

/-- A row after a step has a cause. -/
theorem ExplainsState.rows_finish
    {segment : Segment}
    {readings : LoopReadings}
    (checked : readings.check ∈ record.checks)
    (explains : record.ExplainsState self segment.state) :
    ∀ jobId row,
      (segment.finish self readings).store.row? jobId = some row →
      record.ExplainsRow self row := by
  have loopEnd := segment.loopEnd self readings
  generalize (segment.finish self readings).dispatcher.loop = loop at loopEnd
  generalize (segment.finish self readings).store = store at loopEnd ⊢
  intro jobId row after
  cases loopEnd with
  | @failedExpired job dispatcher picked accepts passed =>
      have knows := explains.ready job (ready_of_pick picked)
      have rows := explains.rows jobId
      have moved :
          JobsRow.Move
            (.failQueued readings.check job.id (deadlineError job))
            (segment.state.store.row? jobId) (some row) := by
        rw [← after]
        exact segment.state.store.row?_invoke (.failQueued ..) jobId
      generalize segment.state.store.row? jobId = old at moved rows
      generalize isJob : job.id = failedId at moved
      cases moved with
      | stay => exact rows row rfl
      | @failQueued now old =>
          have known := (rows old rfl).1
          refine ⟨known, known.submitted, (nomatch ·), fun _ => ?_,
            (nomatch ·)⟩
          have fails :
              record.Fails self old.id (deadlineError (job.request.toJob 0)) :=
            .deadline knows isJob checked passed
          rw [deadlineError_request] at fails
          exact ⟨_, rfl, fails⟩
  | @claimed job dispatcher claimed leased store picked _ _ _ found _
      isLeased rows =>
      rw [rows] at after
      split at after
      next =>
        cases after
        have known := (explains.rows claimed.id claimed found).1
        rw [isLeased]
        exact ⟨known, .of_unsettled known.submitted rfl⟩
      next =>
        exact explains.rows jobId row after
  | _ =>
      exact explains.rows jobId row after

/-- A step keeps a cause for everything. -/
theorem ExplainsState.step
    {state next : SchedulerState}
    {event : SchedulerEvent}
    (isJson : event.IsJson)
    (stepped : self.step state event = some next)
    (explains : record.ExplainsState self state) :
    (add state event record).ExplainsState self next := by
  obtain ⟨segment, isSegment, rfl⟩ := Option.map_eq_some_iff.mp stepped
  have memory := explains.moves isJson (CfpSchedulerDO.moves isSegment)
  have before :
      (add state event record).ExplainsState self segment.state :=
    { memory with
      requests := explains.requests_add isJson
      rows := explains.rows_segment isSegment
      answers := explains.answers_add event }
  have finishes := segment.finishes self event.loopReadings
  have checked :
      event.loopReadings.check ∈ (add state event record).checks :=
    check_mem_add state event record
  refine {
    tasks := by
      rw [finishes.tasks]
      exact memory.tasks
    ready := fun job ready => memory.ready job (finishes.wasReady job ready)
    claimed := ?_
    requests := before.requests
    rows := before.rows_finish checked
    answers := before.answers
  }
  have loopEnd := segment.loopEnd self event.loopReadings
  generalize (segment.finish self event.loopReadings).dispatcher.loop = loop
    at loopEnd
  generalize (segment.finish self event.loopReadings).store = store at loopEnd
  intro target isTarget
  cases loopEnd with
  | stays =>
      exact memory.claimed target isTarget
  | claimed _ _ _ _ found _ isLeased =>
      cases isTarget
      rw [isLeased]
      exact (before.rows _ _ found).1
  | _ =>
      cases isTarget

end SchedulerRecord

/--
In every run whose requests and values are JSON, each answer of `result` has a
cause: a value is what the store gives back of what an execution of a request
with this id has resolved to, run with that request's own code and arguments; a
failure is the error of an execution, of the store or of the deadline; a
cancellation was asked for.
-/
theorem scheduler_explains
    {self : CfpSchedulerDO}
    {events : List SchedulerEvent}
    {final : SchedulerState}
    {record : SchedulerRecord}
    (run :
      GuardedRun (recording self.step SchedulerRecord.add)
        (fun _ event => event.IsJson) ({}, {}) events (final, record)) :
    ∀ answer ∈ record.answers,
      record.ExplainsAnswer self answer.1 answer.2 := by
  have explains : record.ExplainsState self final := by
    refine @GuardedRun.invariant _ _ _ _
      (fun (current : SchedulerState × SchedulerRecord) =>
        current.2.ExplainsState self current.1)
      ?_ _ _ _ run ?_
    · intro current event next isJson recorded explains
      obtain ⟨_, stepped, rfl⟩ := Option.map_eq_some_iff.mp recorded
      exact explains.step isJson stepped
    · exact {
        tasks := fun _ member => by cases member
        ready := fun _ ready => by cases ready
        claimed := fun _ wrong => by cases wrong
        requests := fun _ member => by cases member
        rows := fun _ _ found => by cases found
        answers := fun _ member => by cases member
      }
  exact explains.answers

/-- The job runs, resolves to `true` and is asked for. -/
def slowResolves : List SchedulerEvent :=
  slowStarts ++
    [ .settle 1 (.ok (.bool true)), .resume 1 (.at 15), .result "slow" 16 ]

/-- Nothing but JSON comes into the store. -/
theorem isJson_of_mem_slowResolves
    {event : SchedulerEvent}
    (member : event ∈ slowResolves) :
    event.IsJson := by
  have noArguments : SchedulerEnqueueRequest.slow.IsJson := {
    args := fun _ member => by cases member
    context := fun _ none => by cases none
  }
  have isValue :
      (JsValue.bool true).IsJson ∨
        (JsValue.bool true).stringifiesToUndefined = true :=
    .inl (.bool true)
  revert event
  simpa [slowResolves, slowStarts, SchedulerEvent.IsJson, noArguments] using
    isValue

/-- The answer is the value that the job's execution has resolved to. -/
theorem scheduler_explains_slowResolves :
    ∃ (final : SchedulerState) (record : SchedulerRecord)
        (answer : JobStore.JobResult),
      GuardedRun (recording (CfpSchedulerDO.step .plain) SchedulerRecord.add)
          (fun _ event => event.IsJson) ({}, {}) slowResolves
          (final, record) ∧
        ("slow", answer) ∈ record.answers ∧
          answer.status = .done ∧
            record.ExplainsAnswer .plain "slow" answer := by
  have executed :
      (slowResolves.foldlM
          (recording (CfpSchedulerDO.step .plain) SchedulerRecord.add)
          ({}, {})).any
        fun current =>
          current.2.answers.any fun answer =>
            answer.1 = "slow" && answer.2.status = .done := by
    decide +kernel
  obtain ⟨⟨final, record⟩, isFinal, answered⟩ :=
    (Option.any_eq_true _ _).mp executed
  obtain ⟨⟨jobId, answer⟩, member, isDone⟩ := List.any_eq_true.mp answered
  simp only [Bool.and_eq_true, decide_eq_true_eq] at isDone
  obtain ⟨rfl, isDone⟩ := isDone
  have run :=
    GuardedRun.of_labels (fun _ => isJson_of_mem_slowResolves)
      (GuardedRun.of_foldlM isFinal)
  exact ⟨final, record, answer, run, member, isDone,
    scheduler_explains run ("slow", answer) member⟩

end CloudflareParallel
