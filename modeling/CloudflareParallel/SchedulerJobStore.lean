import CloudflareParallel.CoordinatorProtocol
import CloudflareParallel.Library.KeyedTable
import Mathlib.Data.List.Sort

namespace CloudflareParallel

open KeyedTables

/-!
# The job store: `PersistedJob` and `DoStorageJobStore`

The table of jobs in the object's own SQLite storage.  Every operation is one
statement with a guard in its WHERE clause, so it is an update of the rows that
meet the guard.  Stored values are the JSON-friendly ones which the code asks
for; on these reading a column gives back what was written.  Operations take
the clock reading that they would make.
-/

/-- `JobStatus`. -/
inductive JobStatus where
  | queued
  | leased
  | running
  | done
  | failed
  | cancelled
  deriving Repr, DecidableEq

/-- A job that still has to be run or is being run. -/
def JobStatus.isActive : JobStatus → Bool
  | .queued => true
  | .leased => true
  | _ => false

/-- A state that no operation leaves. -/
def JobStatus.isTerminal : JobStatus → Bool
  | .done => true
  | .failed => true
  | .cancelled => true
  | _ => false

/-- The value of a status in the table, which the claim query sorts by. -/
def JobStatus.text : JobStatus → String
  | .queued => "queued"
  | .leased => "leased"
  | .running => "running"
  | .done => "done"
  | .failed => "failed"
  | .cancelled => "cancelled"

/-- `RetryBackoff`. -/
inductive RetryBackoff where
  | exponential
  | linear
  | constant
  deriving Repr, DecidableEq

/-- `RetryPolicy`. -/
structure RetryPolicy where
  max : Int
  backoff : RetryBackoff
  baseMs : Int
  deriving Repr, DecidableEq

/-- `PersistedJob`. -/
structure PersistedJob where
  id : String
  tenantId : String
  fnHash : String
  fnSource : String
  args : List JsValue
  context : Option JsRecord := none
  workerOptions : Option WireWorkerOptions := none
  allowList : Option (List String) := none
  jobMeta : Option (List (String × String)) := none
  createdAt : Int
  deadlineEpochMs : Int
  retry : RetryPolicy
  retryCount : Int
  status : JobStatus
  cacheKeyStrategy : Option CacheKeyStrategy := none
  leaseOwner : Option String := none
  leaseExpiresMs : Option Int := none
  result : Option JsValue := none
  resultExpiresMs : Option Int := none
  error : Option ErrorRecord := none
  idempotencyKey : Option String := none

/-- A row of the `jobs` table. -/
structure JobsRow where
  id : String
  tenantId : String
  fnHash : String
  fnSource : String
  args : List JsValue
  context : Option JsRecord
  workerOptions : Option WireWorkerOptions
  allowList : Option (List String)
  jobMeta : Option (List (String × String))
  createdAt : Int
  deadlineMs : Int
  retryMax : Int
  retryCount : Int
  retryBaseMs : Int
  retryBackoff : RetryBackoff
  status : JobStatus
  leaseOwner : Option String := none
  leaseExpiresMs : Option Int := none
  result : Option JsValue := none
  resultExpiresMs : Option Int := none
  error : Option ErrorRecord := none
  idempotencyKey : Option String
  cacheKeyStrategy : Option CacheKeyStrategy

/-- The kinds of `JobEvent`. -/
inductive JobEventKind where
  | enqueued
  | leased
  | done
  | failed
  | cancelled
  | retrying
  | expired
  deriving Repr, DecidableEq

/-- `JobEvent`. -/
structure JobEvent where
  ts : Int
  jobId : String
  kind : JobEventKind
  detail : Option String := none
  deriving Repr, DecidableEq

/-- `ClaimRequest`. -/
structure ClaimRequest where
  workerId : String
  max : Nat
  leaseMs : Int
  jobId : Option String := none

/-- The SELECTs that read several jobs. -/
inductive JobScan where
  | claim
  | peek
  | peekTenant
  | listActiveByTenant
  deriving Repr, DecidableEq

/--
The order in which a SELECT comes to the rows that it selects.  ORDER BY leaves
rows that it does not tell apart in this order, which depends on the indexes
that the database uses.
-/
structure ScanOrder (Row : Type) where
  arrange : JobScan → List Row → List Row
  perm : ∀ scan rows, (arrange scan rows).Perm rows

namespace ScanOrder

/-- The rows as they stand in the table. -/
def asStored : ScanOrder Row where
  arrange _ rows := rows
  perm _ rows := .refl rows

@[simp] theorem mem_arrange
    (order : ScanOrder Row)
    (scan : JobScan)
    (rows : List Row)
    (row : Row) :
    row ∈ order.arrange scan rows ↔ row ∈ rows :=
  (order.perm scan rows).mem_iff

@[simp] theorem length_arrange
    (order : ScanOrder Row)
    (scan : JobScan)
    (rows : List Row) :
    (order.arrange scan rows).length = rows.length :=
  (order.perm scan rows).length_eq

end ScanOrder

/--
The two tables of the store; job ids are a primary key.  The order of a scan
is the database's.
-/
structure JobStore where
  jobs : KeyedTable JobsRow.id := .empty
  events : List JobEvent := []
  scan : ScanOrder JobsRow := .asStored

/-- What `enc` stores for a value: one without a JSON text becomes `null`. -/
def encodedResult (value : JsValue) : JsValue :=
  if value.stringifiesToUndefined then .null else value

/-- `rowToJob`. -/
def rowToJob (row : JobsRow) : PersistedJob where
  id := row.id
  tenantId := row.tenantId
  fnHash := row.fnHash
  fnSource := row.fnSource
  args := row.args
  context := row.context
  workerOptions := row.workerOptions
  allowList := row.allowList
  jobMeta := row.jobMeta
  createdAt := row.createdAt
  deadlineEpochMs := row.deadlineMs
  retry := {
    max := row.retryMax
    backoff := row.retryBackoff
    baseMs := row.retryBaseMs
  }
  retryCount := row.retryCount
  status := row.status
  cacheKeyStrategy := row.cacheKeyStrategy
  leaseOwner := row.leaseOwner
  leaseExpiresMs := row.leaseExpiresMs
  result := row.result
  resultExpiresMs := row.resultExpiresMs
  error := row.error
  idempotencyKey := row.idempotencyKey

/-- The row that `enqueue` inserts. -/
def insertedRow (job : PersistedJob) : JobsRow where
  id := job.id
  tenantId := job.tenantId
  fnHash := job.fnHash
  fnSource := job.fnSource
  args := job.args
  context := job.context
  workerOptions := job.workerOptions
  allowList := job.allowList
  jobMeta := job.jobMeta
  createdAt := job.createdAt
  deadlineMs := job.deadlineEpochMs
  retryMax := job.retry.max
  retryCount := job.retryCount
  retryBaseMs := job.retry.baseMs
  retryBackoff := job.retry.backoff
  status := .queued
  idempotencyKey := job.idempotencyKey
  cacheKeyStrategy := job.cacheKeyStrategy

namespace JobsRow

/-- `lease_expires_ms < ?`, which a NULL does not meet. -/
def leaseRanOut
    (row : JobsRow)
    (now : Int) : Bool :=
  match row.leaseExpiresMs with
  | none => false
  | some expires => expires < now

/-- The row is leased by an owner. -/
def isLeasedBy
    (row : JobsRow)
    (leaseOwner : String) : Bool :=
  row.status = .leased && row.leaseOwner = some leaseOwner

/-- `status = 'queued' OR (status = 'leased' AND lease_expires_ms < ?)`. -/
def isFree
    (row : JobsRow)
    (now : Int) : Bool :=
  row.status = .queued || (row.status = .leased && row.leaseRanOut now)

/-- The WHERE clause of the claim query, without the job id. -/
def isClaimable
    (row : JobsRow)
    (now : Int) : Bool :=
  row.isFree now && now < row.deadlineMs

/-- The row as a claim leaves it. -/
def lease
    (row : JobsRow)
    (workerId : String)
    (expires : Int) : JobsRow :=
  { row with
    status := .leased
    leaseOwner := some workerId
    leaseExpiresMs := some expires }

/-- The row as `ack` leaves it. -/
def acked
    (row : JobsRow)
    (result : JsValue)
    (resultExpiresMs : Int) : JobsRow :=
  { row with
    status := .done
    result := some (encodedResult result)
    resultExpiresMs := some resultExpiresMs }

/-- The row as `fail` leaves it. -/
def failedOnce
    (row : JobsRow)
    (error : ErrorRecord) : JobsRow :=
  { row with
    status :=
      if row.retryMax ≤ row.retryCount + 1 then .failed else .queued
    retryCount := row.retryCount + 1
    leaseOwner := none
    leaseExpiresMs := none
    error := some error }

/-- The row as `failQueued` leaves it. -/
def failedForGood
    (row : JobsRow)
    (error : ErrorRecord) : JobsRow :=
  { row with
    status := .failed
    error := some error
    retryCount := row.retryMax }

/-- The row as `cancel` leaves it. -/
def cancelled (row : JobsRow) : JobsRow :=
  { row with status := .cancelled }

/-- The row as `reclaimExpiredLeases` leaves it. -/
def released (row : JobsRow) : JobsRow :=
  { row with
    status := .queued
    leaseOwner := none
    leaseExpiresMs := none }

@[simp]
theorem id_lease
    (row : JobsRow)
    (workerId : String)
    (expires : Int) :
    (row.lease workerId expires).id = row.id :=
  rfl

@[simp]
theorem id_acked
    (row : JobsRow)
    (result : JsValue)
    (resultExpiresMs : Int) :
    (row.acked result resultExpiresMs).id = row.id :=
  rfl

@[simp]
theorem id_failedOnce
    (row : JobsRow)
    (error : ErrorRecord) :
    (row.failedOnce error).id = row.id :=
  rfl

@[simp]
theorem id_failedForGood
    (row : JobsRow)
    (error : ErrorRecord) :
    (row.failedForGood error).id = row.id :=
  rfl

@[simp]
theorem id_cancelled (row : JobsRow) : row.cancelled.id = row.id :=
  rfl

@[simp]
theorem id_released (row : JobsRow) : row.released.id = row.id :=
  rfl

end JobsRow

@[simp]
theorem id_insertedRow (job : PersistedJob) : (insertedRow job).id = job.id :=
  rfl

/-- INSERT OR REPLACE by time, job and kind. -/
def insertOrReplace
    (events : List JobEvent)
    (event : JobEvent) : List JobEvent :=
  (events.filter fun other =>
    ¬ (other.ts = event.ts ∧ other.jobId = event.jobId ∧
      other.kind = event.kind)) ++ [event]

namespace JobStore

/-- The row of a job. -/
def row?
    (store : JobStore)
    (jobId : String) : Option JobsRow :=
  store.jobs.get? jobId

/-- `#emit`. -/
def emit
    (store : JobStore)
    (event : JobEvent) : JobStore :=
  { store with events := insertOrReplace store.events event }

/-- An UPDATE with a guard that touches no job id. -/
def update
    (store : JobStore)
    (condition : JobsRow → Bool)
    (change : JobsRow → JobsRow)
    (keepsId : ∀ row, (change row).id = row.id) : JobStore :=
  { store with jobs := store.jobs.updateWhere condition change keepsId }

/--
`UPDATE jobs SET … WHERE id = ? AND guard RETURNING …`, followed by an event
when a row was changed; gives the changed row.
-/
def compareAndSet
    (store : JobStore)
    (jobId : String)
    (guard : JobsRow → Bool)
    (change : JobsRow → JobsRow)
    (keepsId : ∀ row, (change row).id = row.id)
    (event : JobsRow → JobEvent) : JobStore × Option JobsRow :=
  match (store.row? jobId).filter guard with
  | none => (store, none)
  | some row =>
      ((store.update (fun other => other.id = jobId && guard other) change
          keepsId).emit (event (change row)),
        some (change row))

/-- The uniqueness error of an INSERT into a column. -/
def uniqueError (column : String) : Thrown :=
  .error "Error" s!"UNIQUE constraint failed: jobs.{column}: SQLITE_CONSTRAINT"
    none none

/-- An idempotency key that some row has already. -/
def keyIsTaken
    (store : JobStore)
    (idempotencyKey : Option String) : Bool :=
  match idempotencyKey with
  | none => false
  | some key =>
      store.jobs.rows.any fun row => row.idempotencyKey = some key

/-- An uniqueness error is swallowed when the job has an idempotency key. -/
def swallowsUnique (job : PersistedJob) : Bool :=
  match job.idempotencyKey with
  | none => false
  | some key => key ≠ ""

/-- `enqueue`. -/
def enqueue
    (store : JobStore)
    (now : Int)
    (job : PersistedJob) : Except Thrown JobStore :=
  if taken : job.id ∈ store.jobs.rows.map JobsRow.id then
    if swallowsUnique job then .ok store else .error (uniqueError "id")
  else if store.keyIsTaken job.idempotencyKey then
    if swallowsUnique job then
      .ok store
    else
      .error (uniqueError "idempotency_key")
  else
    .ok
      ({ store with
          jobs :=
            store.jobs.insert (insertedRow job)
              (by rwa [id_insertedRow]) }.emit
        { ts := now, jobId := job.id, kind := .enqueued })

/-- `ORDER BY status DESC, created_at ASC`. -/
def claimsBefore (row other : JobsRow) : Prop :=
  other.status.text < row.status.text ∨
    (row.status = other.status ∧ row.createdAt ≤ other.createdAt)

instance : DecidableRel claimsBefore :=
  fun _ _ => inferInstanceAs (Decidable (_ ∨ _))

/-- The SELECT of `claim`; an empty job id counts as no id. -/
def claimCandidates
    (store : JobStore)
    (now : Int)
    (req : ClaimRequest) : List JobsRow :=
  match req.jobId.filter (· ≠ "") with
  | some jobId =>
      (store.jobs.rows.filter fun row =>
        row.id = jobId && row.isClaimable now).take 1
  | none =>
      ((store.scan.arrange .claim
          (store.jobs.rows.filter fun row =>
            row.isClaimable now)).insertionSort claimsBefore).take req.max

/-- The UPDATE of `claim` for one candidate row. -/
def claimRow
    (now : Int)
    (req : ClaimRequest)
    (progress : JobStore × List PersistedJob)
    (row : JobsRow) : JobStore × List PersistedJob :=
  let expires := now + req.leaseMs
  let updated :=
    progress.1.compareAndSet row.id (·.isFree now)
      (·.lease req.workerId expires) (fun other => other.id_lease _ _)
      fun _ => { ts := now, jobId := row.id, kind := .leased }
  match updated.2 with
  | none => progress
  | some _ =>
      (updated.1, progress.2 ++ [rowToJob (row.lease req.workerId expires)])

/-- `claim`. -/
def claim
    (store : JobStore)
    (now : Int)
    (req : ClaimRequest) : JobStore × List PersistedJob :=
  (store.claimCandidates now req).foldl (claimRow now req) (store, [])

/-- `ack`. -/
def ack
    (store : JobStore)
    (now : Int)
    (jobId leaseOwner : String)
    (result : JsValue)
    (resultExpiresMs : Int) : JobStore × Bool :=
  let updated :=
    store.compareAndSet jobId (·.isLeasedBy leaseOwner)
      (·.acked result resultExpiresMs) (fun row => row.id_acked _ _)
      fun _ => { ts := now, jobId := jobId, kind := .done }
  (updated.1, updated.2.isSome)

/-- `fail`; the status of a lost lease is reported as `leased`. -/
def fail
    (store : JobStore)
    (now : Int)
    (jobId leaseOwner : String)
    (error : ErrorRecord) : JobStore × JobStatus :=
  let updated :=
    store.compareAndSet jobId (·.isLeasedBy leaseOwner)
      (·.failedOnce error) (fun row => row.id_failedOnce _)
      fun row =>
        { ts := now
          jobId := jobId
          kind := if row.status = .failed then .failed else .retrying }
  match updated.2 with
  | none => (store, .leased)
  | some row => (updated.1, row.status)

/-- `failQueued`. -/
def failQueued
    (store : JobStore)
    (now : Int)
    (jobId : String)
    (error : ErrorRecord) : JobStore × Bool :=
  let updated :=
    store.compareAndSet jobId (·.status = .queued)
      (·.failedForGood error) (fun row => row.id_failedForGood _)
      fun _ => { ts := now, jobId := jobId, kind := .failed }
  (updated.1, updated.2.isSome)

/-- `cancel`. -/
def cancel
    (store : JobStore)
    (now : Int)
    (jobId : String)
    (reason : Option String) : JobStore × Bool :=
  let updated :=
    store.compareAndSet jobId (·.status.isActive)
      JobsRow.cancelled JobsRow.id_cancelled
      fun _ =>
        { ts := now, jobId := jobId, kind := .cancelled, detail := reason }
  (updated.1, updated.2.isSome)

/-- `status`. -/
def status
    (store : JobStore)
    (jobId : String) : Option JobStatus :=
  (store.row? jobId).map JobsRow.status

/-- What `result` answers. -/
structure JobResult where
  status : JobStatus
  value : Option JsValue := none
  error : Option ErrorRecord := none

/-- `result`; an expiry of zero is falsy and counts as none. -/
def result
    (store : JobStore)
    (now : Int)
    (jobId : String) : JobResult :=
  match store.row? jobId with
  | none =>
      { status := .failed
        error := some {
          name := "NotFoundError"
          message := s!"Job {jobId} not found (or result expired)"
        } }
  | some row =>
      match row.status with
      | .done =>
          if row.resultExpiresMs.any fun expires =>
              expires ≠ 0 && expires < now then
            { status := .failed
              error := some {
                name := "ResultExpiredError"
                message := s!"Job {jobId} result expired"
              } }
          else
            { status := .done, value := row.result }
      | .failed => { status := .failed, error := row.error }
      | status => { status := status }

/-- `ORDER BY created_at ASC`. -/
def byCreation (rows : List JobsRow) : List JobsRow :=
  rows.insertionSort fun row other => row.createdAt ≤ other.createdAt

/-- The statement of `peek`, with and without a tenant. -/
def peekScan (tenant : Option String) : JobScan :=
  if tenant.isSome then .peekTenant else .peek

/-- `peek`; an empty tenant id counts as none. -/
def peek
    (store : JobStore)
    (tenantId : Option String)
    (limit : Nat) : List PersistedJob :=
  let tenant := tenantId.filter (· ≠ "")
  ((byCreation
      (store.scan.arrange (peekScan tenant)
        (store.jobs.rows.filter fun row =>
          row.status = .queued && tenant.all (row.tenantId = ·)))).take
    limit).map rowToJob

/-- `sweepExpired`. -/
def sweepExpired
    (store : JobStore)
    (now : Int) : JobStore :=
  { store with
    jobs := store.jobs.deleteWhere fun row =>
      row.status = .done && row.resultExpiresMs.any (· < now) }

/-- A leased row whose lease has run out. -/
def isReclaimable
    (now : Int)
    (row : JobsRow) : Bool :=
  row.status = .leased && row.leaseRanOut now

/-- `reclaimExpiredLeases`, with the number of reclaimed rows. -/
def reclaimExpiredLeases
    (store : JobStore)
    (now : Int) : JobStore × Nat :=
  (store.update (isReclaimable now) JobsRow.released
      JobsRow.id_released,
    store.jobs.rows.countP (isReclaimable now))

/-- `listActiveByTenant`. -/
def listActiveByTenant
    (store : JobStore)
    (tenantId : String) : List PersistedJob :=
  (byCreation
    (store.scan.arrange .listActiveByTenant
      (store.jobs.rows.filter fun row =>
        row.tenantId = tenantId && row.status.isActive))).map rowToJob

end JobStore

end CloudflareParallel
