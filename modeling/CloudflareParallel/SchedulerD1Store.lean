import CloudflareParallel.SchedulerStoreCalls
import CloudflareParallel.Library.CallMachines

namespace CloudflareParallel

open KeyedTables CallMachines

/-!
# The D1 store: `D1JobStore`

The adapter that keeps the same table in a D1 database.  Its statements are
those of `DoStorageJobStore`; what differs is how it learns their outcome, from
`meta.changes` or by a second query, and what it binds.
-/

/--
What binding `undefined` to a statement does: D1 rejects the call, or takes it
for a NULL.
-/
inductive UndefinedBinding where
  | rejects
  | bindsNull
  deriving Repr, DecidableEq

/-- What the adapter's database leaves open, and does in its own way. -/
structure D1Database where
  binding : UndefinedBinding
  scan : ScanOrder JobsRow

/-- The `cfp_jobs` table; this adapter keeps no events. -/
structure D1JobStore where
  jobs : KeyedTable JobsRow.id := .empty

/-- The row as the `ack` of the adapter leaves it. -/
def JobsRow.ackedAs
    (row : JobsRow)
    (result : Option JsValue)
    (resultExpiresMs : Int) : JobsRow :=
  { row with
    status := .done
    result := result
    resultExpiresMs := some resultExpiresMs }

namespace D1JobStore

/-- The row of a job. -/
def row?
    (store : D1JobStore)
    (jobId : String) : Option JobsRow :=
  store.jobs.get? jobId

/-- `run` on an UPDATE, with `meta.changes`. -/
def runUpdate
    (store : D1JobStore)
    (condition : JobsRow → Bool)
    (change : JobsRow → JobsRow)
    (keepsId : ∀ row, (change row).id = row.id) : D1JobStore × Nat :=
  ({ jobs := store.jobs.updateWhere condition change keepsId },
    store.jobs.rows.countP condition)

/-- An idempotency key that some row has already. -/
def keyIsTaken
    (store : D1JobStore)
    (idempotencyKey : Option String) : Bool :=
  match idempotencyKey with
  | none => false
  | some key =>
      store.jobs.rows.any fun row => row.idempotencyKey = some key

/-- `enqueue`; an uniqueness error is swallowed when there is a key. -/
def enqueue
    (store : D1JobStore)
    (job : PersistedJob) : D1JobStore × JobStoreAnswer :=
  let refused : D1JobStore × JobStoreAnswer :=
    if JobStore.swallowsUnique job then
      (store, .accepted)
    else
      (store, .rejected)
  if taken : job.id ∈ store.jobs.rows.map JobsRow.id then
    refused
  else if store.keyIsTaken job.idempotencyKey then
    refused
  else
    ({ jobs :=
        store.jobs.insert (insertedRow job) (by rwa [id_insertedRow]) },
      .accepted)

/-- The SELECT of `claim`; an empty job id counts as no id. -/
def claimCandidates
    (scan : ScanOrder JobsRow)
    (store : D1JobStore)
    (now : Int)
    (req : ClaimRequest) : List JobsRow :=
  match req.jobId.filter (· ≠ "") with
  | some jobId =>
      (store.jobs.rows.filter fun row =>
        row.id = jobId && row.isClaimable now).take 1
  | none =>
      ((scan.arrange .claim
          (store.jobs.rows.filter fun row =>
            row.isClaimable now)).insertionSort
        JobStore.claimsBefore).take req.max

/-- The lease of a claim does not touch the id of the row. -/
theorem id_leaseFor
    (req : ClaimRequest)
    (expires : Int) :
    ∀ row : JobsRow, (row.lease req.workerId expires).id = row.id :=
  fun row => row.id_lease req.workerId expires

/-- The UPDATE of `claim` for one candidate row. -/
def claimRow
    (now : Int)
    (req : ClaimRequest)
    (progress : D1JobStore × List PersistedJob)
    (row : JobsRow) : D1JobStore × List PersistedJob :=
  let expires := now + req.leaseMs
  let r :=
    progress.1.runUpdate (fun other => other.id = row.id && other.isFree now)
      (·.lease req.workerId expires) (id_leaseFor req expires)
  if 0 < r.2 then
    (r.1, progress.2 ++ [rowToJob (row.lease req.workerId expires)])
  else
    (r.1, progress.2)

/-- `claim`. -/
def claim
    (scan : ScanOrder JobsRow)
    (store : D1JobStore)
    (now : Int)
    (req : ClaimRequest) : D1JobStore × List PersistedJob :=
  (claimCandidates scan store now req).foldl (claimRow now req) (store, [])

/-- `ack` once its result is bound. -/
def ackBound
    (store : D1JobStore)
    (jobId leaseOwner : String)
    (result : Option JsValue)
    (resultExpiresMs : Int) : D1JobStore × JobStoreAnswer :=
  let r :=
    store.runUpdate (fun row => row.id = jobId && row.isLeasedBy leaseOwner)
      (·.ackedAs result resultExpiresMs) fun _ => rfl
  (r.1, .changed (0 < r.2))

/-- `ack`. -/
def ack
    (store : D1JobStore)
    (binding : UndefinedBinding)
    (jobId leaseOwner : String)
    (result : JsValue)
    (resultExpiresMs : Int) : D1JobStore × JobStoreAnswer :=
  if result.stringifiesToUndefined then
    match binding with
    | .rejects => (store, .rejected)
    | .bindsNull => store.ackBound jobId leaseOwner none resultExpiresMs
  else
    store.ackBound jobId leaseOwner (some result) resultExpiresMs

/-- `status`. -/
def status
    (store : D1JobStore)
    (jobId : String) : Option JobStatus :=
  (store.row? jobId).map JobsRow.status

/-- `fail`; the status is read back whether or not a row was changed. -/
def fail
    (store : D1JobStore)
    (jobId leaseOwner : String)
    (error : ErrorRecord) : D1JobStore × JobStatus :=
  let r :=
    store.runUpdate (fun row => row.id = jobId && row.isLeasedBy leaseOwner)
      (·.failedOnce error) fun row => row.id_failedOnce _
  (r.1, (r.1.status jobId).getD .leased)

/-- `failQueued`. -/
def failQueued
    (store : D1JobStore)
    (jobId : String)
    (error : ErrorRecord) : D1JobStore × Bool :=
  let r :=
    store.runUpdate (fun row => row.id = jobId && row.status = .queued)
      (·.failedForGood error) fun row => row.id_failedForGood _
  (r.1, 0 < r.2)

/-- `cancel`. -/
def cancel
    (store : D1JobStore)
    (jobId : String) : D1JobStore × Bool :=
  let r :=
    store.runUpdate (fun row => row.id = jobId && row.status.isActive)
      JobsRow.cancelled JobsRow.id_cancelled
  (r.1, 0 < r.2)

/-- `result`; an expiry of zero is falsy and counts as none. -/
def result
    (store : D1JobStore)
    (now : Int)
    (jobId : String) : JobStore.JobResult :=
  match store.row? jobId with
  | none =>
      { status := .failed
        error := some {
          name := "NotFoundError"
          message := s!"Job {jobId} not found"
        } }
  | some row =>
      match row.status with
      | .done =>
          if row.resultExpiresMs.any fun expires =>
              expires ≠ 0 && expires < now then
            { status := .failed
              error := some {
                name := "ResultExpiredError"
                message := s!"Job {jobId} result expired"
              } }
          else
            { status := .done, value := row.result }
      | .failed => { status := .failed, error := row.error }
      | status => { status := status }

/-- `peek`; an empty tenant id counts as none. -/
def peek
    (scan : ScanOrder JobsRow)
    (store : D1JobStore)
    (tenantId : Option String)
    (limit : Nat) : List PersistedJob :=
  let tenant := tenantId.filter (· ≠ "")
  ((JobStore.byCreation
      (scan.arrange (JobStore.peekScan tenant)
        (store.jobs.rows.filter fun row =>
          row.status = .queued && tenant.all (row.tenantId = ·)))).take
    limit).map rowToJob

/-- `sweepExpired`, with the number of deleted rows. -/
def sweepExpired
    (store : D1JobStore)
    (now : Int) : D1JobStore × Nat :=
  ({ jobs := store.jobs.deleteWhere (·.isSweepable now) },
    store.jobs.rows.countP (·.isSweepable now))

/-- `reclaimExpiredLeases`, with the number of reclaimed rows. -/
def reclaimExpiredLeases
    (store : D1JobStore)
    (now : Int) : D1JobStore × Nat :=
  store.runUpdate (JobStore.isReclaimable now) JobsRow.released
    JobsRow.id_released

/-- `listActiveByTenant`. -/
def listActiveByTenant
    (scan : ScanOrder JobsRow)
    (store : D1JobStore)
    (tenantId : String) : List PersistedJob :=
  (JobStore.byCreation
    (scan.arrange .listActiveByTenant
      (store.jobs.rows.filter fun row =>
        row.tenantId = tenantId && row.status.isActive))).map rowToJob

/-- One call of `D1JobStore`. -/
def invoke
    (database : D1Database)
    (store : D1JobStore) :
    JobStoreCall → D1JobStore × JobStoreAnswer
  | .enqueue _ job => store.enqueue job
  | .claim now req =>
      let claimed := store.claim database.scan now req
      (claimed.1, .jobs claimed.2)
  | .ack _ jobId leaseOwner result resultExpiresMs =>
      store.ack database.binding jobId leaseOwner result resultExpiresMs
  | .fail _ jobId leaseOwner error =>
      let failed := store.fail jobId leaseOwner error
      (failed.1, .next failed.2)
  | .failQueued _ jobId error =>
      let failed := store.failQueued jobId error
      (failed.1, .changed failed.2)
  | .cancel _ jobId _ =>
      let cancelled := store.cancel jobId
      (cancelled.1, .changed cancelled.2)
  | .status jobId => (store, .status (store.status jobId))
  | .result now jobId => (store, .result (store.result now jobId))
  | .peek tenantId limit =>
      (store, .jobs (store.peek database.scan tenantId limit))
  | .sweepExpired now =>
      let swept := store.sweepExpired now
      (swept.1, .count swept.2)
  | .reclaimExpiredLeases now =>
      let reclaimed := store.reclaimExpiredLeases now
      (reclaimed.1, .count reclaimed.2)
  | .listActiveByTenant tenantId =>
      (store, .jobs (store.listActiveByTenant database.scan tenantId))

end D1JobStore

/-! ## The two stores side by side -/

/-- An answer without the message of the error that it reports. -/
def JobStoreAnswer.withoutText : JobStoreAnswer → JobStoreAnswer
  | .result answer =>
      .result
        { answer with
          error := answer.error.map fun err => { err with message := "" } }
  | answer => answer

/-- The same answer, up to the messages of errors. -/
def JobStoreAnswer.Same (answer other : JobStoreAnswer) : Prop :=
  answer.withoutText = other.withoutText

/-- The stores hold the same rows. -/
def SameRows (store : JobStore) (other : D1JobStore) : Prop :=
  other.jobs = store.jobs

/--
The stores give the same answers and hold the same rows after each call, from
empty tables; the object's database scans in the order `scan`.
-/
def Interchangeable
    (scan : ScanOrder JobsRow)
    (database : D1Database)
    (calls : List JobStoreCall) : Prop :=
  InStep JobStore.invoke (D1JobStore.invoke database) JobStoreAnswer.Same
    SameRows { scan := scan } {} calls

/--
The rows that a SELECT finds, by two orders of a scan: once they are sorted, the
same jobs are in the first `limit` places, in the same order.
-/
def ScanOrder.Agree
    (first second : ScanOrder JobsRow)
    (scan : JobScan)
    (found : List JobsRow)
    (before : JobsRow → JobsRow → Prop)
    [DecidableRel before]
    (limit : Nat) : Prop :=
  (((first.arrange scan found).insertionSort before).take limit).map
      JobsRow.id =
    (((second.arrange scan found).insertionSort before).take limit).map
      JobsRow.id

/--
The condition on a call: a `fail` is for an unknown or a leased job; an `ack` of
a value without a JSON text is one that binds NULL and changes no row; and where
several jobs are selected, both databases put those with equal times of creation
in the same order, as far as the limit goes.
-/
def JobStoreCall.AnswersAlike
    (database : D1Database)
    (store : JobStore) : JobStoreCall → Prop
  | .claim now req =>
      req.jobId.filter (· ≠ "") = none →
      store.scan.Agree database.scan .claim
        (store.jobs.rows.filter fun row => row.isClaimable now)
        JobStore.claimsBefore req.max
  | .peek tenantId limit =>
      let tenant := tenantId.filter (· ≠ "")
      store.scan.Agree database.scan (JobStore.peekScan tenant)
        (store.jobs.rows.filter fun row =>
          row.status = .queued && tenant.all (row.tenantId = ·))
        (fun row other => row.createdAt ≤ other.createdAt) limit
  | .listActiveByTenant tenantId =>
      store.scan.Agree database.scan .listActiveByTenant
        (store.jobs.rows.filter fun row =>
          row.tenantId = tenantId && row.status.isActive)
        (fun row other => row.createdAt ≤ other.createdAt)
        store.jobs.rows.length
  | .ack _ jobId leaseOwner value _ =>
      value.stringifiesToUndefined →
      database.binding = .bindsNull ∧
        ∀ row ∈ store.row? jobId, ¬ row.isLeasedBy leaseOwner
  | .fail _ jobId _ _ =>
      store.status jobId = none ∨ store.status jobId = some .leased
  | _ => True

end CloudflareParallel
