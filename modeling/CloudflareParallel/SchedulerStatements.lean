import CloudflareParallel.SchedulerD1Store
import CloudflareParallel.SchedulerJobColumns

namespace CloudflareParallel

open JsonValues SqlRows

/-!
# The statements of the job stores

The SQL statements that the two adapters run, on rows of columns: the INSERT
with its two lists, each UPDATE with what it sets, and the conditions.  Both
adapters run the same statements.
-/

/-! ## Conditions -/

namespace JobsRecord

/-- `id = ?`. -/
def isJob (jobId : SqlValue) : SqlCondition JobsColumn :=
  fun row => (row .id).equals jobId

/-- `status = '…'`. -/
def hasStatus (status : String) : SqlCondition JobsColumn :=
  fun row => (row .status).equals (.text status)

/-- `status IN ('queued','leased')`. -/
def isActive : SqlCondition JobsColumn :=
  fun row => either (hasStatus "queued" row) (hasStatus "leased" row)

/-- `lease_expires_ms < ?`. -/
def leaseRanOut (now : Int) : SqlCondition JobsColumn :=
  fun row => (row .leaseExpiresMs).lessThan (.integer now)

/-- `status = 'queued' OR (status = 'leased' AND lease_expires_ms < ?)`. -/
def isFree (now : Int) : SqlCondition JobsColumn :=
  fun row =>
    either (hasStatus "queued" row)
      (both (hasStatus "leased" row) (leaseRanOut now row))

/--
`status IN ('queued','leased') AND (status = 'queued' OR lease_expires_ms < ?)
AND deadline_ms > ?`.
-/
def isClaimable (now : Int) : SqlCondition JobsColumn :=
  fun row =>
    both (isActive row)
      (both (either (hasStatus "queued" row) (leaseRanOut now row))
        ((SqlValue.integer now).lessThan (row .deadlineMs)))

/-- `id = ? AND status = 'leased' AND lease_owner = ?`. -/
def isLeasedBy
    (jobId leaseOwner : String) : SqlCondition JobsColumn :=
  fun row =>
    both (isJob (.text jobId) row)
      (both (hasStatus "leased" row)
        ((row .leaseOwner).equals (.text leaseOwner)))

/-- `ORDER BY created_at ASC`. -/
def createdBefore (row other : JobsRecord) : Prop :=
  ¬ (other .createdAt).lessThan (row .createdAt) = some true

/-- `ORDER BY status DESC, created_at ASC`. -/
def claimsBefore (row other : JobsRecord) : Prop :=
  (other .status).lessThan (row .status) = some true ∨
    ((row .status).equals (other .status) = some true ∧
      createdBefore row other)

instance : DecidableRel createdBefore :=
  fun _ _ => inferInstanceAs (Decidable (¬ _))

instance : DecidableRel claimsBefore :=
  fun _ _ => inferInstanceAs (Decidable (_ ∨ _))

end JobsRecord

open JobsRecord

/-! ## Updates -/

/-- What the UPDATE of `claim` sets. -/
def claimAssignments
    (workerId : String)
    (expires : Int) : List (JobsColumn × SqlValue) :=
  [ (.status, .text "leased"), (.leaseOwner, .text workerId),
    (.leaseExpiresMs, .integer expires) ]

/-- The UPDATE of `claim`. -/
def claimUpdate
    (workerId : String)
    (expires : Int)
    (jobId : SqlValue)
    (now : Int) : SqlUpdate JobsColumn where
  assignments _ := claimAssignments workerId expires
  condition row := both (isJob jobId row) (isFree now row)

/-- The UPDATE of `ack`. -/
def ackUpdate
    (result : SqlValue)
    (resultExpiresMs : Int)
    (jobId leaseOwner : String) : SqlUpdate JobsColumn where
  assignments _ :=
    [ (.status, .text "done"), (.result, result),
      (.resultExpiresMs, .integer resultExpiresMs) ]
  condition := isLeasedBy jobId leaseOwner

/-- The UPDATE of `fail`. -/
def failUpdate
    (error : Json)
    (jobId leaseOwner : String) : SqlUpdate JobsColumn where
  assignments row :=
    [ (.status,
        .text
          (if (row .retryCount).plusOne.atLeast (row .retryMax) =
              some true then
            "failed"
          else
            "queued")),
      (.retryCount, (row .retryCount).plusOne), (.leaseOwner, .null),
      (.leaseExpiresMs, .null), (.error, .json error) ]
  condition := isLeasedBy jobId leaseOwner

/-- The UPDATE of `failQueued`. -/
def failQueuedUpdate
    (error : Json)
    (jobId : String) : SqlUpdate JobsColumn where
  assignments row :=
    [ (.status, .text "failed"), (.error, .json error),
      (.retryCount, row .retryMax) ]
  condition row := both (isJob (.text jobId) row) (hasStatus "queued" row)

/-- The UPDATE of `cancel`. -/
def cancelUpdate (jobId : String) : SqlUpdate JobsColumn where
  assignments _ := [(.status, .text "cancelled")]
  condition row := both (isJob (.text jobId) row) (isActive row)

/-- The UPDATE of `reclaimExpiredLeases`. -/
def reclaimUpdate (now : Int) : SqlUpdate JobsColumn where
  assignments _ :=
    [ (.status, .text "queued"), (.leaseOwner, .null),
      (.leaseExpiresMs, .null) ]
  condition row := both (hasStatus "leased" row) (leaseRanOut now row)

/-- The condition of the DELETE of `sweepExpired`. -/
def sweepCondition (now : Int) : SqlCondition JobsColumn :=
  fun row =>
    both (hasStatus "done" row)
      (both (row .resultExpiresMs).isNotNull
        ((row .resultExpiresMs).lessThan (.integer now)))

/-! ## The INSERT -/

/-- The columns that the INSERT lists. -/
def insertColumns : List JobsColumn :=
  [ .id, .tenantId, .fnHash, .fnSource, .args, .context, .workerOptions,
    .allowList, .jobMeta, .createdAt, .deadlineMs, .retryMax, .retryCount,
    .retryBaseMs, .retryBackoff, .status, .idempotencyKey,
    .cacheKeyStrategy ]

namespace JobsAdapter

variable (adapter : JobsAdapter)

/-- The values that the INSERT lists. -/
def insertValues (job : PersistedJob) : List SqlValue :=
  [ .text job.id,
    .text job.tenantId,
    .text job.fnHash,
    .text job.fnSource,
    adapter.enc ((JsValue.array job.args).json adapter.exoticJson),
    .ofOption
      (fun context =>
        adapter.enc ((JsValue.object context).json adapter.exoticJson))
      job.context,
    .ofOption (fun options => adapter.enc options.json) job.workerOptions,
    .ofOption (fun keys => .json (JsonCodec.toJson keys)) job.allowList,
    .ofOption (fun entries => .json (JsonCodec.entries.toJson entries))
      job.jobMeta,
    .integer job.createdAt,
    .integer job.deadlineEpochMs,
    .integer job.retry.max,
    .integer job.retryCount,
    .integer job.retry.baseMs,
    .text job.retry.backoff.text,
    .text "queued",
    .ofOption .text job.idempotencyKey,
    .ofOption (fun strategy => .text strategy.text) job.cacheKeyStrategy ]

/-- The row that the INSERT makes. -/
def insertedRecord (job : PersistedJob) : JobsRecord :=
  SqlRows.insertedRow insertColumns (adapter.insertValues job)

/-- A row has the id already, or the idempotency key. -/
def isTaken
    (rows : List JobsRecord)
    (job : PersistedJob) : Bool :=
  rows.any fun row =>
    (row .id).equals (.text job.id) = some true ||
      (row .idempotencyKey).equals (.ofOption .text job.idempotencyKey) =
        some true

/-! ## The methods -/

/-- `enqueue`; an uniqueness error is swallowed when there is a key. -/
def enqueue
    (rows : List JobsRecord)
    (job : PersistedJob) : List JobsRecord × JobStoreAnswer :=
  if isTaken rows job then
    (rows,
      if JobStore.swallowsUnique job then .accepted else .rejected)
  else
    (rows ++ [adapter.insertedRecord job], .accepted)

/-- The SELECT of `claim`; an empty job id counts as no id. -/
def claimCandidates
    (rows : List JobsRecord)
    (now : Int)
    (req : ClaimRequest) : List JobsRecord :=
  match req.jobId.filter (· ≠ "") with
  | some jobId =>
      (select
        (fun row => both (isJob (.text jobId) row) (isClaimable now row))
        rows).take 1
  | none =>
      ((adapter.scan.arrange .claim
          (select (isClaimable now) rows)).insertionSort claimsBefore).take
        req.max

/-- The UPDATE of `claim` for one candidate, with the row that it reports. -/
def claimRow
    (now : Int)
    (req : ClaimRequest)
    (progress : List JobsRecord × List JobsRecord)
    (row : JobsRecord) : List JobsRecord × List JobsRecord :=
  let expires := now + req.leaseMs
  let update := claimUpdate req.workerId expires (row .id) now
  if (update.returning progress.1).isEmpty then
    progress
  else
    (update.run progress.1,
      progress.2 ++ [row.set (claimAssignments req.workerId expires)])

/-- The table after a `claim`, with the rows that it reports. -/
def claimRows
    (rows : List JobsRecord)
    (now : Int)
    (req : ClaimRequest) : List JobsRecord × List JobsRecord :=
  (adapter.claimCandidates rows now req).foldl (claimRow now req) (rows, [])

/-- `claim`. -/
def claim
    (rows : List JobsRecord)
    (now : Int)
    (req : ClaimRequest) : List JobsRecord × List (Option PersistedJob) :=
  let claimed := adapter.claimRows rows now req
  (claimed.1, claimed.2.map adapter.rowToJob)

/-- The SELECT of `peek`; an empty tenant id counts as none. -/
def peekRows
    (rows : List JobsRecord)
    (tenantId : Option String)
    (limit : Nat) : List JobsRecord :=
  let tenant := tenantId.filter (· ≠ "")
  ((adapter.scan.arrange (JobStore.peekScan tenant)
      (select
        (fun row =>
          match tenant with
          | some tenantId =>
              both (hasStatus "queued" row)
                ((row .tenantId).equals (.text tenantId))
          | none => hasStatus "queued" row)
        rows)).insertionSort createdBefore).take limit

/-- `peek`. -/
def peek
    (rows : List JobsRecord)
    (tenantId : Option String)
    (limit : Nat) : List (Option PersistedJob) :=
  (adapter.peekRows rows tenantId limit).map adapter.rowToJob

/-- The table after a call. -/
def invoke
    (rows : List JobsRecord) : JobStoreCall → List JobsRecord
  | .enqueue _ job => (adapter.enqueue rows job).1
  | .claim now req => (adapter.claim rows now req).1
  | .ack _ jobId leaseOwner result resultExpiresMs =>
      let text :=
        if result.stringifiesToUndefined then
          none
        else
          some (result.json adapter.exoticJson)
      match adapter.bindResult text with
      | none => rows
      | some bound =>
          (ackUpdate bound resultExpiresMs jobId leaseOwner).run rows
  | .fail _ jobId leaseOwner error =>
      (failUpdate error.json jobId leaseOwner).run rows
  | .failQueued _ jobId error => (failQueuedUpdate error.json jobId).run rows
  | .cancel _ jobId _ => (cancelUpdate jobId).run rows
  | .sweepExpired now => SqlRows.deleteWhere (sweepCondition now) rows
  | .reclaimExpiredLeases now => (reclaimUpdate now).run rows
  | .status _ => rows
  | .result _ _ => rows
  | .peek _ _ => rows
  | .listActiveByTenant _ => rows

end JobsAdapter

/-! ## The two adapters -/

/-- What binds an `undefined`: nothing, or a NULL. -/
def UndefinedBinding.bound : UndefinedBinding → Option SqlValue
  | .rejects => none
  | .bindsNull => some .null

/-- `DoStorageJobStore`. -/
def JobsAdapter.doStorage
    (exoticJson : JsExotic → Json)
    (scan : ScanOrder JobsRecord) : JobsAdapter where
  exoticJson := exoticJson
  scan := scan
  enc := .blob
  dec := SqlValue.blob?
  bindResult text := some (.blob (text.getD .null))
  initSchema
    | none => some 3
    | some schema => if schema < 3 then some 3 else some schema
  dec_enc _ := rfl
  isTruthy_enc _ := rfl
  bindResult_enc {text _} isBound := by
    cases isBound
    cases text
    · exact .inr rfl
    · exact .inl rfl

/-- `D1JobStore`, which keeps no schema version. -/
def JobsAdapter.d1
    (exoticJson : JsExotic → Json)
    (binding : UndefinedBinding)
    (scan : ScanOrder JobsRecord) : JobsAdapter where
  exoticJson := exoticJson
  scan := scan
  enc := .json
  dec := SqlValue.json?
  bindResult
    | none => binding.bound
    | some document => some (.json document)
  initSchema schema := schema
  dec_enc _ := rfl
  isTruthy_enc _ := rfl
  bindResult_enc {text _} isBound := by
    cases text with
    | none =>
        cases binding <;> cases isBound
        exact .inl rfl
    | some document =>
        cases isBound
        exact .inl rfl

/-! ## Databases -/

/-- The stored tables, as far as the methods and the constructor read them. -/
structure JobsDatabase where
  schema : Option Int := none
  jobs : List JobsRecord := []

/-- What happens to a database. -/
inductive JobsEvent where
  | call (call : JobStoreCall)
  /-- A new instance of the store is made. -/
  | restart

namespace JobsAdapter

variable (adapter : JobsAdapter)

/-- One event; the columns of a table that is there are there already. -/
def step
    (database : JobsDatabase) : JobsEvent → JobsDatabase
  | .call call => { database with jobs := adapter.invoke database.jobs call }
  | .restart =>
      { database with schema := adapter.initSchema database.schema }

/-- The database after some events. -/
def after
    (database : JobsDatabase)
    (events : List JobsEvent) : JobsDatabase :=
  events.foldl adapter.step database

end JobsAdapter

end CloudflareParallel
