import CloudflareParallel.SchedulerStatements

namespace CloudflareParallel

open JsonValues SqlRows JobsRecord

/-!
# Round trips of job rows

Each statement does to the columns of a row what the operation of the store
does to the row.  So the columns of a job keep what the INSERT wrote, apart
from the few that an UPDATE sets, and the job that is read from them is the one
that was enqueued.
-/

/-! ## Statements and rows -/

/-- An UPDATE makes a change to the columns of the rows that meet a guard. -/
structure UpdatesRows
    (adapter : JobsAdapter)
    (update : SqlUpdate JobsColumn)
    (guard : JobsRow → Bool)
    (change : JobsRow → JobsRow) : Prop where
  condition :
    ∀ row, update.condition (row.columns adapter) = some true ↔ guard row
  assignments :
    ∀ row,
      (row.columns adapter).set (update.assignments (row.columns adapter)) =
        (change row).columns adapter
  keepsId :
    ∀ record, .id ∉ (update.assignments record).map Prod.fst

section Statements

variable (adapter : JobsAdapter)
variable (row : JobsRow)

theorem hasStatus_columns (status : JobStatus) :
    hasStatus status.text (row.columns adapter) = some true ↔
      row.status = status := by
  have text : row.status.text = status.text ↔ row.status = status := by
    cases row.status <;> cases status <;> decide
  simp [hasStatus, JobsRow.columns, text]

theorem isQueued_columns :
    hasStatus "queued" (row.columns adapter) = some true ↔
      row.status = .queued :=
  hasStatus_columns adapter row .queued

theorem isLeased_columns :
    hasStatus "leased" (row.columns adapter) = some true ↔
      row.status = .leased :=
  hasStatus_columns adapter row .leased

theorem isDone_columns :
    hasStatus "done" (row.columns adapter) = some true ↔
      row.status = .done :=
  hasStatus_columns adapter row .done

theorem isJob_columns (jobId : String) :
    isJob (.text jobId) (row.columns adapter) = some true ↔
      row.id = jobId := by
  simp [isJob, JobsRow.columns]

theorem leaseRanOut_columns (now : Int) :
    leaseRanOut now (row.columns adapter) = some true ↔
      row.leaseRanOut now = true := by
  simp only [leaseRanOut, JobsRow.columns, JobsRow.leaseRanOut,
    SqlValue.lessThan_ofOption_integer]
  cases row.leaseExpiresMs <;> simp

theorem isActive_columns :
    isActive (row.columns adapter) = some true ↔
      row.status.isActive = true := by
  simp only [isActive, either_eq_true, isQueued_columns, isLeased_columns]
  cases row.status <;> simp [JobStatus.isActive]

theorem isFree_columns (now : Int) :
    isFree now (row.columns adapter) = some true ↔ row.isFree now = true := by
  simp only [isFree, either_eq_true, both_eq_true, isQueued_columns,
    isLeased_columns, leaseRanOut_columns, JobsRow.isFree, Bool.or_eq_true,
    Bool.and_eq_true, decide_eq_true_eq]

theorem isClaimable_columns (now : Int) :
    isClaimable now (row.columns adapter) = some true ↔
      row.isClaimable now = true := by
  have deadline :
      (SqlValue.integer now).lessThan (row.columns adapter .deadlineMs) =
          some true ↔
        now < row.deadlineMs :=
    SqlValue.lessThan_integer now row.deadlineMs
  simp only [isClaimable, isActive, both_eq_true, either_eq_true,
    isQueued_columns, isLeased_columns, leaseRanOut_columns, deadline,
    JobsRow.isClaimable, JobsRow.isFree, Bool.and_eq_true, Bool.or_eq_true,
    decide_eq_true_eq]
  cases row.status <;> simp

theorem isLeasedBy_columns (jobId leaseOwner : String) :
    isLeasedBy jobId leaseOwner (row.columns adapter) = some true ↔
      (row.id = jobId && row.isLeasedBy leaseOwner) = true := by
  have owner :
      (row.columns adapter .leaseOwner).equals (.text leaseOwner) =
          some true ↔
        row.leaseOwner = some leaseOwner :=
    SqlValue.equals_ofOption_text row.leaseOwner leaseOwner
  simp only [isLeasedBy, both_eq_true, isJob_columns, isLeased_columns, owner,
    JobsRow.isLeasedBy, Bool.and_eq_true, decide_eq_true_eq]

/-- The INSERT writes the columns of the inserted row. -/
theorem insertedRecord_eq_columns (job : PersistedJob) :
    adapter.insertedRecord job = (insertedRow job).columns adapter := by
  funext column
  cases column <;> rfl

theorem claimUpdate_updatesRows
    (workerId jobId : String)
    (expires now : Int) :
    UpdatesRows adapter (claimUpdate workerId expires (.text jobId) now)
      (fun row => row.id = jobId && row.isFree now)
      (·.lease workerId expires) where
  condition row := by
    simp only [claimUpdate, both_eq_true, isJob_columns, isFree_columns,
      Bool.and_eq_true, decide_eq_true_eq]
  assignments row := by
    funext column
    cases column <;> rfl
  keepsId _ := by
    simp [claimUpdate, claimAssignments]

theorem ackUpdate_updatesRows
    (result : Option JsValue)
    (resultExpiresMs : Int)
    (jobId leaseOwner : String) :
    UpdatesRows adapter
      (ackUpdate
        (.ofOption (fun value => adapter.enc (value.json adapter.exoticJson))
          result)
        resultExpiresMs jobId leaseOwner)
      (fun row => row.id = jobId && row.isLeasedBy leaseOwner)
      (·.ackedAs result resultExpiresMs) where
  condition row := isLeasedBy_columns adapter row jobId leaseOwner
  assignments row := by
    funext column
    cases column <;> rfl
  keepsId _ := by
    simp [ackUpdate]

theorem failUpdate_updatesRows
    (error : ErrorRecord)
    (jobId leaseOwner : String) :
    UpdatesRows adapter (failUpdate error.json jobId leaseOwner)
      (fun row => row.id = jobId && row.isLeasedBy leaseOwner)
      (·.failedOnce error) where
  condition row := isLeasedBy_columns adapter row jobId leaseOwner
  assignments row := by
    have exhausted :
        (row.columns adapter .retryCount).plusOne.atLeast
              (row.columns adapter .retryMax) =
            some true ↔
          row.retryMax ≤ row.retryCount + 1 := by
      simp [JobsRow.columns, SqlValue.plusOne, SqlValue.atLeast]
    funext column
    cases column with
    | status =>
        change
          SqlValue.text _ =
            .text (if row.retryMax ≤ row.retryCount + 1 then
              JobStatus.failed
            else
              .queued).text
        simp only [exhausted]
        split <;> rfl
    | _ => rfl
  keepsId _ := by
    simp [failUpdate]

theorem failQueuedUpdate_updatesRows
    (error : ErrorRecord)
    (jobId : String) :
    UpdatesRows adapter (failQueuedUpdate error.json jobId)
      (fun row => row.id = jobId && row.status = .queued)
      (·.failedForGood error) where
  condition row := by
    simp only [failQueuedUpdate, both_eq_true, isJob_columns,
      isQueued_columns, Bool.and_eq_true, decide_eq_true_eq]
  assignments row := by
    funext column
    cases column <;> rfl
  keepsId _ := by
    simp [failQueuedUpdate]

theorem cancelUpdate_updatesRows (jobId : String) :
    UpdatesRows adapter (cancelUpdate jobId)
      (fun row => row.id = jobId && row.status.isActive)
      JobsRow.cancelled where
  condition row := by
    simp only [cancelUpdate, both_eq_true, isJob_columns, isActive_columns,
      Bool.and_eq_true, decide_eq_true_eq]
  assignments row := by
    funext column
    cases column <;> rfl
  keepsId _ := by
    simp [cancelUpdate]

theorem reclaimUpdate_updatesRows (now : Int) :
    UpdatesRows adapter (reclaimUpdate now) (JobStore.isReclaimable now)
      JobsRow.released where
  condition row := by
    simp only [reclaimUpdate, both_eq_true, isLeased_columns,
      leaseRanOut_columns, JobStore.isReclaimable, Bool.and_eq_true,
      decide_eq_true_eq]
  assignments row := by
    funext column
    cases column <;> rfl
  keepsId _ := by
    simp [reclaimUpdate]

theorem sweepCondition_columns (now : Int) :
    sweepCondition now (row.columns adapter) = some true ↔
      row.isSweepable now = true := by
  simp only [sweepCondition, both_eq_true, isDone_columns, JobsRow.columns,
    SqlValue.lessThan_ofOption_integer, JobsRow.isSweepable,
    Bool.and_eq_true, decide_eq_true_eq]
  cases row.resultExpiresMs <;>
    simp [SqlValue.ofOption, SqlValue.isNotNull]

end Statements

/-! ## The table of a store -/

/-- An UPDATE of the columns of some rows is the change of these rows. -/
theorem UpdatesRows.run_columns
    {adapter : JobsAdapter}
    {update : SqlUpdate JobsColumn}
    {guard : JobsRow → Bool}
    {change : JobsRow → JobsRow}
    (updates : UpdatesRows adapter update guard change)
    (rows : List JobsRow) :
    update.run (rows.map (·.columns adapter)) =
      (rows.map fun row => if guard row then change row else row).map
        (·.columns adapter) := by
  unfold SqlUpdate.run
  rw [List.map_map, List.map_map]
  refine List.map_congr_left fun row _ => ?_
  simp only [Function.comp_apply, updates.condition row]
  split
  · exact updates.assignments row
  · rfl

/-! ## What the columns of a job carry -/

/-- A row as it was inserted, with a retry count. -/
def JobsRow.asInserted
    (row : JobsRow)
    (retryCount : Int) : JobsRow :=
  { row with
    retryCount := retryCount
    status := .queued
    leaseOwner := none
    leaseExpiresMs := none
    result := none
    resultExpiresMs := none
    error := none }

/-- The row has the data of a job, and no result before it is done. -/
structure JobsRow.Carries
    (row : JobsRow)
    (job : PersistedJob) : Prop where
  data : row.asInserted job.retryCount = insertedRow job
  unfinished :
    row.status ≠ .done → row.result = none ∧ row.resultExpiresMs = none

/-- If the columns are of the job, they carry its data. -/
def ColumnsCarry
    (adapter : JobsAdapter)
    (job : PersistedJob)
    (record : JobsRecord) : Prop :=
  record .id = .text job.id →
    ∃ row : JobsRow, record = row.columns adapter ∧ row.Carries job

section Carries

variable {adapter : JobsAdapter}
variable {job : PersistedJob}
variable {row : JobsRow}

theorem JobsRow.Carries.insertedRow (job : PersistedJob) :
    (insertedRow job).Carries job where
  data := rfl
  unfinished _ := ⟨rfl, rfl⟩

/-- A change that keeps the data and the result of an unfinished row. -/
theorem JobsRow.Carries.of_unfinished
    {next : JobsRow}
    (carries : row.Carries job)
    (sameData :
      next.asInserted job.retryCount = row.asInserted job.retryCount)
    (notDone : row.status ≠ .done)
    (sameResult :
      next.result = row.result ∧
        next.resultExpiresMs = row.resultExpiresMs) :
    next.Carries job where
  data := sameData.trans carries.data
  unfinished _ := by
    rw [sameResult.1, sameResult.2]
    exact carries.unfinished notDone

theorem JobsRow.Carries.lease
    {now : Int}
    (carries : row.Carries job)
    (free : row.isFree now)
    (workerId : String)
    (expires : Int) :
    (row.lease workerId expires).Carries job := by
  refine carries.of_unfinished rfl ?_ ⟨rfl, rfl⟩
  intro done
  simp [JobsRow.isFree, done] at free

theorem JobsRow.Carries.ackedAs
    (carries : row.Carries job)
    (result : Option JsValue)
    (resultExpiresMs : Int) :
    (row.ackedAs result resultExpiresMs).Carries job where
  data := carries.data
  unfinished notDone := absurd rfl notDone

theorem JobsRow.Carries.failedOnce
    {leaseOwner : String}
    (carries : row.Carries job)
    (leased : row.isLeasedBy leaseOwner)
    (error : ErrorRecord) :
    (row.failedOnce error).Carries job := by
  refine carries.of_unfinished rfl ?_ ⟨rfl, rfl⟩
  intro done
  simp [JobsRow.isLeasedBy, done] at leased

theorem JobsRow.Carries.failedForGood
    (carries : row.Carries job)
    (queued : row.status = .queued)
    (error : ErrorRecord) :
    (row.failedForGood error).Carries job :=
  carries.of_unfinished rfl (by simp [queued]) ⟨rfl, rfl⟩

theorem JobsRow.Carries.cancelled
    (carries : row.Carries job)
    (active : row.status.isActive) :
    row.cancelled.Carries job := by
  refine carries.of_unfinished rfl ?_ ⟨rfl, rfl⟩
  intro done
  simp [JobStatus.isActive, done] at active

theorem JobsRow.Carries.released
    {now : Int}
    (carries : row.Carries job)
    (reclaimable : JobStore.isReclaimable now row) :
    row.released.Carries job := by
  refine carries.of_unfinished rfl ?_ ⟨rfl, rfl⟩
  intro done
  simp [JobStore.isReclaimable, done] at reclaimable

/-- An UPDATE whose change keeps the data keeps what the columns carry. -/
theorem UpdatesRows.columnsCarry_set
    {update : SqlUpdate JobsColumn}
    {guard : JobsRow → Bool}
    {change : JobsRow → JobsRow}
    (updates : UpdatesRows adapter update guard change)
    (kept : ∀ row, guard row → row.Carries job → (change row).Carries job)
    {record : JobsRecord}
    (carry : ColumnsCarry adapter job record)
    (met : update.condition record = some true) :
    ColumnsCarry adapter job (record.set (update.assignments record)) := by
  intro isJob
  rw [SqlRow.set_of_not_mem (updates.keepsId record)] at isJob
  obtain ⟨row, rfl, carries⟩ := carry isJob
  exact ⟨change row, updates.assignments row,
    kept row ((updates.condition row).mp met) carries⟩

theorem UpdatesRows.columnsCarry_run
    {update : SqlUpdate JobsColumn}
    {guard : JobsRow → Bool}
    {change : JobsRow → JobsRow}
    (updates : UpdatesRows adapter update guard change)
    (kept : ∀ row, guard row → row.Carries job → (change row).Carries job)
    {records : List JobsRecord}
    (carry : ∀ record ∈ records, ColumnsCarry adapter job record) :
    ∀ record ∈ update.run records, ColumnsCarry adapter job record :=
  SqlUpdate.forall_run carry fun _ carry met =>
    updates.columnsCarry_set kept carry met

/-! ## Calls -/

variable {records : List JobsRecord}

/-- A candidate of a claim is a row of the table that can be claimed. -/
theorem JobsAdapter.of_mem_claimCandidates
    {now : Int}
    {req : ClaimRequest}
    {record : JobsRecord}
    (candidate : record ∈ adapter.claimCandidates records now req) :
    record ∈ records ∧ isClaimable now record = some true := by
  unfold JobsAdapter.claimCandidates select at candidate
  split at candidate
  · have selected := List.mem_filter.mp (List.mem_of_mem_take candidate)
    have met := of_decide_eq_true selected.2
    exact ⟨selected.1, ((both_eq_true _ _).mp met).2⟩
  · have scanned :=
      (List.mem_insertionSort _).mp (List.mem_of_mem_take candidate)
    have selected :=
      List.mem_filter.mp ((adapter.scan.mem_arrange ..).mp scanned)
    exact ⟨selected.1, of_decide_eq_true selected.2⟩

/-- A row that can be claimed is free. -/
theorem isFree_of_isClaimable
    {now : Int}
    {record : JobsRecord}
    (claimable : isClaimable now record = some true) :
    isFree now record = some true := by
  simp only [isClaimable, isActive, both_eq_true, either_eq_true] at claimable
  obtain ⟨active, free, -⟩ := claimable
  simp only [isFree, both_eq_true, either_eq_true]
  rcases active with queued | leased
  · exact .inl queued
  · exact free.imp id fun ranOut => ⟨leased, ranOut⟩

/-- The columns of a free row carry the same data when it is leased. -/
theorem columnsCarry_lease
    {now : Int}
    {record : JobsRecord}
    (carry : ColumnsCarry adapter job record)
    (free : isFree now record = some true)
    (workerId : String)
    (expires : Int) :
    ColumnsCarry adapter job
      (record.set (claimAssignments workerId expires)) := by
  intro isJob
  have keepsId :
      .id ∉ (claimAssignments workerId expires).map Prod.fst := by
    simp [claimAssignments]
  rw [SqlRow.set_of_not_mem keepsId] at isJob
  obtain ⟨row, rfl, carries⟩ := carry isJob
  have updates :=
    claimUpdate_updatesRows adapter workerId job.id expires now
  exact ⟨row.lease workerId expires, updates.assignments row,
    carries.lease ((isFree_columns adapter row now).mp free) _ _⟩

/-- A claim keeps what the columns carry, and reports rows that carry it. -/
theorem columnsCarry_claimRows
    (now : Int)
    (req : ClaimRequest)
    (carry : ∀ record ∈ records, ColumnsCarry adapter job record) :
    (∀ record ∈ (adapter.claimRows records now req).1,
        ColumnsCarry adapter job record) ∧
      ∀ record ∈ (adapter.claimRows records now req).2,
        ColumnsCarry adapter job record ∧
          record .status = .text "leased" := by
  have folded
      (candidates : List JobsRecord)
      (selected :
        ∀ record ∈ candidates,
          record ∈ records ∧ isClaimable now record = some true)
      (progress : List JobsRecord × List JobsRecord)
      (carryTable : ∀ record ∈ progress.1, ColumnsCarry adapter job record)
      (carryClaimed :
        ∀ record ∈ progress.2,
          ColumnsCarry adapter job record ∧
            record .status = .text "leased") :
      (∀ record ∈
          (candidates.foldl (JobsAdapter.claimRow now req) progress).1,
          ColumnsCarry adapter job record) ∧
        ∀ record ∈
          (candidates.foldl (JobsAdapter.claimRow now req) progress).2,
          ColumnsCarry adapter job record ∧
            record .status = .text "leased" := by
    induction candidates generalizing progress with
    | nil => exact ⟨carryTable, carryClaimed⟩
    | cons candidate rest inductionHypothesis =>
        obtain ⟨inTable, claimable⟩ := selected candidate List.mem_cons_self
        rw [List.foldl_cons]
        refine inductionHypothesis
          (fun record member =>
            selected record (List.mem_cons_of_mem _ member)) _ ?_ ?_
        · unfold JobsAdapter.claimRow
          dsimp only
          split
          · exact carryTable
          · exact SqlUpdate.forall_run carryTable fun record carry met =>
              columnsCarry_lease carry ((both_eq_true _ _).mp met).2 _ _
        · unfold JobsAdapter.claimRow
          dsimp only
          split
          · exact carryClaimed
          · intro record member
            rcases List.mem_append.mp member with before | isNew
            · exact carryClaimed record before
            · rw [List.mem_singleton] at isNew
              subst isNew
              exact ⟨columnsCarry_lease (carry candidate inTable)
                (isFree_of_isClaimable claimable) _ _, rfl⟩
  exact folded _ (fun _ => JobsAdapter.of_mem_claimCandidates) (records, [])
    carry fun record none => absurd none List.not_mem_nil

/-- What `ack` binds is the column of a result, or of none. -/
theorem bound_eq
    {result : JsValue}
    {bound : SqlValue}
    (isBound :
      adapter.bindResult
          (if result.stringifiesToUndefined then
            none
          else
            some (result.json adapter.exoticJson)) =
        some bound) :
    ∃ stored : Option JsValue,
      bound =
        .ofOption (fun value => adapter.enc (value.json adapter.exoticJson))
          stored := by
  rcases adapter.bindResult_enc isBound with rfl | rfl
  · split
    · exact ⟨none, rfl⟩
    · exact ⟨some result, rfl⟩
  · refine ⟨some .null, ?_⟩
    simp [SqlValue.ofOption, JsValue.json]

/-- A call that enqueues no other job under the id. -/
def JobStoreCall.keepsJob
    (job : PersistedJob) : JobStoreCall → Prop
  | .enqueue _ other => other.id = job.id → other = job
  | _ => True

/-- Every call keeps what the columns carry. -/
theorem columnsCarry_invoke
    {call : JobStoreCall}
    (keeps : call.keepsJob job)
    (carry : ∀ record ∈ records, ColumnsCarry adapter job record) :
    ∀ record ∈ adapter.invoke records call,
      ColumnsCarry adapter job record := by
  cases call with
  | enqueue now other =>
      unfold JobsAdapter.invoke JobsAdapter.enqueue
      dsimp only
      split
      · exact carry
      · intro record member
        rcases List.mem_append.mp member with before | isNew
        · exact carry record before
        · rw [List.mem_singleton] at isNew
          subst isNew
          rw [insertedRecord_eq_columns]
          intro isJob
          have sameId : other.id = job.id := SqlValue.text.inj isJob
          rw [keeps sameId]
          exact ⟨_, rfl, .insertedRow job⟩
  | claim now req => exact (columnsCarry_claimRows now req carry).1
  | ack now jobId leaseOwner result resultExpiresMs =>
      unfold JobsAdapter.invoke
      dsimp only
      split
      · exact carry
      next bound isBound =>
          obtain ⟨stored, rfl⟩ := bound_eq isBound
          refine (ackUpdate_updatesRows adapter stored resultExpiresMs jobId
            leaseOwner).columnsCarry_run ?_ carry
          exact fun row _ carries => carries.ackedAs stored resultExpiresMs
  | fail now jobId leaseOwner error =>
      refine (failUpdate_updatesRows adapter error jobId
        leaseOwner).columnsCarry_run ?_ carry
      intro row met carries
      exact carries.failedOnce (Bool.and_eq_true_iff.mp met).2 error
  | failQueued now jobId error =>
      refine (failQueuedUpdate_updatesRows adapter error
        jobId).columnsCarry_run ?_ carry
      intro row met carries
      exact carries.failedForGood
        (of_decide_eq_true (Bool.and_eq_true_iff.mp met).2) error
  | cancel now jobId reason =>
      refine (cancelUpdate_updatesRows adapter jobId).columnsCarry_run ?_
        carry
      intro row met carries
      exact carries.cancelled (Bool.and_eq_true_iff.mp met).2
  | sweepExpired now =>
      exact fun record member => carry record (List.mem_filter.mp member).1
  | reclaimExpiredLeases now =>
      refine (reclaimUpdate_updatesRows adapter now).columnsCarry_run ?_
        carry
      exact fun row met carries => carries.released met
  | status | result | peek | listActiveByTenant => exact carry

/-- What happens to a database keeps what the columns carry. -/
theorem columnsCarry_after
    {events : List JobsEvent}
    {database : JobsDatabase}
    (keeps : ∀ call, .call call ∈ events → call.keepsJob job)
    (carry : ∀ record ∈ database.jobs, ColumnsCarry adapter job record) :
    ∀ record ∈ (adapter.after database events).jobs,
      ColumnsCarry adapter job record := by
  induction events generalizing database with
  | nil => exact carry
  | cons event rest inductionHypothesis =>
      refine inductionHypothesis
        (fun call member => keeps call (List.mem_cons_of_mem _ member)) ?_
      cases event with
      | restart => exact carry
      | call call =>
          exact columnsCarry_invoke (keeps call List.mem_cons_self) carry

end Carries

/-! ## Jobs that are read back -/

/-- Equal in all fields but the status, the lease, the retries and the error. -/
def PersistedJob.SameWork (other job : PersistedJob) : Prop :=
  { other with
    status := job.status
    leaseOwner := job.leaseOwner
    leaseExpiresMs := job.leaseExpiresMs
    retryCount := job.retryCount
    error := job.error } = job

/-- The arguments and the context are JSON values. -/
structure PersistedJob.IsJson (job : PersistedJob) : Prop where
  args : ∀ arg ∈ job.args, arg.IsJson
  context : ∀ context ∈ job.context, ∀ entry ∈ context, entry.2.IsJson

/-- A queued job without a lease, a result or an error. -/
structure PersistedJob.IsNew (job : PersistedJob) : Prop where
  status : job.status = .queued
  leaseOwner : job.leaseOwner = none
  leaseExpiresMs : job.leaseExpiresMs = none
  result : job.result = none
  resultExpiresMs : job.resultExpiresMs = none
  error : job.error = none

/--
After `enqueue`, `peek` gives the job back in every field; and after whatever
happens then, `peek` and `claim` give back the same work.
-/
structure RoundTrips
    (adapter : JobsAdapter)
    (database : JobsDatabase)
    (job : PersistedJob) : Prop where
  accepted : (adapter.enqueue database.jobs job).2 = .accepted
  peeked :
    ∀ tenantId limit,
      ∀ record ∈
        adapter.peekRows (adapter.enqueue database.jobs job).1 tenantId
          limit,
        record .id = .text job.id → adapter.rowToJob record = some job
  isPeeked :
    ∀ limit,
      database.jobs.length < limit →
        some job ∈
          adapter.peek (adapter.enqueue database.jobs job).1 none limit
  peekedLater :
    ∀ events,
      (∀ call, .call call ∈ events → call.keepsJob job) →
        ∀ tenantId limit,
          ∀ record ∈
            adapter.peekRows
              (adapter.after database
                (.call (.enqueue 0 job) :: events)).jobs tenantId limit,
            record .id = .text job.id →
              ∃ other,
                adapter.rowToJob record = some other ∧ other.SameWork job
  claimedLater :
    ∀ events,
      (∀ call, .call call ∈ events → call.keepsJob job) →
        ∀ now req,
          ∀ record ∈
            (adapter.claimRows
              (adapter.after database
                (.call (.enqueue 0 job) :: events)).jobs now req).2,
            record .id = .text job.id →
              ∃ other,
                adapter.rowToJob record = some other ∧ other.SameWork job

section ReadBack

variable {adapter : JobsAdapter}
variable {job : PersistedJob}
variable {row : JobsRow}

/-- The row that the INSERT makes gives the job back. -/
theorem PersistedJob.IsNew.rowToJob_insertedRow
    (isNew : job.IsNew) :
    rowToJob (insertedRow job) = job := by
  obtain ⟨status, leaseOwner, leaseExpiresMs, result, expires, error⟩ := isNew
  cases job
  simp_all [rowToJob, insertedRow]

/-- A row that carries the data, and is not done, gives the work back. -/
theorem JobsRow.Carries.sameWork
    (carries : row.Carries job)
    (isNew : job.IsNew)
    (notDone : row.status ≠ .done) :
    (rowToJob row).SameWork job := by
  obtain ⟨noResult, noExpiry⟩ := carries.unfinished notDone
  have data : rowToJob (row.asInserted job.retryCount) = job := by
    rw [carries.data, isNew.rowToJob_insertedRow]
  unfold PersistedJob.SameWork
  rw [isNew.status, isNew.leaseOwner, isNew.leaseExpiresMs, isNew.error]
  conv_rhs => rw [← data]
  simp [rowToJob, JobsRow.asInserted, noResult, noExpiry]

/-- It holds JSON values if the job does. -/
theorem JobsRow.Carries.isJson
    (carries : row.Carries job)
    (isJson : job.IsJson)
    (notDone : row.status ≠ .done) :
    row.IsJson where
  args := by
    have args : row.args = job.args := congrArg JobsRow.args carries.data
    rw [args]
    exact isJson.args
  context := by
    have context : row.context = job.context :=
      congrArg JobsRow.context carries.data
    rw [context]
    exact isJson.context
  result := by
    rw [(carries.unfinished notDone).1]
    exact fun _ none => by cases none

/-- A new job of JSON values is read back from what the INSERT writes. -/
theorem PersistedJob.IsNew.rowToJob_insertedRecord
    (isNew : job.IsNew)
    (isJson : job.IsJson)
    (adapter : JobsAdapter) :
    adapter.rowToJob (adapter.insertedRecord job) = some job := by
  have rowIsJson : (insertedRow job).IsJson :=
    (JobsRow.Carries.insertedRow job).isJson isJson (by simp [insertedRow])
  rw [insertedRecord_eq_columns, rowIsJson.rowToJob_columns,
    isNew.rowToJob_insertedRow]

/-- Columns that carry the data of a job that is not done are read back. -/
theorem ColumnsCarry.reads
    {record : JobsRecord}
    {status : JobStatus}
    (carry : ColumnsCarry adapter job record)
    (isJob : record .id = .text job.id)
    (isJson : job.IsJson)
    (isNew : job.IsNew)
    (isStatus : hasStatus status.text record = some true)
    (notDone : status ≠ .done) :
    ∃ other, adapter.rowToJob record = some other ∧ other.SameWork job := by
  obtain ⟨row, rfl, carries⟩ := carry isJob
  have sameStatus := (hasStatus_columns adapter row status).mp isStatus
  have unfinished : row.status ≠ .done := by
    rw [sameStatus]
    exact notDone
  exact ⟨rowToJob row,
    (carries.isJson isJson unfinished).rowToJob_columns adapter,
    carries.sameWork isNew unfinished⟩

/-- A row that `peek` selects is a queued row of the table. -/
theorem JobsAdapter.of_mem_peekRows
    {records : List JobsRecord}
    {tenantId : Option String}
    {limit : Nat}
    {record : JobsRecord}
    (selected : record ∈ adapter.peekRows records tenantId limit) :
    record ∈ records ∧ hasStatus "queued" record = some true := by
  have scanned := (List.mem_insertionSort _).mp (List.mem_of_mem_take selected)
  have inTable := List.mem_filter.mp ((adapter.scan.mem_arrange ..).mp scanned)
  have met := of_decide_eq_true inTable.2
  refine ⟨inTable.1, ?_⟩
  split at met
  · exact ((both_eq_true _ _).mp met).1
  · exact met

/-- Where the id is not taken, no row has it. -/
theorem JobsAdapter.ne_of_not_isTaken
    {records : List JobsRecord}
    (fresh : JobsAdapter.isTaken records job = false)
    {record : JobsRecord}
    (member : record ∈ records) :
    record .id ≠ .text job.id := by
  intro isJob
  have untaken := List.any_eq_false.mp fresh record member
  simp [isJob] at untaken

/-- A new job is added to the table. -/
theorem JobsAdapter.enqueue_of_not_isTaken
    {records : List JobsRecord}
    (fresh : JobsAdapter.isTaken records job = false) :
    adapter.enqueue records job =
      (records ++ [adapter.insertedRecord job], .accepted) := by
  unfold JobsAdapter.enqueue
  rw [fresh]
  rfl

/-- What is selected without a limit that cuts is in what `peek` selects. -/
theorem JobsAdapter.mem_peekRows
    {records : List JobsRecord}
    {limit : Nat}
    {record : JobsRecord}
    (inTable : record ∈ records)
    (queued : hasStatus "queued" record = some true)
    (enough : records.length ≤ limit) :
    record ∈ adapter.peekRows records none limit := by
  unfold JobsAdapter.peekRows
  rw [List.take_of_length_le]
  · rw [List.mem_insertionSort, ScanOrder.mem_arrange]
    exact List.mem_filter.mpr ⟨inTable, decide_eq_true queued⟩
  · rw [List.length_insertionSort, ScanOrder.length_arrange]
    exact (List.length_filter_le _ _).trans enough

/-- What becomes of the table keeps what the new job's columns carry. -/
theorem columnsCarry_of_enqueued
    {database : JobsDatabase}
    {events : List JobsEvent}
    (fresh : JobsAdapter.isTaken database.jobs job = false)
    (keeps : ∀ call, .call call ∈ events → call.keepsJob job) :
    ∀ record ∈
      (adapter.after database (.call (.enqueue 0 job) :: events)).jobs,
      ColumnsCarry adapter job record := by
  refine columnsCarry_after (fun call member => ?_) fun record member isJob =>
    absurd isJob (JobsAdapter.ne_of_not_isTaken fresh member)
  rcases List.mem_cons.mp member with isFirst | later
  · cases isFirst
    exact fun _ => rfl
  · exact keeps call later

/-- A new job of JSON values makes the round trip through any adapter. -/
theorem roundTrips
    {database : JobsDatabase}
    (isNew : job.IsNew)
    (isJson : job.IsJson)
    (fresh : JobsAdapter.isTaken database.jobs job = false) :
    RoundTrips adapter database job := by
  have enqueued := adapter.enqueue_of_not_isTaken fresh
  have reads := isNew.rowToJob_insertedRecord isJson adapter
  refine ⟨by rw [enqueued], ?_, ?_, ?_, ?_⟩
  · intro tenantId limit record selected isJob
    rw [enqueued] at selected
    rcases List.mem_append.mp (JobsAdapter.of_mem_peekRows selected).1 with
      before | inserted
    · exact absurd isJob (JobsAdapter.ne_of_not_isTaken fresh before)
    · rw [List.mem_singleton.mp inserted]
      exact reads
  · intro limit enough
    rw [enqueued]
    refine List.mem_map.mpr ⟨adapter.insertedRecord job, ?_, reads⟩
    refine JobsAdapter.mem_peekRows
      (List.mem_append_right _ (List.mem_singleton_self _)) ?_ ?_
    · rw [insertedRecord_eq_columns]
      exact (hasStatus_columns adapter _ .queued).mpr rfl
    · rw [List.length_append]
      exact enough
  · intro events keeps tenantId limit record selected isJob
    obtain ⟨inTable, queued⟩ := JobsAdapter.of_mem_peekRows selected
    have isQueued :
        hasStatus JobStatus.queued.text record = some true := queued
    exact (columnsCarry_of_enqueued fresh keeps record inTable).reads isJob
      isJson isNew isQueued (by decide)
  · intro events keeps now req record claimed isJob
    obtain ⟨carry, leased⟩ :=
      (columnsCarry_claimRows now req
        (columnsCarry_of_enqueued fresh keeps)).2 record claimed
    have isLeased :
        hasStatus JobStatus.leased.text record = some true := by
      unfold hasStatus
      rw [leased]
      exact (SqlValue.equals_text _ _).mpr rfl
    exact carry.reads isJob isJson isNew isLeased (by decide)

end ReadBack

/--
A new job of JSON values makes the round trip through both adapters, whatever
`JSON.stringify` makes of other values and D1 of an `undefined`.
-/
theorem jobRows_roundTrip
    (exoticJson : JsExotic → Json)
    (binding : UndefinedBinding)
    (scan : ScanOrder JobsRecord)
    {database : JobsDatabase}
    {job : PersistedJob}
    (isNew : job.IsNew)
    (isJson : job.IsJson)
    (fresh : JobsAdapter.isTaken database.jobs job = false) :
    RoundTrips (.doStorage exoticJson scan) database job ∧
      RoundTrips (.d1 exoticJson binding scan) database job :=
  ⟨roundTrips isNew isJson fresh, roundTrips isNew isJson fresh⟩

/-- A new job whose optional fields are there and empty. -/
def PersistedJob.sparse : PersistedJob where
  id := "job"
  tenantId := ""
  fnHash := "0"
  fnSource := "() => 1"
  args := [.null, .string ""]
  context := some []
  workerOptions := some {}
  allowList := some []
  jobMeta := some []
  createdAt := 0
  deadlineEpochMs := 60000
  retry := { max := 3, backoff := .exponential, baseMs := 0 }
  retryCount := 0
  status := .queued
  cacheKeyStrategy := some .fresh
  idempotencyKey := some ""

/-- It makes the round trip. -/
theorem jobRows_roundTrip_sparse :
    RoundTrips (.doStorage (fun _ => .null) .asStored) {} .sparse ∧
      RoundTrips (.d1 (fun _ => .null) .rejects .asStored) {} .sparse := by
  refine jobRows_roundTrip _ _ _ ⟨rfl, rfl, rfl, rfl, rfl, rfl⟩ ⟨?_, ?_⟩ rfl
  · intro arg member
    rcases List.mem_pair.mp member with rfl | rfl
    · exact .null
    · exact .string ""
  · intro context isContext
    cases isContext
    exact fun _ none => absurd none List.not_mem_nil

/-- A queued job that has failed once already. -/
def PersistedJob.retried : PersistedJob :=
  { sparse with
    retryCount := 1
    error := some { name := "Error", message := "" } }

/-- Another job with the id and the key of the first. -/
def PersistedJob.repeated : PersistedJob :=
  { sparse with args := [], idempotencyKey := some "key" }

/--
The error of a queued job is not stored; and a job whose id and key are taken
is accepted, but what is read back is the job that was there.
-/
theorem not_roundTrips_retried :
    ¬ RoundTrips (.doStorage (fun _ => .null) .asStored) {} .retried ∧
      ¬ RoundTrips (.doStorage (fun _ => .null) .asStored)
        { jobs :=
            [(JobsAdapter.doStorage (fun _ => .null) .asStored).insertedRecord
              { PersistedJob.repeated with fnSource := "() => 2" }] }
        .repeated := by
  constructor
  · intro trips
    have read :
        ((JobsAdapter.doStorage (fun _ => .null) .asStored).rowToJob
            (JobsAdapter.insertedRecord (.doStorage (fun _ => .null) .asStored)
              .retried)).map (·.error.isSome) =
          some false := by
      decide +kernel
    rw [trips.peeked none 1 _ (List.mem_singleton_self _) rfl] at read
    exact absurd read (by decide)
  · intro trips
    have read :
        ((JobsAdapter.doStorage (fun _ => .null) .asStored).rowToJob
            (JobsAdapter.insertedRecord (.doStorage (fun _ => .null) .asStored)
              { PersistedJob.repeated with fnSource := "() => 2" })).map
            (·.fnSource) =
          some "() => 2" := by
      decide +kernel
    rw [trips.peeked none 1 _ (List.mem_singleton_self _) rfl] at read
    exact absurd read (by decide)

end CloudflareParallel
