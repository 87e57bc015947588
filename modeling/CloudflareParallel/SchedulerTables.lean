import CloudflareParallel.SchedulerInterchange
import CloudflareParallel.SchedulerRoundTrips

namespace CloudflareParallel

open KeyedTables JsonValues SqlRows JobsRecord

/-!
# The tables of the stores

The stores keep rows of fields, the statements work on rows of columns.  A call
does to the columns of the rows what it does to the rows, for both adapters, so
everything that is shown of the rows holds of the tables.
-/

namespace JobsAdapter

variable (adapter : JobsAdapter)

/-- The columns of some rows. -/
def table (rows : List JobsRow) : List JobsRecord :=
  rows.map (·.columns adapter)

theorem table_concat
    (rows : List JobsRow)
    (row : JobsRow) :
    adapter.table (rows ++ [row]) =
      adapter.table rows ++ [row.columns adapter] := by
  unfold table
  rw [List.map_append]
  rfl

/-- A condition selects the columns of the rows that meet its guard. -/
theorem select_table
    {condition : SqlCondition JobsColumn}
    {guard : JobsRow → Bool}
    (means :
      ∀ row : JobsRow,
        condition (row.columns adapter) = some true ↔ guard row = true)
    (rows : List JobsRow) :
    select condition (adapter.table rows) =
      adapter.table (rows.filter guard) := by
  unfold select table
  rw [List.filter_map]
  refine congrArg _ (List.filter_congr fun row _ => ?_)
  rw [Bool.eq_iff_iff, Function.comp_apply, decide_eq_true_iff]
  exact means row

/-- A table is sorted as its rows are. -/
theorem insertionSort_table
    {before : JobsRecord → JobsRecord → Prop}
    {rowBefore : JobsRow → JobsRow → Prop}
    [DecidableRel before]
    [DecidableRel rowBefore]
    (means :
      ∀ row other : JobsRow,
        before (row.columns adapter) (other.columns adapter) ↔
          rowBefore row other)
    (rows : List JobsRow) :
    (adapter.table rows).insertionSort before =
      adapter.table (rows.insertionSort rowBefore) :=
  (List.map_insertionSort rowBefore before _ rows fun row _ other _ =>
    (means row other).symm).symm

theorem createdBefore_columns (row other : JobsRow) :
    createdBefore (row.columns adapter) (other.columns adapter) ↔
      row.createdAt ≤ other.createdAt := by
  simp [createdBefore, JobsRow.columns]

theorem claimsBefore_columns (row other : JobsRow) :
    claimsBefore (row.columns adapter) (other.columns adapter) ↔
      JobStore.claimsBefore row other := by
  have text : row.status.text = other.status.text ↔
      row.status = other.status := by
    cases row.status <;> cases other.status <;> decide
  simp only [claimsBefore, createdBefore_columns, JobStore.claimsBefore]
  simp [JobsRow.columns, text]

/-- An arrangement of the columns is one of the rows. -/
theorem exists_rows_of_perm
    {records : List JobsRecord}
    {rows : List JobsRow}
    (perm : records.Perm (adapter.table rows)) :
    ∃ arranged : List JobsRow,
      arranged.Perm rows ∧ adapter.table arranged = records := by
  have columns :
      List.Forall₂ (fun record row => record = JobsRow.columns row adapter)
        (adapter.table rows) rows := by
    unfold table
    rw [List.forall₂_map_left_iff, List.forall₂_same]
    exact fun _ _ => rfl
  obtain ⟨arranged, matched, sameRows⟩ := List.perm_comp_forall₂ perm columns
  refine ⟨arranged, sameRows, ?_⟩
  symm
  rw [← List.forall₂_eq_eq_eq]
  unfold table
  exact List.forall₂_map_right_iff.mpr matched

/-- The order of the rows that a scan of their columns comes to. -/
noncomputable def rowScan : ScanOrder JobsRow where
  arrange scan rows :=
    (adapter.exists_rows_of_perm
      (adapter.scan.perm scan (adapter.table rows))).choose
  perm scan rows :=
    (adapter.exists_rows_of_perm
      (adapter.scan.perm scan (adapter.table rows))).choose_spec.1

/-- A scan of the columns is one of the rows. -/
theorem arrange_table
    (scan : JobScan)
    (rows : List JobsRow) :
    adapter.scan.arrange scan (adapter.table rows) =
      adapter.table (adapter.rowScan.arrange scan rows) :=
  (adapter.exists_rows_of_perm
    (adapter.scan.perm scan (adapter.table rows))).choose_spec.2.symm

/-- The candidates of a claim. -/
theorem claimCandidates_table
    (store : D1JobStore)
    (now : Int)
    (req : ClaimRequest) :
    adapter.claimCandidates (adapter.table store.jobs.rows) now req =
      adapter.table
        (D1JobStore.claimCandidates adapter.rowScan store now req) := by
  unfold claimCandidates D1JobStore.claimCandidates
  cases req.jobId.filter (· ≠ "") with
  | some jobId =>
      have means (row : JobsRow) :
          both (isJob (.text jobId) (row.columns adapter))
                (isClaimable now (row.columns adapter)) =
              some true ↔
            (row.id = jobId && row.isClaimable now) = true := by
        simp only [both_eq_true, isJob_columns, isClaimable_columns,
          Bool.and_eq_true, decide_eq_true_eq]
      dsimp only
      rw [adapter.select_table means]
      exact List.map_take.symm
  | none =>
      have means (row : JobsRow) := isClaimable_columns adapter row now
      dsimp only
      rw [adapter.select_table means, adapter.arrange_table,
        adapter.insertionSort_table adapter.claimsBefore_columns]
      exact List.map_take.symm

/-- An UPDATE of a table. -/
theorem run_table
    {adapter : JobsAdapter}
    {update : SqlUpdate JobsColumn}
    {guard : JobsRow → Bool}
    {change : JobsRow → JobsRow}
    (updates : UpdatesRows adapter update guard change)
    (keepsId : ∀ row, (change row).id = row.id)
    (store : D1JobStore) :
    update.run (adapter.table store.jobs.rows) =
      adapter.table (store.runUpdate guard change keepsId).1.jobs.rows :=
  updates.run_columns store.jobs.rows

/-- An UPDATE of a table returns nothing exactly if it changes no row. -/
theorem isEmpty_returning_table
    {adapter : JobsAdapter}
    {update : SqlUpdate JobsColumn}
    {guard : JobsRow → Bool}
    {change : JobsRow → JobsRow}
    (updates : UpdatesRows adapter update guard change)
    (keepsId : ∀ row, (change row).id = row.id)
    (store : D1JobStore) :
    (update.returning (adapter.table store.jobs.rows)).isEmpty =
      !decide (0 < (store.runUpdate guard change keepsId).2) := by
  unfold SqlUpdate.returning
  rw [adapter.select_table updates.condition, Bool.eq_iff_iff]
  unfold table D1JobStore.runUpdate
  rw [List.isEmpty_iff, List.map_eq_nil_iff, List.map_eq_nil_iff,
    Bool.not_eq_true', decide_eq_false_iff_not, List.countP_pos_iff]
  simp

end JobsAdapter

section Claims

variable (adapter : JobsAdapter)
variable (now : Int)
variable (req : ClaimRequest)

/-- The table and the reported rows of a claim are those of the store. -/
def ClaimsAlike
    (records : List JobsRecord × List JobsRecord)
    (progress : D1JobStore × List PersistedJob) : Prop :=
  records.1 = adapter.table progress.1.jobs.rows ∧
    ∃ claimed : List JobsRow,
      records.2 = adapter.table claimed ∧
        claimed.map rowToJob = progress.2

/-- The UPDATE of a claim for one candidate. -/
theorem claimRow_claimsAlike
    {records : List JobsRecord × List JobsRecord}
    {progress : D1JobStore × List PersistedJob}
    (alike : ClaimsAlike adapter records progress)
    (row : JobsRow) :
    ClaimsAlike adapter
      (JobsAdapter.claimRow now req records (row.columns adapter))
      (D1JobStore.claimRow now req progress row) := by
  obtain ⟨table, claimed, reported, jobs⟩ := alike
  have updates :=
    claimUpdate_updatesRows adapter req.workerId row.id
      (now + req.leaseMs) now
  have keepsId := D1JobStore.id_leaseFor req (now + req.leaseMs)
  have empty := JobsAdapter.isEmpty_returning_table updates keepsId progress.1
  have run := JobsAdapter.run_table updates keepsId progress.1
  rw [← table] at empty run
  have isId : row.columns adapter .id = .text row.id := rfl
  unfold JobsAdapter.claimRow D1JobStore.claimRow
  dsimp only
  rw [isId]
  by_cases changes :
      0 < (progress.1.runUpdate
        (fun other => decide (other.id = row.id) && other.isFree now)
        (·.lease req.workerId (now + req.leaseMs)) keepsId).2
  · rw [decide_eq_true changes] at empty
    have leased :
        SqlRow.set (row.columns adapter)
            (claimAssignments req.workerId (now + req.leaseMs)) =
          (row.lease req.workerId (now + req.leaseMs)).columns adapter :=
      updates.assignments row
    rw [if_pos changes, if_neg (by rw [empty]; decide)]
    refine ⟨run, claimed ++ [row.lease req.workerId (now + req.leaseMs)],
      ?_, ?_⟩
    · dsimp only
      rw [reported, leased, adapter.table_concat]
    · rw [List.map_append, jobs]
      rfl
  · rw [decide_eq_false changes] at empty
    have unchanged :
        (progress.1.runUpdate
            (fun other => decide (other.id = row.id) && other.isFree now)
            (·.lease req.workerId (now + req.leaseMs)) keepsId).1.jobs =
          progress.1.jobs := by
      refine progress.1.jobs.updateWhere_of_unmet _ keepsId ?_
      intro other member met
      exact changes (List.countP_pos_iff.mpr ⟨other, member, met⟩)
    rw [if_neg changes, if_pos (by rw [empty]; rfl)]
    refine ⟨?_, claimed, reported, jobs⟩
    rw [table, unchanged]

/-- A claim does to the table what it does to the rows. -/
theorem claimRows_claimsAlike (store : D1JobStore) :
    ClaimsAlike adapter
      (adapter.claimRows (adapter.table store.jobs.rows) now req)
      (D1JobStore.claim adapter.rowScan store now req) := by
  have folded
      (candidates : List JobsRow)
      (records : List JobsRecord × List JobsRecord)
      (progress : D1JobStore × List PersistedJob)
      (alike : ClaimsAlike adapter records progress) :
      ClaimsAlike adapter
        ((adapter.table candidates).foldl (JobsAdapter.claimRow now req)
          records)
        (candidates.foldl (D1JobStore.claimRow now req) progress) := by
    induction candidates generalizing records progress with
    | nil => exact alike
    | cons candidate rest inductionHypothesis =>
        exact inductionHypothesis _ _
          (claimRow_claimsAlike adapter now req alike candidate)
  unfold JobsAdapter.claimRows D1JobStore.claim
  rw [adapter.claimCandidates_table]
  exact folded _ _ _ ⟨rfl, [], rfl, rfl⟩

end Claims

/-! ## Calls -/

/-- The call of an event that is one. -/
def JobsEvent.call? : JobsEvent → Option JobStoreCall
  | .call invoked => some invoked
  | .restart => none

/-- A key or an id is taken in a table if it is in the rows. -/
theorem JobsAdapter.isTaken_table
    (adapter : JobsAdapter)
    (store : D1JobStore)
    (job : PersistedJob) :
    JobsAdapter.isTaken (adapter.table store.jobs.rows) job = true ↔
      job.id ∈ store.jobs.rows.map JobsRow.id ∨
        store.keyIsTaken job.idempotencyKey = true := by
  have idTaken (row : JobsRow) :
      (row.columns adapter .id).equals (.text job.id) = some true ↔
        row.id = job.id :=
    isJob_columns adapter row job.id
  unfold isTaken table
  rw [List.any_map, List.any_eq_true]
  have keyTaken (row : JobsRow) (key : String) :
      (row.columns adapter .idempotencyKey).equals (.text key) = some true ↔
        row.idempotencyKey = some key :=
    SqlValue.equals_ofOption_text row.idempotencyKey key
  simp only [Function.comp_apply, idTaken, Bool.or_eq_true,
    decide_eq_true_eq, List.mem_map]
  cases job.idempotencyKey with
  | none =>
      have noKey (row : JobsRow) :
          ¬ (row.columns adapter .idempotencyKey).equals
                (.ofOption .text none) =
              some true := by
        simp [SqlValue.ofOption, SqlValue.equals]
      simp only [noKey, or_false, D1JobStore.keyIsTaken, Bool.false_eq_true]
  | some key =>
      have isText : SqlValue.ofOption SqlValue.text (some key) = .text key :=
        rfl
      simp only [isText, keyTaken, D1JobStore.keyIsTaken, List.any_eq_true,
        decide_eq_true_eq, and_or_left, exists_or]

/-- `enqueue` does to the table what it does to the rows. -/
theorem enqueue_table
    (adapter : JobsAdapter)
    (store : D1JobStore)
    (job : PersistedJob) :
    adapter.enqueue (adapter.table store.jobs.rows) job =
      (adapter.table (store.enqueue job).1.jobs.rows,
        (store.enqueue job).2) := by
  have taken := adapter.isTaken_table store job
  unfold JobsAdapter.enqueue D1JobStore.enqueue
  dsimp only
  by_cases idTaken : job.id ∈ store.jobs.rows.map JobsRow.id
  · rw [if_pos (taken.mpr (.inl idTaken)), dif_pos idTaken]
    split <;> rfl
  · rw [dif_neg idTaken]
    by_cases keyTaken : store.keyIsTaken job.idempotencyKey = true
    · rw [if_pos (taken.mpr (.inr keyTaken)), if_pos keyTaken]
      split <;> rfl
    · rw [if_neg fun met => (taken.mp met).elim idTaken keyTaken,
        if_neg keyTaken, insertedRecord_eq_columns]
      exact Prod.ext (adapter.table_concat _ _).symm rfl

/-- `sweepExpired` does to the table what it does to the rows. -/
theorem sweepExpired_table
    (adapter : JobsAdapter)
    (table : KeyedTable JobsRow.id)
    (now : Int) :
    SqlRows.deleteWhere (sweepCondition now) (adapter.table table.rows) =
      adapter.table (table.deleteWhere (·.isSweepable now)).rows := by
  unfold SqlRows.deleteWhere JobsAdapter.table
  rw [List.filter_map]
  refine congrArg _ (List.filter_congr fun row _ => ?_)
  rw [Bool.eq_iff_iff, Function.comp_apply, decide_eq_true_iff,
    sweepCondition_columns, Bool.not_eq_true, Bool.not_eq_true']

/-- `ack` does to the table what it does to the rows of a D1 database. -/
theorem d1_ack_table
    (exoticJson : JsExotic → Json)
    (binding : UndefinedBinding)
    (scan : ScanOrder JobsRecord)
    (store : D1JobStore)
    (now : Int)
    (jobId leaseOwner : String)
    (result : JsValue)
    (resultExpiresMs : Int) :
    (JobsAdapter.d1 exoticJson binding scan).invoke
        ((JobsAdapter.d1 exoticJson binding scan).table store.jobs.rows)
        (.ack now jobId leaseOwner result resultExpiresMs) =
      (JobsAdapter.d1 exoticJson binding scan).table
        (store.ack binding jobId leaseOwner result
          resultExpiresMs).1.jobs.rows := by
  have updates (stored : Option JsValue) :=
    JobsAdapter.run_table
      (ackUpdate_updatesRows (.d1 exoticJson binding scan) stored resultExpiresMs
        jobId leaseOwner) (fun _ => rfl) store
  unfold JobsAdapter.invoke D1JobStore.ack
  dsimp only
  by_cases noText : result.stringifiesToUndefined = true
  · rw [if_pos noText, if_pos noText]
    cases binding with
    | rejects => rfl
    | bindsNull => exact updates none
  · rw [if_neg noText, if_neg noText]
    exact updates (some result)

/-- A call does to the table what it does to the rows of a D1 database. -/
theorem d1_invoke_table
    (exoticJson : JsExotic → Json)
    (binding : UndefinedBinding)
    (scan : ScanOrder JobsRecord)
    (store : D1JobStore)
    (call : JobStoreCall) :
    (JobsAdapter.d1 exoticJson binding scan).invoke
        ((JobsAdapter.d1 exoticJson binding scan).table store.jobs.rows)
        call =
      (JobsAdapter.d1 exoticJson binding scan).table
        (store.invoke
          { binding := binding
            scan := (JobsAdapter.d1 exoticJson binding scan).rowScan }
          call).1.jobs.rows := by
  cases call with
  | enqueue now job => exact congrArg Prod.fst (enqueue_table _ store job)
  | claim now req => exact (claimRows_claimsAlike _ now req store).1
  | ack now jobId leaseOwner result resultExpiresMs =>
      exact d1_ack_table exoticJson binding scan store now jobId leaseOwner result
        resultExpiresMs
  | fail now jobId leaseOwner error =>
      exact JobsAdapter.run_table
        (failUpdate_updatesRows _ error jobId leaseOwner) _ store
  | failQueued now jobId error =>
      exact JobsAdapter.run_table
        (failQueuedUpdate_updatesRows _ error jobId) _ store
  | cancel now jobId reason =>
      exact JobsAdapter.run_table (cancelUpdate_updatesRows _ jobId) _ store
  | sweepExpired now => exact sweepExpired_table _ store.jobs now
  | reclaimExpiredLeases now =>
      exact JobsAdapter.run_table (reclaimUpdate_updatesRows _ now) _ store
  | status | result | peek | listActiveByTenant => rfl

/-- A compare-and-set does to the table what it does to the rows. -/
theorem compareAndSet_table
    {adapter : JobsAdapter}
    {update : SqlUpdate JobsColumn}
    {jobId : String}
    {guard : JobsRow → Bool}
    {change : JobsRow → JobsRow}
    (updates :
      UpdatesRows adapter update (fun row => row.id = jobId && guard row)
        change)
    (keepsId : ∀ row, (change row).id = row.id)
    (event : JobsRow → JobEvent)
    (store : JobStore) :
    update.run (adapter.table store.jobs.rows) =
      adapter.table
        (store.compareAndSet jobId guard change keepsId
          event).1.jobs.rows := by
  rw [store.jobs_compareAndSet]
  exact updates.run_columns store.jobs.rows

/-- A call does to the table what it does to the rows of an object's store. -/
theorem doStorage_invoke_table
    (exoticJson : JsExotic → Json)
    (scan : ScanOrder JobsRecord)
    (store : JobStore)
    (sameScan :
      store.scan = (JobsAdapter.doStorage exoticJson scan).rowScan)
    (call : JobStoreCall) :
    (JobsAdapter.doStorage exoticJson scan).invoke
        ((JobsAdapter.doStorage exoticJson scan).table store.jobs.rows)
        call =
      (JobsAdapter.doStorage exoticJson scan).table
        (store.invoke call).1.jobs.rows := by
  cases call with
  | enqueue now job =>
      have enqueued :=
        enqueue_table (.doStorage exoticJson scan) (D1JobStore.copyOf store) job
      rw [D1JobStore.enqueue_copyOf store now job] at enqueued
      exact congrArg Prod.fst enqueued
  | claim now req =>
      have claimed :=
        claimRows_claimsAlike (.doStorage exoticJson scan) now req
          (D1JobStore.copyOf store)
      rw [← sameScan, D1JobStore.claim_copyOf] at claimed
      exact claimed.1
  | ack now jobId leaseOwner result resultExpiresMs =>
      have updates :=
        compareAndSet_table
          (ackUpdate_updatesRows (.doStorage exoticJson scan)
            (some (encodedResult result)) resultExpiresMs jobId leaseOwner)
          (fun _ => rfl)
          (fun _ => { ts := now, jobId := jobId, kind := .done }) store
      have bound :
          (if result.stringifiesToUndefined then
              none
            else
              some (result.json exoticJson)).getD .null =
            (encodedResult result).json exoticJson := by
        unfold encodedResult
        split
        · simp [JsValue.json]
        · rfl
      have sameUpdate :=
        congrArg
          (fun document =>
            (ackUpdate (.blob document) resultExpiresMs jobId
              leaseOwner).run
              ((JobsAdapter.doStorage exoticJson scan).table store.jobs.rows))
          bound
      exact sameUpdate.trans updates
  | fail now jobId leaseOwner error =>
      change _ =
        (JobsAdapter.doStorage exoticJson scan).table
          (store.fail now jobId leaseOwner error).1.jobs.rows
      rw [JobStore.fail_fst]
      exact compareAndSet_table
        (failUpdate_updatesRows _ error jobId leaseOwner) _ _ store
  | failQueued now jobId error =>
      exact compareAndSet_table
        (failQueuedUpdate_updatesRows _ error jobId) _ _ store
  | cancel now jobId reason =>
      exact compareAndSet_table (cancelUpdate_updatesRows _ jobId) _ _ store
  | sweepExpired now => exact sweepExpired_table _ store.jobs now
  | reclaimExpiredLeases now =>
      exact (reclaimUpdate_updatesRows _ now).run_columns store.jobs.rows
  | status | result | peek | listActiveByTenant => rfl

/-- Any calls, and restarts between them, leave the columns of the rows. -/
theorem doStorage_after_table
    (exoticJson : JsExotic → Json)
    (scan : ScanOrder JobsRecord)
    (events : List JobsEvent)
    (store : JobStore)
    (sameScan :
      store.scan = (JobsAdapter.doStorage exoticJson scan).rowScan)
    (schema : Option Int) :
    ((JobsAdapter.doStorage exoticJson scan).after
        { schema := schema
          jobs :=
            (JobsAdapter.doStorage exoticJson scan).table store.jobs.rows }
        events).jobs =
      (JobsAdapter.doStorage exoticJson scan).table
        (store.after (events.filterMap JobsEvent.call?)).jobs.rows := by
  induction events generalizing store schema with
  | nil => rfl
  | cons event rest inductionHypothesis =>
      cases event with
      | restart =>
          exact inductionHypothesis store sameScan
            ((JobsAdapter.doStorage exoticJson scan).initSchema schema)
      | call invoked =>
          have later :=
            inductionHypothesis (store.invoke invoked).1
              ((store.scan_invoke invoked).trans sameScan) schema
          rw [← doStorage_invoke_table exoticJson scan store sameScan] at later
          exact later

end CloudflareParallel
