import CloudflareParallel.SchedulerStoreCalls

namespace CloudflareParallel

open KeyedTables

/-!
# The state machine of the job store

The states done, failed and cancelled are absorbing, the lease columns are
filled exactly as long as a row is leased, and no call lowers a retry count.
Each of these is read off the moves of a single row.
-/

/-- A lease has an owner and an expiry, and a queued row has neither. -/
structure JobsRow.LeaseColumns (row : JobsRow) : Prop where
  leased :
    row.status = .leased →
    row.leaseOwner.isSome ∧ row.leaseExpiresMs.isSome
  queued :
    row.status = .queued →
    row.leaseOwner = none ∧ row.leaseExpiresMs = none

/-- A row that can still fail has not used more retries than it may. -/
def JobsRow.WithinRetries (row : JobsRow) : Prop :=
  row.status.isActive → row.retryCount ≤ row.retryMax

namespace JobsRow.Move

variable {call : JobStoreCall}

/-- A row in a final state is not changed; it can only be swept. -/
theorem absorbing
    {row : JobsRow}
    {new : Option JobsRow}
    (moved : Move call (some row) new)
    (terminal : row.status.isTerminal) :
    new = some row ∨
      (new = none ∧
        ∃ now, call = .sweepExpired now ∧ row.isSweepable now) := by
  cases moved with
  | stay =>
      exact .inl rfl
  | lease free =>
      cases status : row.status <;>
        simp [status, JobStatus.isTerminal] at terminal <;>
        simp [status, JobsRow.isFree] at free
  | ack leased =>
      simp only [JobsRow.isLeasedBy, Bool.and_eq_true,
        decide_eq_true_eq] at leased
      rw [leased.1] at terminal
      cases terminal
  | fail leased =>
      simp only [JobsRow.isLeasedBy, Bool.and_eq_true,
        decide_eq_true_eq] at leased
      rw [leased.1] at terminal
      cases terminal
  | failQueued queued =>
      rw [queued] at terminal
      cases terminal
  | cancel active =>
      cases status : row.status <;>
        simp [status, JobStatus.isTerminal, JobStatus.isActive]
          at terminal active
  | reclaim reclaimable =>
      simp only [JobStore.isReclaimable, Bool.and_eq_true,
        decide_eq_true_eq] at reclaimable
      rw [reclaimable.1] at terminal
      cases terminal
  | sweep sweepable =>
      exact .inr ⟨rfl, _, rfl, sweepable⟩

/-- Only a sweep deletes a row, and the row is done and its result expired. -/
theorem deleted
    {row : JobsRow}
    (moved : Move call (some row) none) :
    ∃ now, call = .sweepExpired now ∧ row.isSweepable now := by
  cases moved with
  | sweep sweepable =>
      exact ⟨_, rfl, sweepable⟩

/-- A claim changes no row but one that was free. -/
theorem claimed
    {now : Int}
    {req : ClaimRequest}
    {old new : Option JobsRow}
    (moved : Move (.claim now req) old new) :
    new = old ∨
      ∃ row,
        old = some row ∧
          row.isFree now ∧
            new = some (row.lease req.workerId (now + req.leaseMs)) := by
  cases moved with
  | stay =>
      exact .inl rfl
  | lease free =>
      exact .inr ⟨_, rfl, free, rfl⟩

/-- An `ack` changes no row but the one that its owner has leased. -/
theorem acked
    {now : Int}
    {jobId leaseOwner : String}
    {result : JsValue}
    {resultExpiresMs : Int}
    {old new : Option JobsRow}
    (moved :
      Move (.ack now jobId leaseOwner result resultExpiresMs) old new) :
    new = old ∨
      ∃ row, old = some row ∧ row.id = jobId ∧ row.isLeasedBy leaseOwner := by
  cases moved with
  | stay =>
      exact .inl rfl
  | ack leased =>
      exact .inr ⟨_, rfl, rfl, leased⟩

/-- A `fail` changes no row but the one that its owner has leased. -/
theorem failed
    {now : Int}
    {jobId leaseOwner : String}
    {error : ErrorRecord}
    {old new : Option JobsRow}
    (moved : Move (.fail now jobId leaseOwner error) old new) :
    new = old ∨
      ∃ row, old = some row ∧ row.id = jobId ∧ row.isLeasedBy leaseOwner := by
  cases moved with
  | stay =>
      exact .inl rfl
  | fail leased =>
      exact .inr ⟨_, rfl, rfl, leased⟩

/-- Moves fill and clear the lease columns. -/
theorem leaseColumns
    {old : Option JobsRow}
    {new : JobsRow}
    (moved : Move call old (some new))
    (before : ∀ row ∈ old, row.LeaseColumns) :
    new.LeaseColumns := by
  cases moved with
  | stay =>
      exact before new rfl
  | insert =>
      refine { leased := ?_, queued := ?_ }
      · intro wrong
        cases wrong
      · intro _
        exact ⟨rfl, rfl⟩
  | lease =>
      refine { leased := ?_, queued := ?_ }
      · intro _
        exact ⟨rfl, rfl⟩
      · intro wrong
        cases wrong
  | ack =>
      refine { leased := ?_, queued := ?_ }
      · intro wrong
        cases wrong
      · intro wrong
        cases wrong
  | @fail _ _ row error =>
      refine { leased := ?_, queued := ?_ }
      · intro wrong
        have notLeased : (row.failedOnce error).status ≠ .leased := by
          unfold JobsRow.failedOnce
          split <;> simp
        exact absurd wrong notLeased
      · intro _
        exact ⟨rfl, rfl⟩
  | failQueued =>
      refine { leased := ?_, queued := ?_ }
      · intro wrong
        cases wrong
      · intro wrong
        cases wrong
  | cancel =>
      refine { leased := ?_, queued := ?_ }
      · intro wrong
        cases wrong
      · intro wrong
        cases wrong
  | reclaim =>
      refine { leased := ?_, queued := ?_ }
      · intro wrong
        cases wrong
      · intro _
        exact ⟨rfl, rfl⟩

/-- A row stays within its retries if it was inserted within them. -/
theorem withinRetries
    {old : Option JobsRow}
    {new : JobsRow}
    (moved : Move call old (some new))
    (fresh :
      ∀ now job,
        call = .enqueue now job →
        job.retryCount ≤ job.retry.max)
    (before : ∀ row ∈ old, row.WithinRetries) :
    new.WithinRetries := by
  intro active
  cases moved with
  | stay =>
      exact before new rfl active
  | insert =>
      exact fresh _ _ rfl
  | @lease _ _ row free =>
      have wasActive : row.status.isActive := by
        rcases Bool.or_eq_true_iff.mp free with queued | ranOut
        · rw [of_decide_eq_true queued]
          rfl
        · rw [of_decide_eq_true (Bool.and_eq_true_iff.mp ranOut).1]
          rfl
      exact before row rfl wasActive
  | ack =>
      cases active
  | @fail _ _ row =>
      unfold JobsRow.failedOnce at active
      dsimp only at active
      split at active
      next =>
        cases active
      next retriesLeft =>
        exact (Int.not_le.mp retriesLeft).le
  | failQueued =>
      cases active
  | cancel =>
      cases active
  | @reclaim _ row reclaimable =>
      have wasActive : row.status.isActive := by
        rw [of_decide_eq_true (Bool.and_eq_true_iff.mp reclaimable).1]
        rfl
      exact before row rfl wasActive

/-- No move lowers the retry count of a row within its retries. -/
theorem retryCount_le
    {row new : JobsRow}
    (moved : Move call (some row) (some new))
    (within : row.WithinRetries) :
    row.retryCount ≤ new.retryCount := by
  cases moved with
  | stay => exact le_rfl
  | lease => exact le_rfl
  | ack => exact le_rfl
  | fail => exact Int.le_of_lt (Int.lt_succ row.retryCount)
  | failQueued queued => exact within (by rw [queued]; rfl)
  | cancel => exact le_rfl
  | reclaim => exact le_rfl

end JobsRow.Move

/-- What the answer of a call says about the row of a job. -/
def JobStoreAnswer.Reports
    (answer : JobStoreAnswer)
    (jobId : String) : Prop :=
  match answer with
  | .accepted => True
  | .rejected => False
  | .jobs listed => jobId ∈ listed.map PersistedJob.id
  | .changed ok => ok
  | .next reported => reported ≠ .leased
  | .status _ => False
  | .result _ => False
  | .count rows => 0 < rows

namespace JobStore

/-- The compare-and-set of a call that answers `false` changed nothing. -/
theorem row?_of_refused
    {store : JobStore}
    {jobId other : String}
    {guard : JobsRow → Bool}
    {change : JobsRow → JobsRow}
    {keepsId : ∀ row, (change row).id = row.id}
    {event : JobsRow → JobEvent}
    (refused :
      ¬ (store.compareAndSet jobId guard change keepsId event).2.isSome) :
    (store.compareAndSet jobId guard change keepsId event).1.row? other =
      store.row? other := by
  rw [compareAndSet_fst_of_none (by simpa using refused)]

/-- A `fail` that reports a lost lease changed nothing. -/
theorem fail_of_leased
    {store : JobStore}
    {now : Int}
    {jobId leaseOwner : String}
    {error : ErrorRecord}
    (lost : (store.fail now jobId leaseOwner error).2 = .leased) :
    (store.fail now jobId leaseOwner error).1 = store := by
  unfold fail at lost ⊢
  dsimp only at lost ⊢
  split at lost
  next =>
    rfl
  next row updated =>
    rw [compareAndSet_snd] at updated
    obtain ⟨old, -, rfl⟩ := Option.map_eq_some_iff.mp updated
    unfold JobsRow.failedOnce at lost
    dsimp only at lost
    split at lost <;> cases lost

/-- A condition that no row of the table meets. -/
theorem unmet_of_countP
    {store : JobStore}
    {condition : JobsRow → Bool}
    (unmet : ¬ 0 < store.jobs.rows.countP condition)
    {jobId : String}
    {row : JobsRow}
    (found : store.row? jobId = some row) :
    condition row = false := by
  by_contra met
  apply unmet
  rw [List.countP_pos_iff]
  exact ⟨row, mem_of_row? found, by simpa using met⟩

/-- A row that the answer does not report is as it was. -/
theorem row?_invoke_of_not_reported
    {store : JobStore}
    {call : JobStoreCall}
    {jobId : String}
    (unreported : ¬ (store.invoke call).2.Reports jobId) :
    (store.invoke call).1.row? jobId = store.row? jobId := by
  cases call with
  | enqueue now job =>
      unfold invoke at unreported ⊢
      dsimp only at unreported ⊢
      split at unreported
      next =>
        exact absurd trivial unreported
      next =>
        rfl
  | claim now req =>
      exact row?_claim_of_not_reported unreported
  | ack now ackedId leaseOwner result resultExpiresMs =>
      exact row?_of_refused unreported
  | fail now failedId leaseOwner error =>
      have lost : (store.fail now failedId leaseOwner error).2 = .leased :=
        not_not.mp unreported
      change (store.fail now failedId leaseOwner error).1.row? jobId = _
      rw [fail_of_leased lost]
  | failQueued now failedId error =>
      exact row?_of_refused unreported
  | cancel now cancelledId reason =>
      exact row?_of_refused unreported
  | status _ =>
      rfl
  | result _ _ =>
      rfl
  | peek _ _ =>
      rfl
  | sweepExpired now =>
      change (store.sweepExpired now).row? jobId = _
      rw [row?_sweepExpired]
      cases found : store.row? jobId with
      | none =>
          rfl
      | some row =>
          have kept : row.isSweepable now = false :=
            @unmet_of_countP store (·.isSweepable now) unreported _ _ found
          unfold JobsRow.isSweepable at kept
          rw [Option.filter_some, kept]
          rfl
  | reclaimExpiredLeases now =>
      change (store.reclaimExpiredLeases now).1.row? jobId = _
      rw [row?_reclaimExpiredLeases]
      cases found : store.row? jobId with
      | none =>
          rfl
      | some row =>
          rw [Option.map_some, unmet_of_countP unreported found]
          rfl
  | listActiveByTenant _ =>
      rfl

/-- What no call may do to the rows of the store. -/
structure ObeysStateMachine
    (store : JobStore)
    (call : JobStoreCall) : Prop where
  /-- A row in a final state is never changed. -/
  absorbing :
    ∀ jobId row,
      store.row? jobId = some row →
      row.status.isTerminal →
      (store.invoke call).1.row? jobId = some row ∨
        (store.invoke call).1.row? jobId = none
  /-- The only rows ever deleted are done and their result has expired. -/
  deletes :
    ∀ jobId row,
      store.row? jobId = some row →
      (store.invoke call).1.row? jobId = none →
      ∃ now, call = .sweepExpired now ∧ row.isSweepable now
  /-- A claim leases only rows that were queued or whose lease had expired. -/
  claims :
    ∀ now req,
      call = .claim now req →
      ∀ jobId,
        (store.invoke call).1.row? jobId = store.row? jobId ∨
          ∃ row,
            store.row? jobId = some row ∧
              (row.status = .queued ∨
                (row.status = .leased ∧ row.leaseRanOut now))
  /-- An `ack` changes only a row that is leased by the named owner. -/
  acks :
    ∀ now ackedId leaseOwner result resultExpiresMs,
      call = .ack now ackedId leaseOwner result resultExpiresMs →
      ∀ jobId,
        (store.invoke call).1.row? jobId = store.row? jobId ∨
          (jobId = ackedId ∧
            ∃ row,
              store.row? jobId = some row ∧ row.isLeasedBy leaseOwner)
  /-- A `fail` changes only a row that is leased by the named owner. -/
  fails :
    ∀ now failedId leaseOwner error,
      call = .fail now failedId leaseOwner error →
      ∀ jobId,
        (store.invoke call).1.row? jobId = store.row? jobId ∨
          (jobId = failedId ∧
            ∃ row,
              store.row? jobId = some row ∧ row.isLeasedBy leaseOwner)
  /-- What a call does not report as changed is as it was. -/
  refuses :
    ∀ jobId,
      ¬ (store.invoke call).2.Reports jobId →
      (store.invoke call).1.row? jobId = store.row? jobId

/-- No call lowers the retry count of a row. -/
def KeepsRetryCounts
    (store : JobStore)
    (call : JobStoreCall) : Prop :=
  ∀ jobId row new,
    store.row? jobId = some row →
    (store.invoke call).1.row? jobId = some new →
    row.retryCount ≤ new.retryCount

/-- Every call obeys the state machine, in any store. -/
theorem obeysStateMachine
    (store : JobStore)
    (call : JobStoreCall) :
    store.ObeysStateMachine call where
  absorbing jobId row found terminal := by
    have moved := store.row?_invoke call jobId
    rw [found] at moved
    exact (moved.absorbing terminal).imp_right And.left
  deletes jobId row found gone := by
    have moved := store.row?_invoke call jobId
    rw [found, gone] at moved
    exact moved.deleted
  claims now req isClaim jobId := by
    subst isClaim
    refine (store.row?_invoke _ jobId).claimed.imp_right ?_
    rintro ⟨row, found, free, -⟩
    refine ⟨row, found, ?_⟩
    simpa [JobsRow.isFree] using free
  acks now ackedId leaseOwner result resultExpiresMs isAck jobId := by
    subst isAck
    refine (store.row?_invoke _ jobId).acked.imp_right ?_
    rintro ⟨row, found, isJob, leased⟩
    exact ⟨(id_of_row? found).symm.trans isJob, row, found, leased⟩
  fails now failedId leaseOwner error isFail jobId := by
    subst isFail
    refine (store.row?_invoke _ jobId).failed.imp_right ?_
    rintro ⟨row, found, isJob, leased⟩
    exact ⟨(id_of_row? found).symm.trans isJob, row, found, leased⟩
  refuses _ := row?_invoke_of_not_reported

/-- What every move keeps holds of every row that the calls have left. -/
theorem forall_rows_after
    {scan : ScanOrder JobsRow}
    {property : JobsRow → Prop}
    {calls : List JobStoreCall}
    (kept :
      ∀ call ∈ calls,
        ∀ (old : Option JobsRow) (new : JobsRow),
          JobsRow.Move call old (some new) →
          (∀ row ∈ old, property row) →
          property new) :
    ∀ row ∈ (JobStore.after { scan := scan } calls).jobs.rows, property row := by
  induction calls using List.reverseRecOn with
  | nil =>
      intro row member
      cases member
  | append_singleton calls call inductionHypothesis =>
      intro row member
      rw [after_append_singleton] at member
      have moved := (JobStore.after { scan := scan } calls).row?_invoke call row.id
      rw [row?_of_mem member] at moved
      have before :=
        inductionHypothesis fun earlier isEarlier =>
          kept earlier (List.mem_append_left _ isEarlier)
      exact kept call (by simp) _ _ moved fun old found =>
        before old (mem_of_row? found)

/-- Every row of a store that the calls have built fills its lease columns. -/
theorem leaseColumns_after
    (scan : ScanOrder JobsRow)
    (calls : List JobStoreCall) :
    ∀ row ∈ (JobStore.after { scan := scan } calls).jobs.rows,
      row.LeaseColumns :=
  forall_rows_after fun _ _ _ _ moved => moved.leaseColumns

/-- Every row stays within its retries if all are enqueued within them. -/
theorem withinRetries_after
    {scan : ScanOrder JobsRow}
    {calls : List JobStoreCall}
    (fresh :
      ∀ now job,
        .enqueue now job ∈ calls →
        job.retryCount = 0 ∧ 0 ≤ job.retry.max) :
    ∀ row ∈ (JobStore.after { scan := scan } calls).jobs.rows,
      row.WithinRetries := by
  refine forall_rows_after fun call isCall old new moved before => ?_
  refine moved.withinRetries (fun now job isEnqueue => ?_) before
  obtain ⟨isZero, nonnegative⟩ := fresh now job (isEnqueue ▸ isCall)
  rw [isZero]
  exact nonnegative

/--
After any sequence of calls, in whatever order the database scans, the lease
columns are right and every further call obeys the state machine; if all jobs
were enqueued with no retry used and a bound of at least zero, no call lowers a
retry count either.
-/
theorem jobStore_stateMachine
    (scan : ScanOrder JobsRow)
    (calls : List JobStoreCall) :
    (∀ row ∈ (JobStore.after { scan := scan } calls).jobs.rows,
        row.LeaseColumns) ∧
      (∀ call,
        (JobStore.after { scan := scan } calls).ObeysStateMachine call) ∧
        ((∀ now job,
            .enqueue now job ∈ calls →
            job.retryCount = 0 ∧ 0 ≤ job.retry.max) →
          ∀ call,
            (JobStore.after { scan := scan } calls).KeepsRetryCounts
              call) := by
  refine ⟨leaseColumns_after scan calls, obeysStateMachine _, ?_⟩
  intro fresh call jobId row new found changed
  have moved := (JobStore.after { scan := scan } calls).row?_invoke call jobId
  rw [found, changed] at moved
  exact moved.retryCount_le (withinRetries_after fresh row (mem_of_row? found))

end JobStore

end CloudflareParallel
