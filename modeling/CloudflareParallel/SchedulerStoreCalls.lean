import CloudflareParallel.SchedulerJobRows

namespace CloudflareParallel

open KeyedTables

/-!
# Calls of the job store

The methods of the `JobStore` interface as one type of calls and one type of
answers, and `DoStorageJobStore` as a function from a call to its answer.  What
a call does to the table is said once, row by row: every row makes at most one
move of its life cycle.
-/

/-- A call of a `JobStore` method, with its clock reading. -/
inductive JobStoreCall where
  | enqueue (now : Int) (job : PersistedJob)
  | claim (now : Int) (req : ClaimRequest)
  | ack
      (now : Int)
      (jobId leaseOwner : String)
      (result : JsValue)
      (resultExpiresMs : Int)
  | fail (now : Int) (jobId leaseOwner : String) (error : ErrorRecord)
  | failQueued (now : Int) (jobId : String) (error : ErrorRecord)
  | cancel (now : Int) (jobId : String) (reason : Option String)
  | status (jobId : String)
  | result (now : Int) (jobId : String)
  | peek (tenantId : Option String) (limit : Nat)
  | sweepExpired (now : Int)
  | reclaimExpiredLeases (now : Int)
  | listActiveByTenant (tenantId : String)

/-- What a call resolves to; the text of an error is left out. -/
inductive JobStoreAnswer where
  /-- `enqueue` resolves. -/
  | accepted
  /-- The call rejects. -/
  | rejected
  /-- `claim`, `peek` and `listActiveByTenant`. -/
  | jobs (jobs : List PersistedJob)
  /-- `ack`, `failQueued` and `cancel`. -/
  | changed (ok : Bool)
  /-- `fail`. -/
  | next (status : JobStatus)
  /-- `status`. -/
  | status (status : Option JobStatus)
  /-- `result`. -/
  | result (result : JobStore.JobResult)
  /-- `sweepExpired` and `reclaimExpiredLeases`. -/
  | count (rows : Nat)

/-- A done row whose result has expired. -/
def JobsRow.isSweepable
    (row : JobsRow)
    (now : Int) : Bool :=
  row.status = .done && row.resultExpiresMs.any (· < now)

/-- A row that can be claimed is queued or leased. -/
theorem JobsRow.isActive_of_isFree
    {row : JobsRow}
    {now : Int}
    (free : row.isFree now) :
    row.status.isActive := by
  simp only [JobsRow.isFree, Bool.or_eq_true, Bool.and_eq_true,
    decide_eq_true_eq] at free
  rcases free with queued | ⟨leased, -⟩
  · rw [queued]
    rfl
  · rw [leased]
    rfl

/-- A row that can be reclaimed is leased. -/
theorem JobsRow.isActive_of_isReclaimable
    {row : JobsRow}
    {now : Int}
    (reclaimable : JobStore.isReclaimable now row) :
    row.status.isActive := by
  have leased : row.status = .leased :=
    of_decide_eq_true (Bool.and_eq_true_iff.mp reclaimable).1
  rw [leased]
  rfl

/-- A row that its owner has leased is active. -/
theorem JobsRow.isActive_of_isLeasedBy
    {row : JobsRow}
    {leaseOwner : String}
    (leased : row.isLeasedBy leaseOwner) :
    row.status.isActive := by
  rw [of_decide_eq_true (Bool.and_eq_true_iff.mp leased).1]
  rfl

namespace JobStore

/-- One call of `DoStorageJobStore`. -/
def invoke
    (store : JobStore) :
    JobStoreCall → JobStore × JobStoreAnswer
  | .enqueue now job =>
      match store.enqueue now job with
      | .ok next => (next, .accepted)
      | .error _ => (store, .rejected)
  | .claim now req =>
      let claimed := store.claim now req
      (claimed.1, .jobs claimed.2)
  | .ack now jobId leaseOwner result resultExpiresMs =>
      let acked := store.ack now jobId leaseOwner result resultExpiresMs
      (acked.1, .changed acked.2)
  | .fail now jobId leaseOwner error =>
      let failed := store.fail now jobId leaseOwner error
      (failed.1, .next failed.2)
  | .failQueued now jobId error =>
      let failed := store.failQueued now jobId error
      (failed.1, .changed failed.2)
  | .cancel now jobId reason =>
      let cancelled := store.cancel now jobId reason
      (cancelled.1, .changed cancelled.2)
  | .status jobId => (store, .status (store.status jobId))
  | .result now jobId => (store, .result (store.result now jobId))
  | .peek tenantId limit => (store, .jobs (store.peek tenantId limit))
  | .sweepExpired now =>
      (store.sweepExpired now,
        .count (store.jobs.rows.countP (·.isSweepable now)))
  | .reclaimExpiredLeases now =>
      let reclaimed := store.reclaimExpiredLeases now
      (reclaimed.1, .count reclaimed.2)
  | .listActiveByTenant tenantId =>
      (store, .jobs (store.listActiveByTenant tenantId))

/-- A compare-and-set leaves the order of scans. -/
@[simp] theorem scan_compareAndSet
    (store : JobStore)
    (jobId : String)
    (guard : JobsRow → Bool)
    (change : JobsRow → JobsRow)
    (keepsId : ∀ row, (change row).id = row.id)
    (event : JobsRow → JobEvent) :
    (store.compareAndSet jobId guard change keepsId event).1.scan =
      store.scan := by
  unfold compareAndSet
  split <;> rfl

/-- A claim leaves the order of scans. -/
theorem scan_claim
    (store : JobStore)
    (now : Int)
    (req : ClaimRequest) :
    (store.claim now req).1.scan = store.scan := by
  have folded
      (candidates : List JobsRow)
      (progress : JobStore × List PersistedJob) :
      (candidates.foldl (claimRow now req) progress).1.scan =
        progress.1.scan := by
    induction candidates generalizing progress with
    | nil => rfl
    | cons candidate rest inductionHypothesis =>
        rw [List.foldl_cons, inductionHypothesis]
        unfold claimRow
        dsimp only
        split
        · rfl
        · exact scan_compareAndSet ..
  exact folded _ (store, [])

/-- A call leaves the order of scans, which is the database's. -/
theorem scan_invoke
    (store : JobStore)
    (call : JobStoreCall) :
    (store.invoke call).1.scan = store.scan := by
  cases call with
  | enqueue now job =>
      unfold invoke enqueue
      dsimp only
      split
      next accepted =>
        split at accepted
        · split at accepted <;> cases accepted
          rfl
        · split at accepted
          · split at accepted <;> cases accepted
            rfl
          · cases accepted
            rfl
      next => rfl
  | claim now req => exact store.scan_claim now req
  | fail now jobId leaseOwner error =>
      unfold invoke fail
      dsimp only
      split
      · rfl
      · exact scan_compareAndSet ..
  | ack | failQueued | cancel => exact scan_compareAndSet ..
  | status | result | peek | sweepExpired | listActiveByTenant => rfl
  | reclaimExpiredLeases => rfl

/-- The store after a sequence of calls. -/
def after
    (store : JobStore)
    (calls : List JobStoreCall) : JobStore :=
  calls.foldl (fun store call => (store.invoke call).1) store

theorem after_append_singleton
    (store : JobStore)
    (calls : List JobStoreCall)
    (call : JobStoreCall) :
    store.after (calls ++ [call]) = ((store.after calls).invoke call).1 := by
  simp [after]

/-! ## The claim, row by row -/

/-- The UPDATE of `claim` for one candidate changes no other row. -/
theorem row?_claimRow
    (now : Int)
    (req : ClaimRequest)
    (progress : JobStore × List PersistedJob)
    (row : JobsRow)
    (jobId : String) :
    (claimRow now req progress row).1.row? jobId =
      (progress.1.row? jobId).map fun other =>
        if other.id = row.id && other.isFree now then
          other.lease req.workerId (now + req.leaseMs)
        else
          other := by
  have updated :=
    row?_compareAndSet progress.1 row.id (·.isFree now)
      (·.lease req.workerId (now + req.leaseMs))
      (fun other => other.id_lease _ _)
      (fun _ => { ts := now, jobId := row.id, kind := .leased }) jobId
  unfold claimRow
  dsimp only
  split
  next refused =>
    rw [← updated, compareAndSet_fst_of_none refused]
  next =>
    exact updated

/-- A claim leaves a row or leases it, and it leases free rows only. -/
theorem row?_claim
    (store : JobStore)
    (now : Int)
    (req : ClaimRequest)
    (jobId : String) :
    (store.claim now req).1.row? jobId = store.row? jobId ∨
      ∃ row,
        store.row? jobId = some row ∧
          row.isFree now ∧
            (store.claim now req).1.row? jobId =
              some (row.lease req.workerId (now + req.leaseMs)) := by
  have folded
      (candidates : List JobsRow)
      (progress : JobStore × List PersistedJob)
      (before :
        progress.1.row? jobId = store.row? jobId ∨
          ∃ row,
            store.row? jobId = some row ∧
              row.isFree now ∧
                progress.1.row? jobId =
                  some (row.lease req.workerId (now + req.leaseMs))) :
      (candidates.foldl (claimRow now req) progress).1.row? jobId =
          store.row? jobId ∨
        ∃ row,
          store.row? jobId = some row ∧
            row.isFree now ∧
              (candidates.foldl (claimRow now req) progress).1.row? jobId =
                some (row.lease req.workerId (now + req.leaseMs)) := by
    induction candidates generalizing progress with
    | nil =>
        exact before
    | cons candidate rest inductionHypothesis =>
        apply inductionHypothesis
        rw [row?_claimRow]
        rcases before with same | ⟨row, found, free, leased⟩
        · rw [same]
          cases found : store.row? jobId with
          | none =>
              exact .inl rfl
          | some row =>
              rw [Option.map_some]
              split
              next met =>
                exact .inr ⟨row, rfl, (Bool.and_eq_true_iff.mp met).2, rfl⟩
              next =>
                exact .inl rfl
        · -- a second lease by the same claim would give the same row
          rw [leased, Option.map_some]
          refine .inr ⟨row, found, free, ?_⟩
          split <;> rfl
  exact folded _ (store, []) (.inl rfl)

/-- A row that a claim does not report is as it was. -/
theorem row?_claim_of_not_reported
    {store : JobStore}
    {now : Int}
    {req : ClaimRequest}
    {jobId : String}
    (unreported : jobId ∉ (store.claim now req).2.map PersistedJob.id) :
    (store.claim now req).1.row? jobId = store.row? jobId := by
  have folded
      (candidates : List JobsRow)
      (progress : JobStore × List PersistedJob) :
      (∀ job ∈ progress.2,
          job ∈ (candidates.foldl (claimRow now req) progress).2) ∧
        (jobId ∉
            (candidates.foldl (claimRow now req) progress).2.map
              PersistedJob.id →
          (candidates.foldl (claimRow now req) progress).1.row? jobId =
            progress.1.row? jobId) := by
    induction candidates generalizing progress with
    | nil =>
        exact ⟨fun _ => id, fun _ => rfl⟩
    | cons candidate rest inductionHypothesis =>
        obtain ⟨reported, unchanged⟩ :=
          inductionHypothesis (claimRow now req progress candidate)
        have claimed :
            claimRow now req progress candidate = progress ∨
              (claimRow now req progress candidate).2 =
                progress.2 ++
                  [rowToJob
                    (candidate.lease req.workerId (now + req.leaseMs))] := by
          unfold claimRow
          dsimp only
          split
          · exact .inl rfl
          · exact .inr rfl
        rw [List.foldl_cons]
        rcases claimed with same | appended
        · rw [same] at reported unchanged ⊢
          exact ⟨reported, unchanged⟩
        · constructor
          · intro job member
            exact reported job
              (by rw [appended]; exact List.mem_append_left _ member)
          · intro absent
            rw [unchanged absent, row?_claimRow]
            have isCandidate :
                rowToJob
                    (candidate.lease req.workerId (now + req.leaseMs)) ∈
                  (rest.foldl (claimRow now req)
                    (claimRow now req progress candidate)).2 :=
              reported _ (by rw [appended]; simp)
            have different : jobId ≠ candidate.id := fun same =>
              absent (List.mem_map.mpr ⟨_, isCandidate, same.symm⟩)
            cases found : progress.1.row? jobId with
            | none =>
                rfl
            | some row =>
                simp [id_of_row? found, different]
  exact (folded _ (store, [])).2 unreported

end JobStore

/-! ## The life cycle of a row -/

/-- What a call may do to the row of a job. -/
inductive JobsRow.Move :
    JobStoreCall → Option JobsRow → Option JobsRow → Prop where
  | stay {call : JobStoreCall} {row : Option JobsRow} :
      Move call row row
  | insert {now : Int} {job : PersistedJob} :
      Move (.enqueue now job) none (some (insertedRow job))
  | lease {now : Int} {req : ClaimRequest} {row : JobsRow} :
      row.isFree now →
      Move (.claim now req) (some row)
        (some (row.lease req.workerId (now + req.leaseMs)))
  | ack {now : Int} {leaseOwner : String} {row : JobsRow}
      {result : JsValue} {resultExpiresMs : Int} :
      row.isLeasedBy leaseOwner →
      Move (.ack now row.id leaseOwner result resultExpiresMs) (some row)
        (some (row.acked result resultExpiresMs))
  | fail {now : Int} {leaseOwner : String} {row : JobsRow}
      {error : ErrorRecord} :
      row.isLeasedBy leaseOwner →
      Move (.fail now row.id leaseOwner error) (some row)
        (some (row.failedOnce error))
  | failQueued {now : Int} {row : JobsRow} {error : ErrorRecord} :
      row.status = .queued →
      Move (.failQueued now row.id error) (some row)
        (some (row.failedForGood error))
  | cancel {now : Int} {row : JobsRow} {reason : Option String} :
      row.status.isActive →
      Move (.cancel now row.id reason) (some row) (some row.cancelled)
  | reclaim {now : Int} {row : JobsRow} :
      JobStore.isReclaimable now row →
      Move (.reclaimExpiredLeases now) (some row) (some row.released)
  | sweep {now : Int} {row : JobsRow} :
      row.isSweepable now →
      Move (.sweepExpired now) (some row) none

/-- A guarded update of the rows is a move where its guard is met. -/
theorem JobsRow.Move.of_map
    {call : JobStoreCall}
    {old new : Option JobsRow}
    {guard : JobsRow → Bool}
    {change : JobsRow → JobsRow}
    (updated :
      new = old.map fun row => if guard row then change row else row)
    (moves :
      ∀ row, guard row → JobsRow.Move call (some row) (some (change row))) :
    JobsRow.Move call old new := by
  subst updated
  cases old with
  | none =>
      exact .stay
  | some row =>
      rw [Option.map_some]
      split
      next met =>
        exact moves row met
      next =>
        exact .stay

/-- A guarded update of one job is a move of its row. -/
theorem JobsRow.Move.of_map_job
    {call : JobStoreCall}
    {old new : Option JobsRow}
    {jobId : String}
    {guard : JobsRow → Bool}
    {change : JobsRow → JobsRow}
    (updated :
      new =
        old.map fun row =>
          if row.id = jobId && guard row then change row else row)
    (moves :
      ∀ row,
        row.id = jobId →
        guard row →
        JobsRow.Move call (some row) (some (change row))) :
    JobsRow.Move call old new := by
  refine .of_map updated fun row met => ?_
  obtain ⟨isJob, guarded⟩ := Bool.and_eq_true_iff.mp met
  exact moves row (of_decide_eq_true isJob) guarded

namespace JobStore

/-- Every call makes every row do at most one move of its life cycle. -/
theorem row?_invoke
    (store : JobStore)
    (call : JobStoreCall)
    (jobId : String) :
    JobsRow.Move call (store.row? jobId)
      ((store.invoke call).1.row? jobId) := by
  cases call with
  | enqueue now job =>
      unfold invoke
      dsimp only
      split
      next accepted =>
        rcases row?_enqueue accepted jobId with same | ⟨_, absent, inserted⟩
        · rw [same]
          exact .stay
        · rw [absent, inserted]
          exact .insert
      next =>
        exact .stay
  | claim now req =>
      rcases row?_claim store now req jobId with
        same | ⟨row, found, free, leased⟩
      · have unchanged :
            (store.invoke (.claim now req)).1.row? jobId =
              store.row? jobId :=
          same
        rw [unchanged]
        exact .stay
      · have isLeased :
            (store.invoke (.claim now req)).1.row? jobId =
              some (row.lease req.workerId (now + req.leaseMs)) :=
          leased
        rw [found, isLeased]
        exact .lease free
  | ack now ackedId leaseOwner result resultExpiresMs =>
      refine .of_map_job (row?_ack ..) ?_
      rintro row rfl leased
      exact .ack leased
  | fail now failedId leaseOwner error =>
      refine .of_map_job (row?_fail ..) ?_
      rintro row rfl leased
      exact .fail leased
  | failQueued now failedId error =>
      refine @JobsRow.Move.of_map_job _ _ _ _
        (fun row => decide (row.status = .queued)) _ (row?_failQueued ..) ?_
      rintro row rfl queued
      exact .failQueued (of_decide_eq_true queued)
  | cancel now cancelledId reason =>
      refine .of_map_job (row?_cancel ..) ?_
      rintro row rfl active
      exact .cancel active
  | status _ =>
      exact .stay
  | result _ _ =>
      exact .stay
  | peek _ _ =>
      exact .stay
  | sweepExpired now =>
      have swept := row?_sweepExpired store now jobId
      change JobsRow.Move _ _ ((store.sweepExpired now).row? jobId)
      rw [swept]
      cases store.row? jobId with
      | none =>
          exact .stay
      | some row =>
          cases sweepable : row.isSweepable now with
          | false =>
              unfold JobsRow.isSweepable at sweepable
              rw [Option.filter_some, sweepable]
              exact .stay
          | true =>
              have isSweepable := sweepable
              unfold JobsRow.isSweepable at sweepable
              rw [Option.filter_some, sweepable]
              exact .sweep isSweepable
  | reclaimExpiredLeases now =>
      exact .of_map (row?_reclaimExpiredLeases ..) fun _ => .reclaim
  | listActiveByTenant _ =>
      exact .stay

end JobStore

end CloudflareParallel
