import CloudflareParallel.SchedulerJobStore

namespace CloudflareParallel

open KeyedTables

/-!
# What the store operations do to the row of a job

One lemma for each operation of the job store: the row of any job afterwards,
in terms of its row before.
-/

namespace JobStore

@[simp]
theorem row?_emit
    (store : JobStore)
    (event : JobEvent)
    (jobId : String) :
    (store.emit event).row? jobId = store.row? jobId :=
  rfl

theorem row?_update
    (store : JobStore)
    (condition : JobsRow → Bool)
    (change : JobsRow → JobsRow)
    (keepsId : ∀ row, (change row).id = row.id)
    (jobId : String) :
    (store.update condition change keepsId).row? jobId =
      (store.row? jobId).map fun row =>
        if condition row then change row else row :=
  store.jobs.get?_updateWhere condition change keepsId jobId

/-- The row of a job has its id. -/
theorem id_of_row?
    {store : JobStore}
    {jobId : String}
    {row : JobsRow}
    (found : store.row? jobId = some row) :
    row.id = jobId :=
  KeyedTable.key_of_get? found

/-- A row of the table is the row of its job. -/
theorem row?_of_mem
    {store : JobStore}
    {row : JobsRow}
    (member : row ∈ store.jobs.rows) :
    store.row? row.id = some row :=
  KeyedTable.get?_of_mem member

/-- The row of a job is in the table. -/
theorem mem_of_row?
    {store : JobStore}
    {jobId : String}
    {row : JobsRow}
    (found : store.row? jobId = some row) :
    row ∈ store.jobs.rows :=
  (store.jobs.get?_eq_some_iff.mp found).1

/-- A compare-and-set is an update of the row of one job. -/
theorem row?_compareAndSet
    (store : JobStore)
    (jobId : String)
    (guard : JobsRow → Bool)
    (change : JobsRow → JobsRow)
    (keepsId : ∀ row, (change row).id = row.id)
    (event : JobsRow → JobEvent)
    (other : String) :
    (store.compareAndSet jobId guard change keepsId event).1.row? other =
      (store.row? other).map fun row =>
        if row.id = jobId && guard row then change row else row := by
  unfold compareAndSet
  split
  next unmet =>
    cases found : store.row? other with
    | none =>
        rfl
    | some row =>
        have refused : ¬ (row.id = jobId && guard row) := by
          intro met
          obtain ⟨rowId, guarded⟩ := Bool.and_eq_true_iff.mp met
          rw [← of_decide_eq_true rowId, id_of_row? found, found] at unmet
          simp [Option.filter, guarded] at unmet
        rw [Option.map_some, if_neg refused]
  next =>
    rw [row?_emit, row?_update]

/-- A guarded update of one job leaves the rows of the others. -/
theorem row?_of_map_of_ne
    {store next : JobStore}
    {jobId other : String}
    {guard : JobsRow → Bool}
    {change : JobsRow → JobsRow}
    (updated :
      next.row? other =
        (store.row? other).map fun row =>
          if row.id = jobId && guard row then change row else row)
    (different : other ≠ jobId) :
    next.row? other = store.row? other := by
  rw [updated]
  cases found : store.row? other with
  | none =>
      rfl
  | some row =>
      simp [id_of_row? found, different]

/-- The row that a compare-and-set reports. -/
theorem compareAndSet_snd
    (store : JobStore)
    (jobId : String)
    (guard : JobsRow → Bool)
    (change : JobsRow → JobsRow)
    (keepsId : ∀ row, (change row).id = row.id)
    (event : JobsRow → JobEvent) :
    (store.compareAndSet jobId guard change keepsId event).2 =
      ((store.row? jobId).filter guard).map change := by
  unfold compareAndSet
  split
  next unmet =>
    rw [unmet]
    rfl
  next row met =>
    rw [met]
    rfl

/-- A compare-and-set whose guard is not met does nothing. -/
theorem compareAndSet_of_unmet
    {store : JobStore}
    {jobId : String}
    {guard : JobsRow → Bool}
    {change : JobsRow → JobsRow}
    {keepsId : ∀ row, (change row).id = row.id}
    {event : JobsRow → JobEvent}
    (unmet : ∀ row, store.row? jobId = some row → guard row = false) :
    store.compareAndSet jobId guard change keepsId event = (store, none) := by
  have none : (store.row? jobId).filter guard = none := by
    rw [Option.filter_eq_none_iff]
    intro row found
    simp [unmet row found]
  unfold compareAndSet
  rw [none]

/-- A compare-and-set that reports no row has changed nothing. -/
theorem compareAndSet_fst_of_none
    {store : JobStore}
    {jobId : String}
    {guard : JobsRow → Bool}
    {change : JobsRow → JobsRow}
    {keepsId : ∀ row, (change row).id = row.id}
    {event : JobsRow → JobEvent}
    (refused :
      (store.compareAndSet jobId guard change keepsId event).2 = none) :
    (store.compareAndSet jobId guard change keepsId event).1 = store := by
  unfold compareAndSet at refused ⊢
  split
  · rfl
  next met =>
    rw [met] at refused
    cases refused

theorem row?_ack
    (store : JobStore)
    (now : Int)
    (jobId leaseOwner : String)
    (value : JsValue)
    (resultExpiresMs : Int)
    (other : String) :
    (store.ack now jobId leaseOwner value resultExpiresMs).1.row? other =
      (store.row? other).map fun row =>
        if row.id = jobId && row.isLeasedBy leaseOwner then
          row.acked value resultExpiresMs
        else
          row :=
  row?_compareAndSet ..

/-- The store that `fail` leaves is that of its compare-and-set. -/
theorem fail_fst
    (store : JobStore)
    (now : Int)
    (jobId leaseOwner : String)
    (error : ErrorRecord) :
    (store.fail now jobId leaseOwner error).1 =
      (store.compareAndSet jobId (·.isLeasedBy leaseOwner)
        (·.failedOnce error) (fun row => row.id_failedOnce _)
        fun row =>
          { ts := now
            jobId := jobId
            kind :=
              if row.status = .failed then .failed else .retrying }).1 := by
  unfold fail
  dsimp only
  split
  next refused =>
    exact (compareAndSet_fst_of_none refused).symm
  next =>
    rfl

theorem row?_fail
    (store : JobStore)
    (now : Int)
    (jobId leaseOwner : String)
    (error : ErrorRecord)
    (other : String) :
    (store.fail now jobId leaseOwner error).1.row? other =
      (store.row? other).map fun row =>
        if row.id = jobId && row.isLeasedBy leaseOwner then
          row.failedOnce error
        else
          row := by
  rw [fail_fst]
  exact row?_compareAndSet ..

theorem row?_failQueued
    (store : JobStore)
    (now : Int)
    (jobId : String)
    (error : ErrorRecord)
    (other : String) :
    (store.failQueued now jobId error).1.row? other =
      (store.row? other).map fun row =>
        if row.id = jobId && decide (row.status = .queued) then
          row.failedForGood error
        else
          row :=
  row?_compareAndSet ..

theorem row?_cancel
    (store : JobStore)
    (now : Int)
    (jobId : String)
    (reason : Option String)
    (other : String) :
    (store.cancel now jobId reason).1.row? other =
      (store.row? other).map fun row =>
        if row.id = jobId && row.status.isActive then
          row.cancelled
        else
          row :=
  row?_compareAndSet ..

theorem row?_reclaimExpiredLeases
    (store : JobStore)
    (now : Int)
    (jobId : String) :
    (store.reclaimExpiredLeases now).1.row? jobId =
      (store.row? jobId).map fun row =>
        if isReclaimable now row then row.released else row :=
  row?_update ..

theorem row?_sweepExpired
    (store : JobStore)
    (now : Int)
    (jobId : String) :
    (store.sweepExpired now).row? jobId =
      (store.row? jobId).filter fun row =>
        !(row.status = .done && row.resultExpiresMs.any (· < now)) :=
  store.jobs.get?_deleteWhere _ jobId

/-- An accepted `enqueue` leaves every row, and adds at most a queued one. -/
theorem row?_enqueue
    {store next : JobStore}
    {now : Int}
    {job : PersistedJob}
    (accepted : store.enqueue now job = .ok next)
    (jobId : String) :
    next.row? jobId = store.row? jobId ∨
      (jobId = job.id ∧ store.row? jobId = none ∧
        next.row? jobId = some (insertedRow job)) := by
  unfold enqueue at accepted
  split at accepted
  next taken =>
    split at accepted
    · cases accepted
      exact .inl rfl
    · cases accepted
  next fresh =>
    split at accepted
    · split at accepted
      · cases accepted
        exact .inl rfl
      · cases accepted
    · cases accepted
      rw [row?_emit, row?, KeyedTable.get?_insert]
      split
      next sameId =>
        refine .inr ⟨sameId.symm, ?_, rfl⟩
        rw [row?, KeyedTable.get?_eq_none_iff, ← sameId]
        exact fresh
      next =>
        exact .inl rfl

/-- Rows that a condition selects have different ids. -/
theorem nodup_filter
    (store : JobStore)
    (condition : JobsRow → Bool) :
    ((store.jobs.rows.filter condition).map JobsRow.id).Nodup :=
  (List.filter_sublist.map JobsRow.id).nodup store.jobs.unique

/-- The row of a candidate is the candidate, and it is claimable. -/
theorem claimable_of_candidate
    {store : JobStore}
    {now : Int}
    {req : ClaimRequest}
    {row : JobsRow}
    (candidate : row ∈ store.claimCandidates now req) :
    store.row? row.id = some row ∧ row.isClaimable now := by
  unfold claimCandidates at candidate
  split at candidate
  · have selected := List.mem_filter.mp (List.mem_of_mem_take candidate)
    exact ⟨row?_of_mem selected.1, (Bool.and_eq_true_iff.mp selected.2).2⟩
  · have scanned :=
      (List.mem_insertionSort _).mp (List.mem_of_mem_take candidate)
    have selected :=
      List.mem_filter.mp ((store.scan.mem_arrange ..).mp scanned)
    exact ⟨row?_of_mem selected.1, selected.2⟩

/-- A claim of at most one job has at most one candidate. -/
theorem length_claimCandidates
    {store : JobStore}
    {now : Int}
    {req : ClaimRequest}
    (single : req.max = 1) :
    (store.claimCandidates now req).length ≤ 1 := by
  unfold claimCandidates
  split
  · exact List.length_take_le _ _
  · rw [single]
    exact List.length_take_le _ _

/-- The UPDATE of `claim` leases the row of a free candidate. -/
theorem claimRow_of_free
    {progress : JobStore × List PersistedJob}
    {now : Int}
    {req : ClaimRequest}
    {row : JobsRow}
    (found : progress.1.row? row.id = some row)
    (free : row.isFree now) :
    claimRow now req progress row =
      ((progress.1.compareAndSet row.id (·.isFree now)
          (·.lease req.workerId (now + req.leaseMs))
          (fun other => other.id_lease _ _)
          fun _ => { ts := now, jobId := row.id, kind := .leased }).1,
        progress.2 ++
          [rowToJob (row.lease req.workerId (now + req.leaseMs))]) := by
  have updated :
      (progress.1.compareAndSet row.id (·.isFree now)
          (·.lease req.workerId (now + req.leaseMs))
          (fun other => other.id_lease _ _)
          fun _ => { ts := now, jobId := row.id, kind := .leased }).2 =
        some (row.lease req.workerId (now + req.leaseMs)) := by
    rw [compareAndSet_snd, found]
    simp [Option.filter, free]
  unfold claimRow
  dsimp only
  rw [updated]

/-- What a claim of at most one job does. -/
theorem claim_cases
    (store : JobStore)
    (now : Int)
    {req : ClaimRequest}
    (single : req.max = 1) :
    (store.claimCandidates now req = [] ∧
        store.claim now req = (store, [])) ∨
      ∃ row next,
        store.claimCandidates now req = [row] ∧
          store.claim now req =
            (next, [rowToJob (row.lease req.workerId (now + req.leaseMs))]) ∧
          ∀ jobId,
            next.row? jobId =
              if jobId = row.id then
                some (row.lease req.workerId (now + req.leaseMs))
              else
                store.row? jobId := by
  have short := @length_claimCandidates store now req single
  match candidates : store.claimCandidates now req with
  | [] =>
      exact .inl ⟨rfl, by rw [claim, candidates]; rfl⟩
  | [row] =>
      obtain ⟨found, claimable⟩ :=
        @claimable_of_candidate store now req row (by simp [candidates])
      have free : row.isFree now := (Bool.and_eq_true_iff.mp claimable).1
      have single :
          store.claim now req = claimRow now req (store, []) row := by
        rw [claim, candidates]
        rfl
      refine
        .inr ⟨row, _, rfl, single.trans (claimRow_of_free found free), ?_⟩
      intro jobId
      split
      next sameId =>
        rw [row?_compareAndSet, sameId, found]
        simp [free]
      next otherId =>
        exact row?_of_map_of_ne (row?_compareAndSet ..) otherId
  | _ :: _ :: _ =>
      rw [candidates] at short
      simp at short

/-- A job that `peek` lists comes from a queued row. -/
theorem queued_of_peek
    {store : JobStore}
    {tenantId : Option String}
    {limit : Nat}
    {job : PersistedJob}
    (listed : job ∈ store.peek tenantId limit) :
    ∃ row ∈ store.jobs.rows, row.status = .queued ∧ job = rowToJob row := by
  obtain ⟨row, member, rfl⟩ := List.mem_map.mp listed
  have scanned := (List.mem_insertionSort _).mp (List.mem_of_mem_take member)
  have selected := List.mem_filter.mp ((store.scan.mem_arrange ..).mp scanned)
  exact ⟨row, selected.1,
    of_decide_eq_true (Bool.and_eq_true_iff.mp selected.2).1, rfl⟩

/-! ## Statuses -/

/-- A change that leases no row and brings none back to life. -/
structure Retires (store next : JobStore) : Prop where
  leased :
    ∀ jobId row,
      next.row? jobId = some row →
      row.status = .leased →
      store.row? jobId = some row
  active :
    ∀ jobId row,
      next.row? jobId = some row →
      row.status.isActive →
      ∃ old, store.row? jobId = some old ∧ old.status.isActive

namespace Retires

theorem refl (store : JobStore) : store.Retires store where
  leased _ _ found _ := found
  active _ row found active := ⟨row, found, active⟩

/-- An update of active rows to something that is not leased. -/
theorem of_map
    {store next : JobStore}
    {condition : JobsRow → Bool}
    {change : JobsRow → JobsRow}
    (updated :
      ∀ jobId,
        next.row? jobId =
          (store.row? jobId).map fun row =>
            if condition row then change row else row)
    (wasActive : ∀ row, condition row → row.status.isActive)
    (notLeased : ∀ row, condition row → (change row).status ≠ .leased) :
    store.Retires next where
  leased jobId row found leased := by
    rw [updated, Option.map_eq_some_iff] at found
    obtain ⟨old, isOld, rfl⟩ := found
    split at leased
    next met =>
      exact absurd leased (notLeased old met)
    next unmet =>
      rw [if_neg unmet, isOld]
  active jobId row found active := by
    rw [updated, Option.map_eq_some_iff] at found
    obtain ⟨old, isOld, rfl⟩ := found
    refine ⟨old, isOld, ?_⟩
    split at active
    next met =>
      exact wasActive old met
    next =>
      exact active

theorem ack
    (store : JobStore)
    (now : Int)
    (jobId leaseOwner : String)
    (value : JsValue)
    (resultExpiresMs : Int) :
    store.Retires
      (store.ack now jobId leaseOwner value resultExpiresMs).1 := by
  refine of_map (row?_ack store now jobId leaseOwner value resultExpiresMs)
    ?_ fun _ _ => by simp [JobsRow.acked]
  intro row met
  simp only [JobsRow.isLeasedBy, Bool.and_eq_true, decide_eq_true_eq] at met
  rw [met.2.1]
  rfl

theorem fail
    (store : JobStore)
    (now : Int)
    (jobId leaseOwner : String)
    (error : ErrorRecord) :
    store.Retires (store.fail now jobId leaseOwner error).1 := by
  refine of_map (row?_fail store now jobId leaseOwner error) ?_ ?_
  · intro row met
    simp only [JobsRow.isLeasedBy, Bool.and_eq_true,
      decide_eq_true_eq] at met
    rw [met.2.1]
    rfl
  · intro row _
    unfold JobsRow.failedOnce
    split <;> simp

theorem failQueued
    (store : JobStore)
    (now : Int)
    (jobId : String)
    (error : ErrorRecord) :
    store.Retires (store.failQueued now jobId error).1 := by
  refine of_map (row?_failQueued store now jobId error) ?_ fun _ _ => by
    simp [JobsRow.failedForGood]
  intro row met
  simp only [Bool.and_eq_true, decide_eq_true_eq] at met
  rw [met.2]
  rfl

theorem cancel
    (store : JobStore)
    (now : Int)
    (jobId : String)
    (reason : Option String) :
    store.Retires (store.cancel now jobId reason).1 :=
  of_map (row?_cancel store now jobId reason)
    (fun _ met => (Bool.and_eq_true_iff.mp met).2) fun _ _ => by
      simp [JobsRow.cancelled]

theorem reclaimExpiredLeases
    (store : JobStore)
    (now : Int) :
    store.Retires (store.reclaimExpiredLeases now).1 := by
  refine of_map (row?_reclaimExpiredLeases store now) ?_ fun _ _ => by
    simp [JobsRow.released]
  intro row met
  simp only [isReclaimable, Bool.and_eq_true, decide_eq_true_eq] at met
  rw [met.1]
  rfl

theorem sweepExpired
    (store : JobStore)
    (now : Int) :
    store.Retires (store.sweepExpired now) := by
  have kept {jobId : String} {row : JobsRow}
      (found : (store.sweepExpired now).row? jobId = some row) :
      store.row? jobId = some row := by
    rw [row?_sweepExpired, Option.filter_eq_some_iff] at found
    exact found.1
  exact ⟨fun _ _ found _ => kept found, fun _ row found active =>
    ⟨row, kept found, active⟩⟩

end Retires

/-- A row that an operation on another job leaves has its status. -/
theorem status_of_row?
    {store next : JobStore}
    {jobId : String}
    (same : next.row? jobId = store.row? jobId) :
    next.status jobId = store.status jobId := by
  rw [status, status, same]

/-- A guarded update of one job leaves the status of the others. -/
theorem status_of_map
    {store next : JobStore}
    {jobId other : String}
    {guard : JobsRow → Bool}
    {change : JobsRow → JobsRow}
    (updated :
      next.row? other =
        (store.row? other).map fun row =>
          if row.id = jobId && guard row then change row else row)
    (different : other ≠ jobId) :
    next.status other = store.status other :=
  status_of_row? (row?_of_map_of_ne updated different)

/-- A guarded update of one job changes its status if the guard is met. -/
theorem status_of_map_self
    {store next : JobStore}
    {jobId : String}
    {guard : JobsRow → Bool}
    {change : JobsRow → JobsRow}
    (updated :
      next.row? jobId =
        (store.row? jobId).map fun row =>
          if row.id = jobId && guard row then change row else row) :
    (∃ row,
        store.row? jobId = some row ∧ guard row ∧
          next.status jobId = some (change row).status) ∨
      (next.status jobId = store.status jobId ∧
        ∀ row, store.row? jobId = some row → ¬ guard row) := by
  cases found : store.row? jobId with
  | none =>
      rw [found] at updated
      refine .inr ⟨?_, fun _ absent => by cases absent⟩
      rw [status, status, updated, found]
      rfl
  | some row =>
      rw [found, Option.map_some, id_of_row? found] at updated
      by_cases met : guard row
      · exact .inl ⟨row, rfl, met, by simp [status, updated, met]⟩
      · refine .inr ⟨by simp [status, updated, found, met], ?_⟩
        intro other same
        cases same
        exact met

/-- The leased rows of the store belong to one owner. -/
def OwnedBy
    (store : JobStore)
    (leaseOwner : String) : Prop :=
  ∀ jobId row,
    store.row? jobId = some row →
    row.status = .leased →
    row.leaseOwner = some leaseOwner

/-- A row that its owner may not change is not leased. -/
theorem OwnedBy.not_leased
    {store : JobStore}
    {jobId leaseOwner : String}
    (owned : store.OwnedBy leaseOwner)
    (refused :
      ∀ row,
        store.row? jobId = some row →
        ¬ row.isLeasedBy leaseOwner) :
    store.status jobId ≠ some .leased := by
  intro leased
  obtain ⟨row, found, isLeased⟩ := Option.map_eq_some_iff.mp leased
  apply refused row found
  simp [JobsRow.isLeasedBy, isLeased, owned jobId row found isLeased]

/-- After an `ack` by the owner the job is done or was not leased. -/
theorem status_ack
    {store : JobStore}
    {leaseOwner : String}
    (owned : store.OwnedBy leaseOwner)
    (now : Int)
    (jobId : String)
    (value : JsValue)
    (resultExpiresMs : Int) :
    let next := (store.ack now jobId leaseOwner value resultExpiresMs).1
    next.status jobId = some .done ∨
      (next.status jobId = store.status jobId ∧
        store.status jobId ≠ some .leased) := by
  rcases status_of_map_self (row?_ack store now jobId leaseOwner value
      resultExpiresMs jobId) with ⟨row, _, _, done⟩ | ⟨same, refused⟩
  · exact .inl done
  · exact .inr ⟨same, owned.not_leased refused⟩

/-- A `fail` by the owner of a lease reports the status of the changed row. -/
theorem fail_snd
    {store : JobStore}
    {jobId leaseOwner : String}
    {row : JobsRow}
    (found : store.row? jobId = some row)
    (leased : row.isLeasedBy leaseOwner)
    (now : Int)
    (error : ErrorRecord) :
    (store.fail now jobId leaseOwner error).2 =
      (row.failedOnce error).status := by
  unfold fail
  dsimp only
  rw [compareAndSet_snd, found]
  simp [Option.filter, leased]

/-- After a `fail` by the owner the job is in the reported state. -/
theorem status_fail
    {store : JobStore}
    {leaseOwner : String}
    (owned : store.OwnedBy leaseOwner)
    (now : Int)
    (jobId : String)
    (error : ErrorRecord) :
    let failed := store.fail now jobId leaseOwner error
    (store.status jobId = some .leased ∧
        failed.1.status jobId = some failed.2 ∧
          (failed.2 = .failed ∨ failed.2 = .queued)) ∨
      (failed.2 = .leased ∧
        failed.1.status jobId = store.status jobId ∧
          store.status jobId ≠ some .leased) := by
  dsimp only
  rcases status_of_map_self (row?_fail store now jobId leaseOwner error
      jobId) with ⟨row, found, met, changed⟩ | ⟨same, refused⟩
  · have reported :
        (store.fail now jobId leaseOwner error).2 =
          (row.failedOnce error).status :=
      fail_snd found met now error
    have wasLeased : row.status = .leased := by
      simpa using (Bool.and_eq_true_iff.mp met).1
    refine .inl ⟨?_, by rw [changed, reported], ?_⟩
    · rw [status, found, Option.map_some, wasLeased]
    rw [reported]
    unfold JobsRow.failedOnce
    split
    · exact .inl rfl
    · exact .inr rfl
  · have refusedAll : (store.row? jobId).filter (·.isLeasedBy leaseOwner) =
        none := by
      rw [Option.filter_eq_none_iff]
      intro row found
      exact refused row found
    refine .inr ⟨?_, same, owned.not_leased refused⟩
    unfold JobStore.fail
    dsimp only
    rw [compareAndSet_snd, refusedAll]
    rfl

/-- After `failQueued` the job is failed or was not queued. -/
theorem status_failQueued
    (store : JobStore)
    (now : Int)
    (jobId : String)
    (error : ErrorRecord) :
    let next := (store.failQueued now jobId error).1
    next.status jobId = some .failed ∨
      (next.status jobId = store.status jobId ∧
        store.status jobId ≠ some .queued) := by
  have outcome :=
    @status_of_map_self store (store.failQueued now jobId error).1 jobId
      (fun row => decide (row.status = .queued)) (·.failedForGood error)
      (row?_failQueued store now jobId error jobId)
  rcases outcome with ⟨row, _, _, failed⟩ | ⟨same, refused⟩
  · exact .inl failed
  · refine .inr ⟨same, fun queued => ?_⟩
    obtain ⟨row, found, isQueued⟩ := Option.map_eq_some_iff.mp queued
    exact refused row found (decide_eq_true isQueued)

/-- After `cancel` the job is cancelled, or nothing was changed. -/
theorem status_cancel
    (store : JobStore)
    (now : Int)
    (jobId : String)
    (reason : Option String) :
    let cancelled := store.cancel now jobId reason
    cancelled.1.status jobId = some .cancelled ∨
      (cancelled.2 = false ∧
        cancelled.1.status jobId = store.status jobId) := by
  rcases status_of_map_self (row?_cancel store now jobId reason jobId) with
    ⟨row, _, _, isCancelled⟩ | ⟨same, refused⟩
  · exact .inl isCancelled
  · refine .inr ⟨?_, same⟩
    have refusedAll :
        (store.row? jobId).filter (·.status.isActive) = none := by
      rw [Option.filter_eq_none_iff]
      intro row found
      exact refused row found
    simp only [cancel, compareAndSet_snd, refusedAll]
    rfl

end JobStore

end CloudflareParallel
