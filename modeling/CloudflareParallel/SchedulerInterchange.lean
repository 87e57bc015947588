import CloudflareParallel.SchedulerD1Store

namespace CloudflareParallel

open KeyedTables CallMachines

/-!
# When the two stores are interchangeable

One call keeps the two stores in step exactly if it is answered alike, so a
sequence of calls does exactly if all of its calls are.
-/

namespace JobStore

/-- A compare-and-set updates the row of one job where its guard is met. -/
theorem jobs_compareAndSet
    (store : JobStore)
    (jobId : String)
    (guard : JobsRow → Bool)
    (change : JobsRow → JobsRow)
    (keepsId : ∀ row, (change row).id = row.id)
    (event : JobsRow → JobEvent) :
    (store.compareAndSet jobId guard change keepsId event).1.jobs =
      store.jobs.updateWhere (fun other => other.id = jobId && guard other)
        change keepsId := by
  unfold compareAndSet
  split
  next unmet =>
    symm
    apply store.jobs.updateWhere_of_unmet
    intro row member met
    obtain ⟨isJob, guarded⟩ := Bool.and_eq_true_iff.mp met
    have found := row?_of_mem member
    rw [of_decide_eq_true isJob] at found
    rw [found] at unmet
    simp [Option.filter, guarded] at unmet
  next =>
    rfl

/-- A compare-and-set reports a row exactly if one meets its guard. -/
theorem isSome_compareAndSet
    (store : JobStore)
    (jobId : String)
    (guard : JobsRow → Bool)
    (change : JobsRow → JobsRow)
    (keepsId : ∀ row, (change row).id = row.id)
    (event : JobsRow → JobEvent) :
    (store.compareAndSet jobId guard change keepsId event).2.isSome =
      decide
        (0 <
          store.jobs.rows.countP fun other =>
            other.id = jobId && guard other) := by
  rw [Bool.eq_iff_iff, decide_eq_true_iff, compareAndSet_snd,
    Option.isSome_map, Option.isSome_iff_exists, List.countP_pos_iff]
  constructor
  · rintro ⟨row, isRow⟩
    obtain ⟨found, guarded⟩ := Option.filter_eq_some_iff.mp isRow
    exact ⟨row, mem_of_row? found, by simp [id_of_row? found, guarded]⟩
  · rintro ⟨row, member, met⟩
    obtain ⟨isJob, guarded⟩ := Bool.and_eq_true_iff.mp met
    refine ⟨row, Option.filter_eq_some_iff.mpr ⟨?_, guarded⟩⟩
    rw [← of_decide_eq_true isJob]
    exact row?_of_mem member

end JobStore

namespace D1JobStore

/-- A D1 database with the rows of a store. -/
def copyOf (store : JobStore) : D1JobStore where
  jobs := store.jobs

/-- A store with the same rows is a copy. -/
theorem eq_copyOf
    {store : JobStore}
    {other : D1JobStore}
    (sameRows : SameRows store other) :
    other = copyOf store := by
  cases other
  cases sameRows
  rfl

/-- An update of a copy is a compare-and-set of the original. -/
theorem runUpdate_copyOf
    (store : JobStore)
    (jobId : String)
    (guard : JobsRow → Bool)
    (change : JobsRow → JobsRow)
    (keepsId : ∀ row, (change row).id = row.id)
    (event : JobsRow → JobEvent) :
    let updated := store.compareAndSet jobId guard change keepsId event
    let r :=
      (copyOf store).runUpdate (fun row => row.id = jobId && guard row)
        change keepsId
    r.1 = copyOf updated.1 ∧ decide (0 < r.2) = updated.2.isSome := by
  dsimp only
  constructor
  · exact congrArg D1JobStore.mk (store.jobs_compareAndSet ..).symm
  · rw [store.isSome_compareAndSet]
    rfl

/-- The UPDATE of `claim` does the same in a copy. -/
theorem claimRow_copyOf
    (now : Int)
    (req : ClaimRequest)
    (progress : JobStore × List PersistedJob)
    (row : JobsRow) :
    claimRow now req (copyOf progress.1, progress.2) row =
      (copyOf (JobStore.claimRow now req progress row).1,
        (JobStore.claimRow now req progress row).2) := by
  obtain ⟨sameStore, sameOutcome⟩ :=
    runUpdate_copyOf progress.1 row.id (·.isFree now)
      (·.lease req.workerId (now + req.leaseMs))
      (fun other => other.id_lease _ _)
      fun _ => { ts := now, jobId := row.id, kind := .leased }
  unfold claimRow JobStore.claimRow
  dsimp only
  rw [sameStore]
  split
  next changed =>
    rw [decide_eq_true changed] at sameOutcome
    split
    next refused =>
      rw [refused] at sameOutcome
      cases sameOutcome
    next =>
      rfl
  next unchanged =>
    rw [decide_eq_false unchanged] at sameOutcome
    split
    next refused =>
      rw [JobStore.compareAndSet_fst_of_none refused]
    next met =>
      rw [met] at sameOutcome
      cases sameOutcome

/-- The UPDATEs of `claim` for some candidates do the same in a copy. -/
theorem foldl_claimRow_copyOf
    (now : Int)
    (req : ClaimRequest)
    (candidates : List JobsRow)
    (progress : JobStore × List PersistedJob) :
    candidates.foldl (claimRow now req) (copyOf progress.1, progress.2) =
      (copyOf (candidates.foldl (JobStore.claimRow now req) progress).1,
        (candidates.foldl (JobStore.claimRow now req) progress).2) := by
  induction candidates generalizing progress with
  | nil =>
      rfl
  | cons candidate rest inductionHypothesis =>
      rw [List.foldl_cons, List.foldl_cons, claimRow_copyOf]
      exact inductionHypothesis _

/-- `enqueue` does the same in a copy. -/
theorem enqueue_copyOf
    (store : JobStore)
    (now : Int)
    (job : PersistedJob) :
    (copyOf store).enqueue job =
      (copyOf (store.invoke (.enqueue now job)).1,
        (store.invoke (.enqueue now job)).2) := by
  have sameKeys :
      D1JobStore.keyIsTaken { jobs := store.jobs } job.idempotencyKey =
        store.keyIsTaken job.idempotencyKey :=
    rfl
  unfold enqueue JobStore.invoke JobStore.enqueue copyOf
  dsimp only
  rw [sameKeys]
  by_cases taken : job.id ∈ store.jobs.rows.map JobsRow.id
  · rw [dif_pos taken, dif_pos taken]
    split <;> rfl
  · rw [dif_neg taken, dif_neg taken]
    split
    · split <;> rfl
    · rfl

/-- `ack` of a bound value does the same in a copy. -/
theorem ackBound_copyOf
    (store : JobStore)
    (now : Int)
    (jobId leaseOwner : String)
    {result : JsValue}
    (hasText : result.stringifiesToUndefined = false)
    (resultExpiresMs : Int) :
    (copyOf store).ackBound jobId leaseOwner (some result) resultExpiresMs =
      (copyOf
          (store.ack now jobId leaseOwner result resultExpiresMs).1,
        .changed
          (store.ack now jobId leaseOwner result resultExpiresMs).2) := by
  have sameChange (row : JobsRow) :
      row.ackedAs (some result) resultExpiresMs =
        row.acked result resultExpiresMs := by
    simp [JobsRow.ackedAs, JobsRow.acked, encodedResult, hasText]
  obtain ⟨sameStore, sameOutcome⟩ :=
    runUpdate_copyOf store jobId (·.isLeasedBy leaseOwner)
      (·.acked result resultExpiresMs) (fun row => row.id_acked _ _)
      fun _ => { ts := now, jobId := jobId, kind := .done }
  unfold ackBound JobStore.ack
  simp only [sameChange]
  rw [sameStore, sameOutcome]

/-- `failQueued` does the same in a copy. -/
theorem failQueued_copyOf
    (store : JobStore)
    (now : Int)
    (jobId : String)
    (error : ErrorRecord) :
    (copyOf store).failQueued jobId error =
      (copyOf (store.failQueued now jobId error).1,
        (store.failQueued now jobId error).2) := by
  obtain ⟨sameStore, sameOutcome⟩ :=
    runUpdate_copyOf store jobId (fun row => row.status = .queued)
      (·.failedForGood error) (fun row => row.id_failedForGood _)
      fun _ => { ts := now, jobId := jobId, kind := .failed }
  unfold failQueued JobStore.failQueued
  dsimp only
  rw [sameStore, sameOutcome]

/-- `cancel` does the same in a copy. -/
theorem cancel_copyOf
    (store : JobStore)
    (now : Int)
    (jobId : String)
    (reason : Option String) :
    (copyOf store).cancel jobId =
      (copyOf (store.cancel now jobId reason).1,
        (store.cancel now jobId reason).2) := by
  obtain ⟨sameStore, sameOutcome⟩ :=
    runUpdate_copyOf store jobId (·.status.isActive)
      JobsRow.cancelled JobsRow.id_cancelled
      fun _ =>
        { ts := now, jobId := jobId, kind := .cancelled, detail := reason }
  unfold cancel JobStore.cancel
  dsimp only
  rw [sameStore, sameOutcome]

/-- The row that `fail` leaves is the same in a copy. -/
theorem fail_copyOf
    (store : JobStore)
    (now : Int)
    (jobId leaseOwner : String)
    (error : ErrorRecord) :
    (copyOf store).fail jobId leaseOwner error =
      (copyOf (store.fail now jobId leaseOwner error).1,
        ((store.fail now jobId leaseOwner error).1.status jobId).getD
          .leased) := by
  rw [JobStore.fail_fst]
  obtain ⟨sameStore, -⟩ :=
    runUpdate_copyOf store jobId (·.isLeasedBy leaseOwner)
      (·.failedOnce error) (fun row => row.id_failedOnce _)
      fun row =>
        { ts := now
          jobId := jobId
          kind := if row.status = .failed then .failed else .retrying }
  unfold fail
  dsimp only
  rw [sameStore]
  rfl

/-- `claim` does the same in a copy that is scanned in the same order. -/
theorem claim_copyOf
    (store : JobStore)
    (now : Int)
    (req : ClaimRequest) :
    claim store.scan (copyOf store) now req =
      (copyOf (store.claim now req).1, (store.claim now req).2) :=
  foldl_claimRow_copyOf now req _ (store, [])

end D1JobStore

/-! ## Selections -/

/-- Lists of rows with the same ids are equal, if the ids tell rows apart. -/
theorem eq_of_map_id_eq
    {table first second : List JobsRow}
    (unique : (table.map JobsRow.id).Nodup)
    (firstStored : ∀ row ∈ first, row ∈ table)
    (secondStored : ∀ row ∈ second, row ∈ table)
    (sameIds : first.map JobsRow.id = second.map JobsRow.id) :
    first = second := by
  induction first generalizing second with
  | nil =>
      exact (List.map_eq_nil_iff.mp sameIds.symm).symm
  | cons row rest inductionHypothesis =>
      cases second with
      | nil =>
          cases sameIds
      | cons other others =>
          rw [List.map_cons, List.map_cons, List.cons.injEq] at sameIds
          rw [List.forall_mem_cons] at firstStored secondStored
          have sameRow : row = other :=
            List.inj_on_of_nodup_map unique firstStored.1 secondStored.1
              sameIds.1
          rw [sameRow,
            inductionHypothesis firstStored.2 secondStored.2 sameIds.2]

/-- The rows in the first places of a sorted scan. -/
def ScanOrder.picks
    (order : ScanOrder JobsRow)
    (scan : JobScan)
    (found : List JobsRow)
    (before : JobsRow → JobsRow → Prop)
    [DecidableRel before]
    (limit : Nat) : List JobsRow :=
  ((order.arrange scan found).insertionSort before).take limit

/-- What is picked was found. -/
theorem ScanOrder.mem_of_mem_picks
    {order : ScanOrder JobsRow}
    {scan : JobScan}
    {found : List JobsRow}
    {before : JobsRow → JobsRow → Prop}
    [DecidableRel before]
    {limit : Nat}
    {row : JobsRow}
    (picked : row ∈ order.picks scan found before limit) :
    row ∈ found :=
  (order.mem_arrange ..).mp
    ((List.mem_insertionSort _).mp (List.mem_of_mem_take picked))

/-- Orders agree if they pick the same rows. -/
theorem ScanOrder.agree_iff
    {first second : ScanOrder JobsRow}
    {scan : JobScan}
    {found : List JobsRow}
    {before : JobsRow → JobsRow → Prop}
    [DecidableRel before]
    {limit : Nat}
    (unique : (found.map JobsRow.id).Nodup) :
    first.Agree second scan found before limit ↔
      first.picks scan found before limit =
        second.picks scan found before limit :=
  ⟨eq_of_map_id_eq unique (fun _ => mem_of_mem_picks)
      (fun _ => mem_of_mem_picks),
    congrArg (List.map JobsRow.id)⟩

/-- Orders agree if the jobs that they pick are the same. -/
theorem ScanOrder.agree_iff_jobs
    {first second : ScanOrder JobsRow}
    {scan : JobScan}
    {found : List JobsRow}
    {before : JobsRow → JobsRow → Prop}
    [DecidableRel before]
    {limit : Nat}
    (unique : (found.map JobsRow.id).Nodup) :
    first.Agree second scan found before limit ↔
      (first.picks scan found before limit).map rowToJob =
        (second.picks scan found before limit).map rowToJob := by
  have ids (rows : List JobsRow) :
      (rows.map rowToJob).map PersistedJob.id = rows.map JobsRow.id := by
    rw [List.map_map]
    rfl
  constructor
  · intro agree
    rw [(agree_iff unique).mp agree]
  · intro sameJobs
    have sameIds := congrArg (List.map PersistedJob.id) sameJobs
    rw [ids, ids] at sameIds
    exact sameIds

/-- Free candidates of different ids are all leased. -/
theorem JobStore.foldl_claimRow
    {now : Int}
    {req : ClaimRequest}
    {candidates : List JobsRow}
    (distinct : (candidates.map JobsRow.id).Nodup)
    (progress : JobStore × List PersistedJob)
    (free :
      ∀ row ∈ candidates,
        progress.1.row? row.id = some row ∧ row.isFree now) :
    (candidates.foldl (claimRow now req) progress).2 =
      progress.2 ++
        candidates.map fun row =>
          rowToJob (row.lease req.workerId (now + req.leaseMs)) := by
  induction candidates generalizing progress with
  | nil =>
      exact (List.append_nil _).symm
  | cons candidate rest inductionHypothesis =>
      rw [List.map_cons, List.nodup_cons] at distinct
      rw [List.forall_mem_cons] at free
      rw [List.foldl_cons, claimRow_of_free free.1.1 free.1.2,
        inductionHypothesis distinct.2, List.map_cons, List.append_assoc]
      · rfl
      · intro row member
        have otherId : row.id ≠ candidate.id := by
          intro same
          exact distinct.1 (same ▸ List.mem_map_of_mem member)
        obtain ⟨found, isFree⟩ := free.2 row member
        exact
          ⟨(row?_of_map_of_ne (row?_compareAndSet ..) otherId).trans found,
            isFree⟩

/-- A claim reports the rows that its scan picks. -/
theorem JobStore.ids_foldl_picks
    (store : JobStore)
    (order : ScanOrder JobsRow)
    (now : Int)
    (req : ClaimRequest) :
    ((order.picks .claim
          (store.jobs.rows.filter fun row => row.isClaimable now)
          claimsBefore req.max).foldl (claimRow now req) (store, [])).2.map
        PersistedJob.id =
      (order.picks .claim
        (store.jobs.rows.filter fun row => row.isClaimable now)
        claimsBefore req.max).map JobsRow.id := by
  rw [foldl_claimRow, List.nil_append, List.map_map]
  · rfl
  · refine ((List.take_sublist ..).map _).nodup ?_
    have sorted :=
      (List.perm_insertionSort claimsBefore _).trans
        (order.perm .claim
          (store.jobs.rows.filter fun row => row.isClaimable now))
    exact ((sorted.map _).nodup_iff).mpr (store.nodup_filter _)
  · intro row picked
    have found := List.mem_filter.mp (ScanOrder.mem_of_mem_picks picked)
    exact ⟨row?_of_mem found.1, (Bool.and_eq_true_iff.mp found.2).1⟩

/-- An `ack` that stores NULL agrees with the original if it changes no row. -/
theorem ackBound_none_sameRows_iff
    (store : JobStore)
    (now : Int)
    (jobId leaseOwner : String)
    (result : JsValue)
    (resultExpiresMs : Int) :
    SameRows (store.ack now jobId leaseOwner result resultExpiresMs).1
        ((D1JobStore.copyOf store).ackBound jobId leaseOwner none
          resultExpiresMs).1 ↔
      ∀ row ∈ store.row? jobId, ¬ row.isLeasedBy leaseOwner := by
  have storedRow (other : String) :=
    store.row?_ack now jobId leaseOwner result resultExpiresMs other
  constructor
  · intro sameRows row found leased
    have stored := storedRow jobId
    have copied :
        (((D1JobStore.copyOf store).ackBound jobId leaseOwner none
            resultExpiresMs).1.jobs.get? jobId) =
          (store.row? jobId).map fun row =>
            if row.id = jobId && row.isLeasedBy leaseOwner then
              row.ackedAs none resultExpiresMs
            else
              row :=
      store.jobs.get?_updateWhere
        (fun row => row.id = jobId && row.isLeasedBy leaseOwner)
        (·.ackedAs none resultExpiresMs) (fun _ => rfl) jobId
    rw [sameRows] at copied
    have both := stored.symm.trans copied
    rw [found] at both
    simp [JobStore.id_of_row? found, leased, JobsRow.acked, JobsRow.ackedAs]
      at both
  · intro unleased
    have unmet :
        ∀ row ∈ store.jobs.rows,
          ¬ (row.id = jobId && row.isLeasedBy leaseOwner) := by
      intro row member met
      obtain ⟨isJob, leased⟩ := Bool.and_eq_true_iff.mp met
      refine unleased row ?_ leased
      rw [← of_decide_eq_true isJob]
      exact JobStore.row?_of_mem member
    have kept :
        (store.ack now jobId leaseOwner result resultExpiresMs).1.jobs =
          store.jobs :=
      (store.jobs_compareAndSet ..).trans
        (store.jobs.updateWhere_of_unmet _ _ unmet)
    exact
      (store.jobs.updateWhere_of_unmet (·.ackedAs none resultExpiresMs)
        (fun _ => rfl) unmet).trans kept.symm

/-- A `fail` is answered alike exactly for an unknown or a leased job. -/
theorem fail_answer_iff
    (store : JobStore)
    (now : Int)
    (jobId leaseOwner : String)
    (error : ErrorRecord) :
    (store.fail now jobId leaseOwner error).2 =
        ((store.fail now jobId leaseOwner error).1.status jobId).getD
          .leased ↔
      store.status jobId = none ∨ store.status jobId = some .leased := by
  rcases JobStore.status_of_map_self
      (store.row?_fail now jobId leaseOwner error jobId) with
    ⟨row, found, leased, changed⟩ | ⟨same, refused⟩
  · have isLeased : row.status = .leased := by
      simpa using (Bool.and_eq_true_iff.mp leased).1
    have reported :
        (store.fail now jobId leaseOwner error).2 =
          (row.failedOnce error).status := by
      unfold JobStore.fail
      dsimp only
      rw [JobStore.compareAndSet_snd, found]
      simp [Option.filter, leased]
    rw [reported, changed]
    simp [JobStore.status, found, isLeased]
  · have lost : (store.fail now jobId leaseOwner error).2 = .leased := by
      have unmet :
          (store.row? jobId).filter (·.isLeasedBy leaseOwner) = none := by
        rw [Option.filter_eq_none_iff]
        exact refused
      unfold JobStore.fail
      dsimp only
      rw [JobStore.compareAndSet_snd, unmet]
      rfl
    rw [lost, same]
    cases store.status jobId with
    | none => simp
    | some status => cases status <;> simp

/-- What the copy does as the original keeps the two in step. -/
theorem same_of_eq_copyOf
    {outcome : JobStore × JobStoreAnswer}
    {copied : D1JobStore × JobStoreAnswer}
    (equal : copied = (D1JobStore.copyOf outcome.1, outcome.2)) :
    outcome.2.Same copied.2 ∧ SameRows outcome.1 copied.1 := by
  rw [equal]
  exact ⟨rfl, rfl⟩

/-- An `ack` keeps the stores in step exactly if it is answered alike. -/
theorem ack_sameRows_iff
    (database : D1Database)
    (store : JobStore)
    (now : Int)
    (jobId leaseOwner : String)
    (result : JsValue)
    (resultExpiresMs : Int) :
    let call := JobStoreCall.ack now jobId leaseOwner result resultExpiresMs
    let copied := (D1JobStore.copyOf store).invoke database call
    ((store.invoke call).2.Same copied.2 ∧
        SameRows (store.invoke call).1 copied.1) ↔
      call.AnswersAlike database store := by
  unfold JobStoreCall.AnswersAlike D1JobStore.invoke D1JobStore.ack
  dsimp only
  cases text : result.stringifiesToUndefined with
  | false =>
      rw [if_neg (by simp)]
      refine iff_of_true (same_of_eq_copyOf ?_) (by simp)
      exact D1JobStore.ackBound_copyOf store now jobId leaseOwner text
        resultExpiresMs
  | true =>
      rw [if_pos rfl]
      cases database.binding with
      | rejects =>
          constructor
          · rintro ⟨wrong, -⟩
            cases wrong
          · intro alike
            cases (alike rfl).1
      | bindsNull =>
          have rows :=
            ackBound_none_sameRows_iff store now jobId leaseOwner result
              resultExpiresMs
          constructor
          · rintro ⟨-, sameRows⟩ -
            exact ⟨rfl, rows.mp sameRows⟩
          · intro alike
            have unleased := (alike rfl).2
            have sameAnswer :
                (store.ack now jobId leaseOwner result resultExpiresMs).2 =
                  decide
                    (0 <
                      store.jobs.rows.countP fun row =>
                        row.id = jobId && row.isLeasedBy leaseOwner) :=
              store.isSome_compareAndSet ..
            exact ⟨congrArg JobStoreAnswer.changed sameAnswer,
              rows.mpr unleased⟩

/-- A claim of any job keeps the stores in step if they pick the same jobs. -/
theorem claim_sameRows_iff
    (database : D1Database)
    (store : JobStore)
    (now : Int)
    (req : ClaimRequest) :
    let call := JobStoreCall.claim now req
    let copied := (D1JobStore.copyOf store).invoke database call
    ((store.invoke call).2.Same copied.2 ∧
        SameRows (store.invoke call).1 copied.1) ↔
      call.AnswersAlike database store := by
  -- Both claims lease their candidates one by one.
  have copied :
      (D1JobStore.copyOf store).claim database.scan now req =
        (D1JobStore.copyOf
            ((D1JobStore.claimCandidates database.scan
              (D1JobStore.copyOf store) now req).foldl
                (JobStore.claimRow now req) (store, [])).1,
          ((D1JobStore.claimCandidates database.scan
              (D1JobStore.copyOf store) now req).foldl
                (JobStore.claimRow now req) (store, [])).2) :=
    D1JobStore.foldl_claimRow_copyOf now req _ (store, [])
  unfold D1JobStore.invoke JobStoreCall.AnswersAlike
  dsimp only
  rw [copied]
  cases single : req.jobId.filter (· ≠ "") with
  | some jobId =>
      have sameCandidates :
          D1JobStore.claimCandidates database.scan (D1JobStore.copyOf store)
              now req =
            store.claimCandidates now req := by
        unfold D1JobStore.claimCandidates JobStore.claimCandidates
        rw [single]
        rfl
      rw [sameCandidates]
      refine iff_of_true (same_of_eq_copyOf rfl) fun none_ => ?_
      cases none_
  | none =>
      have candidates :
          store.claimCandidates now req =
            store.scan.picks .claim
              (store.jobs.rows.filter fun row => row.isClaimable now)
              JobStore.claimsBefore req.max := by
        unfold JobStore.claimCandidates
        rw [single]
        rfl
      have others :
          D1JobStore.claimCandidates database.scan (D1JobStore.copyOf store)
              now req =
            database.scan.picks .claim
              (store.jobs.rows.filter fun row => row.isClaimable now)
              JobStore.claimsBefore req.max := by
        unfold D1JobStore.claimCandidates
        rw [single]
        rfl
      have unique := store.nodup_filter fun row => row.isClaimable now
      rw [others]
      constructor
      · rintro ⟨sameAnswer, -⟩ -
        have sameJobs := JobStoreAnswer.jobs.inj sameAnswer
        rw [JobStore.claim, candidates] at sameJobs
        have sameIds := congrArg (List.map PersistedJob.id) sameJobs
        rw [JobStore.ids_foldl_picks, JobStore.ids_foldl_picks] at sameIds
        exact sameIds
      · intro agree
        have samePicks := (ScanOrder.agree_iff unique).mp (agree rfl)
        rw [← samePicks, ← candidates]
        exact same_of_eq_copyOf rfl

/-- One call keeps the stores in step exactly if it is answered alike. -/
theorem invoke_sameRows_iff
    (database : D1Database)
    (store : JobStore)
    (other : D1JobStore)
    (call : JobStoreCall)
    (related : SameRows store other) :
    ((store.invoke call).2.Same (other.invoke database call).2 ∧
        SameRows (store.invoke call).1 (other.invoke database call).1) ↔
      call.AnswersAlike database store := by
  rw [D1JobStore.eq_copyOf related]
  cases call with
  | enqueue now job =>
      exact iff_of_true
        (same_of_eq_copyOf (D1JobStore.enqueue_copyOf store now job)) trivial
  | claim now req =>
      exact claim_sameRows_iff database store now req
  | ack now jobId leaseOwner result resultExpiresMs =>
      exact ack_sameRows_iff database store now jobId leaseOwner result
        resultExpiresMs
  | fail now jobId leaseOwner error =>
      have answers := fail_answer_iff store now jobId leaseOwner error
      unfold D1JobStore.invoke
      dsimp only
      rw [D1JobStore.fail_copyOf store now]
      constructor
      · rintro ⟨sameAnswer, -⟩
        exact answers.mp (JobStoreAnswer.next.inj sameAnswer)
      · intro condition
        exact ⟨congrArg JobStoreAnswer.next (answers.mpr condition), rfl⟩
  | failQueued now jobId error =>
      refine iff_of_true (same_of_eq_copyOf ?_) trivial
      unfold D1JobStore.invoke
      dsimp only
      rw [D1JobStore.failQueued_copyOf store now]
      rfl
  | cancel now jobId reason =>
      refine iff_of_true (same_of_eq_copyOf ?_) trivial
      unfold D1JobStore.invoke
      dsimp only
      rw [D1JobStore.cancel_copyOf store now jobId reason]
      rfl
  | status jobId =>
      exact ⟨fun _ => trivial, fun _ => ⟨rfl, rfl⟩⟩
  | result now jobId =>
      refine ⟨fun _ => trivial, fun _ => ⟨?_, rfl⟩⟩
      have sameRow :
          (D1JobStore.copyOf store).row? jobId = store.row? jobId :=
        rfl
      unfold JobStoreAnswer.Same JobStore.invoke D1JobStore.invoke
        JobStore.result D1JobStore.result
      dsimp only
      rw [sameRow]
      cases store.row? jobId <;> rfl
  | peek tenantId limit =>
      have unique :=
        store.nodup_filter fun row =>
          row.status = .queued &&
            (tenantId.filter (· ≠ "")).all (row.tenantId = ·)
      refine Iff.trans ?_ (ScanOrder.agree_iff_jobs unique).symm
      exact
        ⟨fun same => JobStoreAnswer.jobs.inj same.1,
          fun sameJobs => ⟨congrArg JobStoreAnswer.jobs sameJobs, rfl⟩⟩
  | sweepExpired now =>
      exact ⟨fun _ => trivial, fun _ => ⟨rfl, rfl⟩⟩
  | reclaimExpiredLeases now =>
      exact ⟨fun _ => trivial, fun _ => ⟨rfl, rfl⟩⟩
  | listActiveByTenant tenantId =>
      have unique :=
        store.nodup_filter fun row =>
          row.tenantId = tenantId && row.status.isActive
      have whole (order : ScanOrder JobsRow) :
          order.picks .listActiveByTenant
              (store.jobs.rows.filter fun row =>
                row.tenantId = tenantId && row.status.isActive)
              (fun row other => row.createdAt ≤ other.createdAt)
              store.jobs.rows.length =
            JobStore.byCreation
              (order.arrange .listActiveByTenant
                (store.jobs.rows.filter fun row =>
                  row.tenantId = tenantId && row.status.isActive)) := by
        refine List.take_of_length_le ?_
        rw [List.length_insertionSort, ScanOrder.length_arrange]
        exact List.length_filter_le _ _
      refine Iff.trans ?_ (ScanOrder.agree_iff_jobs unique).symm
      rw [whole, whole]
      exact
        ⟨fun same => JobStoreAnswer.jobs.inj same.1,
          fun sameJobs => ⟨congrArg JobStoreAnswer.jobs sameJobs, rfl⟩⟩

instance
    (database : D1Database)
    (store : JobStore)
    (call : JobStoreCall) : Decidable (call.AnswersAlike database store) := by
  unfold JobStoreCall.AnswersAlike ScanOrder.Agree
  split <;> infer_instance

/-- Both stores start without rows. -/
theorem sameRows_empty (scan : ScanOrder JobsRow) :
    SameRows { scan := scan } {} :=
  rfl

/-- From the same rows, the stores stay in step exactly as far as the calls are
answered alike. -/
theorem inStep_iff_answersAlike
    (database : D1Database)
    {store : JobStore}
    {other : D1JobStore}
    (start : SameRows store other)
    (calls : List JobStoreCall) :
    InStep JobStore.invoke (D1JobStore.invoke database) JobStoreAnswer.Same
        SameRows store other calls ↔
      Along JobStore.invoke (fun store call => call.AnswersAlike database store)
        store calls :=
  inStep_iff_along
    (fun store other call => invoke_sameRows_iff database store other call)
    start calls

/-- A job's lease runs out, is reclaimed, and its owner reports a failure. -/
def lateFailure (job : PersistedJob) : List JobStoreCall :=
  [ .enqueue 0 job,
    .claim 1 { workerId := "worker", max := 1, leaseMs := 10 },
    .reclaimExpiredLeases 20,
    .fail 21 job.id "worker" { name := "Error", message := "late" } ]

/-- A job with a deadline and one retry. -/
def PersistedJob.retryable : PersistedJob where
  id := "job"
  tenantId := "tenant"
  fnHash := "0"
  fnSource := "() => 1"
  args := []
  createdAt := 0
  deadlineEpochMs := 1000
  retry := { max := 3, backoff := .constant, baseMs := 200 }
  retryCount := 0
  status := .queued

end CloudflareParallel
