import CloudflareParallel.JsNumerics
import CloudflareParallel.SchedulerBackoff
import CloudflareParallel.SchedulerRetryCount

namespace CloudflareParallel

open KeyedTables LabelledRuns

/-!
# The curve of the backoff

The delay is computed from the snapshot of the job that its execution was
started with, so it follows the declared policy only where that snapshot counts
the failures so far.  A history counts them, and keeps the declared policies.
-/

/-! ## The delay -/

/-- The smallest power of two that is too large for a double. -/
def DOUBLE_OVERFLOW : Nat :=
  2 ^ 1024

namespace JsDouble

/-- `Math.pow(base, exponent)` of a base of one or two. -/
def powOf
    (base : Nat)
    (exponent : Nat) : JsDouble :=
  if base = 1 ∨ exponent < 1024 then
    .finite ((base ^ exponent : Nat) : Rat)
  else
    .infinite false

/--
`left * right`, of a whole number and a power of two: the product is exact, or
too large for a double.
-/
def times : JsDouble → JsDouble → JsDouble
  | .finite left, .finite right =>
      if left * right ≤ -DOUBLE_OVERFLOW then .infinite true
      else if DOUBLE_OVERFLOW ≤ left * right then .infinite false
      else .finite (left * right)
  | .finite left, .infinite negative =>
      if left = 0 then .nan
      else .infinite (negative != decide (left < 0))
  | .infinite negative, .finite right =>
      if right = 0 then .nan
      else .infinite (negative != decide (right < 0))
  | .infinite left, .infinite right => .infinite (left != right)
  | .nan, _ => .nan
  | _, .nan => .nan

/-- `Math.min(left, right)`. -/
def minimum : JsDouble → JsDouble → JsDouble
  | .nan, _ => .nan
  | _, .nan => .nan
  | left, right => if left.lessThan right then left else right

end JsDouble

/-- `delayMs` of `#runOne`. -/
def chosenDelay (job : PersistedJob) : JsDouble :=
  let base := JsDouble.finite job.retry.baseMs
  let factor :=
    JsDouble.powOf (if job.retry.backoff = .exponential then 2 else 1)
      job.retryCount.toNat
  (base.times factor).minimum (.finite RETRY_MAX_DELAY_MS)

/-- The declared curve: the delay after the failure with this number. -/
def RetryPolicy.curve
    (policy : RetryPolicy)
    (failure : Nat) : Int :=
  let delay :=
    match policy.backoff with
    | .exponential => policy.baseMs * 2 ^ failure
    | .linear => policy.baseMs * (failure + 1)
    | .constant => policy.baseMs
  min delay RETRY_MAX_DELAY_MS

/-- The factor that the code computes. -/
def RetryPolicy.factor
    (policy : RetryPolicy)
    (failure : Nat) : Nat :=
  (if policy.backoff = .exponential then 2 else 1) ^ failure

/--
A product that is not positive stays a number: the factor is not infinite, and
the product is not below all doubles.
-/
def RetryPolicy.StaysFinite
    (policy : RetryPolicy)
    (failure : Nat) : Prop :=
  0 < policy.baseMs ∨
    ((policy.backoff = .exponential → failure < 1024) ∧
      -(DOUBLE_OVERFLOW : Int) < policy.baseMs * policy.factor failure)

/-- The code has no linear curve; it agrees where a multiple does not matter. -/
def RetryPolicy.LinearIsFlat
    (policy : RetryPolicy)
    (failure : Nat) : Prop :=
  policy.backoff = .linear →
    failure = 0 ∨ policy.baseMs = 0 ∨ RETRY_MAX_DELAY_MS ≤ policy.baseMs

/-! ## The history -/

/-- The stored failures of each job since its row appeared, and its policy. -/
structure FailureHistory where
  failures : String → Nat := fun _ => 0
  declared : String → Option RetryPolicy := fun _ => none

namespace JobStore

/-- The job of which a call stores a failure. -/
def failedBy?
    (store : JobStore) :
    JobStoreCall → Option String
  | .fail now jobId leaseOwner error =>
      if (store.fail now jobId leaseOwner error).2 = .leased then
        none
      else
        some jobId
  | _ => none

/-- What a call adds to the history; an id without a row starts afresh. -/
def recordCall
    (store : JobStore)
    (call : JobStoreCall)
    (history : FailureHistory) : FailureHistory where
  failures jobId :=
    (if (store.row? jobId).isSome then history.failures jobId else 0) +
      (decide (store.failedBy? call = some jobId)).toNat
  declared jobId :=
    if (store.row? jobId).isSome then
      history.declared jobId
    else
      match call with
      | .enqueue _ job => if job.id = jobId then some job.retry else none
      | _ => none

/-- What a sequence of calls adds to the history. -/
def recordCalls
    (store : JobStore)
    (history : FailureHistory) :
    List JobStoreCall → FailureHistory
  | [] => history
  | call :: calls =>
      recordCalls (store.invoke call).1 (store.recordCall call history) calls

end JobStore

/-- What a step adds to the history. -/
def CfpSchedulerDO.recordFailures
    (self : CfpSchedulerDO)
    (state : SchedulerState)
    (event : SchedulerEvent)
    (history : FailureHistory) : FailureHistory :=
  state.store.recordCalls history (self.storeCalls state event)

/--
The delay that is chosen for a failure which a step stores as queued is that of
the declared curve for the failures stored before it.
-/
def FollowsCurve
    (scheduler : CfpSchedulerDO)
    (current : SchedulerState × FailureHistory)
    (event : SchedulerEvent) : Prop :=
  ∀ failed ∈ scheduler.requeued? current.1 event,
    ∃ policy ∈ current.2.declared failed.1.id,
      chosenDelay failed.1 =
        .finite (policy.curve (current.2.failures failed.1.id))

/-! ## What the code computes -/

theorem RETRY_MAX_DELAY_MS_le :
    RETRY_MAX_DELAY_MS ≤ (DOUBLE_OVERFLOW : Int) := by
  have power (exponent : Nat) (large : 16 ≤ exponent) :
      60000 ≤ 2 ^ exponent :=
    le_trans (by decide) (Nat.pow_le_pow_right Nat.two_pos large)
  have large : 60000 ≤ DOUBLE_OVERFLOW := power 1024 (by decide)
  unfold RETRY_MAX_DELAY_MS
  exact_mod_cast large

/-- A product of whole numbers, capped. -/
theorem JsDouble.minimum_times
    (base : Int)
    (factor : Nat)
    (inside : -(DOUBLE_OVERFLOW : Int) < base * factor) :
    ((JsDouble.finite base).times (.finite factor)).minimum
        (.finite RETRY_MAX_DELAY_MS) =
      .finite (min (base * factor) RETRY_MAX_DELAY_MS : Int) := by
  have notBelow : ¬ (base : Rat) * factor ≤ -(DOUBLE_OVERFLOW : Rat) := by
    intro below
    have belowInt : base * (factor : Int) ≤ -(DOUBLE_OVERFLOW : Int) := by
      exact_mod_cast below
    exact absurd belowInt (not_le_of_gt inside)
  unfold times
  dsimp only
  rw [if_neg notBelow]
  split
  next above =>
    have aboveInt : (DOUBLE_OVERFLOW : Int) ≤ base * factor := by
      exact_mod_cast above
    have capped : RETRY_MAX_DELAY_MS ≤ base * factor :=
      le_trans RETRY_MAX_DELAY_MS_le aboveInt
    rw [min_eq_right capped]
    rfl
  next =>
    unfold minimum lessThan
    dsimp only
    by_cases below : base * (factor : Int) < RETRY_MAX_DELAY_MS
    · have belowRat :
          (base : Rat) * factor < (RETRY_MAX_DELAY_MS : Int) := by
        exact_mod_cast below
      rw [if_pos (decide_eq_true belowRat), min_eq_left (le_of_lt below)]
      push_cast
      rfl
    · have notBelowRat :
          ¬ (base : Rat) * factor < (RETRY_MAX_DELAY_MS : Int) := by
        exact_mod_cast below
      rw [if_neg (by simpa using notBelowRat), min_eq_right (not_lt.mp below)]

namespace RetryPolicy

variable {policy : RetryPolicy} {failure : Nat}

/-- The factor is a number unless it is a power of two from `2 ^ 1024` on. -/
theorem powOf_factor
    (inside : policy.backoff = .exponential → failure < 1024) :
    JsDouble.powOf (if policy.backoff = .exponential then 2 else 1) failure =
      .finite (policy.factor failure) := by
  unfold JsDouble.powOf factor
  refine if_pos ?_
  by_cases exponential : policy.backoff = .exponential
  · exact .inr (inside exponential)
  · exact .inl (if_neg exponential)

/-- From there on it is infinite. -/
theorem powOf_large
    (exponential : policy.backoff = .exponential)
    (large : 1024 ≤ failure) :
    JsDouble.powOf (if policy.backoff = .exponential then 2 else 1) failure =
      .infinite false := by
  unfold JsDouble.powOf
  rw [if_pos exponential, if_neg (by omega)]

/-- A large power of two takes every positive base over the cap. -/
theorem capped_of_large
    (exponential : policy.backoff = .exponential)
    (large : 1024 ≤ failure)
    (positive : 0 < policy.baseMs) :
    RETRY_MAX_DELAY_MS ≤ policy.baseMs * policy.factor failure := by
  have power (exponent : Nat) (atMost : exponent ≤ failure) :
      2 ^ exponent ≤ policy.factor failure := by
    unfold factor
    rw [if_pos exponential]
    exact Nat.pow_le_pow_right Nat.two_pos atMost
  have overflow : (DOUBLE_OVERFLOW : Int) ≤ policy.factor failure :=
    Int.ofNat_le.mpr (power 1024 large)
  calc
    RETRY_MAX_DELAY_MS ≤ (DOUBLE_OVERFLOW : Int) := RETRY_MAX_DELAY_MS_le
    _ ≤ 1 * policy.factor failure := by rw [one_mul]; exact overflow
    _ ≤ policy.baseMs * policy.factor failure :=
      Int.mul_le_mul_of_nonneg_right positive (Int.natCast_nonneg _)

/-- A delay that stays a number is the capped product. -/
theorem StaysFinite.delay
    (finite : policy.StaysFinite failure) :
    ((JsDouble.finite policy.baseMs).times
        (JsDouble.powOf (if policy.backoff = .exponential then 2 else 1)
          failure)).minimum (.finite RETRY_MAX_DELAY_MS) =
      .finite
        (min (policy.baseMs * policy.factor failure)
          RETRY_MAX_DELAY_MS : Int) := by
  by_cases inside : policy.backoff = .exponential → failure < 1024
  · rw [powOf_factor inside]
    refine JsDouble.minimum_times _ _ ?_
    rcases finite with positive | ⟨-, above⟩
    · have overflow := RETRY_MAX_DELAY_MS_le
      have product : 0 ≤ policy.baseMs * policy.factor failure :=
        Int.mul_nonneg (le_of_lt positive) (Int.natCast_nonneg _)
      unfold RETRY_MAX_DELAY_MS at overflow
      exact lt_of_lt_of_le (by linarith) product
    · exact above
  · obtain ⟨exponential, large⟩ := Classical.not_imp.mp inside
    have large := not_lt.mp large
    have positive : 0 < policy.baseMs :=
      finite.resolve_right fun stays => inside stays.1
    have nonzero : (policy.baseMs : Rat) ≠ 0 := by
      exact_mod_cast (ne_of_gt positive)
    have notNegative : ¬ (policy.baseMs : Rat) < 0 := by
      exact_mod_cast not_lt_of_gt positive
    rw [powOf_large exponential large,
      min_eq_right (capped_of_large exponential large positive)]
    simp [JsDouble.times, JsDouble.minimum, JsDouble.lessThan, nonzero,
      notNegative]

/-- Any other delay is no number, or negative and infinite. -/
theorem delay_ne_of_not_staysFinite
    (notFinite : ¬ policy.StaysFinite failure)
    (value : Rat) :
    ((JsDouble.finite policy.baseMs).times
        (JsDouble.powOf (if policy.backoff = .exponential then 2 else 1)
          failure)).minimum (.finite RETRY_MAX_DELAY_MS) ≠
      .finite value := by
  obtain ⟨notPositive, notInside⟩ := not_or.mp notFinite
  by_cases inside : policy.backoff = .exponential → failure < 1024
  · have below :
        (policy.baseMs : Rat) * policy.factor failure ≤
          -(DOUBLE_OVERFLOW : Rat) := by
      have notAbove := not_lt.mp fun above => notInside ⟨inside, above⟩
      exact_mod_cast notAbove
    rw [powOf_factor inside]
    unfold JsDouble.times
    dsimp only
    rw [if_pos below]
    simp [JsDouble.minimum, JsDouble.lessThan]
  · obtain ⟨exponential, large⟩ := Classical.not_imp.mp inside
    rw [powOf_large exponential (not_lt.mp large)]
    by_cases zero : policy.baseMs = 0
    · simp [JsDouble.times, JsDouble.minimum, zero]
    · have negative : (policy.baseMs : Rat) < 0 := by
        have negativeInt : policy.baseMs < 0 := by omega
        exact_mod_cast negativeInt
      have nonzero : (policy.baseMs : Rat) ≠ 0 := ne_of_lt negative
      simp [JsDouble.times, JsDouble.minimum, JsDouble.lessThan, nonzero,
        negative]

/-- The capped product is the declared curve, unless the linear one shows. -/
theorem min_eq_curve_iff :
    min (policy.baseMs * policy.factor failure) RETRY_MAX_DELAY_MS =
        policy.curve failure ↔
      policy.LinearIsFlat failure := by
  unfold curve factor LinearIsFlat
  cases backoff : policy.backoff with
  | exponential => simp
  | constant => simp
  | linear =>
      simp only [reduceCtorEq, if_false, one_pow, Nat.cast_one, mul_one,
        forall_const]
      constructor
      · intro same
        by_cases first : failure = 0
        · exact .inl first
        refine .inr ?_
        by_contra neither
        obtain ⟨nonzero, below⟩ := not_or.mp neither
        have below := not_le.mp below
        rw [min_eq_left (le_of_lt below)] at same
        have steps : (1 : Int) ≤ failure := by omega
        rcases lt_or_gt_of_ne nonzero with negative | positive
        · have further :
              policy.baseMs * (failure + 1) < policy.baseMs := by nlinarith
          rw [min_eq_left (by linarith)] at same
          omega
        · have further :
              policy.baseMs < policy.baseMs * (failure + 1) := by nlinarith
          rcases min_choice (policy.baseMs * ((failure : Int) + 1))
              RETRY_MAX_DELAY_MS with isProduct | isCap
          · rw [isProduct] at same
            omega
          · rw [isCap] at same
            omega
      · rintro (first | zero | above)
        · subst first
          simp
        · simp [zero]
        · have further :
              RETRY_MAX_DELAY_MS ≤ policy.baseMs * (failure + 1) := by
            unfold RETRY_MAX_DELAY_MS at above ⊢
            nlinarith [Int.natCast_nonneg failure]
          rw [min_eq_right above, min_eq_right further]

end RetryPolicy

/--
The delay of a snapshot that counts the failures so far is that of the declared
curve exactly if it stays a number and the linear curve makes no difference.
-/
theorem chosenDelay_eq_curve_iff
    {job : PersistedJob}
    {failure : Nat}
    (counts : job.retryCount = failure) :
    chosenDelay job = .finite (job.retry.curve failure) ↔
      job.retry.StaysFinite failure ∧ job.retry.LinearIsFlat failure := by
  unfold chosenDelay
  dsimp only
  rw [counts, Int.toNat_natCast]
  by_cases finite : job.retry.StaysFinite failure
  · rw [finite.delay, and_iff_right finite,
      ← RetryPolicy.min_eq_curve_iff, JsDouble.finite.injEq]
    exact Int.cast_inj
  · refine iff_of_false ?_ fun both => finite both.1
    exact RetryPolicy.delay_ne_of_not_staysFinite finite _

/-- A delay that stays a number is the one that the object waits for. -/
theorem chosenDelay_eq_retryDelayMs
    {job : PersistedJob}
    (finite : job.retry.StaysFinite job.retryCount.toNat) :
    chosenDelay job = .finite (retryDelayMs job) := by
  unfold chosenDelay
  dsimp only
  rw [finite.delay]
  unfold retryDelayMs RetryPolicy.factor
  dsimp only
  split <;> simp

/-! ## What the rows count -/

/-- A row has its job's declared policy and, while active, its failures. -/
structure JobsRow.Recorded
    (row : JobsRow)
    (declared : Option RetryPolicy)
    (failures : Nat) : Prop where
  declared : declared = some (rowToJob row).retry
  counts : row.status.isActive → row.retryCount = failures

/-- Every row is recorded. -/
def RowsRecorded
    (store : JobStore)
    (history : FailureHistory) : Prop :=
  ∀ jobId row,
    store.row? jobId = some row →
    row.Recorded (history.declared jobId) (history.failures jobId)

namespace JobStore

/-- A failure is stored for a leased row, which it changes. -/
theorem failed_of_failedBy
    {store : JobStore}
    {call : JobStoreCall}
    {jobId : String}
    (failed : store.failedBy? call = some jobId) :
    ∃ row error,
      store.row? jobId = some row ∧
        row.status = .leased ∧
          (store.invoke call).1.row? jobId = some (row.failedOnce error) := by
  cases call with
  | fail now failedId leaseOwner error =>
      unfold failedBy? at failed
      dsimp only at failed
      split at failed
      next => cases failed
      next answered =>
        cases failed
        rcases status_of_map_self
            (row?_fail store now jobId leaseOwner error jobId) with
          ⟨row, found, met, _⟩ | ⟨_, refused⟩
        · refine ⟨row, error, found, ?_, ?_⟩
          · simpa using (Bool.and_eq_true_iff.mp met).1
          · change (store.fail now jobId leaseOwner error).1.row? jobId = _
            rw [row?_fail, found, Option.map_some, if_pos]
            simp [id_of_row? found, met]
        · have none :
              (store.row? jobId).filter (·.isLeasedBy leaseOwner) = none := by
            rw [Option.filter_eq_none_iff]
            exact fun row found => refused row found
          refine absurd ?_ answered
          unfold fail
          dsimp only
          rw [compareAndSet_snd, none]
          rfl
  | _ => cases failed

/-- A call that does not change the row of a job stores no failure of it. -/
theorem not_failedBy_of_row?_eq
    {store : JobStore}
    {call : JobStoreCall}
    {jobId : String}
    (same : (store.invoke call).1.row? jobId = store.row? jobId) :
    store.failedBy? call ≠ some jobId := by
  intro failed
  obtain ⟨row, error, found, leased, changed⟩ := failed_of_failedBy failed
  rw [changed, found] at same
  have sameRow := Option.some.inj same
  have status := (row.failedOnce_status_ne error).1
  rw [sameRow] at status
  exact status leased

/-- A `fail` of the owner of a lease stores a failure. -/
theorem failedBy_of_leased
    {store : JobStore}
    {now : Int}
    {leaseOwner : String}
    {row : JobsRow}
    {error : ErrorRecord}
    (found : store.row? row.id = some row)
    (leased : row.isLeasedBy leaseOwner) :
    store.failedBy? (.fail now row.id leaseOwner error) = some row.id := by
  unfold failedBy?
  dsimp only
  rw [fail_snd found leased, if_neg (row.failedOnce_status_ne error).1]

/-- Every call keeps the rows recorded, given that a new job is fresh. -/
theorem rowsRecorded_invoke
    {store : JobStore}
    {call : JobStoreCall}
    {history : FailureHistory}
    (fresh : ∀ now job, call = .enqueue now job → job.retryCount = 0)
    (recorded : RowsRecorded store history) :
    RowsRecorded (store.invoke call).1 (store.recordCall call history) := by
  intro jobId new found
  have moved := store.row?_invoke call jobId
  rw [found] at moved
  have unfailed
      (same : store.row? jobId = some new) :
      (decide (store.failedBy? call = some jobId)).toNat = 0 := by
    rw [decide_eq_false (not_failedBy_of_row?_eq (found.trans same.symm))]
    rfl
  have otherCall
      (other : ∀ now id owner error, call ≠ .fail now id owner error) :
      (decide (store.failedBy? call = some jobId)).toNat = 0 := by
    rw [decide_eq_false]
    · rfl
    · unfold failedBy?
      split
      · exact absurd rfl (other _ _ _ _)
      · exact nofun
  unfold recordCall
  dsimp only
  cases isRow : store.row? jobId with
  | none =>
      rw [isRow] at moved
      cases moved with
      | @insert now job =>
          have isJob : job.id = jobId := id_of_row? found
          refine ⟨?_, fun _ => ?_⟩
          · simp [isJob, rowToJob, insertedRow]
          · rw [otherCall (fun _ _ _ _ => by nofun)]
            exact fresh now job rfl
  | some row =>
      have before := recorded jobId row isRow
      have rowId : row.id = jobId := id_of_row? isRow
      rw [isRow] at moved
      simp only [Option.isSome_some, if_true]
      cases moved with
      | stay =>
          rw [unfailed isRow]
          exact before
      | lease free =>
          rw [otherCall fun _ _ _ _ => by nofun]
          exact ⟨before.declared, fun _ =>
            before.counts (JobsRow.isActive_of_isFree free)⟩
      | ack => exact ⟨before.declared, fun wrong => by cases wrong⟩
      | @fail now leaseOwner _ error leased =>
          have isLeased : row.status = .leased := by
            simpa using (Bool.and_eq_true_iff.mp leased).1
          rw [← rowId, failedBy_of_leased (rowId ▸ isRow) leased]
          refine ⟨rowId ▸ before.declared, fun _ => ?_⟩
          have counts := before.counts (by rw [isLeased]; rfl)
          simp [JobsRow.failedOnce, counts, rowId]
      | failQueued => exact ⟨before.declared, fun wrong => by cases wrong⟩
      | cancel => exact ⟨before.declared, fun wrong => by cases wrong⟩
      | reclaim reclaimable =>
          rw [otherCall fun _ _ _ _ => by nofun]
          exact ⟨before.declared, fun _ =>
            before.counts (JobsRow.isActive_of_isReclaimable reclaimable)⟩

/-- A sequence of calls keeps the rows recorded. -/
theorem rowsRecorded_after
    {store : JobStore}
    {calls : List JobStoreCall}
    {history : FailureHistory}
    (fresh : ∀ now job, .enqueue now job ∈ calls → job.retryCount = 0)
    (recorded : RowsRecorded store history) :
    RowsRecorded (store.after calls) (store.recordCalls history calls) := by
  induction calls generalizing store history with
  | nil => exact recorded
  | cons call calls inductionHypothesis =>
      refine inductionHypothesis
        (fun now job isCall => fresh now job (List.mem_cons_of_mem _ isCall))
        (rowsRecorded_invoke (fun now job isCall => ?_) recorded)
      exact fresh now job (isCall ▸ List.mem_cons_self)

end JobStore

/-- A step accepts no job that was retried. -/
theorem CfpSchedulerDO.retryCount_of_storeCalls
    {self : CfpSchedulerDO}
    {state : SchedulerState}
    {event : SchedulerEvent}
    {now : Int}
    {job : PersistedJob}
    (isCall : .enqueue now job ∈ self.storeCalls state event) :
    job.retryCount = 0 := by
  rcases List.mem_append.mp isCall with own | isLoop
  · exact retryCount_of_segmentCalls own
  · -- the dispatch loop enqueues nothing
    split at isLoop
    · cases isLoop
    · unfold Segment.loopCalls at isLoop
      split at isLoop
      · cases isLoop
      · split at isLoop
        · cases isLoop
        · split at isLoop <;> cases List.mem_singleton.mp isLoop

/-- Every step keeps the rows recorded. -/
theorem rowsRecorded_step
    {self : CfpSchedulerDO}
    {state next : SchedulerState}
    {event : SchedulerEvent}
    {history : FailureHistory}
    (stepped : self.step state event = some next)
    (recorded : RowsRecorded state.store history) :
    RowsRecorded next.store (self.recordFailures state event history) := by
  rw [store_step stepped]
  exact
    JobStore.rowsRecorded_after
      (fun _ _ => CfpSchedulerDO.retryCount_of_storeCalls) recorded

/-! ## What the snapshots count -/

/-- The job of an execution whose outcome has not been stored. -/
def SchedulerTask.execution? : SchedulerTask → Option PersistedJob
  | .running job _ => some job
  | .settled job _ => some job
  | _ => none

/-- The snapshots of the open executions. -/
def SchedulerState.executions (state : SchedulerState) : List PersistedJob :=
  state.tasks.filterMap SchedulerTask.execution? ++
    state.dispatcher.loop.target?.toList

/-- The snapshot of a job and its row agree on what the delay depends on. -/
structure JobsRow.Snapshot
    (row : JobsRow)
    (job : PersistedJob) : Prop where
  notDone : row.status ≠ .done
  same :
    row.status.isActive →
    row.retryCount = job.retryCount ∧ (rowToJob row).retry = job.retry

/-- The snapshot of every open execution agrees with the row of its job. -/
def SnapshotsAgree (state : SchedulerState) : Prop :=
  ∀ job ∈ state.executions,
    ∃ row, state.store.row? job.id = some row ∧ row.Snapshot job

theorem SchedulerTask.isOpen_of_execution
    {task : SchedulerTask}
    {job : PersistedJob}
    (isExecution : task.execution? = some job) :
    task.isOpen job.id := by
  cases task <;> cases isExecution <;> exact decide_eq_true rfl

theorem LoopState.holds_of_target
    {loop : LoopState}
    {job : PersistedJob}
    (isTarget : loop.target? = some job) :
    loop.holds job.id := by
  cases loop with
  | claimed target =>
      cases isTarget
      exact decide_eq_true rfl
  | _ => cases isTarget

/-- An open execution is counted. -/
theorem SchedulerState.openExecutions_pos
    {state : SchedulerState}
    {job : PersistedJob}
    (member : job ∈ state.executions) :
    0 < state.openExecutions job.id := by
  rcases List.mem_append.mp member with isTask | isTarget
  · obtain ⟨task, isMember, isExecution⟩ := List.mem_filterMap.mp isTask
    exact Nat.add_pos_left
      (List.countP_pos_iff.mpr
        ⟨task, isMember, SchedulerTask.isOpen_of_execution isExecution⟩) _
  · have holds :=
      LoopState.holds_of_target (Option.mem_toList.mp isTarget)
    unfold openExecutions
    rw [holds]
    exact Nat.succ_pos _

/-- An execution that goes on was one of the same snapshot. -/
theorem SchedulerTask.GoesOn.execution
    {self : CfpSchedulerDO}
    {state : SchedulerState}
    {readings : Readings}
    {old new : SchedulerTask}
    {started : List SchedulerTask}
    {dispatcher : Dispatcher}
    (goes : old.GoesOn self state readings new started dispatcher)
    {job : PersistedJob}
    (isExecution : new.execution? = some job) :
    old.execution? = some job := by
  cases goes with
  | ackRejected => exact isExecution
  | _ => cases isExecution

/-- A step's own part opens no execution with another snapshot. -/
theorem CfpSchedulerDO.Moves.executions
    {self : CfpSchedulerDO}
    {state : SchedulerState}
    {event : SchedulerEvent}
    {tasks : List SchedulerTask}
    {dispatcher : Dispatcher}
    (moves : self.Moves state event tasks dispatcher)
    {job : PersistedJob}
    (member :
      job ∈
        tasks.filterMap SchedulerTask.execution? ++
          dispatcher.loop.target?.toList) :
    job ∈ state.executions := by
  rcases List.mem_append.mp member with isTask | isTarget
  · obtain ⟨task, isMember, isExecution⟩ := List.mem_filterMap.mp isTask
    have wasTask
        {old : SchedulerTask}
        (isOld : old ∈ state.tasks)
        (wasExecution : old.execution? = some job) :
        job ∈ state.executions :=
      List.mem_append_left _ (List.mem_filterMap.mpr ⟨old, isOld, wasExecution⟩)
    cases moves.origin isMember with
    | before isOld => exact wasTask isOld isExecution
    | begins begun => cases begun <;> cases isExecution
    | goesOn found goes =>
        exact wasTask (List.mem_of_getElem? found) (goes.execution isExecution)
    | started _ goes _ isStarted =>
        rcases goes.started isStarted with ⟨_, _, rfl⟩ | ⟨_, _, _, rfl⟩ <;>
          cases isExecution
    | runs claimed =>
        -- the claimed job is the snapshot of the new task
        cases isExecution
        refine List.mem_append_right _ (Option.mem_toList.mpr ?_)
        rw [claimed]
        rfl
    | settles found =>
        exact wasTask (List.mem_of_getElem? found) isExecution
    | _ => cases isExecution
  · -- a move brings the loop no target
    refine List.mem_append_right _ (Option.mem_toList.mpr ?_)
    rw [Option.mem_toList] at isTarget
    cases moves with
    | enqueue begins | deliverAlarm begins => cases begins <;> exact isTarget
    | configure =>
        obtain ⟨config, configured⟩ := dispatcher_configure state _
        rw [configured] at isTarget
        exact isTarget
    | resume found goes =>
        rw [goes.loop] at isTarget
        exact isTarget
    | loopGoesOn | runs => cases isTarget
    | evict _ _ _ idle =>
        rw [idle] at isTarget
        cases isTarget
    | _ => exact isTarget

/-- A step's own part leaves the snapshots in agreement with the rows. -/
theorem snapshotsAgree_segment
    {self : CfpSchedulerDO}
    {state : SchedulerState}
    {event : SchedulerEvent}
    {segment : Segment}
    (isSegment : self.segment state event = some segment)
    (atMostOne : ∀ jobId, state.openExecutions jobId ≤ 1)
    (agree : SnapshotsAgree state) :
    SnapshotsAgree segment.state := by
  intro job member
  have moves := CfpSchedulerDO.moves isSegment
  obtain ⟨row, found, snapshot⟩ := agree job (moves.executions member)
  have isOpen := SchedulerState.openExecutions_pos member
  have rows :=
    @CfpSchedulerDO.row?_segmentCalls self state event job.id _ rfl
  rw [← store_segment isSegment, found] at rows
  rcases rows with same | ⟨call, isCall, moved⟩
  · exact ⟨row, same.symm, snapshot⟩
  -- a call that stores an outcome has closed the only execution
  have closes
      {jobId : String}
      (stores : jobId ∈ call.refusal?.map Prod.fst)
      (isJob : jobId = job.id) : False := by
    subst isJob
    have closed := CfpSchedulerDO.closes_of_refusal isCall stores moves
    have single := atMostOne job.id
    unfold SchedulerState.openExecutions at isOpen single closed
    omega
  have rowId : row.id = job.id := JobStore.id_of_row? found
  generalize segment.state.store.row? job.id = new at moved ⊢
  cases moved with
  | stay => exact ⟨row, rfl, snapshot⟩
  | lease => exact absurd rfl (CfpSchedulerDO.segmentCalls_ne_claim isCall _ _)
  | ack => exact (closes rfl rowId).elim
  | fail => exact (closes rfl rowId).elim
  | failQueued =>
      exact ⟨_, rfl, nofun, fun wrong => by cases wrong⟩
  | cancel =>
      exact ⟨_, rfl, nofun, fun wrong => by cases wrong⟩
  | reclaim reclaimable =>
      have active := JobsRow.isActive_of_isReclaimable reclaimable
      exact ⟨_, rfl, nofun, fun _ => snapshot.same active⟩
  | sweep sweepable =>
      have isDone : row.status = .done :=
        of_decide_eq_true (Bool.and_eq_true_iff.mp sweepable).1
      exact absurd isDone snapshot.notDone

/-- A row that is not active agrees with every snapshot of its job. -/
theorem JobsRow.Snapshot.failedForGood
    (row : JobsRow)
    (error : ErrorRecord)
    (job : PersistedJob) :
    (row.failedForGood error).Snapshot job :=
  ⟨nofun, fun wrong => by cases wrong⟩

/-- A claim of a job without an open execution takes a snapshot of its row. -/
theorem snapshotsAgree_finish
    {self : CfpSchedulerDO}
    {readings : LoopReadings}
    {segment : Segment}
    (closed :
      ∀ row ∈ segment.claimedRows self readings,
        segment.state.openExecutions row.id = 0)
    (agree : SnapshotsAgree segment.state) :
    SnapshotsAgree (segment.finish self readings) := by
  have tasks := (segment.finishes self readings).tasks
  have loopEnd := segment.loopEnd self readings
  intro job member
  unfold SchedulerState.executions at member
  rw [tasks] at member
  generalize (segment.finish self readings).dispatcher.loop = loop
    at loopEnd member
  generalize (segment.finish self readings).store = store at loopEnd ⊢
  have before
      (noTarget : loop.target? = none) :
      job ∈ segment.state.executions := by
    rw [noTarget] at member
    rcases List.mem_append.mp member with isTask | wrong
    · exact List.mem_append_left _ isTask
    · cases wrong
  cases loopEnd with
  | stays unpicked => exact agree job member
  | rejected => exact agree job (before rfl)
  | @failedExpired picked dispatcher =>
      obtain ⟨row, found, snapshot⟩ := agree job (before rfl)
      rw [JobStore.row?_failQueued, found, Option.map_some]
      split
      · exact ⟨_, rfl, .failedForGood row _ job⟩
      · exact ⟨row, rfl, snapshot⟩
  | missed => exact agree job (before rfl)
  | @claimed picked dispatcher row leased next _ _ _ claimedRow _ _ isLeased
      rows =>
      have noneOpen : segment.state.openExecutions row.id = 0 :=
        closed row (by rw [claimedRow]; exact List.mem_singleton_self row)
      have leasedId : (rowToJob leased).id = row.id := by
        rw [isLeased]
        rfl
      rcases List.mem_append.mp member with isTask | isTarget
      · have wasOpen : job ∈ segment.state.executions :=
          List.mem_append_left _ isTask
        have otherJob : job.id ≠ row.id := by
          intro isJob
          have positive := SchedulerState.openExecutions_pos wasOpen
          rw [isJob, noneOpen] at positive
          exact absurd positive (Nat.lt_irrefl 0)
        rw [rows, if_neg otherJob]
        exact agree job wasOpen
      · cases List.mem_singleton.mp isTarget
        rw [rows, if_pos leasedId]
        refine ⟨leased, rfl, ?_, fun _ => ⟨rfl, rfl⟩⟩
        rw [isLeased]
        nofun

/-- The rows, the history and the snapshots of the open executions agree. -/
structure CurveInvariant
    (state : SchedulerState)
    (history : FailureHistory) : Prop where
  fenced : ∃ holders, FencedInvariant state holders
  recorded : RowsRecorded state.store history
  agree : SnapshotsAgree state

/-- A step that claims no job with an open execution keeps the invariant. -/
theorem curveInvariant_step
    {self : CfpSchedulerDO}
    {current next : SchedulerState × FailureHistory}
    {event : SchedulerEvent}
    (closed : ClaimsClosed self current.1 event)
    (recorded :
      recording self.step self.recordFailures current event = some next)
    (invariant : CurveInvariant current.1 current.2) :
    CurveInvariant next.1 next.2 := by
  obtain ⟨state, stepped, rfl⟩ := Option.map_eq_some_iff.mp recorded
  obtain ⟨holders, fenced⟩ := invariant.fenced
  have holdersRecorded :
      recording self.step self.recordHolders (current.1, holders) event =
        some (state, self.recordHolders current.1 event holders) := by
    unfold recording
    rw [stepped]
    rfl
  refine {
    fenced := ⟨_, fenced_step closed holdersRecorded fenced⟩
    recorded := rowsRecorded_step stepped invariant.recorded
    agree := ?_
  }
  obtain ⟨segment, isSegment, rfl⟩ := Option.map_eq_some_iff.mp stepped
  exact
    snapshotsAgree_finish (closed segment isSegment)
      (snapshotsAgree_segment isSegment fenced.atMostOne invariant.agree)

/-- A failing execution has counted the failures, and knows the policy. -/
theorem CurveInvariant.requeued
    {self : CfpSchedulerDO}
    {state : SchedulerState}
    {history : FailureHistory}
    {event : SchedulerEvent}
    {failed : PersistedJob × Int}
    (invariant : CurveInvariant state history)
    (fails : self.requeued? state event = some failed) :
    failed.1.retryCount = history.failures failed.1.id ∧
      history.declared failed.1.id = some failed.1.retry := by
  obtain ⟨index, readings, rawErr, -, found, -, queued, -⟩ :=
    CfpSchedulerDO.requeues fails
  have isExecution : failed.1 ∈ state.executions :=
    List.mem_append_left _
      (List.mem_filterMap.mpr ⟨_, List.mem_of_getElem? found, rfl⟩)
  obtain ⟨row, isRow, snapshot⟩ := invariant.agree failed.1 isExecution
  have stored :
      state.store.failedBy?
          (.fail readings.now failed.1.id self.ownerId
            (errorToRecord rawErr)) =
        some failed.1.id := by
    unfold JobStore.failedBy?
    dsimp only
    rw [queued]
    rfl
  obtain ⟨other, _, isOther, leased, -⟩ := JobStore.failed_of_failedBy stored
  obtain rfl : row = other := Option.some.inj (isRow.symm.trans isOther)
  have active : row.status.isActive := by
    rw [leased]
    rfl
  have record := invariant.recorded failed.1.id row isRow
  obtain ⟨sameCount, samePolicy⟩ := snapshot.same active
  exact ⟨sameCount.symm.trans (record.counts active),
    record.declared.trans (congrArg some samePolicy)⟩

/--
In every run that claims no job while an execution of it is open, the delay
that is chosen for a failure follows the declared curve exactly if its product
stays a number and, where the curve is linear, a multiple makes no difference.
A delay that stays a number is the one that the object waits for.
-/
theorem scheduler_followsCurve_iff
    {self : CfpSchedulerDO}
    {events : List SchedulerEvent}
    {current : SchedulerState × FailureHistory}
    (run :
      GuardedRun (recording self.step self.recordFailures)
        (fun current => ClaimsClosed self current.1) ({}, {}) events current)
    (event : SchedulerEvent) :
    (FollowsCurve self current event ↔
      ∀ failed ∈ self.requeued? current.1 event,
        ∀ policy ∈ current.2.declared failed.1.id,
          policy.StaysFinite (current.2.failures failed.1.id) ∧
            policy.LinearIsFlat (current.2.failures failed.1.id)) ∧
      ∀ failed ∈ self.requeued? current.1 event,
        failed.1.retry.StaysFinite failed.1.retryCount.toNat →
        chosenDelay failed.1 = .finite (retryDelayMs failed.1) := by
  have invariant : CurveInvariant current.1 current.2 :=
    @GuardedRun.invariant _ _ _ _
      (fun (current : SchedulerState × FailureHistory) =>
        CurveInvariant current.1 current.2)
      curveInvariant_step _ _ _ run {
        fenced := ⟨fun _ => none, fun _ => Nat.zero_le 1,
          fun _ _ _ _ isTask => by cases isTask⟩
        recorded := fun _ _ found => by cases found
        agree := fun _ member => by cases member
      }
  refine ⟨forall₂_congr fun failed fails => ?_,
    fun failed _ finite => chosenDelay_eq_retryDelayMs finite⟩
  obtain ⟨counts, declared⟩ := invariant.requeued fails
  constructor
  · rintro ⟨policy, isPolicy, follows⟩ other isOther
    cases declared.symm.trans isPolicy
    cases declared.symm.trans isOther
    exact (chosenDelay_eq_curve_iff counts).mp follows
  · intro computes
    exact ⟨_, declared,
      (chosenDelay_eq_curve_iff counts).mpr (computes _ declared)⟩

/-- A job fails twice, and its second failure is to be stored. -/
def failsTwice (backoff : RetryBackoff) : List SchedulerEvent :=
  [ .enqueue
      { SchedulerEnqueueRequest.flaky with
        retry := { max := 3, backoff := backoff, baseMs := 200 } },
    .resume 0 (.at 10), .resume 0 (.at 10), .resume 0 (.at 10),
    .resume 0 (.at 10), .resumeLoop { check := 10, claim := 10 },
    .settle 1 (.error (.error "Error" "not yet" none none)),
    .resume 1 (.at 20), .resume 1 (.at 20), .resume 1 (.at 20),
    .resume 2 (.at 20), .resume 3 (.at 220),
    .resumeLoop { check := 220, claim := 220 },
    .settle 4 (.error (.error "Error" "not yet" none none)) ]

/-- The exponential delay after the second failure is twice the first one. -/
theorem scheduler_followsCurve_failsTwice :
    ∃ current : SchedulerState × FailureHistory,
      GuardedRun
          (recording (CfpSchedulerDO.step .plain)
            (CfpSchedulerDO.recordFailures .plain))
          (fun current => ClaimsClosed .plain current.1) ({}, {})
          (failsTwice .exponential) current ∧
        current.2.failures "flaky" = 1 ∧
          (CfpSchedulerDO.requeued? .plain current.1
            (.resume 4 (.at 230))).map (·.1.id) = some "flaky" ∧
            FollowsCurve .plain current (.resume 4 (.at 230)) := by
  have executed :
      ((failsTwice .exponential).foldlM
          (fun current event =>
            if ClaimsClosed .plain current.1 event then
              recording (CfpSchedulerDO.step .plain)
                (CfpSchedulerDO.recordFailures .plain) current event
            else
              none) ({}, {})).any
        fun current =>
          (current.2.failures "flaky" = 1 &&
            current.2.declared "flaky" =
              some { max := 3, backoff := .exponential, baseMs := 200 }) &&
            (CfpSchedulerDO.requeued? .plain current.1
              (.resume 4 (.at 230))).map (·.1.id) = some "flaky" := by
    decide +kernel
  obtain ⟨current, isCurrent, holds⟩ := (Option.any_eq_true _ _).mp executed
  simp only [Bool.and_eq_true, decide_eq_true_eq] at holds
  obtain ⟨⟨failures, declared⟩, fails⟩ := holds
  have run := GuardedRun.of_checked isCurrent
  refine ⟨current, run, failures, fails,
    (scheduler_followsCurve_iff run _).1.mpr ?_⟩
  intro failed isFailed policy isPolicy
  obtain ⟨other, isOther, isFlaky⟩ := Option.map_eq_some_iff.mp fails
  cases isFailed.symm.trans isOther
  rw [isFlaky] at isPolicy ⊢
  cases declared.symm.trans isPolicy
  rw [failures]
  exact ⟨.inl (by decide), nofun⟩

/--
A job's first execution outlives its lease, and the second one fails; the first
one's failure is to be stored while a third one has the lease.
-/
def failsLate : List SchedulerEvent :=
  .enqueue
      { SchedulerEnqueueRequest.slow with
        retry := { max := 3, backoff := .exponential, baseMs := 200 } } ::
    slowStarts.tail ++ flakyFails ++ alarmFires ++
    [ .resumeLoop { check := 60020, claim := 60020 },
      .settle 7 (.error (.error "Error" "not yet" none none)),
      .resume 7 (.at 60030), .resume 7 (.at 60030), .resume 7 (.at 60030),
      .resume 9 (.at 60030), .resume 10 (.at 60230),
      .resumeLoop { check := 60230, claim := 60230 },
      .settle 1 (.error (.error "Error" "not yet" none none)) ]

/--
The delay after the second failure of a job is 200 milliseconds, as after the
first one: where the declared curve is linear, and where it is exponential and
an execution fails whose lease has run out.
-/
theorem scheduler_missesCurve :
    (∃ current failed,
      Run
          (recording (CfpSchedulerDO.step .plain)
            (CfpSchedulerDO.recordFailures .plain))
          ({}, {}) (failsTwice .linear) current ∧
        CfpSchedulerDO.requeued? .plain current.1 (.resume 4 (.at 230)) =
            some failed ∧
          current.2.failures failed.1.id = 1 ∧
            chosenDelay failed.1 = .finite 200 ∧
              ¬ FollowsCurve .plain current (.resume 4 (.at 230))) ∧
      ∃ current failed,
        Run
            (recording (CfpSchedulerDO.step .plain)
              (CfpSchedulerDO.recordFailures .plain))
            ({}, {}) failsLate current ∧
          CfpSchedulerDO.requeued? .plain current.1
              (.resume 1 (.at 60240)) = some failed ∧
            current.2.failures failed.1.id = 1 ∧
              chosenDelay failed.1 = .finite 200 ∧
                ¬ FollowsCurve .plain current (.resume 1 (.at 60240)) := by
  have misses
      {events : List SchedulerEvent}
      {event : SchedulerEvent}
      {policy : RetryPolicy}
      (curve : policy.curve 1 = 400)
      (executed :
        (events.foldlM
            (recording (CfpSchedulerDO.step .plain)
              (CfpSchedulerDO.recordFailures .plain)) ({}, {})).any
          (fun current =>
            (CfpSchedulerDO.requeued? .plain current.1 event).any
              fun failed =>
                (current.2.failures failed.1.id = 1 &&
                  current.2.declared failed.1.id = some policy) &&
                  chosenDelay failed.1 = .finite 200) = true) :
      ∃ current failed,
        Run
            (recording (CfpSchedulerDO.step .plain)
              (CfpSchedulerDO.recordFailures .plain))
            ({}, {}) events current ∧
          CfpSchedulerDO.requeued? .plain current.1 event = some failed ∧
            current.2.failures failed.1.id = 1 ∧
              chosenDelay failed.1 = .finite 200 ∧
                ¬ FollowsCurve .plain current event := by
    obtain ⟨current, isCurrent, holds⟩ := (Option.any_eq_true _ _).mp executed
    obtain ⟨failed, isFailed, holds⟩ := (Option.any_eq_true _ _).mp holds
    simp only [Bool.and_eq_true, decide_eq_true_eq] at holds
    obtain ⟨⟨failures, declared⟩, delay⟩ := holds
    refine ⟨current, failed, .of_foldlM isCurrent, isFailed, failures, delay,
      fun follows => ?_⟩
    obtain ⟨other, isOther, follows⟩ := follows failed isFailed
    cases declared.symm.trans isOther
    rw [delay, failures, curve] at follows
    exact absurd follows (by decide)
  constructor
  · exact
      @misses _ _ { max := 3, backoff := .linear, baseMs := 200 } rfl
        (by decide +kernel)
  · exact
      @misses _ _ { max := 3, backoff := .exponential, baseMs := 200 } rfl
        (by decide +kernel)

end CloudflareParallel
