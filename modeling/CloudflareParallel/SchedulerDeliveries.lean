import CloudflareParallel.SchedulerFencing

namespace CloudflareParallel

open KeyedTables LabelledRuns

/-!
# How often a job is delivered

A job is claimed at most as often as its retry policy allows, as long as it
only becomes claimable again through `fail`, which counts.  A reclaim and a
claim of a lease that has run out do not count.
-/

/-- How often each job has been claimed since its row was inserted. -/
abbrev Deliveries : Type :=
  String → Nat

/-- The claims so far; a job without a row has none. -/
def SchedulerState.countedFrom
    (state : SchedulerState)
    (deliveries : Deliveries) : Deliveries :=
  fun jobId =>
    match state.store.row? jobId with
    | none => 0
    | some _ => deliveries jobId

/-- The jobs that a step claims. -/
def CfpSchedulerDO.claimedIds
    (self : CfpSchedulerDO)
    (state : SchedulerState)
    (event : SchedulerEvent) : List String :=
  match self.segment state event with
  | none => []
  | some segment =>
      (segment.claimedRows self event.loopReadings).map JobsRow.id

/-- What a step adds to the claims. -/
def CfpSchedulerDO.recordDeliveries
    (self : CfpSchedulerDO)
    (state : SchedulerState)
    (event : SchedulerEvent)
    (deliveries : Deliveries) : Deliveries :=
  fun jobId =>
    state.countedFrom deliveries jobId +
      (self.claimedIds state event).count jobId

/--
Every job has been claimed at most `1 + retry.max` times, and one that has been
claimed `retry.max` times is not queued and does not survive another failure.
-/
structure DeliveriesBounded
    (store : JobStore)
    (deliveries : Deliveries) : Prop where
  bounded :
    ∀ row ∈ store.jobs.rows, deliveries row.id ≤ 1 + row.retryMax.toNat
  ends :
    ∀ row ∈ store.jobs.rows,
      1 ≤ deliveries row.id →
      row.retryMax ≤ deliveries row.id →
      row.status ≠ .queued ∧
        (row.status = .leased →
          ∀ error, (row.failedOnce error).status = .failed)

/--
The condition on a step: it reclaims no lease, and claims no row whose lease
has run out.
-/
structure DeliveriesCounted
    (scheduler : CfpSchedulerDO)
    (state : SchedulerState)
    (event : SchedulerEvent) : Prop where
  reclaims : state.reclaimedRows event = []
  claims :
    ∀ segment ∈ scheduler.segment state event,
      ∀ row ∈ segment.claimedRows scheduler event.loopReadings,
        row.status = .queued

instance
    (scheduler : CfpSchedulerDO)
    (state : SchedulerState)
    (event : SchedulerEvent) :
    Decidable (DeliveriesCounted scheduler state event) :=
  decidable_of_iff ((state.reclaimedRows event).isEmpty ∧ _)
    ⟨fun counted => ⟨List.isEmpty_iff.mp counted.1, counted.2⟩,
      fun counted =>
        ⟨List.isEmpty_iff.mpr counted.reclaims, counted.claims⟩⟩

/-! ## The invariant -/

/-- The claims of a job fit its row. -/
structure JobsRow.Counts
    (row : JobsRow)
    (claims : Nat) : Prop where
  queued :
    row.status = .queued →
    claims = row.retryCount ∧ claims < max row.retryMax 1
  leased : row.status = .leased → claims = row.retryCount + 1
  bounded : claims ≤ max row.retryMax 1

/-- A job in its final state has no more claims to come. -/
theorem JobsRow.Counts.of_terminal
    {row : JobsRow}
    {claims : Nat}
    (terminal : row.status.isTerminal)
    (bounded : claims ≤ max row.retryMax 1) :
    row.Counts claims where
  queued queued := by
    rw [queued] at terminal
    cases terminal
  leased leased := by
    rw [leased] at terminal
    cases terminal
  bounded := bounded

/-- A row that counts its claims goes on counting them. -/
theorem JobsRow.Move.counts
    {call : JobStoreCall}
    {old : Option JobsRow}
    {new : JobsRow}
    {claims : Nat}
    (moved : JobsRow.Move call old (some new))
    (noClaim : ∀ now req, call ≠ .claim now req)
    (noReclaim :
      ∀ now row,
        call = .reclaimExpiredLeases now →
        old = some row →
        ¬ JobStore.isReclaimable now row)
    (fresh :
      ∀ now job,
        call = .enqueue now job →
        job.retryCount = 0 ∧ (old = none → claims = 0))
    (counts : ∀ row ∈ old, row.Counts claims) :
    new.Counts claims := by
  cases moved with
  | stay =>
      exact counts new rfl
  | @insert now job =>
      obtain ⟨zero, unclaimed⟩ := fresh now job rfl
      obtain rfl := unclaimed rfl
      refine {
        queued := fun _ => ⟨zero.symm, ?_⟩
        leased := fun wrong => by cases wrong
        bounded := ?_
      }
      · exact Int.lt_of_lt_of_le Int.one_pos (le_max_right _ _)
      · exact (Int.zero_le_ofNat 1).trans (le_max_right _ _)
  | lease => exact absurd rfl (noClaim _ _)
  | @ack _ _ row _ _ _ =>
      exact .of_terminal rfl (counts row rfl).bounded
  | @fail _ _ row error leased =>
      have isLeased : row.status = .leased :=
        of_decide_eq_true (Bool.and_eq_true_iff.mp leased).1
      have before := counts row rfl
      have claimed := before.leased isLeased
      refine {
        queued := fun queued => ⟨claimed, ?_⟩
        leased := fun wrong => ?_
        bounded := before.bounded
      }
      · unfold JobsRow.failedOnce at queued
        dsimp only at queued
        split at queued
        · cases queued
        next retriesLeft =>
          rw [claimed]
          exact Int.lt_of_lt_of_le (Int.not_le.mp retriesLeft)
            (le_max_left _ _)
      · unfold JobsRow.failedOnce at wrong
        dsimp only at wrong
        split at wrong <;> cases wrong
  | @failQueued _ row =>
      exact .of_terminal rfl (counts row rfl).bounded
  | @cancel _ row =>
      exact .of_terminal rfl (counts row rfl).bounded
  | reclaim reclaimable =>
      exact absurd reclaimable (noReclaim _ _ rfl rfl)

/-- Every stored row counts the claims of its job. -/
def ClaimsCounted
    (store : JobStore)
    (deliveries : Deliveries) : Prop :=
  ∀ jobId row,
    store.row? jobId = some row → row.Counts (deliveries jobId)

/-- With the invariant the deliveries are bounded. -/
theorem ClaimsCounted.bounded
    {store : JobStore}
    {deliveries : Deliveries}
    (counted : ClaimsCounted store deliveries) :
    DeliveriesBounded store deliveries where
  bounded row member := by
    have bounded := (counted row.id row (JobStore.row?_of_mem member)).bounded
    omega
  ends row member claimed exhausted := by
    have counts := counted row.id row (JobStore.row?_of_mem member)
    constructor
    · intro queued
      have below := (counts.queued queued).2
      omega
    · intro leased error
      have claims := counts.leased leased
      unfold JobsRow.failedOnce
      dsimp only
      rw [if_pos (by omega)]

/-! ## Steps and runs -/

/-- A job that a step accepts has not been retried. -/
theorem CfpSchedulerDO.retryCount_of_segmentCalls
    {self : CfpSchedulerDO}
    {state : SchedulerState}
    {event : SchedulerEvent}
    {now : Int}
    {job : PersistedJob}
    (isCall : .enqueue now job ∈ self.segmentCalls state event) :
    job.retryCount = 0 := by
  cases callFrom isCall
  rfl

/-- What a step reclaims are the rows whose lease has run out. -/
theorem CfpSchedulerDO.reclaimedRows_of_segmentCalls
    {self : CfpSchedulerDO}
    {state : SchedulerState}
    {event : SchedulerEvent}
    {now : Int}
    (isCall : .reclaimExpiredLeases now ∈ self.segmentCalls state event) :
    state.reclaimedRows event =
      state.store.jobs.rows.filter (JobStore.isReclaimable now) := by
  cases callFrom isCall with
  | reclaimExpiredLeases found =>
      unfold SchedulerState.reclaimedRows
      dsimp only
      rw [found]

/-- A step's own part, which reclaims no lease. -/
theorem claimsCounted_segment
    {self : CfpSchedulerDO}
    {state : SchedulerState}
    {event : SchedulerEvent}
    {segment : Segment}
    {deliveries : Deliveries}
    (isSegment : self.segment state event = some segment)
    (reclaims : state.reclaimedRows event = [])
    (counted : ClaimsCounted state.store deliveries) :
    ClaimsCounted segment.state.store (state.countedFrom deliveries) := by
  intro jobId new found
  have counts (row : JobsRow) (isRow : state.store.row? jobId = some row) :
      row.Counts (state.countedFrom deliveries jobId) := by
    unfold SchedulerState.countedFrom
    rw [isRow]
    exact counted jobId row isRow
  rw [store_segment isSegment] at found
  rcases CfpSchedulerDO.row?_segmentCalls found with
    same | ⟨call, isCall, moved⟩
  · exact counts new same
  · refine moved.counts (CfpSchedulerDO.segmentCalls_ne_claim isCall) ?_ ?_ counts
    · rintro now row rfl isRow reclaimable
      have reclaimed : row ∈ state.reclaimedRows event := by
        rw [CfpSchedulerDO.reclaimedRows_of_segmentCalls isCall]
        exact List.mem_filter.mpr ⟨JobStore.mem_of_row? isRow, reclaimable⟩
      rw [reclaims] at reclaimed
      cases reclaimed
    · rintro now job rfl
      refine ⟨CfpSchedulerDO.retryCount_of_segmentCalls isCall,
        fun absent => ?_⟩
      unfold SchedulerState.countedFrom
      rw [absent]

/-- The end of a step, which claims queued rows only. -/
theorem claimsCounted_finish
    {self : CfpSchedulerDO}
    {readings : LoopReadings}
    {segment : Segment}
    {deliveries : Deliveries}
    (queued :
      ∀ row ∈ segment.claimedRows self readings, row.status = .queued)
    (counted : ClaimsCounted segment.state.store deliveries) :
    ClaimsCounted (segment.finish self readings).store fun jobId =>
      deliveries jobId +
        ((segment.claimedRows self readings).map JobsRow.id).count jobId := by
  have loopEnd := segment.loopEnd self readings
  have unclaimed
      (noRow : segment.claimedRows self readings = [])
      (jobId : String) :
      deliveries jobId +
          ((segment.claimedRows self readings).map JobsRow.id).count jobId =
        deliveries jobId := by
    rw [noRow]
    rfl
  generalize (segment.finish self readings).dispatcher.loop = loop at loopEnd
  generalize (segment.finish self readings).store = store at loopEnd ⊢
  intro jobId new found
  dsimp only
  cases loopEnd with
  | stays unpicked =>
      rw [unclaimed (by simp [Segment.claimedRows, unpicked])]
      exact counted jobId new found
  | rejected picked rejects =>
      rw [unclaimed (by simp [Segment.claimedRows, picked, rejects])]
      exact counted jobId new found
  | @failedExpired job dispatcher picked rejects passed =>
      rw [unclaimed (by simp [Segment.claimedRows, picked, passed])]
      have moved :=
        segment.state.store.row?_invoke
          (.failQueued readings.check job.id (deadlineError job)) jobId
      change JobsRow.Move _ _ (JobStore.row? (JobStore.failQueued ..).1 _)
        at moved
      rw [found] at moved
      exact moved.counts (fun _ _ wrong => by cases wrong)
        (fun _ _ wrong => by cases wrong) (fun _ _ wrong => by cases wrong)
        (counted jobId)
  | missed picked rejects _ noRow =>
      rw [unclaimed noRow]
      exact counted jobId new found
  | @claimed job dispatcher row leased next picked _ _ claimedRow isRow _
      isLeased rows =>
      rw [rows] at found
      rw [claimedRow, List.map_singleton, List.count_singleton]
      split at found
      next isJob =>
        subst isJob
        cases found
        have isQueued : row.status = .queued :=
          queued row (by rw [claimedRow]; exact List.mem_singleton_self row)
        obtain ⟨claims, below⟩ := (counted row.id row isRow).queued isQueued
        rw [isLeased]
        refine {
          queued := fun wrong => by cases wrong
          leased := fun _ => ?_
          bounded := ?_
        }
        · have again : (deliveries row.id : Int) + 1 = row.retryCount + 1 := by
            rw [claims]
          simpa [JobsRow.lease] using again
        · have again : (deliveries row.id : Int) + 1 ≤ max row.retryMax 1 :=
            Int.add_one_le_of_lt below
          simpa [JobsRow.lease] using again
      next otherJob =>
        rw [if_neg (by simpa using Ne.symm otherJob)]
        exact counted jobId new found

/-- A step that meets the condition keeps the claims counted. -/
theorem claimsCounted_step
    {self : CfpSchedulerDO}
    {current next : SchedulerState × Deliveries}
    {event : SchedulerEvent}
    (met : DeliveriesCounted self current.1 event)
    (recorded :
      recording self.step self.recordDeliveries current event = some next)
    (counted : ClaimsCounted current.1.store current.2) :
    ClaimsCounted next.1.store next.2 := by
  obtain ⟨_, stepped, rfl⟩ := Option.map_eq_some_iff.mp recorded
  obtain ⟨segment, isSegment, rfl⟩ := Option.map_eq_some_iff.mp stepped
  have before := claimsCounted_segment isSegment met.reclaims counted
  have after :=
    claimsCounted_finish (met.claims segment isSegment) before
  unfold CfpSchedulerDO.recordDeliveries CfpSchedulerDO.claimedIds
  rw [isSegment]
  exact after

/--
In a run in which no lease is reclaimed and no lease that has run out is
claimed again, every job is claimed at most `1 + retry.max` times, and one that
has used up its retries is not queued again.
-/
theorem scheduler_deliveriesBounded
    {self : CfpSchedulerDO}
    {events : List SchedulerEvent}
    {final : SchedulerState × Deliveries}
    (run :
      GuardedRun (recording self.step self.recordDeliveries)
        (fun current => DeliveriesCounted self current.1) ({}, fun _ => 0)
        events final) :
    DeliveriesBounded final.1.store final.2 := by
  have counted : ClaimsCounted final.1.store final.2 :=
    @GuardedRun.invariant _ _ _ _
      (fun (current : SchedulerState × Deliveries) =>
        ClaimsCounted current.1.store current.2)
      claimsCounted_step _ _ _ run fun _ _ found => by cases found
  exact counted.bounded

/-- A job fails and, when its timer fires, is started again. -/
def flakyRetried : List SchedulerEvent :=
  [ .enqueue .flaky, .resume 0 (.at 10), .resume 0 (.at 10),
    .resume 0 (.at 10), .resume 0 (.at 10),
    .resumeLoop { check := 10, claim := 10 },
    .settle 1 (.error (.error "Error" "not yet" none none)),
    .resume 1 (.at 20), .resume 1 (.at 20), .resume 1 (.at 20),
    .resume 2 (.at 20), .resume 3 (.at 60020),
    .resumeLoop { check := 60020, claim := 60020 } ]

/-- It has been claimed twice. -/
theorem scheduler_deliveriesBounded_flakyRetried :
    ∃ final : SchedulerState × Deliveries,
      GuardedRun
          (recording (CfpSchedulerDO.step .plain)
            (CfpSchedulerDO.recordDeliveries .plain))
          (fun current => DeliveriesCounted .plain current.1)
          ({}, fun _ => 0) flakyRetried final ∧
        final.2 "flaky" = 2 ∧ DeliveriesBounded final.1.store final.2 := by
  have executed :
      (flakyRetried.foldlM
          (fun current event =>
            if DeliveriesCounted .plain current.1 event then
              recording (CfpSchedulerDO.step .plain)
                (CfpSchedulerDO.recordDeliveries .plain) current event
            else
              none) ({}, fun _ => 0)).any
        fun final => final.2 "flaky" = 2 := by
    decide +kernel
  obtain ⟨final, isFinal, twice⟩ := (Option.any_eq_true _ _).mp executed
  have run := GuardedRun.of_checked isFinal
  exact ⟨final, run, of_decide_eq_true twice,
    scheduler_deliveriesBounded run⟩

/-- A job that is not to be retried, and that runs for longer than a minute. -/
def SchedulerEnqueueRequest.once : SchedulerEnqueueRequest :=
  { slow with
    id := "once"
    retry := { max := 0, backoff := .constant, baseMs := 200 } }

/-- The job outlives its lease, and the alarm of another job reclaims it. -/
def onceRunsTwice : List SchedulerEvent :=
  .enqueue .once :: slowStarts.tail ++ flakyFails ++ alarmFires

/-- A job with no retries is claimed twice: a reclaim does not count. -/
theorem scheduler_exceeds_retries :
    ∃ final : SchedulerState × Deliveries,
      Run
          (recording (CfpSchedulerDO.step .plain)
            (CfpSchedulerDO.recordDeliveries .plain))
          ({}, fun _ => 0) onceRunsTwice final ∧
        final.2 "once" = 2 ∧ ¬ DeliveriesBounded final.1.store final.2 := by
  have executed :
      (onceRunsTwice.foldlM
          (recording (CfpSchedulerDO.step .plain)
            (CfpSchedulerDO.recordDeliveries .plain)) ({}, fun _ => 0)).any
        fun final =>
          final.2 "once" = 2 &&
            final.1.store.jobs.rows.any fun row =>
              row.id = "once" && row.retryMax = 0 := by
    decide +kernel
  obtain ⟨final, isFinal, twice⟩ := (Option.any_eq_true _ _).mp executed
  simp only [Bool.and_eq_true, decide_eq_true_eq] at twice
  obtain ⟨claims, hasRow⟩ := twice
  obtain ⟨row, member, isOnce⟩ := List.any_eq_true.mp hasRow
  simp only [Bool.and_eq_true, decide_eq_true_eq] at isOnce
  refine ⟨final, .of_foldlM isFinal, claims, fun bounded => ?_⟩
  have atMostOne := bounded.bounded row member
  rw [isOnce.1, isOnce.2, claims] at atMostOne
  exact absurd atMostOne (by decide)

end CloudflareParallel
