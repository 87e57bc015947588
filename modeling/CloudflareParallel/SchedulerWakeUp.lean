import CloudflareParallel.SchedulerWakeUpSegments

namespace CloudflareParallel

open KeyedTables LabelledRuns

/-!
# When no accepted job is forgotten

Every step that meets the condition keeps the invariant, so in every state of
every run of such steps each job that is queued or leased has a wake-up.
-/

/-- The loop changes the store and its own memory, and keeps the invariant. -/
theorem wakeUp_loop
    {self : CfpSchedulerDO}
    {segment : Segment}
    {store : JobStore}
    {dispatcher : Dispatcher}
    (invariant : SegmentInvariant self segment)
    (wellFormed : dispatcher.WellFormed)
    (owned : store.OwnedBy self.ownerId)
    (config : dispatcher.config = segment.state.dispatcher.config)
    (accepted : segment.state.Quiet → dispatcher.loop ≠ .rejected)
    (inactive :
      segment.state.NoneActive → (segment.state.withStore store).NoneActive)
    (covers :
      segment.state.Quiet →
      ∀ jobId,
        segment.state.Covers jobId →
        Covered (store.status jobId) (dispatcher.isReady jobId)
          (dispatcher.loop.holds jobId)
          (jobId ∈ OrderedMap.keys dispatcher.running)
          (rolesOf segment.state.tasks jobId))
    (kicked :
      segment.state.Quiet →
      dispatcher.loop = .idle →
      0 < dispatcher.totalReady →
      0 < dispatcher.runningCount) :
    WakeUpInvariant self
      ((segment.state.withStore store).withDispatcher dispatcher) where
  sound := invariant.sound.step wellFormed owned id fun _ => .inl
  kicked quiet := kicked quiet
  awake quiet := by
    have awake := invariant.awake quiet
    refine {
      capacity := ?_
      accepted := accepted quiet
      calm := awake.calm
      inactive := fun uninitialized => inactive (awake.inactive uninitialized)
      covers := fun jobId => covers quiet jobId (awake.covers jobId)
    }
    have capacity := awake.capacity
    unfold SchedulerState.HasCapacity at capacity ⊢
    rw [← config] at capacity
    exact capacity

/-- The loop comes to its end because there is nothing it may take. -/
theorem wakeUp_loopEnds
    {self : CfpSchedulerDO}
    {segment : Segment}
    {dispatcher : Dispatcher}
    (invariant : SegmentInvariant self segment)
    (idle : segment.state.dispatcher.loop = .idle)
    (same : segment.state.dispatcher.SameButReady dispatcher)
    (wellFormed : dispatcher.WellFormed)
    (ready :
      ∀ jobId,
        segment.state.dispatcher.isReady jobId → dispatcher.isReady jobId)
    (kicked :
      segment.state.Quiet →
      0 < dispatcher.totalReady →
      0 < dispatcher.runningCount) :
    WakeUpInvariant self
      (segment.state.withDispatcher { dispatcher with loop := .idle }) := by
  refine @wakeUp_loop self segment segment.state.store _ invariant
    (wellFormed.congr rfl rfl) invariant.sound.owned same.config
    (fun _ wrong => by cases wrong) id (fun _ jobId covered => ?_)
    fun quiet _ => kicked quiet
  unfold SchedulerState.Covers at covered
  rw [idle] at covered
  dsimp only
  rw [same.running]
  exact covered.keep (fun _ => Or.imp_left (ready jobId)) (fun _ => id) id id
    .inl .inl

/-- The loop's claim keeps the invariant. -/
theorem wakeUp_claim
    {self : CfpSchedulerDO}
    {segment : Segment}
    {dispatcher : Dispatcher}
    {job : PersistedJob}
    {now : Int}
    (invariant : SegmentInvariant self segment)
    (same : segment.state.dispatcher.SameButReady dispatcher)
    (wellFormed : dispatcher.WellFormed)
    (idle : segment.state.dispatcher.loop = .idle)
    (staysReady :
      ∀ jobId,
        jobId ≠ job.id →
        segment.state.dispatcher.isReady jobId →
        dispatcher.isReady jobId)
    (selects :
      segment.state.Quiet →
      segment.state.store.status job.id = some .queued →
      ∃ row ∈
        segment.state.store.claimCandidates now
          (self.claimRequest dispatcher.config job),
        row.id = job.id) :
    let claimed :=
      segment.state.store.claim now (self.claimRequest dispatcher.config job)
    WakeUpInvariant self
      ((segment.state.withStore claimed.1).withDispatcher
        { dispatcher with loop := .claimed claimed.2.head? }) := by
  dsimp only
  rcases
      @JobStore.claim_cases segment.state.store now
        (self.claimRequest dispatcher.config job) rfl with
    ⟨none, claimedNone⟩ | ⟨row, next, selected, claimed, rows⟩
  · rw [claimedNone]
    refine wakeUp_loop invariant (wellFormed.congr rfl rfl)
      invariant.sound.owned same.config (fun _ wrong => by cases wrong) id ?_
      fun _ wrong => by cases wrong
    intro quiet jobId covered
    unfold SchedulerState.Covers at covered
    rw [idle] at covered
    dsimp only
    rw [same.running]
    refine covered.keep (fun isQueued => Or.imp_left (staysReady jobId ?_))
      (fun _ => id) id id .inl .inl
    rintro rfl
    obtain ⟨row, candidate, -⟩ := selects quiet isQueued
    rw [none] at candidate
    cases candidate
  · rw [claimed]
    obtain ⟨found, claimable⟩ :=
      @JobStore.claimable_of_candidate segment.state.store now
        (self.claimRequest dispatcher.config job) row (by simp [selected])
    have free : row.isFree now := (Bool.and_eq_true_iff.mp claimable).1
    have wasActive : row.status = .queued ∨ row.status = .leased := by
      simp only [JobsRow.isFree, Bool.or_eq_true, Bool.and_eq_true,
        decide_eq_true_eq] at free
      exact free.imp_right And.left
    refine wakeUp_loop invariant (wellFormed.congr rfl rfl) ?_ same.config
      (fun _ wrong => by cases wrong) ?_ ?_ fun _ wrong => by cases wrong
    · intro jobId other isOther leased
      rw [rows] at isOther
      split at isOther
      · cases isOther
        rfl
      · exact invariant.sound.owned jobId other isOther leased
    · intro none
      have inactive := none row (JobStore.mem_of_row? found)
      rcases wasActive with isStatus | isStatus <;>
        rw [isStatus] at inactive <;>
        cases inactive
    · intro quiet jobId covered
      unfold SchedulerState.Covers at covered
      rw [idle] at covered
      dsimp only
      rw [same.running, JobStore.status, rows]
      by_cases isRow : jobId = row.id
      · rw [if_pos isRow]
        refine covered.claim ?_ ?_
        · rintro ⟨final, isFinal, terminal⟩
          rw [JobStore.status, isRow, found] at isFinal
          cases isFinal
          rcases wasActive with isStatus | isStatus <;>
            rw [isStatus] at terminal <;> cases terminal
        · simp [LoopState.holds, rowToJob, isRow]
      · rw [if_neg isRow]
        have notHolding :
            ((LoopState.claimed
                [rowToJob
                  (row.lease self.ownerId
                    (now + dispatcher.config.defaultLeaseMs))].head?).holds
              jobId) = false := by
          simp [LoopState.holds, rowToJob, Ne.symm isRow]
        change Covered _ _
          ((LoopState.claimed
            [rowToJob
              (row.lease self.ownerId
                (now + dispatcher.config.defaultLeaseMs))].head?).holds jobId)
          _ _
        rw [notHolding]
        refine covered.keep (fun isQueued => Or.imp_left (staysReady jobId ?_))
          (fun _ => id) id id .inl .inl
        rintro rfl
        obtain ⟨other, candidate, sameId⟩ := selects quiet isQueued
        rw [selected, List.mem_singleton] at candidate
        exact isRow (candidate ▸ sameId.symm)

/-- The loop fails a job whose deadline has passed. -/
theorem wakeUp_failExpired
    {self : CfpSchedulerDO}
    {segment : Segment}
    {dispatcher : Dispatcher}
    {job : PersistedJob}
    {now : Int}
    {error : ErrorRecord}
    (invariant : SegmentInvariant self segment)
    (same : segment.state.dispatcher.SameButReady dispatcher)
    (wellFormed : dispatcher.WellFormed)
    (idle : segment.state.dispatcher.loop = .idle)
    (staysReady :
      ∀ jobId,
        jobId ≠ job.id →
        segment.state.dispatcher.isReady jobId →
        dispatcher.isReady jobId) :
    WakeUpInvariant self
      ((segment.state.withStore
          (segment.state.store.failQueued now job.id error).1).withDispatcher
        { dispatcher with loop := .failedExpired }) := by
  have retires :=
    JobStore.Retires.failQueued segment.state.store now job.id error
  refine wakeUp_loop invariant (wellFormed.congr rfl rfl)
    (retires.ownedBy invariant.sound.owned) same.config
    (fun _ wrong => by cases wrong)
    (fun none =>
      @JobStore.Retires.noneActive segment.state
        (segment.state.withStore _) retires none)
    (fun _ jobId covered => ?_) fun _ wrong => by cases wrong
  unfold SchedulerState.Covers at covered
  rw [idle] at covered
  dsimp only
  rw [same.running]
  by_cases isJob : jobId = job.id
  · subst isJob
    rcases JobStore.status_failQueued segment.state.store now job.id error with
      isFailed | ⟨sameStatus, notQueued⟩
    · rw [isFailed]
      exact .ended ⟨.failed, rfl, rfl⟩
    · rw [sameStatus]
      exact covered.keep (fun isQueued => absurd isQueued notQueued)
        (fun _ => id) id id .inl .inl
  · have sameStatus :
        (segment.state.store.failQueued now job.id error).1.status jobId =
          segment.state.store.status jobId :=
      @JobStore.status_of_map _ _ _ _
        (fun row => decide (row.status = .queued)) _
        (JobStore.row?_failQueued ..) isJob
    rw [sameStatus]
    exact covered.keep (fun _ => Or.imp_left (staysReady jobId isJob))
      (fun _ => id) id id .inl .inl

/-- The loop fails or claims the job that it has taken. -/
theorem wakeUp_dispatchJob
    {self : CfpSchedulerDO}
    {readings : LoopReadings}
    {segment : Segment}
    {dispatcher : Dispatcher}
    {job : PersistedJob}
    (invariant : SegmentInvariant self segment)
    (same : segment.state.dispatcher.SameButReady dispatcher)
    (wellFormed : dispatcher.WellFormed)
    (idle : segment.state.dispatcher.loop = .idle)
    (staysReady :
      ∀ jobId,
        jobId ≠ job.id →
        segment.state.dispatcher.isReady jobId →
        dispatcher.isReady jobId)
    (isPick : segment.pick = some (job, dispatcher))
    (picks : segment.state.Quiet → segment.KeepsPick self readings) :
    WakeUpInvariant self
      (self.dispatchJob readings segment.state dispatcher job) := by
  unfold CfpSchedulerDO.dispatchJob
  split
  next rejected =>
    have noisy : ¬ segment.state.Quiet := by
      intro quiet
      have accepted := (picks quiet (job, dispatcher) isPick).1
      rw [rejected] at accepted
      cases accepted
    exact @wakeUp_loop self segment segment.state.store _ invariant
      (wellFormed.congr rfl rfl) invariant.sound.owned same.config
      (fun quiet => absurd quiet noisy) id
      (fun quiet => absurd quiet noisy) fun quiet => absurd quiet noisy
  next =>
    split
    next passed =>
      exact wakeUp_failExpired invariant same wellFormed idle staysReady
    next inTime =>
      refine wakeUp_claim invariant same wellFormed idle staysReady
        fun quiet isQueued => ?_
      exact (picks quiet (job, dispatcher) isPick).2
        (by simpa using inTime) isQueued

/-- Kicking the loop keeps the invariant. -/
theorem wakeUp_kick
    {self : CfpSchedulerDO}
    {readings : LoopReadings}
    {segment : Segment}
    (kicks : segment.entry ≠ .stay)
    (picks :
      segment.state.Quiet → segment.KeepsPick self readings)
    (invariant : SegmentInvariant self segment) :
    WakeUpInvariant self (self.kick readings segment.state) := by
  have wellFormed := invariant.sound.wellFormed
  unfold CfpSchedulerDO.kick
  split
  next idle =>
    unfold CfpSchedulerDO.dispatchLoop
    split
    next slot =>
      have someReady : 0 < segment.state.dispatcher.totalReady := by
        simp only [Dispatcher.hasSlot, Bool.and_eq_true,
          decide_eq_true_eq] at slot
        exact slot.1
      split
      next dispatcher took =>
        have same := Dispatcher.sameButReady_takeNextReady took
        refine wakeUp_loopEnds invariant idle same
          (wellFormed.takeNextReady took)
          (fun jobId ready =>
            Dispatcher.isReady_takeNextReady took ready fun _ wrong => by
              cases wrong)
          fun quiet _ => ?_
        rw [Dispatcher.runningCount, same.running]
        refine Nat.pos_of_ne_zero fun noneRunning => ?_
        obtain ⟨job, takes⟩ :=
          wellFormed.takes someReady noneRunning
            (invariant.awake quiet).capacity.2
        rw [took] at takes
        cases takes
      next job dispatcher took =>
        have same := Dispatcher.sameButReady_takeNextReady took
        refine wakeUp_dispatchJob invariant same
          (wellFormed.takeNextReady took) idle (fun jobId different ready => ?_)
          (Segment.pick_eq_some kicks idle slot took) picks
        refine Dispatcher.isReady_takeNextReady took ready
          fun other isTaken => ?_
        cases isTaken
        exact different
    next noSlot =>
      refine wakeUp_loopEnds invariant idle (.refl _) wellFormed (fun _ => id)
        fun quiet someReady => ?_
      have capacity := (invariant.awake quiet).capacity.1
      simp only [Dispatcher.hasSlot, Bool.and_eq_true, decide_eq_true_eq,
        not_and] at noSlot
      have full := noSlot someReady
      omega
  next busy =>
    exact {
      sound := invariant.sound
      awake := invariant.awake
      kicked := fun _ idle => absurd idle busy
    }

/-- Every step that meets the condition keeps the invariant. -/
theorem wakeUp_step
    {self : CfpSchedulerDO}
    {state next : SchedulerState}
    {event : SchedulerEvent}
    (kept : WakeUpsKept self state event)
    (stepped : self.step state event = some next)
    (invariant : WakeUpInvariant self state) :
    WakeUpInvariant self next := by
  obtain ⟨segment, isSegment, rfl⟩ := Option.map_eq_some_iff.mp stepped
  have before := wakeUp_segment isSegment kept.evicts kept.keeps invariant
  have kicked (kicks : segment.entry ≠ .stay) :=
    wakeUp_kick kicks (kept.picks segment isSegment) before
  unfold Segment.finish
  split
  next stays =>
    exact {
      sound := before.sound
      awake := before.awake
      kicked := fun quiet => before.kicked quiet stays
    }
  next entry =>
    exact kicked (by simp [entry])
  next now entry =>
    have invariant := kicked (by simp [entry])
    have noisy :
        ¬ ((self.kick event.loopReadings
          segment.state).setNextAlarm now).Quiet := by
      intro quiet
      cases quiet.1
    exact {
      sound := invariant.sound.step invariant.sound.wellFormed
        invariant.sound.owned (fun _ => rfl) fun _ => .inl
      awake := fun quiet => absurd quiet noisy
      kicked := fun quiet => absurd quiet noisy
    }

/-- A new object with an empty store. -/
theorem wakeUpInvariant_initial
    (self : CfpSchedulerDO) : WakeUpInvariant self {} := by
  have loaded : SegmentInvariant self { state := {} } :=
    segmentInvariant_loaded (fun _ _ found => by cases found)
      (.inr fun _ member => by cases member)
  exact ⟨loaded.sound, loaded.awake, fun quiet => loaded.kicked quiet rfl⟩

/--
No job is forgotten in any state of any run in which the object is evicted only
with an alarm stored or with no job queued or leased, and in which, as long as
no alarm is stored, nothing else drops such a job from memory.
-/
theorem scheduler_noJobForgotten
    {self : CfpSchedulerDO}
    {events : List SchedulerEvent}
    {final : SchedulerState}
    (run : GuardedRun self.step (WakeUpsKept self) {} events final) :
    final.NoJobForgotten := by
  have invariant : WakeUpInvariant self final :=
    run.invariant wakeUp_step (wakeUpInvariant_initial self)
  exact invariant.noJobForgotten

/--
The object is evicted while one job runs and another one, which has set the
alarm, waits for its retry; then the alarm loads the object again.
-/
def evictedThenAlarm : List SchedulerEvent :=
  slowStarts ++ flakyFails ++ [.evict, .deliverAlarm 60020] ++
    List.replicate 8 (.resume 0 (.at 60020))

/-- Neither job is forgotten, and the next alarm is stored. -/
theorem scheduler_noJobForgotten_evictedThenAlarm :
    ∃ final,
      GuardedRun (CfpSchedulerDO.step .plain) (WakeUpsKept .plain) {}
          evictedThenAlarm final ∧
        final.store.status "slow" = some .leased ∧
          final.store.status "flaky" = some .queued ∧
            final.alarm = some 65020 ∧ final.NoJobForgotten := by
  have executed :
      (evictedThenAlarm.foldlM
          (fun state event =>
            if WakeUpsKept .plain state event then
              CfpSchedulerDO.step .plain state event
            else
              none) {}).any
        fun final =>
          final.store.status "slow" = some .leased ∧
            final.store.status "flaky" = some .queued ∧
              final.alarm = some 65020 := by
    decide +kernel
  obtain ⟨final, isFinal, reached⟩ := (Option.any_eq_true _ _).mp executed
  obtain ⟨leased, queued, alarm⟩ := of_decide_eq_true reached
  have run := GuardedRun.of_checked isFinal
  exact ⟨final, run, leased, queued, alarm, scheduler_noJobForgotten run⟩

/--
The object is evicted while the job runs: the job stays leased in storage, no
alarm is stored and nothing is left in memory.
-/
theorem scheduler_forgets_job :
    ∃ final,
      Run (CfpSchedulerDO.step .plain) {} (slowStarts ++ [.evict]) final ∧
        ¬ final.NoJobForgotten := by
  have executed :
      ((slowStarts ++ [SchedulerEvent.evict]).foldlM
          (CfpSchedulerDO.step .plain) {}).any
        fun final =>
          final.store.status "slow" = some .leased &&
            !final.alarmPending && final.created.isNone &&
            final.tasks.isEmpty := by
    decide +kernel
  obtain ⟨final, isFinal, forgets⟩ := (Option.any_eq_true _ _).mp executed
  simp only [Bool.and_eq_true, decide_eq_true_eq, Bool.not_eq_true',
    Option.isNone_iff_eq_none, List.isEmpty_iff] at forgets
  obtain ⟨⟨⟨leased, noAlarm⟩, noDispatcher⟩, noTask⟩ := forgets
  refine ⟨final, .of_foldlM isFinal, fun remembered => ?_⟩
  have unloaded :
      final.dispatcher =
        { config := ({} : DispatcherConfig).overlay final.configOverrides } := by
    rw [SchedulerState.dispatcher, noDispatcher]
    rfl
  rcases remembered "slow" .leased leased rfl with
    pending | busy | running | ⟨-, someRuns⟩ | ⟨task, member, -⟩
  · rw [noAlarm] at pending
    cases pending
  · rw [unloaded] at busy
    exact busy rfl
  · rw [unloaded] at running
    cases running
  · rw [unloaded] at someRuns
    exact absurd someRuns (Nat.lt_irrefl 0)
  · rw [noTask] at member
    cases member

end CloudflareParallel
