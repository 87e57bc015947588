import CloudflareParallel.SchedulerOpenExecutions

namespace CloudflareParallel

open KeyedTables LabelledRuns

/-!
# When a scheduled job has at most one live execution

Every step keeps the executions single, unless its reclaim or its claim takes
a lease that has run out from an execution which has not been stored.
-/

/-- The outcome of an execution is stored. -/
theorem singleHold_storeOutcome
    {self : CfpSchedulerDO}
    {state : SchedulerState}
    {index : Nat}
    {readings : Readings}
    {job : PersistedJob}
    {outcome : Except Thrown JsValue}
    (found : state.tasks[index]? = some (.settled job outcome))
    (single : SingleHold state) :
    SingleHold (self.storeOutcome state index readings job outcome) := by
  have closes
      {next : SchedulerState}
      {task : SchedulerTask}
      (closed : ∀ jobId, task.isOpen jobId = false)
      (sameTasks : next.tasks = state.tasks)
      (sameLoop : next.dispatcher.loop = state.dispatcher.loop)
      (held :
        ∀ jobId,
          job.id ≠ jobId →
          state.store.Holds jobId →
          next.store.Holds jobId) :
      SingleHold (next.setTask index task) := by
    have counted (jobId : String) :
        (next.setTask index task).openExecutions jobId +
            (decide (job.id = jobId)).toNat =
          state.openExecutions jobId := by
      have exact :=
        SchedulerState.openExecutions_setTask (sameTasks ▸ found) task jobId
      rw [closed] at exact
      simpa [SchedulerState.openExecutions, sameTasks, sameLoop,
        SchedulerTask.isOpen] using exact
    refine single.mono (fun jobId => ?_) fun jobId isOpen => ?_
    · exact Nat.le_of_add_right_le (counted jobId).le
    · refine held jobId ?_
      rintro rfl
      have wasOpen := counted job.id
      have single := single.atMostOne job.id
      rw [decide_eq_true rfl, Bool.toNat_true] at wasOpen
      omega
  unfold CfpSchedulerDO.storeOutcome
  split
  next value =>
    split
    · exact single.goOn found (fun _ isOpen => isOpen) rfl rfl fun _ => id
    · exact closes (fun _ => rfl) rfl rfl fun jobId different held =>
        held.ack _ different _ _ _
  next rawErr =>
    split
    · exact closes (fun _ => rfl) rfl rfl fun _ _ => id
    · dsimp only
      apply closes
      · intro jobId
        split <;> rfl
      · rfl
      · rfl
      · intro jobId different held
        exact held.fail _ different _ _

/-- An enqueue starts or is refused. -/
theorem singleHold_startEnqueue
    {state : SchedulerState}
    {index : Nat}
    {readings : Readings}
    {req : SchedulerEnqueueRequest}
    (found : state.tasks[index]? = some (.rebuilt (.enqueue req)))
    (single : SingleHold state) :
    SingleHold (state.startEnqueue index readings req) := by
  have refused (err : Thrown) :
      SingleHold
        ((state.reply (.rejected err)).setTask index .finished) :=
    single.goOn found (fun _ isOpen => by cases isOpen) rfl rfl fun _ => id
  unfold SchedulerState.startEnqueue
  dsimp only
  split
  · exact refused _
  · split
    · exact refused _
    · split
      · exact refused _
      next store accepted =>
        exact single.goOn found (fun _ isOpen => by cases isOpen) rfl rfl
          fun _ held => held.enqueue accepted

/-- The caller of a rebuild goes on. -/
theorem singleHold_afterRebuild
    {state : SchedulerState}
    {index : Nat}
    {readings : Readings}
    {caller : RebuildCaller}
    (found : state.tasks[index]? = some (.rebuilt caller))
    (reclaims :
      ∀ row ∈ state.reclaimedRows (.resume index readings),
        state.openExecutions row.id = 0)
    (single : SingleHold state) :
    SingleHold (state.afterRebuild index readings caller).state := by
  cases caller with
  | enqueue req =>
      exact singleHold_startEnqueue found single
  | alarmStart =>
      have respected :
          ∀ jobId,
            0 < state.openExecutions jobId →
            ∀ row,
              state.store.row? jobId = some row →
              ¬ JobStore.isReclaimable readings.now row := by
        intro jobId isOpen row isRow reclaimable
        have closed := reclaims row (by
          simp only [SchedulerState.reclaimedRows, found]
          exact List.mem_filter.mpr
            ⟨JobStore.mem_of_row? isRow, reclaimable⟩)
        rw [JobStore.id_of_row? isRow] at closed
        omega
      have fewer :=
        @SchedulerState.openExecutions_setTask_le state index _
          (.alarmReclaimed readings.now
            (state.store.reclaimExpiredLeases readings.now).2)
          found fun _ isOpen => by cases isOpen
      refine single.mono fewer fun jobId isOpen held => ?_
      exact held.reclaimExpiredLeases
        (respected jobId (Nat.lt_of_lt_of_le isOpen (fewer jobId)))
  | alarmSweep now =>
      exact single.goOn found (fun _ isOpen => by cases isOpen) rfl rfl
        fun _ held => held.sweepExpired now
  | alarmKick now =>
      exact single.goOn found (fun _ isOpen => by cases isOpen) rfl rfl
        fun _ => id

/-- A suspended task goes on. -/
theorem singleHold_resumeTask
    {self : CfpSchedulerDO}
    {state : SchedulerState}
    {index : Nat}
    {readings : Readings}
    {task : SchedulerTask}
    {segment : Segment}
    (found : state.tasks[index]? = some task)
    (resumed : self.resumeTask state index readings task = some segment)
    (reclaims :
      ∀ row ∈ state.reclaimedRows (.resume index readings),
        state.openExecutions row.id = 0)
    (single : SingleHold state) :
    SingleHold segment.state := by
  cases task with
  | rebuild queued caller =>
      cases resumed
      exact single.goOn found (fun _ isOpen => by cases isOpen) rfl
        (Dispatcher.sameButReady_foldl ..).loop fun _ => id
  | rebuilt caller =>
      cases resumed
      exact singleHold_afterRebuild found reclaims single
  | enqueueStored job =>
      cases resumed
      exact single.goOn found (fun _ isOpen => by cases isOpen) rfl
        (Dispatcher.sameButReady_enqueueReady ..).loop fun _ => id
  | enqueueReturn id =>
      cases resumed
      exact single.goOn found (fun _ isOpen => by cases isOpen) rfl rfl
        fun _ held => held
  | cancelDone jobId ok =>
      cases resumed
      refine single.goOn found (fun _ isOpen => by cases isOpen) ?_ ?_ ?_
      · cases ok <;> rfl
      · cases ok with
        | false => rfl
        | true => exact (Dispatcher.sameButReady_dropFromReady ..).loop
      · cases ok <;> exact fun _ held => held
  | cancelTenant tenantId reason active count =>
      cases active with
      | nil =>
          cases resumed
          exact single.goOn found (fun _ isOpen => by cases isOpen) rfl rfl
            fun _ => id
      | cons job rest =>
          cases resumed
          exact single.goOn found (fun _ isOpen => by cases isOpen) rfl rfl
            fun _ held => held.cancel ..
  | alarmReclaimed now reclaimed =>
      simp only [CfpSchedulerDO.resumeTask] at resumed
      split at resumed
      · cases resumed
        exact single.goOn found (fun _ isOpen => by cases isOpen) rfl rfl
          fun _ => id
      · cases resumed
        exact single.goOn found (fun _ isOpen => by cases isOpen) rfl rfl
          fun _ held => held.sweepExpired now
  | alarmSwept now =>
      cases resumed
      unfold SchedulerState.backstop
      split
      · exact single.goOn found (fun _ isOpen => by cases isOpen) rfl rfl
          fun _ => id
      · exact single.goOn found (fun _ isOpen => by cases isOpen) rfl rfl
          fun _ => id
  | writeAlarm existing wakeAt =>
      cases resumed
      exact single.goOn found (fun _ isOpen => by cases isOpen) rfl rfl
        fun _ => id
  | running job call =>
      cases resumed
  | settled job outcome =>
      cases resumed
      exact singleHold_storeOutcome found single
  | requeueing job =>
      cases resumed
      have hooked :
          SingleHold
            ((state.setTask index (.finishing job)).addTask
              (.writeAlarm state.alarm
                (readings.now + retryDelayMs job))) :=
        (single.goOn found (fun _ isOpen => by cases isOpen) rfl rfl
          fun _ => id).start (fun _ => rfl) rfl rfl fun _ => id
      unfold SchedulerState.scheduleRetry
      dsimp only
      split
      · refine hooked.mono (fun jobId => ?_) fun _ _ => id
        exact (SchedulerState.openExecutions_withDispatcher _
          (Dispatcher.sameButReady_enqueueReady ..).loop jobId).le
      · exact hooked.start (fun _ => rfl) rfl rfl fun _ => id
  | finishing job =>
      cases resumed
      exact single.goOn found (fun _ isOpen => by cases isOpen) rfl rfl
        fun _ => id
  | retryTimer job wakeAt =>
      simp only [CfpSchedulerDO.resumeTask] at resumed
      split at resumed
      · cases resumed
        exact single.goOn found (fun _ isOpen => by cases isOpen) rfl
          (Dispatcher.sameButReady_enqueueReady ..).loop fun _ => id
      · cases resumed
  | finished =>
      cases resumed

/-- The dispatch loop starts the run of the job it has claimed. -/
theorem singleHold_resumeLoop
    {self : CfpSchedulerDO}
    {state : SchedulerState}
    {segment : Segment}
    (resumed : self.resumeLoop state = some segment)
    (single : SingleHold state) :
    SingleHold segment.state := by
  have released
      {dispatcher : Dispatcher}
      (idle : dispatcher.loop = .idle) :
      SingleHold (state.withDispatcher dispatcher) :=
    single.ofLoop (fun _ => by rw [idle]; rfl) fun _ => id
  unfold CfpSchedulerDO.resumeLoop at resumed
  dsimp only at resumed
  split at resumed
  · cases resumed
  · cases resumed
    exact released rfl
  · cases resumed
    exact released rfl
  · cases resumed
    exact released rfl
  next target suspended =>
    cases resumed
    refine single.mono (fun jobId => ?_) fun _ _ => id
    rw [SchedulerState.openExecutions_addTask]
    simp [SchedulerState.openExecutions, suspended, LoopState.holds,
      SchedulerTask.isOpen]

/-- What happens before the loop is kicked keeps every execution single. -/
theorem singleHold_segment
    {self : CfpSchedulerDO}
    {state : SchedulerState}
    {event : SchedulerEvent}
    {segment : Segment}
    (isSegment : self.segment state event = some segment)
    (reclaims :
      ∀ row ∈ state.reclaimedRows event, state.openExecutions row.id = 0)
    (single : SingleHold state) :
    SingleHold segment.state := by
  have begins
      {state : SchedulerState}
      (single : SingleHold state)
      (caller : RebuildCaller) :
      SingleHold
        ((state.ensureInit caller).1.addTask (state.ensureInit caller).2) := by
    unfold SchedulerState.ensureInit
    split
    · exact single.start (fun _ => rfl) rfl rfl fun _ => id
    · exact single.start (fun _ => rfl) rfl rfl fun _ => id
  cases event with
  | enqueue req =>
      cases isSegment
      exact begins single _
  | cancel jobId reason now =>
      cases isSegment
      exact single.start (fun _ => rfl) rfl rfl fun _ held => held.cancel ..
  | cancelByTenant tenantId reason =>
      cases isSegment
      exact single.start (fun _ => rfl) rfl rfl fun _ => id
  | configure c =>
      cases isSegment
      refine single.mono (fun jobId => ?_) fun _ _ => id
      cases created : state.created <;>
        simp [SchedulerState.openExecutions, SchedulerState.configure,
          SchedulerState.reply, SchedulerState.dispatcher,
          Dispatcher.configure, created]
  | status jobId =>
      cases isSegment
      exact single.mono (fun _ => Nat.le_refl _) fun _ _ => id
  | result jobId now =>
      cases isSegment
      exact single.mono (fun _ => Nat.le_refl _) fun _ _ => id
  | deliverAlarm now =>
      simp only [CfpSchedulerDO.segment] at isSegment
      split at isSegment
      · split at isSegment
        next time _ _ _ =>
          cases isSegment
          have delivered : SingleHold (state.withAlarm none (some time)) :=
            single.mono (fun _ => Nat.le_refl _) fun _ _ => id
          exact begins delivered .alarmStart
        · cases isSegment
      · cases isSegment
  | resume index readings =>
      obtain ⟨task, found, resumed⟩ := Option.bind_eq_some_iff.mp isSegment
      exact singleHold_resumeTask found resumed reclaims single
  | resumeLoop readings =>
      exact singleHold_resumeLoop isSegment single
  | settle index outcome =>
      simp only [CfpSchedulerDO.segment] at isSegment
      split at isSegment
      next job call found =>
        cases isSegment
        exact single.goOn found (fun _ isOpen => isOpen) rfl rfl fun _ => id
      · cases isSegment
  | evict =>
      cases isSegment
      refine single.mono (fun jobId => ?_) fun _ _ => id
      exact Nat.zero_le _

/-- A claim that takes no lease from an open execution opens the only one. -/
theorem singleHold_claim
    {self : CfpSchedulerDO}
    {state : SchedulerState}
    {now : Int}
    {dispatcher : Dispatcher}
    {job : PersistedJob}
    (respected :
      ∀ row ∈
        state.store.claimCandidates now
          (self.claimRequest dispatcher.config job),
        ¬ state.Outlived now row)
    (notHolding : ∀ jobId, state.dispatcher.loop.holds jobId = false)
    (single : SingleHold state) :
    SingleHold
      ((state.withStore
          (state.store.claim now
            (self.claimRequest dispatcher.config job)).1).withDispatcher
        { dispatcher with
          loop :=
            .claimed
              (state.store.claim now
                (self.claimRequest dispatcher.config job)).2.head? }) := by
  rcases
      @JobStore.claim_cases state.store now
        (self.claimRequest dispatcher.config job) rfl with
    ⟨_, none⟩ | ⟨row, next, selected, claimed, rows⟩
  · rw [none]
    exact single.ofLoop (fun _ => rfl) fun _ => id
  · rw [claimed]
    obtain ⟨found, claimable⟩ :=
      @JobStore.claimable_of_candidate state.store now
        (self.claimRequest dispatcher.config job) row (by simp [selected])
    have free : row.isFree now := (Bool.and_eq_true_iff.mp claimable).1
    have closed : state.openExecutions row.id = 0 := by
      by_contra isOpen
      have positive := Nat.pos_of_ne_zero isOpen
      obtain ⟨held, isHeld, status⟩ := single.rowHeld row.id positive
      rw [found] at isHeld
      cases isHeld
      refine respected row (by simp [selected]) ⟨?_, positive⟩
      rcases status with leased | cancelled
      · simpa [JobsRow.isFree, JobStore.isReclaimable, leased] using free
      · simp [JobsRow.isFree, cancelled] at free
    exact
      @SingleHold.opened state single next _
        (rowToJob
          (row.lease self.ownerId
            (now + dispatcher.config.defaultLeaseMs)))
        _ closed notHolding rfl rfl rows

/-- Kicking the loop keeps every execution single. -/
theorem singleHold_kick
    {self : CfpSchedulerDO}
    {readings : LoopReadings}
    {segment : Segment}
    (kicks : segment.entry ≠ .stay)
    (respected :
      ∀ row ∈ segment.claimedRows self readings,
        ¬ segment.state.Outlived readings.claim row)
    (single : SingleHold segment.state) :
    SingleHold (self.kick readings segment.state) := by
  unfold CfpSchedulerDO.kick
  split
  next idle =>
    have notHolding (jobId : String) :
        segment.state.dispatcher.loop.holds jobId = false := by
      rw [idle]
      rfl
    have ends (dispatcher : Dispatcher) :
        SingleHold
          (segment.state.withDispatcher { dispatcher with loop := .idle }) :=
      single.ofLoop (fun _ => rfl) fun _ => id
    unfold CfpSchedulerDO.dispatchLoop
    split
    next slot =>
      split
      · exact ends _
      next job dispatcher took =>
        unfold CfpSchedulerDO.dispatchJob
        split
        · exact single.ofLoop (fun _ => rfl) fun _ => id
        next accepted =>
          split
          · exact single.ofLoop (fun _ => rfl) fun _ held =>
              held.failQueued ..
          next inTime =>
            apply singleHold_claim _ notHolding single
            intro row candidate
            apply respected row
            unfold Segment.claimedRows
            rw [Segment.pick_eq_some kicks idle slot took]
            simpa [accepted, inTime] using candidate
    next =>
      exact ends _
  next =>
    exact single

/-- Every step that takes no lease away keeps every execution single. -/
theorem singleHold_step
    {self : CfpSchedulerDO}
    {state next : SchedulerState}
    {event : SchedulerEvent}
    (respected : LeasesHeld self state event)
    (stepped : self.step state event = some next)
    (single : SingleHold state) :
    SingleHold next := by
  obtain ⟨segment, isSegment, rfl⟩ := Option.map_eq_some_iff.mp stepped
  have before := singleHold_segment isSegment respected.reclaims single
  have kicked (kicks : segment.entry ≠ .stay) :=
    singleHold_kick kicks (respected.claims segment isSegment) before
  unfold Segment.finish
  split
  next =>
    exact before
  next entry =>
    exact kicked (by simp [entry])
  next now entry =>
    exact (kicked (by simp [entry])).mono (fun _ => Nat.le_refl _)
      fun _ _ => id

/-- A new object has no executions. -/
theorem singleHold_initial : SingleHold {} where
  atMostOne _ := Nat.zero_le _
  rowHeld _ isOpen := absurd isOpen (Nat.lt_irrefl 0)

/--
At most one live execution per job, in every state of every run in which no
reclaim and no claim takes a lease that has run out from an execution whose
outcome has not been stored.
-/
theorem scheduler_atMostOneLive
    {self : CfpSchedulerDO}
    {events : List SchedulerEvent}
    {final : SchedulerState}
    (run : GuardedRun self.step (LeasesHeld self) {} events final) :
    final.AtMostOneLive := by
  have single : SingleHold final :=
    run.invariant singleHold_step singleHold_initial
  intro jobId
  exact (final.liveExecutions_le jobId).trans (single.atMostOne jobId)

/--
The first job's run settles two milliseconds after its lease has run out; then
the alarm of the second job finds no lease to take, and starts its next run.
-/
def slowEndsLate : List SchedulerEvent :=
  slowStarts ++ flakyFails ++
    [ .settle 1 (.ok (.bool true)), .resume 1 (.at 60012),
      .resume 1 (.at 60012), .deliverAlarm 60020 ] ++
      List.replicate 5 (.resume 6 (.at 60020)) ++
        [.resumeLoop { check := 60020, claim := 60020 }]

/-- Afterwards the retried job alone has a live execution. -/
theorem scheduler_atMostOneLive_slowEndsLate :
    ∃ final,
      GuardedRun (CfpSchedulerDO.step .plain) (LeasesHeld .plain) {}
          slowEndsLate final ∧
        final.store.status "slow" = some .done ∧
          final.liveExecutions "flaky" = 1 ∧ final.AtMostOneLive := by
  have executed :
      (slowEndsLate.foldlM
          (fun state event =>
            if LeasesHeld .plain state event then
              CfpSchedulerDO.step .plain state event
            else
              none) {}).any
        fun final =>
          final.store.status "slow" = some .done ∧
            final.liveExecutions "flaky" = 1 := by
    decide +kernel
  obtain ⟨final, isFinal, reached⟩ := (Option.any_eq_true _ _).mp executed
  obtain ⟨done, live⟩ := of_decide_eq_true reached
  have run := GuardedRun.of_checked isFinal
  exact ⟨final, run, done, live, scheduler_atMostOneLive run⟩

/-- The alarm is delivered on time and runs to its end. -/
def alarmFires : List SchedulerEvent :=
  .deliverAlarm 60020 ::
    List.replicate 7 (.resume 6 (.at 60020)) ++
      [.resumeLoop { check := 60020, claim := 60020 }]

/--
The alarm that the second job has set reclaims the lease of the first one,
which is ten milliseconds past its minute, and its run is started again.
-/
theorem scheduler_runs_job_twice :
    ∃ final,
      Run (CfpSchedulerDO.step .plain) {}
          (slowStarts ++ flakyFails ++ alarmFires) final ∧
        ¬ final.AtMostOneLive := by
  have executed :
      ((slowStarts ++ flakyFails ++ alarmFires).foldlM
          (CfpSchedulerDO.step .plain) {}).any
        fun final => final.liveExecutions "slow" = 2 := by
    decide +kernel
  obtain ⟨final, isFinal, live⟩ := (Option.any_eq_true _ _).mp executed
  refine ⟨final, .of_foldlM isFinal, fun single => ?_⟩
  have atMostOne := single "slow"
  rw [of_decide_eq_true live] at atMostOne
  omega

end CloudflareParallel
