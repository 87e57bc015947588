import CloudflareParallel.SchedulerDeliveries

namespace CloudflareParallel

open KeyedTables LabelledRuns

/-!
# How often a failing job is run

`fail` compares the incremented retry count with `retry.max`, so it stores a
job as failed once it has been run `retry.max` times, and once where
`retry.max` is zero.  The count in the row goes with the runs of the job as long
as every lease of it is ended by the execution that has it.
-/

/-- How often each job has been run since its row was inserted. -/
abbrev RunCounts : Type :=
  String → Nat

/-- What a step adds to the runs: the loop starts the job it has claimed. -/
def recordRuns
    (state : SchedulerState)
    (event : SchedulerEvent)
    (runs : RunCounts) : RunCounts :=
  fun jobId =>
    state.countedFrom runs jobId +
      (decide (state.started? event = some jobId)).toNat

/--
The condition on a step, for one job: its lease is not reclaimed and not taken
over after it has run out, and it is not failed for its deadline.
-/
structure Undisturbed
    (scheduler : CfpSchedulerDO)
    (jobId : String)
    (state : SchedulerState)
    (event : SchedulerEvent) : Prop where
  reclaims : ∀ row ∈ state.reclaimedRows event, row.id ≠ jobId
  claims :
    ∀ segment ∈ scheduler.segment state event,
      ∀ row ∈ segment.claimedRows scheduler event.loopReadings,
        row.id = jobId → row.status = .queued
  deadline :
    ∀ segment ∈ scheduler.segment state event,
      ∀ pick ∈ segment.pick,
        pick.1.id = jobId →
          deadlinePassed pick.1 event.loopReadings.check = false

instance
    (scheduler : CfpSchedulerDO)
    (jobId : String)
    (state : SchedulerState)
    (event : SchedulerEvent) :
    Decidable (Undisturbed scheduler jobId state event) :=
  decidable_of_iff (_ ∧ _ ∧ _)
    ⟨fun met => ⟨met.1, met.2.1, met.2.2⟩,
      fun kept => ⟨kept.reclaims, kept.claims, kept.deadline⟩⟩

/-! ## The invariant -/

/-- The runs of a job, its open executions and its row fit together. -/
structure JobsRow.RunsFit
    (row : JobsRow)
    (openExecutions held runs : Nat) : Prop where
  queued :
    row.status = .queued →
      openExecutions = 0 ∧
        (runs : Int) = row.retryCount ∧ (runs : Int) < max row.retryMax 1
  leased :
    row.status = .leased →
      openExecutions ≤ 1 ∧
        (openExecutions = 1 →
          1 ≤ runs + held ∧
            ((runs + held : Nat) : Int) = row.retryCount + 1 ∧
              ((runs + held : Nat) : Int) ≤ max row.retryMax 1)
  done : row.status = .done → openExecutions = 0
  failed :
    row.status = .failed →
      openExecutions = 0 ∧ (runs : Int) = max row.retryMax 1

/-- The invariant of one job; an id without a row has no open execution. -/
def RunsFit
    (row : Option JobsRow)
    (openExecutions held runs : Nat) : Prop :=
  (row = none → openExecutions = 0) ∧
    ∀ new ∈ row, new.RunsFit openExecutions held runs

namespace SchedulerState

/-- The loop has claimed the job and has still to start its run. -/
def held
    (state : SchedulerState)
    (jobId : String) : Nat :=
  (state.dispatcher.loop.holds jobId).toNat

theorem held_le_openExecutions
    (state : SchedulerState)
    (jobId : String) :
    state.held jobId ≤ state.openExecutions jobId :=
  Nat.le_add_left ..

end SchedulerState

/-- A row that is not touched, by a step that opens no execution of the job. -/
theorem RunsFit.of_stay
    {row : Option JobsRow}
    {before held runs after heldAfter runsAfter : Nat}
    (fits : RunsFit row before held runs)
    (heldOpen : held ≤ before)
    (fewer : after ≤ before)
    (sameTotal : runsAfter + heldAfter = runs + held)
    (heldAfterOpen : heldAfter ≤ after) :
    RunsFit row after heldAfter runsAfter := by
  refine ⟨fun absent => ?_, fun new isRow => ?_⟩
  · have noneOpen := fits.1 absent
    omega
  · have fit := fits.2 new isRow
    refine {
      queued := fun queued => ?_
      leased := fun leased => ?_
      done := fun done => ?_
      failed := fun failed => ?_
    }
    · obtain ⟨noneOpen, count, below⟩ := fit.queued queued
      exact ⟨by omega, by omega, by omega⟩
    · obtain ⟨atMostOne, counted⟩ := fit.leased leased
      refine ⟨by omega, fun isOpen => ?_⟩
      rw [sameTotal]
      exact counted (by omega)
    · have noneOpen := fit.done done
      omega
    · obtain ⟨noneOpen, count⟩ := fit.failed failed
      exact ⟨by omega, by omega⟩

/-- A failure that queues the row again leaves a retry. -/
theorem JobsRow.retriesLeft_of_queued
    {row : JobsRow}
    {error : ErrorRecord}
    (queued : (row.failedOnce error).status = .queued) :
    row.retryCount + 1 < row.retryMax := by
  unfold failedOnce at queued
  dsimp only at queued
  split at queued
  next => cases queued
  next retriesLeft => exact Int.not_le.mp retriesLeft

/-- A failure that is final has used the retries up. -/
theorem JobsRow.exhausted_of_failed
    {row : JobsRow}
    {error : ErrorRecord}
    (failed : (row.failedOnce error).status = .failed) :
    row.retryMax ≤ row.retryCount + 1 := by
  unfold failedOnce at failed
  dsimp only at failed
  split at failed
  next exhausted => exact exhausted
  next => cases failed

/-- A failure ends the lease, and does not end the job well. -/
theorem JobsRow.failedOnce_status_ne
    (row : JobsRow)
    (error : ErrorRecord) :
    (row.failedOnce error).status ≠ .leased ∧
      (row.failedOnce error).status ≠ .done := by
  unfold failedOnce
  dsimp only
  split
  · exact ⟨JobStatus.noConfusion, JobStatus.noConfusion⟩
  · exact ⟨JobStatus.noConfusion, JobStatus.noConfusion⟩

/-- A row that the call of a step changes. -/
theorem RunsFit.of_move
    {call : JobStoreCall}
    {old new : Option JobsRow}
    {before held runs after heldAfter runsAfter : Nat}
    (fits : RunsFit old before held runs)
    (moved : JobsRow.Move call old new)
    (noClaim : ∀ now req, call ≠ .claim now req)
    (noFailQueued : ∀ now jobId error, call ≠ .failQueued now jobId error)
    (noReclaim :
      ∀ now row,
        call = .reclaimExpiredLeases now →
        old = some row →
        ¬ JobStore.isReclaimable now row)
    (fresh :
      ∀ now job,
        call = .enqueue now job →
        job.retryCount = 0 ∧ (old = none → runs = 0))
    (closes :
      ∀ jobId ∈ call.refusal?.map Prod.fst,
        ∀ row ∈ old, row.id = jobId → after + 1 = before)
    (heldOpen : held ≤ before)
    (fewer : after ≤ before)
    (sameTotal : runsAfter + heldAfter = runs + held)
    (heldAfterOpen : heldAfter ≤ after) :
    RunsFit new after heldAfter runsAfter := by
  have stays := fits.of_stay heldOpen fewer sameTotal heldAfterOpen
  cases moved with
  | stay => exact stays
  | @insert now job =>
      obtain ⟨zero, unrun⟩ := fresh now job rfl
      have noRuns := unrun rfl
      have noneOpen := fits.1 rfl
      refine ⟨(fun absent => by cases absent), fun row isRow => ?_⟩
      cases isRow
      refine {
        queued := fun _ => ⟨by omega, ?_, ?_⟩
        leased := fun wrong => by cases wrong
        done := fun wrong => by cases wrong
        failed := fun wrong => by cases wrong
      }
      · change (runsAfter : Int) = job.retryCount
        omega
      · omega
  | lease => exact absurd rfl (noClaim _ _)
  | @ack now leaseOwner row result resultExpiresMs leased =>
      have isLeased : row.status = .leased :=
        of_decide_eq_true (Bool.and_eq_true_iff.mp leased).1
      have closed := closes row.id rfl row rfl rfl
      have atMostOne := ((fits.2 row rfl).leased isLeased).1
      refine ⟨(fun absent => by cases absent), fun new isNew => ?_⟩
      cases isNew
      exact {
        queued := fun wrong => by cases wrong
        leased := fun wrong => by cases wrong
        done := fun _ => by omega
        failed := fun wrong => by cases wrong
      }
  | @fail now leaseOwner row error leased =>
      have isLeased : row.status = .leased :=
        of_decide_eq_true (Bool.and_eq_true_iff.mp leased).1
      have closed := closes row.id rfl row rfl rfl
      obtain ⟨atMostOne, counted⟩ := (fits.2 row rfl).leased isLeased
      obtain ⟨atLeastOne, count, bound⟩ := counted (by omega)
      refine ⟨(fun absent => by cases absent), fun new isNew => ?_⟩
      cases isNew
      refine {
        queued := fun queued => ?_
        leased := fun wrong => ?_
        done := fun wrong => ?_
        failed := fun failed => ?_
      }
      · have retriesLeft := JobsRow.retriesLeft_of_queued queued
        refine ⟨by omega, ?_, ?_⟩
        · change (runsAfter : Int) = row.retryCount + 1
          omega
        · change (runsAfter : Int) < max row.retryMax 1
          omega
      · exact absurd wrong (row.failedOnce_status_ne error).1
      · exact absurd wrong (row.failedOnce_status_ne error).2
      · have exhausted := JobsRow.exhausted_of_failed failed
        refine ⟨by omega, ?_⟩
        change (runsAfter : Int) = max row.retryMax 1
        omega
  | failQueued => exact absurd rfl (noFailQueued _ _ _)
  | @cancel now row reason active =>
      refine ⟨(fun absent => by cases absent), fun new isNew => ?_⟩
      cases isNew
      exact {
        queued := fun wrong => by cases wrong
        leased := fun wrong => by cases wrong
        done := fun wrong => by cases wrong
        failed := fun wrong => by cases wrong
      }
  | reclaim reclaimable => exact absurd reclaimable (noReclaim _ _ rfl rfl)
  | @sweep now row sweepable =>
      have isDone : row.status = .done :=
        of_decide_eq_true (Bool.and_eq_true_iff.mp sweepable).1
      have noneOpen := (fits.2 row rfl).done isDone
      exact ⟨(fun _ => by omega), (fun new isNew => by cases isNew)⟩

/-! ## Steps -/

/-- A call that stores an outcome is made by a settled execution. -/
theorem CfpSchedulerDO.settled_of_refusal
    {self : CfpSchedulerDO}
    {state : SchedulerState}
    {readings : Readings}
    {task : SchedulerTask}
    {call : JobStoreCall}
    {jobId : String}
    (isCall : call ∈ self.taskCalls state readings task)
    (stores : jobId ∈ call.refusal?.map Prod.fst) :
    ∃ job outcome,
      task = .settled job outcome ∧
        job.id = jobId ∧ readings.rejection = none := by
  unfold taskCalls at isCall
  split at isCall
  case h_1 =>
    split at isCall
    · cases isCall
    · cases List.mem_singleton.mp isCall
      cases stores
  case h_2 | h_3 | h_4 | h_5 =>
    cases List.mem_singleton.mp isCall
    cases stores
  case h_6 job value =>
    split at isCall
    next => cases isCall
    next accepts =>
      cases List.mem_singleton.mp isCall
      cases stores
      exact ⟨job, _, rfl, rfl, by simpa using accepts⟩
  case h_7 job rawErr =>
    split at isCall
    next => cases isCall
    next accepts =>
      cases List.mem_singleton.mp isCall
      cases stores
      exact ⟨job, _, rfl, rfl, by simpa using accepts⟩
  case h_8 => cases isCall

/-- An outcome that the store accepts closes its execution. -/
theorem SchedulerTask.GoesOn.closes
    {self : CfpSchedulerDO}
    {state : SchedulerState}
    {readings : Readings}
    {new : SchedulerTask}
    {job : PersistedJob}
    {outcome : Except Thrown JsValue}
    {started : List SchedulerTask}
    {dispatcher : Dispatcher}
    (goes :
      (SchedulerTask.settled job outcome).GoesOn self state readings new
        started dispatcher)
    (accepts : readings.rejection = none)
    (jobId : String) :
    new.isOpen jobId = false := by
  cases goes with
  | ackRejected rejects =>
      rw [accepts] at rejects
      cases rejects
  | _ => rfl

/-- The open tasks of a job after one task has gone on. -/
theorem countP_isOpen_goesOn
    {self : CfpSchedulerDO}
    {state : SchedulerState}
    {index : Nat}
    {readings : Readings}
    {old new : SchedulerTask}
    {started : List SchedulerTask}
    {dispatcher : Dispatcher}
    (found : state.tasks[index]? = some old)
    (goes : old.GoesOn self state readings new started dispatcher)
    (jobId : String) :
    (state.tasks.set index new ++ started).countP (·.isOpen jobId) +
        (old.isOpen jobId).toNat =
      state.tasks.countP (·.isOpen jobId) + (new.isOpen jobId).toNat := by
  have noneStarted : started.countP (·.isOpen jobId) = 0 := by
    rw [List.countP_eq_zero]
    intro task member isOpen
    rw [goes.started_closed member jobId] at isOpen
    cases isOpen
  have counted := SchedulerState.openExecutions_setTask found new jobId
  rw [SchedulerState.openExecutions, SchedulerState.openExecutions,
    SchedulerState.tasks_setTask, SchedulerState.dispatcher_setTask]
    at counted
  rw [List.countP_append, noneStarted]
  omega

/-- A call that stores an outcome is made by a task that is closed by it. -/
theorem CfpSchedulerDO.closes_of_refusal
    {self : CfpSchedulerDO}
    {state : SchedulerState}
    {event : SchedulerEvent}
    {tasks : List SchedulerTask}
    {dispatcher : Dispatcher}
    {call : JobStoreCall}
    {jobId : String}
    (isCall : call ∈ self.segmentCalls state event)
    (stores : jobId ∈ call.refusal?.map Prod.fst)
    (moves : self.Moves state event tasks dispatcher) :
    tasks.countP (·.isOpen jobId) + (dispatcher.loop.holds jobId).toNat + 1 =
      state.openExecutions jobId := by
  unfold segmentCalls at isCall
  split at isCall
  next =>
    cases List.mem_singleton.mp isCall
    cases stores
  next index readings =>
    split at isCall
    next => cases isCall
    next task isTask =>
      obtain ⟨job, outcome, rfl, isJob, accepts⟩ :=
        settled_of_refusal isCall stores
      cases moves with
      | resume found goes =>
          cases isTask.symm.trans found
          have counted := countP_isOpen_goesOn found goes jobId
          have wasOpen :
              (SchedulerTask.settled job outcome).isOpen jobId = true :=
            decide_eq_true isJob
          rw [goes.closes accepts jobId, wasOpen, Bool.toNat_true,
            Bool.toNat_false] at counted
          rw [SchedulerState.openExecutions, goes.loop]
          omega
  next => cases isCall

/-- A step's own part opens no execution, and starts only what was held. -/
theorem CfpSchedulerDO.Moves.opens
    {self : CfpSchedulerDO}
    {state : SchedulerState}
    {event : SchedulerEvent}
    {tasks : List SchedulerTask}
    {dispatcher : Dispatcher}
    (moves : self.Moves state event tasks dispatcher)
    (staysLoaded : event ≠ .evict)
    (jobId : String) :
    tasks.countP (·.isOpen jobId) + (dispatcher.loop.holds jobId).toNat ≤
        state.openExecutions jobId ∧
      (decide (state.started? event = some jobId)).toNat +
          (dispatcher.loop.holds jobId).toNat =
        state.held jobId := by
  have keeps
      (sameCount :
        tasks.countP (·.isOpen jobId) ≤ state.tasks.countP (·.isOpen jobId))
      (sameLoop : dispatcher.loop = state.dispatcher.loop)
      (noStart : state.started? event = none) :
      tasks.countP (·.isOpen jobId) + (dispatcher.loop.holds jobId).toNat ≤
          state.openExecutions jobId ∧
        (decide (state.started? event = some jobId)).toNat +
            (dispatcher.loop.holds jobId).toNat =
          state.held jobId := by
    rw [sameLoop, noStart]
    refine ⟨Nat.add_le_add_right sameCount _, ?_⟩
    rw [decide_eq_false (by simp), Bool.toNat_false, Nat.zero_add]
    rfl
  have adds
      {task : SchedulerTask}
      (closed : task.isOpen jobId = false) :
      (state.tasks ++ [task]).countP (·.isOpen jobId) ≤
        state.tasks.countP (·.isOpen jobId) := by
    rw [List.countP_append, List.countP_singleton, closed]
    simp
  cases moves with
  | enqueue begins => cases begins <;> exact keeps (adds rfl) rfl rfl
  | deliverAlarm begins => cases begins <;> exact keeps (adds rfl) rfl rfl
  | cancel => exact keeps (adds rfl) rfl rfl
  | cancelByTenant => exact keeps (adds rfl) rfl rfl
  | @configure c =>
      obtain ⟨config, configured⟩ := dispatcher_configure state c
      exact keeps (Nat.le_refl _) (by rw [configured]) rfl
  | status => exact keeps (Nat.le_refl _) rfl rfl
  | result => exact keeps (Nat.le_refl _) rfl rfl
  | @resume index readings old new started _ found goes =>
      refine keeps ?_ goes.loop rfl
      have counted := countP_isOpen_goesOn found goes jobId
      have fewer : (new.isOpen jobId).toNat ≤ (old.isOpen jobId).toNat :=
        Bool.toNat_le_toNat goes.opens
      omega
  | @loopGoesOn readings busy noTarget =>
      have notHeld : state.dispatcher.loop.holds jobId = false := by
        cases loop : state.dispatcher.loop with
        | claimed target =>
            cases target with
            | none => rfl
            | some target => exact absurd loop (noTarget target)
        | _ => rfl
      have noStart :
          decide (state.started? (.resumeLoop readings) = some jobId) =
            false := by
        rw [SchedulerState.started?_eq_none noTarget]
        rfl
      rw [noStart, SchedulerState.held, SchedulerState.openExecutions,
        notHeld]
      exact ⟨Nat.le_refl _, rfl⟩
  | @runs readings target claimed =>
      have starts :
          state.started? (.resumeLoop readings) = some target.id := by
        simp [SchedulerState.started?, claimed]
      rw [starts, SchedulerState.held, SchedulerState.openExecutions, claimed,
        List.countP_append, List.countP_singleton]
      by_cases isTarget : target.id = jobId <;>
        simp [SchedulerTask.isOpen, LoopState.holds, isTarget]
  | @settle index job call outcome found =>
      refine keeps (Nat.le_of_eq ?_) rfl rfl
      have counted :=
        SchedulerState.openExecutions_setTask found
          (.settled job outcome) jobId
      have sameOpen :
          (SchedulerTask.settled job outcome).isOpen jobId =
            (SchedulerTask.running job call).isOpen jobId := rfl
      rw [SchedulerState.openExecutions, SchedulerState.openExecutions,
        SchedulerState.tasks_setTask, SchedulerState.dispatcher_setTask,
        sameOpen] at counted
      omega
  | evict => exact absurd rfl staysLoaded

/-- The runs of an id without a row count from zero. -/
theorem RunsFit.countedFrom
    {state : SchedulerState}
    {jobId : String}
    {runs : RunCounts}
    {openExecutions held : Nat}
    (fits :
      RunsFit (state.store.row? jobId) openExecutions held (runs jobId)) :
    RunsFit (state.store.row? jobId) openExecutions held
      (state.countedFrom runs jobId) := by
  unfold SchedulerState.countedFrom
  cases isRow : state.store.row? jobId with
  | none =>
      rw [isRow] at fits
      exact ⟨fits.1, fun _ wrong => by cases wrong⟩
  | some row =>
      rw [isRow] at fits
      exact fits

/-- An eviction loses the open executions; a leased row waits for nothing. -/
theorem RunsFit.evicted
    {row : Option JobsRow}
    {openExecutions held runs : Nat}
    (fits : RunsFit row openExecutions held runs) :
    RunsFit row 0 0 runs := by
  refine ⟨fun _ => rfl, fun new isRow => ?_⟩
  have fit := fits.2 new isRow
  exact {
    queued := fun queued => ⟨rfl, (fit.queued queued).2⟩
    leased := fun _ => ⟨Nat.zero_le 1, fun wrong => by cases wrong⟩
    done := fun _ => rfl
    failed := fun failed => ⟨rfl, (fit.failed failed).2⟩
  }

/-- A step's own part keeps the invariant. -/
theorem runsFit_segment
    {self : CfpSchedulerDO}
    {state : SchedulerState}
    {event : SchedulerEvent}
    {segment : Segment}
    {jobId : String}
    {runs : RunCounts}
    (isSegment : self.segment state event = some segment)
    (staysLoaded : event ≠ .evict)
    (reclaims : ∀ row ∈ state.reclaimedRows event, row.id ≠ jobId)
    (fits :
      RunsFit (state.store.row? jobId) (state.openExecutions jobId)
        (state.held jobId) (runs jobId)) :
    RunsFit (segment.state.store.row? jobId)
      (segment.state.openExecutions jobId) (segment.state.held jobId)
      (recordRuns state event runs jobId) := by
  have moves := CfpSchedulerDO.moves isSegment
  obtain ⟨fewer, started⟩ := moves.opens staysLoaded jobId
  have counted := fits.countedFrom
  have sameTotal :
      recordRuns state event runs jobId + segment.state.held jobId =
        state.countedFrom runs jobId + state.held jobId := by
    rw [recordRuns, Nat.add_assoc]
    exact congrArg _ started
  have heldOpen := state.held_le_openExecutions jobId
  have heldAfterOpen := segment.state.held_le_openExecutions jobId
  have rows :=
    @CfpSchedulerDO.row?_segmentCalls self state event jobId _ rfl
  rw [← store_segment isSegment] at rows
  rcases rows with same | ⟨call, isCall, moved⟩
  · rw [← same]
    exact counted.of_stay heldOpen fewer sameTotal heldAfterOpen
  · refine counted.of_move moved (CfpSchedulerDO.segmentCalls_ne_claim isCall)
      ?_ ?_ ?_ ?_ heldOpen fewer sameTotal heldAfterOpen
    · rintro now other error rfl
      cases CfpSchedulerDO.callFrom isCall
    · rintro now row rfl isRow reclaimable
      have reclaimed : row ∈ state.reclaimedRows event := by
        rw [CfpSchedulerDO.reclaimedRows_of_segmentCalls isCall]
        exact List.mem_filter.mpr ⟨JobStore.mem_of_row? isRow, reclaimable⟩
      exact reclaims row reclaimed (KeyedTable.key_of_get? isRow)
    · rintro now job rfl
      refine ⟨CfpSchedulerDO.retryCount_of_segmentCalls isCall,
        fun absent => ?_⟩
      unfold SchedulerState.countedFrom
      rw [absent]
    · intro other stores row isRow isOther
      have isJob : row.id = jobId := KeyedTable.key_of_get? isRow
      obtain rfl : other = jobId := isOther.symm.trans isJob
      exact CfpSchedulerDO.closes_of_refusal isCall stores moves

/-- The claim of a queued row opens its one execution. -/
theorem RunsFit.lease
    {row : JobsRow}
    {openExecutions runs : Nat}
    {workerId : String}
    {expires : Int}
    (fits : RunsFit (some row) openExecutions 0 runs)
    (queued : row.status = .queued) :
    RunsFit (some (row.lease workerId expires)) (openExecutions + 1) 1
      runs := by
  obtain ⟨noneOpen, count, below⟩ := (fits.2 row rfl).queued queued
  refine ⟨(fun absent => by cases absent), fun new isNew => ?_⟩
  cases isNew
  have sameCount : (row.lease workerId expires).retryCount = row.retryCount :=
    rfl
  have sameMax : (row.lease workerId expires).retryMax = row.retryMax := rfl
  exact {
    queued := fun wrong => by cases wrong
    leased := fun _ => ⟨by omega, fun _ => ⟨by omega, by omega, by omega⟩⟩
    done := fun wrong => by cases wrong
    failed := fun wrong => by cases wrong
  }

/-- The end of a step keeps the invariant. -/
theorem runsFit_finish
    {self : CfpSchedulerDO}
    {readings : LoopReadings}
    {segment : Segment}
    {jobId : String}
    {runs : Nat}
    (claims :
      ∀ row ∈ segment.claimedRows self readings,
        row.id = jobId → row.status = .queued)
    (deadline :
      ∀ pick ∈ segment.pick,
        pick.1.id = jobId → deadlinePassed pick.1 readings.check = false)
    (fits :
      RunsFit (segment.state.store.row? jobId)
        (segment.state.openExecutions jobId) (segment.state.held jobId)
        runs) :
    RunsFit ((segment.finish self readings).store.row? jobId)
      ((segment.finish self readings).openExecutions jobId)
      ((segment.finish self readings).held jobId) runs := by
  have tasks := (segment.finishes self readings).tasks
  have loopEnd := segment.loopEnd self readings
  rw [SchedulerState.openExecutions, SchedulerState.held, tasks]
  generalize (segment.finish self readings).dispatcher.loop = loop at loopEnd ⊢
  generalize (segment.finish self readings).store = store at loopEnd ⊢
  have idle
      {job : PersistedJob}
      {dispatcher : Dispatcher}
      (picked : segment.pick = some (job, dispatcher)) :
      segment.state.held jobId = 0 := by
    rw [SchedulerState.held, (Segment.of_pick picked).2.1]
    rfl
  have keeps
      {job : PersistedJob}
      {dispatcher : Dispatcher}
      (picked : segment.pick = some (job, dispatcher)) :
      RunsFit (segment.state.store.row? jobId)
        (segment.state.tasks.countP (·.isOpen jobId) + 0) 0 runs := by
    have noneHeld := idle picked
    rw [noneHeld] at fits
    rw [SchedulerState.held] at noneHeld
    rw [SchedulerState.openExecutions, noneHeld] at fits
    exact fits
  cases loopEnd with
  | stays unpicked => exact fits
  | rejected picked rejects => exact keeps picked
  | @failedExpired job dispatcher picked rejects passed =>
      have otherJob : job.id ≠ jobId := fun isJob => by
        rw [deadline _ picked isJob] at passed
        cases passed
      have sameRow :
          (segment.state.store.failQueued readings.check job.id
              (deadlineError job)).1.row? jobId =
            segment.state.store.row? jobId := by
        rw [JobStore.row?_failQueued]
        cases isRow : segment.state.store.row? jobId with
        | none => rfl
        | some row =>
            have isJob : row.id = jobId := KeyedTable.key_of_get? isRow
            simp [isJob, Ne.symm otherJob]
      rw [sameRow]
      exact keeps picked
  | missed picked rejects _ noRow => exact keeps picked
  | @claimed job dispatcher row leased next picked _ _ claimedRow isRow _
      isLeased rows =>
      have isRowId : (rowToJob leased).id = row.id := by
        rw [isLeased]
        rfl
      rw [rows]
      by_cases isJob : jobId = row.id
      · subst isJob
        rw [if_pos rfl]
        have queued : row.status = .queued :=
          claims row (by rw [claimedRow]; exact List.mem_singleton_self row)
            rfl
        have fit := keeps picked
        rw [isRow] at fit
        have holds :
            (LoopState.claimed (some (rowToJob leased))).holds row.id =
              true :=
          decide_eq_true isRowId
        rw [holds, Bool.toNat_true, isLeased]
        exact fit.lease queued
      · rw [if_neg isJob]
        have holds :
            (LoopState.claimed (some (rowToJob leased))).holds jobId =
              false :=
          decide_eq_false (isRowId ▸ Ne.symm isJob)
        rw [holds]
        exact keeps picked

/-- A step that does not disturb the job keeps the invariant. -/
theorem runsFit_step
    {self : CfpSchedulerDO}
    {jobId : String}
    {current next : SchedulerState × RunCounts}
    {event : SchedulerEvent}
    (undisturbed : Undisturbed self jobId current.1 event)
    (recorded : recording self.step recordRuns current event = some next)
    (fits :
      RunsFit (current.1.store.row? jobId) (current.1.openExecutions jobId)
        (current.1.held jobId) (current.2 jobId)) :
    RunsFit (next.1.store.row? jobId) (next.1.openExecutions jobId)
      (next.1.held jobId) (next.2 jobId) := by
  obtain ⟨_, stepped, rfl⟩ := Option.map_eq_some_iff.mp recorded
  obtain ⟨segment, isSegment, rfl⟩ := Option.map_eq_some_iff.mp stepped
  by_cases staysLoaded : event = .evict
  · subst staysLoaded
    cases isSegment
    exact fits.countedFrom.evicted
  · exact runsFit_finish (undisturbed.claims segment isSegment)
      (undisturbed.deadline segment isSegment)
      (runsFit_segment isSegment staysLoaded undisturbed.reclaims fits)

/--
A job that is stored as failed, and was not disturbed, was run `1 + retry.max`
times exactly if it was to be run only once.
-/
theorem scheduler_runsFailedJob_iff
    {self : CfpSchedulerDO}
    {jobId : String}
    {events : List SchedulerEvent}
    {final : SchedulerState × RunCounts}
    (run :
      GuardedRun (recording self.step recordRuns)
        (fun current => Undisturbed self jobId current.1) ({}, fun _ => 0)
        events final)
    {row : JobsRow}
    (isRow : final.1.store.row? jobId = some row)
    (failed : row.status = .failed)
    (nonneg : 0 ≤ row.retryMax) :
    (final.2 jobId : Int) = 1 + row.retryMax ↔ row.retryMax = 0 := by
  have fits :=
    @GuardedRun.invariant _ _ _ _
      (fun (current : SchedulerState × RunCounts) =>
        RunsFit (current.1.store.row? jobId) (current.1.openExecutions jobId)
          (current.1.held jobId) (current.2 jobId))
      runsFit_step _ _ _ run
      ⟨fun _ => rfl, fun _ wrong => by cases wrong⟩
  obtain ⟨-, counted⟩ := (fits.2 row isRow).failed failed
  omega

/-- A job is enqueued, and its first execution fails. -/
def failsOnce (req : SchedulerEnqueueRequest) : List SchedulerEvent :=
  .enqueue req :: slowStarts.tail ++
    [ .settle 1 (.error (.error "Error" "boom" none none)),
      .resume 1 (.at 20) ]

/-- A job that is not to be retried is run once. -/
theorem scheduler_runsFailedJob_once :
    ∃ final : SchedulerState × RunCounts, ∃ row : JobsRow,
      GuardedRun (recording (CfpSchedulerDO.step .plain) recordRuns)
          (fun current => Undisturbed .plain "once" current.1)
          ({}, fun _ => 0) (failsOnce .once) final ∧
        final.1.store.row? "once" = some row ∧ row.status = .failed ∧
          (final.2 "once" : Int) = 1 + row.retryMax := by
  have executed :
      ((failsOnce .once).foldlM
          (fun current event =>
            if Undisturbed .plain "once" current.1 event then
              recording (CfpSchedulerDO.step .plain) recordRuns current event
            else
              none) ({}, fun _ => 0)).any
        fun final =>
          (final.1.store.row? "once").any fun row =>
            row.status = .failed && row.retryMax = 0 := by
    decide +kernel
  obtain ⟨final, isFinal, stored⟩ := (Option.any_eq_true _ _).mp executed
  obtain ⟨row, isRow, holds⟩ := (Option.any_eq_true _ _).mp stored
  simp only [Bool.and_eq_true, decide_eq_true_eq] at holds
  obtain ⟨failed, noRetries⟩ := holds
  have run := GuardedRun.of_checked isFinal
  exact ⟨final, row, run, isRow, failed,
    (scheduler_runsFailedJob_iff run isRow failed (by omega)).mpr noRetries⟩

/-- A job that is to be retried once. -/
def SchedulerEnqueueRequest.retriedOnce : SchedulerEnqueueRequest :=
  { slow with
    id := "retried"
    retry := { max := 1, backoff := .constant, baseMs := 200 } }

/-- A job that is to be retried once is stored as failed after one run. -/
theorem scheduler_runsFailedJob_without_retry :
    ∃ final : SchedulerState × RunCounts, ∃ row : JobsRow,
      GuardedRun (recording (CfpSchedulerDO.step .plain) recordRuns)
          (fun current => Undisturbed .plain "retried" current.1)
          ({}, fun _ => 0) (failsOnce .retriedOnce) final ∧
        final.1.store.row? "retried" = some row ∧ row.status = .failed ∧
          row.retryMax = 1 ∧ final.2 "retried" = 1 ∧
            (final.2 "retried" : Int) ≠ 1 + row.retryMax := by
  have executed :
      ((failsOnce .retriedOnce).foldlM
          (fun current event =>
            if Undisturbed .plain "retried" current.1 event then
              recording (CfpSchedulerDO.step .plain) recordRuns current event
            else
              none) ({}, fun _ => 0)).any
        fun final =>
          final.2 "retried" = 1 &&
            (final.1.store.row? "retried").any fun row =>
              row.status = .failed && row.retryMax = 1 := by
    decide +kernel
  obtain ⟨final, isFinal, holds⟩ := (Option.any_eq_true _ _).mp executed
  simp only [Bool.and_eq_true, decide_eq_true_eq] at holds
  obtain ⟨once, stored⟩ := holds
  obtain ⟨row, isRow, isFailed⟩ := (Option.any_eq_true _ _).mp stored
  simp only [Bool.and_eq_true, decide_eq_true_eq] at isFailed
  refine ⟨final, row, GuardedRun.of_checked isFinal, isRow, isFailed.1,
    isFailed.2, once, ?_⟩
  rw [once, isFailed.2]
  decide

end CloudflareParallel
