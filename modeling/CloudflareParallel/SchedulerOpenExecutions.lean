import CloudflareParallel.SchedulerJobRows
import CloudflareParallel.SchedulerObject
import CloudflareParallel.SchedulerReadySet
import CloudflareParallel.Library.LabelledRuns

namespace CloudflareParallel

open KeyedTables LabelledRuns

/-!
# Open executions

An execution is open from its claim until its outcome has been stored.  While
every job has at most one open execution, the row of an open execution is
leased or cancelled, so it cannot be claimed again until its lease has run out.
-/

/-- The task is an execution of a job whose run has not settled. -/
def SchedulerTask.isLive (jobId : String) : SchedulerTask → Bool
  | .running job _ => job.id = jobId
  | _ => false

/-- The task is an execution of a job whose outcome has not been stored. -/
def SchedulerTask.isOpen (jobId : String) : SchedulerTask → Bool
  | .running job _ => job.id = jobId
  | .settled job _ => job.id = jobId
  | _ => false

/-- The loop has claimed a job and has still to start its run. -/
def LoopState.holds (jobId : String) : LoopState → Bool
  | .claimed (some target) => target.id = jobId
  | _ => false

namespace SchedulerState

/-- The unsettled `runJob` calls of a job. -/
def liveExecutions
    (state : SchedulerState)
    (jobId : String) : Nat :=
  state.tasks.countP (·.isLive jobId)

/-- The open executions of a job. -/
def openExecutions
    (state : SchedulerState)
    (jobId : String) : Nat :=
  state.tasks.countP (·.isOpen jobId) +
    (state.dispatcher.loop.holds jobId).toNat

/-- No job has two live executions. -/
def AtMostOneLive (state : SchedulerState) : Prop :=
  ∀ jobId, state.liveExecutions jobId ≤ 1

/-- The row's lease has run out, but its execution has not been stored. -/
def Outlived
    (state : SchedulerState)
    (now : Int)
    (row : JobsRow) : Prop :=
  JobStore.isReclaimable now row ∧ 0 < state.openExecutions row.id

end SchedulerState

/-- The job that the dispatch loop takes at the end of a segment. -/
def Segment.pick (segment : Segment) : Option (PersistedJob × Dispatcher) :=
  match segment.entry, segment.state.dispatcher.loop with
  | .stay, _ => none
  | _, .idle =>
      if segment.state.dispatcher.hasSlot then
        match segment.state.dispatcher.takeNextReady with
        | (some job, dispatcher) => some (job, dispatcher)
        | (none, _) => none
      else
        none
  | _, _ => none

/-- The job that is taken is the next ready one. -/
theorem Segment.pick_eq_some
    {segment : Segment}
    {job : PersistedJob}
    {dispatcher : Dispatcher}
    (kicks : segment.entry ≠ .stay)
    (idle : segment.state.dispatcher.loop = .idle)
    (slot : segment.state.dispatcher.hasSlot)
    (took : segment.state.dispatcher.takeNextReady = (some job, dispatcher)) :
    segment.pick = some (job, dispatcher) := by
  unfold Segment.pick
  rw [idle, if_pos slot, took]
  cases entry : segment.entry with
  | stay => exact absurd entry kicks
  | kick => rfl
  | kickThenAlarm now => rfl

/-- The rows that the dispatch loop claims at the end of a segment. -/
def Segment.claimedRows
    (self : CfpSchedulerDO)
    (readings : LoopReadings)
    (segment : Segment) : List JobsRow :=
  match segment.pick with
  | none => []
  | some (job, dispatcher) =>
      if readings.rejects || deadlinePassed job readings.check then
        []
      else
        segment.state.store.claimCandidates readings.claim
          (self.claimRequest dispatcher.config job)

/-- The rows that an alarm reclaims in a step. -/
def SchedulerState.reclaimedRows
    (state : SchedulerState) : SchedulerEvent → List JobsRow
  | .resume index readings =>
      match state.tasks[index]? with
      | some (.rebuilt .alarmStart) =>
          state.store.jobs.rows.filter (JobStore.isReclaimable readings.now)
      | _ => []
  | _ => []

/--
The condition on a step: neither its reclaim nor its claim takes a lease that
has run out from an execution which has not been stored.
-/
structure LeasesHeld
    (scheduler : CfpSchedulerDO)
    (state : SchedulerState)
    (event : SchedulerEvent) : Prop where
  reclaims :
    ∀ row ∈ state.reclaimedRows event, state.openExecutions row.id = 0
  claims :
    ∀ segment ∈ scheduler.segment state event,
      ∀ row ∈ segment.claimedRows scheduler event.loopReadings,
        ¬ segment.state.Outlived event.loopReadings.claim row

instance
    (state : SchedulerState)
    (now : Int)
    (row : JobsRow) : Decidable (state.Outlived now row) :=
  inferInstanceAs (Decidable (_ ∧ _))

instance
    (scheduler : CfpSchedulerDO)
    (state : SchedulerState)
    (event : SchedulerEvent) : Decidable (LeasesHeld scheduler state event) :=
  decidable_of_iff (_ ∧ _)
    ⟨fun held => ⟨held.1, held.2⟩, fun held => ⟨held.reclaims, held.claims⟩⟩

/-- The row of a job is leased, or was cancelled while it was. -/
def JobStore.Holds
    (store : JobStore)
    (jobId : String) : Prop :=
  ∃ row,
    store.row? jobId = some row ∧
      (row.status = .leased ∨ row.status = .cancelled)

namespace JobStore.Holds

variable {store : JobStore} {jobId : String}

/-- An update that keeps leased and cancelled rows so keeps the row held. -/
theorem of_map
    {next : JobStore}
    {change : JobsRow → JobsRow}
    (held : store.Holds jobId)
    (updated : next.row? jobId = (store.row? jobId).map change)
    (keeps :
      ∀ row,
        store.row? jobId = some row →
        row.status = .leased ∨ row.status = .cancelled →
        (change row).status = .leased ∨
          (change row).status = .cancelled) :
    next.Holds jobId := by
  obtain ⟨row, found, status⟩ := held
  exact ⟨change row, by rw [updated, found]; rfl, keeps row found status⟩

theorem enqueue
    {next : JobStore}
    {now : Int}
    {job : PersistedJob}
    (held : store.Holds jobId)
    (accepted : store.enqueue now job = .ok next) :
    next.Holds jobId := by
  obtain ⟨row, found, status⟩ := held
  rcases JobStore.row?_enqueue accepted jobId with
    same | ⟨_, absent, _⟩
  · exact ⟨row, same.trans found, status⟩
  · rw [found] at absent
    cases absent

theorem cancel
    (held : store.Holds jobId)
    (now : Int)
    (cancelledId : String)
    (reason : Option String) :
    (store.cancel now cancelledId reason).1.Holds jobId := by
  refine held.of_map (JobStore.row?_cancel ..) ?_
  intro row _ status
  split
  · exact .inr rfl
  · exact status

theorem failQueued
    (held : store.Holds jobId)
    (now : Int)
    (failedId : String)
    (error : ErrorRecord) :
    (store.failQueued now failedId error).1.Holds jobId := by
  refine held.of_map (JobStore.row?_failQueued ..) ?_
  intro row _ status
  split
  next met =>
    have queued : row.status = .queued := by
      simpa using (Bool.and_eq_true_iff.mp met).2
    rw [queued] at status
    rcases status with wrong | wrong <;> cases wrong
  · exact status

theorem sweepExpired
    (held : store.Holds jobId)
    (now : Int) :
    (store.sweepExpired now).Holds jobId := by
  obtain ⟨row, found, status⟩ := held
  refine ⟨row, ?_, status⟩
  have notDone : row.status ≠ .done := by
    rcases status with isStatus | isStatus <;> simp [isStatus]
  rw [JobStore.row?_sweepExpired, found]
  simp [Option.filter, notDone]

/-- A reclaim keeps a row held whose lease has not run out. -/
theorem reclaimExpiredLeases
    {now : Int}
    (held : store.Holds jobId)
    (respected :
      ∀ row,
        store.row? jobId = some row →
        ¬ JobStore.isReclaimable now row) :
    (store.reclaimExpiredLeases now).1.Holds jobId := by
  refine held.of_map (JobStore.row?_reclaimExpiredLeases ..) ?_
  intro row found status
  rw [if_neg (respected row found)]
  exact status

/-- An `ack` of another job keeps the row held. -/
theorem ack
    (held : store.Holds jobId)
    (now : Int)
    {ackedId : String}
    (different : ackedId ≠ jobId)
    (leaseOwner : String)
    (value : JsValue)
    (resultExpiresMs : Int) :
    (store.ack now ackedId leaseOwner value
        resultExpiresMs).1.Holds jobId := by
  refine held.of_map (JobStore.row?_ack ..) ?_
  intro row found status
  rw [JobStore.id_of_row? found]
  simpa [Ne.symm different] using status

/-- A `fail` of another job keeps the row held. -/
theorem fail
    (held : store.Holds jobId)
    (now : Int)
    {failedId : String}
    (different : failedId ≠ jobId)
    (leaseOwner : String)
    (error : ErrorRecord) :
    (store.fail now failedId leaseOwner error).1.Holds jobId := by
  refine held.of_map (JobStore.row?_fail ..) ?_
  intro row found status
  rw [JobStore.id_of_row? found]
  simpa [Ne.symm different] using status

end JobStore.Holds

/-- Every job has at most one open execution, and its row is held. -/
structure SingleHold (state : SchedulerState) : Prop where
  atMostOne : ∀ jobId, state.openExecutions jobId ≤ 1
  rowHeld :
    ∀ jobId, 0 < state.openExecutions jobId → state.store.Holds jobId

namespace SchedulerState

theorem openExecutions_addTask
    (state : SchedulerState)
    (task : SchedulerTask)
    (jobId : String) :
    (state.addTask task).openExecutions jobId =
      state.openExecutions jobId + (task.isOpen jobId).toNat := by
  simp only [openExecutions, tasks_addTask, dispatcher_addTask,
    List.countP_append, List.countP_singleton, Bool.toNat]
  cases task.isOpen jobId <;> simp
  omega

/-- A task that goes on changes the count by what it was and what it is. -/
theorem openExecutions_setTask
    {state : SchedulerState}
    {index : Nat}
    {old : SchedulerTask}
    (found : state.tasks[index]? = some old)
    (task : SchedulerTask)
    (jobId : String) :
    (state.setTask index task).openExecutions jobId +
        (old.isOpen jobId).toNat =
      state.openExecutions jobId + (task.isOpen jobId).toNat := by
  obtain ⟨inside, isOld⟩ := List.getElem?_eq_some_iff.mp found
  have counted :
      (old.isOpen jobId).toNat ≤ state.tasks.countP (·.isOpen jobId) := by
    cases isOpen : old.isOpen jobId with
    | false =>
        exact Nat.zero_le _
    | true =>
        exact List.countP_pos_iff.mpr
          ⟨old, isOld ▸ List.getElem_mem inside, isOpen⟩
  simp only [openExecutions, tasks_setTask, dispatcher_setTask]
  rw [List.countP_set inside, isOld]
  revert counted
  cases old.isOpen jobId <;> cases task.isOpen jobId <;>
    simp only [Bool.toNat_true, Bool.toNat_false, if_true, if_false,
      Bool.false_eq_true] <;>
    omega

/-- A change of the dispatcher that keeps the loop keeps the count. -/
theorem openExecutions_withDispatcher
    (state : SchedulerState)
    {dispatcher : Dispatcher}
    (sameLoop : dispatcher.loop = state.dispatcher.loop)
    (jobId : String) :
    (state.withDispatcher dispatcher).openExecutions jobId =
      state.openExecutions jobId := by
  simp only [openExecutions, tasks_withDispatcher, dispatcher_withDispatcher,
    sameLoop]

/-- A task that goes on without becoming open adds nothing. -/
theorem openExecutions_setTask_le
    {state : SchedulerState}
    {index : Nat}
    {old task : SchedulerTask}
    (found : state.tasks[index]? = some old)
    (opens : ∀ jobId, task.isOpen jobId → old.isOpen jobId)
    (jobId : String) :
    (state.setTask index task).openExecutions jobId ≤
      state.openExecutions jobId := by
  have counted := openExecutions_setTask found task jobId
  have fewer : (task.isOpen jobId).toNat ≤ (old.isOpen jobId).toNat :=
    Bool.toNat_le_toNat (opens jobId)
  omega

/-- Every live execution is open. -/
theorem liveExecutions_le
    (state : SchedulerState)
    (jobId : String) :
    state.liveExecutions jobId ≤ state.openExecutions jobId := by
  refine Nat.le_trans (List.countP_mono_left ?_) (Nat.le_add_right _ _)
  intro task _ live
  cases task <;> first | exact live | cases live

end SchedulerState

namespace SingleHold

variable {state next : SchedulerState}

/-- No more open executions, and the rows stay held. -/
theorem mono
    (single : SingleHold state)
    (fewer :
      ∀ jobId, next.openExecutions jobId ≤ state.openExecutions jobId)
    (held :
      ∀ jobId,
        0 < next.openExecutions jobId →
        state.store.Holds jobId →
        next.store.Holds jobId) :
    SingleHold next where
  atMostOne jobId := (fewer jobId).trans (single.atMostOne jobId)
  rowHeld jobId isOpen :=
    held jobId isOpen
      (single.rowHeld jobId (Nat.lt_of_lt_of_le isOpen (fewer jobId)))

/-- A task goes on, and the store keeps every row held. -/
theorem goOn
    (single : SingleHold state)
    {index : Nat}
    {old task : SchedulerTask}
    (found : state.tasks[index]? = some old)
    (opens : ∀ jobId, task.isOpen jobId → old.isOpen jobId)
    (sameTasks : next.tasks = state.tasks)
    (sameLoop : next.dispatcher.loop = state.dispatcher.loop)
    (held : ∀ jobId, state.store.Holds jobId → next.store.Holds jobId) :
    SingleHold (next.setTask index task) := by
  refine single.mono ?_ fun jobId _ => held jobId
  intro jobId
  have same : next.openExecutions jobId = state.openExecutions jobId := by
    simp only [SchedulerState.openExecutions, sameTasks, sameLoop]
  rw [← same]
  exact
    SchedulerState.openExecutions_setTask_le (sameTasks ▸ found) opens jobId

/-- A task is added that is not open, and the store keeps every row held. -/
theorem start
    (single : SingleHold state)
    {task : SchedulerTask}
    (closed : ∀ jobId, task.isOpen jobId = false)
    (sameTasks : next.tasks = state.tasks)
    (sameLoop : next.dispatcher.loop = state.dispatcher.loop)
    (held : ∀ jobId, state.store.Holds jobId → next.store.Holds jobId) :
    SingleHold (next.addTask task) := by
  refine single.mono ?_ fun jobId _ => held jobId
  intro jobId
  rw [SchedulerState.openExecutions_addTask, closed]
  simp [SchedulerState.openExecutions, sameTasks, sameLoop]

/-- The dispatch loop changes the store and where it is suspended. -/
theorem ofLoop
    (single : SingleHold state)
    {store : JobStore}
    {dispatcher : Dispatcher}
    (releases : ∀ jobId, dispatcher.loop.holds jobId = false)
    (held : ∀ jobId, state.store.Holds jobId → store.Holds jobId) :
    SingleHold ((state.withStore store).withDispatcher dispatcher) := by
  refine single.mono ?_ fun jobId _ => held jobId
  intro jobId
  simp [SchedulerState.openExecutions, releases]

/-- The dispatch loop has claimed a job of which no execution is open. -/
theorem opened
    (single : SingleHold state)
    {store : JobStore}
    {dispatcher : Dispatcher}
    {target : PersistedJob}
    {leased : JobsRow}
    (closed : state.openExecutions target.id = 0)
    (notHolding : ∀ jobId, state.dispatcher.loop.holds jobId = false)
    (holdsTarget : dispatcher.loop = .claimed (some target))
    (isLeased : leased.status = .leased)
    (rows :
      ∀ jobId,
        store.row? jobId =
          if jobId = target.id then
            some leased
          else
            state.store.row? jobId) :
    SingleHold ((state.withStore store).withDispatcher dispatcher) := by
  have counted (jobId : String) :
      ((state.withStore store).withDispatcher dispatcher).openExecutions
          jobId =
        state.openExecutions jobId + (decide (target.id = jobId)).toNat := by
    simp only [SchedulerState.openExecutions,
      SchedulerState.tasks_withDispatcher, SchedulerState.tasks_withStore,
      SchedulerState.dispatcher_withDispatcher, notHolding, holdsTarget]
    rfl
  refine {
    atMostOne := fun jobId => ?_
    rowHeld := fun jobId isOpen => ?_
  }
  · have before := single.atMostOne jobId
    rw [counted]
    by_cases same : target.id = jobId
    · rw [← same, closed]
      simp
    · simpa [same] using before
  · rw [counted] at isOpen
    by_cases same : jobId = target.id
    · exact ⟨leased, (rows jobId).trans (if_pos same), .inl isLeased⟩
    · obtain ⟨held, isHeld, status⟩ :=
        single.rowHeld jobId (by simpa [Ne.symm same] using isOpen)
      exact ⟨held, ((rows jobId).trans (if_neg same)).trans isHeld, status⟩

end SingleHold

end CloudflareParallel
