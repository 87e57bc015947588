import CloudflareParallel.SchedulerMoves
import CloudflareParallel.SchedulerSingleExecution
import CloudflareParallel.SchedulerStateMachine

namespace CloudflareParallel

open KeyedTables LabelledRuns

/-!
# No orphaned queued job

The dispatch loop takes a job out of memory before it claims it.  If the claim
then refuses the job, or the store rejects, the job stays queued in storage and
has no place in memory.  Otherwise every queued job is ready or is held by a
task that puts it back.
-/

namespace SchedulerTask

/-- The task is part of an enqueue, a rebuild, a cancel or an execution. -/
def isInProgress : SchedulerTask → Bool
  | .rebuild _ _ => true
  | .rebuilt (.enqueue _) => true
  | .enqueueStored _ => true
  | .enqueueReturn _ => true
  | .cancelDone _ _ => true
  | .cancelTenant _ _ _ _ => true
  | .alarmReclaimed _ reclaimed => 0 < reclaimed
  | .running _ _ => true
  | .settled _ _ => true
  | .requeueing _ => true
  | .finishing _ => true
  | _ => false

/-- The task is a retry timer of a job. -/
def isTimerOf (jobId : String) : SchedulerTask → Bool
  | .retryTimer job _ => job.id = jobId
  | _ => false

/-- The task puts a job into the ready set, or reads all queued jobs back. -/
def accountsFor (jobId : String) : SchedulerTask → Bool
  | .rebuild queued _ => queued.any (·.id = jobId)
  | .enqueueStored job => job.id = jobId
  | .requeueing job => job.id = jobId
  | .retryTimer job _ => job.id = jobId
  | .alarmReclaimed _ reclaimed => 0 < reclaimed
  | _ => false

end SchedulerTask

namespace SchedulerState

/-- The loop is not running and nothing is in progress. -/
structure Quiescent (state : SchedulerState) : Prop where
  idle : state.dispatcher.loop = .idle
  atRest : ∀ task ∈ state.tasks, task.isInProgress = false

/--
Once the dispatcher is initialized, every queued job is ready or has a pending
retry timer whenever the object is quiescent.
-/
def NoneOrphaned (state : SchedulerState) : Prop :=
  state.initialized →
  state.Quiescent →
  ∀ row ∈ state.store.jobs.rows,
    row.status = .queued →
    state.dispatcher.isReady row.id ∨
      ∃ task ∈ state.tasks, task.isTimerOf row.id

/-- The queued jobs of the store. -/
def queuedCount (state : SchedulerState) : Nat :=
  state.store.jobs.rows.countP (·.status = .queued)

/--
The condition on a step's own part: a rebuild finds at most as many queued jobs
as it reads, and no bucket is cleared with a job that is still queued.
-/
def KeepsQueued
    (state : SchedulerState) : SchedulerEvent → Prop
  | .enqueue _ | .deliverAlarm _ =>
      state.initialized = true ∨ state.queuedCount ≤ 10000
  | .resume index _ =>
      match state.tasks[index]? with
      | some (.alarmReclaimed _ reclaimed) =>
          reclaimed = 0 ∨ state.queuedCount ≤ 10000
      | some (.alarmSwept _) =>
          state.dispatcher.config.inFlightLimit ≤
              state.dispatcher.totalReady + state.dispatcher.runningCount ∨
            state.queuedCount ≤ 10000
      | some (.cancelTenant tenantId _ [] _) =>
          ∀ job ∈
            (OrderedMap.lookup state.dispatcher.ready tenantId).getD [],
            state.store.status job.id ≠ some .queued
      | _ => True
  | _ => True

end SchedulerState

/--
The condition on the dispatch loop: the store call for a queued job that it has
taken is not rejected, and its claim selects the job if its deadline has not
passed.
-/
def Segment.SettlesPick
    (self : CfpSchedulerDO)
    (readings : LoopReadings)
    (segment : Segment) : Prop :=
  ∀ pick ∈ segment.pick,
    segment.state.store.status pick.1.id = some .queued →
    readings.rejects = false ∧
      (deadlinePassed pick.1 readings.check = false →
        ∃ row ∈ segment.claimedRows self readings, row.id = pick.1.id)

/-- The condition on a step. -/
structure QueuedKept
    (scheduler : CfpSchedulerDO)
    (state : SchedulerState)
    (event : SchedulerEvent) : Prop where
  keeps : state.KeepsQueued event
  settles :
    ∀ segment ∈ scheduler.segment state event,
      segment.SettlesPick scheduler event.loopReadings

/-- The dispatch loop is not running. -/
def LoopState.isIdle : LoopState → Bool
  | .idle => true
  | _ => false

instance (state : SchedulerState) : Decidable state.Quiescent :=
  decidable_of_iff
    (state.dispatcher.loop.isIdle ∧
      ∀ task ∈ state.tasks, task.isInProgress = false)
    ⟨fun ⟨isIdle, atRest⟩ =>
        { idle := by
            cases suspended : state.dispatcher.loop <;>
              simp [LoopState.isIdle, suspended] at isIdle ⊢
          atRest := atRest },
      fun quiescent => ⟨by rw [quiescent.idle]; rfl, quiescent.atRest⟩⟩

instance
    (state : SchedulerState)
    (event : SchedulerEvent) : Decidable (state.KeepsQueued event) := by
  unfold SchedulerState.KeepsQueued
  split
  · infer_instance
  · infer_instance
  · split <;> infer_instance
  · infer_instance

instance
    (scheduler : CfpSchedulerDO)
    (readings : LoopReadings)
    (segment : Segment) :
    Decidable (segment.SettlesPick scheduler readings) :=
  inferInstanceAs (Decidable (∀ pick ∈ segment.pick, _))

instance
    (scheduler : CfpSchedulerDO)
    (state : SchedulerState)
    (event : SchedulerEvent) : Decidable (QueuedKept scheduler state event) :=
  decidable_of_iff (_ ∧ _)
    ⟨fun kept => ⟨kept.1, kept.2⟩, fun kept => ⟨kept.keeps, kept.settles⟩⟩

/-! ## The invariant -/

/-- A queued job is ready or some task accounts for it. -/
def Accounted
    (tasks : List SchedulerTask)
    (dispatcher : Dispatcher)
    (jobId : String) : Prop :=
  dispatcher.isReady jobId ∨ ∃ task ∈ tasks, task.accountsFor jobId

/-- Every queued job is accounted for, and what is dropped is cancelled. -/
structure QueuedInvariant (state : SchedulerState) : Prop where
  accounted :
    state.initialized →
    ∀ jobId,
      state.store.status jobId = some .queued →
      Accounted state.tasks state.dispatcher jobId
  dropped :
    ∀ jobId,
      .cancelDone jobId true ∈ state.tasks →
      state.store.status jobId = some .cancelled

/-- With the invariant no queued job is orphaned. -/
theorem QueuedInvariant.noneOrphaned
    {state : SchedulerState}
    (invariant : QueuedInvariant state) :
    state.NoneOrphaned := by
  intro initialized quiescent row member queued
  have isQueued : state.store.status row.id = some .queued := by
    rw [JobStore.status, JobStore.row?_of_mem member, Option.map_some, queued]
  rcases invariant.accounted initialized row.id isQueued with
    ready | ⟨task, isTask, accounts⟩
  · exact .inl ready
  · refine .inr ⟨task, isTask, ?_⟩
    have rests := quiescent.atRest task isTask
    cases task with
    | retryTimer job wakeAt =>
        exact accounts
    | alarmReclaimed now reclaimed =>
        exact absurd (rests.symm.trans accounts) Bool.false_ne_true
    | rebuild queued caller => cases rests
    | enqueueStored job => cases rests
    | requeueing job => cases rests
    | _ => cases accounts

/-! ## What a rebuild reads -/

/-- A rebuild that reads enough finds every queued job. -/
theorem JobStore.any_peek_of_queued
    {store : JobStore}
    {limit : Nat}
    (enough : store.jobs.rows.countP (·.status = .queued) ≤ limit)
    {jobId : String}
    (queued : store.status jobId = some .queued) :
    (store.peek none limit).any (·.id = jobId) := by
  obtain ⟨row, found, isQueued⟩ := Option.map_eq_some_iff.mp queued
  rw [List.any_eq_true]
  refine ⟨rowToJob row, List.mem_map_of_mem ?_,
    decide_eq_true (id_of_row? found)⟩
  have short :
      (byCreation
          (store.scan.arrange .peek
            (store.jobs.rows.filter (·.status = .queued)))).length ≤
        limit := by
    rw [byCreation, List.length_insertionSort, ScanOrder.length_arrange,
      ← List.countP_eq_length_filter]
    exact enough
  simp only [Option.filter_none, Option.all_none, Bool.and_true, peekScan,
    Option.isSome_none, Bool.false_eq_true, if_false]
  rw [List.take_of_length_le short]
  refine (List.mem_insertionSort _).mpr ((store.scan.mem_arrange ..).mpr ?_)
  exact List.mem_filter.mpr ⟨mem_of_row? found, decide_eq_true isQueued⟩

/-- Jobs that are put into the ready set are ready, and the others stay. -/
theorem Dispatcher.isReady_foldl
    {jobs : List PersistedJob}
    {dispatcher : Dispatcher}
    {jobId : String} :
    (jobs.foldl enqueueReady dispatcher).isReady jobId ↔
      dispatcher.isReady jobId ∨ jobs.any (·.id = jobId) := by
  rw [isReady, isReady, List.any_eq_true, List.any_eq_true, List.any_eq_true]
  constructor
  · rintro ⟨job, ready, isJob⟩
    exact (mem_readyJobs_foldl.mp ready).imp (⟨job, ·, isJob⟩)
      (⟨job, ·, isJob⟩)
  · rintro (⟨job, ready, isJob⟩ | ⟨job, ready, isJob⟩)
    · exact ⟨job, mem_readyJobs_foldl.mpr (.inl ready), isJob⟩
    · exact ⟨job, mem_readyJobs_foldl.mpr (.inr ready), isJob⟩

namespace Accounted

variable {tasks : List SchedulerTask} {dispatcher next : Dispatcher}
variable {jobId : String}

/-- A task is added that reads the queued jobs back. -/
theorem of_rebuild
    {store : JobStore}
    {caller : RebuildCaller}
    (enough : store.jobs.rows.countP (·.status = .queued) ≤ 10000)
    (queued : store.status jobId = some .queued)
    (member : .rebuild (store.peek none 10000) caller ∈ tasks) :
    Accounted tasks dispatcher jobId :=
  .inr ⟨_, member, store.any_peek_of_queued enough queued⟩

/-- Memory only gains. -/
theorem mono
    {others : List SchedulerTask}
    (accounted : Accounted tasks dispatcher jobId)
    (ready : dispatcher.isReady jobId → next.isReady jobId)
    (stays : ∀ task ∈ tasks, task ∈ others) :
    Accounted others next jobId :=
  accounted.imp ready fun ⟨task, member, accounts⟩ =>
    ⟨task, stays task member, accounts⟩

/-- One task goes on and hands over what it accounts for. -/
theorem handOver
    {index : Nat}
    {old new : SchedulerTask}
    {started : List SchedulerTask}
    (found : tasks[index]? = some old)
    (ready : dispatcher.isReady jobId → next.isReady jobId)
    (handed :
      old.accountsFor jobId →
      Accounted (tasks.set index new ++ started) next jobId)
    (accounted : Accounted tasks dispatcher jobId) :
    Accounted (tasks.set index new ++ started) next jobId := by
  rcases accounted with isReady | ⟨task, member, accounts⟩
  · exact .inl (ready isReady)
  · obtain ⟨position, isTask⟩ := List.mem_iff_getElem?.mp member
    by_cases same : position = index
    · rw [same, found] at isTask
      cases isTask
      exact handed accounts
    · have stays : (tasks.set index new)[position]? = some task := by
        rw [List.getElem?_set_ne (Ne.symm same)]
        exact isTask
      exact .inr ⟨task, List.mem_append_left _ (List.mem_of_getElem? stays),
        accounts⟩

end Accounted

/-- The new task of a task that goes on is among the tasks. -/
theorem mem_set_of_found
    {tasks : List SchedulerTask}
    {index : Nat}
    {old : SchedulerTask}
    (found : tasks[index]? = some old)
    (new : SchedulerTask) :
    new ∈ tasks.set index new :=
  List.mem_set (List.getElem?_eq_some_iff.mp found).1 new

/-- A task that goes on leaves every queued job accounted for. -/
theorem SchedulerTask.GoesOn.accounted
    {self : CfpSchedulerDO}
    {state : SchedulerState}
    {index : Nat}
    {readings : Readings}
    {old new : SchedulerTask}
    {started : List SchedulerTask}
    {dispatcher : Dispatcher}
    {jobId : String}
    (found : state.tasks[index]? = some old)
    (goes : old.GoesOn self state readings new started dispatcher)
    (keeps : state.KeepsQueued (.resume index readings))
    (queued : state.store.status jobId = some .queued)
    (dropped :
      .cancelDone jobId true ∈ state.tasks →
      state.store.status jobId = some .cancelled)
    (accounted : Accounted state.tasks state.dispatcher jobId) :
    Accounted (state.tasks.set index new ++ started) dispatcher jobId := by
  have isNew : new ∈ state.tasks.set index new ++ started :=
    List.mem_append_left _ (mem_set_of_found found new)
  unfold SchedulerState.KeepsQueued at keeps
  simp only [found] at keeps
  cases goes with
  | rebuild =>
      exact accounted.handOver found
        (fun ready => Dispatcher.isReady_foldl.mpr (.inl ready))
        fun accounts => .inl (Dispatcher.isReady_foldl.mpr (.inr accounts))
  | enqueueStored =>
      exact accounted.handOver found
        (fun ready => Dispatcher.isReady_enqueueReady.mpr (.inl ready))
        fun accounts =>
          .inl
            (Dispatcher.isReady_enqueueReady.mpr
              (.inr (of_decide_eq_true accounts)))
  | @cancelled droppedId =>
      refine accounted.handOver found (fun ready => ?_)
        fun accounts => by cases accounts
      refine Dispatcher.isReady_dropFromReady ready ?_
      rintro rfl
      have cancelled := dropped (List.mem_of_getElem? found)
      rw [queued] at cancelled
      cases cancelled
  | @tenantCleared tenantId =>
      refine accounted.handOver found (fun ready => ?_)
        fun accounts => by cases accounts
      rw [Dispatcher.isReady_iff] at ready ⊢
      obtain ⟨job, isReady, rfl⟩ := ready
      refine ⟨job, Dispatcher.mem_readyJobs_removeTenant.mpr ?_, rfl⟩
      rcases (Dispatcher.mem_readyJobs_split _ tenantId).mp isReady with
        inBucket | elsewhere
      · exact absurd queued (keeps job inBucket)
      · exact elsewhere
  | someReclaimed some =>
      exact .of_rebuild (keeps.resolve_left (Nat.ne_of_gt some)) queued isNew
  | backstop hasRoom =>
      exact .of_rebuild (keeps.resolve_left (Int.not_le.mpr hasRoom)) queued
        isNew
  | retryNow =>
      exact accounted.handOver found
        (fun ready => Dispatcher.isReady_enqueueReady.mpr (.inl ready))
        fun accounts =>
          .inl
            (Dispatcher.isReady_enqueueReady.mpr
              (.inr (of_decide_eq_true accounts)))
  | @retryLater job later =>
      refine accounted.handOver found id fun accounts =>
        .inr ⟨.retryTimer (retryJob job) (readings.now + retryDelayMs job), ?_,
          accounts⟩
      exact List.mem_append_right _
        (List.mem_cons_of_mem _ (List.mem_singleton_self _))
  | retryTimer =>
      exact accounted.handOver found
        (fun ready => Dispatcher.isReady_enqueueReady.mpr (.inl ready))
        fun accounts =>
          .inl
            (Dispatcher.isReady_enqueueReady.mpr
              (.inr (of_decide_eq_true accounts)))
  | _ =>
      exact accounted.handOver found id fun accounts => by cases accounts

/-! ## What a step's own part queues -/

/-- A job that an `enqueue` stores is held by its task. -/
theorem accountedFor_of_inserted
    {state : SchedulerState}
    {index : Nat}
    {readings : Readings}
    {req : SchedulerEnqueueRequest}
    {row : JobsRow}
    (inserted :
      (state.startEnqueue index readings req).store.row? req.id = some row)
    (absent : state.store.row? req.id = none) :
    (state.startEnqueue index readings req).tasks =
      state.tasks.set index (.enqueueStored (req.toJob readings.now)) := by
  unfold SchedulerState.startEnqueue at inserted ⊢
  dsimp only at inserted ⊢
  have refused (store : JobStore) (same : store = state.store) :
      store.row? req.id ≠ some row := by
    rw [same, absent]
    exact Option.some_ne_none row ∘ Eq.symm
  split
  next isFull =>
    rw [if_pos isFull] at inserted
    exact absurd inserted (refused _ rfl)
  next notFull =>
    rw [if_neg notFull] at inserted
    split
    next rejects =>
      rw [rejects] at inserted
      exact absurd inserted (refused _ rfl)
    next accepts =>
      rw [accepts] at inserted
      dsimp only at inserted
      split
      next refusal =>
        rw [refusal] at inserted
        exact absurd inserted (refused _ rfl)
      next =>
        rfl

/-- A failure that a step stores is that of a run that has settled. -/
theorem CfpSchedulerDO.settled_of_fail
    {self : CfpSchedulerDO}
    {state : SchedulerState}
    {event : SchedulerEvent}
    {now : Int}
    {jobId leaseOwner : String}
    {error : ErrorRecord}
    (isCall : .fail now jobId leaseOwner error ∈ self.segmentCalls state event) :
    ∃ index readings job rawErr,
      event = .resume index readings ∧
        state.tasks[index]? = some (.settled job (.error rawErr)) ∧
          readings.rejection = none ∧
            jobId = job.id ∧
              leaseOwner = self.ownerId := by
  cases callFrom isCall with
  | fail found accepts =>
      exact ⟨_, _, _, _, rfl, found, accepts, rfl, rfl⟩

/-- A job that a step's own part queues is held by a task of the step. -/
theorem accountedFor_of_queued
    {self : CfpSchedulerDO}
    {state : SchedulerState}
    {event : SchedulerEvent}
    {segment : Segment}
    {jobId : String}
    (isSegment : self.segment state event = some segment)
    (queued : segment.state.store.status jobId = some .queued)
    (notBefore : state.store.status jobId ≠ some .queued) :
    ∃ task ∈ segment.state.tasks, task.accountsFor jobId := by
  obtain ⟨new, isNew, isQueued⟩ := Option.map_eq_some_iff.mp queued
  have stayed (same : state.store.row? jobId = some new) : False := by
    rw [JobStore.status, same, Option.map_some, isQueued] at notBefore
    exact notBefore rfl
  have after := isNew
  rw [store_segment isSegment] at after
  rcases CfpSchedulerDO.row?_segmentCalls after with
    same | ⟨call, isCall, moved⟩
  · exact (stayed same).elim
  · generalize before : state.store.row? jobId = old at moved
    cases moved with
    | stay =>
        exact (stayed before).elim
    | insert =>
        cases CfpSchedulerDO.callFrom isCall with
        | @enqueue index readings req found =>
            obtain ⟨task, isTask, resumed⟩ :=
              Option.bind_eq_some_iff.mp isSegment
            rw [found] at isTask
            cases isTask
            cases resumed
            have isJob : req.id = jobId := JobStore.id_of_row? isNew
            subst isJob
            refine ⟨.enqueueStored (req.toJob readings.now), ?_,
              decide_eq_true rfl⟩
            change _ ∈ (state.startEnqueue index readings req).tasks
            rw [accountedFor_of_inserted isNew before]
            exact mem_set_of_found found _
    | lease => cases isQueued
    | ack => cases isQueued
    | @fail _ _ row _ leased =>
        have isRow : state.store.row? row.id = some row := by
          rw [JobStore.id_of_row? before]
          exact before
        obtain ⟨index, readings, job, rawErr, rfl, found, accepts, isJob, rfl⟩ :=
          CfpSchedulerDO.settled_of_fail isCall
        obtain ⟨task, isTask, resumed⟩ := Option.bind_eq_some_iff.mp isSegment
        rw [found] at isTask
        cases isTask
        obtain ⟨task, started, goes, tasks, -⟩ :=
          SchedulerTask.goesOn resumed
        have sameJob : job.id = jobId :=
          isJob.symm.trans (JobStore.id_of_row? before)
        rw [tasks]
        refine ⟨task, List.mem_append_left _ (mem_set_of_found found task), ?_⟩
        generalize segment.state.dispatcher = dispatcher at goes
        cases goes with
        | failRejected rejects =>
            rw [accepts] at rejects
            cases rejects
        | requeued =>
            exact decide_eq_true sameJob
        | failed _ notQueued =>
            rw [← isJob, JobStore.fail_snd isRow leased] at notQueued
            exact absurd isQueued notQueued
    | failQueued => cases isQueued
    | cancel => cases isQueued
    | @reclaim now row reclaimable =>
        cases CfpSchedulerDO.callFrom isCall with
        | @reclaimExpiredLeases index readings found =>
            obtain ⟨task, isTask, resumed⟩ :=
              Option.bind_eq_some_iff.mp isSegment
            rw [found] at isTask
            cases isTask
            cases resumed
            refine ⟨_, mem_set_of_found found _, decide_eq_true ?_⟩
            exact List.countP_pos_iff.mpr
              ⟨row, JobStore.mem_of_row? before, reclaimable⟩

/-! ## A step's own part -/

/-- Only a submission or an alarm initializes the dispatcher. -/
theorem initialized_of_segment
    {self : CfpSchedulerDO}
    {state : SchedulerState}
    {event : SchedulerEvent}
    {segment : Segment}
    (isSegment : self.segment state event = some segment)
    (initialized : segment.state.initialized) :
    event ≠ .evict ∧
      (state.initialized ∨
        (∃ req, event = .enqueue req) ∨ ∃ now, event = .deliverAlarm now) := by
  cases event with
  | enqueue req =>
      exact ⟨by simp, .inr (.inl ⟨req, rfl⟩)⟩
  | deliverAlarm now =>
      exact ⟨by simp, .inr (.inr ⟨now, rfl⟩)⟩
  | resume index readings =>
      obtain ⟨task, -, resumed⟩ := Option.bind_eq_some_iff.mp isSegment
      obtain ⟨-, -, -, -, same⟩ := SchedulerTask.goesOn resumed
      exact ⟨by simp, .inl (same ▸ initialized)⟩
  | resumeLoop readings =>
      change self.resumeLoop state = some segment at isSegment
      refine ⟨by simp, .inl ?_⟩
      unfold CfpSchedulerDO.resumeLoop at isSegment
      dsimp only at isSegment
      split at isSegment <;> cases isSegment <;> exact initialized
  | settle index outcome =>
      refine ⟨by simp, .inl ?_⟩
      unfold CfpSchedulerDO.segment at isSegment
      dsimp only at isSegment
      split at isSegment <;> cases isSegment
      exact initialized
  | evict =>
      cases isSegment
      cases initialized
  | _ =>
      cases isSegment
      exact ⟨by simp, .inl initialized⟩

/-- What begins leaves every queued job accounted for. -/
theorem SchedulerState.Begins.accounted
    {state : SchedulerState}
    {caller : RebuildCaller}
    {task : SchedulerTask}
    {dispatcher : Dispatcher}
    {jobId : String}
    (begins : state.Begins caller task dispatcher)
    (keeps : state.initialized = true ∨ state.queuedCount ≤ 10000)
    (queued : state.store.status jobId = some .queued)
    (accounted :
      state.initialized → Accounted state.tasks state.dispatcher jobId) :
    Accounted (state.tasks ++ [task]) dispatcher jobId := by
  have isNew : task ∈ state.tasks ++ [task] :=
    List.mem_append_right _ (List.mem_singleton_self task)
  cases begins with
  | rebuilds uninitialized =>
      refine .of_rebuild (keeps.resolve_left ?_) queued isNew
      rw [uninitialized]
      exact Bool.false_ne_true
  | isReady initialized =>
      exact (accounted initialized).mono id fun _ => List.mem_append_left _

/-- Before the loop is kicked, a job that stays queued is accounted for. -/
theorem accounted_moves
    {self : CfpSchedulerDO}
    {state : SchedulerState}
    {event : SchedulerEvent}
    {tasks : List SchedulerTask}
    {dispatcher : Dispatcher}
    {jobId : String}
    (moves : self.Moves state event tasks dispatcher)
    (remembers : event ≠ .evict)
    (initialized :
      state.initialized ∨
        (∃ req, event = .enqueue req) ∨ ∃ now, event = .deliverAlarm now)
    (keeps : state.KeepsQueued event)
    (queued : state.store.status jobId = some .queued)
    (dropped :
      .cancelDone jobId true ∈ state.tasks →
      state.store.status jobId = some .cancelled)
    (accounted :
      state.initialized → Accounted state.tasks state.dispatcher jobId) :
    Accounted tasks dispatcher jobId := by
  have before
      (notEnqueue : ∀ req, event ≠ .enqueue req)
      (notAlarm : ∀ now, event ≠ .deliverAlarm now) :
      Accounted state.tasks state.dispatcher jobId := by
    rcases initialized with isInitialized | ⟨req, isEnqueue⟩ | ⟨now, isAlarm⟩
    · exact accounted isInitialized
    · exact absurd isEnqueue (notEnqueue req)
    · exact absurd isAlarm (notAlarm now)
  cases moves with
  | enqueue begins =>
      exact begins.accounted keeps queued accounted
  | deliverAlarm begins =>
      exact begins.accounted keeps queued accounted
  | cancel =>
      exact (before (by simp) (by simp)).mono id
        fun _ => List.mem_append_left _
  | cancelByTenant =>
      exact (before (by simp) (by simp)).mono id
        fun _ => List.mem_append_left _
  | @configure c =>
      obtain ⟨config, same⟩ := dispatcher_configure state c
      rw [same]
      exact (before (by simp) (by simp)).mono id fun _ => id
  | status =>
      exact before (by simp) (by simp)
  | result =>
      exact before (by simp) (by simp)
  | resume found goes =>
      exact goes.accounted found keeps queued dropped
        (before (by simp) (by simp))
  | loopGoesOn =>
      exact (before (by simp) (by simp)).mono id fun _ => id
  | runs =>
      exact (before (by simp) (by simp)).mono id
        fun _ => List.mem_append_left _
  | @settle index job call outcome found =>
      have handed :
          Accounted (state.tasks.set index (.settled job outcome) ++ [])
            state.dispatcher jobId :=
        (before (by simp) (by simp)).handOver found id
          fun accounts => by cases accounts
      rw [List.append_nil] at handed
      exact handed
  | evict =>
      exact absurd rfl remembers

/-! ## Steps and runs -/

/-- A cancelled job stays cancelled. -/
theorem JobStore.cancelled_after
    {store : JobStore}
    {jobId : String}
    (cancelled : store.status jobId = some .cancelled)
    (calls : List JobStoreCall) :
    (store.after calls).status jobId = some .cancelled := by
  induction calls generalizing store with
  | nil =>
      exact cancelled
  | cons call calls inductionHypothesis =>
      obtain ⟨row, found, isCancelled⟩ := Option.map_eq_some_iff.mp cancelled
      refine inductionHypothesis ?_
      have moved := store.row?_invoke call jobId
      rw [found] at moved
      have terminal : row.status.isTerminal := by
        rw [isCancelled]
        rfl
      rcases moved.absorbing terminal with same | ⟨-, now, -, sweepable⟩
      · rw [status, same, Option.map_some, isCancelled]
      · have done : row.status = .done :=
          of_decide_eq_true (Bool.and_eq_true_iff.mp sweepable).1
        rw [isCancelled] at done
        cases done

/-- What is about to be dropped is cancelled. -/
theorem dropped_segment
    {self : CfpSchedulerDO}
    {state : SchedulerState}
    {event : SchedulerEvent}
    {segment : Segment}
    {jobId : String}
    (isSegment : self.segment state event = some segment)
    (dropped :
      .cancelDone jobId true ∈ state.tasks →
      state.store.status jobId = some .cancelled)
    (member : .cancelDone jobId true ∈ segment.state.tasks) :
    segment.state.store.status jobId = some .cancelled := by
  have stored := store_segment isSegment
  generalize isTask : SchedulerTask.cancelDone jobId true = task at member
  cases (CfpSchedulerDO.moves isSegment).origin member with
  | before isOld =>
      rw [stored]
      exact JobStore.cancelled_after (dropped (isTask ▸ isOld)) _
  | @cancel cancelledId reason now =>
      injection isTask with sameId succeeded
      subst sameId
      change segment.state.store = (state.store.cancel now jobId reason).1
        at stored
      rw [stored]
      refine (state.store.status_cancel now jobId reason).resolve_right ?_
      rintro ⟨failed, -⟩
      rw [failed] at succeeded
      cases succeeded
  | begins begun =>
      subst isTask
      cases begun
  | goesOn _ goes =>
      subst isTask
      cases goes
  | started _ goes _ isStarted =>
      subst isTask
      rcases goes.started isStarted with ⟨_, _, wrong⟩ | ⟨_, _, _, wrong⟩ <;>
        cases wrong
  | _ => cases isTask

/-- A job that is queued at the end of a step was, and the loop left it. -/
theorem Segment.LoopEnd.leaves
    {self : CfpSchedulerDO}
    {readings : LoopReadings}
    {segment : Segment}
    {loop : LoopState}
    {store : JobStore}
    {jobId : String}
    (loopEnd : segment.LoopEnd self readings loop store)
    (settles : segment.SettlesPick self readings)
    (queued : store.status jobId = some .queued) :
    segment.state.store.status jobId = some .queued ∧
      ∀ pick ∈ segment.pick, pick.1.id ≠ jobId := by
  cases loopEnd with
  | stays unpicked =>
      refine ⟨queued, fun pick isPick => ?_⟩
      rw [unpicked] at isPick
      cases isPick
  | @rejected job dispatcher picked rejects =>
      refine ⟨queued, fun pick isPick isJob => ?_⟩
      obtain ⟨accepts, -⟩ := settles pick isPick (isJob ▸ queued)
      rw [rejects] at accepts
      cases accepts
  | @failedExpired job dispatcher picked rejects passed =>
      by_cases isJob : jobId = job.id
      · subst isJob
        rcases segment.state.store.status_failQueued readings.check job.id
            (deadlineError job) with failed | ⟨same, notQueued⟩
        · rw [queued] at failed
          cases failed
        · exact absurd (same.symm.trans queued) notQueued
      · have same :=
          JobStore.status_of_map
            (segment.state.store.row?_failQueued readings.check job.id
              (deadlineError job) jobId) isJob
        refine ⟨same.symm.trans queued, fun pick isPick => ?_⟩
        rw [picked] at isPick
        cases isPick
        exact Ne.symm isJob
  | missed picked rejects inTime noRow =>
      refine ⟨queued, fun pick isPick isJob => ?_⟩
      obtain ⟨-, selects⟩ := settles pick isPick (isJob ▸ queued)
      rw [picked] at isPick
      cases isPick
      obtain ⟨row, isRow, -⟩ := selects inTime
      rw [noRow] at isRow
      cases isRow
  | @claimed job dispatcher row leased store picked rejects inTime claimedRow _ _
      isLeased rows =>
      have found := rows jobId
      split at found
      next isRow =>
        rw [JobStore.status, found, isLeased] at queued
        cases queued
      next otherRow =>
        have before := (JobStore.status_of_row? found).symm.trans queued
        refine ⟨before, fun pick isPick isJob => otherRow ?_⟩
        obtain ⟨-, selects⟩ := settles pick isPick (isJob ▸ before)
        rw [picked] at isPick
        cases isPick
        obtain ⟨selected, isSelected, sameId⟩ := selects inTime
        rw [claimedRow] at isSelected
        rw [← isJob, ← sameId, List.mem_singleton.mp isSelected]

/-- A job that is queued at the end of a step is accounted for. -/
theorem accounted_finish
    {self : CfpSchedulerDO}
    {readings : LoopReadings}
    {segment : Segment}
    {jobId : String}
    (settles : segment.SettlesPick self readings)
    (queued : (segment.finish self readings).store.status jobId = some .queued)
    (accounted :
      segment.state.store.status jobId = some .queued →
      Accounted segment.state.tasks segment.state.dispatcher jobId) :
    Accounted (segment.finish self readings).tasks
      (segment.finish self readings).dispatcher jobId := by
  have finishes := segment.finishes self readings
  obtain ⟨before, left⟩ := (segment.loopEnd self readings).leaves settles queued
  rw [finishes.tasks]
  rcases accounted before with isReady | task
  · obtain ⟨job, isJob, sameId⟩ := Dispatcher.isReady_iff.mp isReady
    rcases finishes.staysReady job isJob with stays | ⟨dispatcher, picked⟩
    · exact .inl (Dispatcher.isReady_iff.mpr ⟨job, stays, sameId⟩)
    · exact absurd sameId (left _ picked)
  · exact .inr task

/-- A step that meets the condition keeps the invariant. -/
theorem queuedInvariant_step
    {self : CfpSchedulerDO}
    {state next : SchedulerState}
    {event : SchedulerEvent}
    (kept : QueuedKept self state event)
    (stepped : self.step state event = some next)
    (invariant : QueuedInvariant state) :
    QueuedInvariant next := by
  obtain ⟨segment, isSegment, rfl⟩ := Option.map_eq_some_iff.mp stepped
  have finishes := segment.finishes self event.loopReadings
  constructor
  · intro initialized jobId queued
    rw [finishes.initialized] at initialized
    obtain ⟨remembers, before⟩ := initialized_of_segment isSegment initialized
    refine accounted_finish (kept.settles segment isSegment) queued
      fun queuedBefore => ?_
    by_cases wasQueued : state.store.status jobId = some .queued
    · exact accounted_moves (CfpSchedulerDO.moves isSegment) remembers before
        kept.keeps wasQueued (invariant.dropped jobId)
        fun isInitialized => invariant.accounted isInitialized jobId wasQueued
    · exact .inr (accountedFor_of_queued isSegment queuedBefore wasQueued)
  · intro jobId member
    rw [finishes.tasks] at member
    rw [finishes.store]
    exact JobStore.cancelled_after
      (dropped_segment isSegment (invariant.dropped jobId) member) _

/--
In a run in which no rebuild finds more queued jobs than it reads, no bucket is
cleared with a job that is still queued, and no store call of the dispatch loop
rejects or refuses a queued job that it has taken, no queued job is orphaned.
-/
theorem scheduler_noneOrphaned
    {self : CfpSchedulerDO}
    {events : List SchedulerEvent}
    {final : SchedulerState}
    (run : GuardedRun self.step (QueuedKept self) {} events final) :
    final.NoneOrphaned := by
  have invariant : QueuedInvariant final :=
    run.invariant queuedInvariant_step
      { accounted := fun wrong => by cases wrong
        dropped := fun _ wrong => by cases wrong }
  exact invariant.noneOrphaned

/-- A job fails and is to be retried after a minute. -/
def retryPending : List SchedulerEvent :=
  [ .enqueue .flaky, .resume 0 (.at 10), .resume 0 (.at 10),
    .resume 0 (.at 10), .resume 0 (.at 10),
    .resumeLoop { check := 10, claim := 10 },
    .settle 1 (.error (.error "Error" "not yet" none none)),
    .resume 1 (.at 20), .resume 1 (.at 20), .resume 1 (.at 20) ]

/-- The object comes to rest, and the queued job has its retry timer. -/
theorem scheduler_noneOrphaned_retryPending :
    ∃ final,
      GuardedRun (CfpSchedulerDO.step .plain) (QueuedKept .plain) {}
          retryPending final ∧
        final.Quiescent ∧
          final.store.status "flaky" = some .queued ∧
            final.NoneOrphaned := by
  have executed :
      (retryPending.foldlM
          (fun state event =>
            if QueuedKept .plain state event then
              CfpSchedulerDO.step .plain state event
            else
              none) {}).any
        fun final =>
          final.Quiescent && final.store.status "flaky" = some .queued := by
    decide +kernel
  obtain ⟨final, isFinal, atRest⟩ := (Option.any_eq_true _ _).mp executed
  simp only [Bool.and_eq_true, decide_eq_true_eq] at atRest
  have run := GuardedRun.of_checked isFinal
  exact ⟨final, run, atRest.1, atRest.2, scheduler_noneOrphaned run⟩

/-- A job without a deadline. -/
def SchedulerEnqueueRequest.undated : SchedulerEnqueueRequest :=
  { slow with id := "undated", deadlineEpochMs := 0 }

/--
The dispatch loop takes the job, since zero means no deadline to it, and the
store refuses the claim, since zero is a deadline that has passed to it.
-/
theorem scheduler_orphans_undated_job :
    ∃ final,
      Run (CfpSchedulerDO.step .plain) {} (.enqueue .undated :: slowStarts.tail)
          final ∧
        final.Quiescent ∧
          final.store.status "undated" = some .queued ∧
            ¬ final.NoneOrphaned := by
  have executed :
      ((SchedulerEvent.enqueue .undated :: slowStarts.tail).foldlM
          (CfpSchedulerDO.step .plain) {}).any
        fun final =>
          final.Quiescent && final.initialized &&
            final.store.jobs.rows.any
              (fun row => row.id = "undated" && row.status = .queued) &&
            !final.dispatcher.isReady "undated" &&
              final.tasks.all (!·.isTimerOf "undated") := by
    decide +kernel
  obtain ⟨final, isFinal, orphaned⟩ := (Option.any_eq_true _ _).mp executed
  simp only [Bool.and_eq_true, decide_eq_true_eq, Bool.not_eq_true',
    List.any_eq_true, List.all_eq_true] at orphaned
  obtain ⟨⟨⟨⟨quiescent, initialized⟩, row, member, isUndated, queued⟩,
    notReady⟩, noTimer⟩ := orphaned
  refine ⟨final, .of_foldlM isFinal, quiescent, ?_, fun noneOrphaned => ?_⟩
  · rw [← isUndated, JobStore.status, JobStore.row?_of_mem member,
      Option.map_some, queued]
  · rcases noneOrphaned initialized quiescent row member queued with
      ready | ⟨task, isTask, isTimer⟩
    · rw [isUndated, notReady] at ready
      cases ready
    · rw [isUndated, noTimer task isTask] at isTimer
      cases isTimer

end CloudflareParallel
