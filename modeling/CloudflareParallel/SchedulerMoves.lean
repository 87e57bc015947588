import CloudflareParallel.SchedulerSteps

namespace CloudflareParallel

open KeyedTables

/-!
# The moves of the scheduler object

What can happen before the dispatch loop is kicked, as a relation: how every
suspended task goes on, which tasks it starts, and what that does to the
dispatcher's memory.  Invariants of whole runs are proved by cases on it.
-/

/-- `#ensureInit`, as the task that it suspends and the memory it leaves. -/
inductive SchedulerState.Begins
    (state : SchedulerState)
    (caller : RebuildCaller) :
    SchedulerTask → Dispatcher → Prop where
  | rebuilds :
      state.initialized = false →
      Begins state caller (.rebuild (state.store.peek none 10000) caller)
        state.dispatcher.clearReady
  | isReady :
      state.initialized = true →
      Begins state caller (.rebuilt caller) state.dispatcher

/-- How a suspended task goes on, with the tasks that it starts. -/
inductive SchedulerTask.GoesOn
    (self : CfpSchedulerDO)
    (state : SchedulerState)
    (readings : Readings) :
    SchedulerTask → SchedulerTask → List SchedulerTask → Dispatcher →
      Prop where
  | rebuild {queued : List PersistedJob} {caller : RebuildCaller} :
      GoesOn self state readings (.rebuild queued caller) (.rebuilt caller) []
        (queued.foldl Dispatcher.enqueueReady state.dispatcher)
  | refused {req : SchedulerEnqueueRequest} :
      GoesOn self state readings (.rebuilt (.enqueue req)) .finished []
        state.dispatcher
  | accepted {req : SchedulerEnqueueRequest} {store : JobStore} :
      .enqueue readings.now (req.toJob readings.now) ∈
        self.taskCalls state readings (.rebuilt (.enqueue req)) →
      state.store.enqueue readings.now (req.toJob readings.now) =
        .ok store →
      GoesOn self state readings (.rebuilt (.enqueue req))
        (.enqueueStored (req.toJob readings.now)) [] state.dispatcher
  | alarmStart :
      GoesOn self state readings (.rebuilt .alarmStart)
        (.alarmReclaimed readings.now
          (state.store.reclaimExpiredLeases readings.now).2)
        [] state.dispatcher
  | alarmSweep {now : Int} :
      GoesOn self state readings (.rebuilt (.alarmSweep now))
        (.alarmSwept now) [] state.dispatcher
  | alarmKick {now : Int} :
      GoesOn self state readings (.rebuilt (.alarmKick now)) .finished []
        state.dispatcher
  | enqueueStored {job : PersistedJob} :
      GoesOn self state readings (.enqueueStored job) (.enqueueReturn job.id)
        [] (state.dispatcher.enqueueReady job)
  | enqueueReturn {id : String} :
      GoesOn self state readings (.enqueueReturn id) .finished []
        state.dispatcher
  | cancelled {jobId : String} :
      GoesOn self state readings (.cancelDone jobId true) .finished []
        (state.dispatcher.dropFromReady jobId)
  | notCancelled {jobId : String} :
      GoesOn self state readings (.cancelDone jobId false) .finished []
        state.dispatcher
  | tenantCleared {tenantId : String} {reason : Option String} {count : Nat} :
      GoesOn self state readings (.cancelTenant tenantId reason [] count)
        .finished [] (state.dispatcher.clearTenant tenantId)
  | tenantCancels {tenantId : String} {reason : Option String}
      {job : PersistedJob} {active : List PersistedJob}
      {count counted : Nat} :
      GoesOn self state readings
        (.cancelTenant tenantId reason (job :: active) count)
        (.cancelTenant tenantId reason active counted) [] state.dispatcher
  | someReclaimed {now : Int} {reclaimed : Nat} :
      0 < reclaimed →
      GoesOn self state readings (.alarmReclaimed now reclaimed)
        (.rebuild (state.store.peek none 10000) (.alarmSweep now)) []
        state.dispatcher.clearReady
  | noneReclaimed {now : Int} :
      GoesOn self state readings (.alarmReclaimed now 0) (.alarmSwept now) []
        state.dispatcher
  | busy {now : Int} :
      GoesOn self state readings (.alarmSwept now) .finished []
        state.dispatcher
  | backstop {now : Int} :
      state.dispatcher.totalReady + state.dispatcher.runningCount <
        state.dispatcher.config.inFlightLimit →
      GoesOn self state readings (.alarmSwept now)
        (.rebuild (state.store.peek none 10000) (.alarmKick now)) []
        state.dispatcher.clearReady
  | writeAlarm {existing : Option Int} {wakeAt : Int} :
      GoesOn self state readings (.writeAlarm existing wakeAt) .finished []
        state.dispatcher
  | ackRejected {job : PersistedJob} {value : JsValue} {err : Thrown} :
      readings.rejection = some err →
      GoesOn self state readings (.settled job (.ok value))
        (.settled job (.error err)) [] state.dispatcher
  | acked {job : PersistedJob} {value : JsValue} :
      readings.rejection = none →
      GoesOn self state readings (.settled job (.ok value)) (.finishing job)
        [] state.dispatcher
  | failRejected {job : PersistedJob} {rawErr err : Thrown} :
      readings.rejection = some err →
      GoesOn self state readings (.settled job (.error rawErr))
        (.finishing job) [] state.dispatcher
  | requeued {job : PersistedJob} {rawErr : Thrown} :
      readings.rejection = none →
      (state.store.fail readings.now job.id self.ownerId
        (errorToRecord rawErr)).2 = .queued →
      GoesOn self state readings (.settled job (.error rawErr))
        (.requeueing job) [] state.dispatcher
  | failed {job : PersistedJob} {rawErr : Thrown} :
      readings.rejection = none →
      (state.store.fail readings.now job.id self.ownerId
        (errorToRecord rawErr)).2 ≠ .queued →
      GoesOn self state readings (.settled job (.error rawErr))
        (.finishing job) [] state.dispatcher
  | retryNow {job : PersistedJob} :
      retryDelayMs job ≤ 0 →
      GoesOn self state readings (.requeueing job) (.finishing job)
        [.writeAlarm state.alarm (readings.now + retryDelayMs job)]
        (state.dispatcher.enqueueReady (retryJob job))
  | retryLater {job : PersistedJob} :
      0 < retryDelayMs job →
      GoesOn self state readings (.requeueing job) (.finishing job)
        [.writeAlarm state.alarm (readings.now + retryDelayMs job),
          .retryTimer (retryJob job) (readings.now + retryDelayMs job)]
        state.dispatcher
  | finishing {job : PersistedJob} :
      GoesOn self state readings (.finishing job) .finished []
        { state.dispatcher with
          running := OrderedMap.delete state.dispatcher.running job.id }
  | retryTimer {job : PersistedJob} {wakeAt : Int} :
      wakeAt ≤ readings.now →
      GoesOn self state readings (.retryTimer job wakeAt) .finished []
        (state.dispatcher.enqueueReady job)

/-- What can happen before the dispatch loop is kicked. -/
inductive CfpSchedulerDO.Moves
    (self : CfpSchedulerDO)
    (state : SchedulerState) :
    SchedulerEvent → List SchedulerTask → Dispatcher → Prop where
  | enqueue {req : SchedulerEnqueueRequest} {task : SchedulerTask}
      {dispatcher : Dispatcher} :
      state.Begins (.enqueue req) task dispatcher →
      Moves self state (.enqueue req) (state.tasks ++ [task]) dispatcher
  | cancel {jobId : String} {reason : Option String} {now : Int} :
      Moves self state (.cancel jobId reason now)
        (state.tasks ++
          [.cancelDone jobId (state.store.cancel now jobId reason).2])
        state.dispatcher
  | cancelByTenant {tenantId : String} {reason : Option String} :
      Moves self state (.cancelByTenant tenantId reason)
        (state.tasks ++
          [.cancelTenant tenantId reason
            (state.store.listActiveByTenant tenantId) 0])
        state.dispatcher
  | configure {c : PartialDispatcherConfig} :
      Moves self state (.configure c) state.tasks
        (state.configure c).dispatcher
  | status {jobId : String} :
      Moves self state (.status jobId) state.tasks state.dispatcher
  | result {jobId : String} {now : Int} :
      Moves self state (.result jobId now) state.tasks state.dispatcher
  | deliverAlarm {now : Int} {task : SchedulerTask}
      {dispatcher : Dispatcher} :
      state.Begins .alarmStart task dispatcher →
      Moves self state (.deliverAlarm now) (state.tasks ++ [task]) dispatcher
  | resume {index : Nat} {readings : Readings} {old new : SchedulerTask}
      {started : List SchedulerTask} {dispatcher : Dispatcher} :
      state.tasks[index]? = some old →
      old.GoesOn self state readings new started dispatcher →
      Moves self state (.resume index readings)
        (state.tasks.set index new ++ started) dispatcher
  | loopGoesOn {readings : LoopReadings} :
      state.dispatcher.loop ≠ .idle →
      (∀ target, state.dispatcher.loop ≠ .claimed (some target)) →
      Moves self state (.resumeLoop readings) state.tasks
        { state.dispatcher with loop := .idle }
  | runs {readings : LoopReadings} {target : PersistedJob} :
      state.dispatcher.loop = .claimed (some target) →
      Moves self state (.resumeLoop readings)
        (state.tasks ++ [.running target (self.runJob target)])
        { state.dispatcher with
          running :=
            OrderedMap.set state.dispatcher.running target.id
              { id := target.id, tenantId := target.tenantId }
          loop := .idle }
  | settle {index : Nat} {job : PersistedJob} {call : RunnerCall}
      {outcome : Except Thrown JsValue} :
      state.tasks[index]? = some (.running job call) →
      Moves self state (.settle index outcome)
        (state.tasks.set index (.settled job outcome)) state.dispatcher
  | evict {dispatcher : Dispatcher} :
      dispatcher.ready = .empty →
      dispatcher.tenantOrder = [] →
      dispatcher.running = .empty →
      dispatcher.loop = .idle →
      dispatcher.config = {} →
      Moves self state .evict [] dispatcher

/-- `#ensureInit` begins as the relation says. -/
theorem SchedulerState.begins_ensureInit
    (state : SchedulerState)
    (caller : RebuildCaller) :
    state.Begins caller (state.ensureInit caller).2
      (state.ensureInit caller).1.dispatcher := by
  unfold ensureInit
  split
  next initialized =>
    exact .isReady initialized
  next uninitialized =>
    exact .rebuilds (by simpa using uninitialized)

/-- The alarm plays no part in it. -/
theorem SchedulerState.Begins.of_withAlarm
    {state : SchedulerState}
    {alarm delivering : Option Int}
    {caller : RebuildCaller}
    {task : SchedulerTask}
    {dispatcher : Dispatcher}
    (begins : (state.withAlarm alarm delivering).Begins caller task dispatcher) :
    state.Begins caller task dispatcher := by
  cases begins with
  | rebuilds uninitialized => exact .rebuilds uninitialized
  | isReady initialized => exact .isReady initialized

@[simp]
theorem SchedulerState.tasks_ensureInit
    (state : SchedulerState)
    (caller : RebuildCaller) :
    (state.ensureInit caller).1.tasks = state.tasks := by
  unfold ensureInit
  split <;> rfl

/-- A segment in which a task has gone on. -/
def Segment.IsGoingOn
    (self : CfpSchedulerDO)
    (state : SchedulerState)
    (index : Nat)
    (readings : Readings)
    (task : SchedulerTask)
    (segment : Segment) : Prop :=
  ∃ new started,
    task.GoesOn self state readings new started segment.state.dispatcher ∧
      segment.state.tasks = state.tasks.set index new ++ started ∧
        segment.state.initialized = state.initialized

/-- A task that goes on without starting another. -/
theorem Segment.IsGoingOn.alone
    {self : CfpSchedulerDO}
    {state : SchedulerState}
    {index : Nat}
    {readings : Readings}
    {task new : SchedulerTask}
    {segment : Segment}
    (goes : task.GoesOn self state readings new [] segment.state.dispatcher)
    (tasks : segment.state.tasks = state.tasks.set index new)
    (initialized : segment.state.initialized = state.initialized) :
    segment.IsGoingOn self state index readings task :=
  ⟨new, [], goes, by rw [tasks, List.append_nil], initialized⟩

/-- Every suspended task goes on as the relation says. -/
theorem SchedulerTask.goesOn
    {self : CfpSchedulerDO}
    {state : SchedulerState}
    {index : Nat}
    {readings : Readings}
    {task : SchedulerTask}
    {segment : Segment}
    (resumed : self.resumeTask state index readings task = some segment) :
    segment.IsGoingOn self state index readings task := by
  cases task with
  | rebuild queued caller =>
      cases resumed
      exact .alone .rebuild rfl rfl
  | rebuilt caller =>
      cases resumed
      cases caller with
      | enqueue req =>
          unfold SchedulerState.afterRebuild SchedulerState.startEnqueue
          dsimp only
          split
          · exact .alone .refused rfl rfl
          next notFull =>
            split
            · exact .alone .refused rfl rfl
            next accepts =>
              split
              · exact .alone .refused rfl rfl
              next store accepted =>
                refine .alone (.accepted ?_ accepted) rfl rfl
                simp [CfpSchedulerDO.taskCalls, notFull, accepts]
      | alarmStart =>
          exact .alone .alarmStart rfl rfl
      | alarmSweep now =>
          exact .alone .alarmSweep rfl rfl
      | alarmKick now =>
          exact .alone .alarmKick rfl rfl
  | enqueueStored job =>
      cases resumed
      exact .alone .enqueueStored rfl rfl
  | enqueueReturn id =>
      cases resumed
      exact .alone .enqueueReturn rfl rfl
  | cancelDone jobId ok =>
      cases resumed
      cases ok with
      | false => exact .alone .notCancelled rfl rfl
      | true => exact .alone .cancelled rfl rfl
  | cancelTenant tenantId reason active count =>
      cases active with
      | nil =>
          cases resumed
          exact .alone .tenantCleared rfl rfl
      | cons job active =>
          cases resumed
          exact .alone .tenantCancels rfl rfl
  | alarmReclaimed now reclaimed =>
      unfold CfpSchedulerDO.resumeTask at resumed
      dsimp only at resumed
      split at resumed
      next some =>
        cases resumed
        exact .alone (.someReclaimed some) rfl rfl
      next none =>
        cases resumed
        obtain rfl : reclaimed = 0 := Nat.eq_zero_of_not_pos none
        exact .alone .noneReclaimed rfl rfl
  | alarmSwept now =>
      cases resumed
      unfold SchedulerState.backstop
      split
      next =>
        exact .alone .busy rfl rfl
      next hasRoom =>
        exact .alone (.backstop (Int.not_le.mp hasRoom)) rfl rfl
  | writeAlarm existing wakeAt =>
      cases resumed
      exact .alone .writeAlarm rfl rfl
  | running job call =>
      cases resumed
  | settled job outcome =>
      cases resumed
      cases outcome with
      | ok value =>
          unfold CfpSchedulerDO.storeOutcome
          dsimp only
          split
          next err rejects =>
            exact .alone (.ackRejected rejects) rfl rfl
          next accepts =>
            exact .alone (.acked accepts) rfl rfl
      | error rawErr =>
          unfold CfpSchedulerDO.storeOutcome
          dsimp only
          split
          next err rejects =>
            exact .alone (.failRejected rejects) rfl rfl
          next accepts =>
            split
            next queued =>
              exact .alone (.requeued accepts queued) rfl rfl
            next notQueued =>
              exact .alone (.failed accepts notQueued) rfl rfl
  | requeueing job =>
      cases resumed
      unfold SchedulerState.scheduleRetry
      dsimp only
      split
      next now =>
        exact ⟨_, _, .retryNow now, rfl, rfl⟩
      next later =>
        refine ⟨_, _, .retryLater (by omega), ?_, rfl⟩
        simp [SchedulerState.addTask, SchedulerState.setTask]
  | finishing job =>
      cases resumed
      exact .alone .finishing rfl rfl
  | retryTimer job wakeAt =>
      unfold CfpSchedulerDO.resumeTask at resumed
      dsimp only at resumed
      split at resumed
      next due =>
        cases resumed
        exact .alone (.retryTimer due) rfl rfl
      next =>
        cases resumed
  | finished =>
      cases resumed

/-- A task that goes on leaves the dispatch loop where it is. -/
theorem SchedulerTask.GoesOn.loop
    {self : CfpSchedulerDO}
    {state : SchedulerState}
    {readings : Readings}
    {old new : SchedulerTask}
    {started : List SchedulerTask}
    {dispatcher : Dispatcher}
    (goes : old.GoesOn self state readings new started dispatcher) :
    dispatcher.loop = state.dispatcher.loop := by
  cases goes with
  | rebuild => exact (Dispatcher.sameButReady_foldl ..).loop
  | enqueueStored => exact (Dispatcher.sameButReady_enqueueReady ..).loop
  | cancelled => exact (Dispatcher.sameButReady_dropFromReady ..).loop
  | retryNow => exact (Dispatcher.sameButReady_enqueueReady ..).loop
  | retryTimer => exact (Dispatcher.sameButReady_enqueueReady ..).loop
  | _ => rfl

/-- A task that goes on leaves the configuration as it is. -/
theorem SchedulerTask.GoesOn.config
    {self : CfpSchedulerDO}
    {state : SchedulerState}
    {readings : Readings}
    {old new : SchedulerTask}
    {started : List SchedulerTask}
    {dispatcher : Dispatcher}
    (goes : old.GoesOn self state readings new started dispatcher) :
    dispatcher.config = state.dispatcher.config := by
  cases goes with
  | rebuild => exact (Dispatcher.sameButReady_foldl ..).config
  | enqueueStored => exact (Dispatcher.sameButReady_enqueueReady ..).config
  | cancelled => exact (Dispatcher.sameButReady_dropFromReady ..).config
  | retryNow => exact (Dispatcher.sameButReady_enqueueReady ..).config
  | retryTimer => exact (Dispatcher.sameButReady_enqueueReady ..).config
  | _ => rfl

/-- The tasks that are started store an alarm or wait for a delay. -/
theorem SchedulerTask.GoesOn.started
    {self : CfpSchedulerDO}
    {state : SchedulerState}
    {readings : Readings}
    {old new task : SchedulerTask}
    {started : List SchedulerTask}
    {dispatcher : Dispatcher}
    (goes : old.GoesOn self state readings new started dispatcher)
    (member : task ∈ started) :
    (∃ existing wakeAt, task = .writeAlarm existing wakeAt) ∨
      ∃ job,
        old = .requeueing job ∧
          0 < retryDelayMs job ∧
            task =
              .retryTimer (retryJob job)
                (readings.now + retryDelayMs job) := by
  cases goes with
  | retryNow now =>
      exact .inl ⟨_, _, List.mem_singleton.mp member⟩
  | retryLater later =>
      rcases List.mem_pair.mp member with rfl | rfl
      · exact .inl ⟨_, _, rfl⟩
      · exact .inr ⟨_, rfl, later, rfl⟩
  | _ =>
      cases member

/-- Everything that can happen is a move. -/
theorem CfpSchedulerDO.moves
    {self : CfpSchedulerDO}
    {state : SchedulerState}
    {event : SchedulerEvent}
    {segment : Segment}
    (isSegment : self.segment state event = some segment) :
    self.Moves state event segment.state.tasks segment.state.dispatcher := by
  cases event with
  | enqueue req =>
      cases isSegment
      rw [SchedulerState.tasks_addTask, SchedulerState.tasks_ensureInit]
      exact .enqueue (state.begins_ensureInit _)
  | cancel jobId reason now =>
      cases isSegment
      exact .cancel
  | cancelByTenant tenantId reason =>
      cases isSegment
      exact .cancelByTenant
  | configure c =>
      cases isSegment
      exact .configure
  | status jobId =>
      cases isSegment
      exact .status
  | result jobId now =>
      cases isSegment
      exact .result
  | deliverAlarm now =>
      unfold CfpSchedulerDO.segment at isSegment
      dsimp only at isSegment
      split at isSegment
      next time stored idle =>
        split at isSegment
        · cases isSegment
          rw [SchedulerState.tasks_addTask, SchedulerState.tasks_ensureInit]
          exact .deliverAlarm
            (SchedulerState.begins_ensureInit
              (state.withAlarm none (some time)) .alarmStart).of_withAlarm
        · cases isSegment
      next =>
        cases isSegment
  | resume index readings =>
      obtain ⟨task, found, resumed⟩ := Option.bind_eq_some_iff.mp isSegment
      obtain ⟨new, started, goes, tasks, -⟩ := SchedulerTask.goesOn resumed
      rw [tasks]
      exact .resume found goes
  | resumeLoop readings =>
      change self.resumeLoop state = some segment at isSegment
      unfold CfpSchedulerDO.resumeLoop at isSegment
      dsimp only at isSegment
      split at isSegment
      next =>
        cases isSegment
      next rejected =>
        cases isSegment
        exact .loopGoesOn (by simp [rejected]) (by simp [rejected])
      next suspended =>
        cases isSegment
        exact .loopGoesOn (by simp [suspended]) (by simp [suspended])
      next suspended =>
        cases isSegment
        exact .loopGoesOn (by simp [suspended]) (by simp [suspended])
      next target claimed =>
        cases isSegment
        exact .runs claimed
  | settle index outcome =>
      unfold CfpSchedulerDO.segment at isSegment
      dsimp only at isSegment
      split at isSegment
      next job call found =>
        cases isSegment
        exact .settle found
      next =>
        cases isSegment
  | evict =>
      cases isSegment
      exact .evict rfl rfl rfl rfl rfl

/-! ## Where a task comes from -/

/-- How a task has come to be among the tasks after a move. -/
inductive CfpSchedulerDO.Origin
    (self : CfpSchedulerDO)
    (state : SchedulerState)
    (tasks : List SchedulerTask) : SchedulerEvent → SchedulerTask → Prop where
  | before {event : SchedulerEvent} {task : SchedulerTask} :
      task ∈ state.tasks →
      Origin self state tasks event task
  | begins {event : SchedulerEvent} {caller : RebuildCaller}
      {task : SchedulerTask} {dispatcher : Dispatcher} :
      state.Begins caller task dispatcher →
      Origin self state tasks event task
  | cancel {jobId : String} {reason : Option String} {now : Int} :
      Origin self state tasks (.cancel jobId reason now)
        (.cancelDone jobId (state.store.cancel now jobId reason).2)
  | cancelByTenant {tenantId : String} {reason : Option String} :
      Origin self state tasks (.cancelByTenant tenantId reason)
        (.cancelTenant tenantId reason
          (state.store.listActiveByTenant tenantId) 0)
  | goesOn {index : Nat} {readings : Readings} {old new : SchedulerTask}
      {started : List SchedulerTask} {dispatcher : Dispatcher} :
      state.tasks[index]? = some old →
      old.GoesOn self state readings new started dispatcher →
      Origin self state tasks (.resume index readings) new
  | started {index : Nat} {readings : Readings} {old new task : SchedulerTask}
      {started : List SchedulerTask} {dispatcher : Dispatcher} :
      state.tasks[index]? = some old →
      old.GoesOn self state readings new started dispatcher →
      started ⊆ tasks →
      task ∈ started →
      Origin self state tasks (.resume index readings) task
  | runs {readings : LoopReadings} {target : PersistedJob} :
      state.dispatcher.loop = .claimed (some target) →
      Origin self state tasks (.resumeLoop readings)
        (.running target (self.runJob target))
  | settles {index : Nat} {job : PersistedJob} {call : RunnerCall}
      {outcome : Except Thrown JsValue} :
      state.tasks[index]? = some (.running job call) →
      Origin self state tasks (.settle index outcome) (.settled job outcome)

/-- Every task after a move has one of these origins. -/
theorem CfpSchedulerDO.Moves.origin
    {self : CfpSchedulerDO}
    {state : SchedulerState}
    {event : SchedulerEvent}
    {tasks : List SchedulerTask}
    {dispatcher : Dispatcher}
    (moves : self.Moves state event tasks dispatcher)
    {task : SchedulerTask}
    (member : task ∈ tasks) :
    self.Origin state tasks event task := by
  have added
      {new : SchedulerTask}
      (isNew : self.Origin state tasks event new)
      (member : task ∈ state.tasks ++ [new]) :
      self.Origin state tasks event task := by
    rcases List.mem_append.mp member with before | same
    · exact .before before
    · rw [List.mem_singleton.mp same]
      exact isNew
  have replaced
      {index : Nat}
      {new : SchedulerTask}
      (isNew : self.Origin state tasks event new)
      (member : task ∈ state.tasks.set index new) :
      self.Origin state tasks event task := by
    rcases List.mem_or_eq_of_mem_set member with before | same
    · exact .before before
    · rw [same]
      exact isNew
  cases moves with
  | enqueue begins => exact added (.begins begins) member
  | cancel => exact added .cancel member
  | cancelByTenant => exact added .cancelByTenant member
  | configure => exact .before member
  | status => exact .before member
  | result => exact .before member
  | deliverAlarm begins => exact added (.begins begins) member
  | resume found goes =>
      rcases List.mem_append.mp member with inPlace | isStarted
      · exact replaced (.goesOn found goes) inPlace
      · exact .started found goes (List.subset_append_right _ _) isStarted
  | loopGoesOn => exact .before member
  | runs claimed => exact added (.runs claimed) member
  | settle found => exact replaced (.settles found) member
  | evict => cases member

/-! ## The store calls of a step's own part -/

/-- The call that a step makes before the loop is kicked. -/
inductive CfpSchedulerDO.CallFrom
    (self : CfpSchedulerDO)
    (state : SchedulerState) : SchedulerEvent → JobStoreCall → Prop where
  | cancel {jobId : String} {reason : Option String} {now : Int} :
      CallFrom self state (.cancel jobId reason now)
        (.cancel now jobId reason)
  | enqueue {index : Nat} {readings : Readings}
      {req : SchedulerEnqueueRequest} :
      state.tasks[index]? = some (.rebuilt (.enqueue req)) →
      CallFrom self state (.resume index readings)
        (.enqueue readings.now (req.toJob readings.now))
  | reclaimExpiredLeases {index : Nat} {readings : Readings} :
      state.tasks[index]? = some (.rebuilt .alarmStart) →
      CallFrom self state (.resume index readings)
        (.reclaimExpiredLeases readings.now)
  | sweepExpired {index : Nat} {readings : Readings} {now : Int} :
      CallFrom self state (.resume index readings) (.sweepExpired now)
  | cancelByTenant {index : Nat} {readings : Readings} {jobId : String}
      {reason : Option String} :
      CallFrom self state (.resume index readings)
        (.cancel readings.now jobId reason)
  | ack {index : Nat} {readings : Readings} {job : PersistedJob}
      {value : JsValue} :
      state.tasks[index]? = some (.settled job (.ok value)) →
      CallFrom self state (.resume index readings)
        (.ack readings.now job.id self.ownerId value
          (readings.now + state.dispatcher.config.resultTtlMs))
  | fail {index : Nat} {readings : Readings} {job : PersistedJob}
      {rawErr : Thrown} :
      state.tasks[index]? = some (.settled job (.error rawErr)) →
      readings.rejection = none →
      CallFrom self state (.resume index readings)
        (.fail readings.now job.id self.ownerId (errorToRecord rawErr))

/-- Every call is one of these. -/
theorem CfpSchedulerDO.callFrom
    {self : CfpSchedulerDO}
    {state : SchedulerState}
    {event : SchedulerEvent}
    {call : JobStoreCall}
    (isCall : call ∈ self.segmentCalls state event) :
    self.CallFrom state event call := by
  unfold segmentCalls at isCall
  split at isCall
  · cases List.mem_singleton.mp isCall
    exact .cancel
  · split at isCall
    · cases isCall
    next task found =>
      unfold taskCalls at isCall
      split at isCall
      case h_1 =>
        split at isCall
        · cases isCall
        · cases List.mem_singleton.mp isCall
          exact .enqueue found
      case h_2 =>
        cases List.mem_singleton.mp isCall
        exact .reclaimExpiredLeases found
      case h_3 | h_5 =>
        cases List.mem_singleton.mp isCall
        exact .sweepExpired
      case h_4 =>
        cases List.mem_singleton.mp isCall
        exact .cancelByTenant
      case h_6 =>
        split at isCall
        · cases isCall
        · cases List.mem_singleton.mp isCall
          exact .ack found
      case h_7 =>
        split at isCall
        · cases isCall
        next accepts =>
          cases List.mem_singleton.mp isCall
          exact .fail found (by simpa using accepts)
      case h_8 =>
        cases isCall
  · cases isCall

/-- A step's own part claims nothing. -/
theorem CfpSchedulerDO.segmentCalls_ne_claim
    {self : CfpSchedulerDO}
    {state : SchedulerState}
    {event : SchedulerEvent}
    {call : JobStoreCall}
    (isCall : call ∈ self.segmentCalls state event)
    (now : Int)
    (req : ClaimRequest) :
    call ≠ .claim now req := by
  rintro rfl
  cases callFrom isCall

/-- A row after a step's own part is as it was or made the call's move. -/
theorem CfpSchedulerDO.row?_segmentCalls
    {self : CfpSchedulerDO}
    {state : SchedulerState}
    {event : SchedulerEvent}
    {jobId : String}
    {new : Option JobsRow}
    (after :
      (state.store.after (self.segmentCalls state event)).row? jobId =
        new) :
    state.store.row? jobId = new ∨
      ∃ call ∈ self.segmentCalls state event,
        JobsRow.Move call (state.store.row? jobId) new := by
  rcases self.segmentCalls_cases state event with none | ⟨call, only⟩
  · rw [none] at after
    exact .inl after
  · refine .inr ⟨call, by rw [only]; exact List.mem_singleton_self call, ?_⟩
    rw [only] at after
    change (state.store.invoke call).1.row? jobId = new at after
    rw [← after]
    exact state.store.row?_invoke call jobId

/-! ## The end of a step -/

/-- Where the dispatch loop is suspended after a step, and what is stored. -/
inductive Segment.LoopEnd
    (self : CfpSchedulerDO)
    (readings : LoopReadings)
    (segment : Segment) : LoopState → JobStore → Prop where
  | stays :
      segment.pick = none →
      LoopEnd self readings segment segment.state.dispatcher.loop
        segment.state.store
  | rejected {job : PersistedJob} {dispatcher : Dispatcher} :
      segment.pick = some (job, dispatcher) →
      readings.rejects = true →
      LoopEnd self readings segment .rejected segment.state.store
  | failedExpired {job : PersistedJob} {dispatcher : Dispatcher} :
      segment.pick = some (job, dispatcher) →
      readings.rejects = false →
      deadlinePassed job readings.check = true →
      LoopEnd self readings segment .failedExpired
        (segment.state.store.failQueued readings.check job.id
          (deadlineError job)).1
  | missed {job : PersistedJob} {dispatcher : Dispatcher} :
      segment.pick = some (job, dispatcher) →
      readings.rejects = false →
      deadlinePassed job readings.check = false →
      segment.claimedRows self readings = [] →
      LoopEnd self readings segment (.claimed none) segment.state.store
  | claimed {job : PersistedJob} {dispatcher : Dispatcher}
      {row leased : JobsRow} {store : JobStore} :
      segment.pick = some (job, dispatcher) →
      readings.rejects = false →
      deadlinePassed job readings.check = false →
      segment.claimedRows self readings = [row] →
      segment.state.store.row? row.id = some row →
      row.isClaimable readings.claim →
      leased =
        row.lease self.ownerId
          (readings.claim + dispatcher.config.defaultLeaseMs) →
      (∀ jobId,
        store.row? jobId =
          if jobId = row.id then
            some leased
          else
            segment.state.store.row? jobId) →
      LoopEnd self readings segment (.claimed (some (rowToJob leased))) store

/-- The end of every step is one of these. -/
theorem Segment.loopEnd
    (self : CfpSchedulerDO)
    (readings : LoopReadings)
    (segment : Segment) :
    segment.LoopEnd self readings
      (segment.finish self readings).dispatcher.loop
      (segment.finish self readings).store := by
  have finishes := segment.finishes self readings
  rw [finishes.loop, finishes.store]
  unfold loopAfter loopCalls
  cases picked : segment.pick with
  | none =>
      exact .stays picked
  | some pick =>
      obtain ⟨job, dispatcher⟩ := pick
      dsimp only
      cases rejects : readings.rejects with
      | true =>
          exact .rejected picked rejects
      | false =>
          cases passed : deadlinePassed job readings.check with
          | true =>
              exact .failedExpired picked rejects passed
          | false =>
              have candidates :
                  segment.claimedRows self readings =
                    segment.state.store.claimCandidates readings.claim
                      (self.claimRequest dispatcher.config job) := by
                simp [claimedRows, picked, rejects, passed]
              simp only [Bool.false_eq_true, if_false, JobStore.after,
                List.foldl_cons, List.foldl_nil, JobStore.invoke]
              rcases
                  @JobStore.claim_cases segment.state.store readings.claim
                    (self.claimRequest dispatcher.config job) rfl with
                ⟨noRow, none⟩ | ⟨row, next, selected, claimed, rows⟩
              · rw [none]
                exact .missed picked rejects passed (candidates.trans noRow)
              · rw [claimed]
                obtain ⟨found, claimable⟩ :=
                  @JobStore.claimable_of_candidate segment.state.store
                    readings.claim (self.claimRequest dispatcher.config job)
                    row (by simp [selected])
                exact .claimed picked rejects passed
                  (candidates.trans selected) found claimable rfl rows

end CloudflareParallel
