import CloudflareParallel.SchedulerOpenExecutions
import CloudflareParallel.SchedulerStoreCalls

namespace CloudflareParallel

open KeyedTables LabelledRuns

/-!
# What a step of the scheduler object does

A step is a task's own part followed by a kick of the dispatch loop.  The kick
touches the ready set, where the loop is suspended, and the row of the job that
it takes; the calls that a step makes to the store are listed by two functions.
-/

/-- The store call of the dispatch loop at the end of a segment. -/
def Segment.loopCalls
    (self : CfpSchedulerDO)
    (readings : LoopReadings)
    (segment : Segment) : List JobStoreCall :=
  match segment.pick with
  | none => []
  | some (job, dispatcher) =>
      if readings.rejects then
        []
      else if deadlinePassed job readings.check then
        [.failQueued readings.check job.id (deadlineError job)]
      else
        [.claim readings.claim (self.claimRequest dispatcher.config job)]

/-- Where the dispatch loop is suspended at the end of a segment. -/
def Segment.loopAfter
    (self : CfpSchedulerDO)
    (readings : LoopReadings)
    (segment : Segment) : LoopState :=
  match segment.pick with
  | none => segment.state.dispatcher.loop
  | some (job, dispatcher) =>
      if readings.rejects then
        .rejected
      else if deadlinePassed job readings.check then
        .failedExpired
      else
        .claimed
          (segment.state.store.claim readings.claim
            (self.claimRequest dispatcher.config job)).2.head?

/-- The store calls that a task makes itself, before the loop is kicked. -/
def CfpSchedulerDO.taskCalls
    (self : CfpSchedulerDO)
    (state : SchedulerState)
    (readings : Readings) : SchedulerTask → List JobStoreCall
  | .rebuilt (.enqueue req) =>
      if state.dispatcher.queueIsFull || readings.rejection.isSome then
        []
      else
        [.enqueue readings.now (req.toJob readings.now)]
  | .rebuilt .alarmStart => [.reclaimExpiredLeases readings.now]
  | .rebuilt (.alarmSweep now) => [.sweepExpired now]
  | .cancelTenant _ reason (job :: _) _ => [.cancel readings.now job.id reason]
  | .alarmReclaimed now 0 => [.sweepExpired now]
  | .settled job (.ok value) =>
      if readings.rejection.isSome then
        []
      else
        [.ack readings.now job.id self.ownerId value
          (readings.now + state.dispatcher.config.resultTtlMs)]
  | .settled job (.error rawErr) =>
      if readings.rejection.isSome then
        []
      else
        [.fail readings.now job.id self.ownerId (errorToRecord rawErr)]
  | _ => []

/-- The store calls of a step, before the loop is kicked. -/
def CfpSchedulerDO.segmentCalls
    (self : CfpSchedulerDO)
    (state : SchedulerState) : SchedulerEvent → List JobStoreCall
  | .cancel jobId reason now => [.cancel now jobId reason]
  | .resume index readings =>
      match state.tasks[index]? with
      | none => []
      | some task => self.taskCalls state readings task
  | _ => []

/-- The store calls of a step. -/
def CfpSchedulerDO.storeCalls
    (self : CfpSchedulerDO)
    (state : SchedulerState)
    (event : SchedulerEvent) : List JobStoreCall :=
  self.segmentCalls state event ++
    match self.segment state event with
    | none => []
    | some segment => segment.loopCalls self event.loopReadings

/-- A task makes at most one store call before the loop is kicked. -/
theorem CfpSchedulerDO.taskCalls_cases
    (self : CfpSchedulerDO)
    (state : SchedulerState)
    (readings : Readings)
    (task : SchedulerTask) :
    self.taskCalls state readings task = [] ∨
      ∃ call, self.taskCalls state readings task = [call] := by
  unfold taskCalls
  split
  case h_1 | h_6 | h_7 =>
    split
    · exact .inl rfl
    · exact .inr ⟨_, rfl⟩
  case h_8 =>
    exact .inl rfl
  all_goals exact .inr ⟨_, rfl⟩

/-- A step makes at most one store call before the loop is kicked. -/
theorem CfpSchedulerDO.segmentCalls_cases
    (self : CfpSchedulerDO)
    (state : SchedulerState)
    (event : SchedulerEvent) :
    self.segmentCalls state event = [] ∨
      ∃ call, self.segmentCalls state event = [call] := by
  unfold segmentCalls
  split
  · exact .inr ⟨_, rfl⟩
  · split
    · exact .inl rfl
    · exact self.taskCalls_cases ..
  · exact .inl rfl

/-! ## The dispatch loop -/

/-- What the end of a step leaves of the state after its own part. -/
structure Segment.Finishes
    (scheduler : CfpSchedulerDO)
    (readings : LoopReadings)
    (segment : Segment)
    (next : SchedulerState) : Prop where
  tasks : next.tasks = segment.state.tasks
  initialized : next.initialized = segment.state.initialized
  replies : next.replies = segment.state.replies
  config : next.dispatcher.config = segment.state.dispatcher.config
  running : next.dispatcher.running = segment.state.dispatcher.running
  loop : next.dispatcher.loop = segment.loopAfter scheduler readings
  store :
    next.store =
      segment.state.store.after (segment.loopCalls scheduler readings)
  ready :
    next.dispatcher.ready = segment.state.dispatcher.ready ∨
      next.dispatcher.ready =
        segment.state.dispatcher.takeNextReady.2.ready
  wasReady :
    ∀ job ∈ next.dispatcher.readyJobs,
      job ∈ segment.state.dispatcher.readyJobs
  staysReady :
    ∀ job ∈ segment.state.dispatcher.readyJobs,
      job ∈ next.dispatcher.readyJobs ∨
        ∃ dispatcher, segment.pick = some (job, dispatcher)

namespace Segment

/-- The pick of a segment comes from the ready set of an idle dispatcher. -/
theorem of_pick
    {segment : Segment}
    {job : PersistedJob}
    {dispatcher : Dispatcher}
    (picked : segment.pick = some (job, dispatcher)) :
    segment.entry ≠ .stay ∧
      segment.state.dispatcher.loop = .idle ∧
        segment.state.dispatcher.hasSlot ∧
          segment.state.dispatcher.takeNextReady = (some job, dispatcher) := by
  unfold pick at picked
  split at picked
  · cases picked
  next idle stays =>
    split at picked
    next slot =>
      split at picked
      next taken next took =>
        cases picked
        exact ⟨stays, idle, slot, took⟩
      next =>
        cases picked
    next =>
      cases picked
  next =>
    cases picked

/-- A kick that takes no job changes at most the order of the tenants. -/
theorem finishes_of_not_picked
    {self : CfpSchedulerDO}
    {readings : LoopReadings}
    {segment : Segment}
    (unpicked : segment.pick = none)
    {dispatcher : Dispatcher}
    (same : segment.state.dispatcher.SameButReady dispatcher)
    (ready :
      dispatcher.ready = segment.state.dispatcher.ready ∨
        dispatcher.ready =
          segment.state.dispatcher.takeNextReady.2.ready)
    (wasReady :
      ∀ job ∈ dispatcher.readyJobs,
        job ∈ segment.state.dispatcher.readyJobs)
    (staysReady :
      ∀ job ∈ segment.state.dispatcher.readyJobs,
        job ∈ dispatcher.readyJobs) :
    segment.Finishes self readings
      (segment.state.withDispatcher dispatcher) where
  tasks := rfl
  initialized := rfl
  replies := rfl
  config := same.config
  running := same.running
  loop := by
    rw [loopAfter, unpicked]
    exact same.loop
  store := by
    rw [loopCalls, unpicked]
    rfl
  ready := ready
  wasReady := wasReady
  staysReady job ready := .inl (staysReady job ready)

/-- A step without a kick, or with a kick of a running loop, is at its end. -/
theorem finishes_self
    {self : CfpSchedulerDO}
    {readings : LoopReadings}
    {segment : Segment}
    (unpicked : segment.pick = none) :
    segment.Finishes self readings segment.state where
  tasks := rfl
  initialized := rfl
  replies := rfl
  config := rfl
  running := rfl
  loop := by
    rw [loopAfter, unpicked]
  store := by
    rw [loopCalls, unpicked]
    rfl
  ready := .inl rfl
  wasReady _ := id
  staysReady _ := .inl

/-- A kick that takes a job dispatches it. -/
theorem finishes_of_picked
    {self : CfpSchedulerDO}
    {readings : LoopReadings}
    {segment : Segment}
    {job : PersistedJob}
    {dispatcher : Dispatcher}
    (picked : segment.pick = some (job, dispatcher)) :
    segment.Finishes self readings
      (self.dispatchJob readings segment.state dispatcher job) := by
  obtain ⟨-, -, -, took⟩ := of_pick picked
  have same := Dispatcher.sameButReady_takeNextReady took
  have wasReady (other : PersistedJob)
      (ready : other ∈ dispatcher.readyJobs) :
      other ∈ segment.state.dispatcher.readyJobs :=
    Dispatcher.readyJobs_of_takeNextReady took ready
  have staysReady (other : PersistedJob)
      (ready : other ∈ segment.state.dispatcher.readyJobs) :
      other ∈ dispatcher.readyJobs ∨
        ∃ next, segment.pick = some (other, next) := by
    rcases Dispatcher.mem_readyJobs_takeNextReady took ready with
      isTaken | stays
    · cases isTaken
      exact .inr ⟨dispatcher, picked⟩
    · exact .inl stays
  have readyAfter :
      dispatcher.ready =
        segment.state.dispatcher.takeNextReady.2.ready := by
    rw [took]
  unfold CfpSchedulerDO.dispatchJob
  split
  next rejects =>
    exact {
      tasks := rfl
      initialized := rfl
      replies := rfl
      config := same.config
      running := same.running
      loop := by simp [loopAfter, picked, rejects]
      store := by simp [loopCalls, picked, rejects, JobStore.after]
      ready := .inr readyAfter
      wasReady := wasReady
      staysReady := staysReady
    }
  next accepts =>
    split
    next passed =>
      exact {
        tasks := rfl
        initialized := rfl
        replies := rfl
        config := same.config
        running := same.running
        loop := by simp [loopAfter, picked, accepts, passed]
        store := by
          simp [loopCalls, picked, accepts, passed, JobStore.after,
            JobStore.invoke]
        ready := .inr readyAfter
        wasReady := wasReady
        staysReady := staysReady
      }
    next inTime =>
      exact {
        tasks := rfl
        initialized := rfl
        replies := rfl
        config := same.config
        running := same.running
        loop := by simp [loopAfter, picked, accepts, inTime]
        store := by
          simp [loopCalls, picked, accepts, inTime, JobStore.after,
            JobStore.invoke]
        ready := .inr readyAfter
        wasReady := wasReady
        staysReady := staysReady
      }

/-- A kick finishes the step. -/
theorem finishes_kick
    {self : CfpSchedulerDO}
    {readings : LoopReadings}
    {segment : Segment}
    (kicks : segment.entry ≠ .stay) :
    segment.Finishes self readings (self.kick readings segment.state) := by
  unfold CfpSchedulerDO.kick
  split
  next idle =>
    unfold CfpSchedulerDO.dispatchLoop
    split
    next slot =>
      split
      next dispatcher took =>
        have unpicked : segment.pick = none := by
          unfold pick
          rw [idle, if_pos slot, took]
          cases entry : segment.entry with
          | stay => exact absurd entry kicks
          | kick => rfl
          | kickThenAlarm now => rfl
        have same := Dispatcher.sameButReady_takeNextReady took
        refine finishes_of_not_picked unpicked
          ⟨same.config, same.running, idle.symm⟩ (.inr ?_) ?_ ?_
        · rw [took]
        · intro job ready
          exact Dispatcher.readyJobs_of_takeNextReady took ready
        · intro job ready
          have stays := Dispatcher.mem_readyJobs_takeNextReady took ready
          exact stays.resolve_left fun wrong => by cases wrong
      next job dispatcher took =>
        exact finishes_of_picked (pick_eq_some kicks idle slot took)
    next noSlot =>
      have unpicked : segment.pick = none := by
        unfold pick
        rw [idle, if_neg noSlot]
        cases segment.entry <;> rfl
      exact finishes_of_not_picked unpicked ⟨rfl, rfl, idle.symm⟩
        (.inl rfl) (fun _ => id) fun _ => id
  next busy =>
    have unpicked : segment.pick = none := by
      unfold pick
      split
      · rfl
      next idle _ =>
        exact absurd idle busy
      next =>
        rfl
    exact finishes_self unpicked

/-- The end of every step. -/
theorem finishes
    (self : CfpSchedulerDO)
    (readings : LoopReadings)
    (segment : Segment) :
    segment.Finishes self readings (segment.finish self readings) := by
  unfold finish
  split
  next stays =>
    have unpicked : segment.pick = none := by
      unfold pick
      rw [stays]
    exact finishes_self unpicked
  next entry =>
    exact finishes_kick (by simp [entry])
  next now entry =>
    have kicked :=
      @finishes_kick self readings segment (by simp [entry])
    exact {
      tasks := kicked.tasks
      initialized := kicked.initialized
      replies := kicked.replies
      config := kicked.config
      running := kicked.running
      loop := kicked.loop
      store := kicked.store
      ready := kicked.ready
      wasReady := kicked.wasReady
      staysReady := kicked.staysReady
    }

end Segment

/-! ## The store calls of a step -/

@[simp]
theorem store_ensureInit
    (state : SchedulerState)
    (caller : RebuildCaller) :
    (state.ensureInit caller).1.store = state.store := by
  unfold SchedulerState.ensureInit
  split <;> rfl

/-- An enqueue makes the store call that is listed for it. -/
theorem store_startEnqueue
    (self : CfpSchedulerDO)
    (state : SchedulerState)
    (index : Nat)
    (readings : Readings)
    (req : SchedulerEnqueueRequest) :
    (state.startEnqueue index readings req).store =
      state.store.after
        (self.taskCalls state readings (.rebuilt (.enqueue req))) := by
  unfold SchedulerState.startEnqueue CfpSchedulerDO.taskCalls
  dsimp only
  cases state.dispatcher.queueIsFull with
  | true =>
      rfl
  | false =>
      cases readings.rejection with
      | some err =>
          rfl
      | none =>
          simp only [JobStore.after, JobStore.invoke, Bool.false_eq_true,
            if_false, Option.isSome_none, Bool.or_self, List.foldl_cons,
            List.foldl_nil]
          cases state.store.enqueue readings.now (req.toJob readings.now) <;>
            rfl

/-- The outcome of a run makes the store call that is listed for it. -/
theorem store_storeOutcome
    (self : CfpSchedulerDO)
    (state : SchedulerState)
    (index : Nat)
    (readings : Readings)
    (job : PersistedJob)
    (outcome : Except Thrown JsValue) :
    (self.storeOutcome state index readings job outcome).store =
      state.store.after
        (self.taskCalls state readings (.settled job outcome)) := by
  cases outcome <;> unfold CfpSchedulerDO.storeOutcome <;>
    cases rejection : readings.rejection <;>
      simp [CfpSchedulerDO.taskCalls, rejection, JobStore.after,
        JobStore.invoke]

/-- A suspended task makes the store calls that are listed for it. -/
theorem store_resumeTask
    {self : CfpSchedulerDO}
    {state : SchedulerState}
    {index : Nat}
    {readings : Readings}
    {task : SchedulerTask}
    {segment : Segment}
    (resumed : self.resumeTask state index readings task = some segment) :
    segment.state.store =
      state.store.after (self.taskCalls state readings task) := by
  cases task with
  | rebuild queued caller =>
      cases resumed
      rfl
  | rebuilt caller =>
      cases resumed
      cases caller with
      | enqueue req =>
          exact store_startEnqueue self state index readings req
      | alarmStart => rfl
      | alarmSweep now => rfl
      | alarmKick now => rfl
  | enqueueStored job =>
      cases resumed
      rfl
  | enqueueReturn id =>
      cases resumed
      rfl
  | cancelDone jobId ok =>
      cases resumed
      cases ok <;> rfl
  | cancelTenant tenantId reason active count =>
      cases active with
      | nil =>
          cases resumed
          rfl
      | cons job active =>
          cases resumed
          rfl
  | alarmReclaimed now reclaimed =>
      cases reclaimed with
      | zero =>
          cases resumed
          rfl
      | succ more =>
          cases resumed
          rfl
  | alarmSwept now =>
      cases resumed
      unfold SchedulerState.backstop
      split <;> rfl
  | writeAlarm existing wakeAt =>
      cases resumed
      rfl
  | running job call =>
      cases resumed
  | settled job outcome =>
      cases resumed
      exact store_storeOutcome self state index readings job outcome
  | requeueing job =>
      cases resumed
      unfold SchedulerState.scheduleRetry
      dsimp only
      split <;> rfl
  | finishing job =>
      cases resumed
      rfl
  | retryTimer job wakeAt =>
      unfold CfpSchedulerDO.resumeTask at resumed
      dsimp only at resumed
      split at resumed
      · cases resumed
        rfl
      · cases resumed
  | finished =>
      cases resumed

/-- What happens before the kick makes the store calls that are listed. -/
theorem store_segment
    {self : CfpSchedulerDO}
    {state : SchedulerState}
    {event : SchedulerEvent}
    {segment : Segment}
    (isSegment : self.segment state event = some segment) :
    segment.state.store =
      state.store.after (self.segmentCalls state event) := by
  cases event with
  | enqueue req =>
      cases isSegment
      exact store_ensureInit state _
  | cancel jobId reason now =>
      cases isSegment
      rfl
  | cancelByTenant tenantId reason =>
      cases isSegment
      rfl
  | configure c =>
      cases isSegment
      rfl
  | status jobId =>
      cases isSegment
      rfl
  | result jobId now =>
      cases isSegment
      rfl
  | deliverAlarm now =>
      unfold CfpSchedulerDO.segment at isSegment
      dsimp only at isSegment
      split at isSegment
      next =>
        split at isSegment
        · cases isSegment
          exact store_ensureInit _ _
        · cases isSegment
      next =>
        cases isSegment
  | resume index readings =>
      obtain ⟨task, found, resumed⟩ := Option.bind_eq_some_iff.mp isSegment
      unfold CfpSchedulerDO.segmentCalls
      dsimp only
      rw [found]
      exact store_resumeTask resumed
  | resumeLoop readings =>
      change self.resumeLoop state = some segment at isSegment
      unfold CfpSchedulerDO.resumeLoop at isSegment
      dsimp only at isSegment
      split at isSegment <;> cases isSegment <;> rfl
  | settle index outcome =>
      unfold CfpSchedulerDO.segment at isSegment
      dsimp only at isSegment
      split at isSegment <;> cases isSegment
      rfl
  | evict =>
      cases isSegment
      rfl

/-- A step makes the store calls that are listed for it. -/
theorem store_step
    {self : CfpSchedulerDO}
    {state next : SchedulerState}
    {event : SchedulerEvent}
    (stepped : self.step state event = some next) :
    next.store = state.store.after (self.storeCalls state event) := by
  obtain ⟨segment, isSegment, rfl⟩ := Option.map_eq_some_iff.mp stepped
  unfold CfpSchedulerDO.storeCalls
  rw [isSegment, JobStore.after, List.foldl_append,
    (segment.finishes self event.loopReadings).store, store_segment isSegment]
  rfl

end CloudflareParallel
