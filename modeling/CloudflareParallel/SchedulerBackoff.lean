import CloudflareParallel.SchedulerFencing
import CloudflareParallel.SchedulerLimits

namespace CloudflareParallel

open KeyedTables LabelledRuns

/-!
# Backoff

A failed job is queued in storage at once; its delay is kept by a timer in
memory alone.  A history records until when each job is to wait, and the latest
clock reading.  The delay is respected as long as no rebuild and no repeated
submission puts a waiting job into the ready set, and memory holds no second
copy of a job when it fails.
-/

/-- The latest clock reading, and until when each job is to wait. -/
structure BackoffHistory where
  latest : Int
  notBefore : String → Option Int := fun _ => none

/-- At a time a job is still to wait. -/
def BackoffHistory.inBackoff
    (history : BackoffHistory)
    (clock : Int)
    (jobId : String) : Bool :=
  (history.notBefore jobId).any (clock < ·)

/-- What an event reads from the clock, in this order. -/
def SchedulerEvent.clockReadings : SchedulerEvent → List Int
  | .cancel _ _ now => [now]
  | .result _ now => [now]
  | .deliverAlarm now => [now]
  | .resume _ readings =>
      [readings.now, readings.loop.check, readings.loop.claim]
  | .resumeLoop readings => [readings.check, readings.claim]
  | _ => []

/-- The latest clock reading after an event. -/
def BackoffHistory.clockAfter
    (history : BackoffHistory)
    (event : SchedulerEvent) : Int :=
  event.clockReadings.getLastD history.latest

/-- The job whose failure a step stores and queues again, with the time. -/
def CfpSchedulerDO.requeued?
    (self : CfpSchedulerDO)
    (state : SchedulerState) : SchedulerEvent → Option (PersistedJob × Int)
  | .resume index readings =>
      match state.tasks[index]? with
      | some (.settled job (.error rawErr)) =>
          if readings.rejection.isNone ∧
              (state.store.fail readings.now job.id self.ownerId
                (errorToRecord rawErr)).2 = .queued then
            some (job, readings.now)
          else
            none
      | _ => none
  | _ => none

/-- A job that fails and is queued again is to wait for its delay. -/
def CfpSchedulerDO.recordBackoff
    (self : CfpSchedulerDO)
    (state : SchedulerState)
    (event : SchedulerEvent)
    (history : BackoffHistory) : BackoffHistory where
  latest := history.clockAfter event
  notBefore jobId :=
    match self.requeued? state event with
    | none => history.notBefore jobId
    | some (job, now) =>
        if job.id = jobId then
          some (now + retryDelayMs job)
        else
          history.notBefore jobId

/-- No job is claimed and no run is started before the job's delay is over. -/
structure RespectsBackoff
    (scheduler : CfpSchedulerDO)
    (state : SchedulerState)
    (history : BackoffHistory)
    (event : SchedulerEvent) : Prop where
  claims :
    ∀ segment ∈ scheduler.segment state event,
      ∀ row ∈ segment.claimedRows scheduler event.loopReadings,
        ∀ time ∈ history.notBefore row.id, time ≤ event.loopReadings.claim
  starts :
    ∀ readings,
      event = .resumeLoop readings →
      ∀ target ∈ state.dispatcher.loop.target?,
        ∀ time ∈ history.notBefore target.id, time ≤ readings.check

/-! ## The condition -/

/-- The jobs that a task is to put into the ready set. -/
def SchedulerTask.copies : SchedulerTask → List PersistedJob
  | .rebuild queued _ => queued
  | .enqueueStored job => [job]
  | .requeueing job => [job]
  | .retryTimer job _ => [job]
  | _ => []

namespace SchedulerState

/-- The jobs that are ready, are to be, or are about to run. -/
def copies (state : SchedulerState) : List PersistedJob :=
  state.dispatcher.readyJobs ++ state.dispatcher.loop.target?.toList ++
    state.tasks.flatMap SchedulerTask.copies

/-- The queued jobs that a step reads back from storage. -/
def readsBack
    (state : SchedulerState) : SchedulerEvent → List PersistedJob
  | .enqueue _ | .deliverAlarm _ =>
      if state.initialized then [] else state.store.peek none 10000
  | .resume index _ =>
      match state.tasks[index]? with
      | some (.alarmReclaimed _ reclaimed) =>
          if 0 < reclaimed then state.store.peek none 10000 else []
      | some (.alarmSwept _) =>
          if state.dispatcher.totalReady + state.dispatcher.runningCount <
              state.dispatcher.config.inFlightLimit then
            state.store.peek none 10000
          else
            []
      | _ => []
  | _ => []

end SchedulerState

/-- The jobs that a step accepts. -/
def CfpSchedulerDO.accepts
    (self : CfpSchedulerDO)
    (state : SchedulerState)
    (event : SchedulerEvent) : List PersistedJob :=
  (self.segmentCalls state event).filterMap fun call =>
    match call with
    | .enqueue now job =>
        if (state.store.enqueue now job).isOk then some job else none
    | _ => none

/--
The condition on a step: its clock readings do not go backwards, it reads back
and accepts no job that is still to wait, memory holds no other copy of a job
that fails and is to wait, and its claim selects the job that was taken.
-/
structure BackoffKept
    (scheduler : CfpSchedulerDO)
    (current : SchedulerState × BackoffHistory)
    (event : SchedulerEvent) : Prop where
  monotone : (current.2.latest :: event.clockReadings).Pairwise (· ≤ ·)
  readsBack :
    ∀ job ∈ current.1.readsBack event ++ scheduler.accepts current.1 event,
      current.2.inBackoff (current.2.clockAfter event) job.id = false
  alone :
    ∀ failed ∈ scheduler.requeued? current.1 event,
      0 < retryDelayMs failed.1 →
      ∀ job ∈ current.1.copies, job.id ≠ failed.1.id
  claims :
    ∀ segment ∈ scheduler.segment current.1 event,
      ∀ pick ∈ segment.pick,
        ∀ row ∈ segment.claimedRows scheduler event.loopReadings,
          row.id = pick.1.id

instance
    (scheduler : CfpSchedulerDO)
    (current : SchedulerState × BackoffHistory)
    (event : SchedulerEvent) :
    Decidable (BackoffKept scheduler current event) :=
  decidable_of_iff (_ ∧ _ ∧ _ ∧ _)
    ⟨fun kept => ⟨kept.1, kept.2.1, kept.2.2.1, kept.2.2.2⟩,
      fun kept => ⟨kept.monotone, kept.readsBack, kept.alone, kept.claims⟩⟩

/-! ## The invariant -/

/-- A task puts a job into the ready set no earlier than a time, if at all. -/
def SchedulerTask.Waits
    (task : SchedulerTask)
    (latest time : Int)
    (jobId : String) : Prop :=
  match task with
  | .rebuild queued _ => ∀ job ∈ queued, job.id ≠ jobId
  | .enqueueStored job => job.id ≠ jobId
  | .requeueing job => job.id = jobId → time ≤ latest + retryDelayMs job
  | .retryTimer job wakeAt => job.id = jobId → time ≤ wakeAt
  | _ => True

/-- Memory holds a job back until a time. -/
structure Waiting
    (tasks : List SchedulerTask)
    (dispatcher : Dispatcher)
    (latest time : Int)
    (jobId : String) : Prop where
  ready : ∀ job ∈ dispatcher.readyJobs, job.id ≠ jobId
  claimed : ∀ target ∈ dispatcher.loop.target?, target.id ≠ jobId
  tasks : ∀ task ∈ tasks, task.Waits latest time jobId

/-- Memory holds back every job that is still to wait. -/
def BackoffInvariant
    (state : SchedulerState)
    (history : BackoffHistory) : Prop :=
  ∀ jobId time,
    history.notBefore jobId = some time →
    history.latest < time →
    Waiting state.tasks state.dispatcher history.latest time jobId

namespace SchedulerTask

variable {task : SchedulerTask} {latest clock time : Int} {jobId : String}

/-- A task waits on as the clock goes on. -/
theorem Waits.mono
    (waits : task.Waits latest time jobId)
    (later : latest ≤ clock) :
    task.Waits clock time jobId := by
  cases task with
  | requeueing job =>
      exact fun isJob => (waits isJob).trans (Int.add_le_add_right later _)
  | _ =>
      exact waits

/-- A task without a copy of the job does not put it anywhere. -/
theorem waits_of_no_copy
    (noCopy : ∀ job ∈ task.copies, job.id ≠ jobId) :
    task.Waits latest time jobId := by
  cases task with
  | rebuild queued caller =>
      exact noCopy
  | enqueueStored job =>
      exact noCopy job (List.mem_singleton_self job)
  | requeueing job =>
      exact fun isJob => absurd isJob (noCopy job (List.mem_singleton_self job))
  | retryTimer job wakeAt =>
      exact fun isJob => absurd isJob (noCopy job (List.mem_singleton_self job))
  | _ =>
      trivial

end SchedulerTask

/-- A job that is ready after a task has gone on was ready or was held by it. -/
theorem SchedulerTask.GoesOn.ready
    {self : CfpSchedulerDO}
    {state : SchedulerState}
    {readings : Readings}
    {old new : SchedulerTask}
    {started : List SchedulerTask}
    {dispatcher : Dispatcher}
    {latest time : Int}
    {jobId : String}
    (goes : old.GoesOn self state readings new started dispatcher)
    (later : latest ≤ readings.now)
    (early : readings.now < time)
    (waits : old.Waits latest time jobId)
    (noneReady : ∀ job ∈ state.dispatcher.readyJobs, job.id ≠ jobId) :
    ∀ job ∈ dispatcher.readyJobs, job.id ≠ jobId := by
  have enqueued
      {stored : PersistedJob}
      (other : stored.id ≠ jobId) :
      ∀ job ∈ (state.dispatcher.enqueueReady stored).readyJobs,
        job.id ≠ jobId := by
    intro job ready
    rcases Dispatcher.mem_readyJobs_enqueueReady.mp ready with before | rfl
    · exact noneReady job before
    · exact other
  cases goes with
  | rebuild =>
      intro job ready
      rcases Dispatcher.mem_readyJobs_foldl.mp ready with before | read
      · exact noneReady job before
      · exact waits job read
  | enqueueStored =>
      exact enqueued waits
  | cancelled =>
      intro job ready
      exact noneReady job (Dispatcher.readyJobs_of_dropFromReady ready)
  | tenantCleared =>
      intro job ready
      obtain ⟨other, bucket, -, found, inBucket⟩ :=
        Dispatcher.mem_readyJobs_removeTenant.mp ready
      exact noneReady job
        (Dispatcher.mem_readyJobs.mpr ⟨other, bucket, found, inBucket⟩)
  | someReclaimed =>
      intro job ready
      cases ready
  | backstop =>
      intro job ready
      cases ready
  | @retryNow job now =>
      refine enqueued fun isJob => ?_
      have notYet : time ≤ latest + retryDelayMs job := waits isJob
      omega
  | retryTimer due =>
      refine enqueued fun isJob => ?_
      have notYet : time ≤ _ := waits isJob
      omega
  | _ =>
      exact noneReady

/-- A task that has gone on waits on, unless it is the failure of the job. -/
theorem SchedulerTask.GoesOn.waits
    {self : CfpSchedulerDO}
    {state : SchedulerState}
    {index : Nat}
    {readings : Readings}
    {old new : SchedulerTask}
    {started : List SchedulerTask}
    {dispatcher : Dispatcher}
    {latest clock time : Int}
    {jobId : String}
    (found : state.tasks[index]? = some old)
    (goes : old.GoesOn self state readings new started dispatcher)
    (later : latest ≤ readings.now)
    (waits : old.Waits latest time jobId)
    (notRead :
      ∀ job ∈
        state.readsBack (.resume index readings) ++
          self.accepts state (.resume index readings),
        job.id ≠ jobId)
    (otherFails :
      ∀ failed ∈ self.requeued? state (.resume index readings),
        failed.1.id ≠ jobId) :
    new.Waits clock time jobId ∧
      ∀ task ∈ started, task.Waits clock time jobId := by
  have none (task : SchedulerTask) (member : task ∈ []) :
      task.Waits clock time jobId := by
    cases member
  cases goes with
  | @accepted req store isCall accepted =>
      have isSegmentCall :
          .enqueue readings.now (req.toJob readings.now) ∈
            self.segmentCalls state (.resume index readings) := by
        unfold CfpSchedulerDO.segmentCalls
        dsimp only
        rw [found]
        exact isCall
      refine ⟨notRead _ (List.mem_append_right _ ?_), none⟩
      exact List.mem_filterMap.mpr
        ⟨_, isSegmentCall, by dsimp only; rw [accepted]; rfl⟩
  | someReclaimed some =>
      refine ⟨fun job read => notRead job (List.mem_append_left _ ?_), none⟩
      unfold SchedulerState.readsBack
      simp only [found, if_pos some]
      exact read
  | backstop hasRoom =>
      refine ⟨fun job read => notRead job (List.mem_append_left _ ?_), none⟩
      unfold SchedulerState.readsBack
      simp only [found, if_pos hasRoom]
      exact read
  | @requeued job rawErr accepts queued =>
      refine ⟨fun isJob => absurd isJob (otherFails (job, readings.now) ?_),
        none⟩
      unfold CfpSchedulerDO.requeued?
      simp [found, accepts, queued]
  | retryNow now =>
      refine ⟨trivial, fun task member => ?_⟩
      rw [List.mem_singleton.mp member]
      trivial
  | @retryLater job delayed =>
      refine ⟨trivial, fun task member => ?_⟩
      rcases List.mem_pair.mp member with rfl | rfl
      · trivial
      · intro isJob
        have notYet : time ≤ latest + retryDelayMs job := waits isJob
        omega
  | _ =>
      exact ⟨trivial, none⟩

/-- Readings that do not go backwards end no earlier than they start. -/
theorem le_getLastD
    {latest : Int}
    {readings : List Int}
    (monotone : (latest :: readings).Pairwise (· ≤ ·)) :
    latest ≤ readings.getLastD latest := by
  rw [List.getLastD_eq_getLast?]
  cases last : readings.getLast? with
  | none =>
      exact Int.le_refl _
  | some reading =>
      exact (List.pairwise_cons.mp monotone).1 reading
        (List.mem_of_getLast? last)

/-- A task reads the clock between the step before and the end of its own. -/
theorem between_of_resume
    {latest : Int}
    {index : Nat}
    {readings : Readings}
    (monotone :
      (latest ::
        (SchedulerEvent.resume index readings).clockReadings).Pairwise
          (· ≤ ·)) :
    latest ≤ readings.now ∧
      readings.now ≤
        (SchedulerEvent.resume index readings).clockReadings.getLastD
          latest := by
  simp only [SchedulerEvent.clockReadings, List.pairwise_cons, List.mem_cons,
    List.not_mem_nil, or_false, forall_eq_or_imp, forall_eq] at monotone
  exact ⟨monotone.1.1, monotone.2.1.2⟩

/-- Before the loop is kicked, memory holds back every other waiting job. -/
theorem waiting_moves
    {self : CfpSchedulerDO}
    {state : SchedulerState}
    {event : SchedulerEvent}
    {tasks : List SchedulerTask}
    {dispatcher : Dispatcher}
    {latest clock time : Int}
    {jobId : String}
    (moves : self.Moves state event tasks dispatcher)
    (monotone : (latest :: event.clockReadings).Pairwise (· ≤ ·))
    (isClock : clock = event.clockReadings.getLastD latest)
    (early : clock < time)
    (notRead :
      ∀ job ∈ state.readsBack event ++ self.accepts state event,
        job.id ≠ jobId)
    (otherFails :
      ∀ failed ∈ self.requeued? state event, failed.1.id ≠ jobId)
    (waiting : Waiting state.tasks state.dispatcher latest time jobId) :
    Waiting tasks dispatcher clock time jobId := by
  have later : latest ≤ clock := by
    rw [isClock]
    exact le_getLastD monotone
  have stays (task : SchedulerTask) (member : task ∈ state.tasks) :
      task.Waits clock time jobId :=
    (waiting.tasks task member).mono later
  have adds
      {new : SchedulerTask}
      {next : Dispatcher}
      (waits : new.Waits clock time jobId)
      (ready : ∀ job ∈ next.readyJobs, job.id ≠ jobId)
      (sameLoop : next.loop = state.dispatcher.loop) :
      Waiting (state.tasks ++ [new]) next clock time jobId := by
    refine ⟨ready, sameLoop ▸ waiting.claimed, fun task member => ?_⟩
    rcases List.mem_append.mp member with before | isNew
    · exact stays task before
    · rw [List.mem_singleton.mp isNew]
      exact waits
  have begins
      {caller : RebuildCaller}
      {task : SchedulerTask}
      {next : Dispatcher}
      (reads :
        state.initialized = false →
        ∀ job ∈ state.store.peek none 10000, job.id ≠ jobId)
      (begun : state.Begins caller task next) :
      Waiting (state.tasks ++ [task]) next clock time jobId := by
    cases begun with
    | rebuilds uninitialized =>
        exact adds (reads uninitialized) (fun _ ready => by cases ready) rfl
    | isReady =>
        exact adds trivial waiting.ready rfl
  have keeps : Waiting state.tasks state.dispatcher clock time jobId :=
    ⟨waiting.ready, waiting.claimed, stays⟩
  cases moves with
  | enqueue begun =>
      refine begins (fun uninitialized job read => ?_) begun
      refine notRead job (List.mem_append_left _ ?_)
      simpa [SchedulerState.readsBack, uninitialized] using read
  | cancel =>
      exact adds trivial waiting.ready rfl
  | cancelByTenant =>
      exact adds trivial waiting.ready rfl
  | @configure c =>
      obtain ⟨config, configured⟩ := dispatcher_configure state c
      rw [configured]
      exact ⟨waiting.ready, waiting.claimed, stays⟩
  | status =>
      exact keeps
  | result =>
      exact keeps
  | deliverAlarm begun =>
      refine begins (fun uninitialized job read => ?_) begun
      refine notRead job (List.mem_append_left _ ?_)
      simpa [SchedulerState.readsBack, uninitialized] using read
  | @resume index readings old new started dispatcher found goes =>
      have waits := waiting.tasks old (List.mem_of_getElem? found)
      obtain ⟨laterNow, beforeClock⟩ := between_of_resume monotone
      rw [← isClock] at beforeClock
      obtain ⟨newWaits, startedWaits⟩ :=
        goes.waits found laterNow waits notRead otherFails
      refine ⟨?_, goes.loop ▸ waiting.claimed, fun task member => ?_⟩
      · exact goes.ready laterNow (beforeClock.trans_lt early) waits
          waiting.ready
      · rcases List.mem_append.mp member with member | isStarted
        · rcases List.mem_or_eq_of_mem_set member with before | rfl
          · exact stays task before
          · exact newWaits
        · exact startedWaits task isStarted
  | loopGoesOn =>
      exact ⟨waiting.ready, (fun _ wrong => by cases wrong), stays⟩
  | runs =>
      refine ⟨waiting.ready, (fun _ wrong => by cases wrong), ?_⟩
      intro task member
      rcases List.mem_append.mp member with before | isNew
      · exact stays task before
      · rw [List.mem_singleton.mp isNew]
        trivial
  | settle found =>
      refine ⟨waiting.ready, waiting.claimed, fun task member => ?_⟩
      rcases List.mem_or_eq_of_mem_set member with before | rfl
      · exact stays task before
      · trivial
  | evict noneReady _ _ idle =>
      refine ⟨fun job ready => ?_, fun target isTarget => ?_,
        fun _ member => by cases member⟩
      · rw [Dispatcher.readyJobs, noneReady] at ready
        cases ready
      · rw [idle] at isTarget
        cases isTarget

/-- A failure that queues its job again is stored by a settled execution. -/
theorem CfpSchedulerDO.requeues
    {self : CfpSchedulerDO}
    {state : SchedulerState}
    {event : SchedulerEvent}
    {failed : PersistedJob × Int}
    (fails : self.requeued? state event = some failed) :
    ∃ index readings rawErr,
      event = .resume index readings ∧
        state.tasks[index]? = some (.settled failed.1 (.error rawErr)) ∧
          readings.rejection = none ∧
            (state.store.fail readings.now failed.1.id self.ownerId
              (errorToRecord rawErr)).2 = .queued ∧
              failed.2 = readings.now := by
  unfold requeued? at fails
  split at fails
  next index readings =>
    split at fails
    next job rawErr found =>
      split at fails
      next requeues =>
        cases fails
        exact ⟨index, readings, rawErr, rfl, found,
          by simpa using requeues.1, requeues.2, rfl⟩
      next =>
        cases fails
    next =>
      cases fails
  next =>
    cases fails

/-- A failure that makes its job wait leaves no other copy of it in memory. -/
theorem waiting_requeued
    {self : CfpSchedulerDO}
    {state : SchedulerState}
    {event : SchedulerEvent}
    {tasks : List SchedulerTask}
    {dispatcher : Dispatcher}
    {latest : Int}
    {failed : PersistedJob × Int}
    (moves : self.Moves state event tasks dispatcher)
    (monotone : (latest :: event.clockReadings).Pairwise (· ≤ ·))
    (fails : self.requeued? state event = some failed)
    (alone : ∀ job ∈ state.copies, job.id ≠ failed.1.id) :
    Waiting tasks dispatcher (event.clockReadings.getLastD latest)
      (failed.2 + retryDelayMs failed.1) failed.1.id := by
  obtain ⟨job, now⟩ := failed
  obtain ⟨index, readings, rawErr, rfl, found, accepts, queued, rfl⟩ :=
    CfpSchedulerDO.requeues fails
  dsimp only at *
  have goesOn :
      tasks = state.tasks.set index (.requeueing job) ∧
        dispatcher = state.dispatcher := by
    cases moves with
    | resume isOld goes =>
        rw [found] at isOld
        cases isOld
        cases goes with
        | requeued =>
            exact ⟨List.append_nil _, rfl⟩
        | failRejected rejects =>
            rw [accepts] at rejects
            cases rejects
        | failed _ notQueued =>
            exact absurd queued notQueued
  obtain ⟨rfl, rfl⟩ := goesOn
  have noCopy (task : SchedulerTask) (member : task ∈ state.tasks) :
      ∀ other ∈ task.copies, other.id ≠ job.id := by
    intro other isCopy
    exact alone other
      (List.mem_append_right _
        (List.mem_flatMap.mpr ⟨task, member, isCopy⟩))
  refine ⟨fun other ready => ?_, fun target isTarget => ?_, ?_⟩
  · exact alone other
      (List.mem_append_left _ (List.mem_append_left _ ready))
  · exact alone target
      (List.mem_append_left _
        (List.mem_append_right _ (Option.mem_toList.mpr isTarget)))
  · intro task member
    rcases List.mem_or_eq_of_mem_set member with before | rfl
    · exact SchedulerTask.waits_of_no_copy (noCopy task before)
    · intro _
      exact Int.add_le_add_right (between_of_resume monotone).2 _

/-! ## Steps and runs -/

/-- Before the loop is kicked, memory holds back every waiting job. -/
theorem backoff_segment
    {self : CfpSchedulerDO}
    {current : SchedulerState × BackoffHistory}
    {event : SchedulerEvent}
    {segment : Segment}
    (kept : BackoffKept self current event)
    (isSegment : self.segment current.1 event = some segment)
    (invariant : BackoffInvariant current.1 current.2) :
    BackoffInvariant segment.state
      (self.recordBackoff current.1 event current.2) := by
  have moves := CfpSchedulerDO.moves isSegment
  have later : current.2.latest ≤ current.2.clockAfter event :=
    le_getLastD kept.monotone
  intro jobId time waits early
  have unchanged
      (otherFails :
        ∀ failed ∈ self.requeued? current.1 event, failed.1.id ≠ jobId)
      (waited : current.2.notBefore jobId = some time) :
      Waiting segment.state.tasks segment.state.dispatcher
        (current.2.clockAfter event) time jobId := by
    refine waiting_moves moves kept.monotone rfl early ?_ otherFails
      (invariant jobId time waited (later.trans_lt early))
    rintro job isRead rfl
    have free := kept.readsBack job isRead
    rw [BackoffHistory.inBackoff, waited] at free
    exact absurd early (of_decide_eq_false free)
  unfold CfpSchedulerDO.recordBackoff at waits
  dsimp only at waits
  split at waits
  next none =>
    exact unchanged (by simp [none]) waits
  next job now fails =>
    split at waits
    next isJob =>
      cases waits
      subst isJob
      by_cases delayed : 0 < retryDelayMs job
      · exact waiting_requeued moves kept.monotone fails
          (kept.alone (job, now) fails delayed)
      · obtain ⟨_, _, _, rfl, _, _, _, isNow⟩ := CfpSchedulerDO.requeues fails
        have beforeClock := (between_of_resume kept.monotone).2
        change _ < now + retryDelayMs job at early
        dsimp only at isNow
        unfold CfpSchedulerDO.recordBackoff BackoffHistory.clockAfter at early
        dsimp only at early
        omega
    next otherJob =>
      exact unchanged (by simpa [fails] using otherJob) waits

/-- The job that the loop takes was ready. -/
theorem ready_of_pick
    {segment : Segment}
    {pick : PersistedJob × Dispatcher}
    (picked : segment.pick = some pick) :
    pick.1 ∈ segment.state.dispatcher.readyJobs := by
  obtain ⟨-, -, -, took⟩ := Segment.of_pick picked
  exact Dispatcher.ready_of_taken took

/-- A step that meets the condition keeps the invariant. -/
theorem backoff_step
    {self : CfpSchedulerDO}
    {current next : SchedulerState × BackoffHistory}
    {event : SchedulerEvent}
    (kept : BackoffKept self current event)
    (recorded :
      recording self.step self.recordBackoff current event = some next)
    (invariant : BackoffInvariant current.1 current.2) :
    BackoffInvariant next.1 next.2 := by
  obtain ⟨_, stepped, rfl⟩ := Option.map_eq_some_iff.mp recorded
  obtain ⟨segment, isSegment, rfl⟩ := Option.map_eq_some_iff.mp stepped
  have before := backoff_segment kept isSegment invariant
  have finishes := segment.finishes self event.loopReadings
  have loopEnd := segment.loopEnd self event.loopReadings
  intro jobId time waits early
  obtain ⟨ready, claimed, tasks⟩ := before jobId time waits early
  refine ⟨fun job isReady => ?_, ?_, ?_⟩
  · exact ready job (finishes.wasReady job isReady)
  · dsimp only
    generalize (segment.finish self event.loopReadings).dispatcher.loop = loop
      at loopEnd
    generalize (segment.finish self event.loopReadings).store = store at loopEnd
    intro target isTarget
    cases loopEnd with
    | stays =>
        exact claimed target isTarget
    | @claimed job _ row leased _ picked _ _ claimedRow _ _ isLeased =>
        cases isTarget
        have samePick : row.id = job.id :=
          kept.claims segment isSegment _ picked row
            (by rw [claimedRow]; exact List.mem_singleton_self row)
        have isJob : (rowToJob leased).id = job.id := by
          rw [isLeased]
          exact samePick
        rw [isJob]
        exact ready job (ready_of_pick picked)
    | _ =>
        cases isTarget
  · dsimp only
    rw [finishes.tasks]
    exact tasks

/-- A step that kicks the loop reads the clock for its claim last. -/
theorem clockAfter_of_pick
    {self : CfpSchedulerDO}
    {state : SchedulerState}
    {event : SchedulerEvent}
    {segment : Segment}
    {pick : PersistedJob × Dispatcher}
    (isSegment : self.segment state event = some segment)
    (picked : segment.pick = some pick)
    (history : BackoffHistory) :
    history.clockAfter event = event.loopReadings.claim ∧
      self.requeued? state event = none := by
  have kicks := (Segment.of_pick picked).1
  cases event with
  | deliverAlarm now =>
      unfold CfpSchedulerDO.segment at isSegment
      dsimp only at isSegment
      split at isSegment
      next =>
        split at isSegment <;> cases isSegment
        exact absurd rfl kicks
      next =>
        cases isSegment
  | resume index readings =>
      refine ⟨rfl, Option.eq_none_iff_forall_ne_some.mpr fun failed fails => ?_⟩
      obtain ⟨_, _, _, same, found, -⟩ := CfpSchedulerDO.requeues fails
      cases same
      obtain ⟨task, isTask, resumed⟩ := Option.bind_eq_some_iff.mp isSegment
      rw [found] at isTask
      cases isTask
      cases resumed
      exact kicks rfl
  | resumeLoop readings =>
      exact ⟨rfl, rfl⟩
  | settle index outcome =>
      unfold CfpSchedulerDO.segment at isSegment
      dsimp only at isSegment
      split at isSegment <;> cases isSegment
      exact absurd rfl kicks
  | _ =>
      cases isSegment
      exact absurd rfl kicks

/-- A step that meets the condition respects the delays. -/
theorem respectsBackoff_step
    {self : CfpSchedulerDO}
    {current : SchedulerState × BackoffHistory}
    {event : SchedulerEvent}
    (kept : BackoffKept self current event)
    (invariant : BackoffInvariant current.1 current.2) :
    RespectsBackoff self current.1 current.2 event where
  claims segment isSegment row claimed time waits := by
    by_contra early
    rw [Int.not_le] at early
    obtain ⟨pick, picked⟩ : ∃ pick, segment.pick = some pick := by
      cases picked : segment.pick with
      | none =>
          rw [Segment.claimedRows, picked] at claimed
          cases claimed
      | some pick =>
          exact ⟨pick, rfl⟩
    obtain ⟨clock, noFailure⟩ :=
      clockAfter_of_pick isSegment picked current.2
    have before := backoff_segment kept isSegment invariant
    have unchanged :
        (self.recordBackoff current.1 event current.2).notBefore row.id =
          some time := by
      unfold CfpSchedulerDO.recordBackoff
      dsimp only
      rw [noFailure]
      exact waits
    have notYet : current.2.clockAfter event < time := by
      rw [clock]
      exact early
    have waiting := before row.id time unchanged notYet
    have samePick := kept.claims segment isSegment pick picked row claimed
    exact waiting.ready pick.1 (ready_of_pick picked) samePick.symm
  starts readings isLoop target isTarget time waits := by
    by_contra early
    rw [Int.not_le] at early
    subst isLoop
    have later : current.2.latest ≤ readings.check := by
      have monotone := kept.monotone
      simp only [SchedulerEvent.clockReadings, List.pairwise_cons,
        List.mem_cons, List.not_mem_nil, or_false, forall_eq_or_imp,
        forall_eq] at monotone
      exact monotone.1.1
    have waiting := invariant target.id time waits (later.trans_lt early)
    exact waiting.claimed target isTarget rfl

/--
In a run whose clock does not go backwards, in which no rebuild reads back and
no `enqueue` accepts a job that is still to wait, memory holds no other copy of
a job that fails, and every claim selects the job that was taken, no job is
claimed and no run is started before the job's delay is over.
-/
theorem scheduler_respectsBackoff
    {self : CfpSchedulerDO}
    {start : Int}
    {events : List SchedulerEvent}
    {current : SchedulerState × BackoffHistory}
    {event : SchedulerEvent}
    (run :
      GuardedRun (recording self.step self.recordBackoff) (BackoffKept self)
        ({}, { latest := start }) events current)
    (kept : BackoffKept self current event) :
    RespectsBackoff self current.1 current.2 event := by
  have invariant : BackoffInvariant current.1 current.2 :=
    @GuardedRun.invariant _ _ _ _
      (fun (current : SchedulerState × BackoffHistory) =>
        BackoffInvariant current.1 current.2)
      backoff_step _ _ _ run fun _ _ waits => by cases waits
  exact respectsBackoff_step kept invariant

/-- The job fails, waits for a minute and is claimed again. -/
def flakyWaits : List SchedulerEvent :=
  [ .enqueue .flaky, .resume 0 (.at 10), .resume 0 (.at 10),
    .resume 0 (.at 10), .resume 0 (.at 10),
    .resumeLoop { check := 10, claim := 10 },
    .settle 1 (.error (.error "Error" "not yet" none none)),
    .resume 1 (.at 20), .resume 1 (.at 20), .resume 1 (.at 20),
    .resume 2 (.at 20), .resume 3 (.at 60020) ]

/-- The job's second run starts when its minute is over. -/
theorem scheduler_respectsBackoff_flakyWaits :
    ∃ current : SchedulerState × BackoffHistory,
      GuardedRun
          (recording (CfpSchedulerDO.step .plain)
            (CfpSchedulerDO.recordBackoff .plain))
          (BackoffKept .plain) ({}, { latest := 0 }) flakyWaits current ∧
        current.2.notBefore "flaky" = some 60020 ∧
          RespectsBackoff .plain current.1 current.2
            (.resumeLoop { check := 60020, claim := 60020 }) := by
  have executed :
      (flakyWaits.foldlM
          (fun current event =>
            if BackoffKept .plain current event then
              recording (CfpSchedulerDO.step .plain)
                (CfpSchedulerDO.recordBackoff .plain) current event
            else
              none) ({}, { latest := 0 })).any
        fun current =>
          current.2.notBefore "flaky" = some 60020 &&
            BackoffKept .plain current
              (.resumeLoop { check := 60020, claim := 60020 }) := by
    decide +kernel
  obtain ⟨current, isCurrent, waits⟩ := (Option.any_eq_true _ _).mp executed
  simp only [Bool.and_eq_true, decide_eq_true_eq] at waits
  have run := GuardedRun.of_checked isCurrent
  exact ⟨current, run, waits.1, scheduler_respectsBackoff run waits.2⟩

/--
Two jobs fail, one with a delay of 200 milliseconds and one of a minute; the
alarm of the first one reads both back, and the second is claimed with it.
-/
def alarmReadsBack : List SchedulerEvent :=
  slowStarts ++
    [ .settle 1 (.error (.error "Error" "not yet" none none)),
      .resume 1 (.at 15), .resume 1 (.at 15), .resume 1 (.at 15),
      .resume 2 (.at 15),
      .enqueue .flaky, .resume 4 (.at 16), .resume 4 (.at 16),
      .resume 4 (.at 16), .resumeLoop { check := 16, claim := 16 },
      .settle 5 (.error (.error "Error" "not yet" none none)),
      .resume 5 (.at 20), .resume 5 (.at 20), .resume 5 (.at 20),
      .deliverAlarm 215, .resume 8 (.at 215), .resume 8 (.at 215),
      .resume 8 (.at 215), .resume 8 (.at 215), .resume 8 (.at 215),
      .resumeLoop { check := 215, claim := 215 } ]

/-- A job that is to wait until 60020 is started at 215. -/
theorem scheduler_cuts_backoff_short :
    ∃ current : SchedulerState × BackoffHistory,
      Run
          (recording (CfpSchedulerDO.step .plain)
            (CfpSchedulerDO.recordBackoff .plain))
          ({}, { latest := 0 }) alarmReadsBack current ∧
        current.2.notBefore "flaky" = some 60020 ∧
          ¬ RespectsBackoff .plain current.1 current.2
            (.resumeLoop { check := 215, claim := 215 }) := by
  have executed :
      (alarmReadsBack.foldlM
          (recording (CfpSchedulerDO.step .plain)
            (CfpSchedulerDO.recordBackoff .plain))
          ({}, { latest := 0 })).any
        fun current =>
          current.2.notBefore "flaky" = some 60020 &&
            current.1.dispatcher.loop.target?.any (·.id = "flaky") := by
    decide +kernel
  obtain ⟨current, isCurrent, early⟩ := (Option.any_eq_true _ _).mp executed
  simp only [Bool.and_eq_true, decide_eq_true_eq] at early
  obtain ⟨waits, starting⟩ := early
  obtain ⟨target, isTarget, isFlaky⟩ := (Option.any_eq_true _ _).mp starting
  refine ⟨current, .of_foldlM isCurrent, waits, fun respects => ?_⟩
  have tooEarly :=
    respects.starts _ rfl target isTarget 60020
      (by rw [of_decide_eq_true isFlaky]; exact waits)
  exact absurd tooEarly (by decide)

end CloudflareParallel
