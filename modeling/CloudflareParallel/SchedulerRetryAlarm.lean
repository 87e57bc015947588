import CloudflareParallel.SchedulerMoves
import CloudflareParallel.SchedulerSingleExecution

namespace CloudflareParallel

open KeyedTables LabelledRuns

/-!
# The alarm of the pending retries

A retry waits in a `setTimeout`, and `onScheduleRetry` stores an alarm for the
case that the object is gone by then.  There is one alarm for all of them: each
call reads it and then maybe writes it, and `alarm` writes it at its end.
-/

/-- When a retry that waits in a `setTimeout` is due. -/
def SchedulerTask.retryWake? : SchedulerTask → Option Int
  | .retryTimer _ wakeAt => some wakeAt
  | _ => none

/-- What a call of `#scheduleAlarmAt` has read, and what it may write. -/
def SchedulerTask.alarmWrite? : SchedulerTask → Option (Option Int × Int)
  | .writeAlarm existing wakeAt => some (existing, wakeAt)
  | _ => none

/-- `existing` is falsy, or later than what would be written. -/
def writesAlarmAt
    (existing : Option Int)
    (wakeAt : Int) : Bool :=
  !existing.any fun time => time ≠ 0 && time ≤ wakeAt

namespace SchedulerState

/-- When the pending retries are due. -/
def retryWakes (state : SchedulerState) : List Int :=
  state.tasks.filterMap SchedulerTask.retryWake?

/-- The wake times of the `onScheduleRetry` calls that are in progress. -/
def scheduling (state : SchedulerState) : List Int :=
  state.tasks.filterMap fun task => task.alarmWrite?.map Prod.snd

/-- The stored alarm is no later than a retry. -/
def AlarmCovers
    (state : SchedulerState)
    (wakeAt : Int) : Prop :=
  ∃ time ∈ state.alarm, time ≤ wakeAt

/--
While no `onScheduleRetry` and no `alarm` is in progress, the stored alarm is
no later than any pending retry.
-/
def RetriesCovered (state : SchedulerState) : Prop :=
  state.scheduling = [] →
    state.delivering = none →
      ∀ wakeAt ∈ state.retryWakes, state.AlarmCovers wakeAt

/--
A call decides by the alarm that it has read, and another one may have been
stored since.  What it writes is not later than a retry that the stored alarm
covers; what it leaves still covers its own retry, if that is pending, or
`alarm` is in progress.
-/
def DecidesRight
    (state : SchedulerState)
    (existing : Option Int)
    (wakeAt : Int) : Prop :=
  (writesAlarmAt existing wakeAt = true →
    ∀ retry ∈ state.retryWakes, state.AlarmCovers retry → wakeAt ≤ retry) ∧
  (writesAlarmAt existing wakeAt = false →
    wakeAt ∈ state.retryWakes →
    state.AlarmCovers wakeAt ∨ state.delivering.isSome)

end SchedulerState

/-- The call of `#scheduleAlarmAt` that goes on in a step. -/
def SchedulerEvent.alarmWrite?
    (state : SchedulerState) : SchedulerEvent → Option (Option Int × Int)
  | .resume index _ => state.tasks[index]?.bind SchedulerTask.alarmWrite?
  | _ => none

/-- The clock reading of the `alarm` that comes to its end. -/
def LoopEntry.endsAlarm? : LoopEntry → Option Int
  | .kickThenAlarm now => some now
  | _ => none

/-- A job is ready or running when `alarm` stores the next alarm. -/
def Segment.isBusy
    (self : CfpSchedulerDO)
    (readings : LoopReadings)
    (segment : Segment) : Bool :=
  let dispatcher := (self.kick readings segment.state).dispatcher
  0 < dispatcher.totalReady + dispatcher.runningCount

/--
When `alarm` ends, no retry is due before the next sweep, unless its
`onScheduleRetry` is still in progress.
-/
def Segment.EndsBeforeRetries
    (self : CfpSchedulerDO)
    (readings : LoopReadings)
    (segment : Segment) : Prop :=
  ∀ now ∈ segment.entry.endsAlarm?,
    ∀ retry ∈ segment.state.retryWakes,
      retry ∈ segment.state.scheduling ∨
        now + IDLE_ALARM_MS ≤ retry ∨
          (segment.isBusy self readings ∧ now + ALARM_SWEEP_MS ≤ retry)

/-- The condition on a step. -/
structure RetryAlarmKept
    (scheduler : CfpSchedulerDO)
    (state : SchedulerState)
    (event : SchedulerEvent) : Prop where
  decides :
    ∀ write ∈ event.alarmWrite? state, state.DecidesRight write.1 write.2
  ends :
    ∀ segment ∈ scheduler.segment state event,
      segment.EndsBeforeRetries scheduler event.loopReadings

section Decidability

variable (scheduler : CfpSchedulerDO) (state : SchedulerState)

instance (wakeAt : Int) : Decidable (state.AlarmCovers wakeAt) :=
  inferInstanceAs (Decidable (∃ time ∈ _, _))

instance (existing : Option Int) (wakeAt : Int) :
    Decidable (state.DecidesRight existing wakeAt) :=
  inferInstanceAs (Decidable (_ ∧ _))

instance (readings : LoopReadings) (segment : Segment) :
    Decidable (segment.EndsBeforeRetries scheduler readings) :=
  inferInstanceAs (Decidable (∀ now ∈ _, _))

instance (event : SchedulerEvent) :
    Decidable (RetryAlarmKept scheduler state event) :=
  decidable_of_iff
    ((∀ write ∈ event.alarmWrite? state,
        state.DecidesRight write.1 write.2) ∧
      ∀ segment ∈ scheduler.segment state event,
        segment.EndsBeforeRetries scheduler event.loopReadings)
    ⟨fun ⟨decides, ends⟩ => ⟨decides, ends⟩,
      fun ⟨decides, ends⟩ => ⟨decides, ends⟩⟩

end Decidability

/-! ## The tasks of a step -/

namespace SchedulerState

theorem mem_retryWakes
    {state : SchedulerState}
    {wakeAt : Int} :
    wakeAt ∈ state.retryWakes ↔
      ∃ job, .retryTimer job wakeAt ∈ state.tasks := by
  unfold retryWakes
  rw [List.mem_filterMap]
  constructor
  · rintro ⟨task, member, isWake⟩
    cases task <;> cases isWake
    exact ⟨_, member⟩
  · rintro ⟨job, member⟩
    exact ⟨_, member, rfl⟩

theorem mem_scheduling
    {state : SchedulerState}
    {wakeAt : Int} :
    wakeAt ∈ state.scheduling ↔
      ∃ existing, .writeAlarm existing wakeAt ∈ state.tasks := by
  unfold scheduling
  rw [List.mem_filterMap]
  constructor
  · rintro ⟨task, member, isWrite⟩
    cases task <;> cases isWrite
    exact ⟨_, member⟩
  · rintro ⟨existing, member⟩
    exact ⟨_, member, rfl⟩

end SchedulerState

/-- A pending retry was pending before, or its alarm is being scheduled. -/
theorem CfpSchedulerDO.Moves.retryWakes
    {self : CfpSchedulerDO}
    {state : SchedulerState}
    {event : SchedulerEvent}
    {tasks : List SchedulerTask}
    {dispatcher : Dispatcher}
    (moves : self.Moves state event tasks dispatcher)
    {job : PersistedJob}
    {wakeAt : Int}
    (pending : .retryTimer job wakeAt ∈ tasks) :
    wakeAt ∈ state.retryWakes ∨
      ∃ existing, .writeAlarm existing wakeAt ∈ tasks := by
  generalize isTimer : SchedulerTask.retryTimer job wakeAt = task at pending
  cases moves.origin pending with
  | before isOld =>
      exact .inl (SchedulerState.mem_retryWakes.mpr ⟨job, isTimer ▸ isOld⟩)
  | started _ goes inTasks isStarted =>
      -- the timer and its alarm are started together
      subst isTimer
      cases goes with
      | retryLater later =>
          rcases List.mem_pair.mp isStarted with isWrite | isTimer
          · cases isWrite
          · cases isTimer
            exact .inr ⟨state.alarm, inTasks List.mem_cons_self⟩
      | retryNow now => cases List.mem_singleton.mp isStarted
      | _ => cases isStarted
  | begins begun =>
      subst isTimer
      cases begun
  | goesOn _ goes =>
      subst isTimer
      cases goes
  | _ => cases isTimer

/-- A call of `#scheduleAlarmAt` stays in progress until it goes on. -/
theorem CfpSchedulerDO.Moves.scheduling
    {self : CfpSchedulerDO}
    {state : SchedulerState}
    {event : SchedulerEvent}
    {tasks : List SchedulerTask}
    {dispatcher : Dispatcher}
    (moves : self.Moves state event tasks dispatcher)
    (loaded : event ≠ .evict)
    {existing : Option Int}
    {wakeAt : Int}
    (inProgress : .writeAlarm existing wakeAt ∈ state.tasks) :
    .writeAlarm existing wakeAt ∈ tasks ∨
      event.alarmWrite? state = some (existing, wakeAt) := by
  have replaced
      {index : Nat}
      {old : SchedulerTask}
      (found : state.tasks[index]? = some old)
      (new : SchedulerTask) :
      .writeAlarm existing wakeAt ∈ state.tasks.set index new ∨
        old = .writeAlarm existing wakeAt := by
    obtain ⟨position, isTask⟩ := List.mem_iff_getElem?.mp inProgress
    by_cases same : position = index
    · subst same
      exact .inr (Option.some.inj (found.symm.trans isTask))
    · refine .inl (List.mem_iff_getElem?.mpr ⟨position, ?_⟩)
      rw [List.getElem?_set_ne (Ne.symm same)]
      exact isTask
  cases moves with
  | settle found =>
      rcases replaced found _ with stays | isRunning
      · exact .inl stays
      · cases isRunning
  | resume found goes =>
      rcases replaced found _ with stays | isWrite
      · exact .inl (List.mem_append_left _ stays)
      · refine .inr ?_
        change (state.tasks[_]?).bind _ = _
        rw [found, isWrite]
        rfl
  | evict => exact absurd rfl loaded
  | configure => exact .inl inProgress
  | status => exact .inl inProgress
  | result => exact .inl inProgress
  | loopGoesOn => exact .inl inProgress
  | _ => exact .inl (List.mem_append_left _ inProgress)

/-! ## The alarm of a step -/

/-- The stored alarm and the one that is being delivered are as they were. -/
def SameAlarm (state other : SchedulerState) : Prop :=
  other.alarm = state.alarm ∧ other.delivering = state.delivering

/-- The dispatch loop does not touch the alarm. -/
theorem sameAlarm_kick
    (self : CfpSchedulerDO)
    (readings : LoopReadings)
    (state : SchedulerState) :
    SameAlarm state (self.kick readings state) := by
  unfold CfpSchedulerDO.kick
  split
  · unfold CfpSchedulerDO.dispatchLoop
    split
    · split
      · exact ⟨rfl, rfl⟩
      · unfold CfpSchedulerDO.dispatchJob
        split
        · exact ⟨rfl, rfl⟩
        · split <;> exact ⟨rfl, rfl⟩
    · exact ⟨rfl, rfl⟩
  · exact ⟨rfl, rfl⟩

/-- Only `#scheduleAlarmAt` touches the alarm before the loop is kicked. -/
theorem sameAlarm_resumeTask
    {self : CfpSchedulerDO}
    {state : SchedulerState}
    {index : Nat}
    {readings : Readings}
    {task : SchedulerTask}
    {segment : Segment}
    (resumed : self.resumeTask state index readings task = some segment)
    (writesNone : task.alarmWrite? = none) :
    SameAlarm state segment.state := by
  cases task with
  | rebuilt caller =>
      cases resumed
      cases caller with
      | enqueue req =>
          unfold SchedulerState.afterRebuild SchedulerState.startEnqueue
          dsimp only
          split
          · exact ⟨rfl, rfl⟩
          · split
            · exact ⟨rfl, rfl⟩
            · split <;> exact ⟨rfl, rfl⟩
      | _ => exact ⟨rfl, rfl⟩
  | cancelDone jobId ok =>
      cases resumed
      cases ok <;> exact ⟨rfl, rfl⟩
  | cancelTenant tenantId reason active count =>
      cases active <;> cases resumed <;> exact ⟨rfl, rfl⟩
  | alarmReclaimed now reclaimed =>
      unfold CfpSchedulerDO.resumeTask at resumed
      dsimp only at resumed
      split at resumed <;> cases resumed <;> exact ⟨rfl, rfl⟩
  | alarmSwept now =>
      cases resumed
      unfold SchedulerState.backstop
      split <;> exact ⟨rfl, rfl⟩
  | settled job outcome =>
      cases resumed
      cases outcome <;> unfold CfpSchedulerDO.storeOutcome <;> dsimp only <;>
        split <;> exact ⟨rfl, rfl⟩
  | requeueing job =>
      cases resumed
      unfold SchedulerState.scheduleRetry
      dsimp only
      split <;> exact ⟨rfl, rfl⟩
  | retryTimer job wakeAt =>
      unfold CfpSchedulerDO.resumeTask at resumed
      dsimp only at resumed
      split at resumed <;> cases resumed
      exact ⟨rfl, rfl⟩
  | writeAlarm existing wakeAt => cases writesNone
  | running job call => cases resumed
  | finished => cases resumed
  | _ =>
      cases resumed
      exact ⟨rfl, rfl⟩

/-- What can happen to the alarm before the dispatch loop is kicked. -/
inductive SchedulerState.AlarmMoves
    (state : SchedulerState)
    (segment : Segment) : SchedulerEvent → Prop where
  | keeps {event : SchedulerEvent} :
      event ≠ .evict →
      event.alarmWrite? state = none →
      SameAlarm state segment.state →
      AlarmMoves state segment event
  | writes {event : SchedulerEvent} {existing : Option Int} {wakeAt : Int} :
      event ≠ .evict →
      event.alarmWrite? state = some (existing, wakeAt) →
      segment.entry = .stay →
      segment.state.delivering = state.delivering →
      segment.state.alarm =
        (if writesAlarmAt existing wakeAt then some wakeAt else state.alarm) →
      AlarmMoves state segment event
  | delivers {now : Int} :
      segment.entry = .stay →
      segment.state.delivering.isSome →
      AlarmMoves state segment (.deliverAlarm now)
  | evicts :
      segment.state.tasks = [] →
      segment.entry = .stay →
      AlarmMoves state segment .evict

/-- Everything that can happen does one of these. -/
theorem CfpSchedulerDO.alarmMoves
    {self : CfpSchedulerDO}
    {state : SchedulerState}
    {event : SchedulerEvent}
    {segment : Segment}
    (isSegment : self.segment state event = some segment) :
    state.AlarmMoves segment event := by
  cases event with
  | enqueue req =>
      cases isSegment
      refine .keeps nofun rfl ?_
      unfold SchedulerState.ensureInit
      split <;> exact ⟨rfl, rfl⟩
  | deliverAlarm now =>
      unfold CfpSchedulerDO.segment at isSegment
      dsimp only at isSegment
      split at isSegment
      next time stored idle =>
        split at isSegment
        · cases isSegment
          refine .delivers rfl ?_
          unfold SchedulerState.ensureInit
          split <;> rfl
        · cases isSegment
      next =>
        cases isSegment
  | resume index readings =>
      obtain ⟨task, found, resumed⟩ := Option.bind_eq_some_iff.mp isSegment
      have write :
          SchedulerEvent.alarmWrite? state (.resume index readings) =
            task.alarmWrite? := by
        change (state.tasks[index]?).bind _ = _
        rw [found]
        rfl
      cases isWrite : task.alarmWrite? with
      | none =>
          exact .keeps nofun (write.trans isWrite)
            (sameAlarm_resumeTask resumed isWrite)
      | some pair =>
          cases task with
          | writeAlarm existing wakeAt =>
              cases isWrite
              cases resumed
              refine .writes nofun write rfl rfl ?_
              unfold writesAlarmAt
              dsimp only [SchedulerState.withAlarm, SchedulerState.setTask]
              generalize Option.any _ existing = kept
              cases kept <;> rfl
          | _ => cases isWrite
  | resumeLoop readings =>
      change self.resumeLoop state = some segment at isSegment
      refine .keeps nofun rfl ?_
      unfold CfpSchedulerDO.resumeLoop at isSegment
      dsimp only at isSegment
      split at isSegment <;> cases isSegment <;> exact ⟨rfl, rfl⟩
  | settle index outcome =>
      unfold CfpSchedulerDO.segment at isSegment
      dsimp only at isSegment
      split at isSegment <;> cases isSegment
      exact .keeps nofun rfl ⟨rfl, rfl⟩
  | evict =>
      cases isSegment
      exact .evicts rfl rfl
  | _ =>
      cases isSegment
      exact .keeps nofun rfl ⟨rfl, rfl⟩

/-! ## Every run -/

/--
A pending retry that is taken care of: by the stored alarm, by its own
`onScheduleRetry`, or by an `alarm` that will store the next one.
-/
def SchedulerState.LooksAfterRetry
    (state : SchedulerState)
    (wakeAt : Int) : Prop :=
  state.AlarmCovers wakeAt ∨
    wakeAt ∈ state.scheduling ∨
      state.delivering.isSome

/-- Every pending retry is taken care of. -/
def SchedulerState.RetriesKept (state : SchedulerState) : Prop :=
  ∀ wakeAt ∈ state.retryWakes, state.LooksAfterRetry wakeAt

/-- The end of a step changes no task. -/
theorem SchedulerState.RetriesKept.congr
    {state next : SchedulerState}
    (tasks : next.tasks = state.tasks)
    (same : SameAlarm state next)
    (kept : state.RetriesKept) :
    next.RetriesKept := by
  intro wakeAt pending
  unfold SchedulerState.LooksAfterRetry SchedulerState.AlarmCovers
    SchedulerState.scheduling
  rw [tasks, same.1, same.2]
  refine kept wakeAt ?_
  unfold SchedulerState.retryWakes at pending ⊢
  rwa [tasks] at pending

/-- A step's own part keeps every pending retry. -/
theorem retriesKept_segment
    {self : CfpSchedulerDO}
    {state : SchedulerState}
    {event : SchedulerEvent}
    {segment : Segment}
    (isSegment : self.segment state event = some segment)
    (decides :
      ∀ write ∈ event.alarmWrite? state,
        state.DecidesRight write.1 write.2)
    (kept : state.RetriesKept) :
    segment.state.RetriesKept := by
  have moves := CfpSchedulerDO.moves isSegment
  intro wakeAt pending
  -- a retry is new, and then its alarm is being scheduled, or it is an old one
  obtain ⟨job, isTimer⟩ := SchedulerState.mem_retryWakes.mp pending
  rcases moves.retryWakes isTimer with wasPending | isNew
  case inr => exact .inr (.inl (SchedulerState.mem_scheduling.mpr isNew))
  have stays
      (loaded : event ≠ .evict)
      (scheduled : wakeAt ∈ state.scheduling) :
      wakeAt ∈ segment.state.scheduling ∨
        ∃ existing, event.alarmWrite? state = some (existing, wakeAt) := by
    obtain ⟨existing, inProgress⟩ :=
      SchedulerState.mem_scheduling.mp scheduled
    rcases moves.scheduling loaded inProgress with still | goesOn
    · exact .inl (SchedulerState.mem_scheduling.mpr ⟨existing, still⟩)
    · exact .inr ⟨existing, goesOn⟩
  cases CfpSchedulerDO.alarmMoves isSegment with
  | keeps loaded none same =>
      rcases kept wakeAt wasPending with covered | scheduled | running
      · refine .inl ?_
        unfold SchedulerState.AlarmCovers
        rw [same.1]
        exact covered
      · rcases stays loaded scheduled with still | ⟨existing, goesOn⟩
        · exact .inr (.inl still)
        · rw [none] at goesOn
          cases goesOn
      · exact .inr (.inr (by rw [same.2]; exact running))
  | @writes _ existing written loaded isWrite _ delivering alarm =>
      have right := decides _ isWrite
      rcases kept wakeAt wasPending with covered | scheduled | running
      · refine .inl ?_
        unfold SchedulerState.AlarmCovers
        rw [alarm]
        split
        next writes =>
          exact ⟨written, rfl, right.1 writes wakeAt wasPending covered⟩
        next => exact covered
      · rcases stays loaded scheduled with still | ⟨other, goesOn⟩
        · exact .inr (.inl still)
        · -- the call that goes on is this retry's own
          rw [isWrite] at goesOn
          cases goesOn
          unfold SchedulerState.LooksAfterRetry SchedulerState.AlarmCovers
          rw [alarm, delivering]
          split
          next => exact .inl ⟨wakeAt, rfl, le_rfl⟩
          next leaves =>
            have leaves := Bool.eq_false_of_not_eq_true leaves
            exact (right.2 leaves wasPending).imp_right .inr
      · exact .inr (.inr (by rw [delivering]; exact running))
  | delivers _ running => exact .inr (.inr running)
  | evicts none _ =>
      rw [none] at isTimer
      cases isTimer

/-- Every step that meets the condition keeps every pending retry. -/
theorem retriesKept_step
    {self : CfpSchedulerDO}
    {state next : SchedulerState}
    {event : SchedulerEvent}
    (condition : RetryAlarmKept self state event)
    (stepped : self.step state event = some next)
    (kept : state.RetriesKept) :
    next.RetriesKept := by
  obtain ⟨segment, isSegment, rfl⟩ := Option.map_eq_some_iff.mp stepped
  have before := retriesKept_segment isSegment condition.decides kept
  have tasks := (segment.finishes self event.loopReadings).tasks
  have ends := condition.ends segment isSegment
  unfold Segment.EndsBeforeRetries at ends
  unfold Segment.finish at tasks ⊢
  split at tasks
  next => exact before
  next =>
    exact SchedulerState.RetriesKept.congr tasks (sameAlarm_kick ..) before
  next now entry =>
    intro wakeAt pending
    unfold SchedulerState.retryWakes at pending
    rw [tasks] at pending
    rw [entry] at ends
    rcases ends now rfl wakeAt pending with scheduled | late | ⟨busy, late⟩
    · refine .inr (.inl ?_)
      unfold SchedulerState.scheduling
      rw [tasks]
      exact scheduled
    · refine .inl ⟨_, rfl, ?_⟩
      split
      · simp only [IDLE_ALARM_MS, ALARM_SWEEP_MS] at late ⊢
        omega
      · exact late
    · refine .inl ⟨_, rfl, ?_⟩
      rw [if_pos (of_decide_eq_true busy)]
      exact late

/--
In every run in which each `#scheduleAlarmAt` decides by an alarm that is still
right when it writes, and each `alarm` ends before the pending retries are due,
the stored alarm covers every pending retry whenever none of them is in
progress.
-/
theorem scheduler_retriesCovered
    {self : CfpSchedulerDO}
    {events : List SchedulerEvent}
    {final : SchedulerState}
    (run : GuardedRun self.step (RetryAlarmKept self) {} events final) :
    final.RetriesCovered := by
  have kept : final.RetriesKept :=
    run.invariant retriesKept_step fun _ pending => by cases pending
  intro noneScheduling noAlarm wakeAt pending
  rcases kept wakeAt pending with covered | scheduled | running
  · exact covered
  · rw [noneScheduling] at scheduled
    cases scheduled
  · rw [noAlarm] at running
    cases running

/-- A job fails with a delay of a minute; its alarm is stored and covers it. -/
theorem scheduler_retriesCovered_flakyFails :
    ∃ final,
      GuardedRun (CfpSchedulerDO.step .plain) (RetryAlarmKept .plain) {}
          (slowStarts ++ flakyFails) final ∧
        final.retryWakes = [60020] ∧
          final.scheduling = [] ∧
            final.RetriesCovered := by
  have executed :
      ((slowStarts ++ flakyFails).foldlM
          (fun state event =>
            if RetryAlarmKept .plain state event then
              CfpSchedulerDO.step .plain state event
            else
              none) {}).any
        fun final =>
          final.retryWakes = [60020] && final.scheduling = [] := by
    decide +kernel
  obtain ⟨final, isFinal, waits⟩ := (Option.any_eq_true _ _).mp executed
  simp only [Bool.and_eq_true, decide_eq_true_eq] at waits
  have run := GuardedRun.of_checked isFinal
  exact ⟨final, run, waits.1, waits.2, scheduler_retriesCovered run⟩

/--
Two jobs fail at time twenty, one with a delay of 200 milliseconds and one of a
minute.  Both calls of `#scheduleAlarmAt` find no alarm, and the second one
writes last.
-/
def readsBeforeWrites : List SchedulerEvent :=
  slowStarts ++
    [ .enqueue .flaky, .resume 2 (.at 10), .resume 2 (.at 10),
      .resume 2 (.at 10), .resumeLoop { check := 10, claim := 10 },
      .settle 1 (.error (.error "Error" "not yet" none none)),
      .settle 3 (.error (.error "Error" "not yet" none none)),
      .resume 1 (.at 20), .resume 3 (.at 20),
      .resume 1 (.at 20), .resume 3 (.at 20),
      .resume 4 (.at 20), .resume 6 (.at 20) ]

/--
With a limit of one, a job waits until 1020, and `alarm` runs at 215 while
another one is being executed.
-/
def alarmWritesLater : List SchedulerEvent :=
  .configure { inFlightLimit := some 1 } :: slowStarts ++
    [ .settle 1 (.error (.error "Error" "not yet" none none)),
      .resume 1 (.at 15), .resume 1 (.at 15), .resume 1 (.at 15),
      .resume 2 (.at 15),
      .enqueue
        { SchedulerEnqueueRequest.flaky with
          retry := { max := 3, backoff := .constant, baseMs := 1000 } },
      .resume 4 (.at 16), .resume 4 (.at 16),
      .resume 4 (.at 16), .resumeLoop { check := 16, claim := 16 },
      .settle 5 (.error (.error "Error" "not yet" none none)),
      .resume 5 (.at 20), .resume 5 (.at 20), .resume 5 (.at 20),
      .resume 6 (.at 20),
      .resume 3 (.at 215), .resumeLoop { check := 215, claim := 215 },
      .deliverAlarm 215, .resume 9 (.at 215), .resume 9 (.at 215),
      .resume 9 (.at 215) ]

/--
In the first run a retry is due at 220, in the second one at 1020; the alarm is
stored for 60020 and for 5215.
-/
theorem scheduler_postpones_alarm :
    (∃ final,
      Run (CfpSchedulerDO.step .plain) {} readsBeforeWrites final ∧
        220 ∈ final.retryWakes ∧
          final.alarm = some 60020 ∧
            ¬ final.RetriesCovered) ∧
      ∃ final,
        Run (CfpSchedulerDO.step .plain) {} alarmWritesLater final ∧
          1020 ∈ final.retryWakes ∧
            final.alarm = some 5215 ∧
              ¬ final.RetriesCovered := by
  have postponed
      {events : List SchedulerEvent}
      {due stored : Int}
      (late : due < stored)
      (executed :
        (events.foldlM (CfpSchedulerDO.step .plain) {}).any
          (fun final =>
            (due ∈ final.retryWakes && final.alarm = some stored) &&
              (final.scheduling = [] && final.delivering = none)) = true) :
      ∃ final,
        Run (CfpSchedulerDO.step .plain) {} events final ∧
          due ∈ final.retryWakes ∧
            final.alarm = some stored ∧
              ¬ final.RetriesCovered := by
    obtain ⟨final, isFinal, holds⟩ := (Option.any_eq_true _ _).mp executed
    simp only [Bool.and_eq_true, decide_eq_true_eq] at holds
    obtain ⟨⟨pending, isStored⟩, noneScheduling, noAlarm⟩ := holds
    refine ⟨final, .of_foldlM isFinal, pending, isStored, fun covered => ?_⟩
    obtain ⟨time, isTime, inTime⟩ := covered noneScheduling noAlarm due pending
    rw [isStored] at isTime
    cases isTime
    omega
  constructor
  · exact postponed (by decide) (by decide +kernel)
  · exact postponed (by decide) (by decide +kernel)

end CloudflareParallel
