import CloudflareParallel.DispatcherTurns
import CloudflareParallel.SchedulerObject
import CloudflareParallel.Library.LabelledRuns

namespace CloudflareParallel

open KeyedTables LabelledRuns

/-!
# Fair queueing

A step of the scheduler object takes the turns of its own part and those of the
kick of the dispatch loop, in this order.  So whatever holds of every list of
turns holds, at any moment inside a step too, of every dispatcher that a run
reaches.
-/

/-- The turns of a task's own part. -/
def SchedulerTask.turns
    (state : SchedulerState)
    (now : Int) : SchedulerTask → List DispatcherTurn
  | .rebuild queued _ => queued.map .enters
  | .enqueueStored job => [.enters job]
  | .cancelDone jobId true => [.drops jobId]
  | .cancelTenant tenantId _ [] _ => [.clears tenantId]
  | .alarmReclaimed _ reclaimed => if 0 < reclaimed then [.empties] else []
  | .alarmSwept _ =>
      if state.dispatcher.config.inFlightLimit ≤
          state.dispatcher.totalReady + state.dispatcher.runningCount then
        []
      else
        [.empties]
  | .requeueing job =>
      if retryDelayMs job ≤ 0 then [.enters (retryJob job)] else []
  | .finishing job => [.settles job.id]
  | .retryTimer job wakeAt => if wakeAt ≤ now then [.enters job] else []
  | _ => []

/-- The turns of `#ensureInit`. -/
def SchedulerState.ensureInitTurns
    (state : SchedulerState) : List DispatcherTurn :=
  if state.initialized then [] else [.empties]

/-- The turns of a step before the dispatch loop is kicked. -/
def SchedulerState.segmentTurns
    (state : SchedulerState) : SchedulerEvent → List DispatcherTurn
  | .enqueue _ => state.ensureInitTurns
  | .deliverAlarm _ => state.ensureInitTurns
  | .configure c => [.configures (state.configure c).dispatcher.config]
  | .resume index readings =>
      (state.tasks[index]?.map (·.turns state readings.now)).getD []
  | .resumeLoop _ =>
      match state.dispatcher.loop with
      | .claimed (some target) =>
          [.starts { id := target.id, tenantId := target.tenantId },
            .suspends .idle]
      | _ => [.suspends .idle]
  | _ => []

/-- The segment kicks a loop that is idle and has a slot to fill. -/
def Segment.fillsSlot (segment : Segment) : Bool :=
  match segment.entry, segment.state.dispatcher.loop with
  | .stay, _ => false
  | _, .idle => segment.state.dispatcher.hasSlot
  | _, _ => false

/-- The turns of the kick: a pick, and where the loop is suspended then. -/
def Segment.loopTurns
    (self : CfpSchedulerDO)
    (readings : LoopReadings)
    (segment : Segment) : List DispatcherTurn :=
  if segment.fillsSlot then
    [.picks, .suspends (segment.finish self readings).dispatcher.loop]
  else
    []

/-- The turns of a step. -/
def CfpSchedulerDO.stepTurns
    (self : CfpSchedulerDO)
    (state : SchedulerState)
    (event : SchedulerEvent) : List DispatcherTurn :=
  state.segmentTurns event ++
    ((self.segment state event).map
      (·.loopTurns self event.loopReadings)).getD []

/-- The turns of the dispatcher that the object has; an eviction loses it. -/
def CfpSchedulerDO.recordTurns
    (self : CfpSchedulerDO)
    (state : SchedulerState) :
    SchedulerEvent → List DispatcherTurn → List DispatcherTurn
  | .evict, _ => []
  | event, turns => turns ++ self.stepTurns state event

theorem SchedulerState.dispatcher_startEnqueue
    (state : SchedulerState)
    (index : Nat)
    (readings : Readings)
    (req : SchedulerEnqueueRequest) :
    (state.startEnqueue index readings req).dispatcher = state.dispatcher := by
  unfold startEnqueue
  dsimp only
  split
  · rfl
  · split
    · rfl
    · split <;> rfl

theorem CfpSchedulerDO.dispatcher_storeOutcome
    (self : CfpSchedulerDO)
    (state : SchedulerState)
    (index : Nat)
    (readings : Readings)
    (job : PersistedJob)
    (outcome : Except Thrown JsValue) :
    (self.storeOutcome state index readings job outcome).dispatcher =
      state.dispatcher := by
  cases outcome with
  | ok value =>
      unfold storeOutcome
      dsimp only
      split <;> rfl
  | error rawErr =>
      unfold storeOutcome
      dsimp only
      split <;> rfl

/-- The turns of a task are what it does to the dispatcher. -/
theorem CfpSchedulerDO.dispatcher_resumeTask
    {self : CfpSchedulerDO}
    {state : SchedulerState}
    {index : Nat}
    {readings : Readings}
    {task : SchedulerTask}
    {segment : Segment}
    (resumed : self.resumeTask state index readings task = some segment) :
    segment.state.dispatcher =
      state.dispatcher.turns (task.turns state readings.now) := by
  cases task with
  | rebuild queued caller =>
      cases resumed
      exact (state.dispatcher.turns_enters queued).symm
  | rebuilt caller =>
      cases resumed
      cases caller with
      | enqueue req => exact state.dispatcher_startEnqueue index readings req
      | alarmStart => rfl
      | alarmSweep now => rfl
      | alarmKick now => rfl
  | cancelDone jobId ok =>
      cases resumed
      cases ok <;> rfl
  | cancelTenant tenantId reason active count =>
      cases active <;> cases resumed <;> rfl
  | alarmReclaimed now reclaimed =>
      unfold resumeTask at resumed
      dsimp only at resumed
      split at resumed
      next some =>
        cases resumed
        rw [SchedulerTask.turns, if_pos some]
        rfl
      next none =>
        cases resumed
        rw [SchedulerTask.turns, if_neg none]
        rfl
  | alarmSwept now =>
      cases resumed
      unfold SchedulerState.backstop SchedulerTask.turns
      split <;> rfl
  | settled job outcome =>
      cases resumed
      exact self.dispatcher_storeOutcome state index readings job outcome
  | requeueing job =>
      cases resumed
      unfold SchedulerState.scheduleRetry SchedulerTask.turns
      dsimp only
      split <;> rfl
  | retryTimer job wakeAt =>
      unfold resumeTask at resumed
      dsimp only at resumed
      split at resumed
      next due =>
        cases resumed
        rw [SchedulerTask.turns, if_pos due]
        rfl
      next =>
        cases resumed
  | enqueueStored job =>
      cases resumed
      rfl
  | enqueueReturn id =>
      cases resumed
      rfl
  | writeAlarm existing wakeAt =>
      cases resumed
      rfl
  | running job call =>
      cases resumed
  | finishing job =>
      cases resumed
      rfl
  | finished =>
      cases resumed

theorem SchedulerState.dispatcher_ensureInit
    (state : SchedulerState)
    (caller : RebuildCaller) :
    (state.ensureInit caller).1.dispatcher =
      state.dispatcher.turns state.ensureInitTurns := by
  unfold ensureInit ensureInitTurns
  split <;> rfl

/-- The turns of a step's own part are what it does to the dispatcher. -/
theorem CfpSchedulerDO.dispatcher_segment
    {self : CfpSchedulerDO}
    {state : SchedulerState}
    {event : SchedulerEvent}
    {segment : Segment}
    (isSegment : self.segment state event = some segment)
    (staysLoaded : event ≠ .evict) :
    segment.state.dispatcher =
      state.dispatcher.turns (state.segmentTurns event) := by
  cases event with
  | enqueue req =>
      cases isSegment
      exact state.dispatcher_ensureInit _
  | deliverAlarm now =>
      simp only [CfpSchedulerDO.segment] at isSegment
      split at isSegment
      next time stored idle =>
        split at isSegment
        · cases isSegment
          exact (state.withAlarm none (some time)).dispatcher_ensureInit _
        · cases isSegment
      next =>
        cases isSegment
  | configure c =>
      cases isSegment
      obtain ⟨config, configured⟩ := dispatcher_configure state c
      change
        (state.configure c).dispatcher =
          { state.dispatcher with
            config := (state.configure c).dispatcher.config }
      rw [configured]
  | resume index readings =>
      obtain ⟨task, found, resumed⟩ := Option.bind_eq_some_iff.mp isSegment
      rw [dispatcher_resumeTask resumed, SchedulerState.segmentTurns, found]
      rfl
  | resumeLoop readings =>
      change self.resumeLoop state = some segment at isSegment
      unfold resumeLoop at isSegment
      unfold SchedulerState.segmentTurns
      dsimp only at isSegment
      split at isSegment <;> cases isSegment <;> rename_i loop <;>
        rw [loop] <;> rfl
  | settle index outcome =>
      simp only [CfpSchedulerDO.segment] at isSegment
      split at isSegment
      next =>
        cases isSegment
        rfl
      next =>
        cases isSegment
  | evict => exact absurd rfl staysLoaded
  | cancel jobId reason now =>
      cases isSegment
      rfl
  | cancelByTenant tenantId reason =>
      cases isSegment
      rfl
  | status jobId =>
      cases isSegment
      rfl
  | result jobId now =>
      cases isSegment
      rfl

/-- The dispatch loop picks, and is suspended somewhere. -/
theorem CfpSchedulerDO.dispatcher_dispatchLoop
    {self : CfpSchedulerDO}
    {readings : LoopReadings}
    {state : SchedulerState}
    (slot : state.dispatcher.hasSlot) :
    (self.dispatchLoop readings state).dispatcher =
      state.dispatcher.turns
        [.picks,
          .suspends (self.dispatchLoop readings state).dispatcher.loop] := by
  unfold dispatchLoop
  rw [if_pos slot]
  change _ = ({ state.dispatcher.takeNextReady.2 with loop := _ } : Dispatcher)
  split
  next dispatcher took =>
    rw [took]
    rfl
  next job dispatcher took =>
    rw [took]
    unfold dispatchJob
    split
    · rfl
    · split <;> rfl

/-- The turns of the kick are what it does to the dispatcher. -/
theorem Segment.dispatcher_finish
    (self : CfpSchedulerDO)
    (readings : LoopReadings)
    (segment : Segment) :
    (segment.finish self readings).dispatcher =
      segment.state.dispatcher.turns (segment.loopTurns self readings) := by
  have kicked (kicks : segment.entry ≠ .stay) :
      (self.kick readings segment.state).dispatcher =
        segment.state.dispatcher.turns
          (if segment.fillsSlot then
            [.picks,
              .suspends (self.kick readings segment.state).dispatcher.loop]
          else
            []) := by
    unfold CfpSchedulerDO.kick
    split
    next idle =>
      have fills : segment.fillsSlot = segment.state.dispatcher.hasSlot := by
        unfold fillsSlot
        rw [idle]
        cases entry : segment.entry with
        | stay => exact absurd entry kicks
        | kick => rfl
        | kickThenAlarm now => rfl
      rw [fills]
      split
      next slot =>
        exact self.dispatcher_dispatchLoop slot
      next noSlot =>
        unfold CfpSchedulerDO.dispatchLoop
        rw [if_neg noSlot, ← idle]
        rfl
    next busy =>
      have fills : segment.fillsSlot = false := by
        unfold fillsSlot
        split
        · rfl
        next idle _ => exact absurd idle busy
        · rfl
      rw [fills]
      rfl
  unfold loopTurns finish
  split
  next stays =>
    have fills : segment.fillsSlot = false := by
      unfold fillsSlot
      rw [stays]
    rw [fills]
    rfl
  next entry =>
    exact kicked (by simp [entry])
  next now entry =>
    exact kicked (by simp [entry])

/-- The turns of a step are what it does to the dispatcher. -/
theorem CfpSchedulerDO.dispatcher_step
    {self : CfpSchedulerDO}
    {state next : SchedulerState}
    {event : SchedulerEvent}
    (stepped : self.step state event = some next)
    (staysLoaded : event ≠ .evict) :
    next.dispatcher =
      state.dispatcher.turns (self.stepTurns state event) := by
  obtain ⟨segment, isSegment, rfl⟩ := Option.map_eq_some_iff.mp stepped
  rw [segment.dispatcher_finish, dispatcher_segment isSegment staysLoaded,
    stepTurns, isSegment, Dispatcher.turns_append]
  rfl

/-- The memory of the dispatcher is what its recorded turns have made of it. -/
theorem CfpSchedulerDO.dispatcher_eq_turns
    {self : CfpSchedulerDO}
    {events : List SchedulerEvent}
    {final : SchedulerState × List DispatcherTurn}
    (run :
      Run (recording self.step self.recordTurns) ({}, []) events final) :
    final.1.dispatcher = ({} : Dispatcher).turns final.2 := by
  refine @GuardedRun.invariant _ _ _ _
    (fun (current : SchedulerState × List DispatcherTurn) =>
      current.1.dispatcher = ({} : Dispatcher).turns current.2)
    ?_ _ _ _ run rfl
  intro current event next _ recorded holds
  obtain ⟨state, stepped, rfl⟩ := Option.map_eq_some_iff.mp recorded
  by_cases evicts : event = .evict
  · subst evicts
    cases stepped
    rfl
  · have taken :
        self.recordTurns current.1 event current.2 =
          current.2 ++ self.stepTurns current.1 event := by
      cases event with
      | evict => exact absurd rfl evicts
      | _ => rfl
    rw [dispatcher_step stepped evicts, taken, Dispatcher.turns_append,
      holds]

/-! ## Fairness -/

/-- What fair queueing promises of the turns a dispatcher has taken. -/
structure QueuesFairly (turns : List DispatcherTurn) : Prop where
  /-- At any moment the order lists the tenants that have ready jobs. -/
  orderIsExact :
    ∀ earlier later,
      turns = earlier ++ later →
        (({} : Dispatcher).turns earlier).OrderIsExact
  /-- While a tenant is servable, every pick takes a job. -/
  everyPickTakes :
    ∀ earlier waiting later tenantId,
      turns = earlier ++ waiting ++ later →
        Dispatcher.StaysServable tenantId
            (({} : Dispatcher).turns earlier) waiting →
          (({} : Dispatcher).turns earlier).EveryPickTakes waiting
  /-- And no more jobs of others are picked than tenants stand before it. -/
  boundedBypass :
    ∀ earlier waiting later tenantId,
      turns = earlier ++ waiting ++ later →
        Dispatcher.StaysServable tenantId
            (({} : Dispatcher).turns earlier) waiting →
          (∀ job ∈ (({} : Dispatcher).turns earlier).pickedJobs waiting,
            job.tenantId ≠ tenantId) →
            ((({} : Dispatcher).turns earlier).pickedJobs waiting).length ≤
              (({} : Dispatcher).turns earlier).position tenantId
  /-- A tenant's jobs are picked, and wait, in the order they came. -/
  firstInFirstOut :
    ∀ earlier later,
      turns = earlier ++ later →
        (({} : Dispatcher).turns earlier).KeepsOrder
          (({} : Dispatcher).pickedJobs earlier) (enteredJobs earlier)

/-- A dispatcher with an empty memory queues fairly from then on. -/
theorem queuesFairly (turns : List DispatcherTurn) : QueuesFairly turns := by
  have empty : ({} : Dispatcher).WellFormed := .clearReady {}
  have wellFormed (earlier : List DispatcherTurn) :
      (({} : Dispatcher).turns earlier).WellFormed :=
    empty.turns earlier
  have keeps (earlier : List DispatcherTurn) :
      (({} : Dispatcher).turns earlier).KeepsOrder
        (({} : Dispatcher).pickedJobs earlier) (enteredJobs earlier) :=
    @Dispatcher.KeepsOrder.turns {} [] [] (fun _ => .refl _) earlier
  refine {
    orderIsExact := ?_
    everyPickTakes := ?_
    boundedBypass := ?_
    firstInFirstOut := ?_
  }
  · intro earlier _ _
    exact (wellFormed earlier).orderIsExact
  · intro earlier waiting _ tenantId _ stays
    exact stays.everyPickTakes (wellFormed earlier) (keeps earlier)
  · intro earlier waiting _ tenantId _ stays passedOver
    exact stays.length_pickedJobs_le (wellFormed earlier) (keeps earlier)
      passedOver
  · intro earlier _ _
    exact keeps earlier

/--
In every run, the dispatcher's memory is what its turns made of it, and these
were fair: the order listed the tenants with ready jobs, a servable tenant was
passed over at most as often as tenants stood before it, and the jobs of a
tenant were picked in the order they came.
-/
theorem scheduler_queuesFairly
    {self : CfpSchedulerDO}
    {events : List SchedulerEvent}
    {final : SchedulerState × List DispatcherTurn}
    (run :
      Run (recording self.step self.recordTurns) ({}, []) events final) :
    final.1.dispatcher = ({} : Dispatcher).turns final.2 ∧
      QueuesFairly final.2 :=
  ⟨CfpSchedulerDO.dispatcher_eq_turns run, queuesFairly final.2⟩

/--
One job at a time is run.  While the first runs, a second job of its tenant and
then one of another tenant are enqueued; the first settles, and then the second.
-/
def otherIsBypassed : List SchedulerEvent :=
  .configure { inFlightLimit := some 1 } :: slowStarts ++
    [ .enqueue { SchedulerEnqueueRequest.slow with id := "second" },
      .resume 2 (.at 20), .resume 2 (.at 20), .resume 2 (.at 20),
      .enqueue
        { SchedulerEnqueueRequest.slow with id := "other", tenantId := "b" },
      .resume 3 (.at 20), .resume 3 (.at 20), .resume 3 (.at 20),
      .settle 1 (.ok (.bool true)), .resume 1 (.at 30), .resume 1 (.at 30),
      .resumeLoop { check := 30, claim := 30 },
      .settle 4 (.ok (.bool true)), .resume 4 (.at 40), .resume 4 (.at 40) ]

/-- The other tenant is passed over once, and then its job is picked. -/
theorem scheduler_queuesFairly_otherIsBypassed :
    ∃ final : SchedulerState × List DispatcherTurn,
      Run
          (recording (CfpSchedulerDO.step .plain)
            (CfpSchedulerDO.recordTurns .plain))
          ({}, []) otherIsBypassed final ∧
        (({} : Dispatcher).pickedJobs final.2).map (·.id) =
            ["slow", "second", "other"] ∧
          final.1.dispatcher = ({} : Dispatcher).turns final.2 ∧
            QueuesFairly final.2 := by
  have executed :
      (otherIsBypassed.foldlM
          (recording (CfpSchedulerDO.step .plain)
            (CfpSchedulerDO.recordTurns .plain)) ({}, [])).any
        fun final =>
          (({} : Dispatcher).pickedJobs final.2).map (·.id) =
            ["slow", "second", "other"] := by
    decide +kernel
  obtain ⟨final, isFinal, picked⟩ := (Option.any_eq_true _ _).mp executed
  have run := GuardedRun.of_foldlM isFinal
  exact ⟨final, run, of_decide_eq_true picked, scheduler_queuesFairly run⟩

end CloudflareParallel
