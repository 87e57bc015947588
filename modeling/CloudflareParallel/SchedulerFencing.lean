import CloudflareParallel.SchedulerMoves
import CloudflareParallel.SchedulerSingleExecution

namespace CloudflareParallel

open KeyedTables LabelledRuns

/-!
# Lease fencing

Every claim of the object has the same lease owner, so the store cannot tell an
execution whose lease has run out from the one that holds the job's current
lease.  A history records which execution that is.  As long as no job is
claimed while an earlier execution of it is open, every other execution's `ack`
or `fail` is refused.
-/

/-- The execution that holds the current lease of a job, by its task. -/
abbrev LeaseHolders : Type :=
  String → Option Nat

/-- The job whose outcome a call stores, and the answer to a lost lease. -/
def JobStoreCall.refusal? : JobStoreCall → Option (String × JobStoreAnswer)
  | .ack _ jobId _ _ _ => some (jobId, .changed false)
  | .fail _ jobId _ _ => some (jobId, .next .leased)
  | _ => none

/-- The job that the loop has claimed and that a step starts to run. -/
def SchedulerState.started?
    (state : SchedulerState) : SchedulerEvent → Option String
  | .resumeLoop _ =>
      match state.dispatcher.loop with
      | .claimed target => target.map PersistedJob.id
      | _ => none
  | _ => none

/-- A loop that goes on without a claimed job starts nothing. -/
theorem SchedulerState.started?_eq_none
    {state : SchedulerState}
    (noTarget :
      ∀ target, state.dispatcher.loop ≠ .claimed (some target))
    (readings : LoopReadings) :
    state.started? (.resumeLoop readings) = none := by
  unfold started?
  dsimp only
  split
  next target claimed =>
    cases target with
    | none => rfl
    | some target => exact absurd claimed (noTarget target)
  next =>
    rfl

/-- The step takes a job's lease from the execution that has it, or loses it. -/
def CfpSchedulerDO.endsHold
    (self : CfpSchedulerDO)
    (state : SchedulerState)
    (event : SchedulerEvent)
    (jobId : String) : Bool :=
  match event with
  | .evict => true
  | _ =>
      (self.segment state event).any fun segment =>
        (segment.claimedRows self event.loopReadings).any (·.id = jobId)

/-- What a step does to the holders of the current leases. -/
def CfpSchedulerDO.recordHolders
    (self : CfpSchedulerDO)
    (state : SchedulerState)
    (event : SchedulerEvent)
    (holders : LeaseHolders) : LeaseHolders :=
  fun jobId =>
    if self.endsHold state event jobId then
      none
    else if state.started? event = some jobId then
      some state.tasks.length
    else
      holders jobId

/--
Every `ack` and `fail` that an execution can issue is refused and changes
nothing, unless the execution holds the current lease of the job.
-/
def LeasesFenced
    (scheduler : CfpSchedulerDO)
    (state : SchedulerState)
    (holders : LeaseHolders) : Prop :=
  ∀ index readings,
    ∀ call ∈ scheduler.segmentCalls state (.resume index readings),
      ∀ refusal ∈ call.refusal?,
        holders refusal.1 = some index ∨
          state.store.invoke call = (state.store, refusal.2)

/-- The condition on a step: it claims no job with an open execution. -/
def ClaimsClosed
    (scheduler : CfpSchedulerDO)
    (state : SchedulerState)
    (event : SchedulerEvent) : Prop :=
  ∀ segment ∈ scheduler.segment state event,
    ∀ row ∈ segment.claimedRows scheduler event.loopReadings,
      segment.state.openExecutions row.id = 0

instance
    (scheduler : CfpSchedulerDO)
    (state : SchedulerState)
    (event : SchedulerEvent) :
    Decidable (ClaimsClosed scheduler state event) :=
  inferInstanceAs (Decidable (∀ segment ∈ scheduler.segment state event, _))

/-! ## The invariant -/

/-- The open execution of a leased job holds the current lease. -/
structure FencedInvariant
    (state : SchedulerState)
    (holders : LeaseHolders) : Prop where
  atMostOne : ∀ jobId, state.openExecutions jobId ≤ 1
  holds :
    ∀ index task jobId row,
      state.tasks[index]? = some task →
      task.isOpen jobId →
      state.store.row? jobId = some row →
      row.status = .leased →
      holders jobId = some index

/-- Only a claim leases a row. -/
theorem JobsRow.Move.leased
    {call : JobStoreCall}
    {old : Option JobsRow}
    {row : JobsRow}
    (moved : JobsRow.Move call old (some row))
    (noClaim : ∀ now req, call ≠ .claim now req)
    (leased : row.status = .leased) :
    old = some row := by
  cases moved with
  | stay => rfl
  | insert => cases leased
  | lease => exact absurd rfl (noClaim _ _)
  | ack => cases leased
  | @fail now leaseOwner row error _ =>
      unfold JobsRow.failedOnce at leased
      split at leased <;> cases leased
  | failQueued => cases leased
  | cancel => cases leased
  | reclaim => cases leased

/-- What is leased after a step's own part was leased before. -/
theorem leased_of_segmentCalls
    {self : CfpSchedulerDO}
    {state : SchedulerState}
    {event : SchedulerEvent}
    {jobId : String}
    {row : JobsRow}
    (found :
      (state.store.after (self.segmentCalls state event)).row? jobId =
        some row)
    (leased : row.status = .leased) :
    state.store.row? jobId = some row := by
  rcases CfpSchedulerDO.row?_segmentCalls found with
    same | ⟨call, isCall, moved⟩
  · exact same
  · exact moved.leased (CfpSchedulerDO.segmentCalls_ne_claim isCall) leased

/-- The task at a position after some task has gone on. -/
theorem task_of_goesOn
    {tasks started : List SchedulerTask}
    {index position : Nat}
    {new task : SchedulerTask}
    (found : (tasks.set index new ++ started)[position]? = some task) :
    (position = index ∧ task = new) ∨
      tasks[position]? = some task ∨ task ∈ started := by
  rw [List.getElem?_append] at found
  split at found
  · rw [List.getElem?_set] at found
    split at found
    next same =>
      split at found
      · cases found
        exact .inl ⟨same.symm, rfl⟩
      · cases found
    next =>
      exact .inr (.inl found)
  · exact .inr (.inr (List.mem_of_getElem? found))

namespace FencedInvariant

variable {state : SchedulerState} {holders : LeaseHolders}

/-- A task goes on; an open execution stays one of the same job. -/
theorem goOn
    (invariant : FencedInvariant state holders)
    {next : SchedulerState}
    {index : Nat}
    {old new : SchedulerTask}
    {started : List SchedulerTask}
    (found : state.tasks[index]? = some old)
    (opens : ∀ jobId, new.isOpen jobId → old.isOpen jobId)
    (startedClosed : ∀ task ∈ started, ∀ jobId, task.isOpen jobId = false)
    (tasks : next.tasks = state.tasks.set index new ++ started)
    (sameLoop : next.dispatcher.loop = state.dispatcher.loop)
    (leased :
      ∀ jobId row,
        next.store.row? jobId = some row →
        row.status = .leased →
        state.store.row? jobId = some row) :
    FencedInvariant next holders := by
  refine ⟨fun jobId => ?_, ?_⟩
  · have fewer := SchedulerState.openExecutions_setTask_le found opens jobId
    have noneStarted : started.countP (·.isOpen jobId) = 0 := by
      rw [List.countP_eq_zero]
      intro task member isOpen
      rw [startedClosed task member jobId] at isOpen
      cases isOpen
    have same :
        next.openExecutions jobId =
          (state.setTask index new).openExecutions jobId := by
      simp [SchedulerState.openExecutions, tasks, sameLoop, noneStarted]
    rw [same]
    exact fewer.trans (invariant.atMostOne jobId)
  · intro position task jobId row isTask isOpen isRow isLeased
    have wasRow := leased jobId row isRow isLeased
    rw [tasks] at isTask
    rcases task_of_goesOn isTask with ⟨rfl, rfl⟩ | before | new
    · exact invariant.holds position old jobId row found (opens jobId isOpen)
        wasRow isLeased
    · exact invariant.holds position task jobId row before isOpen wasRow
        isLeased
    · rw [startedClosed task new jobId] at isOpen
      cases isOpen

/-- A task is added that is not open. -/
theorem start
    (invariant : FencedInvariant state holders)
    {next : SchedulerState}
    {started : List SchedulerTask}
    (startedClosed : ∀ task ∈ started, ∀ jobId, task.isOpen jobId = false)
    (tasks : next.tasks = state.tasks ++ started)
    (fewer :
      ∀ jobId,
        next.dispatcher.loop.holds jobId →
        state.dispatcher.loop.holds jobId)
    (leased :
      ∀ jobId row,
        next.store.row? jobId = some row →
        row.status = .leased →
        state.store.row? jobId = some row) :
    FencedInvariant next holders := by
  refine ⟨fun jobId => ?_, ?_⟩
  · have noneStarted : started.countP (·.isOpen jobId) = 0 := by
      rw [List.countP_eq_zero]
      intro task member isOpen
      rw [startedClosed task member jobId] at isOpen
      cases isOpen
    refine Nat.le_trans ?_ (invariant.atMostOne jobId)
    rw [SchedulerState.openExecutions, SchedulerState.openExecutions, tasks,
      List.countP_append, noneStarted, Nat.add_zero]
    exact Nat.add_le_add_left (Bool.toNat_le_toNat (fewer jobId)) _
  · intro position task jobId row isTask isOpen isRow isLeased
    have wasRow := leased jobId row isRow isLeased
    rw [tasks, List.getElem?_append] at isTask
    split at isTask
    · exact invariant.holds position task jobId row isTask isOpen wasRow
        isLeased
    · rw [startedClosed task (List.mem_of_getElem? isTask) jobId] at isOpen
      cases isOpen

/-- The loop starts a run, which holds the current lease. -/
theorem run
    (invariant : FencedInvariant state holders)
    {next : SchedulerState}
    {target : PersistedJob}
    {call : RunnerCall}
    {held : LeaseHolders}
    (claimed : state.dispatcher.loop = .claimed (some target))
    (tasks : next.tasks = state.tasks ++ [.running target call])
    (idle : next.dispatcher.loop = .idle)
    (sameStore : next.store = state.store)
    (holds :
      ∀ jobId,
        held jobId =
          if target.id = jobId then
            some state.tasks.length
          else
            holders jobId) :
    FencedInvariant next held := by
  have counted (jobId : String) :
      next.openExecutions jobId = state.openExecutions jobId := by
    rw [SchedulerState.openExecutions, SchedulerState.openExecutions, tasks,
      idle, claimed, List.countP_append, List.countP_singleton]
    simp only [SchedulerTask.isOpen, LoopState.holds]
    by_cases isTarget : target.id = jobId <;> simp [isTarget]
  refine ⟨fun jobId => counted jobId ▸ invariant.atMostOne jobId, ?_⟩
  intro position task jobId row isTask isOpen isRow isLeased
  rw [sameStore] at isRow
  rw [holds]
  rw [tasks, List.getElem?_append] at isTask
  split at isTask
  next inside =>
    -- another open execution of the job would be its second
    have otherJob : target.id ≠ jobId := by
      rintro rfl
      have atMostOne := invariant.atMostOne target.id
      have positive : 0 < state.tasks.countP (·.isOpen target.id) :=
        List.countP_pos_iff.mpr
          ⟨task, List.mem_of_getElem? isTask, isOpen⟩
      have loopHolds :
          (LoopState.claimed (some target)).holds target.id = true :=
        decide_eq_true rfl
      rw [SchedulerState.openExecutions, claimed, loopHolds,
        Bool.toNat_true] at atMostOne
      omega
    rw [if_neg otherJob]
    exact invariant.holds position task jobId row isTask isOpen isRow isLeased
  next outside =>
    obtain ⟨inside, isNew⟩ := List.getElem?_eq_some_iff.mp isTask
    have isLast : position = state.tasks.length := by
      simp only [List.length_singleton] at inside
      omega
    subst isLast
    simp only [Nat.sub_self, List.getElem_cons_zero] at isNew
    subst isNew
    rw [if_pos (of_decide_eq_true isOpen)]

end FencedInvariant

/-- An open execution goes on from one of the same job. -/
theorem SchedulerTask.GoesOn.opens
    {self : CfpSchedulerDO}
    {state : SchedulerState}
    {readings : Readings}
    {old new : SchedulerTask}
    {started : List SchedulerTask}
    {dispatcher : Dispatcher}
    (goes : old.GoesOn self state readings new started dispatcher)
    {jobId : String}
    (isOpen : new.isOpen jobId) :
    old.isOpen jobId := by
  cases goes with
  | ackRejected => exact isOpen
  | _ => cases isOpen

/-- The tasks that are started are not open. -/
theorem SchedulerTask.GoesOn.started_closed
    {self : CfpSchedulerDO}
    {state : SchedulerState}
    {readings : Readings}
    {old new task : SchedulerTask}
    {started : List SchedulerTask}
    {dispatcher : Dispatcher}
    (goes : old.GoesOn self state readings new started dispatcher)
    (member : task ∈ started)
    (jobId : String) :
    task.isOpen jobId = false := by
  rcases goes.started member with ⟨_, _, rfl⟩ | ⟨_, _, _, rfl⟩ <;> rfl

/-- What happens before the loop is kicked, unless the object is evicted. -/
theorem fenced_segment
    {self : CfpSchedulerDO}
    {state : SchedulerState}
    {event : SchedulerEvent}
    {segment : Segment}
    {holders held : LeaseHolders}
    (isSegment : self.segment state event = some segment)
    (holds :
      ∀ jobId,
        held jobId =
          if state.started? event = some jobId then
            some state.tasks.length
          else
            holders jobId)
    (invariant : FencedInvariant state holders) :
    FencedInvariant segment.state held := by
  have leased (jobId : String) (row : JobsRow) :
      segment.state.store.row? jobId = some row →
      row.status = .leased →
      state.store.row? jobId = some row := by
    rw [store_segment isSegment]
    exact leased_of_segmentCalls
  have moves := CfpSchedulerDO.moves isSegment
  have same (noStart : state.started? event = none) : held = holders := by
    funext jobId
    rw [holds, noStart, if_neg (by simp)]
  generalize tasksAre : segment.state.tasks = tasks at moves
  generalize dispatcherIs : segment.state.dispatcher = dispatcher at moves
  have adds
      {task : SchedulerTask}
      (closed : ∀ jobId, task.isOpen jobId = false)
      (noStart : state.started? event = none)
      (added : segment.state.tasks = state.tasks ++ [task])
      (sameLoop : dispatcher.loop = state.dispatcher.loop) :
      FencedInvariant segment.state held := by
    rw [same noStart]
    refine invariant.start (fun other member => ?_) added ?_ leased
    · cases List.mem_singleton.mp member
      exact closed
    · rw [dispatcherIs, sameLoop]
      exact fun _ => id
  have keeps
      (noStart : state.started? event = none)
      (sameTasks : segment.state.tasks = state.tasks)
      (releases :
        ∀ jobId,
          dispatcher.loop.holds jobId →
          state.dispatcher.loop.holds jobId) :
      FencedInvariant segment.state held := by
    rw [same noStart]
    have tasks : segment.state.tasks = state.tasks ++ [] := by
      rw [sameTasks, List.append_nil]
    refine invariant.start (fun _ member => by cases member) tasks ?_ leased
    rw [dispatcherIs]
    exact releases
  cases moves with
  | enqueue begins =>
      cases begins <;> exact adds (fun _ => rfl) rfl tasksAre rfl
  | cancel =>
      exact adds (fun _ => rfl) rfl tasksAre rfl
  | cancelByTenant =>
      exact adds (fun _ => rfl) rfl tasksAre rfl
  | @configure c =>
      obtain ⟨config, configured⟩ := dispatcher_configure state c
      refine keeps rfl tasksAre ?_
      rw [configured]
      exact fun _ => id
  | status =>
      exact keeps rfl tasksAre fun _ => id
  | result =>
      exact keeps rfl tasksAre fun _ => id
  | deliverAlarm begins =>
      cases begins <;> exact adds (fun _ => rfl) rfl tasksAre rfl
  | resume found goes =>
      rw [same rfl]
      exact invariant.goOn found (fun _ => goes.opens)
        (fun _ member => goes.started_closed member) tasksAre
        (dispatcherIs ▸ goes.loop) leased
  | loopGoesOn busy noTarget =>
      exact keeps (SchedulerState.started?_eq_none noTarget _) tasksAre
        fun _ wrong => by cases wrong
  | @runs readings target claimed =>
      have starts :
          state.started? (.resumeLoop readings) = some target.id := by
        simp [SchedulerState.started?, claimed]
      refine invariant.run claimed tasksAre (by rw [dispatcherIs])
        (store_segment isSegment) fun jobId => ?_
      rw [holds, starts]
      simp
  | @settle index job call outcome found =>
      rw [same rfl]
      have tasks :
          segment.state.tasks =
            state.tasks.set index (.settled job outcome) ++ [] := by
        rw [tasksAre, List.append_nil]
      have opens (jobId : String) :
          (SchedulerTask.settled job outcome).isOpen jobId →
          (SchedulerTask.running job call).isOpen jobId :=
        id
      refine invariant.goOn found opens ?_ tasks (by rw [dispatcherIs]) leased
      exact fun _ member => by cases member
  | evict noneReady _ noneRunning idle =>
      rw [same rfl]
      refine ⟨fun jobId => ?_, fun index task jobId row isTask => ?_⟩
      · rw [SchedulerState.openExecutions, tasksAre, dispatcherIs, idle]
        exact Nat.zero_le 1
      · rw [tasksAre] at isTask
        cases isTask

/-- The end of a step, whose claim takes no lease from an open execution. -/
theorem fenced_finish
    {self : CfpSchedulerDO}
    {readings : LoopReadings}
    {segment : Segment}
    {holders held : LeaseHolders}
    (closed :
      ∀ row ∈ segment.claimedRows self readings,
        segment.state.openExecutions row.id = 0)
    (holds :
      ∀ jobId,
        jobId ∉ (segment.claimedRows self readings).map JobsRow.id →
        held jobId = holders jobId)
    (invariant : FencedInvariant segment.state holders) :
    FencedInvariant (segment.finish self readings) held := by
  have finishes := segment.finishes self readings
  have loopEnd := segment.loopEnd self readings
  have unclaimed
      (noRow : segment.claimedRows self readings = [])
      (releases :
        ∀ jobId,
          (segment.finish self readings).dispatcher.loop.holds jobId →
          segment.state.dispatcher.loop.holds jobId)
      (leased :
        ∀ jobId row,
          (segment.finish self readings).store.row? jobId = some row →
          row.status = .leased →
          segment.state.store.row? jobId = some row) :
      FencedInvariant (segment.finish self readings) held := by
    have same : held = holders :=
      funext fun jobId => holds jobId (by rw [noRow]; exact List.not_mem_nil)
    have tasks :
        (segment.finish self readings).tasks = segment.state.tasks ++ [] := by
      rw [finishes.tasks, List.append_nil]
    rw [same]
    exact invariant.start (fun _ member => by cases member) tasks releases
      leased
  generalize loopIs : (segment.finish self readings).dispatcher.loop = loop
    at loopEnd unclaimed
  generalize storeIs : (segment.finish self readings).store = store
    at loopEnd unclaimed
  cases loopEnd with
  | stays unpicked =>
      exact unclaimed (by simp [Segment.claimedRows, unpicked])
        (fun _ => id) fun _ _ found _ => found
  | rejected picked rejects =>
      exact unclaimed (by simp [Segment.claimedRows, picked, rejects])
        (fun _ wrong => by cases wrong) fun _ _ found _ => found
  | @failedExpired job dispatcher picked rejects passed =>
      refine unclaimed (by simp [Segment.claimedRows, picked, passed])
        (fun _ wrong => by cases wrong) fun jobId row found leased => ?_
      have moved :=
        segment.state.store.row?_invoke
          (.failQueued readings.check job.id (deadlineError job)) jobId
      change JobsRow.Move _ _ (JobStore.row? (JobStore.failQueued ..).1 _)
        at moved
      rw [found] at moved
      exact moved.leased (fun _ _ wrong => by cases wrong) leased
  | missed picked rejects _ noRow =>
      exact unclaimed noRow (fun _ wrong => by cases wrong)
        fun _ _ found _ => found
  | @claimed job dispatcher row leased next picked _ _ claimedRow found _
      isLeased rows =>
      have noneOpen : segment.state.openExecutions row.id = 0 :=
        closed row (by rw [claimedRow]; exact List.mem_singleton_self row)
      have noTask := Nat.eq_zero_of_add_eq_zero_right noneOpen
      have isRow : (rowToJob leased).id = row.id := by
        rw [isLeased]
        rfl
      have idle : segment.state.dispatcher.loop = .idle :=
        (Segment.of_pick picked).2.1
      refine ⟨fun jobId => ?_, ?_⟩
      · rw [SchedulerState.openExecutions, loopIs, finishes.tasks]
        by_cases sameJob : row.id = jobId
        · subst sameJob
          rw [noTask, Nat.zero_add]
          exact Bool.toNat_le _
        · have before := invariant.atMostOne jobId
          rw [SchedulerState.openExecutions, idle] at before
          simpa [LoopState.holds, isRow, sameJob] using before
      · intro index task jobId other isTask isOpen isOther otherLeased
        rw [finishes.tasks] at isTask
        have different : jobId ≠ row.id := by
          rintro rfl
          have positive :
              0 < segment.state.tasks.countP (·.isOpen row.id) :=
            List.countP_pos_iff.mpr
              ⟨task, List.mem_of_getElem? isTask, isOpen⟩
          omega
        rw [storeIs, rows, if_neg different] at isOther
        rw [holds jobId (by simpa [claimedRow] using different)]
        exact invariant.holds index task jobId other isTask isOpen isOther
          otherLeased

/-- A step that meets the condition keeps the invariant. -/
theorem fenced_step
    {self : CfpSchedulerDO}
    {current next : SchedulerState × LeaseHolders}
    {event : SchedulerEvent}
    (closed : ClaimsClosed self current.1 event)
    (recorded :
      recording self.step self.recordHolders current event = some next)
    (invariant : FencedInvariant current.1 current.2) :
    FencedInvariant next.1 next.2 := by
  obtain ⟨_, stepped, rfl⟩ := Option.map_eq_some_iff.mp recorded
  obtain ⟨segment, isSegment, rfl⟩ := Option.map_eq_some_iff.mp stepped
  have before :=
    @fenced_segment self current.1 event segment current.2 _ isSegment
      (fun _ => rfl) invariant
  by_cases evicts : event = .evict
  · subst evicts
    cases isSegment
    exact ⟨fun jobId => Nat.zero_le 1, fun _ _ _ _ isTask => by cases isTask⟩
  · refine fenced_finish (closed segment isSegment) (fun jobId unclaimed => ?_)
      before
    have keepsHold : self.endsHold current.1 event jobId = false := by
      have notAny :
          (segment.claimedRows self event.loopReadings).any (·.id = jobId) =
            false := by
        rw [List.any_eq_false]
        intro row member isJob
        exact unclaimed
          (List.mem_map.mpr ⟨row, member, of_decide_eq_true isJob⟩)
      unfold CfpSchedulerDO.endsHold
      split
      · exact absurd rfl evicts
      · rw [isSegment]
        exact notAny
    unfold CfpSchedulerDO.recordHolders
    dsimp only
    rw [keepsHold, if_neg Bool.false_ne_true]

/-- The outcome of a job that is not leased is refused. -/
theorem JobStore.refuses_of_not_leased
    {store : JobStore}
    {jobId : String}
    (notLeased :
      ∀ row, store.row? jobId = some row → row.status ≠ .leased)
    {call : JobStoreCall}
    {answer : JobStoreAnswer}
    (isRefusal : call.refusal? = some (jobId, answer)) :
    store.invoke call = (store, answer) := by
  have unmet (leaseOwner : String) (row : JobsRow) :
      store.row? jobId = some row → row.isLeasedBy leaseOwner = false := by
    intro found
    simp [JobsRow.isLeasedBy, notLeased row found]
  cases call with
  | ack now ackedId leaseOwner result resultExpiresMs =>
      cases isRefusal
      simp [invoke, JobStore.ack, compareAndSet_of_unmet (unmet leaseOwner)]
  | fail now failedId leaseOwner error =>
      cases isRefusal
      simp [invoke, JobStore.fail, compareAndSet_of_unmet (unmet leaseOwner)]
  | _ =>
      cases isRefusal

/-- Only a settled execution issues an `ack` or a `fail`, of its own job. -/
theorem isOpen_of_refusal
    {self : CfpSchedulerDO}
    {state : SchedulerState}
    {index : Nat}
    {readings : Readings}
    {call : JobStoreCall}
    {refusal : String × JobStoreAnswer}
    (isCall : call ∈ self.segmentCalls state (.resume index readings))
    (isRefusal : call.refusal? = some refusal) :
    ∃ task, state.tasks[index]? = some task ∧ task.isOpen refusal.1 := by
  cases CfpSchedulerDO.callFrom isCall with
  | ack found =>
      cases isRefusal
      exact ⟨_, found, decide_eq_true rfl⟩
  | fail found =>
      cases isRefusal
      exact ⟨_, found, decide_eq_true rfl⟩
  | _ =>
      cases isRefusal

/-- With the invariant every other execution's call is refused. -/
theorem FencedInvariant.fenced
    {self : CfpSchedulerDO}
    {state : SchedulerState}
    {holders : LeaseHolders}
    (invariant : FencedInvariant state holders) :
    LeasesFenced self state holders := by
  intro index readings call isCall refusal isRefusal
  obtain ⟨task, found, isOpen⟩ := isOpen_of_refusal isCall isRefusal
  by_cases leased :
      ∃ row, state.store.row? refusal.1 = some row ∧ row.status = .leased
  · obtain ⟨row, isRow, isLeased⟩ := leased
    exact .inl
      (invariant.holds index task refusal.1 row found isOpen isRow isLeased)
  · refine .inr (JobStore.refuses_of_not_leased ?_ isRefusal)
    exact fun row isRow isLeased => leased ⟨row, isRow, isLeased⟩

/--
In a run that claims no job while an execution of it is open, every `ack` and
`fail` takes effect only when the execution that issues it holds the current
lease of the job, and is refused otherwise.
-/
theorem scheduler_leasesFenced
    {self : CfpSchedulerDO}
    {events : List SchedulerEvent}
    {final : SchedulerState × LeaseHolders}
    (run :
      GuardedRun (recording self.step self.recordHolders)
        (fun current => ClaimsClosed self current.1) ({}, fun _ => none)
        events final) :
    LeasesFenced self final.1 final.2 := by
  have invariant : FencedInvariant final.1 final.2 :=
    @GuardedRun.invariant _ _ _ _
      (fun (current : SchedulerState × LeaseHolders) =>
        FencedInvariant current.1 current.2)
      fenced_step
      _ _ _ run
      ⟨fun _ => Nat.zero_le 1, fun _ _ _ _ isTask => by cases isTask⟩
  exact invariant.fenced

/-- The run of the job settles. -/
def slowSettles : List SchedulerEvent :=
  slowStarts ++ [.settle 1 (.ok (.bool true))]

/-- It holds the lease, and what it calls next makes the job done. -/
theorem scheduler_leasesFenced_slowSettles :
    ∃ final : SchedulerState × LeaseHolders,
      GuardedRun
          (recording (CfpSchedulerDO.step .plain)
            (CfpSchedulerDO.recordHolders .plain))
          (fun current => ClaimsClosed .plain current.1) ({}, fun _ => none)
          slowSettles final ∧
        final.2 "slow" = some 1 ∧
          (CfpSchedulerDO.segmentCalls .plain final.1
              (.resume 1 (.at 20))).any
              (fun call =>
                (final.1.store.invoke call).1.status "slow" = some .done) ∧
            LeasesFenced .plain final.1 final.2 := by
  have executed :
      (slowSettles.foldlM
          (fun current event =>
            if ClaimsClosed .plain current.1 event then
              recording (CfpSchedulerDO.step .plain)
                (CfpSchedulerDO.recordHolders .plain) current event
            else
              none) ({}, fun _ => none)).any
        fun final =>
          final.2 "slow" = some 1 ∧
            (CfpSchedulerDO.segmentCalls .plain final.1
                (.resume 1 (.at 20))).any fun call =>
              (final.1.store.invoke call).1.status "slow" = some .done := by
    decide +kernel
  obtain ⟨final, isFinal, reached⟩ := (Option.any_eq_true _ _).mp executed
  obtain ⟨holds, acks⟩ := of_decide_eq_true reached
  have run := GuardedRun.of_checked isFinal
  exact ⟨final, run, holds, acks, scheduler_leasesFenced run⟩

/-- The first run returns after the job has been claimed again. -/
def slowReturnsLate : List SchedulerEvent :=
  slowStarts ++ flakyFails ++ alarmFires ++ [.settle 1 (.ok (.bool true))]

/--
The job's second execution holds the current lease, but the `ack` of the first
one takes effect: both have the lease owner of the object.
-/
theorem scheduler_acks_lost_lease :
    ∃ final : SchedulerState × LeaseHolders,
      Run
          (recording (CfpSchedulerDO.step .plain)
            (CfpSchedulerDO.recordHolders .plain))
          ({}, fun _ => none) slowReturnsLate final ∧
        ¬ LeasesFenced .plain final.1 final.2 := by
  have executed :
      (slowReturnsLate.foldlM
          (recording (CfpSchedulerDO.step .plain)
            (CfpSchedulerDO.recordHolders .plain)) ({}, fun _ => none)).any
        fun final =>
          final.2 "slow" ≠ some 1 &&
            final.1.store.status "slow" = some .leased &&
            (CfpSchedulerDO.segmentCalls .plain final.1
                (.resume 1 (.at 90010))).any fun call =>
              (call.refusal?.any fun refusal => refusal.1 = "slow") &&
                (final.1.store.invoke call).1.status "slow" =
                  some .done := by
    decide +kernel
  obtain ⟨final, isFinal, takesEffect⟩ := (Option.any_eq_true _ _).mp executed
  simp only [Bool.and_eq_true, decide_eq_true_eq] at takesEffect
  obtain ⟨⟨notHolder, leased⟩, someCall⟩ := takesEffect
  obtain ⟨call, isCall, effect⟩ := List.any_eq_true.mp someCall
  simp only [Bool.and_eq_true, decide_eq_true_eq] at effect
  obtain ⟨ofSlow, done⟩ := effect
  obtain ⟨refusal, isRefusal, sameId⟩ := (Option.any_eq_true _ _).mp ofSlow
  refine ⟨final, .of_foldlM isFinal, fun fenced => ?_⟩
  rcases fenced 1 (.at 90010) call isCall refusal isRefusal with
    holder | refused
  · rw [of_decide_eq_true sameId] at holder
    exact notHolder holder
  · rw [refused, leased] at done
    cases done

end CloudflareParallel
