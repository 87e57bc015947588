import CloudflareParallel.SchedulerCoverage

namespace CloudflareParallel

open KeyedTables LabelledRuns

/-!
# The wake-up of a job

Once an alarm is stored there always is one, and its handler reads the queued
jobs back from storage.  Until then the memory alone keeps the jobs that are
queued or leased, and every step that drops one of them strands it.
-/

/-- The task is about to store an alarm. -/
def SchedulerTask.writesAlarm : SchedulerTask → Bool
  | .writeAlarm _ _ => true
  | _ => false

namespace SchedulerState

/-- An alarm is stored, or is being delivered. -/
def alarmPending (state : SchedulerState) : Bool :=
  state.alarm.isSome || state.delivering.isSome

/--
A wake-up for a job: an alarm, the running dispatch loop, the running map, a
ready bucket that a running execution will kick again, a retry timer, or an
operation that puts the job back or stores an alarm when it goes on.
-/
def HasWakeUp
    (state : SchedulerState)
    (jobId : String) : Prop :=
  state.alarmPending ∨
    state.dispatcher.loop ≠ .idle ∨
    jobId ∈ OrderedMap.keys state.dispatcher.running ∨
    (state.dispatcher.isReady jobId ∧ 0 < state.dispatcher.runningCount) ∨
    ∃ task ∈ state.tasks, task.wakes jobId ∨ task.writesAlarm

/-- Every job that is queued or leased has a wake-up. -/
def NoJobForgotten (state : SchedulerState) : Prop :=
  ∀ jobId status,
    state.store.status jobId = some status →
    status.isActive →
    state.HasWakeUp jobId

/-- No job is queued or leased. -/
def NoneActive (state : SchedulerState) : Prop :=
  ∀ row ∈ state.store.jobs.rows, row.status.isActive = false

/-- No alarm is stored and none is being stored. -/
def Quiet (state : SchedulerState) : Prop :=
  state.alarmPending = false ∧
    ∀ task ∈ state.tasks, task.writesAlarm = false

/-- Both limits of the dispatcher let at least one job run. -/
def HasCapacity (state : SchedulerState) : Prop :=
  1 ≤ state.dispatcher.config.inFlightLimit ∧
    1 ≤ state.dispatcher.config.fairCapacityPerTenant

/--
The condition on a step's own part while no alarm is stored: it sets no limit
below one, clears no bucket with a job that is still queued, and its `fail` of
a leased job is not rejected.
-/
def KeepsWakeUps (state : SchedulerState) : SchedulerEvent → Prop
  | .configure c => (state.configure c).HasCapacity
  | .resume index readings =>
      match state.tasks[index]? with
      | some (.cancelTenant tenantId _ [] _) =>
          ∀ job ∈
            (OrderedMap.lookup state.dispatcher.ready tenantId).getD [],
            state.store.status job.id ≠ some .queued
      | some (.settled job (.error _)) =>
          readings.rejection = none ∨
            state.store.status job.id ≠ some .leased
      | _ => True
  | _ => True

end SchedulerState

/--
The condition on the dispatch loop while no alarm is stored: its store call is
not rejected, and its claim selects the job that it has taken if that job is
queued and its deadline has not passed.
-/
def Segment.KeepsPick
    (self : CfpSchedulerDO)
    (readings : LoopReadings)
    (segment : Segment) : Prop :=
  ∀ pick ∈ segment.pick,
    readings.rejects = false ∧
      (deadlinePassed pick.1 readings.check = false →
        segment.state.store.status pick.1.id = some .queued →
        ∃ row ∈
          segment.state.store.claimCandidates readings.claim
            (self.claimRequest pick.2.config pick.1),
          row.id = pick.1.id)

/--
The condition on a step.  The object is evicted only with an alarm stored or
with no job queued or leased, and as long as no alarm is stored nothing else
drops such a job from memory.
-/
structure WakeUpsKept
    (scheduler : CfpSchedulerDO)
    (state : SchedulerState)
    (event : SchedulerEvent) : Prop where
  evicts : event = .evict → state.alarmPending ∨ state.NoneActive
  keeps : state.Quiet → state.KeepsWakeUps event
  picks :
    ∀ segment ∈ scheduler.segment state event,
      segment.state.Quiet →
      segment.KeepsPick scheduler event.loopReadings

section Decidability

variable (scheduler : CfpSchedulerDO) (state : SchedulerState)

instance : Decidable state.NoneActive :=
  inferInstanceAs (Decidable (∀ row ∈ _, _ = _))

instance : Decidable state.Quiet :=
  inferInstanceAs (Decidable (_ ∧ _))

instance : Decidable state.HasCapacity :=
  inferInstanceAs (Decidable (_ ∧ _))

/-- `KeepsWakeUps`, computed. -/
def keepsWakeUps? (state : SchedulerState) : SchedulerEvent → Bool
  | .configure c => decide (state.configure c).HasCapacity
  | .resume index readings =>
      match state.tasks[index]? with
      | some (.cancelTenant tenantId _ [] _) =>
          decide
            (∀ job ∈
              (OrderedMap.lookup state.dispatcher.ready tenantId).getD [],
              state.store.status job.id ≠ some .queued)
      | some (.settled job (.error _)) =>
          decide
            (readings.rejection = none ∨
              state.store.status job.id ≠ some .leased)
      | _ => true
  | _ => true

theorem keepsWakeUps?_iff
    (event : SchedulerEvent) :
    keepsWakeUps? state event ↔ state.KeepsWakeUps event := by
  unfold keepsWakeUps? SchedulerState.KeepsWakeUps
  split
  · exact decide_eq_true_iff
  · split <;> simp
  · simp

instance (event : SchedulerEvent) : Decidable (state.KeepsWakeUps event) :=
  decidable_of_iff _ (keepsWakeUps?_iff state event)

instance
    (readings : LoopReadings)
    (segment : Segment) :
    Decidable (segment.KeepsPick scheduler readings) :=
  inferInstanceAs (Decidable (∀ pick ∈ segment.pick, _ ∧ _))

/-- The event is an eviction. -/
def SchedulerEvent.isEvict : SchedulerEvent → Bool
  | .evict => true
  | _ => false

theorem SchedulerEvent.isEvict_iff
    (event : SchedulerEvent) :
    event.isEvict ↔ event = .evict := by
  cases event <;> simp [isEvict]

instance
    (event : SchedulerEvent) :
    Decidable (WakeUpsKept scheduler state event) :=
  decidable_of_iff
    ((event.isEvict → state.alarmPending ∨ state.NoneActive) ∧
      (state.Quiet → state.KeepsWakeUps event) ∧
      ∀ segment ∈ scheduler.segment state event,
        segment.state.Quiet →
        segment.KeepsPick scheduler event.loopReadings)
    ⟨fun kept =>
      ⟨fun evicts => kept.1 (event.isEvict_iff.mpr evicts), kept.2.1, kept.2.2⟩,
      fun kept =>
        ⟨fun evicts => kept.evicts (event.isEvict_iff.mp evicts), kept.keeps,
          kept.picks⟩⟩

end Decidability

/-! ## The invariant -/

/-- The rebuild is one of the alarm's. -/
def RebuildCaller.isAlarm : RebuildCaller → Bool
  | .enqueue _ => false
  | _ => true

/-- The task belongs to an alarm, or has read a stored alarm. -/
def SchedulerTask.presumesAlarm : SchedulerTask → Bool
  | .rebuild _ caller => caller.isAlarm
  | .rebuilt caller => caller.isAlarm
  | .alarmReclaimed _ _ => true
  | .alarmSwept _ => true
  | .writeAlarm existing _ => existing.isSome
  | _ => false

/-- The task comes after `#ensureInit`, whose rebuild has found no job. -/
def SchedulerTask.Calm (initialized : Bool) : SchedulerTask → Prop
  | .rebuild queued _ => queued = [] ∧ initialized
  | .rebuilt _ => initialized
  | _ => True

namespace SchedulerState

/-- The loop stopped for want of ready jobs or because others are running. -/
def Kicked (state : SchedulerState) : Prop :=
  state.dispatcher.loop = .idle →
  0 < state.dispatcher.totalReady →
  0 < state.dispatcher.runningCount

/-- The job of an id is covered. -/
def Covers
    (state : SchedulerState)
    (jobId : String) : Prop :=
  Covered (state.store.status jobId) (state.dispatcher.isReady jobId)
    (state.dispatcher.loop.holds jobId)
    (jobId ∈ OrderedMap.keys state.dispatcher.running)
    (rolesOf state.tasks jobId)

end SchedulerState

/-- What holds in every state. -/
structure SchedulerSound
    (scheduler : CfpSchedulerDO)
    (state : SchedulerState) : Prop where
  wellFormed : state.dispatcher.WellFormed
  owned : state.store.OwnedBy scheduler.ownerId
  presumed : ∀ task ∈ state.tasks, task.presumesAlarm → state.alarmPending

/-- What holds as long as no alarm is stored. -/
structure SchedulerAwake (state : SchedulerState) : Prop where
  capacity : state.HasCapacity
  accepted : state.dispatcher.loop ≠ .rejected
  calm : ∀ task ∈ state.tasks, task.Calm state.initialized
  inactive : state.initialized = false → state.NoneActive
  covers : ∀ jobId, state.Covers jobId

/-- The invariant of the runs that meet the condition. -/
structure WakeUpInvariant
    (scheduler : CfpSchedulerDO)
    (state : SchedulerState) : Prop where
  sound : SchedulerSound scheduler state
  awake : state.Quiet → SchedulerAwake state
  kicked : state.Quiet → state.Kicked

/-- The invariant in the middle of a step, where a kick may be due. -/
structure SegmentInvariant
    (scheduler : CfpSchedulerDO)
    (segment : Segment) : Prop where
  sound : SchedulerSound scheduler segment.state
  awake : segment.state.Quiet → SchedulerAwake segment.state
  kicked :
    segment.state.Quiet → segment.entry = .stay → segment.state.Kicked

/-- In a state with the invariant no job is forgotten. -/
theorem WakeUpInvariant.noJobForgotten
    {self : CfpSchedulerDO}
    {state : SchedulerState}
    (invariant : WakeUpInvariant self state) :
    state.NoJobForgotten := by
  intro jobId status isStatus active
  by_cases quiet : state.Quiet
  · have covered := (invariant.awake quiet).covers jobId
    by_cases idle : state.dispatcher.loop = .idle
    · cases status with
      | queued =>
          rcases covered.queued isStatus with ready | ⟨task, member, wakes⟩
          · have running :=
              invariant.kicked quiet idle
                (Dispatcher.totalReady_pos_of_isReady ready)
            exact .inr (.inr (.inr (.inl ⟨ready, running⟩)))
          · exact .inr (.inr (.inr (.inr ⟨task, member, .inl wakes⟩)))
      | leased =>
          rcases covered.leased isStatus with
            held | running | ⟨task, member, requeues⟩
          · rw [idle] at held
            cases held
          · exact .inr (.inr (.inl running))
          · refine .inr (.inr (.inr (.inr ⟨task, member, .inl ?_⟩)))
            cases task <;> first | exact requeues | cases requeues
      | running => cases active
      | done => cases active
      | failed => cases active
      | cancelled => cases active
    · exact .inr (.inl idle)
  · by_cases pending : state.alarmPending = true
    · exact .inl pending
    · have writing : ∃ task ∈ state.tasks, task.writesAlarm := by
        by_contra none
        push Not at none
        refine quiet ⟨by simpa using pending, fun task member => ?_⟩
        simpa using none task member
      obtain ⟨task, member, writes⟩ := writing
      exact .inr (.inr (.inr (.inr ⟨task, member, .inr writes⟩)))

/-! ## A task goes on -/

namespace SchedulerSound

variable {self : CfpSchedulerDO} {state next : SchedulerState}

/-- New tasks presume no alarm that is not there, and alarms are kept. -/
theorem step
    (sound : SchedulerSound self state)
    (wellFormed : next.dispatcher.WellFormed)
    (owned : next.store.OwnedBy self.ownerId)
    (pending : state.alarmPending → next.alarmPending)
    (tasks :
      ∀ task ∈ next.tasks,
        task ∈ state.tasks ∨
          (task.presumesAlarm → next.alarmPending)) :
    SchedulerSound self next where
  wellFormed := wellFormed
  owned := owned
  presumed task member presumes := by
    rcases tasks task member with before | now
    · exact pending (sound.presumed task before presumes)
    · exact now presumes

/-- A task that presumes an alarm is not there when there is none. -/
theorem not_quiet
    (sound : SchedulerSound self state)
    {index : Nat}
    {task : SchedulerTask}
    (found : state.tasks[index]? = some task)
    (presumes : task.presumesAlarm) :
    ¬ state.Quiet := by
  intro quiet
  have pending :=
    sound.presumed task (List.mem_of_getElem? found) presumes
  rw [quiet.1] at pending
  cases pending

end SchedulerSound

/-- An owner's leases stay the owner's when no row is leased. -/
theorem JobStore.Retires.ownedBy
    {store next : JobStore}
    {leaseOwner : String}
    (retires : store.Retires next)
    (owned : store.OwnedBy leaseOwner) :
    next.OwnedBy leaseOwner :=
  fun jobId row found leased =>
    owned jobId row (retires.leased jobId row found leased) leased

/-- With no active job, retiring leaves none. -/
theorem JobStore.Retires.noneActive
    {state next : SchedulerState}
    (retires : state.store.Retires next.store)
    (none : state.NoneActive) :
    next.NoneActive := by
  intro row member
  by_contra active
  obtain ⟨old, found, wasActive⟩ :=
    retires.active row.id row (JobStore.row?_of_mem member)
      (by simpa using active)
  rw [none old (JobStore.mem_of_row? found)] at wasActive
  cases wasActive

/-- A task's own changes leave the tasks, the alarm and the loop alone. -/
structure SameShell (state base : SchedulerState) : Prop where
  tasks : base.tasks = state.tasks
  alarm : base.alarm = state.alarm
  delivering : base.delivering = state.delivering
  initialized : base.initialized = state.initialized
  config : base.dispatcher.config = state.dispatcher.config
  loop : base.dispatcher.loop = state.dispatcher.loop

namespace SameShell

theorem refl (state : SchedulerState) : SameShell state state :=
  ⟨rfl, rfl, rfl, rfl, rfl, rfl⟩

theorem reply
    (state : SchedulerState)
    (answer : SchedulerReply) : SameShell state (state.reply answer) :=
  ⟨rfl, rfl, rfl, rfl, rfl, rfl⟩

theorem withStore
    (state : SchedulerState)
    (store : JobStore) : SameShell state (state.withStore store) :=
  ⟨rfl, rfl, rfl, rfl, rfl, rfl⟩

theorem withDispatcher
    (state : SchedulerState)
    {dispatcher : Dispatcher}
    (same : state.dispatcher.SameButReady dispatcher) :
    SameShell state (state.withDispatcher dispatcher) :=
  ⟨rfl, rfl, rfl, rfl, same.config, same.loop⟩

theorem trans
    {first second third : SchedulerState}
    (before : SameShell first second)
    (after : SameShell second third) : SameShell first third :=
  ⟨after.tasks.trans before.tasks, after.alarm.trans before.alarm,
    after.delivering.trans before.delivering,
    after.initialized.trans before.initialized,
    after.config.trans before.config, after.loop.trans before.loop⟩

theorem alarmPending
    {state base : SchedulerState}
    (shell : SameShell state base) :
    base.alarmPending = state.alarmPending := by
  rw [SchedulerState.alarmPending, SchedulerState.alarmPending, shell.alarm,
    shell.delivering]

end SameShell

/-- What a task's own changes must do for a job when no alarm is stored. -/
def CoverStep
    (state base : SchedulerState)
    (old new : SchedulerTask) : Prop :=
  ∀ jobId others,
    Covered (state.store.status jobId) (state.dispatcher.isReady jobId)
        (state.dispatcher.loop.holds jobId)
        (jobId ∈ OrderedMap.keys state.dispatcher.running)
        ((old.roles jobId).or others) →
      Covered (base.store.status jobId) (base.dispatcher.isReady jobId)
        (state.dispatcher.loop.holds jobId)
        (jobId ∈ OrderedMap.keys base.dispatcher.running)
        ((new.roles jobId).or others)

/-- A task goes on and keeps the invariant. -/
theorem WakeUpInvariant.goOn
    {self : CfpSchedulerDO}
    {state base : SchedulerState}
    {index : Nat}
    {old new : SchedulerTask}
    {entry : LoopEntry}
    (invariant : WakeUpInvariant self state)
    (found : state.tasks[index]? = some old)
    (shell : SameShell state base)
    (notWriting : old.writesAlarm = false)
    (presumed : new.presumesAlarm → state.alarmPending)
    (wellFormed : base.dispatcher.WellFormed)
    (owned : base.store.OwnedBy self.ownerId)
    (calm :
      state.Quiet →
      old.Calm state.initialized →
      new.Calm state.initialized)
    (inactive :
      state.Quiet →
      old.Calm state.initialized →
      state.initialized = false →
      state.NoneActive →
      base.NoneActive)
    (covers : state.Quiet → CoverStep state base old new)
    (kicked :
      state.Quiet → entry = .stay → state.Kicked → base.Kicked) :
    SegmentInvariant self
      { state := base.setTask index new, entry := entry } := by
  have quietBefore : (base.setTask index new).Quiet → state.Quiet := by
    intro quiet
    refine ⟨shell.alarmPending ▸ quiet.1, fun task member => ?_⟩
    obtain ⟨position, atPosition⟩ := List.mem_iff_getElem?.mp member
    by_cases here : index = position
    · rw [← here, found] at atPosition
      cases atPosition
      exact notWriting
    · have stays : (base.setTask index new).tasks[position]? = some task := by
        rw [SchedulerState.tasks_setTask, shell.tasks,
          List.getElem?_set_ne here]
        exact atPosition
      exact quiet.2 task (List.mem_of_getElem? stays)
  have isOld {task : SchedulerTask}
      (member : task ∈ (base.setTask index new).tasks) :
      task ∈ state.tasks ∨ task = new := by
    rw [SchedulerState.tasks_setTask, shell.tasks] at member
    exact List.mem_or_eq_of_mem_set member
  refine {
    sound := ?_
    awake := fun quiet => ?_
    kicked := fun quiet stays => ?_
  }
  · refine invariant.sound.step wellFormed owned ?_ ?_
    · intro pending
      exact shell.alarmPending.trans pending
    · intro task member
      rcases isOld member with before | rfl
      · exact .inl before
      · exact .inr fun presumes =>
          shell.alarmPending.trans (presumed presumes)
  · have before := quietBefore quiet
    have awake := invariant.awake before
    have oldCalm := awake.calm old (List.mem_of_getElem? found)
    refine {
      capacity := ?_
      accepted := ?_
      calm := ?_
      inactive := ?_
      covers := ?_
    }
    · have capacity := awake.capacity
      unfold SchedulerState.HasCapacity at capacity ⊢
      rw [← shell.config] at capacity
      exact capacity
    · exact fun rejected =>
        awake.accepted (shell.loop.symm.trans rejected)
    · intro task member
      change task.Calm base.initialized
      rw [shell.initialized]
      rcases isOld member with wasThere | rfl
      · exact awake.calm task wasThere
      · exact calm before oldCalm
    · intro uninitialized
      have uninitialized : state.initialized = false :=
        shell.initialized.symm.trans uninitialized
      exact inactive before oldCalm uninitialized
        (awake.inactive uninitialized)
    · intro jobId
      have covered := awake.covers jobId
      unfold SchedulerState.Covers at covered ⊢
      rw [rolesOf_eraseIdx found] at covered
      rw [SchedulerState.tasks_setTask, shell.tasks, rolesOf_set found]
      have stepped := covers before jobId _ covered
      rw [← shell.loop] at stepped
      exact stepped
  · exact kicked (quietBefore quiet) stays
      (invariant.kicked (quietBefore quiet))

end CloudflareParallel
