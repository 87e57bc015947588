import CloudflareParallel.SchedulerWakeUpTasks

namespace CloudflareParallel

open KeyedTables

/-!
# What happens before the loop is kicked

Calls, alarms, settled runs and evictions keep the wake-up invariant, except
that a kick of the dispatch loop may be due.
-/

/-- A task is added whose own changes keep the invariant. -/
theorem WakeUpInvariant.start
    {self : CfpSchedulerDO}
    {state base : SchedulerState}
    {task : SchedulerTask}
    (invariant : WakeUpInvariant self state)
    (shell : SameShell state base)
    (sameDispatcher : base.dispatcher = state.dispatcher)
    (notPresuming : task.presumesAlarm = false)
    (retires : state.store.Retires base.store)
    (calm : state.Quiet → task.Calm state.initialized)
    (covers : state.Quiet → CoverStep state base .finished task) :
    SegmentInvariant self { state := base.addTask task } := by
  have quietBefore : (base.addTask task).Quiet → state.Quiet := by
    intro quiet
    refine ⟨shell.alarmPending ▸ quiet.1, fun other member => ?_⟩
    refine quiet.2 other ?_
    rw [SchedulerState.tasks_addTask, shell.tasks]
    exact List.mem_append_left _ member
  have isOld {other : SchedulerTask}
      (member : other ∈ (base.addTask task).tasks) :
      other ∈ state.tasks ∨ other = task := by
    rw [SchedulerState.tasks_addTask, shell.tasks, List.mem_append,
      List.mem_singleton] at member
    exact member
  refine {
    sound := ?_
    awake := fun quiet => ?_
    kicked := fun quiet _ => ?_
  }
  · refine invariant.sound.step ?_ (retires.ownedBy invariant.sound.owned)
      shell.alarmPending.trans fun other member => ?_
    · exact sameDispatcher ▸ invariant.sound.wellFormed
    · refine (isOld member).imp_right ?_
      rintro rfl presumes
      rw [notPresuming] at presumes
      cases presumes
  · have before := quietBefore quiet
    have awake := invariant.awake before
    refine {
      capacity := ?_
      accepted := ?_
      calm := ?_
      inactive := ?_
      covers := ?_
    }
    · unfold SchedulerState.HasCapacity
      rw [SchedulerState.dispatcher_addTask, sameDispatcher]
      exact awake.capacity
    · rw [SchedulerState.dispatcher_addTask, sameDispatcher]
      exact awake.accepted
    · intro other member
      change other.Calm base.initialized
      rw [shell.initialized]
      rcases isOld member with wasThere | rfl
      · exact awake.calm other wasThere
      · exact calm before
    · intro uninitialized
      exact retires.noneActive
        (awake.inactive (shell.initialized.symm.trans uninitialized))
    · intro jobId
      have covered := awake.covers jobId
      have neutral : SchedulerTask.finished.isNeutral := rfl
      unfold SchedulerState.Covers at covered ⊢
      rw [← JobRoles.none_or (rolesOf state.tasks jobId),
        ← roles_of_isNeutral neutral] at covered
      have stepped := covers before jobId _ covered
      rw [SchedulerState.tasks_addTask, shell.tasks, rolesOf_append,
        SchedulerState.dispatcher_addTask]
      rw [sameDispatcher] at stepped ⊢
      exact stepped
  · have kicked := invariant.kicked (quietBefore quiet)
    unfold SchedulerState.Kicked at kicked ⊢
    rw [SchedulerState.dispatcher_addTask, sameDispatcher]
    exact kicked

/-- A step that changes no more than the configuration and the replies. -/
theorem WakeUpInvariant.reconfigure
    {self : CfpSchedulerDO}
    {state next : SchedulerState}
    (invariant : WakeUpInvariant self state)
    (sameStore : next.store = state.store)
    (sameTasks : next.tasks = state.tasks)
    (samePending : next.alarmPending = state.alarmPending)
    (sameInitialized : next.initialized = state.initialized)
    (sameReady : next.dispatcher.ready = state.dispatcher.ready)
    (sameOrder : next.dispatcher.tenantOrder = state.dispatcher.tenantOrder)
    (sameRunning : next.dispatcher.running = state.dispatcher.running)
    (sameLoop : next.dispatcher.loop = state.dispatcher.loop)
    (capacity : state.Quiet → state.HasCapacity → next.HasCapacity) :
    SegmentInvariant self { state := next } := by
  have quietBefore : next.Quiet → state.Quiet := by
    intro quiet
    exact ⟨samePending ▸ quiet.1, sameTasks ▸ quiet.2⟩
  have sameJobs :
      next.dispatcher.readyJobs = state.dispatcher.readyJobs := by
    rw [Dispatcher.readyJobs, sameReady]
    rfl
  refine {
    sound := ?_
    awake := fun quiet => ?_
    kicked := fun quiet _ idle someReady => ?_
  }
  · refine invariant.sound.step
      (invariant.sound.wellFormed.congr sameReady sameOrder)
      (sameStore ▸ invariant.sound.owned) samePending.trans ?_
    intro task member
    exact .inl (sameTasks ▸ member)
  · have before := quietBefore quiet
    have awake := invariant.awake before
    refine {
      capacity := capacity before awake.capacity
      accepted := sameLoop ▸ awake.accepted
      calm := ?_
      inactive := ?_
      covers := ?_
    }
    · change ∀ task ∈ next.tasks, task.Calm next.initialized
      rw [sameTasks, sameInitialized]
      exact awake.calm
    · change next.initialized = false → ∀ row ∈ next.store.jobs.rows, _
      rw [sameStore, sameInitialized]
      exact awake.inactive
    · intro jobId
      have covered := awake.covers jobId
      unfold SchedulerState.Covers Dispatcher.isReady at covered ⊢
      dsimp only
      rw [sameStore, sameJobs, sameLoop, sameRunning, sameTasks]
      exact covered
  · dsimp only at idle someReady ⊢
    rw [sameLoop] at idle
    rw [Dispatcher.totalReady_eq_length, sameJobs,
      ← Dispatcher.totalReady_eq_length] at someReady
    have running := invariant.kicked (quietBefore quiet) idle someReady
    rw [Dispatcher.runningCount, sameRunning]
    exact running

/-- An object that has just been loaded covers a store without active jobs. -/
theorem segmentInvariant_loaded
    {self : CfpSchedulerDO}
    {store : JobStore}
    {alarm : Option Int}
    {replies : List SchedulerReply}
    (owned : store.OwnedBy self.ownerId)
    (kept :
      alarm.isSome ∨
        ∀ row ∈ store.jobs.rows, row.status.isActive = false) :
    SegmentInvariant self
      { state := { store := store, alarm := alarm, replies := replies } } where
  sound := {
    wellFormed := .clearReady {}
    owned := owned
    presumed := fun _ member => by cases member
  }
  kicked _ _ _ someReady := absurd someReady (Nat.lt_irrefl 0)
  awake quiet := by
    have none :
        ∀ row ∈ store.jobs.rows, row.status.isActive = false := by
      refine kept.resolve_left fun pending => ?_
      have noAlarm := quiet.1
      simp [SchedulerState.alarmPending, pending] at noAlarm
    have isNone :
        SchedulerState.NoneActive
          { store := store, alarm := alarm, replies := replies } := none
    have defaults :
        1 ≤ ({} : DispatcherConfig).inFlightLimit ∧
          1 ≤ ({} : DispatcherConfig).fairCapacityPerTenant := by
      decide
    refine {
      capacity := defaults
      accepted := fun wrong => by cases wrong
      calm := fun _ member => by cases member
      inactive := fun _ => isNone
      covers := fun jobId => ?_
    }
    refine {
      queued := fun isQueued => by cases isNone.status isQueued
      leased := fun isLeased => by cases isNone.status isLeased
      opened := ?_
      finishing := ?_
      dropping := ?_
    }
    · rintro (⟨_, member, _⟩ | held)
      · cases member
      · cases held
    · rintro ⟨_, member, _⟩
      cases member
    · rintro ⟨_, member, _⟩
      cases member

/-- A calm task stays calm when the object has been initialized. -/
theorem SchedulerTask.Calm.initialized
    {task : SchedulerTask}
    {initialized : Bool}
    (calm : task.Calm initialized) :
    task.Calm true := by
  cases task <;> first | trivial | exact ⟨calm.1, rfl⟩

/-- An enqueue arrives. -/
theorem wakeUp_enqueue
    {self : CfpSchedulerDO}
    {state : SchedulerState}
    {req : SchedulerEnqueueRequest}
    (invariant : WakeUpInvariant self state) :
    SegmentInvariant self
      { state :=
          (state.ensureInit (.enqueue req)).1.addTask
            (state.ensureInit (.enqueue req)).2 } := by
  unfold SchedulerState.ensureInit
  split
  next initialized =>
    exact invariant.start (.refl _) rfl rfl (.refl _)
      (fun _ => initialized)
      fun _ => .still rfl rfl rfl rfl
  next notInitialized =>
    have uninitialized : state.initialized = false := by
      simpa using notInitialized
    let next : SchedulerState :=
      ({ state with initialized := true }.withDispatcher
          state.dispatcher.clearReady).addTask
        (.rebuild (state.store.peek none 10000) (.enqueue req))
    have quietBefore : next.Quiet → state.Quiet := by
      intro quiet
      exact ⟨quiet.1, fun task member =>
        quiet.2 task (List.mem_append_left _ member)⟩
    have isOld {task : SchedulerTask} (member : task ∈ next.tasks) :
        task ∈ state.tasks ∨
          task = .rebuild (state.store.peek none 10000) (.enqueue req) :=
      (List.mem_append.mp member).imp_right List.mem_singleton.mp
    change SegmentInvariant self { state := next }
    refine {
      sound := ?_
      awake := fun quiet => ?_
      kicked := fun _ _ _ someReady => absurd someReady (Nat.lt_irrefl 0)
    }
    · refine invariant.sound.step (.clearReady _) invariant.sound.owned id ?_
      intro task member
      refine (isOld member).imp_right ?_
      rintro rfl presumes
      cases presumes
    · have awake := invariant.awake (quietBefore quiet)
      have none := awake.inactive uninitialized
      have noneQueued : state.store.peek .none 10000 = [] := by
        rw [List.eq_nil_iff_forall_not_mem]
        intro job listed
        obtain ⟨row, member, isQueued, -⟩ := JobStore.queued_of_peek listed
        have inactive := none row member
        rw [isQueued] at inactive
        cases inactive
      refine {
        capacity := awake.capacity
        accepted := awake.accepted
        calm := ?_
        inactive := fun wrong => by cases wrong
        covers := fun jobId => ?_
      }
      · intro task member
        rcases isOld member with before | rfl
        · exact (awake.calm task before).initialized
        · exact ⟨noneQueued, rfl⟩
      · have covered := awake.covers jobId
        have neutral :
            (SchedulerTask.rebuild (state.store.peek .none 10000)
              (.enqueue req)).isNeutral := rfl
        have sameRoles :
            rolesOf next.tasks jobId = rolesOf state.tasks jobId := by
          rw [SchedulerState.tasks_addTask, rolesOf_append,
            roles_of_isNeutral neutral, JobRoles.none_or]
          rfl
        unfold SchedulerState.Covers at covered ⊢
        dsimp only
        rw [sameRoles]
        refine covered.keep (fun isQueued => ?_) (fun _ => id) id id .inl .inl
        cases none.status isQueued

/-- The stored alarm is delivered. -/
theorem wakeUp_deliverAlarm
    {self : CfpSchedulerDO}
    {state : SchedulerState}
    {time : Int}
    (invariant : WakeUpInvariant self state) :
    SegmentInvariant self
      { state :=
          ((state.withAlarm none (some time)).ensureInit .alarmStart).1.addTask
            ((state.withAlarm none (some time)).ensureInit
              .alarmStart).2 } := by
  have noisy
      {next : SchedulerState}
      (delivering : next.delivering = some time)
      (wellFormed : next.dispatcher.WellFormed)
      (sameStore : next.store = state.store) :
      SegmentInvariant self { state := next } := by
    have pending : next.alarmPending := by
      simp [SchedulerState.alarmPending, delivering]
    have notQuiet : ¬ next.Quiet := by
      intro quiet
      rw [quiet.1] at pending
      cases pending
    refine {
      sound := {
        wellFormed := wellFormed
        owned := sameStore ▸ invariant.sound.owned
        presumed := fun _ _ _ => pending
      }
      awake := fun quiet => absurd quiet notQuiet
      kicked := fun quiet => absurd quiet notQuiet
    }
  unfold SchedulerState.ensureInit
  split
  · exact noisy rfl invariant.sound.wellFormed rfl
  · exact noisy rfl (.clearReady _) rfl

/-- The loop comes to its condition again with no job in its hands. -/
theorem wakeUp_released
    {self : CfpSchedulerDO}
    {state : SchedulerState}
    {entry : LoopEntry}
    (notHolding : ∀ jobId, state.dispatcher.loop.holds jobId = false)
    (kicks : state.Quiet → entry ≠ .stay)
    (invariant : WakeUpInvariant self state) :
    SegmentInvariant self
      { state := state.withDispatcher { state.dispatcher with loop := .idle }
        entry := entry } where
  sound :=
    invariant.sound.step (invariant.sound.wellFormed.congr rfl rfl)
      invariant.sound.owned id fun _ => .inl
  awake quiet := by
    have awake := invariant.awake quiet
    refine {
      capacity := awake.capacity
      accepted := fun wrong => by cases wrong
      calm := awake.calm
      inactive := awake.inactive
      covers := fun jobId => ?_
    }
    have covered := awake.covers jobId
    unfold SchedulerState.Covers at covered ⊢
    rw [notHolding] at covered
    exact covered
  kicked quiet stays := absurd stays (kicks quiet)

/-- The loop starts the execution of the job that it has claimed. -/
theorem wakeUp_startRun
    {self : CfpSchedulerDO}
    {state : SchedulerState}
    {target : PersistedJob}
    {record : RunningJob}
    {call : RunnerCall}
    (isClaimed : state.dispatcher.loop = .claimed (some target))
    (invariant : WakeUpInvariant self state) :
    SegmentInvariant self
      { state :=
          (state.withDispatcher
            { state.dispatcher with
              loop := .idle
              running :=
                OrderedMap.set state.dispatcher.running target.id
                  record }).addTask (.running target call)
        entry := .kick } where
  sound := by
    refine invariant.sound.step (invariant.sound.wellFormed.congr rfl rfl)
      invariant.sound.owned id fun task member => ?_
    refine (List.mem_append.mp member).imp_right fun isNew => ?_
    rw [List.mem_singleton.mp isNew]
    exact fun wrong => by cases wrong
  awake quiet := by
    have before : state.Quiet :=
      ⟨quiet.1, fun task member =>
        quiet.2 task (List.mem_append_left _ member)⟩
    have awake := invariant.awake before
    refine {
      capacity := awake.capacity
      accepted := fun wrong => by cases wrong
      calm := fun task member => ?_
      inactive := awake.inactive
      covers := fun jobId => ?_
    }
    · rcases List.mem_append.mp member with wasThere | isNew
      · exact awake.calm task wasThere
      · rw [List.mem_singleton.mp isNew]
        trivial
    · have covered := awake.covers jobId
      unfold SchedulerState.Covers at covered ⊢
      rw [isClaimed] at covered
      rw [SchedulerState.tasks_addTask, rolesOf_append]
      have holds : (LoopState.claimed (some target)).holds jobId =
          decide (target.id = jobId) := rfl
      refine covered.keep (fun _ => Or.imp_right .inr) (fun _ => ?_) .inr ?_
        ?_ ?_
      · rintro (held | running | again)
        · rw [holds, decide_eq_true_eq] at held
          exact .inr (.inl ((OrderedMap.mem_keys_set ..).mpr
            (.inl held.symm)))
        · exact .inr (.inl ((OrderedMap.mem_keys_set ..).mpr (.inr running)))
        · exact .inr (.inr (.inr again))
      · rintro ((isTarget | opened) | held)
        · exact .inr isTarget
        · exact .inl opened
        · cases held
      · rintro (wrong | finishes)
        · cases wrong
        · exact .inl finishes
      · rintro (wrong | drops)
        · cases wrong
        · exact .inl drops
  kicked _ wrong := by cases wrong

/-- The dispatch loop goes on after an await. -/
theorem wakeUp_resumeLoop
    {self : CfpSchedulerDO}
    {state : SchedulerState}
    {segment : Segment}
    (resumed : self.resumeLoop state = some segment)
    (invariant : WakeUpInvariant self state) :
    SegmentInvariant self segment := by
  unfold CfpSchedulerDO.resumeLoop at resumed
  dsimp only at resumed
  split at resumed
  · cases resumed
  next isRejected =>
    cases resumed
    exact wakeUp_released (fun _ => by rw [isRejected]; rfl)
      (fun quiet => absurd isRejected (invariant.awake quiet).accepted)
      invariant
  next isFailed =>
    cases resumed
    exact wakeUp_released (fun _ => by rw [isFailed]; rfl)
      (fun _ wrong => by cases wrong) invariant
  next isRefused =>
    cases resumed
    exact wakeUp_released (fun _ => by rw [isRefused]; rfl)
      (fun _ wrong => by cases wrong) invariant
  next target isClaimed =>
    cases resumed
    exact wakeUp_startRun isClaimed invariant

/-- What happens before the loop is kicked keeps the invariant. -/
theorem wakeUp_segment
    {self : CfpSchedulerDO}
    {state : SchedulerState}
    {event : SchedulerEvent}
    {segment : Segment}
    (isSegment : self.segment state event = some segment)
    (evicts : event = .evict → state.alarmPending ∨ state.NoneActive)
    (keeps : state.Quiet → state.KeepsWakeUps event)
    (invariant : WakeUpInvariant self state) :
    SegmentInvariant self segment := by
  cases event with
  | enqueue req =>
      cases isSegment
      exact wakeUp_enqueue invariant
  | cancel jobId reason now =>
      cases isSegment
      exact invariant.start (.withStore ..) rfl rfl (.cancel ..)
        (fun _ => trivial) fun _ => .cancel
  | cancelByTenant tenantId reason =>
      cases isSegment
      exact invariant.start (.refl _) rfl rfl (.refl _) (fun _ => trivial)
        fun _ => .still rfl rfl rfl rfl
  | configure c =>
      cases isSegment
      obtain ⟨config, isConfigured⟩ := dispatcher_configure state c
      exact invariant.reconfigure rfl rfl rfl rfl
        (by rw [isConfigured]) (by rw [isConfigured]) (by rw [isConfigured])
        (by rw [isConfigured]) fun quiet _ => keeps quiet
  | status jobId =>
      cases isSegment
      exact invariant.reconfigure rfl rfl rfl rfl rfl rfl rfl rfl
        fun _ => id
  | result jobId now =>
      cases isSegment
      exact invariant.reconfigure rfl rfl rfl rfl rfl rfl rfl rfl
        fun _ => id
  | deliverAlarm now =>
      simp only [CfpSchedulerDO.segment] at isSegment
      split at isSegment
      · split at isSegment
        · cases isSegment
          exact wakeUp_deliverAlarm invariant
        · cases isSegment
      · cases isSegment
  | resume index readings =>
      obtain ⟨task, found, resumed⟩ := Option.bind_eq_some_iff.mp isSegment
      exact wakeUp_resumeTask found resumed keeps invariant
  | resumeLoop readings =>
      exact wakeUp_resumeLoop isSegment invariant
  | settle index outcome =>
      simp only [CfpSchedulerDO.segment] at isSegment
      split at isSegment
      next job call found =>
        cases isSegment
        exact invariant.goOnCalm found (.refl _) rfl rfl
          invariant.sound.wellFormed (.refl _) (fun _ => trivial)
          (fun _ => .settle) fun _ _ => id
      · cases isSegment
  | evict =>
      cases isSegment
      refine segmentInvariant_loaded invariant.sound.owned
        ((evicts rfl).imp_left fun pending => ?_)
      unfold SchedulerState.alarmPending at pending
      cases alarm : state.alarm <;> simp_all

end CloudflareParallel
