import CloudflareParallel.SchedulerCoverSteps

namespace CloudflareParallel

open KeyedTables

/-!
# A suspended task goes on

Each task of the object, resumed under the condition, keeps the wake-up
invariant.
-/

namespace WakeUpInvariant

variable {self : CfpSchedulerDO} {state base : SchedulerState}
variable {index : Nat} {old new : SchedulerTask} {entry : LoopEntry}

/-- A task of an alarm goes on. -/
theorem goOnAlarm
    (invariant : WakeUpInvariant self state)
    (found : state.tasks[index]? = some old)
    (shell : SameShell state base)
    (notWriting : old.writesAlarm = false)
    (presumes : old.presumesAlarm)
    (wellFormed : base.dispatcher.WellFormed)
    (owned : base.store.OwnedBy self.ownerId) :
    SegmentInvariant self
      { state := base.setTask index new, entry := entry } := by
  have noisy := invariant.sound.not_quiet found presumes
  exact invariant.goOn found shell notWriting
    (fun _ =>
      invariant.sound.presumed old (List.mem_of_getElem? found) presumes)
    wellFormed owned (fun quiet => absurd quiet noisy)
    (fun quiet => absurd quiet noisy) (fun quiet => absurd quiet noisy)
    fun quiet => absurd quiet noisy

/-- A task that is not an alarm's goes on to one that is not either. -/
theorem goOnCalm
    (invariant : WakeUpInvariant self state)
    (found : state.tasks[index]? = some old)
    (shell : SameShell state base)
    (notWriting : old.writesAlarm = false)
    (notPresuming : new.presumesAlarm = false)
    (wellFormed : base.dispatcher.WellFormed)
    (retires : state.store.Retires base.store)
    (calm : ∀ initialized, new.Calm initialized)
    (covers : state.Quiet → CoverStep state base old new)
    (kicked :
      state.Quiet → entry = .stay → state.Kicked → base.Kicked) :
    SegmentInvariant self
      { state := base.setTask index new, entry := entry } :=
  invariant.goOn found shell notWriting
    (fun presumes => by rw [notPresuming] at presumes; cases presumes)
    wellFormed (retires.ownedBy invariant.sound.owned)
    (fun _ _ => calm _) (fun _ _ _ => retires.noneActive) covers kicked

end WakeUpInvariant

/-- An enqueue starts or is refused. -/
theorem wakeUp_startEnqueue
    {self : CfpSchedulerDO}
    {state : SchedulerState}
    {index : Nat}
    {readings : Readings}
    {req : SchedulerEnqueueRequest}
    (found : state.tasks[index]? = some (.rebuilt (.enqueue req)))
    (invariant : WakeUpInvariant self state) :
    SegmentInvariant self
      { state := state.startEnqueue index readings req } := by
  have refused (err : Thrown) :
      SegmentInvariant self
        { state :=
            (state.reply (.rejected err)).setTask index .finished } :=
    invariant.goOnCalm found (.reply ..) rfl rfl invariant.sound.wellFormed
      (.refl _) (fun _ => trivial)
      (fun _ => .still rfl rfl rfl rfl)
      fun _ _ => id
  unfold SchedulerState.startEnqueue
  dsimp only
  split
  · exact refused _
  · split
    · exact refused _
    · split
      · exact refused _
      next store accepted =>
        refine invariant.goOn found (.withStore ..) rfl
          (fun presumes => by cases presumes) invariant.sound.wellFormed ?_
          (fun _ _ => trivial) ?_ (fun _ => .enqueue accepted rfl)
          fun _ _ => id
        · intro jobId row isRow leased
          rcases JobStore.row?_enqueue accepted jobId with
            same | ⟨_, _, inserted⟩
          · exact invariant.sound.owned jobId row (same ▸ isRow) leased
          · rw [SchedulerState.store_withStore, inserted] at isRow
            cases isRow
            cases leased
        · intro _ initialized uninitialized
          rw [uninitialized] at initialized
          cases initialized

/-- The caller of a rebuild goes on. -/
theorem wakeUp_afterRebuild
    {self : CfpSchedulerDO}
    {state : SchedulerState}
    {index : Nat}
    {readings : Readings}
    {caller : RebuildCaller}
    (found : state.tasks[index]? = some (.rebuilt caller))
    (invariant : WakeUpInvariant self state) :
    SegmentInvariant self (state.afterRebuild index readings caller) := by
  cases caller with
  | enqueue req =>
      exact wakeUp_startEnqueue found invariant
  | alarmStart =>
      exact invariant.goOnAlarm found (.withStore ..) rfl rfl
        invariant.sound.wellFormed
        ((JobStore.Retires.reclaimExpiredLeases ..).ownedBy
          invariant.sound.owned)
  | alarmSweep now =>
      exact invariant.goOnAlarm found (.withStore ..) rfl rfl
        invariant.sound.wellFormed
        ((JobStore.Retires.sweepExpired ..).ownedBy invariant.sound.owned)
  | alarmKick now =>
      exact invariant.goOnAlarm found (.refl _) rfl rfl
        invariant.sound.wellFormed invariant.sound.owned

/-- The outcome of an execution is stored. -/
theorem wakeUp_storeOutcome
    {self : CfpSchedulerDO}
    {state : SchedulerState}
    {index : Nat}
    {readings : Readings}
    {job : PersistedJob}
    {outcome : Except Thrown JsValue}
    (found : state.tasks[index]? = some (.settled job outcome))
    (keeps : state.Quiet → state.KeepsWakeUps (.resume index readings))
    (invariant : WakeUpInvariant self state) :
    SegmentInvariant self
      { state := self.storeOutcome state index readings job outcome } := by
  unfold CfpSchedulerDO.storeOutcome
  split
  next value =>
    split
    · exact invariant.goOnCalm found (.refl _) rfl rfl
        invariant.sound.wellFormed (.refl _) (fun _ => trivial)
        (fun _ => .ackRejected) fun _ _ => id
    · exact invariant.goOnCalm found (.withStore ..) rfl rfl
        invariant.sound.wellFormed (.ack ..) (fun _ => trivial)
        (fun _ => .ack invariant.sound.owned) fun _ _ => id
  next rawErr =>
    split
    next rejection isRejected =>
      refine invariant.goOnCalm found (.refl _) rfl rfl
        invariant.sound.wellFormed (.refl _) (fun _ => trivial)
        (fun quiet => .finish rfl (fun _ _ => rfl) (.inr ⟨rfl, ?_⟩))
        fun _ _ => id
      have kept := keeps quiet
      simp only [SchedulerState.KeepsWakeUps, found, isRejected] at kept
      exact kept.resolve_left (by simp)
    · refine invariant.goOnCalm found (.withStore ..) rfl ?_
        invariant.sound.wellFormed (.fail ..) ?_
        (fun _ => .fail invariant.sound.owned) fun _ _ => id
      · split <;> rfl
      · intro _
        split <;> trivial

/-- The `finally` callback of an execution. -/
theorem wakeUp_finishRun
    {self : CfpSchedulerDO}
    {state : SchedulerState}
    {index : Nat}
    {job : PersistedJob}
    (found : state.tasks[index]? = some (.finishing job))
    (invariant : WakeUpInvariant self state) :
    SegmentInvariant self (state.finishRun index job) := by
  unfold SchedulerState.finishRun
  refine invariant.goOnCalm found ?_ rfl rfl ?_ (.refl _) (fun _ => trivial)
    (fun _ => .finishRun) ?_
  · exact ⟨rfl, rfl, rfl, rfl, rfl, rfl⟩
  · exact invariant.sound.wellFormed.congr rfl rfl
  · intro quiet stays _ idle someReady
    have capacity := (invariant.awake quiet).capacity.1
    split at stays
    · cases stays
    next noSlot =>
      simp only [Dispatcher.hasSlot, Bool.and_eq_true, decide_eq_true_eq,
        not_and] at noSlot
      have full := noSlot someReady
      simp only [SchedulerState.dispatcher_withDispatcher] at idle ⊢
      omega

/-- A failed execution queues its job again and is about to set the alarm. -/
theorem wakeUp_scheduleRetry
    {self : CfpSchedulerDO}
    {state : SchedulerState}
    {index : Nat}
    {now : Int}
    {job : PersistedJob}
    (invariant : WakeUpInvariant self state) :
    SegmentInvariant self (state.scheduleRetry index now job) := by
  let write := SchedulerTask.writeAlarm state.alarm (now + retryDelayMs job)
  have written
      {next : SchedulerState}
      {entry : LoopEntry}
      (wellFormed : next.dispatcher.WellFormed)
      (sameStore : next.store = state.store)
      (sameAlarm : next.alarmPending = state.alarmPending)
      (writes : write ∈ next.tasks)
      (tasks :
        ∀ task ∈ next.tasks,
          task ∈ state.tasks ∨ task = write ∨
            task.presumesAlarm = false) :
      SegmentInvariant self { state := next, entry := entry } := by
    have noisy : ¬ next.Quiet := by
      intro quiet
      cases quiet.2 write writes
    refine {
      sound := ?_
      awake := fun quiet => absurd quiet noisy
      kicked := fun quiet => absurd quiet noisy
    }
    refine invariant.sound.step wellFormed ?_ sameAlarm.trans ?_
    · rw [sameStore]
      exact invariant.sound.owned
    · intro task member
      rcases tasks task member with before | rfl | silent
      · exact .inl before
      · refine .inr fun hasRead => ?_
        rw [sameAlarm, SchedulerState.alarmPending,
          show state.alarm.isSome = true from hasRead]
        rfl
      · refine .inr fun presumes => ?_
        rw [silent] at presumes
        cases presumes
  have wasThere
      {task : SchedulerTask}
      (member : task ∈ (state.setTask index (.finishing job)).tasks) :
      task ∈ state.tasks ∨ task = write ∨ task.presumesAlarm = false := by
    rcases List.mem_or_eq_of_mem_set member with before | rfl
    · exact .inl before
    · exact .inr (.inr rfl)
  unfold SchedulerState.scheduleRetry
  dsimp only
  split
  · refine written (invariant.sound.wellFormed.enqueueReady _) rfl rfl
      (List.mem_append_right _ (List.mem_singleton.mpr rfl)) ?_
    intro task member
    rcases List.mem_append.mp member with before | isWrite
    · exact wasThere before
    · exact .inr (.inl (List.mem_singleton.mp isWrite))
  · refine written invariant.sound.wellFormed rfl rfl
      (List.mem_append_left _
        (List.mem_append_right _ (List.mem_singleton.mpr rfl))) ?_
    intro task member
    rcases List.mem_append.mp member with before | isTimer
    · rcases List.mem_append.mp before with before | isWrite
      · exact wasThere before
      · exact .inr (.inl (List.mem_singleton.mp isWrite))
    · rw [List.mem_singleton.mp isTimer]
      exact .inr (.inr rfl)

/-- The alarm that an execution asked for is stored, or was there. -/
theorem wakeUp_writeAlarm
    {self : CfpSchedulerDO}
    {state : SchedulerState}
    {index : Nat}
    {existing : Option Int}
    {wakeAt : Int}
    (found : state.tasks[index]? = some (.writeAlarm existing wakeAt))
    (invariant : WakeUpInvariant self state) :
    SegmentInvariant self
      { state :=
          (state.withAlarm
            (if existing.any fun time => time ≠ 0 && time ≤ wakeAt then
              state.alarm
            else
              some wakeAt) state.delivering).setTask index .finished } := by
  have pending :
      ((state.withAlarm
          (if existing.any fun time => time ≠ 0 && time ≤ wakeAt then
            state.alarm
          else
            some wakeAt) state.delivering).setTask
        index .finished).alarmPending := by
    split
    next kept =>
      obtain ⟨time, isTime, -⟩ := Option.any_eq_true _ _ |>.mp kept
      exact invariant.sound.presumed _ (List.mem_of_getElem? found)
        (by rw [isTime]; rfl)
    next =>
      rfl
  have noisy :
      ¬ ((state.withAlarm
          (if existing.any fun time => time ≠ 0 && time ≤ wakeAt then
            state.alarm
          else
            some wakeAt) state.delivering).setTask
        index .finished).Quiet := by
    intro quiet
    rw [quiet.1] at pending
    cases pending
  refine {
    sound := ?_
    awake := fun quiet => absurd quiet noisy
    kicked := fun quiet => absurd quiet noisy
  }
  refine invariant.sound.step invariant.sound.wellFormed
    invariant.sound.owned (fun _ => pending) ?_
  intro task member
  exact (List.mem_or_eq_of_mem_set member).imp_right fun _ _ => pending

/-- The jobs that a rebuild has read are put into the buckets. -/
theorem wakeUp_rebuild
    {self : CfpSchedulerDO}
    {state : SchedulerState}
    {index : Nat}
    {queued : List PersistedJob}
    {caller : RebuildCaller}
    (found : state.tasks[index]? = some (.rebuild queued caller))
    (invariant : WakeUpInvariant self state) :
    SegmentInvariant self
      { state :=
          (state.withDispatcher
            (queued.foldl Dispatcher.enqueueReady state.dispatcher)).setTask
              index (.rebuilt caller) } := by
  have noJobs (quiet : state.Quiet) : queued = [] :=
    ((invariant.awake quiet).calm _ (List.mem_of_getElem? found)).1
  refine invariant.goOn found
    (.withDispatcher _ (Dispatcher.sameButReady_foldl ..)) rfl
    (fun presumes =>
      invariant.sound.presumed _ (List.mem_of_getElem? found) presumes)
    (invariant.sound.wellFormed.foldl queued) invariant.sound.owned
    (fun _ calm => calm.2) (fun _ _ _ none => none) ?_ ?_
  · intro _
    refine .neutral rfl rfl (fun _ => .inr rfl) (fun jobId _ ready => ?_)
      (Dispatcher.sameButReady_foldl ..).running
    obtain ⟨job, isJob, sameId⟩ := Dispatcher.isReady_iff.mp ready
    exact Dispatcher.isReady_iff.mpr
      ⟨job, Dispatcher.mem_readyJobs_foldl.mpr (.inl isJob), sameId⟩
  · intro quiet _ kicked
    rw [noJobs quiet]
    exact kicked

/-- A job that was cancelled leaves the buckets. -/
theorem wakeUp_cancelled
    {self : CfpSchedulerDO}
    {state : SchedulerState}
    {index : Nat}
    {jobId : String}
    (found : state.tasks[index]? = some (.cancelDone jobId true))
    (invariant : WakeUpInvariant self state) :
    SegmentInvariant self
      { state :=
          ((state.withDispatcher
            (state.dispatcher.dropFromReady jobId)).reply
              (.cancelled true)).setTask index .finished } := by
  refine invariant.goOnCalm found
    ((SameShell.withDispatcher _
      (Dispatcher.sameButReady_dropFromReady ..)).trans (.reply ..))
    rfl rfl (invariant.sound.wellFormed.dropFromReady jobId) (.refl _)
    (fun _ => trivial) (fun _ => .dropFromReady) ?_
  intro _ _ kicked idle someReady
  have same := Dispatcher.sameButReady_dropFromReady state.dispatcher jobId
  obtain ⟨job, ready⟩ := Dispatcher.totalReady_pos_iff.mp someReady
  have running :=
    kicked (same.loop.symm.trans idle)
      (Dispatcher.totalReady_pos_iff.mpr
        ⟨job, Dispatcher.readyJobs_of_dropFromReady ready⟩)
  unfold Dispatcher.runningCount at running ⊢
  rw [← same.running] at running
  exact running

/-- The buckets of a tenant are cleared when its jobs are cancelled. -/
theorem wakeUp_tenantCleared
    {self : CfpSchedulerDO}
    {state : SchedulerState}
    {index : Nat}
    {tenantId : String}
    {reason : Option String}
    {count : Nat}
    (found :
      state.tasks[index]? = some (.cancelTenant tenantId reason [] count))
    (noneQueued :
      state.Quiet →
      ∀ job ∈ (OrderedMap.lookup state.dispatcher.ready tenantId).getD [],
        state.store.status job.id ≠ some .queued)
    (invariant : WakeUpInvariant self state) :
    SegmentInvariant self
      { state :=
          ((state.withDispatcher
            (state.dispatcher.clearTenant tenantId)).reply
              (.cancelledByTenant count)).setTask index .finished } := by
  refine invariant.goOnCalm found
    ((SameShell.withDispatcher _
      (Dispatcher.sameButReady_removeTenant _ tenantId)).trans (.reply ..))
    rfl rfl (invariant.sound.wellFormed.removeTenant tenantId) (.refl _)
    (fun _ => trivial) ?_ ?_
  · intro quiet
    refine .neutral rfl rfl (fun _ => .inr rfl) ?_ rfl
    intro jobId isQueued ready
    obtain ⟨job, isJob, rfl⟩ := Dispatcher.isReady_iff.mp ready
    refine Dispatcher.isReady_iff.mpr ⟨job, ?_, rfl⟩
    rw [Dispatcher.mem_readyJobs_split _ tenantId] at isJob
    rcases isJob with inBucket | elsewhere
    · exact absurd isQueued (noneQueued quiet job inBucket)
    · exact Dispatcher.mem_readyJobs_removeTenant.mpr elsewhere
  · intro _ _ kicked idle someReady
    obtain ⟨job, ready⟩ := Dispatcher.totalReady_pos_iff.mp someReady
    refine kicked idle (Dispatcher.totalReady_pos_iff.mpr ⟨job, ?_⟩)
    rw [Dispatcher.mem_readyJobs_split _ tenantId]
    exact .inr (Dispatcher.mem_readyJobs_removeTenant.mp ready)

/-- One more job of a tenant is cancelled. -/
theorem wakeUp_tenantCancels
    {self : CfpSchedulerDO}
    {state : SchedulerState}
    {index : Nat}
    {now : Int}
    {tenantId : String}
    {reason : Option String}
    {job : PersistedJob}
    {rest : List PersistedJob}
    {count after : Nat}
    (found :
      state.tasks[index]? =
        some (.cancelTenant tenantId reason (job :: rest) count))
    (invariant : WakeUpInvariant self state) :
    SegmentInvariant self
      { state :=
          (state.withStore (state.store.cancel now job.id reason).1).setTask
            index (.cancelTenant tenantId reason rest after) } := by
  refine invariant.goOnCalm found (.withStore ..) rfl rfl
    invariant.sound.wellFormed (.cancel ..) (fun _ => trivial) ?_
    fun _ _ => id
  refine fun _ => .neutral rfl rfl (fun jobId => ?_) (fun _ _ => id) rfl
  by_cases isJob : jobId = job.id
  · subst isJob
    rcases JobStore.status_cancel state.store now job.id reason with
      cancelled | ⟨_, same⟩
    · exact .inl ⟨.cancelled, cancelled, rfl⟩
    · exact .inr same
  · exact .inr (JobStore.status_of_map (JobStore.row?_cancel ..) isJob)

/-- A suspended task goes on. -/
theorem wakeUp_resumeTask
    {self : CfpSchedulerDO}
    {state : SchedulerState}
    {index : Nat}
    {readings : Readings}
    {task : SchedulerTask}
    {segment : Segment}
    (found : state.tasks[index]? = some task)
    (resumed : self.resumeTask state index readings task = some segment)
    (keeps : state.Quiet → state.KeepsWakeUps (.resume index readings))
    (invariant : WakeUpInvariant self state) :
    SegmentInvariant self segment := by
  have wellFormed := invariant.sound.wellFormed
  cases task with
  | rebuild queued caller =>
      cases resumed
      exact wakeUp_rebuild found invariant
  | rebuilt caller =>
      cases resumed
      exact wakeUp_afterRebuild found invariant
  | enqueueStored job =>
      cases resumed
      exact invariant.goOnCalm found
        (.withDispatcher _ (Dispatcher.sameButReady_enqueueReady ..)) rfl rfl
        (wellFormed.enqueueReady job) (.refl _) (fun _ => trivial)
        (fun _ => .enqueueReady (.inl rfl) rfl) fun _ wrong => by cases wrong
  | enqueueReturn id =>
      cases resumed
      exact invariant.goOnCalm found (.reply ..) rfl rfl wellFormed (.refl _)
        (fun _ => trivial) (fun _ => .still rfl rfl rfl rfl)
        fun _ _ kicked => kicked
  | cancelDone jobId ok =>
      cases resumed
      cases ok with
      | false =>
          exact invariant.goOnCalm found (.reply ..) rfl rfl wellFormed
            (.refl _) (fun _ => trivial) (fun _ => .still rfl rfl rfl rfl)
            fun _ _ => id
      | true =>
          exact wakeUp_cancelled found invariant
  | cancelTenant tenantId reason active count =>
      cases active with
      | nil =>
          cases resumed
          refine wakeUp_tenantCleared found (fun quiet => ?_) invariant
          have kept := keeps quiet
          simp only [SchedulerState.KeepsWakeUps, found] at kept
          exact kept
      | cons job rest =>
          cases resumed
          exact wakeUp_tenantCancels found invariant
  | alarmReclaimed now reclaimed =>
      simp only [CfpSchedulerDO.resumeTask] at resumed
      split at resumed
      · cases resumed
        exact invariant.goOnAlarm found
          (.withDispatcher _ ⟨rfl, rfl, rfl⟩) rfl rfl (.clearReady _)
          invariant.sound.owned
      · cases resumed
        exact invariant.goOnAlarm found (.withStore ..) rfl rfl wellFormed
          ((JobStore.Retires.sweepExpired ..).ownedBy invariant.sound.owned)
  | alarmSwept now =>
      cases resumed
      unfold SchedulerState.backstop
      split
      · exact invariant.goOnAlarm found (.refl _) rfl rfl wellFormed
          invariant.sound.owned
      · exact invariant.goOnAlarm found
          (.withDispatcher _ ⟨rfl, rfl, rfl⟩) rfl rfl (.clearReady _)
          invariant.sound.owned
  | writeAlarm existing wakeAt =>
      cases resumed
      exact wakeUp_writeAlarm found invariant
  | running job call =>
      cases resumed
  | settled job outcome =>
      cases resumed
      exact wakeUp_storeOutcome found keeps invariant
  | requeueing job =>
      cases resumed
      exact wakeUp_scheduleRetry invariant
  | finishing job =>
      cases resumed
      exact wakeUp_finishRun found invariant
  | retryTimer job wakeAt =>
      simp only [CfpSchedulerDO.resumeTask] at resumed
      split at resumed
      · cases resumed
        exact invariant.goOnCalm found
          (.withDispatcher _ (Dispatcher.sameButReady_enqueueReady ..)) rfl
          rfl (wellFormed.enqueueReady job) (.refl _) (fun _ => trivial)
          (fun _ => .enqueueReady (.inr ⟨wakeAt, rfl⟩) rfl)
          fun _ wrong => by cases wrong
      · cases resumed
  | finished =>
      cases resumed

end CloudflareParallel
