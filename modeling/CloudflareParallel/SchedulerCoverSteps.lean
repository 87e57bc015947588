import CloudflareParallel.SchedulerWakeUpInvariant

namespace CloudflareParallel

open KeyedTables

/-!
# What a task's own changes do for a job

One lemma for each kind of change that a suspended task makes when it goes on:
the places of every job are kept, or the job has come to its end.
-/

namespace CoverStep

variable {state base : SchedulerState} {old new : SchedulerTask}

/-- Neither task has to do with a job, and the job keeps its places. -/
theorem neutral
    (oldNeutral : old.isNeutral)
    (newNeutral : new.isNeutral)
    (status :
      ∀ jobId,
        Ended (base.store.status jobId) ∨
          base.store.status jobId = state.store.status jobId)
    (ready :
      ∀ jobId,
        state.store.status jobId = some .queued →
        state.dispatcher.isReady jobId →
        base.dispatcher.isReady jobId)
    (running : base.dispatcher.running = state.dispatcher.running) :
    CoverStep state base old new := by
  intro jobId others covered
  rw [roles_of_isNeutral oldNeutral, JobRoles.none_or] at covered
  rw [roles_of_isNeutral newNeutral, JobRoles.none_or, running]
  rcases status jobId with isEnded | same
  · exact .ended isEnded
  · rw [same]
    exact covered.keep (fun isQueued => Or.imp_left (ready jobId isQueued))
      (fun _ => id) id id .inl .inl

/-- Neither task has to do with a job, and nothing else changes. -/
theorem still
    (oldNeutral : old.isNeutral)
    (newNeutral : new.isNeutral)
    (store : base.store = state.store)
    (dispatcher : base.dispatcher = state.dispatcher) :
    CoverStep state base old new := by
  refine .neutral oldNeutral newNeutral ?_ ?_ ?_
  · exact fun _ => .inr (by rw [store])
  · exact fun _ _ ready => dispatcher ▸ ready
  · rw [dispatcher]

/-- A job is accepted by the store. -/
theorem enqueue
    {store : JobStore}
    {now : Int}
    {job : PersistedJob}
    (accepted : state.store.enqueue now job = .ok store)
    (oldNeutral : old.isNeutral) :
    CoverStep state (state.withStore store) old (.enqueueStored job) := by
  intro jobId others covered
  rw [roles_of_isNeutral oldNeutral, JobRoles.none_or] at covered
  rcases JobStore.row?_enqueue accepted jobId with
    same | ⟨isJob, absent, inserted⟩
  · have sameStatus := JobStore.status_of_row? same
    rw [← JobRoles.none_or others] at covered
    rw [SchedulerState.store_withStore, sameStatus]
    exact covered.goOn (fun _ => id) (fun _ wrong => wrong.elim)
      (fun _ => .inl) (fun wrong => wrong.elim)
      (fun opened => by cases opened) (fun finishes => by cases finishes)
      (fun drops => by cases drops)
  · have before : state.store.status jobId = none := by
      rw [JobStore.status, absent]
      rfl
    have after : store.status jobId = some .queued := by
      rw [JobStore.status, inserted]
      rfl
    rw [before] at covered
    rw [SchedulerState.store_withStore, after]
    refine covered.insert (.inl ?_) .inr ?_ ?_ ?_
    · simp [SchedulerTask.roles, SchedulerTask.wakes, isJob]
    · rintro (opened | opened)
      · cases opened
      · exact opened
    · rintro (finishes | finishes)
      · cases finishes
      · exact finishes
    · rintro (drops | drops)
      · cases drops
      · exact drops

/-- A task that holds a job puts it into the ready set. -/
theorem enqueueReady
    {job : PersistedJob}
    (holdsJob : old = .enqueueStored job ∨ ∃ time, old = .retryTimer job time)
    (newNeutral : new.isNeutral) :
    CoverStep state
      (state.withDispatcher (state.dispatcher.enqueueReady job)) old new := by
  intro jobId others covered
  rw [roles_of_isNeutral newNeutral, SchedulerState.store_withDispatcher,
    SchedulerState.dispatcher_withDispatcher,
    (Dispatcher.sameButReady_enqueueReady ..).running]
  have wakes : (old.roles jobId).waking → job.id = jobId := by
    rcases holdsJob with rfl | ⟨time, rfl⟩ <;>
      simp [SchedulerTask.roles, SchedulerTask.wakes]
  have notRequeued : ¬ (old.roles jobId).requeued := by
    rcases holdsJob with rfl | ⟨time, rfl⟩ <;>
      simp [SchedulerTask.roles, SchedulerTask.requeues]
  exact covered.goOn
    (fun _ ready => Dispatcher.isReady_enqueueReady.mpr (.inl ready))
    (fun _ waking =>
      .inl (Dispatcher.isReady_enqueueReady.mpr (.inr (wakes waking))))
    (fun _ => .inl) (fun again => absurd again notRequeued)
    False.elim False.elim False.elim

/-- A cancelled job is dropped from the ready set. -/
theorem dropFromReady
    {cancelledId : String} :
    CoverStep state
      (state.withDispatcher (state.dispatcher.dropFromReady cancelledId))
      (.cancelDone cancelledId true) .finished := by
  intro jobId others covered
  have neutral : SchedulerTask.finished.isNeutral := rfl
  rw [roles_of_isNeutral neutral, SchedulerState.store_withDispatcher,
    SchedulerState.dispatcher_withDispatcher,
    (Dispatcher.sameButReady_dropFromReady ..).running]
  refine covered.goOn (fun isQueued ready => ?_)
    (fun _ waking => by cases waking) (fun _ => .inl)
    (fun again => by cases again) False.elim False.elim False.elim
  apply Dispatcher.isReady_dropFromReady ready
  rintro rfl
  obtain ⟨final, same, terminal⟩ :=
    covered.dropping (.inl (by simp [SchedulerTask.roles, SchedulerTask.drops]))
  rw [isQueued] at same
  cases same
  cases terminal

/-- An execution comes to its end, and its job is not left leased. -/
theorem finish
    {job : PersistedJob}
    {outcome : Except Thrown JsValue}
    (sameDispatcher : base.dispatcher = state.dispatcher)
    (others :
      ∀ jobId,
        jobId ≠ job.id →
        base.store.status jobId = state.store.status jobId)
    (itself :
      Ended (base.store.status job.id) ∨
        (base.store.status job.id = state.store.status job.id ∧
          state.store.status job.id ≠ some .leased)) :
    CoverStep state base (.settled job outcome) (.finishing job) := by
  intro jobId rest covered
  rw [sameDispatcher]
  by_cases isJob : jobId = job.id
  · subst isJob
    rcases itself with isEnded | ⟨same, notLeased⟩
    · exact .ended isEnded
    · have isOpen :
          ((SchedulerTask.settled job outcome).roles job.id).opened := by
        simp [SchedulerTask.roles, SchedulerTask.isOpen]
      have fate := (covered.opened (.inl (.inl isOpen))).resolve_left notLeased
      rw [same]
      refine covered.goOn (fun _ => id) (fun _ waking => by cases waking)
        (fun _ => .inl) (fun again => by cases again)
        (fun opened => by cases opened) (fun _ => ?_)
        (fun drops => by cases drops)
      rcases fate with isEnded | wrong | again
      · exact .inr (.inl isEnded)
      · cases wrong
      · exact .inr (.inr (.inr again))
  · rw [others jobId isJob]
    refine covered.goOn (fun _ => id) (fun _ waking => by cases waking)
      (fun _ => .inl) (fun again => by cases again)
      (fun opened => by cases opened) (fun finishes => ?_)
      (fun drops => by cases drops)
    simp [SchedulerTask.roles, SchedulerTask.finishes, Ne.symm isJob]
      at finishes

/-- The value of an execution is acked. -/
theorem ack
    {leaseOwner : String}
    (owned : state.store.OwnedBy leaseOwner)
    {now resultExpiresMs : Int}
    {job : PersistedJob}
    {outcome : Except Thrown JsValue}
    {value : JsValue} :
    CoverStep state
      (state.withStore
        (state.store.ack now job.id leaseOwner value resultExpiresMs).1)
      (.settled job outcome) (.finishing job) := by
  refine finish (SchedulerState.dispatcher_withStore ..) ?_ ?_
  · intro jobId different
    exact JobStore.status_of_map (JobStore.row?_ack ..) different
  · exact
      (JobStore.status_ack owned now job.id value resultExpiresMs).imp_left
        fun done => ⟨.done, done, rfl⟩

/-- The failure of an execution is stored. -/
theorem fail
    {leaseOwner : String}
    (owned : state.store.OwnedBy leaseOwner)
    {now : Int}
    {job : PersistedJob}
    {outcome : Except Thrown JsValue}
    {error : ErrorRecord} :
    CoverStep state
      (state.withStore (state.store.fail now job.id leaseOwner error).1)
      (.settled job outcome)
      (if (state.store.fail now job.id leaseOwner error).2 = .queued then
        .requeueing job
      else
        .finishing job) := by
  have others (jobId : String) (different : jobId ≠ job.id) :
      (state.store.fail now job.id leaseOwner error).1.status jobId =
        state.store.status jobId :=
    JobStore.status_of_map (JobStore.row?_fail ..) different
  have outcomes := JobStore.status_fail owned now job.id error
  dsimp only at outcomes
  split
  next queuedAgain =>
    intro jobId rest covered
    rw [SchedulerState.store_withStore]
    by_cases isJob : jobId = job.id
    · subst isJob
      rcases outcomes with ⟨wasLeased, status, _⟩ | ⟨wrong, _, _⟩
      · rw [status, queuedAgain]
        refine covered.requeue wasLeased ⟨.inl ?_, .inl ?_⟩ ?_
        · simp [SchedulerTask.roles, SchedulerTask.wakes]
        · simp [SchedulerTask.roles, SchedulerTask.requeues]
        · rintro (drops | drops)
          · cases drops
          · exact .inr drops
      · rw [queuedAgain] at wrong
        cases wrong
    · rw [others jobId isJob]
      refine covered.goOn (fun _ => id) (fun _ waking => by cases waking)
        (fun _ => .inl) (fun again => by cases again)
        (fun opened => by cases opened) (fun finishes => by cases finishes)
        (fun drops => by cases drops)
  next notQueued =>
    refine finish (SchedulerState.dispatcher_withStore ..) others ?_
    rcases outcomes with ⟨_, status, result⟩ | ⟨_, same, notLeased⟩
    · have isFailed := result.resolve_right notQueued
      exact .inl ⟨.failed, by rw [← isFailed]; exact status, rfl⟩
    · exact .inr ⟨same, notLeased⟩

/-- The `finally` callback takes a job out of the running map. -/
theorem finishRun
    {job : PersistedJob} :
    CoverStep state
      (state.withDispatcher
        { state.dispatcher with
          running := OrderedMap.delete state.dispatcher.running job.id })
      (.finishing job) .finished := by
  intro jobId others covered
  have neutral : SchedulerTask.finished.isNeutral := rfl
  rw [roles_of_isNeutral neutral, SchedulerState.store_withDispatcher,
    SchedulerState.dispatcher_withDispatcher, OrderedMap.mem_keys_delete]
  refine covered.goOn (fun _ => id) (fun _ waking => by cases waking) ?_
    (fun again => by cases again) False.elim False.elim False.elim
  intro isLeased running
  by_cases isJob : jobId = job.id
  · have finishes :
        ((SchedulerTask.finishing job).roles jobId).finishing := by
      simp [SchedulerTask.roles, SchedulerTask.finishes, isJob]
    rcases covered.finishing (.inl finishes) with
      ⟨final, same, terminal⟩ | wrong | again
    · rw [isLeased] at same
      cases same
      cases terminal
    · cases wrong
    · exact .inr (.inr again)
  · exact .inl ⟨isJob, running⟩

/-- A job is cancelled, and the task that will drop it is added. -/
theorem cancel
    {now : Int}
    {cancelledId : String}
    {reason : Option String} :
    CoverStep state
      (state.withStore (state.store.cancel now cancelledId reason).1)
      .finished
      (.cancelDone cancelledId
        (state.store.cancel now cancelledId reason).2) := by
  intro jobId others covered
  have neutral : SchedulerTask.finished.isNeutral := rfl
  rw [roles_of_isNeutral neutral] at covered
  rw [SchedulerState.store_withStore]
  by_cases isJob : jobId = cancelledId
  · subst isJob
    rcases JobStore.status_cancel state.store now jobId reason with
      cancelled | ⟨refused, same⟩
    · rw [cancelled]
      exact .ended ⟨.cancelled, rfl, rfl⟩
    · rw [same, refused, roles_of_isNeutral rfl]
      exact covered
  · rw [JobStore.status_of_map (JobStore.row?_cancel ..) isJob]
    refine covered.goOn (fun _ => id) (fun _ wrong => wrong.elim)
      (fun _ => .inl) (fun wrong => wrong.elim)
      (fun opened => by cases opened) (fun finishes => by cases finishes)
      (fun drops => ?_)
    simp [SchedulerTask.roles, SchedulerTask.drops, Ne.symm isJob] at drops

/-- The run of an execution settles. -/
theorem settle
    {job : PersistedJob}
    {call : RunnerCall}
    {outcome : Except Thrown JsValue} :
    CoverStep state state (.running job call) (.settled job outcome) :=
  fun _ _ covered => covered

/-- The `ack` of an execution is rejected. -/
theorem ackRejected
    {job : PersistedJob}
    {outcome other : Except Thrown JsValue} :
    CoverStep state state (.settled job outcome) (.settled job other) :=
  fun _ _ covered => covered

end CoverStep

/-- Some active job's status, from a store with no active job. -/
theorem SchedulerState.NoneActive.status
    {state : SchedulerState}
    (none : state.NoneActive)
    {jobId : String}
    {status : JobStatus}
    (isStatus : state.store.status jobId = some status) :
    status.isActive = false := by
  obtain ⟨row, found, rfl⟩ := Option.map_eq_some_iff.mp isStatus
  exact none row (JobStore.mem_of_row? found)

end CloudflareParallel
