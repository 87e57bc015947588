import CloudflareParallel.SchedulerMoves

namespace CloudflareParallel

open KeyedTables LabelledRuns

/-!
# The id that `enqueue` returns

The store takes a uniqueness error for a repeated submission, but nothing tells
the caller which job it repeats: `enqueue` answers with the id that it was
given.  That id names the right job exactly if the idempotency key and the id
are both new or are stored together.
-/

namespace JobStore

/-- The row that has an idempotency key. -/
def rowOfKey?
    (store : JobStore)
    (idempotencyKey : Option String) : Option JobsRow :=
  idempotencyKey.bind fun key =>
    store.jobs.rows.find? fun row => row.idempotencyKey = some key

/--
The job's id names the job that an accepted `enqueue` was for: the earlier one
with its idempotency key, or else the job itself, newly inserted.
-/
def NamesJob
    (store next : JobStore)
    (job : PersistedJob) : Prop :=
  match store.rowOfKey? job.idempotencyKey with
  | some earlier => earlier.id = job.id
  | none => next.row? job.id = some (insertedRow job)

/-- The key of the job is stored under its id, or neither is stored. -/
def KnownTogether
    (store : JobStore)
    (job : PersistedJob) : Prop :=
  match store.rowOfKey? job.idempotencyKey with
  | some earlier => earlier.id = job.id
  | none => store.row? job.id = none

instance
    (store : JobStore)
    (job : PersistedJob) : Decidable (store.KnownTogether job) := by
  unfold KnownTogether
  split <;> infer_instance

/-- A row that is found by its key is in the table. -/
theorem mem_of_rowOfKey?
    {store : JobStore}
    {idempotencyKey : Option String}
    {row : JobsRow}
    (found : store.rowOfKey? idempotencyKey = some row) :
    row ∈ store.jobs.rows := by
  obtain ⟨key, -, isRow⟩ := Option.bind_eq_some_iff.mp found
  exact List.mem_of_find?_eq_some isRow

/-- A key is taken exactly if some row is found by it. -/
theorem keyIsTaken_eq_isSome
    (store : JobStore)
    (idempotencyKey : Option String) :
    store.keyIsTaken idempotencyKey =
      (store.rowOfKey? idempotencyKey).isSome := by
  cases idempotencyKey with
  | none =>
      rfl
  | some key =>
      rw [rowOfKey?, Option.bind_some, keyIsTaken, Bool.eq_iff_iff,
        List.find?_isSome, List.any_eq_true]

/-- An accepted job is stored or names a row that was there. -/
theorem isSome_row?_of_accepted
    {store next : JobStore}
    {now : Int}
    {job : PersistedJob}
    (accepted : store.enqueue now job = .ok next)
    (known : store.KnownTogether job) :
    (next.row? job.id).isSome := by
  rcases row?_enqueue accepted job.id with same | ⟨-, -, inserted⟩
  · rw [same]
    unfold KnownTogether at known
    split at known
    next earlier found =>
      rw [← known, row?_of_mem (mem_of_rowOfKey? found)]
      rfl
    next unknown =>
      -- with a new id and a new key the job is inserted
      have fresh : job.id ∉ store.jobs.rows.map JobsRow.id :=
        store.jobs.get?_eq_none_iff.mp known
      have keyFresh : store.keyIsTaken job.idempotencyKey = false := by
        rw [keyIsTaken_eq_isSome, unknown]
        rfl
      unfold enqueue at accepted
      rw [dif_neg fresh, if_neg (by simp [keyFresh])] at accepted
      cases accepted
      rw [row?_emit, row?, KeyedTable.get?_insert, if_pos (id_insertedRow job)]
        at same
      rw [known] at same
      cases same
  · rw [inserted]
    rfl

/-- An accepted job's id names the right job exactly under the condition. -/
theorem namesJob_iff
    {store next : JobStore}
    {now : Int}
    {job : PersistedJob}
    (accepted : store.enqueue now job = .ok next) :
    store.NamesJob next job ↔ store.KnownTogether job := by
  unfold NamesJob KnownTogether
  cases key : store.rowOfKey? job.idempotencyKey with
  | some earlier =>
      exact Iff.rfl
  | none =>
      have keyFresh : store.keyIsTaken job.idempotencyKey = false := by
        rw [keyIsTaken_eq_isSome, key]
        rfl
      dsimp only
      constructor
      · intro inserted
        rcases row?_enqueue accepted job.id with same | ⟨-, absent, -⟩
        · cases found : store.row? job.id with
          | none =>
              rfl
          | some row =>
              -- the row that is there would have the key
              rw [inserted, found] at same
              have taken : job.id ∈ store.jobs.rows.map JobsRow.id :=
                List.mem_map.mpr
                  ⟨row, mem_of_row? found, id_of_row? found⟩
              unfold enqueue at accepted
              rw [dif_pos taken] at accepted
              split at accepted
              next swallows =>
                have isRow : insertedRow job = row := Option.some.inj same
                have hasKey : store.keyIsTaken job.idempotencyKey := by
                  unfold swallowsUnique at swallows
                  split at swallows
                  · cases swallows
                  next someKey isKey =>
                    rw [isKey]
                    refine List.any_eq_true.mpr
                      ⟨row, mem_of_row? found, decide_eq_true ?_⟩
                    rw [← isRow]
                    exact isKey
                rw [keyFresh] at hasKey
                cases hasKey
              next =>
                cases accepted
        · exact absent
      · intro absent
        have fresh : job.id ∉ store.jobs.rows.map JobsRow.id :=
          store.jobs.get?_eq_none_iff.mp absent
        unfold enqueue at accepted
        rw [dif_neg fresh, if_neg (by simp [keyFresh])] at accepted
        cases accepted
        rw [row?_emit, row?, KeyedTable.get?_insert,
          if_pos (id_insertedRow job)]

/-- Every call but a sweep of the row keeps a row. -/
theorem isSome_row?_invoke
    {store : JobStore}
    {call : JobStoreCall}
    {jobId : String}
    (stored : (store.row? jobId).isSome)
    (unswept :
      ∀ now,
        call = .sweepExpired now →
        ∀ row ∈ store.row? jobId, ¬ row.isSweepable now) :
    ((store.invoke call).1.row? jobId).isSome := by
  obtain ⟨row, found⟩ := Option.isSome_iff_exists.mp stored
  have moved := store.row?_invoke call jobId
  rw [found] at moved
  cases gone : (store.invoke call).1.row? jobId with
  | some new =>
      rfl
  | none =>
      rw [gone] at moved
      cases moved with
      | sweep sweepable =>
          exact absurd sweepable (unswept _ rfl row found)

end JobStore

/-! ## Handles that are on their way to a caller -/

/-- The id that an accepted `enqueue` is about to return. -/
def SchedulerTask.handle? : SchedulerTask → Option String
  | .enqueueStored job => some job.id
  | .enqueueReturn id => some id
  | _ => none

/--
The condition on a store call: an accepted job's key and id are known together,
and a sweep deletes no job whose id is about to be returned.
-/
def JobStoreCall.KeepsHandles
    (state : SchedulerState) : JobStoreCall → Prop
  | .enqueue now job =>
      (state.store.enqueue now job).isOk → state.store.KnownTogether job
  | .sweepExpired now =>
      ∀ task ∈ state.tasks,
        ∀ id ∈ task.handle?,
          ∀ row ∈ state.store.row? id, ¬ row.isSweepable now
  | _ => True

instance
    (state : SchedulerState)
    (call : JobStoreCall) : Decidable (call.KeepsHandles state) := by
  unfold JobStoreCall.KeepsHandles
  split <;> infer_instance

/-- The condition on a step: its store call keeps the handles. -/
def HandlesKept
    (scheduler : CfpSchedulerDO)
    (state : SchedulerState)
    (event : SchedulerEvent) : Prop :=
  ∀ call ∈ scheduler.segmentCalls state event, call.KeepsHandles state

instance
    (scheduler : CfpSchedulerDO)
    (state : SchedulerState)
    (event : SchedulerEvent) : Decidable (HandlesKept scheduler state event) :=
  inferInstanceAs (Decidable (∀ call ∈ _, _))

/--
What a step does to handles: an accepted job's id names the right job, and an
id that is returned names a stored job.
-/
structure NamesRealJobs
    (scheduler : CfpSchedulerDO)
    (state : SchedulerState)
    (event : SchedulerEvent)
    (next : SchedulerState) : Prop where
  accepted :
    ∀ now job stored,
      .enqueue now job ∈ scheduler.segmentCalls state event →
      state.store.enqueue now job = .ok stored →
      state.store.NamesJob stored job
  returned :
    ∀ id queueDepth,
      next.replies = state.replies ++ [.enqueued id queueDepth] →
      (next.store.row? id).isSome

/-- Every handle that is on its way names a stored job. -/
def HandlesStored (state : SchedulerState) : Prop :=
  ∀ task ∈ state.tasks, ∀ id ∈ task.handle?, (state.store.row? id).isSome

/-- A handle that is on its way was so before, or its job was just accepted. -/
theorem handle_of_moves
    {self : CfpSchedulerDO}
    {state : SchedulerState}
    {event : SchedulerEvent}
    {tasks : List SchedulerTask}
    {dispatcher : Dispatcher}
    (moves : self.Moves state event tasks dispatcher)
    {task : SchedulerTask}
    (member : task ∈ tasks)
    {id : String}
    (handle : id ∈ task.handle?) :
    (∃ old ∈ state.tasks, id ∈ old.handle?) ∨
      ∃ now job,
        .enqueue now job ∈ self.segmentCalls state event ∧
          (state.store.enqueue now job).isOk ∧ job.id = id := by
  cases moves.origin member with
  | before isOld => exact .inl ⟨task, isOld, handle⟩
  | begins begun => cases begun <;> cases handle
  | goesOn found goes =>
      have isOld := List.mem_of_getElem? found
      cases goes with
      | accepted isCall accepted =>
          cases handle
          refine .inr ⟨_, _, ?_, by rw [accepted]; rfl, rfl⟩
          unfold CfpSchedulerDO.segmentCalls
          dsimp only
          rw [found]
          exact isCall
      | enqueueStored =>
          cases handle
          exact .inl ⟨_, isOld, rfl⟩
      | _ =>
          cases handle
  | started _ goes _ isStarted =>
      rcases goes.started isStarted with ⟨_, _, rfl⟩ | ⟨_, _, _, rfl⟩ <;>
        cases handle
  | _ => cases handle

/-- What is answered by then names at most an id on its way. -/
def RepliesHandles
    (state next : SchedulerState) : Prop :=
  next.replies = state.replies ∨
    ∃ answer,
      next.replies = state.replies ++ [answer] ∧
        ∀ id queueDepth,
          answer = .enqueued id queueDepth →
          .enqueueReturn id ∈ state.tasks

/-- An answer without an id. -/
theorem RepliesHandles.of_other
    {state next : SchedulerState}
    {answer : SchedulerReply}
    (replied : next.replies = state.replies ++ [answer])
    (otherAnswer : ∀ id queueDepth, answer ≠ .enqueued id queueDepth) :
    RepliesHandles state next :=
  .inr ⟨answer, replied, fun id queueDepth same =>
    absurd same (otherAnswer id queueDepth)⟩

theorem replies_ensureInit
    (state : SchedulerState)
    (caller : RebuildCaller) :
    (state.ensureInit caller).1.replies = state.replies := by
  unfold SchedulerState.ensureInit
  split <;> rfl

/-- Only the last part of an `enqueue` answers with an id. -/
theorem repliesHandles_resumeTask
    {self : CfpSchedulerDO}
    {state : SchedulerState}
    {index : Nat}
    {readings : Readings}
    {task : SchedulerTask}
    {segment : Segment}
    (found : state.tasks[index]? = some task)
    (resumed : self.resumeTask state index readings task = some segment) :
    RepliesHandles state segment.state := by
  cases task with
  | rebuild queued caller =>
      cases resumed
      exact .inl rfl
  | rebuilt caller =>
      cases resumed
      cases caller with
      | enqueue req =>
          unfold SchedulerState.afterRebuild SchedulerState.startEnqueue
          dsimp only
          split
          · exact .of_other rfl fun _ _ same => by cases same
          · split
            · exact .of_other rfl fun _ _ same => by cases same
            · split
              · exact .of_other rfl fun _ _ same => by cases same
              · exact .inl rfl
      | alarmStart =>
          exact .inl rfl
      | alarmSweep now =>
          exact .inl rfl
      | alarmKick now =>
          exact .inl rfl
  | enqueueStored job =>
      cases resumed
      exact .inl rfl
  | enqueueReturn id =>
      cases resumed
      refine .inr ⟨_, rfl, fun returned queueDepth same => ?_⟩
      cases same
      exact List.mem_of_getElem? found
  | cancelDone jobId ok =>
      cases resumed
      cases ok <;> exact .of_other rfl fun _ _ same => by cases same
  | cancelTenant tenantId reason active count =>
      cases active with
      | nil =>
          cases resumed
          exact .of_other rfl fun _ _ same => by cases same
      | cons job active =>
          cases resumed
          exact .inl rfl
  | alarmReclaimed now reclaimed =>
      unfold CfpSchedulerDO.resumeTask at resumed
      dsimp only at resumed
      split at resumed <;> cases resumed <;> exact .inl rfl
  | alarmSwept now =>
      cases resumed
      unfold SchedulerState.backstop
      split <;> exact .inl rfl
  | writeAlarm existing wakeAt =>
      cases resumed
      exact .inl rfl
  | running job call =>
      cases resumed
  | settled job outcome =>
      cases resumed
      cases outcome <;> unfold CfpSchedulerDO.storeOutcome <;> dsimp only <;>
        split <;> exact .inl rfl
  | requeueing job =>
      cases resumed
      unfold SchedulerState.scheduleRetry
      dsimp only
      split <;> exact .inl rfl
  | finishing job =>
      cases resumed
      exact .inl rfl
  | retryTimer job wakeAt =>
      unfold CfpSchedulerDO.resumeTask at resumed
      dsimp only at resumed
      split at resumed <;> cases resumed
      exact .inl rfl
  | finished =>
      cases resumed

/-- Nothing else answers with an id. -/
theorem repliesHandles_segment
    {self : CfpSchedulerDO}
    {state : SchedulerState}
    {event : SchedulerEvent}
    {segment : Segment}
    (isSegment : self.segment state event = some segment) :
    RepliesHandles state segment.state := by
  cases event with
  | enqueue req =>
      cases isSegment
      exact .inl (replies_ensureInit ..)
  | cancel jobId reason now =>
      cases isSegment
      exact .inl rfl
  | cancelByTenant tenantId reason =>
      cases isSegment
      exact .inl rfl
  | configure c =>
      cases isSegment
      exact .of_other rfl fun _ _ same => by cases same
  | status jobId =>
      cases isSegment
      exact .of_other rfl fun _ _ same => by cases same
  | result jobId now =>
      cases isSegment
      exact .of_other rfl fun _ _ same => by cases same
  | deliverAlarm now =>
      unfold CfpSchedulerDO.segment at isSegment
      dsimp only at isSegment
      split at isSegment
      next =>
        split at isSegment
        · cases isSegment
          exact .inl (replies_ensureInit ..)
        · cases isSegment
      next =>
        cases isSegment
  | resume index readings =>
      obtain ⟨task, found, resumed⟩ := Option.bind_eq_some_iff.mp isSegment
      exact repliesHandles_resumeTask found resumed
  | resumeLoop readings =>
      change self.resumeLoop state = some segment at isSegment
      unfold CfpSchedulerDO.resumeLoop at isSegment
      dsimp only at isSegment
      split at isSegment <;> cases isSegment <;> exact .inl rfl
  | settle index outcome =>
      unfold CfpSchedulerDO.segment at isSegment
      dsimp only at isSegment
      split at isSegment <;> cases isSegment
      exact .inl rfl
  | evict =>
      cases isSegment
      exact .inl rfl

/-! ## Steps and runs -/

/-- The store call at the end of a step deletes no row. -/
theorem isSome_row?_loopCalls
    {self : CfpSchedulerDO}
    {readings : LoopReadings}
    {segment : Segment}
    {store : JobStore}
    {jobId : String}
    (stored : (store.row? jobId).isSome) :
    ((store.after (segment.loopCalls self readings)).row? jobId).isSome := by
  unfold Segment.loopCalls
  split
  · exact stored
  · split
    · exact stored
    · split <;>
        exact JobStore.isSome_row?_invoke stored fun _ same => by cases same

/-- A job whose id is on its way stays stored. -/
theorem isSome_row?_segmentCalls
    {self : CfpSchedulerDO}
    {state : SchedulerState}
    {event : SchedulerEvent}
    (kept : HandlesKept self state event)
    (stored : HandlesStored state)
    {task : SchedulerTask}
    (wasTask : task ∈ state.tasks)
    {id : String}
    (handle : id ∈ task.handle?) :
    ((state.store.after (self.segmentCalls state event)).row? id).isSome := by
  have wasStored := stored task wasTask id handle
  rcases self.segmentCalls_cases state event with none | ⟨call, only⟩
  · rw [none]
    exact wasStored
  · have keepsHandles : call.KeepsHandles state :=
      kept call (by rw [only]; exact List.mem_singleton_self _)
    rw [only]
    refine JobStore.isSome_row?_invoke wasStored ?_
    rintro now rfl
    exact keepsHandles task wasTask id handle

/-- A step that meets the condition keeps the handles stored. -/
theorem handlesStored_step
    {self : CfpSchedulerDO}
    {state next : SchedulerState}
    {event : SchedulerEvent}
    (kept : HandlesKept self state event)
    (stepped : self.step state event = some next)
    (stored : HandlesStored state) :
    HandlesStored next := by
  obtain ⟨segment, isSegment, rfl⟩ := Option.map_eq_some_iff.mp stepped
  have finishes := segment.finishes self event.loopReadings
  intro task member id handle
  rw [finishes.tasks] at member
  rw [finishes.store, store_segment isSegment]
  apply isSome_row?_loopCalls
  rcases handle_of_moves (CfpSchedulerDO.moves isSegment) member handle with
    ⟨old, wasTask, handle⟩ | ⟨now, job, isCall, accepts, rfl⟩
  · exact isSome_row?_segmentCalls kept stored wasTask handle
  · have known := kept _ isCall accepts
    rcases self.segmentCalls_cases state event with none | ⟨call, only⟩
    · rw [none] at isCall
      cases isCall
    · rw [only] at isCall
      cases List.mem_singleton.mp isCall
      cases accepted : state.store.enqueue now job with
      | error err =>
          rw [accepted] at accepts
          cases accepts
      | ok next =>
          have isNext :
              state.store.after [.enqueue now job] = next := by
            simp [JobStore.after, JobStore.invoke, accepted]
          rw [only, isNext]
          exact JobStore.isSome_row?_of_accepted accepted known

/-- A step that meets the condition names real jobs. -/
theorem namesRealJobs_step
    {self : CfpSchedulerDO}
    {state next : SchedulerState}
    {event : SchedulerEvent}
    (kept : HandlesKept self state event)
    (stepped : self.step state event = some next)
    (stored : HandlesStored state) :
    NamesRealJobs self state event next where
  accepted now job store isCall accepted :=
    (JobStore.namesJob_iff accepted).mpr
      (kept _ isCall (by rw [accepted]; rfl))
  returned id queueDepth appended := by
    obtain ⟨segment, isSegment, rfl⟩ := Option.map_eq_some_iff.mp stepped
    have finishes := segment.finishes self event.loopReadings
    rw [finishes.replies] at appended
    rw [finishes.store, store_segment isSegment]
    apply isSome_row?_loopCalls
    rcases repliesHandles_segment isSegment with
      same | ⟨answer, replied, returning⟩
    · rw [same] at appended
      simp at appended
    · rw [replied] at appended
      have isAnswer := List.cons.inj (List.append_cancel_left appended)
      exact isSome_row?_segmentCalls kept stored
        (returning id queueDepth isAnswer.1) rfl

/--
In a run in which every accepted job has its key and its id known together, and
no sweep deletes a job whose id is about to be returned, every accepted job's
id names it, or the earlier job with its key, and every id that `enqueue`
returns names a stored job.
-/
theorem enqueue_namesRealJobs
    {self : CfpSchedulerDO}
    {events : List SchedulerEvent}
    {state next : SchedulerState}
    {event : SchedulerEvent}
    (run : GuardedRun self.step (HandlesKept self) {} events state)
    (kept : HandlesKept self state event)
    (stepped : self.step state event = some next) :
    NamesRealJobs self state event next := by
  have stored : HandlesStored state :=
    run.invariant handlesStored_step fun _ member => by cases member
  exact namesRealJobs_step kept stepped stored

/-- A job with an idempotency key. -/
def SchedulerEnqueueRequest.keyed : SchedulerEnqueueRequest :=
  { slow with id := "first", idempotencyKey := some "key" }

/-- The job is enqueued twice, and the second call is about to return. -/
def keyedReturns : List SchedulerEvent :=
  [ .enqueue .keyed, .resume 0 (.at 10), .resume 0 (.at 10),
    .resume 0 (.at 10), .resume 0 (.at 10),
    .enqueue .keyed, .resume 1 (.at 20), .resume 1 (.at 20) ]

/-- The id that the second call returns names the one job with the key. -/
theorem enqueue_namesRealJobs_keyedReturns :
    ∃ state next,
      GuardedRun (CfpSchedulerDO.step .plain) (HandlesKept .plain) {}
          keyedReturns state ∧
        CfpSchedulerDO.step .plain state (.resume 1 (.at 20)) = some next ∧
          NamesRealJobs .plain state (.resume 1 (.at 20)) next := by
  have executed :
      (keyedReturns.foldlM
          (fun state event =>
            if HandlesKept .plain state event then
              CfpSchedulerDO.step .plain state event
            else
              none) {}).any
        fun state =>
          HandlesKept .plain state (.resume 1 (.at 20)) &&
            (CfpSchedulerDO.step .plain state (.resume 1 (.at 20))).isSome := by
    decide +kernel
  obtain ⟨state, isState, goesOn⟩ := (Option.any_eq_true _ _).mp executed
  rw [Bool.and_eq_true] at goesOn
  obtain ⟨next, stepped⟩ := Option.isSome_iff_exists.mp goesOn.2
  have run := GuardedRun.of_checked isState
  exact ⟨state, next, run, stepped,
    enqueue_namesRealJobs run (of_decide_eq_true goesOn.1) stepped⟩

/-- A repeated submission, under an id of its own. -/
def SchedulerEnqueueRequest.repeated : SchedulerEnqueueRequest :=
  { keyed with id := "second" }

/-- The first submission is answered, and the second is about to be. -/
def repeatedReturns : List SchedulerEvent :=
  [ .enqueue .keyed, .resume 0 (.at 10), .resume 0 (.at 10),
    .resume 0 (.at 10), .resume 0 (.at 10),
    .enqueue .repeated, .resume 1 (.at 20), .resume 1 (.at 20) ]

/--
A submission is repeated with the same key and a new id: the caller is told
the new id, which no row has.
-/
theorem enqueue_returns_no_job :
    ∃ state next,
      Run (CfpSchedulerDO.step .plain) {} repeatedReturns state ∧
        CfpSchedulerDO.step .plain state (.resume 1 (.at 20)) = some next ∧
          next.replies = state.replies ++ [.enqueued "second" 1] ∧
            next.store.row? "second" = none ∧
              ¬ NamesRealJobs .plain state (.resume 1 (.at 20)) next := by
  have executed :
      (repeatedReturns.foldlM (CfpSchedulerDO.step .plain) {}).any
        fun state =>
          (state.tasks[1]?.any fun task =>
            match task with
            | .enqueueReturn id => id = "second"
            | _ => false) &&
            state.dispatcher.totalReady = 1 &&
            (state.store.row? "second").isNone := by
    decide +kernel
  obtain ⟨state, isState, returns⟩ := (Option.any_eq_true _ _).mp executed
  simp only [Bool.and_eq_true, decide_eq_true_eq,
    Option.isNone_iff_eq_none] at returns
  obtain ⟨⟨isReturning, depth⟩, absent⟩ := returns
  obtain ⟨task, found, isReturn⟩ := (Option.any_eq_true _ _).mp isReturning
  have returned : state.tasks[1]? = some (.enqueueReturn "second") := by
    cases task with
    | enqueueReturn id =>
        cases of_decide_eq_true isReturn
        exact found
    | _ =>
        cases isReturn
  have stepped :
      CfpSchedulerDO.step .plain state (.resume 1 (.at 20)) =
        some
          ((state.reply (.enqueued "second" 1)).setTask 1 .finished) := by
    simp [CfpSchedulerDO.step, CfpSchedulerDO.segment, returned,
      CfpSchedulerDO.resumeTask, Segment.finish, depth]
  refine ⟨state, _, .of_foldlM isState, stepped, rfl, absent, fun real => ?_⟩
  have stored : (state.store.row? "second").isSome :=
    real.returned "second" 1 rfl
  rw [absent] at stored
  cases stored

end CloudflareParallel
