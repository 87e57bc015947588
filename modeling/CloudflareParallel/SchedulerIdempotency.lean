import CloudflareParallel.SchedulerLimits

namespace CloudflareParallel

open KeyedTables LabelledRuns

/-!
# Idempotency keys across whole runs

The table takes a key once.  A second `enqueue` with the key is swallowed, and
the copy of its job that gets into the ready set finds no row to claim; so only
one job runs for a key, as long as its row is not swept.
-/

/-- At most one row has an idempotency key. -/
def JobStore.KeysUnique (store : JobStore) : Prop :=
  ∀ jobId row other otherRow key,
    store.row? jobId = some row →
    store.row? other = some otherRow →
    row.idempotencyKey = some key →
    otherRow.idempotencyKey = some key →
    jobId = other

/-- The executions started so far and the rows deleted so far, newest first. -/
structure KeyHistory where
  started : List PersistedJob := []
  swept : List JobsRow := []

/-- What a step adds to the history. -/
def CfpSchedulerDO.recordKeys
    (self : CfpSchedulerDO)
    (state : SchedulerState)
    (event : SchedulerEvent)
    (history : KeyHistory) : KeyHistory where
  started :=
    match event with
    | .resumeLoop _ => state.dispatcher.loop.target?.toList ++ history.started
    | _ => history.started
  swept :=
    (state.store.jobs.rows.filter fun row =>
        ((state.store.after (self.storeCalls state event)).row?
          row.id).isNone) ++
      history.swept

/-- The row of a job was deleted when its result was stored. -/
def KeyHistory.Swept
    (history : KeyHistory)
    (job : PersistedJob) : Prop :=
  ∃ row ∈ history.swept,
    row.id = job.id ∧
      row.idempotencyKey = job.idempotencyKey ∧ row.status = .done

/-- The key of a job is held by its row, unless that was swept. -/
def KeyHistory.Holds
    (history : KeyHistory)
    (store : JobStore)
    (job : PersistedJob) : Prop :=
  (∃ row,
      store.row? job.id = some row ∧
        row.idempotencyKey = job.idempotencyKey) ∨
    history.Swept job

/-! ## The table -/

/-- A row that makes a move keeps its key. -/
theorem JobsRow.Move.key
    {call : JobStoreCall}
    {row next : JobsRow}
    (moved : JobsRow.Move call (some row) (some next)) :
    next.idempotencyKey = row.idempotencyKey := by
  cases moved <;> rfl

/-- A row that is deleted was done. -/
theorem JobsRow.Move.done
    {call : JobStoreCall}
    {row : JobsRow}
    (moved : JobsRow.Move call (some row) none) :
    row.status = .done := by
  cases moved with
  | sweep sweepable =>
      exact of_decide_eq_true (Bool.and_eq_true_iff.mp sweepable).1

namespace JobStore

/-- An accepted `enqueue` changes nothing or inserts a row with a new key. -/
theorem enqueue_cases
    {store next : JobStore}
    {now : Int}
    {job : PersistedJob}
    (accepted : store.enqueue now job = .ok next) :
    next = store ∨
      (store.keyIsTaken job.idempotencyKey = false ∧
        ∀ jobId,
          next.row? jobId =
            if jobId = job.id then
              some (insertedRow job)
            else
              store.row? jobId) := by
  unfold enqueue at accepted
  split at accepted
  next =>
    split at accepted
    · cases accepted
      exact .inl rfl
    · cases accepted
  next =>
    split at accepted
    next =>
      split at accepted
      · cases accepted
        exact .inl rfl
      · cases accepted
    next free =>
      cases accepted
      refine .inr ⟨Bool.eq_false_iff.mpr free, fun jobId => ?_⟩
      rw [row?_emit, row?, KeyedTable.get?_insert]
      simp only [id_insertedRow, eq_comm]
      rfl

/-- No row has a key that is not taken. -/
theorem key_of_not_taken
    {store : JobStore}
    {key : String}
    {jobId : String}
    {row : JobsRow}
    (free : store.keyIsTaken (some key) = false)
    (found : store.row? jobId = some row) :
    row.idempotencyKey ≠ some key := by
  intro same
  have taken := List.any_eq_false.mp free row (mem_of_row? found)
  exact taken (decide_eq_true same)

/-- Every call but an `enqueue` keeps each row's key. -/
theorem key_of_invoke
    {store : JobStore}
    {call : JobStoreCall}
    {jobId : String}
    {row : JobsRow}
    (notEnqueue : ∀ now job, call ≠ .enqueue now job)
    (found : (store.invoke call).1.row? jobId = some row) :
    ∃ old,
      store.row? jobId = some old ∧
        row.idempotencyKey = old.idempotencyKey := by
  have moved := store.row?_invoke call jobId
  rw [found] at moved
  cases stored : store.row? jobId with
  | none =>
      rw [stored] at moved
      cases moved with
      | insert => exact absurd rfl (notEnqueue _ _)
  | some old =>
      rw [stored] at moved
      exact ⟨old, rfl, moved.key⟩

/-- An `enqueue` keeps the keys unique. -/
theorem KeysUnique.enqueue
    {store next : JobStore}
    {now : Int}
    {job : PersistedJob}
    (accepted : store.enqueue now job = .ok next)
    (unique : store.KeysUnique) :
    next.KeysUnique := by
  rcases enqueue_cases accepted with rfl | ⟨free, rows⟩
  · exact unique
  intro jobId row other otherRow key found otherFound isKey isOther
  rw [rows] at found otherFound
  split at found
  next isJob =>
    cases found
    split at otherFound
    next isOtherJob =>
      rw [isJob, isOtherJob]
    next =>
      change job.idempotencyKey = some key at isKey
      rw [isKey] at free
      exact absurd isOther (key_of_not_taken free otherFound)
  next =>
    split at otherFound
    next =>
      cases otherFound
      change job.idempotencyKey = some key at isOther
      rw [isOther] at free
      exact absurd isKey (key_of_not_taken free found)
    next =>
      exact unique jobId row other otherRow key found otherFound isKey isOther

/-- Every call keeps the keys unique. -/
theorem KeysUnique.invoke
    {store : JobStore}
    (unique : store.KeysUnique)
    (call : JobStoreCall) :
    (store.invoke call).1.KeysUnique := by
  by_cases isEnqueue : ∃ now job, call = .enqueue now job
  · obtain ⟨now, job, rfl⟩ := isEnqueue
    unfold JobStore.invoke
    dsimp only
    split
    next accepted => exact unique.enqueue accepted
    next => exact unique
  · have notEnqueue (now : Int) (job : PersistedJob) :
        call ≠ .enqueue now job :=
      fun same => isEnqueue ⟨now, job, same⟩
    intro jobId row other otherRow key found otherFound isKey isOther
    obtain ⟨old, stored, sameKey⟩ := key_of_invoke notEnqueue found
    obtain ⟨otherOld, otherStored, sameOther⟩ :=
      key_of_invoke notEnqueue otherFound
    exact unique jobId old other otherOld key stored otherStored
      (sameKey ▸ isKey) (sameOther ▸ isOther)

/-- Every sequence of calls keeps the keys unique. -/
theorem KeysUnique.after
    {store : JobStore}
    (unique : store.KeysUnique)
    (calls : List JobStoreCall) :
    (store.after calls).KeysUnique := by
  induction calls generalizing store with
  | nil => exact unique
  | cons call rest inductionHypothesis =>
      exact inductionHypothesis (unique.invoke call)

end JobStore

/-! ## Steps -/

/-- Only `enqueue` and `sweepExpired` add or delete a key. -/
theorem JobStore.keys_invoke
    {call : JobStoreCall}
    (notEnqueue : ∀ now job, call ≠ .enqueue now job)
    (notSweep : ∀ now, call ≠ .sweepExpired now)
    (store : JobStore)
    (jobId : String) :
    ((store.invoke call).1.row? jobId).map JobsRow.idempotencyKey =
      (store.row? jobId).map JobsRow.idempotencyKey := by
  have moved := store.row?_invoke call jobId
  generalize store.row? jobId = old at moved ⊢
  generalize (store.invoke call).1.row? jobId = new at moved ⊢
  cases moved with
  | insert => exact absurd rfl (notEnqueue _ _)
  | sweep => exact absurd rfl (notSweep _)
  | _ => rfl

/-- The loop's own call at the end of a step keeps every key. -/
theorem Segment.keys_loopCalls
    (self : CfpSchedulerDO)
    (readings : LoopReadings)
    (segment : Segment)
    (store : JobStore)
    (jobId : String) :
    ((store.after (segment.loopCalls self readings)).row? jobId).map
        JobsRow.idempotencyKey =
      (store.row? jobId).map JobsRow.idempotencyKey := by
  unfold loopCalls
  split
  · rfl
  · split
    · rfl
    · split
      · exact JobStore.keys_invoke (fun _ _ wrong => by cases wrong)
          (fun _ wrong => by cases wrong) store jobId
      · exact JobStore.keys_invoke (fun _ _ wrong => by cases wrong)
          (fun _ wrong => by cases wrong) store jobId

/-- What the end of a step leaves of the keys after its own part. -/
theorem CfpSchedulerDO.keys_storeCalls
    (self : CfpSchedulerDO)
    (state : SchedulerState)
    (event : SchedulerEvent)
    (jobId : String) :
    ((state.store.after (self.storeCalls state event)).row? jobId).map
        JobsRow.idempotencyKey =
      ((state.store.after (self.segmentCalls state event)).row? jobId).map
        JobsRow.idempotencyKey := by
  unfold storeCalls JobStore.after
  rw [List.foldl_append]
  split
  · rfl
  · exact Segment.keys_loopCalls ..

/-- A row stays with its key in a step or is deleted when it is done. -/
theorem CfpSchedulerDO.keeps_key
    (self : CfpSchedulerDO)
    (state : SchedulerState)
    (event : SchedulerEvent)
    {jobId : String}
    {row : JobsRow}
    (found : state.store.row? jobId = some row) :
    ((state.store.after (self.storeCalls state event)).row? jobId = none ∧
        row.status = .done) ∨
      ∃ next,
        (state.store.after (self.storeCalls state event)).row? jobId =
            some next ∧
          next.idempotencyKey = row.idempotencyKey := by
  have keys := self.keys_storeCalls state event jobId
  have after :
      (state.store.after (self.segmentCalls state event)).row? jobId =
          some row ∨
        ∃ call ∈ self.segmentCalls state event,
          JobsRow.Move call (some row)
            ((state.store.after (self.segmentCalls state event)).row?
              jobId) := by
    rcases CfpSchedulerDO.row?_segmentCalls rfl with same | moved
    · exact .inl (same.symm.trans found)
    · rw [found] at moved
      exact .inr moved
  generalize
    (state.store.after (self.segmentCalls state event)).row? jobId = middle
    at keys after
  generalize
    (state.store.after (self.storeCalls state event)).row? jobId = last
    at keys ⊢
  cases middle with
  | none =>
      refine .inl ⟨Option.map_eq_none_iff.mp keys, ?_⟩
      rcases after with wrong | ⟨call, -, moved⟩
      · cases wrong
      · exact moved.done
  | some middle =>
      obtain ⟨next, isNext, sameKey⟩ := Option.map_eq_some_iff.mp keys
      refine .inr ⟨next, isNext, sameKey.trans ?_⟩
      rcases after with same | ⟨call, -, moved⟩
      · rw [Option.some.inj same]
      · exact moved.key

namespace KeyHistory

variable {self : CfpSchedulerDO} {history : KeyHistory}
variable {state next : SchedulerState} {event : SchedulerEvent}

/-- A deleted row stays in the history. -/
theorem Swept.recorded
    {job : PersistedJob}
    (swept : history.Swept job) :
    (self.recordKeys state event history).Swept job := by
  obtain ⟨row, member, rest⟩ := swept
  exact ⟨row, List.mem_append_right _ member, rest⟩

/-- The key of a job is still held after a step. -/
theorem Holds.step
    (stepped : self.step state event = some next)
    {job : PersistedJob}
    (holds : history.Holds state.store job) :
    (self.recordKeys state event history).Holds next.store job := by
  rw [store_step stepped]
  rcases holds with ⟨row, found, isKey⟩ | swept
  · rcases self.keeps_key state event found with
      ⟨deleted, isDone⟩ | ⟨after, isAfter, sameKey⟩
    · refine .inr ⟨row, List.mem_append_left _ ?_,
        JobStore.id_of_row? found, isKey, isDone⟩
      refine List.mem_filter.mpr ⟨JobStore.mem_of_row? found, ?_⟩
      rw [JobStore.id_of_row? found, deleted]
      rfl
    · exact .inl ⟨after, isAfter, sameKey.trans isKey⟩
  · exact .inr swept.recorded

end KeyHistory

/-- The key of every job that was started or claimed is held. -/
structure KeyInvariant
    (current : SchedulerState × KeyHistory) : Prop where
  unique : current.1.store.KeysUnique
  started :
    ∀ job ∈ current.2.started, current.2.Holds current.1.store job
  claimed :
    ∀ target,
      current.1.dispatcher.loop = .claimed (some target) →
      current.2.Holds current.1.store target

/-- Before the loop is kicked, it claims nothing new. -/
theorem CfpSchedulerDO.Moves.claimed
    {self : CfpSchedulerDO}
    {state : SchedulerState}
    {event : SchedulerEvent}
    {tasks : List SchedulerTask}
    {dispatcher : Dispatcher}
    {target : PersistedJob}
    (moves : self.Moves state event tasks dispatcher)
    (claimed : dispatcher.loop = .claimed (some target)) :
    state.dispatcher.loop = .claimed (some target) := by
  cases moves with
  | enqueue begun => cases begun <;> exact claimed
  | deliverAlarm begun => cases begun <;> exact claimed
  | @configure c =>
      obtain ⟨config, configured⟩ := dispatcher_configure state c
      rw [configured] at claimed
      exact claimed
  | resume _ goes => exact goes.loop.symm.trans claimed
  | loopGoesOn => cases claimed
  | runs => cases claimed
  | evict _ _ _ idle =>
      rw [idle] at claimed
      cases claimed
  | _ => exact claimed

/-- The job that the loop has claimed at the end of a step has a row. -/
theorem claimed_of_step
    {self : CfpSchedulerDO}
    {state next : SchedulerState}
    {event : SchedulerEvent}
    {target : PersistedJob}
    (stepped : self.step state event = some next)
    (claimed : next.dispatcher.loop = .claimed (some target)) :
    state.dispatcher.loop = .claimed (some target) ∨
      ∃ row,
        next.store.row? target.id = some row ∧
          row.idempotencyKey = target.idempotencyKey := by
  obtain ⟨segment, isSegment, rfl⟩ := Option.map_eq_some_iff.mp stepped
  have loopEnd := segment.loopEnd self event.loopReadings
  generalize (segment.finish self event.loopReadings).dispatcher.loop = loop
    at loopEnd claimed
  generalize (segment.finish self event.loopReadings).store = store
    at loopEnd ⊢
  cases loopEnd with
  | stays =>
      exact .inl ((CfpSchedulerDO.moves isSegment).claimed claimed)
  | @claimed _ _ row leased store _ _ _ _ _ _ isLeased rows =>
      cases claimed
      refine .inr ⟨leased, ?_, rfl⟩
      rw [rows, if_pos]
      rw [isLeased]
      rfl
  | _ =>
      cases claimed

/-- A step keeps the invariant. -/
theorem KeyInvariant.step
    {self : CfpSchedulerDO}
    {current next : SchedulerState × KeyHistory}
    {event : SchedulerEvent}
    (recorded :
      recording self.step self.recordKeys current event = some next)
    (invariant : KeyInvariant current) :
    KeyInvariant next := by
  obtain ⟨after, stepped, rfl⟩ := Option.map_eq_some_iff.mp recorded
  refine ⟨?_, fun job started => ?_, fun target claimed => ?_⟩
  · rw [store_step stepped]
    exact invariant.unique.after _
  · have before :
        current.2.Holds current.1.store job := by
      unfold CfpSchedulerDO.recordKeys at started
      dsimp only at started
      split at started
      · rcases List.mem_append.mp started with isTarget | earlier
        · refine invariant.claimed job ?_
          unfold LoopState.target? at isTarget
          split at isTarget
          next target claimed =>
            rw [claimed, Option.mem_toList.mp isTarget]
          next => cases isTarget
        · exact invariant.started job earlier
      · exact invariant.started job started
    exact before.step stepped
  · rcases claimed_of_step stepped claimed with before | stored
    · exact (invariant.claimed target before).step stepped
    · exact .inl stored

/--
In every run, two executions of jobs with one idempotency key are executions of
one job, unless the row of the one or the other was deleted by a sweep after
its result had been stored.
-/
theorem scheduler_runs_one_job_per_key
    {self : CfpSchedulerDO}
    {events : List SchedulerEvent}
    {final : SchedulerState}
    {history : KeyHistory}
    (run :
      Run (recording self.step self.recordKeys) ({}, {}) events
        (final, history))
    {first second : PersistedJob}
    (firstStarted : first ∈ history.started)
    (secondStarted : second ∈ history.started)
    (isKey : first.idempotencyKey.isSome)
    (sameKey : first.idempotencyKey = second.idempotencyKey) :
    first.id = second.id ∨ history.Swept first ∨ history.Swept second := by
  have invariant : KeyInvariant (final, history) :=
    run.invariant (fun _ recorded => KeyInvariant.step recorded) {
      unique := fun _ _ _ _ _ found => by cases found
      started := fun _ started => by cases started
      claimed := fun _ claimed => by cases claimed
    }
  obtain ⟨key, isKey⟩ := Option.isSome_iff_exists.mp isKey
  rcases invariant.started first firstStarted with
    ⟨row, found, rowKey⟩ | swept
  · rcases invariant.started second secondStarted with
      ⟨other, otherFound, otherKey⟩ | swept
    · refine .inl (invariant.unique _ row _ other key found otherFound ?_ ?_)
      · exact rowKey.trans isKey
      · exact otherKey.trans (sameKey ▸ isKey)
    · exact .inr (.inr swept)
  · exact .inr (.inl swept)

/-- A job with a key, and another one with the same key. -/
def sameKeyTwice : List SchedulerEnqueueRequest :=
  [ { SchedulerEnqueueRequest.slow with idempotencyKey := some "key" },
    { SchedulerEnqueueRequest.slow with
      id := "again"
      idempotencyKey := some "key" } ]

/-- Both are enqueued, and the first fails once and is started again. -/
def startsTwice : List SchedulerEvent :=
  sameKeyTwice.map .enqueue ++
    [ .resume 0 (.at 10), .resume 0 (.at 10), .resume 1 (.at 10),
      .resume 0 (.at 10), .resume 1 (.at 10),
      .resumeLoop { check := 10, claim := 10 },
      .resumeLoop { check := 10, claim := 10 },
      .settle 2 (.error (.error "Error" "not yet" none none)),
      .resume 2 (.at 15), .resume 2 (.at 15), .resume 2 (.at 15),
      .resume 4 (.at 215), .resumeLoop { check := 215, claim := 215 } ]

/-- The second of two executions is a retry, and both have the key. -/
def KeyHistory.retriesOnce (history : KeyHistory) : Bool :=
  match history.started with
  | [second, first] =>
      first.retryCount = 0 && second.retryCount = 1 &&
        first.idempotencyKey = some "key" &&
          second.idempotencyKey = some "key"
  | _ => false

/-- Both executions are of the first job. -/
theorem scheduler_runs_one_job_per_key_startsTwice :
    ∃ (final : SchedulerState) (history : KeyHistory)
        (first second : PersistedJob),
      Run
          (recording (CfpSchedulerDO.step .plain)
            (CfpSchedulerDO.recordKeys .plain))
          ({}, {}) startsTwice (final, history) ∧
        history.started = [second, first] ∧
          first.retryCount = 0 ∧
            second.retryCount = 1 ∧
              (first.id = second.id ∨
                history.Swept first ∨ history.Swept second) := by
  have executed :
      (startsTwice.foldlM
          (recording (CfpSchedulerDO.step .plain)
            (CfpSchedulerDO.recordKeys .plain))
          ({}, {})).any (·.2.retriesOnce) := by
    decide +kernel
  obtain ⟨⟨final, history⟩, isFinal, started⟩ :=
    (Option.any_eq_true _ _).mp executed
  unfold KeyHistory.retriesOnce at started
  dsimp only at started
  split at started
  next second first isStarted =>
    simp only [Bool.and_eq_true, decide_eq_true_eq] at started
    obtain ⟨⟨⟨count, next⟩, isKey⟩, isSecond⟩ := started
    have run := GuardedRun.of_foldlM isFinal
    refine ⟨final, history, first, second, run, isStarted, count, next, ?_⟩
    exact scheduler_runs_one_job_per_key run (by simp [isStarted])
      (by simp [isStarted]) (by rw [isKey]; rfl) (isKey.trans isSecond.symm)
  next =>
    cases started

end CloudflareParallel
