import CloudflareParallel.SchedulerEvents
import CloudflareParallel.SchedulerSingleExecution
import CloudflareParallel.SchedulerSteps

namespace CloudflareParallel

open KeyedTables LabelledRuns

/-!
# What the events tell of a job

Every call that changes the status of a job emits an event, except a reclaimed
lease and a sweep.  The events of a job, replayed in the order of emission, are
a life that a job can have, and the stage at the end of the replay tells its
row: a job that was leased last may have been queued again without a word, and
a job that was done last may have been swept.
-/

/-- The status that an event leaves a job in; nothing where it cannot occur. -/
def JobEventKind.next
    (kind : JobEventKind)
    (stage : Option JobStatus) : Option JobStatus :=
  match kind, stage with
  | .enqueued, none => some .queued
  -- the id of a job whose row has been swept is free again
  | .enqueued, some .done => some .queued
  | .leased, some .queued => some .leased
  -- the earlier lease has expired
  | .leased, some .leased => some .leased
  | .done, some .leased => some .done
  | .retrying, some .leased => some .queued
  | .failed, some .queued => some .failed
  | .failed, some .leased => some .failed
  | .cancelled, some .queued => some .cancelled
  | .cancelled, some .leased => some .cancelled
  | _, _ => none

/-- The stage of a job after its events, if they are a life of a job. -/
def replay
    (jobId : String)
    (events : List JobEvent) : Option (Option JobStatus) :=
  (events.filter (·.jobId = jobId)).foldlM
    (fun stage event => (event.kind.next stage).map some) none

/-- What a stage tells of the row of a job. -/
inductive Tells : Option JobStatus → Option JobsRow → Prop where
  | unknown :
      Tells none none
  | stored {row : JobsRow} :
      Tells (some row.status) (some row)
  | reclaimed {row : JobsRow} :
      row.status = .queued →
      Tells (some .leased) (some row)
  | swept :
      Tells (some .done) none

/-- The events tell of every job. -/
def TellsAll
    (events : List JobEvent)
    (store : JobStore) : Prop :=
  ∀ jobId,
    ∃ stage, replay jobId events = some stage ∧ Tells stage (store.row? jobId)

/-- The events that calls emit, one after the other. -/
def JobStore.emitted
    (store : JobStore) : List JobStoreCall → List JobEvent
  | [] => []
  | call :: rest => store.emits call ++ (store.invoke call).1.emitted rest

/--
The events that were emitted are what the table was filled with, and they tell
of every job.
-/
structure EventsTell (current : SchedulerState × List JobEvent) : Prop where
  table : current.1.store.events = current.2.foldl insertOrReplace []
  rows : TellsAll current.2 current.1.store

/-- What a step of the object adds to the events that were emitted. -/
def CfpSchedulerDO.recordEmitted
    (self : CfpSchedulerDO)
    (state : SchedulerState)
    (event : SchedulerEvent)
    (emitted : List JobEvent) : List JobEvent :=
  emitted ++ state.store.emitted (self.storeCalls state event)

/-! ## Replaying one event more -/

theorem replay_concat
    (jobId : String)
    (events : List JobEvent)
    (event : JobEvent) :
    replay jobId (events ++ [event]) =
      (replay jobId events).bind fun stage =>
        if event.jobId = jobId then
          (event.kind.next stage).map some
        else
          some stage := by
  unfold replay
  rw [List.filter_append, List.foldlM_append]
  by_cases about : event.jobId = jobId
  · rw [List.filter_cons_of_pos (by simpa using about)]
    simp [about]
  · rw [List.filter_cons_of_neg (by simpa using about)]
    simp [about]

/-- An event is told of no other job. -/
theorem replay_concat_of_ne
    {jobId : String}
    {event : JobEvent}
    (other : event.jobId ≠ jobId)
    (events : List JobEvent) :
    replay jobId (events ++ [event]) = replay jobId events := by
  rw [replay_concat]
  simp [other]

/-- An event that can occur takes the replay on. -/
theorem replay_concat_of_next
    {jobId : String}
    {events : List JobEvent}
    {event : JobEvent}
    {stage : Option JobStatus}
    {status : JobStatus}
    (about : event.jobId = jobId)
    (before : replay jobId events = some stage)
    (occurs : event.kind.next stage = some status) :
    replay jobId (events ++ [event]) = some (some status) := by
  rw [replay_concat, before, Option.bind_some, if_pos about, occurs]
  rfl

/-- A stage tells that a leased row is leased. -/
theorem Tells.of_leased
    {stage : Option JobStatus}
    {row : JobsRow}
    (tells : Tells stage (some row))
    (leased : row.status = .leased) :
    stage = some .leased := by
  cases tells with
  | stored => rw [leased]
  | reclaimed => rfl

/-- A stage tells that a done row is done. -/
theorem Tells.of_done
    {stage : Option JobStatus}
    {row : JobsRow}
    (tells : Tells stage (some row))
    (done : row.status = .done) :
    stage = some .done := by
  cases tells with
  | stored => rw [done]
  | reclaimed queued =>
      rw [queued] at done
      cases done

/-- A stage tells that an active row is queued or leased. -/
theorem Tells.of_active
    {stage : Option JobStatus}
    {row : JobsRow}
    (tells : Tells stage (some row))
    (active : row.status.isActive) :
    stage = some .queued ∨ stage = some .leased := by
  cases tells with
  | stored =>
      cases status : row.status <;> rw [status] at active <;>
        simp [JobStatus.isActive] at active ⊢
  | reclaimed => exact .inr rfl

/-! ## Calls -/

namespace TellsAll

variable {events : List JobEvent}
variable {store : JobStore}

/-- Nothing is told of an empty store. -/
theorem empty : TellsAll [] {} :=
  fun _ => ⟨none, rfl, .unknown⟩

/-- A compare-and-set whose event can occur. -/
theorem compareAndSet
    (tells : TellsAll events store)
    (jobId : String)
    (guard : JobsRow → Bool)
    (change : JobsRow → JobsRow)
    (keepsId : ∀ row, (change row).id = row.id)
    (event : JobsRow → JobEvent)
    (about : ∀ row, (event row).jobId = jobId)
    (occurs :
      ∀ row stage,
        guard row →
        Tells stage (some row) →
        (event (change row)).kind.next stage = some (change row).status) :
    TellsAll
      (events ++
        ((store.compareAndSet jobId guard change keepsId event).2.map
          event).toList)
      (store.compareAndSet jobId guard change keepsId event).1 := by
  cases answered :
      (store.compareAndSet jobId guard change keepsId event).2 with
  | none =>
      rw [JobStore.compareAndSet_fst_of_none answered, Option.map_none,
        Option.toList_none, List.append_nil]
      exact tells
  | some changed =>
      rw [JobStore.compareAndSet_snd] at answered
      obtain ⟨row, met, rfl⟩ := Option.map_eq_some_iff.mp answered
      obtain ⟨found, guarded⟩ := Option.filter_eq_some_iff.mp met
      intro other
      obtain ⟨stage, before, told⟩ := tells other
      rw [Option.map_some, Option.toList_some]
      by_cases same : jobId = other
      · subst same
        rw [found] at told
        have isJob := JobStore.id_of_row? found
        refine
          ⟨some (change row).status,
            replay_concat_of_next (about _) before
              (occurs row stage guarded told), ?_⟩
        rw [JobStore.row?_compareAndSet, found, Option.map_some,
          if_pos (by simp [isJob, guarded])]
        exact .stored
      · refine ⟨stage, ?_, ?_⟩
        · rw [replay_concat_of_ne (by rw [about]; exact same)]
          exact before
        · rw [JobStore.row?_of_map_of_ne (JobStore.row?_compareAndSet ..)
            (Ne.symm same)]
          exact told

/-- The same for an event that is known beforehand. -/
theorem compareAndSet_isSome
    (tells : TellsAll events store)
    (guard : JobsRow → Bool)
    (change : JobsRow → JobsRow)
    (keepsId : ∀ row, (change row).id = row.id)
    (event : JobEvent)
    (occurs :
      ∀ row stage,
        guard row →
        Tells stage (some row) →
        event.kind.next stage = some (change row).status) :
    TellsAll
      (events ++
        if (store.compareAndSet event.jobId guard change keepsId
            fun _ => event).2.isSome then [event] else [])
      (store.compareAndSet event.jobId guard change keepsId
        fun _ => event).1 := by
  have set :=
    tells.compareAndSet event.jobId guard change keepsId (fun _ => event)
      (fun _ => rfl) occurs
  cases answered :
      (store.compareAndSet event.jobId guard change keepsId
        fun _ => event).2 with
  | none =>
      rw [answered] at set
      exact set
  | some _ =>
      rw [answered] at set
      exact set

/-- A call that emits nothing tells as much of the rows that it leaves. -/
theorem silent
    (tells : TellsAll events store)
    {call : JobStoreCall}
    (emitsNone : store.emits call = [])
    (told :
      ∀ jobId stage,
        Tells stage (store.row? jobId) →
        Tells stage ((store.invoke call).1.row? jobId)) :
    TellsAll (events ++ store.emits call) (store.invoke call).1 := by
  intro jobId
  obtain ⟨stage, before, toldBefore⟩ := tells jobId
  rw [emitsNone, List.append_nil]
  exact ⟨stage, before, told jobId stage toldBefore⟩

/-- A stored job is told of as enqueued, whatever was told of its id before. -/
theorem enqueue
    (tells : TellsAll events store)
    (now : Int)
    (job : PersistedJob) :
    TellsAll (events ++ store.emits (.enqueue now job))
      (store.invoke (.enqueue now job)).1 := by
  by_cases taken : job.id ∈ store.jobs.rows.map JobsRow.id
  · refine tells.silent (if_pos (.inl taken)) fun jobId stage told => ?_
    unfold JobStore.invoke JobStore.enqueue
    dsimp only
    rw [dif_pos taken]
    cases JobStore.swallowsUnique job <;> exact told
  · by_cases keyTaken : store.keyIsTaken job.idempotencyKey
    · refine tells.silent (if_pos (.inr keyTaken)) fun jobId stage told => ?_
      unfold JobStore.invoke JobStore.enqueue
      dsimp only
      rw [dif_neg taken, if_pos keyTaken]
      cases JobStore.swallowsUnique job <;> exact told
    · intro jobId
      obtain ⟨stage, before, told⟩ := tells jobId
      unfold JobStore.emits JobStore.invoke JobStore.enqueue
      dsimp only
      rw [dif_neg taken, if_neg keyTaken,
        if_neg (not_or.mpr ⟨taken, keyTaken⟩)]
      dsimp only
      rw [JobStore.row?_emit, JobStore.row?, KeyedTable.get?_insert]
      by_cases same : job.id = jobId
      · subst same
        have absent : store.row? job.id = none := by
          rw [JobStore.row?, KeyedTable.get?_eq_none_iff]
          exact taken
        rw [absent] at told
        rw [if_pos (id_insertedRow job)]
        refine
          ⟨some .queued, replay_concat_of_next rfl before ?_,
            @Tells.stored (insertedRow job)⟩
        cases told <;> rfl
      · rw [if_neg (by rw [id_insertedRow]; exact same)]
        exact
          ⟨stage, (replay_concat_of_ne same events).trans before, told⟩

/-- A claim tells of each job that it leases. -/
theorem claim
    (tells : TellsAll events store)
    (now : Int)
    (req : ClaimRequest) :
    TellsAll (events ++ store.emits (.claim now req))
      (store.invoke (.claim now req)).1 := by
  have folded
      (candidates : List JobsRow)
      (progress : JobStore × List PersistedJob)
      (before :
        TellsAll
          (events ++
            progress.2.map fun job =>
              { ts := now, jobId := job.id, kind := .leased })
          progress.1) :
      TellsAll
        (events ++
          (candidates.foldl (JobStore.claimRow now req) progress).2.map
            fun job => { ts := now, jobId := job.id, kind := .leased })
        (candidates.foldl (JobStore.claimRow now req) progress).1 := by
    induction candidates generalizing progress with
    | nil => exact before
    | cons candidate rest inductionHypothesis =>
        apply inductionHypothesis
        have set :=
          before.compareAndSet candidate.id (·.isFree now)
            (·.lease req.workerId (now + req.leaseMs))
            (fun other => other.id_lease _ _)
            (fun _ => { ts := now, jobId := candidate.id, kind := .leased })
            (fun _ => rfl)
            (fun row stage free told => by
              rcases told.of_active (JobsRow.isActive_of_isFree free) with
                rfl | rfl <;> rfl)
        unfold JobStore.claimRow
        dsimp only
        split
        · exact before
        next updated =>
          rw [updated, List.append_assoc] at set
          rw [List.map_append]
          exact set
  exact folded _ (store, []) (by rw [List.map_nil, List.append_nil]; exact tells)

/-- A failed run is told of as a retry or as the end of its job. -/
theorem fail
    (tells : TellsAll events store)
    (now : Int)
    (jobId leaseOwner : String)
    (error : ErrorRecord) :
    TellsAll (events ++ store.emits (.fail now jobId leaseOwner error))
      (store.invoke (.fail now jobId leaseOwner error)).1 := by
  have set :=
    tells.compareAndSet jobId (·.isLeasedBy leaseOwner)
      (·.failedOnce error) (fun row => row.id_failedOnce _)
      (fun row =>
        { ts := now
          jobId := jobId
          kind := if row.status = .failed then .failed else .retrying })
      (fun _ => rfl)
      (fun row stage leased told => by
        rw [told.of_leased
          (of_decide_eq_true (Bool.and_eq_true_iff.mp leased).1)]
        by_cases last : row.retryMax ≤ row.retryCount + 1 <;>
          simp [JobsRow.failedOnce, last, JobEventKind.next])
  have emitted :
      store.emits (.fail now jobId leaseOwner error) =
        ((store.compareAndSet jobId (·.isLeasedBy leaseOwner)
          (·.failedOnce error) (fun row => row.id_failedOnce _)
          fun row =>
            { ts := now
              jobId := jobId
              kind :=
                if row.status = .failed then
                  .failed
                else
                  .retrying }).2.map fun row =>
          { ts := now
            jobId := jobId
            kind :=
              if row.status = .failed then .failed else .retrying }).toList := by
    unfold JobStore.emits JobStore.fail
    dsimp only
    rw [JobStore.compareAndSet_snd]
    cases (store.row? jobId).filter (·.isLeasedBy leaseOwner) with
    | none => rfl
    | some before =>
        by_cases last : before.retryMax ≤ before.retryCount + 1 <;>
          simp [JobsRow.failedOnce, last]
  change TellsAll _ (store.fail now jobId leaseOwner error).1
  rw [emitted, JobStore.fail_fst]
  exact set

/-- Every call tells what it does to the rows, or does what is told already. -/
theorem step
    (tells : TellsAll events store)
    (call : JobStoreCall) :
    TellsAll (events ++ store.emits call) (store.invoke call).1 := by
  cases call with
  | enqueue now job => exact tells.enqueue now job
  | claim now req => exact tells.claim now req
  | ack now jobId leaseOwner result resultExpiresMs =>
      exact
        tells.compareAndSet_isSome (·.isLeasedBy leaseOwner)
          (·.acked result resultExpiresMs) (fun row => row.id_acked _ _)
          { ts := now, jobId := jobId, kind := .done }
          (fun row stage leased told => by
            rw [told.of_leased
              (of_decide_eq_true (Bool.and_eq_true_iff.mp leased).1)]
            rfl)
  | fail now jobId leaseOwner error =>
      exact tells.fail now jobId leaseOwner error
  | failQueued now jobId error =>
      exact
        tells.compareAndSet_isSome (·.status = .queued)
          (·.failedForGood error) (fun row => row.id_failedForGood _)
          { ts := now, jobId := jobId, kind := .failed }
          (fun row stage queued told => by
            have active : row.status.isActive := by
              rw [of_decide_eq_true queued]
              rfl
            rcases told.of_active active with rfl | rfl <;> rfl)
  | cancel now jobId reason =>
      exact
        tells.compareAndSet_isSome (·.status.isActive)
          JobsRow.cancelled JobsRow.id_cancelled
          { ts := now, jobId := jobId, kind := .cancelled, detail := reason }
          (fun row stage active told => by
            rcases told.of_active active with rfl | rfl <;> rfl)
  | sweepExpired now =>
      refine tells.silent rfl fun jobId stage told => ?_
      have swept := store.row?_sweepExpired now jobId
      change Tells stage ((store.sweepExpired now).row? jobId)
      rw [swept]
      cases found : store.row? jobId with
      | none =>
          rw [found] at told
          exact told
      | some row =>
          rw [found] at told
          rw [Option.filter_some]
          split
          next => exact told
          next sweepable =>
            rw [Bool.not_eq_true', Bool.not_eq_false] at sweepable
            rw [told.of_done
              (of_decide_eq_true (Bool.and_eq_true_iff.mp sweepable).1)]
            exact .swept
  | reclaimExpiredLeases now =>
      refine tells.silent rfl fun jobId stage told => ?_
      have reclaimed := store.row?_reclaimExpiredLeases now jobId
      change Tells stage ((store.reclaimExpiredLeases now).1.row? jobId)
      rw [reclaimed]
      cases found : store.row? jobId with
      | none =>
          rw [found] at told
          exact told
      | some row =>
          rw [found] at told
          rw [Option.map_some]
          split
          next reclaimable =>
            rw [told.of_leased
              (of_decide_eq_true (Bool.and_eq_true_iff.mp reclaimable).1)]
            exact .reclaimed rfl
          next => exact told
  | status _ => exact tells.silent rfl fun _ _ => id
  | result _ _ => exact tells.silent rfl fun _ _ => id
  | peek _ _ => exact tells.silent rfl fun _ _ => id
  | listActiveByTenant _ => exact tells.silent rfl fun _ _ => id

/-- The events of a sequence of calls tell of the rows at its end. -/
theorem run
    (tells : TellsAll events store)
    (calls : List JobStoreCall) :
    TellsAll (events ++ store.emitted calls) (store.after calls) := by
  induction calls generalizing events store with
  | nil =>
      rw [JobStore.emitted, List.append_nil]
      exact tells
  | cons call rest inductionHypothesis =>
      have later := inductionHypothesis (tells.step call)
      rw [List.append_assoc] at later
      exact later

end TellsAll

/-- The events table after some calls holds what they have emitted. -/
theorem JobStore.events_after
    (store : JobStore)
    (calls : List JobStoreCall) :
    (store.after calls).events =
      (store.emitted calls).foldl insertOrReplace store.events := by
  induction calls generalizing store with
  | nil => rfl
  | cons call rest inductionHypothesis =>
      have later := inductionHypothesis (store.invoke call).1
      rw [JobStore.emitted, List.foldl_append, ← store.events_invoke call]
      exact later

/-! ## Runs of the object -/

/-- A step of the object tells what its calls do. -/
theorem EventsTell.step
    {self : CfpSchedulerDO}
    {current next : SchedulerState × List JobEvent}
    {event : SchedulerEvent}
    (recorded :
      recording self.step self.recordEmitted current event = some next)
    (tell : EventsTell current) :
    EventsTell next := by
  obtain ⟨after, stepped, rfl⟩ := Option.map_eq_some_iff.mp recorded
  unfold CfpSchedulerDO.recordEmitted
  constructor
  · rw [store_step stepped, JobStore.events_after, tell.table,
      List.foldl_append]
  · rw [store_step stepped]
    exact tell.rows.run _

/-- In every run of the object the events that it emits tell of every job. -/
theorem scheduler_events_tell
    {self : CfpSchedulerDO}
    {events : List SchedulerEvent}
    {last : SchedulerState × List JobEvent}
    (run :
      Run (recording self.step self.recordEmitted) ({}, []) events last) :
    EventsTell last :=
  run.invariant (fun _ recorded => EventsTell.step recorded) {
    table := rfl
    rows := .empty
  }

/-- The lease of the first job runs out and is reclaimed without an event. -/
theorem scheduler_events_tell_alarmFires :
    ∃ last,
      Run
          (recording (CfpSchedulerDO.step .plain)
            (CfpSchedulerDO.recordEmitted .plain))
          ({}, []) (slowStarts ++ flakyFails ++ alarmFires) last ∧
        (last.2.filter (·.jobId = "slow")).map JobEvent.kind =
            [.enqueued, .leased, .leased] ∧
          EventsTell last := by
  have executed :
      ((slowStarts ++ flakyFails ++ alarmFires).foldlM
          (recording (CfpSchedulerDO.step .plain)
            (CfpSchedulerDO.recordEmitted .plain))
          ({}, [])).any fun last =>
        (last.2.filter (·.jobId = "slow")).map JobEvent.kind =
          [.enqueued, .leased, .leased] := by
    decide +kernel
  obtain ⟨last, isLast, leasedTwice⟩ := (Option.any_eq_true _ _).mp executed
  have run := GuardedRun.of_foldlM isLast
  exact
    ⟨last, run, of_decide_eq_true leasedTwice, scheduler_events_tell run⟩

end CloudflareParallel
