import CloudflareParallel.SchedulerDeliveries
import CloudflareParallel.SchedulerFencing
import CloudflareParallel.SchedulerStateMachine

namespace CloudflareParallel

open KeyedTables LabelledRuns

/-!
# Cancelling the jobs of a tenant

`cancelByTenant` lists the active jobs of a tenant and cancels them one by one,
with an await before each.  Meanwhile the dispatch loop claims, runs settle,
alarms reclaim leases and retries are queued.  When the call returns, none of
the listed jobs can be claimed again; the loop may still start the one run that
it had claimed before.
-/

/-- The job is not stored, or neither queued nor leased. -/
def JobStore.IsAtRest
    (store : JobStore)
    (jobId : String) : Prop :=
  ∀ row ∈ store.row? jobId, row.status.isActive = false

/-- A step stores the job anew. -/
def CfpSchedulerDO.submits
    (self : CfpSchedulerDO)
    (jobId : String)
    (state : SchedulerState)
    (event : SchedulerEvent) : Bool :=
  (self.storeCalls state event).any fun call =>
    match call with
    | .enqueue _ job => job.id = jobId
    | _ => false

/-- The step is an eviction, which ends every call that is under way. -/
def SchedulerEvent.isEviction : SchedulerEvent → Bool
  | .evict => true
  | _ => false

/-- The task has come to its end. -/
def SchedulerTask.hasReturned : SchedulerTask → Bool
  | .finished => true
  | _ => false

/-- How often a job has been claimed, and how often a run of it has started. -/
structure JobRuns where
  claims : Nat := 0
  starts : Nat := 0

/-- What a step adds to the claims and runs of a job. -/
def CfpSchedulerDO.recordRuns
    (self : CfpSchedulerDO)
    (jobId : String)
    (state : SchedulerState)
    (event : SchedulerEvent)
    (runs : JobRuns) : JobRuns where
  claims := runs.claims + (self.claimedIds state event).count jobId
  starts :=
    runs.starts + if state.started? event = some jobId then 1 else 0

/-! ## Rows at rest -/

/-- No call changes a row at rest. -/
theorem JobsRow.Move.of_rests
    {call : JobStoreCall}
    {old : Option JobsRow}
    {new : JobsRow}
    (moved : JobsRow.Move call old (some new))
    (notSubmitted : ∀ now job, call = .enqueue now job → job.id ≠ new.id)
    (rests : ∀ row ∈ old, row.status.isActive = false) :
    old = some new := by
  have isActive
      {row : JobsRow}
      (isOld : old = some row)
      (active : row.status.isActive) : old = some new := by
    rw [rests row isOld] at active
    cases active
  cases moved with
  | stay => rfl
  | insert => exact absurd rfl (notSubmitted _ _ rfl)
  | lease free => exact isActive rfl (JobsRow.isActive_of_isFree free)
  | ack leased => exact isActive rfl (JobsRow.isActive_of_isLeasedBy leased)
  | fail leased => exact isActive rfl (JobsRow.isActive_of_isLeasedBy leased)
  | failQueued queued => exact isActive rfl (by rw [queued]; rfl)
  | cancel active => exact isActive rfl active
  | reclaim reclaimable =>
      exact isActive rfl (JobsRow.isActive_of_isReclaimable reclaimable)

namespace JobStore

variable {store : JobStore}
variable {jobId : String}

/-- A store with the row of another one, or without it. -/
theorem IsAtRest.of_kept
    {later : JobStore}
    (rests : store.IsAtRest jobId)
    (kept : later.row? jobId = store.row? jobId ∨ later.row? jobId = none) :
    later.IsAtRest jobId := by
  intro row found
  rcases kept with same | gone
  · exact rests row (same ▸ found)
  · rw [gone] at found
    cases found

/-- A call that does not submit a job at rest keeps its row or sweeps it. -/
theorem IsAtRest.row?_invoke
    {call : JobStoreCall}
    (rests : store.IsAtRest jobId)
    (notSubmitted : ∀ now job, call = .enqueue now job → job.id ≠ jobId) :
    (store.invoke call).1.row? jobId = store.row? jobId ∨
      (store.invoke call).1.row? jobId = none := by
  have moved := store.row?_invoke call jobId
  cases after : (store.invoke call).1.row? jobId with
  | none => exact .inr rfl
  | some new =>
      rw [after] at moved
      refine .inl (moved.of_rests (fun now job isEnqueue => ?_) rests).symm
      rw [id_of_row? after]
      exact notSubmitted now job isEnqueue

/-- Calls that do not submit a job at rest keep its row or sweep it. -/
theorem IsAtRest.row?_after
    {calls : List JobStoreCall}
    (rests : store.IsAtRest jobId)
    (notSubmitted : ∀ now job, .enqueue now job ∈ calls → job.id ≠ jobId) :
    (store.after calls).row? jobId = store.row? jobId ∨
      (store.after calls).row? jobId = none := by
  induction calls generalizing store with
  | nil => exact .inl rfl
  | cons call rest inductionHypothesis =>
      have first :=
        rests.row?_invoke fun now job isEnqueue =>
          notSubmitted now job (isEnqueue ▸ List.mem_cons_self)
      have later :=
        inductionHypothesis (rests.of_kept first) fun now job isEnqueue =>
          notSubmitted now job (List.mem_cons_of_mem call isEnqueue)
      rcases later with same | gone
      · exact first.imp same.trans same.trans
      · exact .inr gone

/-- What a claim takes is not at rest. -/
theorem IsAtRest.not_isClaimable
    {now : Int}
    {row : JobsRow}
    (rests : store.IsAtRest jobId)
    (found : store.row? jobId = some row) :
    ¬ row.isClaimable now := by
  intro claimable
  have active :=
    JobsRow.isActive_of_isFree (Bool.and_eq_true_iff.mp claimable).1
  rw [rests row found] at active
  cases active

/-- Once it is cancelled a job is at rest. -/
theorem isAtRest_cancel
    (store : JobStore)
    (now : Int)
    (jobId : String)
    (reason : Option String) :
    (store.cancel now jobId reason).1.IsAtRest jobId := by
  intro row found
  rw [Option.mem_def, row?_cancel] at found
  obtain ⟨old, isOld, rfl⟩ := Option.map_eq_some_iff.mp found
  split
  next =>
    rfl
  next notActive =>
    simpa [id_of_row? isOld] using notActive

/-- An active job of a tenant is listed. -/
theorem mem_listActiveByTenant
    {row : JobsRow}
    (stored : row ∈ store.jobs.rows)
    (active : row.status.isActive) :
    row.id ∈
      (store.listActiveByTenant row.tenantId).map PersistedJob.id := by
  unfold listActiveByTenant byCreation
  rw [List.map_map]
  refine List.mem_map.mpr ⟨row, ?_, rfl⟩
  rw [List.mem_insertionSort, ScanOrder.mem_arrange, List.mem_filter]
  exact ⟨stored, by simp [active]⟩

end JobStore

/-! ## Steps of the object -/

variable {self : CfpSchedulerDO}
variable {state next : SchedulerState}
variable {event : SchedulerEvent}
variable {jobId : String}

/-- The calls of a step that does not submit a job enqueue others. -/
theorem not_submitted
    (unsubmitted : self.submits jobId state event = false)
    (now : Int)
    (job : PersistedJob)
    (isCall : .enqueue now job ∈ self.storeCalls state event) :
    job.id ≠ jobId := by
  have notJob := List.any_eq_false.mp unsubmitted _ isCall
  simpa using notJob

/-- A step keeps the row of a job at rest or sweeps it. -/
theorem row?_step
    (stepped : self.step state event = some next)
    (unsubmitted : self.submits jobId state event = false)
    (rests : state.store.IsAtRest jobId) :
    next.store.row? jobId = state.store.row? jobId ∨
      next.store.row? jobId = none := by
  rw [store_step stepped]
  exact rests.row?_after (not_submitted unsubmitted)

/-- A job at rest before a step is at rest when its loop part begins. -/
theorem isAtRest_segment
    {segment : Segment}
    (isSegment : self.segment state event = some segment)
    (unsubmitted : self.submits jobId state event = false)
    (rests : state.store.IsAtRest jobId) :
    segment.state.store.IsAtRest jobId := by
  rw [store_segment isSegment]
  refine rests.of_kept (rests.row?_after fun now job isCall => ?_)
  exact
    not_submitted unsubmitted now job (List.mem_append_left _ isCall)

/-- A step claims no job at rest. -/
theorem claimedIds_of_rests
    (unsubmitted : self.submits jobId state event = false)
    (rests : state.store.IsAtRest jobId) :
    jobId ∉ self.claimedIds state event := by
  intro claimed
  unfold CfpSchedulerDO.claimedIds at claimed
  split at claimed
  next =>
    cases claimed
  next segment isSegment =>
    obtain ⟨row, isClaimed, rfl⟩ := List.mem_map.mp claimed
    unfold Segment.claimedRows at isClaimed
    split at isClaimed
    next =>
      cases isClaimed
    next =>
      split at isClaimed
      next =>
        cases isClaimed
      next =>
        obtain ⟨found, claimable⟩ := JobStore.claimable_of_candidate isClaimed
        have restsThen := isAtRest_segment isSegment unsubmitted rests
        exact restsThen.not_isClaimable found claimable

/-- What starts to run is what the loop has claimed. -/
theorem holds_of_started
    (starts : state.started? event = some jobId) :
    state.dispatcher.loop.holds jobId = true := by
  unfold SchedulerState.started? at starts
  split at starts
  next =>
    split at starts
    next target claimed =>
      obtain ⟨job, rfl, isJob⟩ := Option.map_eq_some_iff.mp starts
      rw [claimed]
      exact decide_eq_true isJob
    next =>
      cases starts
  next =>
    cases starts

/-- Before the kick, the loop stays where it is or comes back to idle. -/
theorem CfpSchedulerDO.Moves.loop
    {tasks : List SchedulerTask}
    {dispatcher : Dispatcher}
    (moves : self.Moves state event tasks dispatcher) :
    dispatcher.loop = .idle ∨
      (dispatcher.loop = state.dispatcher.loop ∧
        state.started? event = none) := by
  cases moves with
  | enqueue begins =>
      cases begins <;> exact .inr ⟨rfl, rfl⟩
  | cancel => exact .inr ⟨rfl, rfl⟩
  | cancelByTenant => exact .inr ⟨rfl, rfl⟩
  | @configure c =>
      obtain ⟨config, same⟩ := dispatcher_configure state c
      exact .inr ⟨by rw [same], rfl⟩
  | status => exact .inr ⟨rfl, rfl⟩
  | result => exact .inr ⟨rfl, rfl⟩
  | deliverAlarm begins =>
      cases begins <;> exact .inr ⟨rfl, rfl⟩
  | resume _ goes => exact .inr ⟨goes.loop, rfl⟩
  | loopGoesOn => exact .inl rfl
  | runs => exact .inl rfl
  | settle => exact .inr ⟨rfl, rfl⟩
  | evict _ _ _ idle => exact .inl idle

/-- At the end of a step the loop has claimed no job at rest. -/
theorem holds_finish
    {readings : LoopReadings}
    {segment : Segment}
    (rests : segment.state.store.IsAtRest jobId)
    (holds : (segment.finish self readings).dispatcher.loop.holds jobId) :
    segment.state.dispatcher.loop.holds jobId = true := by
  have loopEnd := segment.loopEnd self readings
  generalize (segment.finish self readings).dispatcher.loop = loop
    at loopEnd holds
  generalize (segment.finish self readings).store = store at loopEnd
  cases loopEnd with
  | stays => exact holds
  | rejected => cases holds
  | failedExpired => cases holds
  | missed => cases holds
  | claimed _ _ _ _ found claimable isLeased =>
      subst isLeased
      obtain rfl := of_decide_eq_true holds
      exact absurd claimable (rests.not_isClaimable found)

/-- A run of a job at rest starts only where the loop had claimed the job. -/
theorem starts_add_holds
    (stepped : self.step state event = some next)
    (unsubmitted : self.submits jobId state event = false)
    (rests : state.store.IsAtRest jobId) :
    (if state.started? event = some jobId then 1 else 0) +
        (next.dispatcher.loop.holds jobId).toNat ≤
      (state.dispatcher.loop.holds jobId).toNat := by
  obtain ⟨segment, isSegment, rfl⟩ := Option.map_eq_some_iff.mp stepped
  have restsThen := isAtRest_segment isSegment unsubmitted rests
  have finishes :
      ((segment.finish self event.loopReadings).dispatcher.loop.holds
          jobId).toNat ≤
        (segment.state.dispatcher.loop.holds jobId).toNat :=
    Bool.toNat_le_toNat (holds_finish restsThen)
  refine (Nat.add_le_add_left finishes _).trans ?_
  rcases (CfpSchedulerDO.moves isSegment).loop with idle | ⟨same, noStart⟩
  · rw [idle]
    split
    next starts =>
      rw [holds_of_started starts]
      rfl
    next =>
      exact Nat.zero_le _
  · rw [same, noStart]
    exact (Nat.zero_add _).le

/-! ## The call -/

/-- A task that is not running stays where it is or goes on. -/
theorem CfpSchedulerDO.Moves.task_at
    {tasks : List SchedulerTask}
    {dispatcher : Dispatcher}
    {index : Nat}
    {task : SchedulerTask}
    (moves : self.Moves state event tasks dispatcher)
    (loaded : event.isEviction = false)
    (found : state.tasks[index]? = some task)
    (notRunning : ∀ job call, task ≠ .running job call) :
    tasks[index]? = some task ∨
      ∃ readings new started,
        event = .resume index readings ∧
          task.GoesOn self state readings new started dispatcher ∧
            tasks[index]? = some new := by
  have inside : index < state.tasks.length :=
    (List.getElem?_eq_some_iff.mp found).1
  have appended (started : List SchedulerTask) :
      (state.tasks ++ started)[index]? = some task := by
    rw [List.getElem?_append_left inside, found]
  cases moves with
  | enqueue => exact .inl (appended _)
  | cancel => exact .inl (appended _)
  | cancelByTenant => exact .inl (appended _)
  | configure => exact .inl found
  | status => exact .inl found
  | result => exact .inl found
  | deliverAlarm => exact .inl (appended _)
  | @resume position readings old new started _ isTask goes =>
      rw [List.getElem?_append_left (by rwa [List.length_set])]
      by_cases same : position = index
      · subst same
        rw [found] at isTask
        cases isTask
        refine .inr ⟨readings, new, started, rfl, goes, ?_⟩
        exact List.getElem?_set_self inside
      · rw [List.getElem?_set_ne same]
        exact .inl found
  | loopGoesOn => exact .inl found
  | runs => exact .inl (appended _)
  | @settle position job call _ isTask =>
      have other : position ≠ index := by
        rintro rfl
        rw [found] at isTask
        exact notRunning job call (Option.some.inj isTask)
      rw [List.getElem?_set_ne other]
      exact .inl found
  | evict => cases loaded

/-- The job is at rest, or the call has still to cancel it. -/
inductive SchedulerState.Cancels
    (state : SchedulerState)
    (index : Nat)
    (jobId : String) : Prop where
  | rests :
      state.store.IsAtRest jobId →
      Cancels state index jobId
  | listed {tenantId : String} {reason : Option String}
      {active : List PersistedJob} {count : Nat} :
      state.tasks[index]? =
        some (.cancelTenant tenantId reason active count) →
      jobId ∈ active.map PersistedJob.id →
      Cancels state index jobId

/-- Each step of the object keeps it so. -/
theorem cancels_step
    {index : Nat}
    (stepped : self.step state event = some next)
    (loaded : event.isEviction = false)
    (unsubmitted : self.submits jobId state event = false)
    (cancels : state.Cancels index jobId) :
    next.Cancels index jobId := by
  cases cancels with
  | rests rests =>
      exact .rests (rests.of_kept (row?_step stepped unsubmitted rests))
  | @listed tenantId reason active count found member =>
      obtain ⟨segment, isSegment, rfl⟩ := Option.map_eq_some_iff.mp stepped
      have tasks := (segment.finishes self event.loopReadings).tasks
      have goesOn :=
        (CfpSchedulerDO.moves isSegment).task_at loaded found (by simp)
      rw [← tasks] at goesOn
      generalize segment.state.dispatcher = dispatcher at goesOn
      rcases goesOn with stays | ⟨readings, new, started, rfl, goes, isNew⟩
      · exact .listed stays member
      cases goes with
      | tenantCleared => cases member
      | @tenantCancels _ _ job active _ counted =>
          rcases List.mem_cons.mp member with isJob | waits
          · refine .rests ?_
            have calls :
                self.segmentCalls state (.resume index readings) =
                  [.cancel readings.now job.id reason] := by
              unfold CfpSchedulerDO.segmentCalls
              dsimp only
              rw [found]
              rfl
            have restsThen : segment.state.store.IsAtRest jobId := by
              rw [store_segment isSegment, calls, isJob]
              exact JobStore.isAtRest_cancel _ _ _ _
            refine restsThen.of_kept ?_
            rw [(segment.finishes self _).store]
            refine restsThen.row?_after fun now job isCall => ?_
            refine not_submitted unsubmitted now job ?_
            unfold CfpSchedulerDO.storeCalls
            rw [isSegment]
            exact List.mem_append_right _ isCall
          · exact .listed isNew waits

/-- What holds of a job from when it has come to rest. -/
structure RestsSince
    (jobId : String)
    (answer : Option JobsRow)
    (held : Bool)
    (state : SchedulerState)
    (runs : JobRuns) : Prop where
  kept : state.store.row? jobId = answer ∨ state.store.row? jobId = none
  unclaimed : runs.claims = 0
  started :
    runs.starts + (state.dispatcher.loop.holds jobId).toNat ≤ held.toNat

/-- A job that has come to rest stays there until it is submitted anew. -/
theorem restsSince_step
    {start : SchedulerState}
    {current next : SchedulerState × JobRuns}
    (rests : start.store.IsAtRest jobId)
    (unsubmitted : self.submits jobId current.1 event = false)
    (recorded :
      recording self.step (self.recordRuns jobId) current event = some next)
    (since :
      RestsSince jobId (start.store.row? jobId)
        (start.dispatcher.loop.holds jobId) current.1 current.2) :
    RestsSince jobId (start.store.row? jobId)
      (start.dispatcher.loop.holds jobId) next.1 next.2 := by
  obtain ⟨_, stepped, rfl⟩ := Option.map_eq_some_iff.mp recorded
  have stillRests := rests.of_kept since.kept
  refine { kept := ?_, unclaimed := ?_, started := ?_ }
  · rcases row?_step stepped unsubmitted stillRests with same | gone
    · exact since.kept.imp same.trans same.trans
    · exact .inr gone
  · change current.2.claims + (self.claimedIds current.1 event).count jobId = 0
    rw [since.unclaimed,
      List.count_eq_zero_of_not_mem
        (claimedIds_of_rests unsubmitted stillRests)]
  · have starts := starts_add_holds stepped unsubmitted stillRests
    have before := since.started
    dsimp only [CfpSchedulerDO.recordRuns]
    omega

/-- A job of a tenant that is cancelled is at rest when the call returns. -/
theorem isAtRest_cancelByTenant
    {first last : SchedulerState}
    {tenantId : String}
    {reason : Option String}
    {row : JobsRow}
    {events : List SchedulerEvent}
    (called : self.step state (.cancelByTenant tenantId reason) = some first)
    (stored : row ∈ state.store.jobs.rows)
    (ofTenant : row.tenantId = tenantId)
    (active : row.status.isActive)
    (during :
      GuardedRun self.step
        (fun state event =>
          event.isEviction = false ∧
            self.submits row.id state event = false)
        first events last)
    (returned :
      last.tasks[state.tasks.length]?.any SchedulerTask.hasReturned) :
    last.store.IsAtRest row.id := by
  have begins : first.Cancels state.tasks.length row.id := by
    obtain ⟨segment, isSegment, rfl⟩ := Option.map_eq_some_iff.mp called
    cases isSegment
    subst ofTenant
    refine
      @SchedulerState.Cancels.listed _ _ _ row.tenantId reason _ 0 ?_
        (JobStore.mem_listActiveByTenant stored active)
    rw [(Segment.finishes ..).tasks]
    exact List.getElem?_concat_length
  have ends : last.Cancels state.tasks.length row.id :=
    during.invariant
      (fun met stepped => cancels_step stepped met.1 met.2) begins
  cases ends with
  | rests rests => exact rests
  | listed found =>
      rw [found] at returned
      cases returned

/--
Whatever happens while `cancelByTenant` is under way, no job that it found
active is claimed after it has returned, and its row is not changed any more;
a run of it starts at most once, and only if the loop had claimed it before.
-/
theorem cancelled_tenant_stays_cancelled
    {first last : SchedulerState}
    {final : SchedulerState × JobRuns}
    {tenantId : String}
    {reason : Option String}
    {row : JobsRow}
    {events later : List SchedulerEvent}
    (called : self.step state (.cancelByTenant tenantId reason) = some first)
    (stored : row ∈ state.store.jobs.rows)
    (ofTenant : row.tenantId = tenantId)
    (active : row.status.isActive)
    (during :
      GuardedRun self.step
        (fun state event =>
          event.isEviction = false ∧
            self.submits row.id state event = false)
        first events last)
    (returned :
      last.tasks[state.tasks.length]?.any SchedulerTask.hasReturned)
    (afterwards :
      GuardedRun (recording self.step (self.recordRuns row.id))
        (fun current event => self.submits row.id current.1 event = false)
        (last, {}) later final) :
    last.store.IsAtRest row.id ∧
      RestsSince row.id (last.store.row? row.id)
        (last.dispatcher.loop.holds row.id) final.1 final.2 := by
  have rests :=
    isAtRest_cancelByTenant called stored ofTenant active during returned
  refine ⟨rests, ?_⟩
  exact
    @GuardedRun.invariant _ _ _ _
      (fun current : SchedulerState × JobRuns =>
        RestsSince row.id (last.store.row? row.id)
          (last.dispatcher.loop.holds row.id) current.1 current.2)
      (fun unsubmitted recorded =>
        restsSince_step rests unsubmitted recorded)
      _ _ _ afterwards
      { kept := .inl rfl
        unclaimed := rfl
        started := (Nat.zero_add _).le }

/-- The job is claimed at time ten, and its tenant is cancelled before it runs. -/
def slowClaimed : List SchedulerEvent :=
  slowStarts.dropLast

/-- The one run that the loop has claimed starts after the call has returned. -/
theorem cancelled_tenant_stays_cancelled_slowClaimed :
    ∃ (state first last : SchedulerState)
      (final : SchedulerState × JobRuns),
      Run (CfpSchedulerDO.step .plain) {} slowClaimed state ∧
        CfpSchedulerDO.step .plain state (.cancelByTenant "tenant" none) =
          some first ∧
        last.dispatcher.loop.holds "slow" ∧
        final.2.starts = 1 ∧
        RestsSince "slow" (last.store.row? "slow") true final.1 final.2 := by
  have executed :
      (slowClaimed.foldlM (CfpSchedulerDO.step .plain) {}).any fun state =>
        (CfpSchedulerDO.step .plain state
            (.cancelByTenant "tenant" none)).any fun first =>
          ([.resume 1 (.at 20), .resume 1 (.at 20)].foldlM
              (fun state event =>
                if event.isEviction = false ∧
                    CfpSchedulerDO.submits .plain "slow" state event =
                      false then
                  CfpSchedulerDO.step .plain state event
                else
                  none) first).any fun last =>
            ([SchedulerEvent.resumeLoop { check := 30, claim := 30 }].foldlM
                (fun current event =>
                  if CfpSchedulerDO.submits .plain "slow" current.1 event =
                      false then
                    recording (CfpSchedulerDO.step .plain)
                      (CfpSchedulerDO.recordRuns .plain "slow") current event
                  else
                    none) (last, {})).any fun final =>
              (state.store.row? "slow").any
                  (fun row =>
                    row.tenantId = "tenant" && row.status.isActive) &&
                last.tasks[state.tasks.length]?.any
                    SchedulerTask.hasReturned &&
                  last.dispatcher.loop.holds "slow" &&
                    final.2.starts = 1 := by
    decide +kernel
  obtain ⟨state, isState, executed⟩ := (Option.any_eq_true _ _).mp executed
  obtain ⟨first, called, executed⟩ := (Option.any_eq_true _ _).mp executed
  obtain ⟨last, isLast, executed⟩ := (Option.any_eq_true _ _).mp executed
  obtain ⟨final, isFinal, executed⟩ := (Option.any_eq_true _ _).mp executed
  simp only [Bool.and_eq_true, decide_eq_true_eq] at executed
  obtain ⟨⟨⟨isActive, returned⟩, holds⟩, starts⟩ := executed
  obtain ⟨row, found, isActive⟩ := (Option.any_eq_true _ _).mp isActive
  obtain ⟨ofTenant, active⟩ := Bool.and_eq_true_iff.mp isActive
  have isSlow := JobStore.id_of_row? found
  have settled :=
    @cancelled_tenant_stays_cancelled .plain state first last final "tenant"
      none row _ _ called (JobStore.mem_of_row? found)
      (of_decide_eq_true ofTenant) active
      (by rw [isSlow]; exact .of_checked isLast)
      returned
      (by rw [isSlow]; exact .of_checked isFinal)
  rw [isSlow, holds] at settled
  exact
    ⟨state, first, last, final, .of_foldlM isState, called, holds, starts,
      settled.2⟩

end CloudflareParallel
