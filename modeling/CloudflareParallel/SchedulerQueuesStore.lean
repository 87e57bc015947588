import CloudflareParallel.SchedulerJobColumns
import CloudflareParallel.SchedulerStateMachine

namespace CloudflareParallel

/-!
# The store over a queue

`QueuesJobStore` keeps the rows in a wrapped store, its shadow, and hands the
jobs to a queue.  A queue delivers what was sent to it, as often as it likes.
Neither `claim` nor `reclaimExpiredLeases` reaches the shadow, so that no call
ever leases one of its rows.
-/

/-- `QueuesJobStore`: its shadow, and all that was sent to the queue. -/
structure QueuesJobStore where
  shadow : JobStore
  queue : List PersistedJob := []

/-- The call settles the job of this id, if it is not refused. -/
def JobStoreCall.Settles
    (call : JobStoreCall)
    (jobId : String) : Prop :=
  match call with
  | .ack _ ackedId _ _ _ => ackedId = jobId
  | .fail _ failedId _ _ => failedId = jobId
  | .failQueued _ failedId _ => failedId = jobId
  | .cancel _ cancelledId _ => cancelledId = jobId
  | _ => False

/-- An `ack` is accepted when the row is leased by its owner. -/
theorem JobStore.ack_snd
    (store : JobStore)
    (now : Int)
    (jobId leaseOwner : String)
    (value : JsValue)
    (resultExpiresMs : Int) :
    (store.ack now jobId leaseOwner value resultExpiresMs).2 =
      ((store.row? jobId).filter (·.isLeasedBy leaseOwner)).isSome := by
  unfold ack
  dsimp only
  rw [compareAndSet_snd, Option.isSome_map]

namespace QueuesJobStore

/-- One call of `QueuesJobStore` whose message, if any, the queue takes. -/
def invoke
    (store : QueuesJobStore) :
    JobStoreCall → QueuesJobStore × JobStoreAnswer
  | .enqueue now job =>
      match store.shadow.enqueue now job with
      | .ok shadow =>
          ({ shadow := shadow, queue := store.queue ++ [job] }, .accepted)
      | .error _ => (store, .rejected)
  | .claim _ _ => (store, .jobs [])
  | .reclaimExpiredLeases _ => (store, .count 0)
  | delegated =>
      let invoked := store.shadow.invoke delegated
      ({ store with shadow := invoked.1 }, invoked.2)

/-- What happens at the store and its queue. -/
inductive Event where
  | called (call : JobStoreCall) (answer : JobStoreAnswer)
  | delivered (job : PersistedJob) (consumer : String)

/-- One step of the store and its queue. -/
inductive Step : QueuesJobStore → Event → QueuesJobStore → Prop where
  | call {store : QueuesJobStore}
      (call : JobStoreCall) :
      Step store (.called call (store.invoke call).2) (store.invoke call).1
  /-- The row is inserted, and `queue.send` rejects. -/
  | unsent {store : QueuesJobStore}
      {shadow : JobStore}
      {now : Int}
      {job : PersistedJob} :
      store.shadow.enqueue now job = .ok shadow →
      Step store (.called (.enqueue now job) .rejected)
        { store with shadow := shadow }
  | deliver {store : QueuesJobStore}
      {job : PersistedJob}
      (consumer : String) :
      job ∈ store.queue →
      Step store (.delivered job consumer) store

/-- A run from one state to another, with its events in order. -/
inductive Run
    (start : QueuesJobStore) : List Event → QueuesJobStore → Prop where
  | start : Run start [] start
  | step {events : List Event}
      {store next : QueuesJobStore}
      {event : Event} :
      Run start events store →
      Step store event next →
      Run start (events ++ [event]) next

/-- The job was not cancelled, failed or acked. -/
def Unsettled
    (jobId : String)
    (events : List Event) : Prop :=
  ∀ call answer,
    .called call answer ∈ events →
    call.Settles jobId →
    ¬ answer.Reports jobId

/-- Every sweep was made before the expiry was over. -/
def SweptBy
    (expires : Int)
    (events : List Event) : Prop :=
  ∀ now answer, .called (.sweepExpired now) answer ∈ events → now ≤ expires

/--
An `ack` returns true and makes the job done; from then on, whatever is called,
its result is what the text of the acked value gives back until it expires.
-/
structure AckCompletes
    (store : QueuesJobStore)
    (jobId leaseOwner : String)
    (now : Int)
    (value : JsValue)
    (expires : Int) : Prop where
  accepted :
    (store.invoke (.ack now jobId leaseOwner value expires)).2 =
      .changed true
  done :
    (store.invoke (.ack now jobId leaseOwner value expires)).1.shadow.status
        jobId =
      some .done
  result :
    ∀ events later,
      Run (store.invoke (.ack now jobId leaseOwner value expires)).1 events
        later →
      SweptBy expires events →
      ∀ asked ≤ expires,
        ∃ answer,
          (later.invoke (.result asked jobId)).2 = .result answer ∧
            ∀ exoticJson,
              answer.decoded exoticJson =
                { status := .done, value := some (value.decoded exoticJson) }

/-! ## Rows of the shadow -/

/-- The call reaches the shadow. -/
def IsForwarded : JobStoreCall → Bool
  | .claim _ _ => false
  | .reclaimExpiredLeases _ => false
  | _ => true

/-- A forwarded call, or an unsent job, makes every row make a move. -/
theorem Step.move
    {store next : QueuesJobStore}
    {event : Event}
    (step : Step store event next)
    (jobId : String) :
    next.shadow.row? jobId = store.shadow.row? jobId ∨
      ∃ call answer,
        event = .called call answer ∧
          IsForwarded call = true ∧
            JobsRow.Move call (store.shadow.row? jobId)
              (next.shadow.row? jobId) ∧
              (call.Settles jobId →
                ¬ answer.Reports jobId →
                next.shadow.row? jobId = store.shadow.row? jobId) := by
  cases step with
  | deliver consumer sent =>
      exact .inl rfl
  | @unsent shadow now job inserted =>
      have moved := store.shadow.row?_invoke (.enqueue now job) jobId
      simp only [JobStore.invoke, inserted] at moved
      exact .inr ⟨_, _, rfl, rfl, moved, fun settles => settles.elim⟩
  | call call =>
      have moved := store.shadow.row?_invoke call jobId
      have unreported :=
        @JobStore.row?_invoke_of_not_reported store.shadow call jobId
      cases call with
      | claim now req =>
          exact .inl rfl
      | reclaimExpiredLeases now =>
          exact .inl rfl
      | enqueue now job =>
          refine
            .inr ⟨_, _, rfl, rfl, ?_, fun settles => settles.elim⟩
          unfold invoke
          dsimp only
          cases inserted : store.shadow.enqueue now job with
          | error err =>
              exact .stay
          | ok shadow =>
              simp only [JobStore.invoke, inserted] at moved
              exact moved
      | _ =>
          exact .inr ⟨_, _, rfl, rfl, moved, fun _ => unreported⟩

/-- A row that is leased after a step was the same before. -/
theorem Step.leased_before
    {store next : QueuesJobStore}
    {event : Event}
    (step : Step store event next)
    {jobId leaseOwner : String}
    {row : JobsRow}
    (found : next.shadow.row? jobId = some row)
    (leased : row.isLeasedBy leaseOwner) :
    store.shadow.row? jobId = some row := by
  have isLeased : row.status = .leased :=
    of_decide_eq_true (Bool.and_eq_true_iff.mp leased).1
  rcases step.move jobId with same | ⟨call, answer, _, forwarded, moved, _⟩
  · rw [← same]
    exact found
  · rw [found] at moved
    generalize store.shadow.row? jobId = old at moved
    cases moved with
    | stay => rfl
    | lease => cases forwarded
    | reclaim => cases forwarded
    | insert => cases isLeased
    | ack => cases isLeased
    | failQueued => cases isLeased
    | cancel => cases isLeased
    | fail =>
        unfold JobsRow.failedOnce at isLeased
        dsimp only at isLeased
        split at isLeased <;> cases isLeased

/-- A leased row stays as it is while its job is not settled. -/
theorem Step.leased_after
    {store next : QueuesJobStore}
    {event : Event}
    (step : Step store event next)
    {jobId leaseOwner : String}
    {row : JobsRow}
    (found : store.shadow.row? jobId = some row)
    (leased : row.isLeasedBy leaseOwner)
    (unsettled : Unsettled jobId [event]) :
    next.shadow.row? jobId = some row := by
  have isLeased : row.status = .leased :=
    of_decide_eq_true (Bool.and_eq_true_iff.mp leased).1
  have sameId := JobStore.id_of_row? found
  rcases step.move jobId with
    same | ⟨call, answer, rfl, forwarded, moved, refused⟩
  · rw [same]
    exact found
  · have kept (settles : call.Settles jobId) :
        next.shadow.row? jobId = some row := by
      rw [← found]
      exact refused settles
        (unsettled call answer (List.mem_singleton.mpr rfl) settles)
    rw [found] at moved
    generalize after : next.shadow.row? jobId = new at moved kept ⊢
    cases moved with
    | stay => rfl
    | lease => cases forwarded
    | reclaim => cases forwarded
    | ack => exact kept sameId
    | fail => exact kept sameId
    | cancel => exact kept sameId
    | failQueued queued =>
        rw [isLeased] at queued
        cases queued
    | sweep sweepable =>
        simp [JobsRow.isSweepable, isLeased] at sweepable

/-- A done row stays as it is until its result may be swept. -/
theorem Step.done_after
    {store next : QueuesJobStore}
    {event : Event}
    (step : Step store event next)
    {jobId : String}
    {row : JobsRow}
    {expires : Int}
    (found : store.shadow.row? jobId = some row)
    (done : row.status = .done)
    (expiry : row.resultExpiresMs = some expires)
    (swept : SweptBy expires [event]) :
    next.shadow.row? jobId = some row := by
  rcases step.move jobId with
    same | ⟨call, answer, rfl, forwarded, moved, _⟩
  · rw [same]
    exact found
  · rw [found] at moved
    rcases moved.absorbing (by rw [done]; rfl) with
      same | ⟨gone, now, rfl, sweepable⟩
    · exact same
    · have intime := swept now answer (List.mem_singleton.mpr rfl)
      simp only [JobsRow.isSweepable, expiry, Option.any_some,
        Bool.and_eq_true, decide_eq_true_eq] at sweepable
      omega

/-! ## Runs -/

/-- Only rows that were leased at the start are leased. -/
theorem Run.leased_before
    {start store : QueuesJobStore}
    {events : List Event}
    (run : Run start events store)
    {jobId leaseOwner : String}
    {row : JobsRow}
    (found : store.shadow.row? jobId = some row)
    (leased : row.isLeasedBy leaseOwner) :
    start.shadow.row? jobId = some row := by
  induction run with
  | start =>
      exact found
  | step _ step inductionHypothesis =>
      exact inductionHypothesis (step.leased_before found leased)

/-- A row that was leased at the start is leased until its job is settled. -/
theorem Run.leased_after
    {start store : QueuesJobStore}
    {events : List Event}
    (run : Run start events store)
    {jobId leaseOwner : String}
    {row : JobsRow}
    (found : start.shadow.row? jobId = some row)
    (leased : row.isLeasedBy leaseOwner)
    (unsettled : Unsettled jobId events) :
    store.shadow.row? jobId = some row := by
  induction run with
  | start =>
      exact found
  | step _ step inductionHypothesis =>
      refine step.leased_after (inductionHypothesis ?_) leased ?_
      · intro call answer member
        exact unsettled call answer (List.mem_append_left _ member)
      · intro call answer member
        exact unsettled call answer (List.mem_append_right _ member)

/-- A done row stays as it is until its result may be swept. -/
theorem Run.done_after
    {start store : QueuesJobStore}
    {events : List Event}
    (run : Run start events store)
    {jobId : String}
    {row : JobsRow}
    {expires : Int}
    (found : start.shadow.row? jobId = some row)
    (done : row.status = .done)
    (expiry : row.resultExpiresMs = some expires)
    (swept : SweptBy expires events) :
    store.shadow.row? jobId = some row := by
  induction run with
  | start =>
      exact found
  | step _ step inductionHypothesis =>
      refine step.done_after (inductionHypothesis ?_) done expiry ?_
      · intro now answer member
        exact swept now answer (List.mem_append_left _ member)
      · intro now answer member
        exact swept now answer (List.mem_append_right _ member)

/-- An `ack` by the owner of a lease completes the job. -/
theorem ackCompletes_of_leased
    {store : QueuesJobStore}
    {jobId leaseOwner : String}
    {row : JobsRow}
    (found : store.shadow.row? jobId = some row)
    (leased : row.isLeasedBy leaseOwner)
    (now : Int)
    (value : JsValue)
    (expires : Int) :
    store.AckCompletes jobId leaseOwner now value expires := by
  have sameId := JobStore.id_of_row? found
  have acked :
      (store.invoke
          (.ack now jobId leaseOwner value expires)).1.shadow.row? jobId =
        some (row.acked value expires) := by
    have updated :=
      JobStore.row?_ack store.shadow now jobId leaseOwner value expires jobId
    rw [found] at updated
    simp only [sameId, leased, decide_true, Bool.and_true, if_true,
      Option.map_some] at updated
    exact updated
  refine {
    accepted := ?_
    done := ?_
    result := ?_
  }
  · change
      JobStoreAnswer.changed
          (store.shadow.ack now jobId leaseOwner value expires).2 = _
    rw [JobStore.ack_snd, found]
    simp [Option.filter, leased]
  · unfold JobStore.status
    rw [acked]
    rfl
  · intro events later run swept asked inTime
    have kept := run.done_after acked rfl rfl swept
    have notExpired : ¬ (expires ≠ 0 ∧ expires < asked) := by omega
    have answered :
        later.shadow.result asked jobId =
          { status := .done, value := some (encodedResult value) } := by
      unfold JobStore.result
      simp [kept, JobsRow.acked, notExpired]
    refine ⟨_, congrArg JobStoreAnswer.result answered, fun exoticJson => ?_⟩
    unfold JobStore.JobResult.decoded
    rw [Option.map_some, JsValue.decoded_encodedResult]

/--
After any run, an `ack` by a consumer that the job was delivered to completes
the job exactly when the shadow had the job's row leased by that consumer before
the run.
-/
theorem ackCompletes_iff
    {start store : QueuesJobStore}
    {events : List Event}
    (run : Run start events store)
    {job : PersistedJob}
    {consumer : String}
    (_delivered : .delivered job consumer ∈ events)
    (unsettled : Unsettled job.id events)
    (now : Int)
    (value : JsValue)
    (expires : Int) :
    store.AckCompletes job.id consumer now value expires ↔
      ∃ row,
        start.shadow.row? job.id = some row ∧ row.isLeasedBy consumer := by
  constructor
  · intro completes
    have accepted := completes.accepted
    change
      JobStoreAnswer.changed
          (store.shadow.ack now job.id consumer value expires).2 = _
      at accepted
    rw [JobStore.ack_snd] at accepted
    simp only [JobStoreAnswer.changed.injEq, Option.isSome_iff_exists]
      at accepted
    obtain ⟨row, filtered⟩ := accepted
    obtain ⟨found, leased⟩ := Option.filter_eq_some_iff.mp filtered
    exact ⟨row, run.leased_before found leased, leased⟩
  · rintro ⟨row, found, leased⟩
    exact
      ackCompletes_of_leased (run.leased_after found leased unsettled) leased
        now value expires

/-- A job with a deadline. -/
def job : PersistedJob where
  id := "job"
  tenantId := "tenant"
  fnHash := "0"
  fnSource := "() => 1"
  args := []
  createdAt := 0
  deadlineEpochMs := 1000
  retry := { max := 1, backoff := .constant, baseMs := 0 }
  retryCount := 0
  status := .queued

/-- The store once the job was enqueued. -/
def enqueued : QueuesJobStore :=
  (QueuesJobStore.invoke { shadow := {} } (.enqueue 0 job)).1

/-- The job is enqueued in an empty store and delivered. -/
def delivery : List Event :=
  [.called (.enqueue 0 job) .accepted, .delivered job "consumer"]

/-- The delivery is a run. -/
theorem run_delivery : Run { shadow := {} } delivery enqueued :=
  .step (.step .start (.call (.enqueue 0 job)))
    (.deliver "consumer" (List.mem_singleton.mpr rfl))

/-- Nobody settles the job. -/
theorem unsettled_delivery : Unsettled job.id delivery := by
  intro call answer member settles
  simp only [delivery, List.mem_cons, Event.called.injEq, List.not_mem_nil,
    reduceCtorEq, or_false] at member
  rw [member.1] at settles
  exact settles.elim

theorem ackCompletes_delivered :
    enqueued.AckCompletes job.id "consumer" 1 .null 2000 ↔
      ∃ row,
        JobStore.row? {} job.id = some row ∧ row.isLeasedBy "consumer" :=
  ackCompletes_iff run_delivery (by simp [delivery]) unsettled_delivery
    1 .null 2000

/-- A job delivered from an empty store is not completed by an `ack`. -/
theorem ack_refused_after_delivery :
    ¬ ∀ events store job consumer,
        Run { shadow := {} } events store →
        .delivered job consumer ∈ events →
        Unsettled job.id events →
        ∀ now value expires,
          store.AckCompletes job.id consumer now value expires := by
  intro completes
  have accepted :=
    (completes delivery enqueued job "consumer" run_delivery
      (by simp [delivery]) unsettled_delivery 1 .null 2000).accepted
  have refused :
      (enqueued.shadow.ack 1 job.id "consumer" .null 2000).2 = false := by
    decide +kernel
  change
    JobStoreAnswer.changed
        (enqueued.shadow.ack 1 job.id "consumer" .null 2000).2 = _
    at accepted
  rw [refused] at accepted
  cases accepted

end QueuesJobStore

end CloudflareParallel
