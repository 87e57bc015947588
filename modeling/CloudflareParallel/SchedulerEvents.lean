import CloudflareParallel.Library.CursorPages
import CloudflareParallel.Library.LabelledRuns
import CloudflareParallel.SchedulerStoreCalls

namespace CloudflareParallel

open KeyedTables
open LabelledRuns
open CursorPages

/-!
# Events

Every change of a job is written to the `events` table, and a reader pages
through it with the time of the last event that it has read.
-/

/-- Two events with the same primary key. -/
def JobEvent.SameKey (event other : JobEvent) : Prop :=
  other.ts = event.ts ∧ other.jobId = event.jobId ∧ other.kind = event.kind

instance (event other : JobEvent) : Decidable (event.SameKey other) :=
  inferInstanceAs (Decidable (_ ∧ _))

/-- `ORDER BY ts ASC`; the order of events with one time is the database's. -/
structure EventOrder where
  arrange : List JobEvent → List JobEvent
  perm : ∀ rows, (arrange rows).Perm rows
  inTime : ∀ rows, InTime JobEvent.ts (arrange rows)

/-- Events with one time as they stand in the table. -/
def EventOrder.inInsertion : EventOrder where
  arrange rows := rows.insertionSort fun row other => row.ts ≤ other.ts
  perm rows := List.perm_insertionSort _ rows
  inTime rows := List.pairwise_insertionSort _ rows

/-- The options of `events`. -/
structure EventsOptions where
  since : Option Int := none
  limit : Option Nat := none

namespace JobStore

/-- `events`. -/
def selectEvents
    (store : JobStore)
    (order : EventOrder)
    (opts : EventsOptions) : List JobEvent :=
  let since := opts.since.getD 0
  let limit := opts.limit.getD 100
  (order.arrange (store.events.filter fun event => since < event.ts)).take
    limit

/-- The events that a call emits, in order. -/
def emits
    (store : JobStore) :
    JobStoreCall → List JobEvent
  | .enqueue now job =>
      if job.id ∈ store.jobs.rows.map JobsRow.id ∨
          store.keyIsTaken job.idempotencyKey then
        []
      else
        [{ ts := now, jobId := job.id, kind := .enqueued }]
  | .claim now req =>
      (store.claim now req).2.map fun job =>
        { ts := now, jobId := job.id, kind := .leased }
  | .ack now jobId leaseOwner result resultExpiresMs =>
      if (store.ack now jobId leaseOwner result resultExpiresMs).2 then
        [{ ts := now, jobId := jobId, kind := .done }]
      else
        []
  | .fail now jobId leaseOwner error =>
      match (store.fail now jobId leaseOwner error).2 with
      | .leased => []
      | .failed => [{ ts := now, jobId := jobId, kind := .failed }]
      | _ => [{ ts := now, jobId := jobId, kind := .retrying }]
  | .failQueued now jobId error =>
      if (store.failQueued now jobId error).2 then
        [{ ts := now, jobId := jobId, kind := .failed }]
      else
        []
  | .cancel now jobId reason =>
      if (store.cancel now jobId reason).2 then
        [{ ts := now
           jobId := jobId
           kind := .cancelled
           detail := reason }]
      else
        []
  | _ => []

end JobStore

/-- The clock reading of a call; some calls make none. -/
def JobStoreCall.now? : JobStoreCall → Option Int
  | .enqueue now _ => some now
  | .claim now _ => some now
  | .ack now _ _ _ _ => some now
  | .fail now _ _ _ => some now
  | .failQueued now _ _ => some now
  | .cancel now _ _ => some now
  | .result now _ => some now
  | .sweepExpired now => some now
  | .reclaimExpiredLeases now => some now
  | _ => none

/-- A store and someone who reads its events. -/
structure EventLog where
  store : JobStore := {}
  /-- The last clock reading. -/
  clock : Int
  /-- What was emitted since the store was created. -/
  emitted : List JobEvent := []
  /-- `since` of the next page: the time of the last event that was read. -/
  since : Option Int := none
  got : List JobEvent := []

/-- A call of the store, or a page of the reader. -/
inductive EventLogStep where
  | call (call : JobStoreCall)
  | read (order : EventOrder) (limit : Nat)

namespace EventLog

/-- The events of the table that the cursor has not passed. -/
def unread (log : EventLog) : List JobEvent :=
  behind JobEvent.ts (log.since.getD 0) log.store.events

/-- The next page. -/
def page
    (log : EventLog)
    (order : EventOrder)
    (limit : Nat) : List JobEvent :=
  log.store.selectEvents order { since := log.since, limit := some limit }

/-- Clock readings do not decrease, and a page has room for an event. -/
def step
    (log : EventLog) :
    EventLogStep → Option EventLog
  | .call call =>
      if call.now?.all (log.clock ≤ ·) then
        some
          { log with
            store := (log.store.invoke call).1
            clock := call.now?.getD log.clock
            emitted := log.emitted ++ log.store.emits call }
      else
        none
  | .read order limit =>
      if 1 ≤ limit then
        some
          { log with
            since :=
              ((log.page order limit).getLast?.map JobEvent.ts).or log.since
            got := log.got ++ log.page order limit }
      else
        none

/--
What was read is the beginning of what was emitted, and a page is empty only
when everything was read.
-/
structure LosesNothing (log : EventLog) : Prop where
  inOrder : log.got <+: log.emitted
  complete :
    ∀ order limit,
      1 ≤ limit →
        log.page order limit = [] →
          log.got = log.emitted

/--
A step keeps the pages whole: a call emits in a later millisecond than the
cursor's, and replaces no event; a page does not end inside a millisecond, and
the database gives the events of a millisecond in the order of emission.
-/
def KeepsPages (log : EventLog) : EventLogStep → Prop
  | .call call =>
      ∀ event ∈ log.store.emits call,
        log.since.getD 0 < event.ts ∧
          ∀ other ∈ log.store.events, ¬ event.SameKey other
  | .read order limit =>
      EndsInTime JobEvent.ts limit log.unread ∧
        ∀ ts,
          ((order.arrange log.unread).filter fun event => event.ts = ts) =
            log.unread.filter fun event => event.ts = ts

end EventLog

/-! ## The events table -/

/-- An event with a new key is appended. -/
theorem insertOrReplace_of_fresh
    {events : List JobEvent}
    {event : JobEvent}
    (fresh : ∀ other ∈ events, ¬ event.SameKey other) :
    insertOrReplace events event = events ++ [event] := by
  unfold insertOrReplace
  rw [List.filter_eq_self.mpr]
  exact fun other member => decide_eq_true (fresh other member)

/-- Events with new keys are appended in order. -/
theorem foldl_insertOrReplace_of_fresh
    {events emitted : List JobEvent}
    (fresh : ∀ event ∈ emitted, ∀ other ∈ events, ¬ event.SameKey other)
    (apart :
      emitted.Pairwise fun earlier later => ¬ later.SameKey earlier) :
    emitted.foldl insertOrReplace events = events ++ emitted := by
  induction emitted generalizing events with
  | nil => rw [List.foldl_nil, List.append_nil]
  | cons event later inductionHypothesis =>
      obtain ⟨eventApart, laterApart⟩ := List.pairwise_cons.mp apart
      rw [List.foldl_cons,
        insertOrReplace_of_fresh (fresh event List.mem_cons_self),
        inductionHypothesis (fun other member earlier isEarlier => ?_)
          laterApart,
        List.append_assoc, List.singleton_append]
      rcases List.mem_append.mp isEarlier with stored | isEvent
      · exact fresh other (List.mem_cons_of_mem _ member) earlier stored
      · rw [List.mem_singleton.mp isEvent]
        exact eventApart other member

namespace JobStore

/-- A compare-and-set that changes a row emits its event. -/
theorem events_compareAndSet
    (store : JobStore)
    (jobId : String)
    (guard : JobsRow → Bool)
    (change : JobsRow → JobsRow)
    (keepsId : ∀ row, (change row).id = row.id)
    (event : JobsRow → JobEvent) :
    (store.compareAndSet jobId guard change keepsId event).1.events =
      (((store.compareAndSet jobId guard change keepsId event).2.map
          event).toList).foldl insertOrReplace store.events := by
  unfold compareAndSet
  split <;> rfl

/-- A compare-and-set emits at most one event, known from its answer. -/
theorem events_compareAndSet_isSome
    (store : JobStore)
    (jobId : String)
    (guard : JobsRow → Bool)
    (change : JobsRow → JobsRow)
    (keepsId : ∀ row, (change row).id = row.id)
    (event : JobEvent) :
    (store.compareAndSet jobId guard change keepsId
        fun _ => event).1.events =
      (if (store.compareAndSet jobId guard change keepsId
          fun _ => event).2.isSome then [event] else []).foldl
        insertOrReplace store.events := by
  rw [events_compareAndSet]
  cases (store.compareAndSet jobId guard change keepsId fun _ => event).2 <;>
    rfl

/-- A claim emits an event for each job that it reports. -/
theorem events_claim
    (store : JobStore)
    (now : Int)
    (req : ClaimRequest) :
    (store.claim now req).1.events =
      ((store.claim now req).2.map fun job =>
        { ts := now, jobId := job.id, kind := .leased : JobEvent }).foldl
        insertOrReplace store.events := by
  have folded
      (candidates : List JobsRow)
      (progress : JobStore × List PersistedJob)
      (before :
        progress.1.events =
          (progress.2.map fun job =>
            { ts := now, jobId := job.id, kind := .leased : JobEvent }).foldl
            insertOrReplace store.events) :
      (candidates.foldl (claimRow now req) progress).1.events =
        ((candidates.foldl (claimRow now req) progress).2.map fun job =>
          { ts := now, jobId := job.id, kind := .leased : JobEvent }).foldl
          insertOrReplace store.events := by
    induction candidates generalizing progress with
    | nil => exact before
    | cons candidate rest inductionHypothesis =>
        apply inductionHypothesis
        unfold claimRow
        dsimp only
        split
        · exact before
        next updated =>
          rw [events_compareAndSet, updated, before, List.map_append,
            List.foldl_append]
          rfl
  exact folded _ (store, []) rfl

/-- The jobs that a claim reports are candidates, each at most once. -/
theorem claim_ids_sublist
    (store : JobStore)
    (now : Int)
    (req : ClaimRequest) :
    ((store.claim now req).2.map PersistedJob.id).Sublist
      ((store.claimCandidates now req).map JobsRow.id) := by
  have folded
      (candidates : List JobsRow)
      (progress : JobStore × List PersistedJob) :
      ((candidates.foldl (claimRow now req) progress).2.map
          PersistedJob.id).Sublist
        (progress.2.map PersistedJob.id ++ candidates.map JobsRow.id) := by
    induction candidates generalizing progress with
    | nil => exact List.sublist_append_left ..
    | cons candidate rest inductionHypothesis =>
        refine (inductionHypothesis _).trans ?_
        rw [List.map_cons, List.append_cons]
        refine List.Sublist.append_right ?_ _
        unfold claimRow
        dsimp only
        split
        · exact List.sublist_append_left ..
        · rw [List.map_append]
          exact List.Sublist.refl _
  exact folded _ (store, [])

/-- The candidates of a claim are different rows. -/
theorem claimCandidates_nodup
    (store : JobStore)
    (now : Int)
    (req : ClaimRequest) :
    ((store.claimCandidates now req).map JobsRow.id).Nodup := by
  unfold claimCandidates
  split
  · exact ((List.take_sublist ..).map _).nodup (store.nodup_filter _)
  · refine ((List.take_sublist ..).map _).nodup ?_
    have scanned :=
      (List.perm_insertionSort claimsBefore _).trans
        (store.scan.perm .claim
          (store.jobs.rows.filter fun row => row.isClaimable now))
    exact ((scanned.map JobsRow.id).nodup_iff).mpr (store.nodup_filter _)

/-- The events of the table after a call are those that it emits, inserted. -/
theorem events_invoke
    (store : JobStore)
    (call : JobStoreCall) :
    (store.invoke call).1.events =
      (store.emits call).foldl insertOrReplace store.events := by
  cases call with
  | enqueue now job =>
      unfold invoke emits enqueue
      dsimp only
      by_cases taken : job.id ∈ store.jobs.rows.map JobsRow.id
      · simp only [dif_pos taken, if_pos (Or.inl taken)]
        split
        next accepted =>
          split at accepted <;> cases accepted
          rfl
        · rfl
      · by_cases keyTaken : store.keyIsTaken job.idempotencyKey
        · simp only [dif_neg taken, keyTaken, or_true, if_true]
          split
          next accepted =>
            split at accepted <;> cases accepted
            rfl
          · rfl
        · simp only [dif_neg taken, if_neg keyTaken,
            if_neg (not_or.mpr ⟨taken, keyTaken⟩)]
          rfl
  | claim now req => exact store.events_claim now req
  | ack now jobId leaseOwner result resultExpiresMs =>
      exact store.events_compareAndSet_isSome ..
  | fail now jobId leaseOwner error =>
      have updated :=
        store.events_compareAndSet jobId (·.isLeasedBy leaseOwner)
          (·.failedOnce error) (fun row => row.id_failedOnce _)
          fun row =>
            { ts := now
              jobId := jobId
              kind := if row.status = .failed then .failed else .retrying }
      unfold invoke emits fail
      dsimp only
      split
      next refused => rfl
      next row changed =>
        rw [updated, changed]
        rw [compareAndSet_snd] at changed
        obtain ⟨before, -, rfl⟩ := Option.map_eq_some_iff.mp changed
        by_cases last : before.retryMax ≤ before.retryCount + 1 <;>
          simp [JobsRow.failedOnce, last]
  | failQueued now jobId error =>
      exact store.events_compareAndSet_isSome ..
  | cancel now jobId reason =>
      exact store.events_compareAndSet_isSome ..
  | status _ => rfl
  | result _ _ => rfl
  | peek _ _ => rfl
  | sweepExpired _ => rfl
  | reclaimExpiredLeases _ => rfl
  | listActiveByTenant _ => rfl

/-- What a call emits has the time of its clock reading. -/
theorem now?_of_mem_emits
    {store : JobStore}
    {call : JobStoreCall}
    {event : JobEvent}
    (member : event ∈ store.emits call) :
    call.now? = some event.ts := by
  cases call <;> simp only [emits, List.not_mem_nil] at member
  case claim =>
    obtain ⟨_, _, rfl⟩ := List.mem_map.mp member
    rfl
  all_goals
    split at member <;>
      first
      | (rw [List.mem_singleton.mp member]; rfl)
      | cases member

/-- No call emits two events with one key. -/
theorem emits_apart
    (store : JobStore)
    (call : JobStoreCall) :
    (store.emits call).Pairwise fun earlier later =>
      ¬ later.SameKey earlier := by
  cases call <;> simp only [emits]
  case claim now req =>
    have different :=
      (store.claim_ids_sublist now req).nodup
        (store.claimCandidates_nodup now req)
    rw [List.pairwise_map]
    refine (List.pairwise_map.mp different).imp ?_
    intro earlier later otherId same
    exact otherId same.2.1
  all_goals
    try split
    all_goals
      first
      | exact List.Pairwise.nil
      | exact List.pairwise_singleton ..

end JobStore

/-! ## Reading -/

namespace EventLog

/-- The events up to the cursor were read, in order, and none behind it. -/
structure IsRead (log : EventLog) : Prop where
  stored : log.store.events = log.emitted
  inTime : InTime JobEvent.ts log.emitted
  past : ∀ event ∈ log.emitted, event.ts ≤ log.clock
  split : log.emitted = log.got ++ log.unread

/-- What a call emits is behind the cursor. -/
theorem unread_call
    {log : EventLog}
    {emitted : List JobEvent}
    (store : JobStore)
    (stored : store.events = log.store.events ++ emitted)
    (late : ∀ event ∈ emitted, log.since.getD 0 < event.ts) :
    behind JobEvent.ts (log.since.getD 0) store.events =
      log.unread ++ emitted := by
  unfold unread
  rw [stored]
  conv_rhs => rw [← behind_eq_self JobEvent.ts late]
  unfold behind
  exact List.filter_append ..

/-- A call that keeps the pages appends what it emits. -/
theorem isRead_call
    {log : EventLog}
    {call : JobStoreCall}
    (isRead : log.IsRead)
    (keeps : log.KeepsPages (.call call))
    (onTime : call.now?.all (log.clock ≤ ·)) :
    IsRead
      { log with
        store := (log.store.invoke call).1
        clock := call.now?.getD log.clock
        emitted := log.emitted ++ log.store.emits call } := by
  have appended :
      (log.store.invoke call).1.events =
        log.store.events ++ log.store.emits call := by
    rw [JobStore.events_invoke]
    exact
      foldl_insertOrReplace_of_fresh
        (fun event member => (keeps event member).2)
        (log.store.emits_apart call)
  have atReading :
      ∀ event ∈ log.store.emits call,
        log.clock ≤ event.ts ∧ event.ts = call.now?.getD log.clock := by
    intro event member
    have reading := JobStore.now?_of_mem_emits member
    rw [reading] at onTime ⊢
    exact ⟨of_decide_eq_true onTime, rfl⟩
  have noEarlier : log.clock ≤ call.now?.getD log.clock := by
    cases reading : call.now? with
    | none => exact le_rfl
    | some now =>
        rw [reading] at onTime
        exact of_decide_eq_true onTime
  refine {
    stored := ?_
    inTime := ?_
    past := ?_
    split := ?_
  }
  · change (log.store.invoke call).1.events = _
    rw [appended, isRead.stored]
  · refine List.pairwise_append.mpr ⟨isRead.inTime, ?_, ?_⟩
    · refine List.pairwise_of_forall_mem_list
        fun earlier isEarlier later isLater => ?_
      rw [(atReading earlier isEarlier).2, (atReading later isLater).2]
    · intro earlier isEarlier later isLater
      exact
        (isRead.past earlier isEarlier).trans (atReading later isLater).1
  · intro event member
    rcases List.mem_append.mp member with before | emitted
    · exact (isRead.past event before).trans noEarlier
    · exact (atReading event emitted).2.le
  · change log.emitted ++ log.store.emits call = log.got ++ behind _ _ _
    rw [unread_call _ appended fun event member => (keeps event member).1,
      ← List.append_assoc, ← isRead.split]

/-- What was not read is in the order of its timestamps. -/
theorem unread_inTime
    {log : EventLog}
    (isRead : log.IsRead) :
    InTime JobEvent.ts log.unread := by
  unfold unread behind
  rw [isRead.stored]
  exact isRead.inTime.sublist List.filter_sublist

/-- A page that keeps the pages is the beginning of what was not read. -/
theorem page_eq_take
    {log : EventLog}
    {order : EventOrder}
    {limit : Nat}
    (isRead : log.IsRead)
    (keeps : log.KeepsPages (.read order limit)) :
    log.page order limit = log.unread.take limit := by
  have arranged : order.arrange log.unread = log.unread :=
    eq_of_sameAtEachTime JobEvent.ts (order.inTime _)
      (unread_inTime isRead) keeps.2
  change (order.arrange log.unread).take limit = _
  rw [arranged]

/-- A page that keeps the pages is read once. -/
theorem isRead_read
    {log : EventLog}
    {order : EventOrder}
    {limit : Nat}
    (isRead : log.IsRead)
    (keeps : log.KeepsPages (.read order limit))
    (positive : 1 ≤ limit) :
    IsRead
      { log with
        since :=
          ((log.page order limit).getLast?.map JobEvent.ts).or log.since
        got := log.got ++ log.page order limit } := by
  have isPage := page_eq_take isRead keeps
  have cursor :
      (((log.page order limit).getLast?.map JobEvent.ts).or
          log.since).getD 0 =
        advance JobEvent.ts (log.since.getD 0)
          (log.unread.take limit) := by
    rw [isPage]
    unfold advance
    cases (log.unread.take limit).getLast? <;> rfl
  have forward :
      log.since.getD 0 ≤
        advance JobEvent.ts (log.since.getD 0)
          (log.unread.take limit) := by
    refine le_advance JobEvent.ts fun event member => ?_
    exact of_decide_eq_true
      (List.mem_filter.mp (List.mem_of_mem_take member)).2
  refine { isRead with split := ?_ }
  change log.emitted = (log.got ++ log.page order limit) ++ behind _ _ _
  rw [cursor, ← behind_behind JobEvent.ts forward]
  change _ = _ ++ behind JobEvent.ts _ log.unread
  rw [behind_advance JobEvent.ts (unread_inTime isRead) keeps.1 positive,
    isPage, List.append_assoc, List.take_append_drop, isRead.split]

/-- Every step that keeps the pages leaves the events read up to the cursor. -/
theorem isRead_step
    {log next : EventLog}
    {label : EventLogStep}
    (keeps : log.KeepsPages label)
    (stepped : log.step label = some next)
    (isRead : log.IsRead) :
    next.IsRead := by
  cases label with
  | call call =>
      obtain ⟨onTime, isNext⟩ := Option.ite_none_right_eq_some.mp stepped
      cases isNext
      exact isRead_call isRead keeps onTime
  | read order limit =>
      obtain ⟨positive, isNext⟩ := Option.ite_none_right_eq_some.mp stepped
      cases isNext
      exact isRead_read isRead keeps positive

/-- A page is empty only when nothing is left to read. -/
theorem unread_of_page_eq_nil
    {log : EventLog}
    {order : EventOrder}
    {limit : Nat}
    (positive : 1 ≤ limit)
    (empty : log.page order limit = []) :
    log.unread = [] := by
  have arranged : order.arrange log.unread = [] :=
    (List.take_eq_nil_iff.mp empty).resolve_left
      (Nat.pos_iff_ne_zero.mp positive)
  have perm := order.perm log.unread
  rw [arranged] at perm
  exact perm.nil_eq.symm

/--
In a run whose steps keep the pages whole, the reader has read the beginning of
what was emitted, and finds nothing more only when it has read everything.
-/
theorem run_losesNothing
    {start : Int}
    {labels : List EventLogStep}
    {log : EventLog}
    (run : GuardedRun step KeepsPages { clock := start } labels log) :
    log.LosesNothing := by
  have isRead : log.IsRead := by
    refine GuardedRun.invariant isRead_step run {
      stored := rfl
      inTime := .nil
      past := fun event member => by cases member
      split := rfl
    }
  refine {
    inOrder := ⟨log.unread, isRead.split.symm⟩
    complete := fun order limit positive empty => ?_
  }
  have split := isRead.split
  rw [unread_of_page_eq_nil positive empty, List.append_nil] at split
  exact split.symm

/-- A job that is accepted at a time. -/
def enqueueCall
    (now : Int)
    (id : String) : EventLogStep :=
  .call
    (.enqueue now
      { id := id
        tenantId := "default"
        fnHash := "0"
        fnSource := "() => null"
        args := []
        createdAt := now
        deadlineEpochMs := 60000
        retry := { max := 3, backoff := .exponential, baseMs := 200 }
        retryCount := 0
        status := .queued })

/-- A job is accepted and leased, and two pages of one event are read. -/
def twoPages : List EventLogStep :=
  [ enqueueCall 10 "job",
    .call (.claim 20 { workerId := "owner", max := 1, leaseMs := 60000 }),
    .read .inInsertion 1,
    .read .inInsertion 1 ]

theorem run_losesNothing_twoPages :
    ∃ log : EventLog,
      GuardedRun step KeepsPages { clock := 0 } twoPages log ∧
        log.got.map JobEvent.kind = [.enqueued, .leased] ∧
          log.LosesNothing := by
  have run :
      ∃ log : EventLog,
        GuardedRun step KeepsPages { clock := 0 } twoPages log ∧
          log.got.map JobEvent.kind = [.enqueued, .leased] := by
    refine ⟨_, .cons ?_ rfl (.cons ?_ rfl (.cons ?_ rfl (.cons ?_ rfl
      .nil))), rfl⟩
    · change ∀ event ∈ _, _
      decide
    · change ∀ event ∈ _, _
      decide
    · refine ⟨fun last next isLast isNext sameTime => ?_, fun ts => rfl⟩
      obtain rfl := Option.some.inj isLast
      obtain rfl := Option.some.inj isNext
      exact absurd sameTime (by decide)
    · refine ⟨fun last next isLast isNext sameTime => ?_, fun ts => rfl⟩
      exact Option.some_ne_none _ isNext.symm
  obtain ⟨log, keepsPages, kinds⟩ := run
  exact ⟨log, keepsPages, kinds, run_losesNothing keepsPages⟩

/-- Two jobs are accepted in one millisecond, and a one-event page is read. -/
def sameMillisecond : List EventLogStep :=
  [ enqueueCall 10 "job",
    enqueueCall 10 "other",
    .read .inInsertion 1 ]

/-- The next page is empty, though the second event was never read. -/
theorem run_losesEvent :
    ∃ log : EventLog,
      Run step { clock := 0 } sameMillisecond log ∧
        log.emitted =
            [ { ts := 10, jobId := "job", kind := .enqueued },
              { ts := 10, jobId := "other", kind := .enqueued } ] ∧
          log.got = [{ ts := 10, jobId := "job", kind := .enqueued }] ∧
            log.page .inInsertion 1 = [] ∧
              ¬ log.LosesNothing := by
  refine ⟨_, .cons trivial rfl (.cons trivial rfl (.cons trivial rfl .nil)),
    rfl, rfl, rfl, fun losesNothing => ?_⟩
  have everything :=
    losesNothing.complete .inInsertion 1 (Nat.le_refl 1) rfl
  exact absurd (congrArg List.length everything) (by decide)

end EventLog

end CloudflareParallel
