import CloudflareParallel.SchedulerQueuesStore

namespace CloudflareParallel

open KeyedTables

/-!
# Messages and rows

`QueuesJobStore.enqueue` stores a row and sends a message.  The wrapped store
swallows a job whose key is taken and does not say so: the message of that job
is sent all the same, a second one for the key, with the id of no row.
-/

namespace QueuesJobStore

/-- The message that is sent in an event. -/
def Event.message? : Event → Option PersistedJob
  | .called (.enqueue _ job) .accepted => some job
  | _ => none

/-- The idempotency key that an event brings. -/
def Event.key? : Event → Option String
  | .called (.enqueue _ job) _ => job.idempotencyKey
  | _ => none

/-- The messages of a run, in the order of sending. -/
def messagesOf (events : List Event) : List PersistedJob :=
  events.filterMap Event.message?

/-- The keys that the events bring. -/
def keysOf (events : List Event) : List String :=
  events.filterMap Event.key?

/-- Nothing is called but `enqueue`. -/
def OnlyEnqueues (events : List Event) : Prop :=
  ∀ event ∈ events,
    ∃ now job answer, event = .called (.enqueue now job) answer

/-- Two messages have no key in common. -/
def KeysDiffer (message later : PersistedJob) : Prop :=
  ∀ key,
    message.idempotencyKey = some key → later.idempotencyKey ≠ some key

/-- At most one message for a key, and a row for every message. -/
structure Corresponds (store : QueuesJobStore) : Prop where
  onePerKey : store.queue.Pairwise KeysDiffer
  hasRow :
    ∀ message ∈ store.queue, (store.shadow.row? message.id).isSome = true

/-- The key of a job, unless it is empty, has not been brought before. -/
def FreshKey
    (before : List Event)
    (job : PersistedJob) : Prop :=
  ∀ key, job.idempotencyKey = some key → key ≠ "" → key ∉ keysOf before

/-- No message is sent for a job whose key an earlier job has brought. -/
def FreshKeys (events : List Event) : Prop :=
  ∀ before event later,
    events = before ++ event :: later →
    ∀ job, event.message? = some job → FreshKey before job

/-- The queue takes the message of every job that is not refused. -/
def TakesAll (events : List Event) : Prop :=
  ∀ now job,
    .called (.enqueue now job) .rejected ∈ events →
    JobStore.swallowsUnique job = false

/-! ## One event -/

/-- An accepted `enqueue` swallows the job, or inserts its row. -/
theorem enqueue_cases
    {shadow next : JobStore}
    {now : Int}
    {job : PersistedJob}
    (accepted : shadow.enqueue now job = .ok next) :
    (next = shadow ∧ JobStore.swallowsUnique job = true ∧
        (job.id ∈ shadow.jobs.rows.map JobsRow.id ∨
          shadow.keyIsTaken job.idempotencyKey = true)) ∨
      (shadow.keyIsTaken job.idempotencyKey = false ∧
        next.jobs.rows = shadow.jobs.rows ++ [insertedRow job]) := by
  unfold JobStore.enqueue at accepted
  split at accepted
  next taken =>
    split at accepted
    next swallowed =>
      cases accepted
      exact .inl ⟨rfl, swallowed, .inl taken⟩
    next => cases accepted
  next =>
    split at accepted
    next taken =>
      split at accepted
      next swallowed =>
        cases accepted
        exact .inl ⟨rfl, swallowed, .inr taken⟩
      next => cases accepted
    next free =>
      cases accepted
      exact .inr ⟨Bool.eq_false_iff.mpr free, rfl⟩

/-- An `enqueue` sends its job, or rejects and sends nothing. -/
theorem Step.sends_or_rejects
    {store next : QueuesJobStore}
    {now : Int}
    {job : PersistedJob}
    {answer : JobStoreAnswer}
    (step : Step store (.called (.enqueue now job) answer) next) :
    (answer = .accepted ∧
        store.shadow.enqueue now job = .ok next.shadow ∧
          next.queue = store.queue ++ [job]) ∨
      (answer = .rejected ∧ next.queue = store.queue ∧
        (next.shadow = store.shadow ∨
          store.shadow.enqueue now job = .ok next.shadow)) := by
  generalize same : Event.called (.enqueue now job) answer = event at step
  cases step with
  | deliver => cases same
  | unsent inserted =>
      cases same
      exact .inr ⟨rfl, rfl, .inr inserted⟩
  | call call =>
      cases same
      cases inserted : store.shadow.enqueue now job with
      | ok shadow =>
          have invoked :
              store.invoke (.enqueue now job) =
                ({ shadow := shadow, queue := store.queue ++ [job] },
                  .accepted) := by
            simp only [invoke, inserted]
          rw [invoked]
          exact .inl ⟨rfl, rfl, rfl⟩
      | error err =>
          have invoked :
              store.invoke (.enqueue now job) = (store, .rejected) := by
            simp only [invoke, inserted]
          rw [invoked]
          exact .inr ⟨rfl, rfl, .inl rfl⟩

/-! ## Histories -/

/-- What holds after a run of `enqueue` calls, whatever their keys. -/
structure Records
    (events : List Event)
    (store : QueuesJobStore) : Prop where
  queue : store.queue = messagesOf events
  /-- The keys of the rows were brought by the calls. -/
  rowKeys :
    ∀ row ∈ store.shadow.jobs.rows,
      ∀ key, row.idempotencyKey = some key → key ∈ keysOf events
  /-- The empty key is not swallowed, so that its message has its row. -/
  emptyKey :
    ∀ message ∈ store.queue,
      message.idempotencyKey = some "" →
      store.shadow.keyIsTaken (some "") = true

/-- The rows after an `enqueue`: those before, and the inserted one. -/
theorem rows_of_enqueue
    {shadow next : JobStore}
    {now : Int}
    {job : PersistedJob}
    (accepted : shadow.enqueue now job = .ok next) :
    next.jobs.rows = shadow.jobs.rows ∨
      next.jobs.rows = shadow.jobs.rows ++ [insertedRow job] := by
  rcases enqueue_cases accepted with ⟨rfl, -⟩ | ⟨-, inserted⟩
  · exact .inl rfl
  · exact .inr inserted

/-- A key that is taken stays so. -/
theorem keyIsTaken_of_rows
    {shadow next : JobStore}
    {job : PersistedJob}
    (rows :
      next.jobs.rows = shadow.jobs.rows ∨
        next.jobs.rows = shadow.jobs.rows ++ [insertedRow job])
    {key : Option String}
    (taken : shadow.keyIsTaken key = true) :
    next.keyIsTaken key = true := by
  unfold JobStore.keyIsTaken at taken ⊢
  cases key with
  | none => cases taken
  | some key =>
      dsimp only at taken ⊢
      rcases rows with same | more
      · rw [same]
        exact taken
      · rw [more, List.any_append, taken]
        rfl

/-- A job with the empty key is inserted if it is accepted. -/
theorem emptyKey_of_enqueue
    {shadow next : JobStore}
    {now : Int}
    {job : PersistedJob}
    (accepted : shadow.enqueue now job = .ok next)
    (empty : job.idempotencyKey = some "") :
    next.keyIsTaken (some "") = true := by
  rcases enqueue_cases accepted with ⟨-, swallowed, -⟩ | ⟨-, inserted⟩
  · simp [JobStore.swallowsUnique, empty] at swallowed
  · unfold JobStore.keyIsTaken
    dsimp only
    rw [inserted, List.any_append, Bool.or_eq_true]
    right
    simp [insertedRow, empty]

/-- An event at the end brings its key after the others. -/
theorem keysOf_append_called
    (events : List Event)
    (now : Int)
    (job : PersistedJob)
    (answer : JobStoreAnswer) :
    keysOf (events ++ [.called (.enqueue now job) answer]) =
      keysOf events ++ job.idempotencyKey.toList := by
  unfold keysOf
  rw [List.filterMap_append]
  cases key : job.idempotencyKey <;> simp [Event.key?, key]

/-- The keys of the rows stay among those that were brought. -/
theorem rowKeys_append
    {events : List Event}
    {shadow next : JobStore}
    {now : Int}
    {job : PersistedJob}
    {answer : JobStoreAnswer}
    (before :
      ∀ row ∈ shadow.jobs.rows,
        ∀ key, row.idempotencyKey = some key → key ∈ keysOf events)
    (rows :
      next.jobs.rows = shadow.jobs.rows ∨
        next.jobs.rows = shadow.jobs.rows ++ [insertedRow job]) :
    ∀ row ∈ next.jobs.rows,
      ∀ key,
        row.idempotencyKey = some key →
        key ∈ keysOf (events ++ [.called (.enqueue now job) answer]) := by
  intro row member key keyed
  rw [keysOf_append_called, List.mem_append]
  have old (member : row ∈ shadow.jobs.rows) : key ∈ keysOf events :=
    before row member key keyed
  rcases rows with same | more
  · exact .inl (old (same ▸ member))
  · rw [more, List.mem_append, List.mem_singleton] at member
    rcases member with member | rfl
    · exact .inl (old member)
    · have brought : job.idempotencyKey = some key := keyed
      rw [brought]
      exact .inr (List.mem_singleton.mpr rfl)

/-- A run records its messages and its keys. -/
theorem records_of_run
    {events : List Event}
    {store : QueuesJobStore}
    (run : Run { shadow := {} } events store)
    (only : OnlyEnqueues events) :
    Records events store := by
  induction run with
  | start =>
      exact
        { queue := rfl
          rowKeys := fun _ member => absurd member List.not_mem_nil
          emptyKey := fun _ member => absurd member List.not_mem_nil }
  | @step events store next event run step inductionHypothesis =>
      obtain ⟨now, job, answer, rfl⟩ :=
        only event (List.mem_append_right _ (List.mem_singleton.mpr rfl))
      have before := inductionHypothesis fun event member =>
        only event (List.mem_append_left _ member)
      rcases step.sends_or_rejects with
        ⟨rfl, inserted, sent⟩ | ⟨rfl, unsent, kept⟩
      · have rows := rows_of_enqueue inserted
        refine
          { queue := ?_
            rowKeys := rowKeys_append before.rowKeys rows
            emptyKey := ?_ }
        · rw [sent, before.queue, messagesOf, messagesOf,
            List.filterMap_append]
          rfl
        · intro message member empty
          rw [sent, List.mem_append, List.mem_singleton] at member
          rcases member with member | rfl
          · exact
              keyIsTaken_of_rows rows (before.emptyKey message member empty)
          · exact emptyKey_of_enqueue inserted empty
      · have rows :
            next.shadow.jobs.rows = store.shadow.jobs.rows ∨
              next.shadow.jobs.rows =
                store.shadow.jobs.rows ++ [insertedRow job] := by
          rcases kept with same | inserted
          · exact .inl (congrArg (·.jobs.rows) same)
          · exact rows_of_enqueue inserted
        refine
          { queue := ?_
            rowKeys := rowKeys_append before.rowKeys rows
            emptyKey := ?_ }
        · rw [unsent, before.queue, messagesOf, messagesOf,
            List.filterMap_append]
          exact (List.append_nil _).symm
        · intro message member empty
          rw [unsent] at member
          exact keyIsTaken_of_rows rows (before.emptyKey message member empty)

/-! ## Fresh keys -/

/-- The keys of a part of the run are fresh too. -/
theorem FreshKeys.of_append
    {events : List Event}
    {event : Event}
    (fresh : FreshKeys (events ++ [event])) :
    FreshKeys events := by
  intro before other later split
  exact fresh before other (later ++ [event]) (by rw [split]; simp)

/-- A row is found if its id is in the table. -/
theorem isSome_row?_iff
    {shadow : JobStore}
    {id : String} :
    (shadow.row? id).isSome = true ↔
      id ∈ shadow.jobs.rows.map JobsRow.id := by
  rw [Option.isSome_iff_ne_none]
  exact not_iff_comm.mpr shadow.jobs.get?_eq_none_iff.symm

/-- A row that is found is found after an `enqueue`. -/
theorem isSome_row?_of_rows
    {shadow next : JobStore}
    {job : PersistedJob}
    (rows :
      next.jobs.rows = shadow.jobs.rows ∨
        next.jobs.rows = shadow.jobs.rows ++ [insertedRow job])
    {id : String}
    (found : (shadow.row? id).isSome = true) :
    (next.row? id).isSome = true := by
  rw [isSome_row?_iff] at found ⊢
  rcases rows with same | more
  · exact same ▸ found
  · rw [more, List.map_append]
    exact List.mem_append_left _ found

/-- The key of a message was brought by its call. -/
theorem key_mem_keysOf
    {events : List Event}
    {message : PersistedJob}
    (sent : message ∈ messagesOf events)
    {key : String}
    (keyed : message.idempotencyKey = some key) :
    key ∈ keysOf events := by
  obtain ⟨event, member, isMessage⟩ := List.mem_filterMap.mp sent
  refine List.mem_filterMap.mpr ⟨event, member, ?_⟩
  unfold Event.message? at isMessage
  split at isMessage
  · cases isMessage
    exact keyed
  · cases isMessage

section Accepted

variable {events : List Event}
variable {store : QueuesJobStore}
variable {next : JobStore}
variable {now : Int}
variable {job : PersistedJob}

/-- The row of a job that is accepted with a fresh key is there. -/
theorem hasRow_of_enqueue
    (records : Records events store)
    (accepted : store.shadow.enqueue now job = .ok next)
    (fresh : FreshKey events job) :
    (next.row? job.id).isSome = true := by
  rw [isSome_row?_iff]
  rcases enqueue_cases accepted with
    ⟨rfl, swallowed, idTaken | keyTaken⟩ | ⟨-, inserted⟩
  · exact idTaken
  · unfold JobStore.swallowsUnique at swallowed
    unfold JobStore.keyIsTaken at keyTaken
    cases keyed : job.idempotencyKey with
    | none =>
        rw [keyed] at swallowed
        cases swallowed
    | some key =>
        rw [keyed] at swallowed keyTaken
        obtain ⟨row, member, same⟩ := List.any_eq_true.mp keyTaken
        have brought :=
          records.rowKeys row member key (of_decide_eq_true same)
        exact absurd brought (fresh key keyed (of_decide_eq_true swallowed))
  · rw [inserted, List.map_append, List.mem_append]
    exact .inr (List.mem_singleton.mpr rfl)

/-- A message before has not the key of a job with a fresh key. -/
theorem keysDiffer_of_enqueue
    (records : Records events store)
    (accepted : store.shadow.enqueue now job = .ok next)
    (fresh : FreshKey events job) :
    ∀ message ∈ store.queue, KeysDiffer message job := by
  intro message member key keyed same
  by_cases empty : key = ""
  · subst empty
    have taken := records.emptyKey message member keyed
    rcases enqueue_cases accepted with ⟨-, swallowed, -⟩ | ⟨free, -⟩
    · simp [JobStore.swallowsUnique, same] at swallowed
    · rw [same, taken] at free
      cases free
  · rw [records.queue] at member
    exact fresh key same empty (key_mem_keysOf member keyed)

end Accepted

/-- With fresh keys, messages and rows correspond. -/
theorem corresponds_of_freshKeys
    {events : List Event}
    {store : QueuesJobStore}
    (run : Run { shadow := {} } events store)
    (only : OnlyEnqueues events)
    (fresh : FreshKeys events) :
    store.Corresponds := by
  induction run with
  | start =>
      exact
        { onePerKey := .nil
          hasRow := fun _ member => absurd member List.not_mem_nil }
  | @step events store next event run step inductionHypothesis =>
      have onlyBefore : OnlyEnqueues events := fun event member =>
        only event (List.mem_append_left _ member)
      obtain ⟨now, job, answer, rfl⟩ :=
        only event (List.mem_append_right _ (List.mem_singleton.mpr rfl))
      have before := inductionHypothesis onlyBefore fresh.of_append
      have records := records_of_run run onlyBefore
      rcases step.sends_or_rejects with
        ⟨rfl, inserted, sent⟩ | ⟨rfl, unsent, kept⟩
      · have rows := rows_of_enqueue inserted
        have freshKey : FreshKey events job := fresh events _ [] rfl job rfl
        constructor
        · rw [sent, List.pairwise_append]
          refine ⟨before.onePerKey, List.pairwise_singleton .., ?_⟩
          intro message member later isJob
          rw [List.mem_singleton.mp isJob]
          exact keysDiffer_of_enqueue records inserted freshKey message member
        · intro message member
          rw [sent, List.mem_append, List.mem_singleton] at member
          rcases member with member | rfl
          · exact isSome_row?_of_rows rows (before.hasRow message member)
          · exact hasRow_of_enqueue records inserted freshKey
      · constructor
        · rw [unsent]
          exact before.onePerKey
        · intro message member
          rw [unsent] at member
          have found := before.hasRow message member
          rcases kept with same | inserted
          · rw [same]
            exact found
          · exact isSome_row?_of_rows (rows_of_enqueue inserted) found

/-- An `enqueue` of a run is accepted or rejected. -/
theorem answer_of_run
    {start store : QueuesJobStore}
    {events : List Event}
    (run : Run start events store)
    {now : Int}
    {job : PersistedJob}
    {answer : JobStoreAnswer}
    (member : .called (.enqueue now job) answer ∈ events) :
    answer = .accepted ∨ answer = .rejected := by
  induction run with
  | start => cases member
  | step _ step inductionHypothesis =>
      rcases List.mem_append.mp member with earlier | last
      · exact inductionHypothesis earlier
      · cases List.mem_singleton.mp last
        rcases step.sends_or_rejects with ⟨accepted, -⟩ | ⟨rejected, -⟩
        · exact .inl accepted
        · exact .inr rejected

/-- If all messages are taken, the keys of corresponding ones are fresh. -/
theorem freshKeys_of_corresponds
    {events : List Event}
    {store : QueuesJobStore}
    (run : Run { shadow := {} } events store)
    (only : OnlyEnqueues events)
    (takesAll : TakesAll events)
    (corresponds : store.Corresponds) :
    FreshKeys events := by
  intro before event later split job sent key keyed nonempty brought
  obtain ⟨earlier, member, bringsKey⟩ := List.mem_filterMap.mp brought
  have inRun : earlier ∈ events := by
    rw [split]
    exact List.mem_append_left _ member
  obtain ⟨now, other, answer, rfl⟩ := only earlier inRun
  have otherKeyed : other.idempotencyKey = some key := bringsKey
  have accepted : answer = .accepted := by
    rcases answer_of_run run inRun with accepted | rejected
    · exact accepted
    · subst rejected
      have refused := takesAll now other inRun
      simp [JobStore.swallowsUnique, otherKeyed, nonempty] at refused
  subst accepted
  have otherSent : other ∈ messagesOf before :=
    List.mem_filterMap.mpr ⟨_, member, rfl⟩
  have pairs := corresponds.onePerKey
  rw [(records_of_run run only).queue, split, messagesOf,
    List.filterMap_append, List.filterMap_cons, sent,
    List.pairwise_append] at pairs
  exact
    pairs.2.2 other otherSent job (List.mem_cons_self ..) key otherKeyed keyed

/--
In every run of `enqueue` calls, messages and rows correspond if no message is
sent with the key of an earlier job; where the queue takes all messages, only
then.
-/
theorem corresponds_iff_freshKeys
    {events : List Event}
    {store : QueuesJobStore}
    (run : Run { shadow := {} } events store)
    (only : OnlyEnqueues events) :
    (FreshKeys events → store.Corresponds) ∧
      (TakesAll events → (store.Corresponds ↔ FreshKeys events)) :=
  ⟨corresponds_of_freshKeys run only, fun takesAll =>
    ⟨freshKeys_of_corresponds run only takesAll,
      corresponds_of_freshKeys run only⟩⟩

/-- A job with an idempotency key. -/
def keyed (id : String) : PersistedJob :=
  { job with id := id, idempotencyKey := some "key" }

/-- The store once the job was sent twice, under two ids. -/
def sentTwice : QueuesJobStore :=
  ((QueuesJobStore.invoke { shadow := {} }
      (.enqueue 0 (keyed "first"))).1.invoke
    (.enqueue 1 (keyed "second"))).1

/-- Both calls are accepted. -/
def twice : List Event :=
  [.called (.enqueue 0 (keyed "first")) .accepted,
    .called (.enqueue 1 (keyed "second")) .accepted]

/-- The two calls are a run. -/
theorem run_twice : Run { shadow := {} } twice sentTwice :=
  .step (.step .start (.call (.enqueue 0 (keyed "first"))))
    (.call (.enqueue 1 (keyed "second")))

/-- Nothing else is called. -/
theorem onlyEnqueues_twice : OnlyEnqueues twice := by
  intro event member
  rcases List.mem_cons.mp member with rfl | member
  · exact ⟨_, _, _, rfl⟩
  · exact ⟨_, _, _, List.mem_singleton.mp member⟩

/-- The queue takes both messages. -/
theorem takesAll_twice : TakesAll twice := by
  intro now job member
  rcases List.mem_cons.mp member with rejected | member
  · cases rejected
  · cases List.mem_singleton.mp member

theorem corresponds_iff_freshKeys_twice :
    sentTwice.Corresponds ↔ FreshKeys twice :=
  (corresponds_iff_freshKeys run_twice onlyEnqueues_twice).2 takesAll_twice

/-- The second message has the id of no row. -/
theorem not_corresponds_twice :
    ¬ ∀ events store,
        Run { shadow := {} } events store →
        OnlyEnqueues events →
        store.Corresponds := by
  intro corresponds
  have found :=
    (corresponds twice sentTwice run_twice onlyEnqueues_twice).hasRow
      (keyed "second") (List.mem_cons_of_mem _ (List.mem_singleton.mpr rfl))
  revert found
  decide +kernel

end QueuesJobStore

end CloudflareParallel
