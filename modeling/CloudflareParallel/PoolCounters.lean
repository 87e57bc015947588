import CloudflareParallel.FanOutRecords

namespace CloudflareParallel

open LabelledRuns

/-!
# The counters of a pool

`Pool.stats` reports the tasks in flight and those that have completed, failed
or been cancelled.  `#runOneSource` counts a failure and throws it in the same
`try`, whose `catch` counts a `CancelledError` and nothing else; `#fanOut`
counts the entries of an answer, and a dispatch that throws not at all.
-/

/-- The counters of `Pool`. -/
structure PoolCounters where
  inFlight : Int
  completed : Nat
  failed : Nat
  cancelled : Nat
  deriving DecidableEq

namespace PoolCounters

/-- `#inFlightInc`. -/
def inFlightInc
    (counters : PoolCounters)
    (n : Nat) : PoolCounters :=
  { counters with inFlight := counters.inFlight + n }

/-- `#inFlightDec`, without the barrier of `drain`. -/
def inFlightDec
    (counters : PoolCounters)
    (n : Nat) : PoolCounters :=
  { counters with inFlight := counters.inFlight - n }

/-- `this.#completed++` or `this.#failed++`, by the entry. -/
def countResult
    (counters : PoolCounters) :
    RunOneResult → PoolCounters
  | .ok _ => { counters with completed := counters.completed + 1 }
  | .failed _ => { counters with failed := counters.failed + 1 }

/--
The `catch` of `#runOneSource`, by the name of what is caught.  On `undefined`
the look at the name throws.
-/
def caught
    (counters : PoolCounters)
    (name : Option String) : PoolCounters :=
  if name = some "CancelledError" then
    { counters with cancelled := counters.cancelled + 1 }
  else
    counters

end PoolCounters

/-- The name of what a dispatch throws; `undefined` has none. -/
def DispatchEnd.thrownName {Value : Type} : DispatchEnd Value → Option String
  | .rejected err => some err.name
  | .exhausted _ _ => some "RetryExhaustedError"
  | .cancelled err => some err.name
  | .typeError => some "TypeError"
  | .resolved _ | .nothing | .pending => none

/-- `#runOneSource` behind the `await` of its dispatch. -/
def PoolCounters.settleOne
    (counters : PoolCounters) :
    DispatchEnd RunOneResult → Option PoolCounters
  | .pending => none
  | .resolved (.ok value) =>
      some ((counters.countResult (.ok value)).inFlightDec 1)
  | .resolved (.failed error) =>
      -- The typed error is thrown inside the `try`, into the `catch` below it.
      some
        (((counters.countResult (.failed error)).caught
          (leafErrorToTypedError error).name).inFlightDec 1)
  | ended => some ((counters.caught ended.thrownName).inFlightDec 1)

/-- The variables of `runFanOut` once its workers are created. -/
def RunFanOutOptions.created
    {Item Value : Type}
    (opts : RunFanOutOptions Item Value) : RunFanOutState Item Value :=
  (List.range opts.workerCount.toNat).foldl opts.takeNext opts.launch

/-- The runs of these indices, each of which counts its entry. -/
def PoolCounters.countRuns
    (counters : PoolCounters)
    (results : List RunOneResult)
    (started : List Nat) : PoolCounters :=
  started.foldl
    (fun counters idx =>
      match results[idx]? with
      | some result => counters.countResult result
      | none => counters)
    counters

/-- `#fanOut` behind the `await` of its dispatch. -/
def PoolCounters.settleMany
    (counters : PoolCounters)
    (size : Nat)
    (onError : OnErrorStrategy)
    (stackOf : String → Option String) :
    DispatchEnd FanOutResponse → Option PoolCounters
  | .pending => none
  | .resolved response =>
      let opts :=
        Pool.fanOutOptions onError stackOf
          (response.results.map (·.outcome stackOf))
      some
        ((counters.inFlightDec size).countRuns response.results
          opts.created.started)
  | _ => some (counters.inFlightDec size)

/-- An answer of the coordinator has a result for each list of arguments. -/
theorem FanOutAttempt.length_results
    {call : PoolFanOut}
    {response : FanOutResponse}
    (attempt : FanOutAttempt call)
    (won : attempt.reading.winner = .task (.ok response)) :
    response.results.length = call.request.argsList.length := by
  have settled := attempt.settles _ won
  cases hop : attempt.hop with
  | lost err =>
      rw [hop] at settled
      cases settled
  | answerLost err =>
      rw [hop] at settled
      cases settled
  | delivered =>
      rw [hop] at settled
      cases ran : call.runMany attempt.platform with
      | error err =>
          simp only [PoolFanOut.taskOutcome, ran] at settled
          cases settled
      | ok answer =>
          simp only [PoolFanOut.taskOutcome, ran] at settled
          cases settled
          exact (response_aligned ran).length_eq

/--
A dispatch of the pool, with what its attempts read.  An answer has a result for
each list of arguments.
-/
inductive PoolDispatch where
  /-- `submit`, `submitSource`, `pipe` and the streaming calls. -/
  | runOneSource
      (runtime : DispatchRuntime)
      (opts : DispatchOptions)
      (readings : List (AttemptReading runtime opts RunOneResult))
  /-- `map`, `scatter`, `reduce` and `pmap`. -/
  | fanOut
      (runtime : DispatchRuntime)
      (opts : DispatchOptions)
      (onError : OnErrorStrategy)
      (size : Nat)
      (readings : List (AttemptReading runtime opts FanOutResponse))
      (answered :
        ∀ reading ∈ readings,
        ∀ response,
          reading.winner = .task (.ok response) →
          response.results.length = size)

/-- What becomes of a task. -/
inductive TaskOutcome where
  | completed
  | failed
  | cancelled
  deriving DecidableEq

/--
`PoolStats`: cancelled are the tasks that the token, the deadline or the parent
ends, which a task tells by the name of its error.
-/
def TaskOutcome.ofErrorName (name : Option String) : TaskOutcome :=
  if name = some "CancelledError" ∨ name = some "DeadlineExceededError" then
    .cancelled
  else
    .failed

/-- The outcome of a task that the coordinator has answered. -/
def RunOneResult.taskOutcome : RunOneResult → TaskOutcome
  | .ok _ => .completed
  | .failed error => .ofErrorName (leafErrorToTypedError error).name

/-- The outcome of the tasks of a dispatch that throws. -/
def DispatchRun.thrownOutcome
    {runtime : DispatchRuntime}
    {opts : DispatchOptions}
    {Value : Type}
    (run : DispatchRun runtime opts Value) : TaskOutcome :=
  if run.made.getLast?.any (·.reading.tokenAfter.isSome) then
    .cancelled
  else
    .ofErrorName run.ended.thrownName

namespace PoolDispatch

/-- A fan-out of the coordinator, with the attempts that could be made. -/
def ofAttempts
    (call : PoolFanOut)
    (onError : OnErrorStrategy)
    (attempts : List (FanOutAttempt call)) : PoolDispatch :=
  .fanOut call.runtime call.opts onError call.request.argsList.length
    (attempts.map (·.reading))
    (by
      intro reading member response won
      obtain ⟨attempt, -, rfl⟩ := List.mem_map.mp member
      exact attempt.length_results won)

/-- The number of tasks. -/
def size : PoolDispatch → Nat
  | .runOneSource _ _ _ => 1
  | .fanOut _ _ _ size _ _ => size

/-- The counters when the dispatch has settled; nothing while it goes on. -/
def settle
    (counters : PoolCounters) :
    PoolDispatch → Option PoolCounters
  | .runOneSource _ _ readings =>
      counters.settleOne (dispatchWithResilience readings).ended
  | .fanOut runtime _ onError size readings _ =>
      counters.settleMany size onError runtime.globals.stackOf
        (dispatchWithResilience readings).ended

/-- The outcomes of the tasks, of a dispatch that has settled. -/
def outcomes : PoolDispatch → List TaskOutcome
  | .runOneSource _ _ readings =>
      let run := dispatchWithResilience readings
      match run.ended with
      | .resolved result => [result.taskOutcome]
      | _ => [run.thrownOutcome]
  | .fanOut _ _ _ size readings _ =>
      let run := dispatchWithResilience readings
      match run.ended with
      | .resolved response => response.results.map RunOneResult.taskOutcome
      | _ => List.replicate size run.thrownOutcome

/--
The condition on a dispatch.  A single task succeeds, fails at its leaf with an
error that is no cancellation, or is cancelled before an attempt; a fan-out is
answered, with no cancellation among its errors, or it has no tasks.
-/
def IsCounted : PoolDispatch → Prop
  | .runOneSource _ _ readings =>
      match (dispatchWithResilience readings).ended with
      | .resolved result => result.taskOutcome ≠ .cancelled
      | ended => ended.thrownName = some "CancelledError"
  | .fanOut _ _ _ size readings _ =>
      match (dispatchWithResilience readings).ended with
      | .resolved response =>
          ∀ result ∈ response.results, result.taskOutcome ≠ .cancelled
      | _ => size = 0

end PoolDispatch

/-- Every settled task is counted once, by its outcome. -/
structure PoolCounters.Counts
    (counters : PoolCounters)
    (settled : List TaskOutcome) : Prop where
  completed : counters.completed = settled.count .completed
  failed : counters.failed = settled.count .failed
  cancelled : counters.cancelled = settled.count .cancelled

/-! ## Runs of a pool -/

/--
A pool between two events, with the tasks that were submitted to it and the
outcomes of those that have settled.
-/
structure PoolState where
  counters : PoolCounters
  opened : List PoolDispatch
  submitted : Nat
  settled : List TaskOutcome

/-- A dispatch begins, or one of those in flight settles. -/
inductive PoolEvent where
  | begins (dispatch : PoolDispatch)
  | settles (idx : Nat)

namespace PoolState

/-- A new pool. -/
def initial : PoolState where
  counters := ⟨0, 0, 0, 0⟩
  opened := []
  submitted := 0
  settled := []

/-- The step function of a pool. -/
def step (state : PoolState) : PoolEvent → Option PoolState
  | .begins dispatch =>
      some
        { state with
          counters := state.counters.inFlightInc dispatch.size
          opened := state.opened ++ [dispatch]
          submitted := state.submitted + dispatch.size }
  | .settles idx =>
      match state.opened[idx]? with
      | none => none
      | some dispatch =>
          (dispatch.settle state.counters).map fun counters =>
            { state with
              counters := counters
              opened := state.opened.eraseIdx idx
              settled := state.settled ++ dispatch.outcomes }

/-- The counters account for the tasks once all have settled. -/
structure Accounts (state : PoolState) : Prop where
  counts : state.counters.Counts state.settled
  total :
    state.opened = [] →
    state.counters.completed + state.counters.failed +
        state.counters.cancelled =
      state.submitted
  inFlight : state.opened = [] → state.counters.inFlight = 0

/-- The condition on an event. -/
def IsCounted (state : PoolState) : PoolEvent → Prop
  | .begins _ => True
  | .settles idx =>
      ∀ dispatch, state.opened[idx]? = some dispatch → dispatch.IsCounted

end PoolState

/-! ## The runs of `#fanOut` -/

section Created

variable {Item Value : Type}
variable {opts : RunFanOutOptions Item Value}

/-- Each worker that is created takes the next item and starts its run. -/
theorem RunFanOutOptions.foldl_takeNext
    (count : Nat)
    (within : count ≤ opts.items.length) :
    ((List.range count).foldl opts.takeNext opts.launch).cursor = count ∧
      ((List.range count).foldl opts.takeNext opts.launch).aborted = false ∧
        ((List.range count).foldl opts.takeNext opts.launch).started =
          List.range count := by
  induction count with
  | zero => exact ⟨rfl, rfl, rfl⟩
  | succ count inductionHypothesis =>
      obtain ⟨cursor, aborted, started⟩ :=
        inductionHypothesis (Nat.le_of_succ_le within)
      rw [List.range_succ, List.foldl_append, List.foldl_cons,
        List.foldl_nil]
      generalize
        (List.range count).foldl opts.takeNext opts.launch = state at *
      have present : opts.items[count]? = some opts.items[count] :=
        List.getElem?_eq_getElem within
      simp only [takeNext, runOne, present, aborted, Bool.false_eq_true,
        ↓reduceIte, cursor, started, and_self]

/-- With a worker for each item, every run starts at once and in order. -/
theorem RunFanOutOptions.started_created
    (workers : opts.concurrency = opts.items.length) :
    opts.created.started = List.range opts.items.length := by
  unfold created workerCount
  rw [workers, min_self]
  rcases Nat.eq_zero_or_pos opts.items.length with none | some
  · have items : opts.items = [] := List.length_eq_zero_iff.mp none
    simp [items, takeNext, launch]
  · have count : (max 1 (opts.items.length : Int)).toNat =
        opts.items.length := by omega
    rw [count]
    exact (foldl_takeNext _ (Nat.le_refl _)).2.2

end Created

namespace PoolCounters

/-- What the runs of all entries count. -/
theorem countRuns_range
    (counters : PoolCounters)
    (results : List RunOneResult) :
    counters.countRuns results (List.range results.length) =
      results.foldl countResult counters := by
  induction results using List.reverseRecOn with
  | nil => rfl
  | append_singleton earlier last inductionHypothesis =>
      have unread :
          ∀ (idx : Nat), idx ∈ List.range earlier.length →
            (earlier ++ [last])[idx]? = earlier[idx]? := fun idx member =>
        List.getElem?_append_left (List.mem_range.mp member)
      have before :
          counters.countRuns (earlier ++ [last])
              (List.range earlier.length) =
            earlier.foldl countResult counters := by
        rw [← inductionHypothesis]
        unfold countRuns
        refine List.foldl_ext _ _ _ fun counters idx member => ?_
        rw [unread idx member]
      rw [List.length_append, List.length_singleton, List.range_succ,
        List.foldl_append]
      unfold countRuns at before ⊢
      rw [List.foldl_append, before]
      simp

/-- Completed and failed entries are counted apart. -/
theorem foldl_countResult
    (counters : PoolCounters)
    (results : List RunOneResult) :
    results.foldl countResult counters =
      { counters with
        completed :=
          counters.completed +
            (results.map RunOneResult.taskOutcome).count .completed
        failed :=
          counters.failed +
            ((results.map RunOneResult.taskOutcome).count .failed +
              (results.map RunOneResult.taskOutcome).count .cancelled) } := by
  induction results generalizing counters with
  | nil => rfl
  | cons result rest inductionHypothesis =>
      rw [List.foldl_cons, inductionHypothesis]
      cases result with
      | ok value =>
          simp only [countResult, List.map_cons, RunOneResult.taskOutcome]
          simp
          omega
      | failed error =>
          simp only [countResult, List.map_cons, RunOneResult.taskOutcome,
            TaskOutcome.ofErrorName]
          split <;> simp <;> omega

end PoolCounters

/-! ## One dispatch -/

namespace TaskOutcome

/-- The tasks are counted by what became of them. -/
theorem length_eq_counts (outcomes : List TaskOutcome) :
    outcomes.length =
      outcomes.count .completed + outcomes.count .failed +
        outcomes.count .cancelled := by
  induction outcomes with
  | nil => rfl
  | cons outcome rest inductionHypothesis =>
      cases outcome <;> simp <;> omega

/-- The names of the errors that end a task from outside. -/
theorem ofErrorName_eq_cancelled_iff (name : Option String) :
    ofErrorName name = .cancelled ↔
      name = some "CancelledError" ∨ name = some "DeadlineExceededError" := by
  unfold ofErrorName
  split
  next named => exact iff_of_true rfl named
  next unnamed => exact iff_of_false nofun unnamed

/-- Every other error is a failure. -/
theorem eq_failed_of_ne_cancelled
    {name : Option String}
    (other : ofErrorName name ≠ .cancelled) :
    ofErrorName name = .failed :=
  if_neg fun named => other ((ofErrorName_eq_cancelled_iff name).mpr named)

end TaskOutcome

namespace PoolCounters

variable {counters : PoolCounters}
variable {settled : List TaskOutcome}

/-- Counters are compared one by one. -/
theorem counts_iff :
    counters.Counts settled ↔
      counters.completed = settled.count .completed ∧
        counters.failed = settled.count .failed ∧
          counters.cancelled = settled.count .cancelled :=
  ⟨fun counts => ⟨counts.completed, counts.failed, counts.cancelled⟩,
    fun ⟨completed, failed, cancelled⟩ => ⟨completed, failed, cancelled⟩⟩

/-- The tasks in flight are counted apart from the settled ones. -/
theorem counts_inFlightDec_iff (n : Nat) :
    (counters.inFlightDec n).Counts settled ↔ counters.Counts settled := by
  rw [counts_iff, counts_iff]
  rfl

/-- The `catch` counts a task that throws only if it is a cancellation. -/
theorem counts_caught_iff
    (counts : counters.Counts settled)
    {name : Option String}
    {outcome : TaskOutcome}
    (named : name = some "CancelledError" → outcome = .cancelled) :
    (counters.caught name).Counts (settled ++ [outcome]) ↔
      name = some "CancelledError" := by
  unfold caught
  split
  next cancelled =>
    refine iff_of_true ?_ cancelled
    rw [named cancelled]
    exact
      ⟨by simp [counts.completed], by simp [counts.failed],
        by simp [counts.cancelled]⟩
  next other =>
    refine iff_of_false (fun counted => ?_) other
    have completed := counted.completed
    have failed := counted.failed
    have cancelled := counted.cancelled
    rw [counts.completed, List.count_append] at completed
    rw [counts.failed, List.count_append] at failed
    rw [counts.cancelled, List.count_append] at cancelled
    have single := TaskOutcome.length_eq_counts [outcome]
    rw [List.length_singleton] at single
    omega

/-- An answered task is counted once if it is not cancelled. -/
theorem counts_answered_iff
    (counts : counters.Counts settled)
    (error : ErrorRecord) :
    ((counters.countResult (.failed error)).caught
          (leafErrorToTypedError error).name).Counts
        (settled ++ [(RunOneResult.failed error).taskOutcome]) ↔
      (RunOneResult.failed error).taskOutcome ≠ .cancelled := by
  have answered :
      (RunOneResult.failed error).taskOutcome =
        .ofErrorName (leafErrorToTypedError error).name := rfl
  rw [answered]
  by_cases ended :
      TaskOutcome.ofErrorName (leafErrorToTypedError error).name = .cancelled
  · refine iff_of_false (fun counted => ?_) (absurd ended)
    have failed := counted.failed
    rw [ended, List.count_append] at failed
    unfold caught at failed
    split at failed <;> simp [countResult, counts.failed] at failed
  · refine iff_of_true ?_ ended
    have other :
        ¬ (some (leafErrorToTypedError error).name =
            some "CancelledError") :=
      fun named =>
        ended ((TaskOutcome.ofErrorName_eq_cancelled_iff _).mpr (.inl named))
    rw [TaskOutcome.eq_failed_of_ne_cancelled ended, caught, if_neg other]
    exact
      ⟨by simp [countResult, counts.completed],
        by simp [countResult, counts.failed],
        by simp [countResult, counts.cancelled]⟩

/-- The entries of an answer are counted once if none is cancelled. -/
theorem counts_entries_iff
    (counts : counters.Counts settled)
    (results : List RunOneResult) :
    (results.foldl countResult counters).Counts
        (settled ++ results.map RunOneResult.taskOutcome) ↔
      ∀ result ∈ results, result.taskOutcome ≠ .cancelled := by
  have none_cancelled :
      (∀ result ∈ results, result.taskOutcome ≠ .cancelled) ↔
        (results.map RunOneResult.taskOutcome).count .cancelled = 0 := by
    rw [List.count_eq_zero, List.mem_map]
    exact
      ⟨fun never ⟨result, member, same⟩ => never result member same,
        fun never result member same => never ⟨result, member, same⟩⟩
  rw [none_cancelled, foldl_countResult, counts_iff]
  simp only [counts.completed, counts.failed, counts.cancelled,
    List.count_append]
  constructor
  · rintro ⟨-, -, cancelled⟩
    omega
  · intro never
    exact ⟨trivial, by omega, by omega⟩

/-- Of the tasks of a fan-out that throws, none is counted. -/
theorem counts_uncounted_iff
    (counts : counters.Counts settled)
    (outcomes : List TaskOutcome) :
    counters.Counts (settled ++ outcomes) ↔ outcomes.length = 0 := by
  rw [TaskOutcome.length_eq_counts, counts_iff, counts.completed,
    counts.failed, counts.cancelled]
  simp only [List.count_append]
  constructor
  · rintro ⟨completed, failed, cancelled⟩
    omega
  · intro none
    exact ⟨by omega, by omega, by omega⟩

end PoolCounters

namespace PoolDispatch

/-- The entries of an answer, as `#fanOut` counts them. -/
theorem countRuns_created
    (counters : PoolCounters)
    (onError : OnErrorStrategy)
    (stackOf : String → Option String)
    (results : List RunOneResult) :
    counters.countRuns results
        (Pool.fanOutOptions onError stackOf
          (results.map (·.outcome stackOf))).created.started =
      results.foldl PoolCounters.countResult counters := by
  have items :
      (Pool.fanOutOptions onError stackOf
        (results.map (·.outcome stackOf))).items.length =
          results.length := by
    simp [Pool.fanOutOptions]
  rw [RunFanOutOptions.started_created, items, PoolCounters.countRuns_range]
  rw [items]
  simp [Pool.fanOutOptions]

/-- A dispatch that settles has an outcome for each of its tasks. -/
theorem length_outcomes (dispatch : PoolDispatch) :
    dispatch.outcomes.length = dispatch.size := by
  cases dispatch with
  | runOneSource runtime opts readings =>
      unfold outcomes
      dsimp only
      split <;> rfl
  | fanOut runtime opts onError size readings answered =>
      unfold outcomes
      dsimp only
      split
      next response resolved =>
        obtain ⟨reading, member, won⟩ := exists_winner_of_resolved resolved
        rw [List.length_map]
        exact answered reading member response won
      next => exact List.length_replicate

variable {dispatch : PoolDispatch}
variable {counters next : PoolCounters}
variable {settled : List TaskOutcome}

/-- The outcome of a task that throws a `CancelledError`. -/
theorem thrownOutcome_of_cancelled
    {runtime : DispatchRuntime}
    {opts : DispatchOptions}
    {Value : Type}
    {run : DispatchRun runtime opts Value}
    (named : run.ended.thrownName = some "CancelledError") :
    run.thrownOutcome = .cancelled := by
  unfold DispatchRun.thrownOutcome
  split
  · rfl
  · rw [named]
    rfl

/-- A dispatch that settles is counted right exactly under the condition. -/
theorem counts_settle_iff
    (settles : dispatch.settle counters = some next)
    (counts : counters.Counts settled) :
    next.Counts (settled ++ dispatch.outcomes) ↔ dispatch.IsCounted := by
  cases dispatch with
  | runOneSource runtime opts readings =>
      have settles :
          counters.settleOne (dispatchWithResilience readings).ended =
            some next := settles
      unfold outcomes IsCounted
      dsimp only
      generalize dispatchWithResilience readings = run at settles ⊢
      obtain ⟨made, ended⟩ := run
      cases ended with
      | pending => cases settles
      | resolved result =>
          cases result with
          | ok value =>
              cases settles
              rw [PoolCounters.counts_inFlightDec_iff]
              simpa using PoolCounters.counts_entries_iff counts [.ok value]
          | failed error =>
              cases settles
              rw [PoolCounters.counts_inFlightDec_iff]
              exact PoolCounters.counts_answered_iff counts error
      | rejected | exhausted | cancelled | nothing | typeError =>
          cases settles
          rw [PoolCounters.counts_inFlightDec_iff]
          exact
            PoolCounters.counts_caught_iff counts
              fun named => thrownOutcome_of_cancelled named
  | fanOut runtime opts onError size readings answered =>
      have settles :
          counters.settleMany size onError runtime.globals.stackOf
              (dispatchWithResilience readings).ended =
            some next := settles
      unfold outcomes IsCounted
      dsimp only
      generalize dispatchWithResilience readings = run at settles ⊢
      obtain ⟨made, ended⟩ := run
      cases ended with
      | pending => cases settles
      | resolved response =>
          cases settles
          rw [countRuns_created]
          exact
            PoolCounters.counts_entries_iff
              ((PoolCounters.counts_inFlightDec_iff size).mpr counts)
              response.results
      | rejected | exhausted | cancelled | nothing | typeError =>
          cases settles
          rw [PoolCounters.counts_inFlightDec_iff,
            PoolCounters.counts_uncounted_iff counts, List.length_replicate]

/-- The `catch` leaves the tasks in flight alone. -/
theorem inFlight_caught (name : Option String) :
    (counters.caught name).inFlight = counters.inFlight := by
  unfold PoolCounters.caught
  split <;> rfl

/-- A dispatch that settles is no longer in flight. -/
theorem inFlight_settle
    (settles : dispatch.settle counters = some next) :
    next.inFlight = counters.inFlight - dispatch.size := by
  cases dispatch with
  | runOneSource runtime opts readings =>
      have settles :
          counters.settleOne (dispatchWithResilience readings).ended =
            some next := settles
      generalize (dispatchWithResilience readings).ended = ended at settles
      cases ended with
      | pending => cases settles
      | resolved result =>
          cases result with
          | ok value =>
              cases settles
              rfl
          | failed error =>
              cases settles
              exact congrArg (· - 1) (inFlight_caught _)
      | rejected | exhausted | cancelled | nothing | typeError =>
          cases settles
          exact congrArg (· - 1) (inFlight_caught _)
  | fanOut runtime opts onError size readings answered =>
      have settles :
          counters.settleMany size onError runtime.globals.stackOf
              (dispatchWithResilience readings).ended =
            some next := settles
      generalize (dispatchWithResilience readings).ended = ended at settles
      cases ended with
      | pending => cases settles
      | resolved response =>
          cases settles
          rw [countRuns_created, PoolCounters.foldl_countResult]
          rfl
      | rejected | exhausted | cancelled | nothing | typeError =>
          cases settles
          rfl

end PoolDispatch

/-! ## Whole runs -/

namespace PoolState

/-- The tasks of the dispatches in flight. -/
def openedTasks (state : PoolState) : Nat :=
  (state.opened.map PoolDispatch.size).sum

/-- Every task is in flight or settled. -/
structure Follows (state : PoolState) : Prop where
  inFlight : state.counters.inFlight = state.openedTasks
  submitted : state.submitted = state.openedTasks + state.settled.length

/-- A settled dispatch takes its tasks along. -/
theorem sum_eraseIdx
    {opened : List PoolDispatch}
    {idx : Nat}
    {dispatch : PoolDispatch}
    (there : opened[idx]? = some dispatch) :
    (opened.map PoolDispatch.size).sum =
      ((opened.eraseIdx idx).map PoolDispatch.size).sum + dispatch.size := by
  obtain ⟨within, same⟩ := List.getElem?_eq_some_iff.mp there
  rw [List.eraseIdx_eq_take_drop_succ]
  nth_rewrite 1 [← List.take_append_drop idx opened]
  rw [List.drop_eq_getElem_cons within, same]
  simp only [List.map_append, List.sum_append, List.map_cons, List.sum_cons]
  omega

/-- An event moves tasks between those in flight and the settled ones. -/
theorem follows_of_step
    {state next : PoolState}
    {event : PoolEvent}
    (stepped : state.step event = some next)
    (follows : state.Follows) :
    next.Follows := by
  cases event with
  | begins dispatch =>
      cases stepped
      refine ⟨?_, ?_⟩
      · simp [PoolCounters.inFlightInc, openedTasks, follows.inFlight]
      · simp only [openedTasks, follows.submitted, List.map_append,
          List.sum_append, List.map_singleton, List.sum_singleton]
        omega
  | settles idx =>
      unfold step at stepped
      cases there : state.opened[idx]? with
      | none => simp [there] at stepped
      | some dispatch =>
          simp only [there, Option.map_eq_some_iff] at stepped
          obtain ⟨counters, settles, rfl⟩ := stepped
          have tasks := sum_eraseIdx there
          refine ⟨?_, ?_⟩
          · simp only [PoolDispatch.inFlight_settle settles, follows.inFlight,
              openedTasks, tasks]
            omega
          · simp only [follows.submitted, openedTasks, tasks,
              List.length_append, PoolDispatch.length_outcomes]
            omega

/-- A settling dispatch is counted right exactly under the condition. -/
theorem counts_of_step_iff
    {state next : PoolState}
    {event : PoolEvent}
    (stepped : state.step event = some next)
    (counts : state.counters.Counts state.settled) :
    next.counters.Counts next.settled ↔ state.IsCounted event := by
  cases event with
  | begins dispatch =>
      cases stepped
      exact
        iff_of_true ⟨counts.completed, counts.failed, counts.cancelled⟩ trivial
  | settles idx =>
      unfold step at stepped
      cases there : state.opened[idx]? with
      | none => simp [there] at stepped
      | some dispatch =>
          simp only [there, Option.map_eq_some_iff] at stepped
          obtain ⟨counters, settles, rfl⟩ := stepped
          rw [PoolDispatch.counts_settle_iff settles counts]
          simp [IsCounted, there]

/-- The counters account for the tasks if they count the settled ones. -/
theorem Follows.accounts
    {state : PoolState}
    (follows : state.Follows)
    (counts : state.counters.Counts state.settled) :
    state.Accounts where
  counts := counts
  total none := by
    rw [counts.completed, counts.failed, counts.cancelled,
      ← TaskOutcome.length_eq_counts, follows.submitted, openedTasks, none]
    simp
  inFlight none := by
    rw [follows.inFlight, openedTasks, none]
    rfl

/-- Nothing is counted in a new pool. -/
theorem follows_initial : initial.Follows := ⟨rfl, rfl⟩

/--
In every run whose dispatches meet the condition, the counters account for the
tasks in each state that is reached.  A dispatch that settles is counted right
exactly under the condition, and whatever it does, no task is left in flight.
-/
theorem accounts_of_isCounted
    (events : List PoolEvent)
    (final : PoolState) :
    (GuardedRun step IsCounted initial events final → final.Accounts) ∧
      (Run step initial events final →
        final.opened = [] →
        final.counters.inFlight = 0) ∧
        ∀ event next,
          final.step event = some next →
          final.counters.Counts final.settled →
          (next.counters.Counts next.settled ↔ final.IsCounted event) := by
  refine ⟨fun run => ?_, fun run none => ?_,
    fun event next stepped counts => counts_of_step_iff stepped counts⟩
  · have both :
        final.Follows ∧ final.counters.Counts final.settled :=
      run.invariant
        (fun counted stepped before => And.intro
          (follows_of_step stepped before.1)
          ((counts_of_step_iff stepped before.2).mpr counted))
        (And.intro follows_initial ⟨rfl, rfl, rfl⟩)
    exact both.1.accounts both.2
  · have follows : final.Follows :=
      run.invariant (fun _ stepped => follows_of_step stepped) follows_initial
    rw [follows.inFlight, openedTasks, none]
    rfl

/-- A timeout and a single attempt. -/
def limited : DispatchOptions where
  timeout := some (.typed (.finite 50))
  retries := none
  cancel := false
  deadlineEpochMs := none

/-- A submit with a timeout. -/
def submits
    (reading : AttemptReading wholeNumbers limited RunOneResult) :
    PoolDispatch :=
  .runOneSource wholeNumbers limited [reading]

/-- The record of an error that a function throws. -/
def thrownByUser : ErrorRecord where
  name := "Error"
  message := "no"

/-- A submit that resolves, and one whose function throws. -/
def resolvesAndThrows : List PoolEvent :=
  [ .begins (submits (.settledBy (.ok (.ok .undefined)))),
    .begins (submits (.settledBy (.ok (.failed thrownByUser)))),
    .settles 1,
    .settles 0 ]

/-- The pool when both have settled. -/
def bothSettled : PoolState where
  counters := ⟨0, 1, 1, 0⟩
  opened := []
  submitted := 2
  settled := [.failed, .completed]

theorem accounts_resolvesAndThrows : bothSettled.Accounts := by
  refine (accounts_of_isCounted resolvesAndThrows bothSettled).1 ?_
  refine .cons trivial rfl (.cons trivial rfl (.cons ?_ rfl
    (.cons ?_ rfl .nil)))
  · rintro dispatch ⟨rfl⟩
    have failed :
        (RunOneResult.failed thrownByUser).taskOutcome ≠ .cancelled := by
      decide
    exact failed
  · rintro dispatch ⟨rfl⟩
    exact nofun

/-- The submit takes longer than its timeout. -/
def timedOut : PoolDispatch :=
  submits
    { fires := none
      hasToken := hasToken_of_silent
      expired := false
      winner := .timeout
      takesPart := rfl }

/-- A submit that times out is counted nowhere. -/
theorem not_accounts_timedOut :
    ¬ ∀ events final,
        Run step initial events final →
        final.opened = [] →
        final.counters.completed + final.counters.failed +
            final.counters.cancelled =
          final.submitted := by
  intro accounts
  have total :=
    accounts [.begins timedOut, .settles 0] ⟨⟨0, 0, 0, 0⟩, [], 1, [.failed]⟩
      (.of_foldlM rfl) rfl
  cases total

end PoolState

end CloudflareParallel
