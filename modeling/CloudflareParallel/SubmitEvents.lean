import CloudflareParallel.Observability

namespace CloudflareParallel

open JsonValues LabelledRuns

/-!
# The events of a submit

`#runOneSource` emits an event once it has its envelope, one for each retry
because of backpressure, and one or two as it ends.  The end is a `try` that
counts and emits, whose `catch` sees what it throws itself, and emits unless that
was done.
-/

/-! ## The retries of a dispatch -/

section Retries

variable {runtime : DispatchRuntime}
variable {opts : DispatchOptions}
variable {Value : Type}

/--
The error that `onRetry` is called with after an attempt.  `attempt` is less
than `maxAttempts - 1` if its successor is less than `maxAttempts`: to take one
off a number from one up is exact.
-/
def AttemptRecord.retried?
    (record : AttemptRecord runtime opts Value)
    (maxAttempts : JsDouble) : Option ParallelError :=
  match record.reading.withRaces with
  | .ok _ => none
  | .error rawErr =>
      let err := marshalError runtime.globals rawErr
      if endsLoop err then
        none
      else if (JsDouble.ofNat (record.attempt + 1)).lessThan maxAttempts then
        some err
      else
        none

/-- The errors that `onRetry` is called with, in order. -/
def DispatchRun.retries
    (run : DispatchRun runtime opts Value) : List ParallelError :=
  match opts.maxAttempts runtime with
  | none => []
  | some maxAttempts => run.made.filterMap (·.retried? maxAttempts)

/-- What the `catch` around a dispatch gets hold of. -/
def DispatchEnd.caught
    (numerics : JsNumerics) :
    DispatchEnd Value → CaughtValue
  | .rejected err => .error err.name err.message
  | .exhausted attempts lastError =>
      .error "RetryExhaustedError"
        (retryExhaustedMessage ⟨numerics.textOf attempts⟩ lastError.message)
  | .cancelled err => .error err.name err.message
  | .typeError =>
      .error "TypeError" "Cannot convert object to primitive value"
  | .nothing | .resolved _ | .pending => .undefined

end Retries

/-! ## The code -/

/-- What a submit is made with. -/
structure SubmitTask where
  poolId : String
  taskId : String
  topology : Topology
  fnHash : String
  envelope : EnvelopeOptions
  runtime : DispatchRuntime
  opts : DispatchOptions
  readings : List (AttemptReading runtime opts RunOneResult)

/-- The dispatch of a submit. -/
def SubmitTask.run
    (task : SubmitTask) : DispatchRun task.runtime task.opts RunOneResult :=
  dispatchWithResilience task.readings

/-- A rejection of `buildEnvelope`, which is an error, as it is caught. -/
def Rejection.caughtValue : Rejection → CaughtValue
  | .error err => .error err.name err.message
  | .other _ => .undefined

/-- What `buildEnvelope` throws, if it throws. -/
def SubmitTask.refusal? (task : SubmitTask) : Option CaughtValue :=
  match task.envelope.build task.runtime with
  | .error thrown => some thrown.caughtValue
  | .ok _ => none

/-- It is an error, with a name and a message. -/
theorem SubmitTask.isError_of_refusal
    {task : SubmitTask}
    {err : CaughtValue}
    (refused : task.refusal? = some err) :
    ∃ name message, err = .error name message := by
  unfold refusal? at refused
  cases built : task.envelope.build task.runtime with
  | ok _ =>
      rw [built] at refused
      cases refused
  | error thrown =>
      obtain ⟨object, rfl⟩ := EnvelopeOptions.isError_of_build built
      rw [built] at refused
      cases refused
      exact ⟨_, _, rfl⟩

/-- The clock at the end of a submit: for the event, and for its duration. -/
structure EndReadings where
  ts : Int
  wall : Int

/-- A submit with what it has read and done so far. -/
structure OpenSubmit where
  task : SubmitTask
  startTs : Int
  /-- When `onRetry` was called. -/
  retriedAt : List Int := []
  /-- What its caller gets, and what was read at its end. -/
  answer : Option (EndReadings × Except CaughtValue JsValue) := none

/-- `retryCount` goes up by one in `onRetry`. -/
def OpenSubmit.retryCount (submit : OpenSubmit) : Nat :=
  submit.retriedAt.length

/-- The variables that the end of a submit works on. -/
structure SubmitVars (Held : Type) where
  counters : PoolCounters := ⟨0, 0, 0, 0⟩
  /-- A local of the end of one submit, in which no other code runs. -/
  errorEmitted : Bool := false
  /-- What the hooks and the writer hold. -/
  held : Held
  /-- The events emitted so far, with the number of the submit. -/
  log : List (Nat × ObservabilityEvent) := []

section Code

variable {Held : Type}
variable (obs : Option (ObservabilityOptions Held))

/-- `emitObservabilityEvent(obs, ev)` in a submit. -/
def emit
    (index : Nat)
    (ev : ObservabilityEvent) : UserCode (SubmitVars Held) Unit :=
  fun vars =>
    let emitted := emitObservabilityEvent obs ev vars.held
    (emitted.1,
      { vars with held := emitted.2, log := vars.log ++ [(index, ev)] })

/-- An assignment to the counters. -/
def count
    (change : PoolCounters → PoolCounters) : UserCode (SubmitVars Held) Unit :=
  .modify fun vars => { vars with counters := change vars.counters }

/-- `onRetry`. -/
def onRetry
    (index : Nat)
    (now : Int)
    (error : ParallelError) : UserCode (SubmitVars Held) Unit :=
  if error.name = "BackpressureError" then
    emit obs index (.poolPressure { ts := now, detail := error.message })
  else
    pure ()

namespace OpenSubmit

variable (submit : OpenSubmit)

/-- The payload that all events of a submit share. -/
def payload (ts : Int) : TaskStartEvent where
  ts := ts
  poolId := submit.task.poolId
  taskId := submit.task.taskId
  topology := submit.task.topology
  fnHash := submit.task.fnHash

/-- The event of a submit that succeeds. -/
def taskEnd (clock : EndReadings) : ObservabilityEvent :=
  .taskEnd {
    toTaskStartEvent := submit.payload clock.ts
    wallMs := clock.wall - submit.startTs
    retryCount := submit.retryCount
  }

/-- The event of a submit that fails. -/
def taskError
    (clock : EndReadings)
    (errorClass message : String) : ObservabilityEvent :=
  .taskError {
    toTaskStartEvent := submit.payload clock.ts
    errorClass := errorClass
    message := message
    retryCount := submit.retryCount
  }

/-- The event of a submit that is cancelled. -/
def taskOrphan
    (clock : EndReadings)
    (reason : String) : ObservabilityEvent :=
  .taskOrphan {
    ts := clock.ts
    poolId := submit.task.poolId
    taskId := submit.task.taskId
    reason := reason
  }

/-- `#runOneSource` up to its dispatch. -/
def begin_ (index : Nat) : UserCode (SubmitVars Held) Unit :=
  match submit.task.refusal? with
  | some err => .throws err
  | none => do
      emit obs index (.taskStart (submit.payload submit.startTs))
      count (·.inFlightInc 1)

/-- The body of the `try` behind the `await`. -/
def tryBody
    (index : Nat)
    (clock : EndReadings) :
    DispatchEnd RunOneResult → UserCode (SubmitVars Held) JsValue
  | .resolved (.ok value) => do
      count (·.countResult (.ok value))
      emit obs index (submit.taskEnd clock)
      pure value
  | .resolved (.failed error) => do
      let err := leafErrorToTypedError error
      count (·.countResult (.failed error))
      emit obs index (submit.taskError clock err.name err.message)
      .modify fun vars => { vars with errorEmitted := true }
      .throws (.error err.name err.message)
  | ended => .throws (ended.caught submit.task.runtime.numerics)

/-- A cancellation is counted, and its task may still be running. -/
def orphan
    (index : Nat)
    (clock : EndReadings)
    (name message : String) : UserCode (SubmitVars Held) Unit := do
  count (·.caught (some name))
  if name = "CancelledError" then
    emit obs index (submit.taskOrphan clock message)
  else
    pure ()

/-- `if (!errorEmitted)`. -/
def errorOnce
    (index : Nat)
    (clock : EndReadings)
    (name message : String) : UserCode (SubmitVars Held) Unit :=
  fun vars =>
    if vars.errorEmitted then
      (.ok (), vars)
    else
      emit obs index (submit.taskError clock name message) vars

/-- The `catch`; a look at the name of `undefined` throws. -/
def catchBody
    (index : Nat)
    (clock : EndReadings) :
    CaughtValue → UserCode (SubmitVars Held) JsValue
  | .undefined =>
      .throws
        (.error "TypeError"
          "Cannot read properties of undefined (reading 'name')")
  | .error name message => do
      submit.orphan obs index clock name message
      submit.errorOnce obs index clock name message
      .throws (.error name message)

/-- The `catch` and the `finally` around the end of a `try`. -/
def finish
    (index : Nat)
    (clock : EndReadings)
    (body : UserCode (SubmitVars Held) JsValue) :
    UserCode (SubmitVars Held) JsValue :=
  (body.catches (submit.catchBody obs index clock)).ensures fun vars =>
    { vars with
      counters := vars.counters.inFlightDec 1
      errorEmitted := false }

/-- `#runOneSource` from the end of its dispatch. -/
def end_
    (index : Nat)
    (clock : EndReadings)
    (ended : DispatchEnd RunOneResult) :
    UserCode (SubmitVars Held) JsValue :=
  submit.finish obs index clock (submit.tryBody obs index clock ended)

end OpenSubmit

end Code

/-! ## Runs of a pool -/

/-- The submits of a pool, by their numbers. -/
structure ObservedPool (Held : Type) where
  submits : List OpenSubmit := []
  vars : SubmitVars Held

/-- A submit begins, its dispatch calls `onRetry`, or its dispatch settles. -/
inductive SubmitEvent where
  | begins (task : SubmitTask) (startTs : Int)
  | retries (index : Nat) (clock : EndReadings)
  | settles (index : Nat) (clock : EndReadings)

/-- `onRetry` is called at a time. -/
def OpenSubmit.retried
    (submit : OpenSubmit)
    (now : Int) : OpenSubmit :=
  { submit with retriedAt := submit.retriedAt ++ [now] }

/-- The caller gets its answer. -/
def OpenSubmit.answered
    (submit : OpenSubmit)
    (clock : EndReadings)
    (answer : Except CaughtValue JsValue) : OpenSubmit :=
  { submit with answer := some (clock, answer) }

/-- The error that `onRetry` is called with next. -/
def OpenSubmit.nextRetry? (submit : OpenSubmit) : Option ParallelError :=
  match submit.answer with
  | some _ => none
  | none => submit.task.run.retries[submit.retryCount]?

/-- The end of the dispatch, when `onRetry` has been called for all retries. -/
def OpenSubmit.nextEnd?
    (submit : OpenSubmit) : Option (DispatchEnd RunOneResult) :=
  match submit.answer, submit.task.run.ended with
  | some _, _ => none
  | none, .pending => none
  | none, ended =>
      if submit.retryCount = submit.task.run.retries.length then
        some ended
      else
        none

namespace ObservedPool

variable {Held : Type}

/-- A submit and the variables are updated. -/
def put
    (state : ObservedPool Held)
    (index : Nat)
    (submit : OpenSubmit)
    (vars : SubmitVars Held) : ObservedPool Held :=
  { submits := state.submits.set index submit, vars := vars }

/-- The step function of a pool, with what its code throws. -/
def step
    (obs : Option (ObservabilityOptions Held))
    (state : ObservedPool Held) :
    SubmitEvent → Option (ObservedPool Held)
  | .begins task startTs =>
      let submit : OpenSubmit := { task := task, startTs := startTs }
      match submit.begin_ obs state.submits.length state.vars with
      | (.ok (), vars) =>
          some { submits := state.submits ++ [submit], vars := vars }
      | (.error err, vars) =>
          -- Outside the `try`: neither its `catch` nor its `finally` runs.
          let rejected := submit.answered ⟨startTs, startTs⟩ (.error err)
          some { submits := state.submits ++ [rejected], vars := vars }
  | .retries index clock =>
      state.submits[index]?.bind fun submit =>
        submit.nextRetry?.map fun error =>
          let retried := submit.retried clock.ts
          match onRetry obs index clock.ts error state.vars with
          | (.ok (), vars) => state.put index retried vars
          | (.error err, vars) =>
              -- The dispatch rejects with what its `onRetry` throws.
              let ended := retried.finish obs index clock (.throws err) vars
              state.put index (retried.answered clock ended.1) ended.2
  | .settles index clock =>
      state.submits[index]?.bind fun submit =>
        submit.nextEnd?.map fun ended =>
          let ended := submit.end_ obs index clock ended state.vars
          state.put index (submit.answered clock ended.1) ended.2

end ObservedPool

/-! ## What a submit emits -/

/-- What the caller of a submit gets. -/
def OpenSubmit.answerOf
    (submit : OpenSubmit) :
    DispatchEnd RunOneResult → Except CaughtValue JsValue
  | .resolved (.ok value) => .ok value
  | .resolved (.failed error) =>
      let err := leafErrorToTypedError error
      .error (.error err.name err.message)
  | ended =>
      match ended.caught submit.task.runtime.numerics with
      | .undefined =>
          .error
            (.error "TypeError"
              "Cannot read properties of undefined (reading 'name')")
      | .error name message => .error (.error name message)

/-- The events of an end, in order. -/
def OpenSubmit.endEvents
    (submit : OpenSubmit)
    (clock : EndReadings) :
    DispatchEnd RunOneResult → List ObservabilityEvent
  | .pending => []
  | .resolved (.ok _) => [submit.taskEnd clock]
  | .resolved (.failed error) =>
      let err := leafErrorToTypedError error
      submit.taskError clock err.name err.message ::
        if err.name = "CancelledError" then
          [submit.taskOrphan clock err.message]
        else
          []
  | ended =>
      match ended.caught submit.task.runtime.numerics with
      | .undefined => []
      | .error name message =>
          (if name = "CancelledError" then
            [submit.taskOrphan clock message]
          else
            []) ++
            [submit.taskError clock name message]

/-- The events of a retry. -/
def retryEvents
    (now : Int)
    (error : ParallelError) : List ObservabilityEvent :=
  if error.name = "BackpressureError" then
    [.poolPressure { ts := now, detail := error.message }]
  else
    []

/-- The events of a submit once its caller has an answer. -/
def OpenSubmit.lastEvents (submit : OpenSubmit) : List ObservabilityEvent :=
  match submit.answer with
  | none => []
  | some (clock, _) => submit.endEvents clock submit.task.run.ended

/--
All events of a submit, by what it has read and done so far; without an
envelope there are none.
-/
def OpenSubmit.events (submit : OpenSubmit) : List ObservabilityEvent :=
  match submit.task.refusal? with
  | some _ => []
  | none =>
      .taskStart (submit.payload submit.startTs) ::
        ((List.zipWith retryEvents submit.retriedAt
            submit.task.run.retries).flatten ++
          submit.lastEvents)

namespace SubmitVars

variable {Held : Type}
variable (obs : Option (ObservabilityOptions Held))

/-- The variables when some events of a submit have been emitted. -/
def emitted
    (vars : SubmitVars Held)
    (index : Nat)
    (events : List ObservabilityEvent) : SubmitVars Held :=
  { vars with
    held := events.foldl (deliver obs) vars.held
    log := vars.log ++ events.map (index, ·) }

/-- The variables when the counters have been changed. -/
def counted
    (vars : SubmitVars Held)
    (counters : PoolCounters) : SubmitVars Held :=
  { vars with counters := counters }

end SubmitVars

section Ends

variable {Held : Type}
variable {obs : Option (ObservabilityOptions Held)}

/-- Where no events are emitted, nothing changes. -/
theorem SubmitVars.emitted_nil
    (vars : SubmitVars Held)
    (index : Nat) :
    vars.emitted obs index [] = vars := by
  simp only [SubmitVars.emitted, List.map_nil, List.append_nil,
    List.foldl_nil]

/-- Events that are emitted one after the other. -/
theorem SubmitVars.emitted_emitted
    (vars : SubmitVars Held)
    (index : Nat)
    (events later : List ObservabilityEvent) :
    (vars.emitted obs index events).emitted obs index later =
      vars.emitted obs index (events ++ later) := by
  simp only [SubmitVars.emitted, List.foldl_append, List.map_append,
    List.append_assoc]

/-- An event is emitted, and nothing throws. -/
theorem emit_eq
    (index : Nat)
    (ev : ObservabilityEvent)
    (vars : SubmitVars Held) :
    emit obs index ev vars = (.ok (), vars.emitted obs index [ev]) := by
  unfold emit
  rw [emitObservabilityEvent_eq]
  rfl

/-- With an envelope, what begins a submit throws nothing. -/
theorem begin_of_built
    {submit : OpenSubmit}
    (built : submit.task.refusal? = none)
    (index : Nat)
    (vars : SubmitVars Held) :
    submit.begin_ obs index vars =
      (.ok (),
        (vars.emitted obs index
            [.taskStart (submit.payload submit.startTs)]).counted
          (vars.counters.inFlightInc 1)) := by
  unfold OpenSubmit.begin_
  rw [built]
  exact UserCode.bind_of_ok (emit_eq ..)

/-- Without one, the error of `buildEnvelope` is all that comes of it. -/
theorem begin_of_refused
    {submit : OpenSubmit}
    {err : CaughtValue}
    (refused : submit.task.refusal? = some err)
    (index : Nat)
    (vars : SubmitVars Held) :
    submit.begin_ obs index vars = (.error err, vars) := by
  unfold OpenSubmit.begin_
  rw [refused]
  rfl

/-- `onRetry` throws nothing. -/
theorem onRetry_eq
    (index : Nat)
    (now : Int)
    (error : ParallelError)
    (vars : SubmitVars Held) :
    onRetry obs index now error vars =
      (.ok (), vars.emitted obs index (retryEvents now error)) := by
  unfold onRetry retryEvents
  split
  next => exact emit_eq ..
  next =>
    rw [SubmitVars.emitted_nil]
    rfl

/-- A cancellation is counted and reported. -/
theorem orphan_eq
    (submit : OpenSubmit)
    (index : Nat)
    (clock : EndReadings)
    (name message : String)
    (vars : SubmitVars Held) :
    submit.orphan obs index clock name message vars =
      (.ok (),
        (vars.counted (vars.counters.caught (some name))).emitted obs index
          (if name = "CancelledError" then
            [submit.taskOrphan clock message]
          else
            [])) := by
  unfold OpenSubmit.orphan
  refine (UserCode.bind_of_ok (show count _ vars = (.ok (), vars.counted _)
    from rfl)).trans ?_
  split
  next => exact emit_eq ..
  next =>
    rw [SubmitVars.emitted_nil]
    rfl

/-- An error is reported unless that was done. -/
theorem errorOnce_eq
    (submit : OpenSubmit)
    (index : Nat)
    (clock : EndReadings)
    (name message : String)
    (vars : SubmitVars Held) :
    submit.errorOnce obs index clock name message vars =
      (.ok (),
        vars.emitted obs index
          (if vars.errorEmitted then
            []
          else
            [submit.taskError clock name message])) := by
  unfold OpenSubmit.errorOnce
  split
  next => rw [SubmitVars.emitted_nil]
  next => exact emit_eq ..

/-- The `catch` emits what the `try` has not, and throws what it has caught. -/
theorem catchBody_eq
    (submit : OpenSubmit)
    (index : Nat)
    (clock : EndReadings)
    (name message : String)
    (vars : SubmitVars Held) :
    submit.catchBody obs index clock (.error name message) vars =
      (.error (.error name message),
        (vars.counted (vars.counters.caught (some name))).emitted obs index
          ((if name = "CancelledError" then
              [submit.taskOrphan clock message]
            else
              []) ++
            if vars.errorEmitted then
              []
            else
              [submit.taskError clock name message])) := by
  refine (UserCode.bind_of_ok (orphan_eq ..)).trans ?_
  refine (UserCode.bind_of_ok (errorOnce_eq ..)).trans ?_
  rw [SubmitVars.emitted_emitted]
  rfl

/-- An end whose `try` throws an error, by what the `try` leaves. -/
theorem finish_of_throws
    (submit : OpenSubmit)
    (index : Nat)
    (clock : EndReadings)
    {body : UserCode (SubmitVars Held) JsValue}
    {vars after : SubmitVars Held}
    {name message : String}
    (threw : body vars = (.error (.error name message), after)) :
    submit.finish obs index clock body vars =
      (.error (.error name message),
        { after.emitted obs index
            ((if name = "CancelledError" then
                [submit.taskOrphan clock message]
              else
                []) ++
              if after.errorEmitted then
                []
              else
                [submit.taskError clock name message]) with
          counters := (after.counters.caught (some name)).inFlightDec 1
          errorEmitted := false }) := by
  unfold OpenSubmit.finish UserCode.ensures UserCode.catches
  rw [threw]
  dsimp only
  rw [catchBody_eq]
  rfl

/-- An end of a dispatch that throws before the `try` has done anything. -/
theorem end_of_caught
    (submit : OpenSubmit)
    (index : Nat)
    (clock : EndReadings)
    {ended : DispatchEnd RunOneResult}
    {vars : SubmitVars Held}
    {name message : String}
    (fresh : vars.errorEmitted = false)
    (threw :
      submit.tryBody obs index clock ended vars =
        (.error (.error name message), vars)) :
    submit.end_ obs index clock ended vars =
      (.error (.error name message),
        (vars.emitted obs index
            ((if name = "CancelledError" then
                [submit.taskOrphan clock message]
              else
                []) ++
              [submit.taskError clock name message])).counted
          ((vars.counters.caught (some name)).inFlightDec 1)) := by
  obtain ⟨before, emitted, held, log⟩ := vars
  cases fresh
  exact finish_of_throws submit index clock threw

/-- The end of a submit counts, emits and answers as it should. -/
theorem end_eq
    (submit : OpenSubmit)
    (index : Nat)
    (clock : EndReadings)
    {ended : DispatchEnd RunOneResult}
    {vars : SubmitVars Held}
    {counters : PoolCounters}
    (fresh : vars.errorEmitted = false)
    (settles : vars.counters.settleOne ended = some counters) :
    submit.end_ obs index clock ended vars =
      (submit.answerOf ended,
        (vars.emitted obs index (submit.endEvents clock ended)).counted
          counters) := by
  cases ended with
  | pending => cases settles
  | resolved result =>
      obtain ⟨before, emitted, held, log⟩ := vars
      cases fresh
      cases result with
      | ok value =>
          cases settles
          have ran :
              submit.tryBody obs index clock (.resolved (.ok value))
                  ⟨before, false, held, log⟩ =
                (.ok value,
                  SubmitVars.emitted obs
                    ⟨before.countResult (.ok value), false, held, log⟩ index
                    [submit.taskEnd clock]) :=
            UserCode.bind_of_ok (emit_eq ..)
          unfold OpenSubmit.end_ OpenSubmit.finish UserCode.ensures
            UserCode.catches
          rw [ran]
          rfl
      | failed error =>
          cases settles
          have threw :
              submit.tryBody obs index clock (.resolved (.failed error))
                  ⟨before, false, held, log⟩ =
                (.error
                    (.error (leafErrorToTypedError error).name
                      (leafErrorToTypedError error).message),
                  { SubmitVars.emitted obs
                      ⟨before.countResult (.failed error), false, held, log⟩
                      index
                      [submit.taskError clock
                        (leafErrorToTypedError error).name
                        (leafErrorToTypedError error).message] with
                    errorEmitted := true }) :=
            UserCode.bind_of_ok (emit_eq ..)
          unfold OpenSubmit.end_
          rw [finish_of_throws submit index clock threw]
          simp only [SubmitVars.emitted, OpenSubmit.endEvents, ↓reduceIte,
            List.append_nil, List.map_cons, List.map_nil, List.foldl_cons,
            List.foldl_nil, List.append_assoc, List.cons_append,
            List.nil_append]
          rfl
  | rejected err =>
      cases settles
      exact end_of_caught submit index clock fresh rfl
  | exhausted attempts lastError =>
      cases settles
      exact end_of_caught submit index clock fresh rfl
  | cancelled err =>
      cases settles
      exact end_of_caught submit index clock fresh rfl
  | typeError =>
      cases settles
      exact end_of_caught submit index clock fresh rfl
  | nothing =>
      obtain ⟨before, emitted, held, log⟩ := vars
      cases fresh
      cases settles
      simp only [SubmitVars.emitted, OpenSubmit.endEvents, DispatchEnd.caught,
        List.map_nil, List.append_nil, List.foldl_nil]
      rfl

end Ends

/-! ## What an event does -/

/-- What a submit does next, it does before it has its answer. -/
theorem OpenSubmit.answer_of_nextRetry
    {submit : OpenSubmit}
    {error : ParallelError}
    (next : submit.nextRetry? = some error) :
    submit.answer = none ∧
      submit.task.run.retries[submit.retryCount]? = some error := by
  unfold nextRetry? at next
  split at next
  next => cases next
  next unanswered => exact ⟨unanswered, next⟩

/-- A dispatch that has settled is not pending. -/
theorem OpenSubmit.answer_of_nextEnd
    {submit : OpenSubmit}
    {ended : DispatchEnd RunOneResult}
    (next : submit.nextEnd? = some ended) :
    submit.answer = none ∧ submit.task.run.ended = ended ∧ ended ≠ .pending := by
  unfold nextEnd? at next
  split at next
  next => cases next
  next => cases next
  next unanswered running =>
    split at next
    next =>
      cases next
      exact ⟨unanswered, rfl, running⟩
    next => cases next

/-- A dispatch that is not pending can be counted. -/
theorem PoolCounters.exists_settleOne
    (counters : PoolCounters)
    {ended : DispatchEnd RunOneResult}
    (settled : ended ≠ .pending) :
    ∃ after, counters.settleOne ended = some after := by
  cases ended with
  | pending => exact absurd rfl settled
  | resolved result => cases result <;> exact ⟨_, rfl⟩
  | _ => exact ⟨_, rfl⟩

section Runs

variable {Held : Type}
variable {obs : Option (ObservabilityOptions Held)}

/-- What an event does to a pool, whatever the hooks do. -/
inductive ObservedPool.Moves
    (obs : Option (ObservabilityOptions Held))
    (state : ObservedPool Held) :
    SubmitEvent → ObservedPool Held → Prop where
  | refused {task : SubmitTask} (startTs : Int) {err : CaughtValue} :
      task.refusal? = some err →
      Moves obs state (.begins task startTs)
        { state with
          submits :=
            state.submits ++
              [{ task := task
                 startTs := startTs
                 answer := some (⟨startTs, startTs⟩, .error err) }] }
  | begins {task : SubmitTask} (startTs : Int) :
      task.refusal? = none →
      Moves obs state (.begins task startTs)
        { submits :=
            state.submits ++ [{ task := task, startTs := startTs }]
          vars :=
            (state.vars.emitted obs state.submits.length
                [.taskStart
                  (OpenSubmit.payload ⟨task, startTs, [], none⟩
                    startTs)]).counted
              (state.vars.counters.inFlightInc 1) }
  | retries {index : Nat} (clock : EndReadings)
      {submit : OpenSubmit} {error : ParallelError} :
      state.submits[index]? = some submit →
      submit.nextRetry? = some error →
      Moves obs state (.retries index clock)
        (state.put index (submit.retried clock.ts)
          (state.vars.emitted obs index (retryEvents clock.ts error)))
  | settles {index : Nat} (clock : EndReadings)
      {submit : OpenSubmit} {ended : DispatchEnd RunOneResult}
      {counters : PoolCounters} :
      state.submits[index]? = some submit →
      submit.nextEnd? = some ended →
      state.vars.counters.settleOne ended = some counters →
      Moves obs state (.settles index clock)
        (state.put index (submit.answered clock (submit.answerOf ended))
          ((state.vars.emitted obs index
            (submit.endEvents clock ended)).counted counters))

/-- No hook throws into the code of a submit. -/
theorem ObservedPool.step_iff_moves
    {state next : ObservedPool Held}
    {event : SubmitEvent}
    (fresh : state.vars.errorEmitted = false) :
    state.step obs event = some next ↔ state.Moves obs event next := by
  constructor
  · intro stepped
    cases event with
    | begins task startTs =>
        dsimp only [step] at stepped
        cases known : task.refusal? with
        | none =>
            rw [begin_of_built known] at stepped
            cases stepped
            exact .begins startTs known
        | some err =>
            rw [begin_of_refused known] at stepped
            cases stepped
            exact .refused startTs known
    | retries index clock =>
        obtain ⟨submit, opened, stepped⟩ := Option.bind_eq_some_iff.mp stepped
        obtain ⟨error, retry, stepped⟩ := Option.map_eq_some_iff.mp stepped
        rw [onRetry_eq] at stepped
        cases stepped
        exact .retries clock opened retry
    | settles index clock =>
        obtain ⟨submit, opened, stepped⟩ := Option.bind_eq_some_iff.mp stepped
        obtain ⟨ended, settled, stepped⟩ := Option.map_eq_some_iff.mp stepped
        obtain ⟨counters, counted⟩ :=
          state.vars.counters.exists_settleOne
            (OpenSubmit.answer_of_nextEnd settled).2.2
        rw [end_eq submit index clock fresh counted] at stepped
        cases stepped
        exact .settles clock opened settled counted
  · intro moves
    cases moves with
    | begins startTs built =>
        dsimp only [step]
        rw [begin_of_built built]
    | refused startTs refused =>
        dsimp only [step]
        rw [begin_of_refused refused]
        rfl
    | retries clock opened retry =>
        dsimp only [step]
        rw [opened, Option.bind_some, retry, Option.map_some, onRetry_eq]
    | settles clock opened settled counted =>
        dsimp only [step]
        rw [opened, Option.bind_some, settled, Option.map_some,
          end_eq _ _ clock fresh counted]

/-- An event of a pool leaves no local variable of a submit behind. -/
theorem ObservedPool.fresh_of_moves
    {state next : ObservedPool Held}
    {event : SubmitEvent}
    (moves : state.Moves obs event next)
    (fresh : state.vars.errorEmitted = false) :
    next.vars.errorEmitted = false := by
  cases moves <;> exact fresh

/-! ## The events of each submit -/

/-- The events of a submit in the log. -/
def SubmitVars.eventsOf
    (vars : SubmitVars Held)
    (index : Nat) : List ObservabilityEvent :=
  (vars.log.filter (·.1 = index)).map (·.2)

/-- The number of events of a kind. -/
def countKind
    (kind : ObservabilityKind)
    (events : List ObservabilityEvent) : Nat :=
  events.countP (·.kind = kind)

/-- The number of events of a kind in the log. -/
def SubmitVars.countOf
    (vars : SubmitVars Held)
    (kind : ObservabilityKind) : Nat :=
  countKind kind (vars.log.map (·.2))

/-- What is emitted comes last in the events of its submit. -/
theorem SubmitVars.eventsOf_emitted
    (obs : Option (ObservabilityOptions Held))
    (vars : SubmitVars Held)
    (index other : Nat)
    (events : List ObservabilityEvent) :
    (vars.emitted obs index events).eventsOf other =
      vars.eventsOf other ++ if index = other then events else [] := by
  unfold eventsOf emitted
  rw [List.filter_append, List.map_append]
  refine congrArg _ ?_
  split
  next same =>
    rw [List.filter_eq_self.mpr, List.map_map]
    · exact List.map_id' events
    · intro entry member
      obtain ⟨ev, -, rfl⟩ := List.mem_map.mp member
      exact decide_eq_true same
  next differ =>
    rw [List.filter_eq_nil_iff.mpr, List.map_nil]
    intro entry member
    obtain ⟨ev, -, rfl⟩ := List.mem_map.mp member
    simpa using differ

/-- What is emitted is counted. -/
theorem SubmitVars.countOf_emitted
    (obs : Option (ObservabilityOptions Held))
    (vars : SubmitVars Held)
    (index : Nat)
    (events : List ObservabilityEvent)
    (kind : ObservabilityKind) :
    (vars.emitted obs index events).countOf kind =
      vars.countOf kind + countKind kind events := by
  have sent : (events.map (index, ·)).map (·.2) = events := by
    rw [List.map_map]
    exact List.map_id' events
  simp only [countOf, countKind, emitted, List.map_append, List.countP_append,
    sent]

/-- The counters change with the events that are emitted. -/
structure PoolCounters.CountsEvents
    (before after : PoolCounters)
    (events : List ObservabilityEvent) : Prop where
  completed : after.completed = before.completed + countKind .taskEnd events
  cancelled :
    after.cancelled = before.cancelled + countKind .taskOrphan events

/-- A retry is not counted. -/
theorem PoolCounters.countsEvents_retry
    (counters : PoolCounters)
    (now : Int)
    (error : ParallelError) :
    counters.CountsEvents counters (retryEvents now error) := by
  unfold retryEvents
  split <;> exact ⟨rfl, rfl⟩

/-- The `catch` counts what it reports as an orphan. -/
theorem PoolCounters.countsEvents_caught
    (submit : OpenSubmit)
    (clock : EndReadings)
    (before : PoolCounters)
    (name message : String) :
    before.CountsEvents ((before.caught (some name)).inFlightDec 1)
      ((if name = "CancelledError" then
          [submit.taskOrphan clock message]
        else
          []) ++
        [submit.taskError clock name message]) := by
  by_cases cancelled : name = "CancelledError"
  · cases cancelled
    exact ⟨rfl, rfl⟩
  · have other : some name ≠ some "CancelledError" := fun same =>
      cancelled (Option.some.inj same)
    unfold PoolCounters.caught
    rw [if_neg cancelled, if_neg other]
    exact ⟨rfl, rfl⟩

/-- The counters change with the events of an end. -/
theorem PoolCounters.countsEvents_of_settleOne
    (submit : OpenSubmit)
    (clock : EndReadings)
    {before after : PoolCounters}
    {ended : DispatchEnd RunOneResult}
    (settles : before.settleOne ended = some after) :
    before.CountsEvents after (submit.endEvents clock ended) := by
  cases ended with
  | pending => cases settles
  | resolved result =>
      cases result with
      | ok value =>
          cases settles
          exact ⟨rfl, rfl⟩
      | failed error =>
          cases settles
          simp only [OpenSubmit.endEvents]
          by_cases cancelled :
              (leafErrorToTypedError error).name = "CancelledError"
          · rw [if_pos cancelled, cancelled]
            exact ⟨rfl, rfl⟩
          · have other :
                some (leafErrorToTypedError error).name ≠
                  some "CancelledError" := fun same =>
              cancelled (Option.some.inj same)
            unfold PoolCounters.caught
            rw [if_neg cancelled, if_neg other]
            exact ⟨rfl, rfl⟩
  | nothing =>
      cases settles
      exact ⟨rfl, rfl⟩
  | rejected err =>
      cases settles
      exact countsEvents_caught ..
  | exhausted attempts lastError =>
      cases settles
      exact countsEvents_caught ..
  | cancelled err =>
      cases settles
      exact countsEvents_caught ..
  | typeError =>
      cases settles
      exact countsEvents_caught ..

/-- A submit that ends is in flight no longer. -/
theorem PoolCounters.inFlight_of_settleOne
    {before after : PoolCounters}
    {ended : DispatchEnd RunOneResult}
    (settles : before.settleOne ended = some after) :
    after.inFlight = before.inFlight - 1 := by
  have caught :
      ∀ (counters : PoolCounters) (name : Option String),
        (counters.caught name).inFlight = counters.inFlight := by
    intro counters name
    unfold PoolCounters.caught
    split <;> rfl
  cases ended with
  | pending => cases settles
  | resolved result =>
      cases result with
      | ok value =>
          cases settles
          rfl
      | failed error =>
          cases settles
          exact congrArg (· - 1) (caught ..)
  | _ =>
      cases settles
      exact congrArg (· - 1) (caught ..)

/-- One more list with one more element beside it. -/
theorem zipWith_concat
    {First Second Both : Type}
    (both : First → Second → Both)
    (firsts : List First)
    {seconds : List Second}
    (first : First)
    {second : Second}
    (beside : seconds[firsts.length]? = some second) :
    List.zipWith both (firsts ++ [first]) seconds =
      List.zipWith both firsts seconds ++ [both first second] := by
  induction firsts generalizing seconds with
  | nil =>
      cases seconds with
      | nil => cases beside
      | cons head rest =>
          cases beside
          cases rest <;> rfl
  | cons head rest inductionHypothesis =>
      cases seconds with
      | nil => cases beside
      | cons beside_ others =>
          exact congrArg (both head beside_ :: ·) (inductionHypothesis beside)

/-- A retry adds its events to those of a submit without an answer. -/
theorem OpenSubmit.events_retried
    {submit : OpenSubmit}
    {error : ParallelError}
    (built : submit.task.refusal? = none)
    (next : submit.nextRetry? = some error)
    (now : Int) :
    (submit.retried now).events = submit.events ++ retryEvents now error := by
  obtain ⟨unanswered, beside⟩ := answer_of_nextRetry next
  obtain ⟨task, startTs, retriedAt, answer⟩ := submit
  cases unanswered
  unfold events retried lastEvents
  dsimp only at built beside ⊢
  rw [built]
  dsimp only
  rw [zipWith_concat retryEvents retriedAt now beside, List.flatten_append,
    List.flatten_singleton, List.append_nil, List.append_nil]
  rfl

/-- An end adds its events to those of a submit without an answer. -/
theorem OpenSubmit.events_answered
    {submit : OpenSubmit}
    {ended : DispatchEnd RunOneResult}
    (built : submit.task.refusal? = none)
    (next : submit.nextEnd? = some ended)
    (clock : EndReadings)
    (answer : Except CaughtValue JsValue) :
    (submit.answered clock answer).events =
      submit.events ++ submit.endEvents clock ended := by
  obtain ⟨unanswered, isEnd, -⟩ := answer_of_nextEnd next
  cases isEnd
  obtain ⟨task, startTs, retriedAt, before⟩ := submit
  cases unanswered
  unfold events answered lastEvents
  dsimp only at built ⊢
  rw [built]
  dsimp only
  rw [List.append_nil]
  rfl

/-- The counters tell how many submits have succeeded or been cancelled. -/
structure SubmitVars.IsCounted (vars : SubmitVars Held) : Prop where
  completed : vars.counters.completed = vars.countOf .taskEnd
  cancelled : vars.counters.cancelled = vars.countOf .taskOrphan

/-- Where the counters change with the events, they remain right. -/
theorem SubmitVars.isCounted_emitted
    (obs : Option (ObservabilityOptions Held))
    {vars : SubmitVars Held}
    (index : Nat)
    {events : List ObservabilityEvent}
    {after : PoolCounters}
    (counts : vars.counters.CountsEvents after events)
    (isCounted : vars.IsCounted) :
    ((vars.emitted obs index events).counted after).IsCounted where
  completed := by
    have sum := vars.countOf_emitted obs index events .taskEnd
    rw [← isCounted.completed, ← counts.completed] at sum
    exact sum.symm
  cancelled := by
    have sum := vars.countOf_emitted obs index events .taskOrphan
    rw [← isCounted.cancelled, ← counts.cancelled] at sum
    exact sum.symm

/-- The number of submits whose callers have no answer yet. -/
def ObservedPool.openSubmits (state : ObservedPool Held) : Nat :=
  state.submits.countP (·.answer.isNone)

/-- An open submit changes. -/
theorem ObservedPool.openSubmits_put
    {state : ObservedPool Held}
    {index : Nat}
    {submit : OpenSubmit}
    (opened : state.submits[index]? = some submit)
    (unanswered : submit.answer = none)
    (changed : OpenSubmit)
    (vars : SubmitVars Held) :
    (state.put index changed vars).openSubmits + 1 =
      state.openSubmits + if changed.answer.isNone then 1 else 0 := by
  obtain ⟨inside, there⟩ := List.getElem?_eq_some_iff.mp opened
  have isOpen : 0 < state.submits.countP (·.answer.isNone) :=
    List.countP_pos_iff.mpr
      ⟨submit, List.mem_of_getElem? opened, congrArg Option.isNone unanswered⟩
  unfold openSubmits put
  dsimp only
  rw [List.countP_set inside, there, unanswered, Option.isNone_none,
    if_pos rfl]
  omega

/--
The caller of a submit gets the error of `buildEnvelope` at once, or else the
answer that its dispatch makes.
-/
structure OpenSubmit.IsAnswered (submit : OpenSubmit) : Prop where
  refused :
    ∀ err,
      submit.task.refusal? = some err →
      ∃ clock, submit.answer = some (clock, .error err)
  ended :
    submit.task.refusal? = none →
    ∀ clock answer,
      submit.answer = some (clock, answer) →
      submit.task.run.ended ≠ .pending ∧
        answer = submit.answerOf submit.task.run.ended

/-- A submit that has no answer yet has an envelope. -/
theorem OpenSubmit.IsAnswered.built
    {submit : OpenSubmit}
    (answered : submit.IsAnswered)
    (unanswered : submit.answer = none) :
    submit.task.refusal? = none := by
  cases known : submit.task.refusal? with
  | none => rfl
  | some err =>
      obtain ⟨clock, given⟩ := answered.refused err known
      rw [unanswered] at given
      cases given

/-- An event of a pool answers the callers as it should. -/
theorem ObservedPool.isAnswered_of_moves
    {state next : ObservedPool Held}
    {event : SubmitEvent}
    (moves : state.Moves obs event next)
    (answered : ∀ submit ∈ state.submits, submit.IsAnswered) :
    ∀ submit ∈ next.submits, submit.IsAnswered := by
  intro submit member
  cases moves with
  | refused startTs refused =>
      rcases List.mem_append.mp member with earlier | new
      · exact answered submit earlier
      · cases List.mem_singleton.mp new
        refine ⟨fun err given => ?_, fun built => ?_⟩
        · cases refused.symm.trans given
          exact ⟨_, rfl⟩
        · cases refused.symm.trans built
  | begins startTs built =>
      rcases List.mem_append.mp member with earlier | new
      · exact answered submit earlier
      · cases List.mem_singleton.mp new
        refine ⟨fun err refused => ?_, fun _ _ _ given => ?_⟩
        · cases built.symm.trans refused
        · cases given
  | retries clock opened retry =>
      rcases List.mem_or_eq_of_mem_set member with earlier | same
      · exact answered submit earlier
      · have before := answered _ (List.mem_of_getElem? opened)
        cases same
        have unanswered := (OpenSubmit.answer_of_nextRetry retry).1
        refine ⟨fun err refused => ?_, fun _ _ _ given => ?_⟩
        · cases (before.built unanswered).symm.trans refused
        · cases unanswered.symm.trans given
  | settles clock opened settled counted =>
      rcases List.mem_or_eq_of_mem_set member with earlier | same
      · exact answered submit earlier
      · cases same
        obtain ⟨unanswered, isEnd, running⟩ :=
          OpenSubmit.answer_of_nextEnd settled
        have built :=
          (answered _ (List.mem_of_getElem? opened)).built unanswered
        cases isEnd
        refine ⟨fun err refused => ?_, fun _ clock answer given => ?_⟩
        · cases built.symm.trans refused
        · cases given
          exact ⟨running, rfl⟩

/-- The caller gets a value. -/
def OpenSubmit.hasSucceeded (submit : OpenSubmit) : Bool :=
  match submit.answer with
  | some (_, .ok _) => true
  | _ => false

/-- The caller gets an error. -/
def OpenSubmit.hasFailed (submit : OpenSubmit) : Bool :=
  match submit.answer with
  | some (_, .error _) => true
  | _ => false

/-- The dispatch makes no attempt and throws `undefined`. -/
def OpenSubmit.throwsUndefined (submit : OpenSubmit) : Bool :=
  match submit.task.run.ended with
  | .nothing => true
  | _ => false

/-- The events of the retries are of one kind. -/
theorem countKind_retries
    {kind : ObservabilityKind}
    (other : kind ≠ .poolPressure)
    (times : List Int)
    (errors : List ParallelError) :
    countKind kind (List.zipWith retryEvents times errors).flatten = 0 := by
  refine List.countP_eq_zero.mpr fun ev member isKind => other ?_
  obtain ⟨events, sent, there⟩ := List.mem_flatten.mp member
  rw [← List.map_uncurry_zip_eq_zipWith] at sent
  obtain ⟨⟨now, error⟩, -, rfl⟩ := List.mem_map.mp sent
  unfold Function.uncurry retryEvents at there
  split at there
  next =>
    cases List.mem_singleton.mp there
    exact (of_decide_eq_true isKind).symm
  next => cases there

/-- How a submit ends is told by its last events. -/
theorem OpenSubmit.countKind_eq_lastEvents
    {submit : OpenSubmit}
    (built : submit.task.refusal? = none)
    {kind : ObservabilityKind}
    (noPressure : kind ≠ .poolPressure)
    (noStart : kind ≠ .taskStart) :
    countKind kind submit.events = countKind kind submit.lastEvents := by
  have retries :=
    countKind_retries noPressure submit.retriedAt submit.task.run.retries
  unfold countKind at retries ⊢
  unfold events
  rw [built]
  dsimp only
  rw [List.countP_cons_of_neg, List.countP_append, retries,
    Nat.zero_add]
  exact fun same => noStart (of_decide_eq_true same).symm

/-- The caller of a submit gets a value exactly if there is a `taskEnd`. -/
theorem OpenSubmit.countKind_events
    {submit : OpenSubmit}
    (answered : submit.IsAnswered)
    (built : submit.task.refusal? = none) :
    countKind .taskEnd submit.events =
        (if submit.hasSucceeded then 1 else 0) ∧
      countKind .taskError submit.events =
        (if submit.hasFailed && !submit.throwsUndefined then 1 else 0) := by
  have ends : countKind .taskEnd submit.events = _ :=
    countKind_eq_lastEvents built nofun nofun
  have errors : countKind .taskError submit.events = _ :=
    countKind_eq_lastEvents built nofun nofun
  rw [ends, errors]
  unfold lastEvents hasSucceeded hasFailed throwsUndefined
  cases given : submit.answer with
  | none => exact ⟨rfl, rfl⟩
  | some both =>
      obtain ⟨clock, answer⟩ := both
      obtain ⟨running, rfl⟩ := answered.ended built clock answer given
      dsimp only
      generalize submit.task.run.ended = ended at running ⊢
      have caught :
          ∀ (name message : String),
            countKind .taskEnd
                ((if name = "CancelledError" then
                    [submit.taskOrphan clock message]
                  else
                    []) ++
                  [submit.taskError clock name message]) = 0 ∧
              countKind .taskError
                ((if name = "CancelledError" then
                    [submit.taskOrphan clock message]
                  else
                    []) ++
                  [submit.taskError clock name message]) = 1 := by
        intro name message
        split <;> exact ⟨rfl, rfl⟩
      cases ended with
      | pending => exact absurd rfl running
      | resolved result =>
          cases result with
          | ok value => exact ⟨rfl, rfl⟩
          | failed error =>
              simp only [endEvents, answerOf]
              split <;> exact ⟨rfl, rfl⟩
      | nothing => exact ⟨rfl, rfl⟩
      | _ => exact caught ..

/--
The log has the events of each submit in order, and the counters tell how many
submits have succeeded, been cancelled and are in flight.
-/
structure ObservedPool.Traced (state : ObservedPool Held) : Prop where
  fresh : state.vars.errorEmitted = false
  answered : ∀ submit ∈ state.submits, submit.IsAnswered
  events :
    ∀ index,
      state.vars.eventsOf index =
        state.submits[index]?.elim [] OpenSubmit.events
  isCounted : state.vars.IsCounted
  inFlight : state.vars.counters.inFlight = state.openSubmits

/-- Another submit with its events, where one submit was. -/
theorem ObservedPool.events_put
    {state : ObservedPool Held}
    {index : Nat}
    {submit changed : OpenSubmit}
    {counters : PoolCounters}
    {events : List ObservabilityEvent}
    (traced : state.Traced)
    (opened : state.submits[index]? = some submit)
    (adds : changed.events = submit.events ++ events)
    (other : Nat) :
    ((state.vars.emitted obs index events).counted counters).eventsOf other =
      (state.submits.set index changed)[other]?.elim [] OpenSubmit.events := by
  have inside : index < state.submits.length :=
    (List.getElem?_eq_some_iff.mp opened).1
  refine (SubmitVars.eventsOf_emitted obs ..).trans ?_
  rw [traced.events]
  by_cases same : index = other
  · cases same
    rw [if_pos rfl, List.getElem?_set_self inside, opened]
    exact adds.symm
  · rw [if_neg same, List.getElem?_set_ne same, List.append_nil]

/-- A new submit with its first event. -/
theorem ObservedPool.events_begin
    {state : ObservedPool Held}
    (traced : state.Traced)
    {submit : OpenSubmit}
    {counters : PoolCounters}
    {events : List ObservabilityEvent}
    (first : submit.events = events)
    (index : Nat) :
    ((state.vars.emitted obs state.submits.length events).counted
        counters).eventsOf index =
      (state.submits ++ [submit])[index]?.elim [] OpenSubmit.events := by
  refine (SubmitVars.eventsOf_emitted obs ..).trans ?_
  rw [traced.events]
  rcases Nat.lt_trichotomy index state.submits.length with before | same | after
  · rw [if_neg (Nat.ne_of_gt before), List.getElem?_append_left before,
      List.append_nil]
  · cases same
    rw [if_pos rfl, List.getElem?_eq_none (Nat.le_refl _),
      List.getElem?_concat_length]
    exact first.symm
  · have outside : (state.submits ++ [submit]).length ≤ index := by
      rw [List.length_append, List.length_singleton]
      exact after
    rw [if_neg (Nat.ne_of_lt after),
      List.getElem?_eq_none (Nat.le_of_lt after),
      List.getElem?_eq_none outside]
    rfl

/-- An event of a pool keeps the log and the counters right. -/
theorem ObservedPool.traced_of_moves
    {state next : ObservedPool Held}
    {event : SubmitEvent}
    (moves : state.Moves obs event next)
    (traced : state.Traced) :
    next.Traced := by
  have fresh := fresh_of_moves moves traced.fresh
  have answered := isAnswered_of_moves moves traced.answered
  have before := traced.inFlight
  cases moves with
  | @refused task startTs err refused =>
      have noEvents :
          OpenSubmit.events
              { task := task
                startTs := startTs
                answer := some (⟨startTs, startTs⟩, .error err) } = [] := by
        unfold OpenSubmit.events
        rw [refused]
      refine ⟨fresh, answered, fun index => ?_, traced.isCounted, ?_⟩
      · have same :=
          @events_begin _ obs _ traced _ state.vars.counters _ noEvents index
        rwa [SubmitVars.emitted_nil] at same
      · rw [before]
        unfold openSubmits
        rw [List.countP_append, List.countP_singleton]
        rfl
  | @begins task startTs built =>
      have first :
          OpenSubmit.events { task := task, startTs := startTs } =
            [.taskStart
              (OpenSubmit.payload ⟨task, startTs, [], none⟩ startTs)] := by
        unfold OpenSubmit.events
        rw [built]
        rfl
      refine
        ⟨fresh, answered, events_begin traced first,
          SubmitVars.isCounted_emitted obs _ ⟨rfl, rfl⟩ traced.isCounted, ?_⟩
      unfold openSubmits at before ⊢
      rw [List.countP_append, List.countP_singleton, Option.isNone_none,
        if_pos rfl, Nat.cast_add, ← before]
      rfl
  | @retries index clock submit error opened retry =>
      have unanswered := (OpenSubmit.answer_of_nextRetry retry).1
      have built :=
        (traced.answered _ (List.mem_of_getElem? opened)).built unanswered
      refine
        ⟨fresh, answered,
          events_put traced opened
            (OpenSubmit.events_retried built retry clock.ts),
          SubmitVars.isCounted_emitted obs _
            (PoolCounters.countsEvents_retry ..) traced.isCounted,
          before.trans ?_⟩
      have same :=
        openSubmits_put opened unanswered (submit.retried clock.ts)
          (state.vars.emitted obs index (retryEvents clock.ts error))
      have stillOpen : (submit.retried clock.ts).answer.isNone = true :=
        congrArg Option.isNone unanswered
      rw [if_pos stillOpen] at same
      exact congrArg Nat.cast (Nat.succ.inj same).symm
  | @settles index clock submit ended counters opened settled counted =>
      have unanswered := (OpenSubmit.answer_of_nextEnd settled).1
      have built :=
        (traced.answered _ (List.mem_of_getElem? opened)).built unanswered
      refine
        ⟨fresh, answered,
          events_put traced opened
            (OpenSubmit.events_answered built settled clock _),
          SubmitVars.isCounted_emitted obs _
            (PoolCounters.countsEvents_of_settleOne _ clock counted)
            traced.isCounted,
          (PoolCounters.inFlight_of_settleOne counted).trans ?_⟩
      have fewer :=
        openSubmits_put opened unanswered
          (submit.answered clock (submit.answerOf ended))
          ((state.vars.emitted obs index
            (submit.endEvents clock ended)).counted counters)
      rw [if_neg nofun, Nat.add_zero] at fewer
      omega

/--
In every run of submits, whatever the hooks do and however the submits are
interleaved, the log has for each submit with an envelope a `taskStart`, a
`poolPressure` for each retry because of backpressure, and what ends it: one
`taskEnd` if its caller gets a value, and one `taskError` if its caller gets an
error other than for a dispatch that throws `undefined`.  Where `buildEnvelope`
throws, the caller gets its error, and there are no events.  The counters tell
how many submits have a `taskEnd`, have a `taskOrphan` and are in flight.
-/
theorem submits_are_traced
    {held : Held}
    {events : List SubmitEvent}
    {final : ObservedPool Held}
    (run :
      Run (ObservedPool.step obs) { vars := { held := held } } events final) :
    (∀ index submit,
      final.submits[index]? = some submit →
      final.vars.eventsOf index = submit.events ∧
        (submit.task.refusal? = none →
          countKind .taskEnd submit.events =
              (if submit.hasSucceeded then 1 else 0) ∧
            countKind .taskError submit.events =
              (if submit.hasFailed && !submit.throwsUndefined then 1 else 0)) ∧
          ∀ err,
            submit.task.refusal? = some err →
            submit.events = [] ∧
              ∃ clock name message,
                err = .error name message ∧
                  submit.answer = some (clock, .error err)) ∧
      final.vars.counters.completed = final.vars.countOf .taskEnd ∧
        final.vars.counters.cancelled = final.vars.countOf .taskOrphan ∧
          final.vars.counters.inFlight = final.openSubmits := by
  have preserved :
      ∀ {state event next},
        True →
        ObservedPool.step obs state event = some next →
        state.Traced →
        next.Traced := fun _ stepped traced =>
    ObservedPool.traced_of_moves
      ((ObservedPool.step_iff_moves traced.fresh).mp stepped) traced
  have initially : ObservedPool.Traced { vars := { held := held } } :=
    { fresh := rfl
      answered := fun _ member => absurd member List.not_mem_nil
      events := fun _ => rfl
      isCounted := ⟨rfl, rfl⟩
      inFlight := rfl }
  have traced : final.Traced := run.invariant preserved initially
  refine
    ⟨fun index submit there => ?_, traced.isCounted.completed,
      traced.isCounted.cancelled, traced.inFlight⟩
  have answered := traced.answered submit (List.mem_of_getElem? there)
  refine
    ⟨?_, OpenSubmit.countKind_events answered, fun err refused => ⟨?_, ?_⟩⟩
  · rw [traced.events, there]
    rfl
  · unfold OpenSubmit.events
    rw [refused]
  · obtain ⟨clock, given⟩ := answered.refused err refused
    obtain ⟨name, message, isError⟩ := SubmitTask.isError_of_refusal refused
    exact ⟨clock, name, message, isError, given⟩

/-- A submit with a timeout, by what its attempt reads. -/
def SubmitTask.limited
    (taskId : String)
    (envelope : EnvelopeOptions)
    (reading :
      AttemptReading wholeNumbers PoolState.limited RunOneResult) :
    SubmitTask where
  poolId := "pool"
  taskId := taskId
  topology := .inDo
  fnHash := "hash"
  envelope := envelope
  runtime := wholeNumbers
  opts := PoolState.limited
  readings := [reading]

/--
Two submits, the first of which ends last, and a third one whose deadline is
half a second away.
-/
def overlappingSubmits : List SubmitEvent :=
  [ .begins
      (.limited "first" { now := 10 } (.settledBy (.ok (.ok .undefined)))) 10,
    .begins
      (.limited "second" { now := 20 }
        (.settledBy (.ok (.failed PoolState.thrownByUser)))) 20,
    .begins
      (.limited "third"
        { now := 25, deadlineMs := some (.typed (.finite 500)) }
        (.settledBy (.ok (.ok .undefined)))) 25,
    .settles 1 ⟨30, 30⟩,
    .settles 0 ⟨40, 40⟩ ]

/-- Hooks that count the events and throw. -/
def throwingHooks : ObservabilityOptions Nat where
  hooks := some fun _ held => (.error .undefined, held + 1)
  metrics := none

theorem submits_are_traced_overlappingSubmits :
    ∃ final : ObservedPool Nat,
      Run (ObservedPool.step (some throwingHooks)) { vars := { held := 0 } }
          overlappingSubmits final ∧
        final.vars.counters = ⟨0, 1, 1, 0⟩ ∧
          final.vars.held = 4 ∧
            final.vars.eventsOf 2 = [] ∧
              final.vars.counters.completed =
                final.vars.countOf .taskEnd := by
  have executed :
      (overlappingSubmits.foldlM (ObservedPool.step (some throwingHooks))
          { vars := { held := 0 } }).any
        fun final =>
          final.vars.counters = ⟨0, 1, 1, 0⟩ ∧
            final.vars.held = 4 ∧
              (final.submits[2]?.bind (·.task.refusal?)).isSome = true := by
    decide +kernel
  obtain ⟨final, isFinal, reported⟩ := (Option.any_eq_true _ _).mp executed
  obtain ⟨counters, held, refused⟩ := of_decide_eq_true reported
  have run :
      Run (ObservedPool.step (some throwingHooks)) { vars := { held := 0 } }
        overlappingSubmits final :=
    .of_foldlM isFinal
  obtain ⟨err, known⟩ := Option.isSome_iff_exists.mp refused
  obtain ⟨submit, there, isRefused⟩ := Option.bind_eq_some_iff.mp known
  obtain ⟨traces, completed, -⟩ := submits_are_traced run
  obtain ⟨logged, -, silent⟩ := traces 2 submit there
  exact ⟨final, run, counters, held,
    logged.trans (silent err isRefused).1, completed⟩

/-! ## The hooks -/

/-- A pool without what the hooks and the writer hold. -/
def ObservedPool.erased (state : ObservedPool Held) : ObservedPool Unit where
  submits := state.submits
  vars := { state.vars with held := () }

/-- A pool without hooks does what a pool with hooks does. -/
theorem ObservedPool.moves_erased_iff
    (obs : Option (ObservabilityOptions Held))
    {state : ObservedPool Held}
    {event : SubmitEvent}
    {shown : ObservedPool Unit} :
    state.erased.Moves none event shown ↔
      ∃ next, state.Moves obs event next ∧ next.erased = shown := by
  constructor
  · intro moves
    cases moves with
    | refused startTs refused => exact ⟨_, .refused startTs refused, rfl⟩
    | begins startTs built => exact ⟨_, .begins startTs built, rfl⟩
    | retries clock opened retry =>
        exact ⟨_, .retries clock opened retry, rfl⟩
    | settles clock opened settled counted =>
        exact ⟨_, .settles clock opened settled counted, rfl⟩
  · rintro ⟨next, moves, rfl⟩
    cases moves with
    | refused startTs refused => exact .refused startTs refused
    | begins startTs built => exact .begins startTs built
    | retries clock opened retry => exact .retries clock opened retry
    | settles clock opened settled counted =>
        exact .settles clock opened settled counted

/-- The pool without hooks is a view of the pool with hooks. -/
theorem ObservedPool.erased_isView :
    GuardedRun.IsView (step obs) (step none)
      (fun state : ObservedPool Held => state.vars.errorEmitted = false)
      erased where
  stepped := by
    intro state event fresh
    have fresh' : state.erased.vars.errorEmitted = false := fresh
    refine Option.ext fun shown => ?_
    rw [step_iff_moves fresh', moves_erased_iff obs, Option.map_eq_some_iff]
    exact exists_congr fun next => and_congr_left' (step_iff_moves fresh).symm
  kept stepped fresh :=
    fresh_of_moves ((step_iff_moves fresh).mp stepped) fresh

/-- The hooks and the writer hold what the events of the log leave. -/
structure ObservedPool.Delivered
    (obs : Option (ObservabilityOptions Held))
    (held : Held)
    (state : ObservedPool Held) : Prop where
  fresh : state.vars.errorEmitted = false
  held :
    state.vars.held = (state.vars.log.map (·.2)).foldl (deliver obs) held

/-- An event delivers what it emits. -/
theorem ObservedPool.delivered_of_moves
    {state next : ObservedPool Held}
    {event : SubmitEvent}
    {held : Held}
    (moves : state.Moves obs event next)
    (delivered : state.Delivered obs held) :
    next.Delivered obs held := by
  have later :
      ∀ (index : Nat) (events : List ObservabilityEvent),
        (state.vars.emitted obs index events).held =
          ((state.vars.emitted obs index events).log.map (·.2)).foldl
            (deliver obs) held := by
    intro index events
    have sent : (events.map (index, ·)).map (·.2) = events := by
      rw [List.map_map]
      exact List.map_id' events
    simp only [SubmitVars.emitted, List.map_append, List.foldl_append, sent,
      delivered.held]
  refine ⟨fresh_of_moves moves delivered.fresh, ?_⟩
  cases moves with
  | refused => exact delivered.held
  | _ => exact later _ _

/--
Whatever the hooks and the writer are, and whether they throw or not, the pool
has the runs that it has without them: the callers get the same answers, and the
counters and the events are the same.  They are called with each event, in
order.
-/
theorem submits_ignore_their_hooks
    (obs : Option (ObservabilityOptions Held))
    (held : Held)
    (events : List SubmitEvent) :
    (∀ plain : ObservedPool Unit,
      Run (ObservedPool.step none) { vars := { held := () } } events plain ↔
        ∃ final : ObservedPool Held,
          Run (ObservedPool.step obs) { vars := { held := held } } events
              final ∧
            final.erased = plain) ∧
      ∀ final : ObservedPool Held,
        Run (ObservedPool.step obs) { vars := { held := held } } events
            final →
          final.vars.held =
            (final.vars.log.map (·.2)).foldl (deliver obs) held := by
  refine ⟨fun plain => ?_, fun final run => ?_⟩
  · exact
      GuardedRun.run_view_iff ObservedPool.erased_isView
        { vars := { held := held } } rfl
  · have preserved :
        ∀ {state event next},
          True →
          ObservedPool.step obs state event = some next →
          state.Delivered obs held →
          next.Delivered obs held := fun _ stepped delivered =>
      ObservedPool.delivered_of_moves
        ((ObservedPool.step_iff_moves delivered.fresh).mp stepped) delivered
    have delivered : final.Delivered obs held :=
      run.invariant preserved ⟨rfl, rfl⟩
    exact delivered.held

/-- Hooks that throw leave the run of the two submits as it is. -/
theorem submits_ignore_their_hooks_overlappingSubmits :
    ∃ (final : ObservedPool Nat) (plain : ObservedPool Unit),
      Run (ObservedPool.step (some throwingHooks)) { vars := { held := 0 } }
          overlappingSubmits final ∧
        Run (ObservedPool.step none) { vars := { held := () } }
            overlappingSubmits plain ∧
          final.erased = plain ∧
            final.vars.held =
              (final.vars.log.map (·.2)).foldl
                (deliver (some throwingHooks)) 0 := by
  have executed :
      (overlappingSubmits.foldlM (ObservedPool.step none)
          { vars := { held := () } }).isSome = true := by
    decide +kernel
  obtain ⟨plain, isFinal⟩ := Option.isSome_iff_exists.mp executed
  have plainRun :
      Run (ObservedPool.step none) { vars := { held := () } }
        overlappingSubmits plain :=
    .of_foldlM isFinal
  have ignore :=
    submits_ignore_their_hooks (some throwingHooks) 0 overlappingSubmits
  obtain ⟨final, run, same⟩ := (ignore.1 _).mp plainRun
  exact ⟨final, _, run, plainRun, same, ignore.2 final run⟩

end Runs

end CloudflareParallel
