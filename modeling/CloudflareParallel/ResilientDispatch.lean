import CloudflareParallel.ErrorMarshal
import CloudflareParallel.JsNumerics

namespace CloudflareParallel

open JsonValues

/-!
# `dispatchWithResilience`

The race of a task against its timeout, its deadline and its cancel token, and
the retries around the race.  What is read from outside for one attempt is who
settles first, whether the deadline is behind, and whether the token has fired
since the last look at it; the length of the pauses plays no part.
-/

/-- Who settles first in `Promise.race`. -/
inductive RaceWinner (Value : Type) where
  | task (outcome : Except Rejection Value)
  | timeout
  | deadline
  | cancel (reason : Option String)

/-- `DispatchOptions`, with the limits as the caller passes them on. -/
structure DispatchOptions where
  timeout : Option OptionValue
  retries : Option OptionValue
  cancel : Bool
  deadlineEpochMs : Option OptionValue

/-- What the module and the language provide. -/
structure DispatchRuntime where
  numerics : JsNumerics
  globals : MarshalGlobals

namespace DispatchOptions

variable (runtime : DispatchRuntime)
variable (opts : DispatchOptions)

/-- The condition on the timeout; nothing if it throws. -/
def timeoutArmed : Option Bool :=
  runtime.numerics.truthyPositive opts.timeout

/-- The condition on the deadline; nothing if it throws. -/
def deadlineArmed : Option Bool :=
  runtime.numerics.truthyPositive opts.deadlineEpochMs

/--
The date of a deadline.  A text is no date here, since one that is read as a
number is too large for a year.
-/
def deadlineDate : Option DateNumber :=
  match opts.deadlineEpochMs with
  | some (.typed value) =>
      let ms : JsonNumber := ⟨runtime.numerics.textOf value⟩
      if valid : (timeValue? ms).isSome then some ⟨ms, valid⟩ else none
  | some (.unchecked (.number ms)) =>
      if valid : (timeValue? ms).isSome then some ⟨ms, valid⟩ else none
  | _ => none

/--
Whether a racer can settle.  The timer of a deadline that is no date fails to
make its error.
-/
def armed {Value : Type} : RaceWinner Value → Bool
  | .task _ => true
  | .timeout => opts.timeoutArmed runtime = some true
  | .deadline =>
      opts.deadlineArmed runtime = some true &&
        (opts.deadlineDate runtime).isSome
  | .cancel _ => opts.cancel

/-- `1 + retries`, as a comparison reads it; nothing if it throws. -/
def maxAttempts : Option JsDouble :=
  match nullish opts.retries none with
  | none => some (.finite 1)
  | some retries =>
      (runtime.numerics.add 1 retries).bind runtime.numerics.toNumber

end DispatchOptions

/-- What one attempt reads from outside. -/
structure AttemptReading
    (runtime : DispatchRuntime)
    (opts : DispatchOptions)
    (Value : Type) where
  /-- The token has fired since the last look, for a reason. -/
  fires : Option (Option String)
  hasToken : fires.isSome → opts.cancel = true
  /-- `opts.deadlineEpochMs - Date.now() <= 0`. -/
  expired : Bool
  winner : RaceWinner Value
  takesPart : opts.armed runtime winner = true

namespace AttemptReading

variable {runtime : DispatchRuntime}
variable {opts : DispatchOptions}
variable {Value : Type}

/-- Who decides the race: a deadline that is behind does at once. -/
def decidedBy
    (reading : AttemptReading runtime opts Value) : RaceWinner Value :=
  if opts.deadlineArmed runtime = some true && reading.expired then
    .deadline
  else
    reading.winner

/-- An error of the language itself. -/
def nativeError
    (runtime : DispatchRuntime)
    (name message : String) : Rejection :=
  .error
    (.native
      { name := name
        message := message
        stack := runtime.globals.stackOf message })

/-- The error of a value that no number can be made of. -/
def typeError (runtime : DispatchRuntime) : Rejection :=
  nativeError runtime "TypeError" "Cannot convert object to primitive value"

/-- The error of `toISOString` on a value that is no date. -/
def rangeError (runtime : DispatchRuntime) : Rejection :=
  nativeError runtime "RangeError" "Invalid time value"

/-- `TimeoutError(opts.timeout!)`. -/
def timeoutError
    (runtime : DispatchRuntime)
    (opts : DispatchOptions) : ParallelError :=
  .ofClass runtime.globals.stackOf
    (.timeoutError
      ⟨((opts.timeout.bind runtime.numerics.optionText).getD "")⟩)

/-- `DeadlineExceededError(opts.deadlineEpochMs)`. -/
def deadlineError
    (runtime : DispatchRuntime)
    (deadline : DateNumber) : ParallelError :=
  .ofClass runtime.globals.stackOf (.deadlineExceededError deadline)

/-- `CancelledError(reason)`. -/
def cancelledError
    (runtime : DispatchRuntime)
    (reason : Option String) : ParallelError :=
  .ofClass runtime.globals.stackOf (.cancelledError reason)

/-- `withRaces`. -/
def withRaces
    (reading : AttemptReading runtime opts Value) : Except Rejection Value :=
  match opts.timeoutArmed runtime, opts.deadlineArmed runtime with
  | some _, some _ =>
      match reading.decidedBy with
      | .task outcome => outcome
      | .timeout => .error (.error (.library (timeoutError runtime opts)))
      | .deadline =>
          match opts.deadlineDate runtime with
          | none => .error (rangeError runtime)
          | some deadline =>
              .error (.error (.library (deadlineError runtime deadline)))
      | .cancel reason =>
          .error (.error (.library (cancelledError runtime reason)))
  | _, _ => .error (typeError runtime)

/-- The reason of the token after the race, if it has fired. -/
def tokenAfter
    (reading : AttemptReading runtime opts Value) : Option (Option String) :=
  match
    opts.timeoutArmed runtime, opts.deadlineArmed runtime, reading.decidedBy
  with
  | some _, some _, .cancel reason => some reason
  | _, _, _ => none

end AttemptReading

/-- An attempt that was made, by its number. -/
structure AttemptRecord
    (runtime : DispatchRuntime)
    (opts : DispatchOptions)
    (Value : Type) where
  attempt : Nat
  reading : AttemptReading runtime opts Value

/-- How a dispatch ends. -/
inductive DispatchEnd (Value : Type) where
  | resolved (value : Value)
  /-- The error of the last attempt. -/
  | rejected (err : ParallelError)
  /-- `RetryExhaustedError`. -/
  | exhausted (attempts : JsDouble) (lastError : ParallelError)
  /-- The check before an attempt finds the token fired. -/
  | cancelled (err : ParallelError)
  /-- `undefined` is thrown, after no attempt. -/
  | nothing
  /-- The sum of the attempts throws. -/
  | typeError
  /-- An attempt or a pause goes on. -/
  | pending

/-- The error that a dispatch ends with by an attempt, or its cause. -/
def DispatchEnd.ownError? {Value : Type} :
    DispatchEnd Value → Option ParallelError
  | .rejected err => some err
  | .exhausted _ lastError => some lastError
  | _ => none

/-- The attempts of a dispatch, in order, and its end. -/
structure DispatchRun
    (runtime : DispatchRuntime)
    (opts : DispatchOptions)
    (Value : Type) where
  made : List (AttemptRecord runtime opts Value)
  ended : DispatchEnd Value

section Dispatch

variable {runtime : DispatchRuntime}
variable {opts : DispatchOptions}
variable {Value : Type}

/-- The throws behind the loop. -/
def thrownAfter
    (maxAttempts : JsDouble)
    (lastError : Option ParallelError) : DispatchEnd Value :=
  match lastError with
  | none => .nothing
  | some err =>
      if (JsDouble.ofNat 1).lessThan maxAttempts then
        .exhausted maxAttempts err
      else
        .rejected err

/-- Whether an error ends the loop. -/
def endsLoop (err : ParallelError) : Bool :=
  err.classMeets ErrorClass.isDeadlineExceededError ||
    err.classMeets ErrorClass.isCancelledError || !err.isRetryable

/-- The loop over the attempts. -/
def dispatchLoop
    (maxAttempts : JsDouble)
    (readings : List (AttemptReading runtime opts Value))
    (attempt : Nat)
    (token : Option (Option String))
    (lastError : Option ParallelError) : DispatchRun runtime opts Value :=
  if (JsDouble.ofNat attempt).lessThan maxAttempts then
    match token, readings with
    | some reason, _ =>
        { made := []
          ended := .cancelled (AttemptReading.cancelledError runtime reason) }
    | none, [] => { made := [], ended := .pending }
    | none, reading :: rest =>
        match reading.fires with
        | some reason =>
            { made := []
              ended :=
                .cancelled (AttemptReading.cancelledError runtime reason) }
        | none =>
            match reading.withRaces with
            | .ok value =>
                { made := [⟨attempt, reading⟩], ended := .resolved value }
            | .error rawErr =>
                let err := marshalError runtime.globals rawErr
                if endsLoop err then
                  { made := [⟨attempt, reading⟩], ended := .rejected err }
                else
                  let later :=
                    dispatchLoop maxAttempts rest (attempt + 1)
                      reading.tokenAfter (some err)
                  { made := ⟨attempt, reading⟩ :: later.made
                    ended := later.ended }
  else
    { made := [], ended := thrownAfter maxAttempts lastError }

/-- `dispatchWithResilience`. -/
def dispatchWithResilience
    (readings : List (AttemptReading runtime opts Value)) :
    DispatchRun runtime opts Value :=
  match opts.maxAttempts runtime with
  | none => { made := [], ended := .typeError }
  | some maxAttempts => dispatchLoop maxAttempts readings 0 none none

/-- An error whose class is retryable goes round the loop. -/
theorem endsLoop_eq (err : ParallelError) :
    endsLoop err = !err.isRetryable := by
  cases err with
  | classed cls => cases cls <;> rfl
  | _ => rfl

/-! ## The loop, case by case -/

variable {maxAttempts : JsDouble}
variable {attempt : Nat}
variable {lastError : Option ParallelError}

/-- Without an attempt left, the loop is over. -/
theorem dispatchLoop_spent
    (readings : List (AttemptReading runtime opts Value))
    (token : Option (Option String))
    (spent : (JsDouble.ofNat attempt).lessThan maxAttempts = false) :
    dispatchLoop maxAttempts readings attempt token lastError =
      { made := [], ended := thrownAfter maxAttempts lastError } := by
  unfold dispatchLoop
  rw [if_neg (Bool.eq_false_iff.mp spent)]

/-- With the token fired, the check ends the loop. -/
theorem dispatchLoop_fired
    (readings : List (AttemptReading runtime opts Value))
    (reason : Option String)
    (allowed : (JsDouble.ofNat attempt).lessThan maxAttempts = true) :
    dispatchLoop maxAttempts readings attempt (some reason) lastError =
      { made := []
        ended := .cancelled (AttemptReading.cancelledError runtime reason) } := by
  unfold dispatchLoop
  rw [if_pos allowed]

/-- A retryable error goes on to the next attempt. -/
theorem dispatchLoop_retries
    {reading : AttemptReading runtime opts Value}
    {rawErr : Rejection}
    (rest : List (AttemptReading runtime opts Value))
    (allowed : (JsDouble.ofNat attempt).lessThan maxAttempts = true)
    (quiet : reading.fires = none)
    (raced : reading.withRaces = .error rawErr)
    (retryable : (marshalError runtime.globals rawErr).isRetryable = true) :
    dispatchLoop maxAttempts (reading :: rest) attempt none lastError =
      let later :=
        dispatchLoop maxAttempts rest (attempt + 1) reading.tokenAfter
          (some (marshalError runtime.globals rawErr))
      { made := ⟨attempt, reading⟩ :: later.made, ended := later.ended } := by
  have goesOn : endsLoop (marshalError runtime.globals rawErr) = false := by
    rw [endsLoop_eq, retryable]
    rfl
  rw [dispatchLoop, if_pos allowed]
  simp only [quiet, raced, goesOn]
  rfl

/-- What a loop does with its first reading. -/
inductive LoopCase
    (maxAttempts : JsDouble)
    (reading : AttemptReading runtime opts Value)
    (rest : List (AttemptReading runtime opts Value))
    (attempt : Nat)
    (lastError : Option ParallelError) :
    DispatchRun runtime opts Value → Prop where
  | spent :
      LoopCase maxAttempts reading rest attempt lastError
        { made := [], ended := thrownAfter maxAttempts lastError }
  | stopped {ended : DispatchEnd Value} :
      ended.ownError? = none →
      LoopCase maxAttempts reading rest attempt lastError
        { made := [], ended := ended }
  | resolved {value : Value} :
      (JsDouble.ofNat attempt).lessThan maxAttempts = true →
      reading.withRaces = .ok value →
      LoopCase maxAttempts reading rest attempt lastError
        { made := [⟨attempt, reading⟩], ended := .resolved value }
  | ends {rawErr : Rejection} :
      (JsDouble.ofNat attempt).lessThan maxAttempts = true →
      reading.withRaces = .error rawErr →
      (marshalError runtime.globals rawErr).isRetryable = false →
      LoopCase maxAttempts reading rest attempt lastError
        { made := [⟨attempt, reading⟩]
          ended := .rejected (marshalError runtime.globals rawErr) }
  | retries {rawErr : Rejection} {later : DispatchRun runtime opts Value} :
      (JsDouble.ofNat attempt).lessThan maxAttempts = true →
      reading.withRaces = .error rawErr →
      (marshalError runtime.globals rawErr).isRetryable = true →
      later =
        dispatchLoop maxAttempts rest (attempt + 1) reading.tokenAfter
          (some (marshalError runtime.globals rawErr)) →
      LoopCase maxAttempts reading rest attempt lastError
        { made := ⟨attempt, reading⟩ :: later.made, ended := later.ended }

/-- Every loop is in one of the cases. -/
theorem loopCase
    (maxAttempts : JsDouble)
    (reading : AttemptReading runtime opts Value)
    (rest : List (AttemptReading runtime opts Value))
    (attempt : Nat)
    (token : Option (Option String))
    (lastError : Option ParallelError) :
    LoopCase maxAttempts reading rest attempt lastError
      (dispatchLoop maxAttempts (reading :: rest) attempt token lastError) := by
  cases allowed : (JsDouble.ofNat attempt).lessThan maxAttempts with
  | false =>
      rw [dispatchLoop_spent _ _ allowed]
      exact .spent
  | true =>
      cases token with
      | some reason =>
          rw [dispatchLoop_fired _ _ allowed]
          exact .stopped rfl
      | none =>
          cases fired : reading.fires with
          | some reason =>
              rw [dispatchLoop, if_pos allowed]
              simp only [fired]
              exact .stopped rfl
          | none =>
              cases raced : reading.withRaces with
              | ok value =>
                  rw [dispatchLoop, if_pos allowed]
                  simp only [fired, raced]
                  exact .resolved allowed raced
              | error rawErr =>
                  cases retryable :
                      (marshalError runtime.globals rawErr).isRetryable with
                  | false =>
                      rw [dispatchLoop, if_pos allowed]
                      simp only [fired, raced, endsLoop_eq, retryable]
                      exact .ends allowed raced retryable
                  | true =>
                      rw [dispatchLoop_retries rest allowed fired raced
                        retryable]
                      exact .retries allowed raced retryable rfl

end Dispatch

/-- A runtime that reads whole numbers only. -/
def wholeNumbers : DispatchRuntime where
  numerics :=
    { numberOf := fun text =>
        if text.toList.all Char.isDigit then
          .ofNat (digitsValue text.toList)
        else
          .nan
      round := .finite
      textOf := fun
        | .finite value => toString value.num
        | .infinite true => "-Infinity"
        | .infinite false => "Infinity"
        | .nan => "NaN" }
  globals := { cfpCpuMsPattern := none, stackOf := fun _ => none }

end CloudflareParallel
