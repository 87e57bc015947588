import CloudflareParallel.Rejections
import CloudflareParallel.TransientRetry

namespace CloudflareParallel

open JsonValues

/-!
# `marshalError`

Errors of four classes and of the classes below them are passed through; all
others are sorted by the texts in their messages, whatever class they are of.
-/

/-! ## Classes and their ancestors -/

namespace ErrorClass

/-- `instanceof ExecutionError`. -/
def isExecutionError : ErrorClass → Bool
  | .executionError _ _ _ => true
  | .disconnectedError _ => true
  | .outOfMemoryError _ => true
  | .billingLimitError _ _ => true
  | _ => false

/-- `instanceof BackpressureError`. -/
def isBackpressureError : ErrorClass → Bool
  | .backpressureError _ _ => true
  | .queueFullError _ _ => true
  | _ => false

/-- `instanceof TimeoutError`. -/
def isTimeoutError : ErrorClass → Bool
  | .timeoutError _ => true
  | _ => false

/-- `instanceof SerializationError`. -/
def isSerializationError : ErrorClass → Bool
  | .serializationError _ => true
  | .returnTooLargeError _ => true
  | .deadlineTooShortError _ _ => true
  | _ => false

/-- `instanceof DisconnectedError`. -/
def isDisconnectedError : ErrorClass → Bool
  | .disconnectedError _ => true
  | _ => false

/-- `instanceof CancelledError`. -/
def isCancelledError : ErrorClass → Bool
  | .cancelledError _ => true
  | _ => false

/-- `instanceof DeadlineExceededError`. -/
def isDeadlineExceededError : ErrorClass → Bool
  | .deadlineExceededError _ => true
  | _ => false

/-- The classes that `marshalError` returns as they are. -/
def passesThrough (cls : ErrorClass) : Bool :=
  cls.isExecutionError || cls.isBackpressureError || cls.isTimeoutError ||
    cls.isSerializationError

end ErrorClass

namespace ParallelError

/-- Whether the class with its arguments meets a test, if the error has one. -/
def classMeets
    (test : ErrorClass → Bool) : ParallelError → Bool
  | .classed cls _ _ => test cls
  | _ => false

/-- `marshalError` returns the error as it is. -/
def passesThrough (err : ParallelError) : Bool :=
  err.classMeets ErrorClass.passesThrough

/-- `isRetryable`. -/
def isRetryable (err : ParallelError) : Bool :=
  err.classMeets fun cls => cls.isBackpressureError || cls.isDisconnectedError

/-- A retryable error is passed through. -/
theorem passesThrough_of_isRetryable
    {err : ParallelError}
    (retryable : err.isRetryable = true) :
    err.passesThrough = true := by
  cases err with
  | classed cls =>
      cases cls <;> first | rfl | cases retryable
  | _ => cases retryable

end ParallelError

/-! ## The markers -/

/--
A letter in lower case, where that matters for a text in plain letters: besides
the plain capitals, the only letters with a plain one in their lower case are
the Kelvin sign and the capital I with a dot.
-/
def lowerCaseOf (letter : Char) : List Char :=
  if letter = '\u212A' then
    ['k']
  else if letter = '\u0130' then
    ['i', '\u0307']
  else
    [letter.toLower]

/-- `text.toLowerCase()`, as far as plain letters are looked for in it. -/
def toLowerCase (text : String) : String :=
  String.ofList (text.toList.flatMap lowerCaseOf)

/-- `text.includes(pattern)`. -/
def includes (text pattern : String) : Bool :=
  text.toList.tails.any fun tail => pattern.toList.isPrefixOf tail

/-- What the runtime and the module's globals provide. -/
structure MarshalGlobals where
  cfpCpuMsPattern : Option String
  stackOf : String → Option String

/-- The class that the markers in a name and a message stand for. -/
def markedClass
    (globals : MarshalGlobals)
    (name msg : String)
    (stack : Option String) : ErrorClass :=
  let lc := toLowerCase msg
  if includes msg "Too many concurrent dynamic workers" then
    .backpressureError msg ⟨"100"⟩
  else if
    includes lc "owner quota" || includes lc "rate limit" ||
      includes lc "overloaded" || includes lc "too many requests" then
    .backpressureError msg ⟨"250"⟩
  else if
    globals.cfpCpuMsPattern.any fun pattern =>
      pattern ≠ "" && includes msg pattern then
    .billingLimitError .cpuMs msg
  else if
    includes msg "CPU exceeded" || includes lc "cpu time" ||
      includes lc "cpu limit" || includes lc "exceeded cpu" then
    .billingLimitError .cpuMs msg
  else if includes lc "subrequest" then
    .billingLimitError .subRequests msg
  else if
    includes lc "out of memory" || includes lc "memory limit exceeded" ||
      includes lc "heap out of memory" then
    .outOfMemoryError msg
  else if
    name = "Disconnected" || includes lc "disconnected" ||
      includes lc "worker terminated" ||
      includes lc "isolate is no longer running" ||
      includes lc "worker reset" then
    .disconnectedError msg
  else if
    name = "DataCloneError" || includes lc "could not be cloned" ||
      includes lc "could not be serialized" ||
      includes lc "cannot be cloned" || includes lc "not serializable" then
    .serializationError msg
  else
    .executionError msg stack (if name = "Error" then none else some name)

/-- `marshalError`. -/
def marshalError
    (globals : MarshalGlobals)
    (err : Rejection) : ParallelError :=
  let marked :=
    let e := err.asError globals.stackOf
    .ofClass globals.stackOf (markedClass globals e.name e.message e.stack)
  match err with
  | .error (.library err) => if err.passesThrough then err else marked
  | _ => marked

/-! ## What comes out -/

/-- The markers only ever stand for classes that are passed through. -/
theorem passesThrough_markedClass
    (globals : MarshalGlobals)
    (name msg : String)
    (stack : Option String) :
    (markedClass globals name msg stack).passesThrough = true := by
  unfold markedClass
  dsimp only
  repeat' split
  all_goals rfl

/-- What comes out is of a class that is passed through. -/
theorem passesThrough_marshalError
    (globals : MarshalGlobals)
    (err : Rejection) :
    (marshalError globals err).passesThrough = true := by
  unfold marshalError
  split
  · split
    next passes => exact passes
    next => exact passesThrough_markedClass ..
  · exact passesThrough_markedClass ..

/-- An error of such a class comes out as it is. -/
theorem marshalError_of_passesThrough
    (globals : MarshalGlobals)
    {err : ParallelError}
    (passes : err.passesThrough = true) :
    marshalError globals (.error (.library err)) = err :=
  if_pos passes

/-- The names of the classes that are passed through. -/
def PASSED_NAMES : List String :=
  [ "ExecutionError", "DisconnectedError", "OutOfMemoryError",
    "BillingLimitError", "BackpressureError", "QueueFullError", "TimeoutError",
    "SerializationError", "ReturnTooLargeError", "DeadlineTooShortError" ]

/-- Whether an error is passed through is a matter of its name. -/
theorem ParallelError.passesThrough_eq (err : ParallelError) :
    err.passesThrough = PASSED_NAMES.contains err.name := by
  cases err with
  | classed cls =>
      cases cls <;>
        simp [passesThrough, classMeets, ErrorClass.passesThrough,
          ErrorClass.isExecutionError, ErrorClass.isBackpressureError,
          ErrorClass.isTimeoutError, ErrorClass.isSerializationError,
          PASSED_NAMES, name, ErrorClass.name]
  | retryExhaustedError => simp [passesThrough, classMeets, PASSED_NAMES, name]
  | aggregateExecutionError =>
      simp [passesThrough, classMeets, PASSED_NAMES, name]

/-- Of two errors with one name, both are passed through or none. -/
theorem ParallelError.passesThrough_of_name_eq
    {err other : ParallelError}
    (same : err.name = other.name)
    (passes : err.passesThrough = true) :
    other.passesThrough = true := by
  rw [passesThrough_eq, ← same, ← passesThrough_eq]
  exact passes

/-- An error keeps its class exactly if that is passed through. -/
theorem marshalError_name_iff
    (globals : MarshalGlobals)
    (err : ParallelError) :
    (marshalError globals (.error (.library err))).name = err.name ↔
      err.passesThrough = true := by
  constructor
  · intro same
    exact
      ParallelError.passesThrough_of_name_eq same
        (passesThrough_marshalError ..)
  · intro passes
    rw [marshalError_of_passesThrough globals passes]

end CloudflareParallel
