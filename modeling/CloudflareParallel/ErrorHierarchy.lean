import CloudflareParallel.Dates
import CloudflareParallel.Library.OrderedMap

namespace CloudflareParallel

open JsonValues KeyedTables

/-!
# The error hierarchy

An error of the library, as its class's constructor builds it: the class with
the arguments of the constructor, the stack that the runtime has recorded, and
the cause.  The message is computed from the arguments.  Number fields hold JSON
numbers, and partial results JSON values.
-/

/-- `ErrorCode`. -/
inductive ErrorCode where
  | parallel
  | serialization
  | returnTooLarge
  | deadlineTooShort
  | execution
  | disconnected
  | outOfMemory
  | billingLimit
  | timeout
  | retryExhausted
  | binding
  | missingBinding
  | cancelled
  | deadlineExceeded
  | backpressure
  | queueFull
  | resultExpired
  | conflict
  | topology
  | aggregateExecution
  | policyRequired
  deriving Repr, DecidableEq

namespace ErrorCode

/-- The stable text of a code. -/
def text : ErrorCode → String
  | .parallel => "CFP_PARALLEL"
  | .serialization => "CFP_SERIALIZATION"
  | .returnTooLarge => "CFP_RETURN_TOO_LARGE"
  | .deadlineTooShort => "CFP_DEADLINE_TOO_SHORT"
  | .execution => "CFP_EXECUTION"
  | .disconnected => "CFP_DISCONNECTED"
  | .outOfMemory => "CFP_OUT_OF_MEMORY"
  | .billingLimit => "CFP_BILLING_LIMIT"
  | .timeout => "CFP_TIMEOUT"
  | .retryExhausted => "CFP_RETRY_EXHAUSTED"
  | .binding => "CFP_BINDING"
  | .missingBinding => "CFP_MISSING_BINDING"
  | .cancelled => "CFP_CANCELLED"
  | .deadlineExceeded => "CFP_DEADLINE_EXCEEDED"
  | .backpressure => "CFP_BACKPRESSURE"
  | .queueFull => "CFP_QUEUE_FULL"
  | .resultExpired => "CFP_RESULT_EXPIRED"
  | .conflict => "CFP_CONFLICT"
  | .topology => "CFP_TOPOLOGY"
  | .aggregateExecution => "CFP_AGGREGATE_EXECUTION"
  | .policyRequired => "CFP_POLICY_REQUIRED"

/-- All codes. -/
def all : List ErrorCode :=
  [ .parallel, .serialization, .returnTooLarge, .deadlineTooShort, .execution,
    .disconnected, .outOfMemory, .billingLimit, .timeout, .retryExhausted,
    .binding, .missingBinding, .cancelled, .deadlineExceeded, .backpressure,
    .queueFull, .resultExpired, .conflict, .topology, .aggregateExecution,
    .policyRequired ]

/-- The code with a text. -/
def ofText? (text : String) : Option ErrorCode :=
  all.find? fun code => code.text = text

/-- A code is found by its text. -/
@[simp]
theorem ofText?_text (code : ErrorCode) : ofText? code.text = some code := by
  cases code <;> decide

end ErrorCode

/-- `BillingLimitKind`. -/
inductive BillingLimitKind where
  | cpuMs
  | subRequests
  | memory
  deriving Repr, DecidableEq

namespace BillingLimitKind

/-- The text of a kind. -/
def text : BillingLimitKind → String
  | .cpuMs => "cpuMs"
  | .subRequests => "subRequests"
  | .memory => "memory"

/-- The kind with a text. -/
def ofText? (text : String) : Option BillingLimitKind :=
  [.cpuMs, .subRequests, .memory].find? fun kind => kind.text = text

/-- A kind is found by its text. -/
@[simp]
theorem ofText?_text (kind : BillingLimitKind) :
    ofText? kind.text = some kind := by
  cases kind <;> decide

end BillingLimitKind

/-- A number that makes a valid date; `toISOString` throws for any other. -/
abbrev DateNumber : Type :=
  { ms : JsonNumber // (timeValue? ms).isSome }

/-- `new Date(ms).toISOString()`. -/
def DateNumber.toISOString (ms : DateNumber) : String :=
  dateToISOString ((timeValue? ms.1).get ms.2)

/--
The classes whose constructors take a cause as an option, with the other
arguments of the constructor.
-/
inductive ErrorClass where
  | parallelError (message : String)
  | serializationError (message : String)
  | returnTooLargeError (bytes : JsonNumber)
  | deadlineTooShortError (budgetMs minBudgetMs : JsonNumber)
  | executionError (message : String) (remoteStack originalName : Option String)
  | disconnectedError (message : String)
  | outOfMemoryError (message : String)
  | billingLimitError (kind : BillingLimitKind) (message : String)
  | timeoutError (deadlineMs : JsonNumber)
  | bindingError (message : String)
  | missingBindingError (bindingName : String)
  | cancelledError (reason : Option String)
  | deadlineExceededError (deadlineEpochMs : DateNumber)
  | backpressureError (message : String) (retryAfterMs : JsonNumber)
  | queueFullError (depth maxDepth : JsonNumber)
  | resultExpiredError (jobId : String)
  | conflictError (message : String)
  | topologyError (message : String)
  | policyRequiredError (message : String)
  deriving DecidableEq

namespace ErrorClass

/-- `name`. -/
def name : ErrorClass → String
  | .parallelError _ => "ParallelError"
  | .serializationError _ => "SerializationError"
  | .returnTooLargeError _ => "ReturnTooLargeError"
  | .deadlineTooShortError _ _ => "DeadlineTooShortError"
  | .executionError _ _ _ => "ExecutionError"
  | .disconnectedError _ => "DisconnectedError"
  | .outOfMemoryError _ => "OutOfMemoryError"
  | .billingLimitError _ _ => "BillingLimitError"
  | .timeoutError _ => "TimeoutError"
  | .bindingError _ => "BindingError"
  | .missingBindingError _ => "MissingBindingError"
  | .cancelledError _ => "CancelledError"
  | .deadlineExceededError _ => "DeadlineExceededError"
  | .backpressureError _ _ => "BackpressureError"
  | .queueFullError _ _ => "QueueFullError"
  | .resultExpiredError _ => "ResultExpiredError"
  | .conflictError _ => "ConflictError"
  | .topologyError _ => "TopologyError"
  | .policyRequiredError _ => "PolicyRequiredError"

/-- `code`. -/
def code : ErrorClass → ErrorCode
  | .parallelError _ => .parallel
  | .serializationError _ => .serialization
  | .returnTooLargeError _ => .returnTooLarge
  | .deadlineTooShortError _ _ => .deadlineTooShort
  | .executionError _ _ _ => .execution
  | .disconnectedError _ => .disconnected
  | .outOfMemoryError _ => .outOfMemory
  | .billingLimitError _ _ => .billingLimit
  | .timeoutError _ => .timeout
  | .bindingError _ => .binding
  | .missingBindingError _ => .missingBinding
  | .cancelledError _ => .cancelled
  | .deadlineExceededError _ => .deadlineExceeded
  | .backpressureError _ _ => .backpressure
  | .queueFullError _ _ => .queueFull
  | .resultExpiredError _ => .resultExpired
  | .conflictError _ => .conflict
  | .topologyError _ => .topology
  | .policyRequiredError _ => .policyRequired

/-- `httpStatus`. -/
def httpStatus : ErrorClass → Nat
  | .parallelError _ => 500
  | .serializationError _ => 400
  | .returnTooLargeError _ => 413
  | .deadlineTooShortError _ _ => 400
  | .executionError _ _ _ => 500
  | .disconnectedError _ => 502
  | .outOfMemoryError _ => 507
  | .billingLimitError _ _ => 402
  | .timeoutError _ => 504
  | .bindingError _ => 500
  | .missingBindingError _ => 500
  | .cancelledError _ => 499
  | .deadlineExceededError _ => 504
  | .backpressureError _ _ => 503
  | .queueFullError _ _ => 429
  | .resultExpiredError _ => 410
  | .conflictError _ => 409
  | .topologyError _ => 400
  | .policyRequiredError _ => 500

/-- The message of a `CancelledError`; an empty reason is no reason. -/
def cancelledMessage (reason : Option String) : String :=
  match reason.filter (· ≠ "") with
  | none => "Cancelled"
  | some reason => s!"Cancelled: {reason}"

/-- `message`, as the constructor passes it to `super`. -/
def message : ErrorClass → String
  | .parallelError message => message
  | .serializationError message => message
  | .returnTooLargeError bytes =>
      s!"Return value of {bytes.text} bytes exceeds RPC max payload (32 MiB)"
  | .deadlineTooShortError budgetMs minBudgetMs =>
      s!"Deadline budget {budgetMs.text}ms is below minimum " ++
        s!"{minBudgetMs.text}ms " ++
        "(may not survive coordinator clock skew + RPC overhead)"
  | .executionError message _ _ => message
  | .disconnectedError message => message
  | .outOfMemoryError message => message
  | .billingLimitError _ message => message
  | .timeoutError deadlineMs =>
      s!"Task exceeded {deadlineMs.text}ms wall-clock timeout"
  | .bindingError message => message
  | .missingBindingError bindingName =>
      s!"Required binding '{bindingName}' is missing. " ++
        "Add it to your wrangler.toml — see the README \"Wiring up\" section."
  | .cancelledError reason => cancelledMessage reason
  | .deadlineExceededError deadlineEpochMs =>
      s!"Deadline exceeded (target={deadlineEpochMs.toISOString})"
  | .backpressureError message _ => message
  | .queueFullError depth maxDepth =>
      s!"Dispatcher queue full (depth={depth.text}, max={maxDepth.text})"
  | .resultExpiredError jobId =>
      s!"Job {jobId} result expired (TTL elapsed before result() was called)"
  | .conflictError message => message
  | .topologyError message => message
  | .policyRequiredError message => message

end ErrorClass

/-- An error that is not of the library. -/
structure NativeError where
  name : String
  message : String
  stack : Option String
  deriving Repr, DecidableEq

/-- An `Error`: one of the library or another. -/
inductive ErrorObject (Library : Type) where
  | library (err : Library)
  | native (err : NativeError)

/-- What stands as the cause of an error. -/
inductive Cause (Library : Type) where
  | undefined
  | null
  | error (err : ErrorObject Library)
  /-- Something else, by the text that `String` gives it. -/
  | other (asText : String)

/--
An error of the library.  The members of an aggregate are the entries of a map,
in its order.
-/
inductive ParallelError where
  | classed
      (cls : ErrorClass)
      (stack : Option String)
      (cause : Cause ParallelError)
  | retryExhaustedError
      (attempts : JsonNumber)
      (stack : Option String)
      (lastError : ErrorObject ParallelError)
  | aggregateExecutionError
      (errors : List (JsonNumber × ParallelError))
      (partialResults : OrderedMap JsonNumber Json)
      (stack : Option String)

/-- The message of a `RetryExhaustedError`. -/
def retryExhaustedMessage
    (attempts : JsonNumber)
    (lastMessage : String) : String :=
  s!"Task failed after {attempts.text} attempt(s): {lastMessage}"

/-- The message of an `AggregateExecutionError`. -/
def aggregateMessage
    (size : Nat)
    (firstMessage : Option String) : String :=
  let first := firstMessage.getD "(unknown)"
  s!"{size} task(s) failed: {first}"

namespace ParallelError

/-- `name`. -/
def name : ParallelError → String
  | .classed cls _ _ => cls.name
  | .retryExhaustedError _ _ _ => "RetryExhaustedError"
  | .aggregateExecutionError _ _ _ => "AggregateExecutionError"

/-- `code`. -/
def code : ParallelError → ErrorCode
  | .classed cls _ _ => cls.code
  | .retryExhaustedError _ _ _ => .retryExhausted
  | .aggregateExecutionError _ _ _ => .aggregateExecution

/-- `httpStatus`. -/
def httpStatus : ParallelError → Nat
  | .classed cls _ _ => cls.httpStatus
  | .retryExhaustedError _ _ _ => 503
  | .aggregateExecutionError _ _ _ => 500

/-- `message`. -/
def message : ParallelError → String
  | .classed cls _ _ => cls.message
  | .retryExhaustedError attempts _ (.library err) =>
      retryExhaustedMessage attempts err.message
  | .retryExhaustedError attempts _ (.native err) =>
      retryExhaustedMessage attempts err.message
  | .aggregateExecutionError [] _ _ => aggregateMessage 0 none
  | .aggregateExecutionError ((_, first) :: rest) _ _ =>
      aggregateMessage (rest.length + 1) (some first.message)

/-- `stack`. -/
def stack : ParallelError → Option String
  | .classed _ stack _ => stack
  | .retryExhaustedError _ stack _ => stack
  | .aggregateExecutionError _ _ stack => stack

end ParallelError

end CloudflareParallel
