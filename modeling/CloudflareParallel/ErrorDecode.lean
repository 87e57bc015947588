import CloudflareParallel.CoordinatorProtocol
import CloudflareParallel.ErrorWire

namespace CloudflareParallel

/-!
# Errors across the leaf envelope

A leaf sends the name and the message of an error, and the caller rebuilds an
error of the class with that name.  The constructor composes its message anew,
so what the caller reads is the same only where it takes a whole message.
-/

/--
`leafErrorToTypedError`: the class of the error that it builds, with the
arguments of the constructor.
-/
def leafErrorToTypedError (wire : ErrorRecord) : ErrorClass :=
  match wire.name with
  | "CancelledError" => .cancelledError (some wire.message)
  | "DeadlineExceededError" =>
      .deadlineExceededError ⟨⟨"0"⟩, by decide⟩
  | "TimeoutError" => .timeoutError ⟨"0"⟩
  | "BackpressureError" => .backpressureError wire.message ⟨"100"⟩
  | "DisconnectedError" => .disconnectedError wire.message
  | "OutOfMemoryError" => .outOfMemoryError wire.message
  | "BillingLimitError" => .billingLimitError .cpuMs wire.message
  | "ReturnTooLargeError" => .returnTooLargeError ⟨"0"⟩
  | "SerializationError" => .serializationError wire.message
  | "ResultExpiredError" => .resultExpiredError ""
  | "ConflictError" => .conflictError wire.message
  | "TopologyError" => .topologyError wire.message
  | _ =>
      .executionError wire.message wire.stack
        (wire.originalName.or (some wire.name))

/-! ## The way of an error of the library -/

namespace ParallelError

/-- `originalName`; only an `ExecutionError` is given one. -/
def originalName : ParallelError → Option String
  | .classed cls _ _ => cls.originalName
  | _ => none

/-- The error as it is thrown at a leaf. -/
def thrown (err : ParallelError) : Thrown :=
  .error err.name err.message err.stack err.originalName

/-- What the caller catches when this error is thrown at a leaf. -/
def atCaller (err : ParallelError) : ErrorClass :=
  leafErrorToTypedError (errorToRecord err.thrown)

/-- The caller catches an error of the same name with the same message. -/
structure ReadsAlike (err : ParallelError) : Prop where
  name : err.atCaller.name = err.name
  message : err.atCaller.message = err.message

end ParallelError

/-- The classes that the decoder rebuilds from their message. -/
def ErrorClass.TakesMessage : ErrorClass → Prop
  | .serializationError _
  | .executionError _ _ _
  | .disconnectedError _
  | .outOfMemoryError _
  | .billingLimitError _ _
  | .backpressureError _ _
  | .conflictError _
  | .topologyError _ => True
  | _ => False

/-- The arguments are those that the decoder makes up. -/
def ErrorClass.IsSentinel : ErrorClass → Prop
  | .returnTooLargeError bytes => bytes.text = "0"
  | .timeoutError deadlineMs => deadlineMs.text = "0"
  | .deadlineExceededError deadlineEpochMs =>
      deadlineEpochMs.toISOString = "1970-01-01T00:00:00.000Z"
  | .resultExpiredError jobId => jobId = ""
  | _ => False

/--
The condition on an error: the constructor of its class takes a message, or its
arguments are those that the decoder makes up.
-/
def ParallelError.SurvivesLeaf : ParallelError → Prop
  | .classed cls _ _ => cls.TakesMessage ∨ cls.IsSentinel
  | .retryExhaustedError _ _ _ => False
  | .aggregateExecutionError _ _ _ => False

/-- The record of an error of the library. -/
theorem errorToRecord_thrown
    (err : ParallelError) :
    errorToRecord err.thrown =
      { name := err.name
        message := err.message
        stack := err.stack
        originalName := err.originalName } := by
  have named : err.name ≠ "" := by
    cases err with
    | classed cls stack cause => cases cls <;> exact of_decide_eq_true rfl
    | _ => exact of_decide_eq_true rfl
  simp only [ParallelError.thrown, errorToRecord, if_neg named]

/-- The date of the time zero. -/
theorem toISOString_zero :
    DateNumber.toISOString ⟨⟨"0"⟩, by decide⟩ =
      "1970-01-01T00:00:00.000Z" := by
  decide +kernel

/-- A message that is composed anew is the same if its argument is. -/
theorem composed_eq_iff
    {before after made given sentinel : String}
    (madeUp : made = sentinel) :
    before ++ made ++ after = before ++ given ++ after ↔
      given = sentinel := by
  rw [String.append_left_inj, String.append_right_inj, madeUp]
  exact eq_comm

/-- A message behind the prefix is not the message. -/
theorem cancelled_append_ne (message : String) :
    "Cancelled: " ++ message ≠ message := by
  intro same
  have lengths := congrArg String.length same
  rw [String.length_append] at lengths
  have present : "Cancelled: ".length = 11 := rfl
  omega

/-- No message of a cancellation is empty. -/
theorem cancelledMessage_ne_empty (reason : Option String) :
    ErrorClass.cancelledMessage reason ≠ "" := by
  unfold ErrorClass.cancelledMessage
  split
  · decide
  · intro empty
    exact absurd (String.append_eq_empty_iff.mp empty).1 (by decide)

/-- A cancellation is given its prefix once more. -/
theorem cancelledMessage_cancelledMessage_ne (reason : Option String) :
    ErrorClass.cancelledMessage (some (ErrorClass.cancelledMessage reason)) ≠
      ErrorClass.cancelledMessage reason := by
  have present := cancelledMessage_ne_empty reason
  generalize ErrorClass.cancelledMessage reason = message at present ⊢
  have prefixed :
      ErrorClass.cancelledMessage (some message) =
        "Cancelled: " ++ message := by
    unfold ErrorClass.cancelledMessage
    rw [Option.filter_some, if_pos (decide_eq_true present)]
    rfl
  rw [prefixed]
  exact cancelled_append_ne message

namespace ParallelError

variable {stack : Option String}
variable {cause : Cause ParallelError}

/-- An error of a class reads alike if it survives. -/
theorem readsAlike_classed_iff (cls : ErrorClass) :
    (ParallelError.classed cls stack cause).ReadsAlike ↔
      cls.TakesMessage ∨ cls.IsSentinel := by
  have rebuilt :
      (ParallelError.classed cls stack cause).atCaller =
        leafErrorToTypedError
          { name := cls.name
            message := cls.message
            stack := stack
            originalName := originalName (.classed cls stack cause) } :=
    congrArg leafErrorToTypedError (errorToRecord_thrown _)
  have parts :
      (ParallelError.classed cls stack cause).ReadsAlike ↔
        (ParallelError.classed cls stack cause).atCaller.name = cls.name ∧
          (ParallelError.classed cls stack cause).atCaller.message =
            cls.message :=
    ⟨fun alike => ⟨alike.name, alike.message⟩,
      fun both => ⟨both.1, both.2⟩⟩
  rw [parts, rebuilt]
  cases cls with
  | serializationError | executionError | disconnectedError
  | outOfMemoryError | billingLimitError | backpressureError
  | conflictError | topologyError =>
      exact iff_of_true ⟨rfl, rfl⟩ (.inl trivial)
  | returnTooLargeError | timeoutError | resultExpiredError =>
      exact
        (and_iff_right rfl).trans
          ((composed_eq_iff rfl).trans (iff_of_eq (false_or _)).symm)
  | deadlineExceededError =>
      exact
        (and_iff_right rfl).trans
          ((composed_eq_iff toISOString_zero).trans
            (iff_of_eq (false_or _)).symm)
  | cancelledError reason =>
      refine iff_of_false (fun both => ?_) (fun either => ?_)
      · exact cancelledMessage_cancelledMessage_ne reason both.2
      · rcases either with takes | sentinel
        · exact takes
        · exact sentinel
  | parallelError | deadlineTooShortError | bindingError
  | missingBindingError | queueFullError | policyRequiredError =>
      refine iff_of_false (fun both => ?_) (fun either => ?_)
      · exact absurd both.1 (of_decide_eq_true rfl)
      · rcases either with takes | sentinel
        · exact takes
        · exact sentinel

/--
An error reads alike at the leaf and at the caller exactly when its constructor
takes a message or its arguments are those that the decoder makes up.
-/
theorem readsAlike_iff (err : ParallelError) :
    err.ReadsAlike ↔ err.SurvivesLeaf := by
  cases err with
  | classed cls stack cause => exact readsAlike_classed_iff cls
  | retryExhaustedError attempts stack lastError =>
      have rebuilt :=
        congrArg leafErrorToTypedError
          (errorToRecord_thrown
            (.retryExhaustedError attempts stack lastError))
      refine iff_of_false (fun alike => ?_) nofun
      have renamed := (congrArg ErrorClass.name rebuilt).symm.trans alike.name
      exact absurd renamed (of_decide_eq_true rfl)
  | aggregateExecutionError errors partialResults stack =>
      have rebuilt :=
        congrArg leafErrorToTypedError
          (errorToRecord_thrown
            (.aggregateExecutionError errors partialResults stack))
      refine iff_of_false (fun alike => ?_) nofun
      have renamed := (congrArg ErrorClass.name rebuilt).symm.trans alike.name
      exact absurd renamed (of_decide_eq_true rfl)

/-- A cancelled task: `new CancelledError('stop')`. -/
def stopped : ParallelError :=
  .classed (.cancelledError (some "stop")) none .undefined

/-- The caller reads that the task was cancelled twice. -/
theorem not_readsAlike_stopped :
    ¬ ∀ err : ParallelError, err.ReadsAlike := by
  intro alike
  have message := (alike stopped).message
  revert message
  decide

end ParallelError

end CloudflareParallel
