import CloudflareParallel.ErrorHierarchy

namespace CloudflareParallel

open JsonValues KeyedTables

/-!
# The wire form of an error

`errorToWire` and `wireToError` with the JSON between them.  What the runtime
records as the stack of an error that is created, given its message, is a
parameter of the decoder.
-/

/-- `WireError` as JSON has it: a property that is undefined is left out. -/
structure WireError where
  name : String
  code : ErrorCode
  message : String
  httpStatus : Nat
  stack : Option String
  originalName : Option String := none
  extra : Option Json := none
  cause : Option Json := none

/-- The JSON of a wire error. -/
def WireError.json (wire : WireError) : Json :=
  .record
    [ ("name", some (.string wire.name)),
      ("code", some (.string wire.code.text)),
      ("message", some (.string wire.message)),
      ("httpStatus", some (.number ⟨toString wire.httpStatus⟩)),
      ("stack", wire.stack.map .string),
      ("originalName", wire.originalName.map .string),
      ("extra", wire.extra),
      ("cause", wire.cause) ]

namespace WireError

variable (wire : WireError)

@[simp]
theorem get?_name : wire.json.get? "name" = some (.string wire.name) := by
  simp [json]

@[simp]
theorem get?_code : wire.json.get? "code" = some (.string wire.code.text) := by
  simp [json]

@[simp]
theorem get?_message :
    wire.json.get? "message" = some (.string wire.message) := by
  simp [json]

@[simp]
theorem get?_stack : wire.json.get? "stack" = wire.stack.map .string := by
  simp [json]

@[simp]
theorem get?_originalName :
    wire.json.get? "originalName" = wire.originalName.map .string := by
  simp [json]

@[simp]
theorem get?_extra : wire.json.get? "extra" = wire.extra := by
  simp [json]

@[simp]
theorem get?_cause : wire.json.get? "cause" = wire.cause := by
  simp [json]

end WireError

namespace ErrorClass

/-- `stack` of the wire form; an execution error puts its remote one there. -/
def wireStack
    (cls : ErrorClass)
    (stack : Option String) : Option String :=
  match cls with
  | .executionError _ remoteStack _ => remoteStack.or stack
  | _ => stack

/-- `originalName` of the wire form. -/
def originalName : ErrorClass → Option String
  | .executionError _ _ originalName => originalName
  | _ => none

/-- `extra` of the wire form. -/
def extra : ErrorClass → Option Json
  | .returnTooLargeError bytes =>
      some (.record [("bytes", some (.number bytes))])
  | .deadlineTooShortError budgetMs minBudgetMs =>
      some
        (.record
          [ ("budgetMs", some (.number budgetMs)),
            ("minBudgetMs", some (.number minBudgetMs)) ])
  | .billingLimitError kind _ =>
      some (.record [("kind", some (.string kind.text))])
  | .timeoutError deadlineMs =>
      some (.record [("deadlineMs", some (.number deadlineMs))])
  | .missingBindingError bindingName =>
      some (.record [("bindingName", some (.string bindingName))])
  | .cancelledError reason =>
      some (.record [("reason", reason.map .string)])
  | .deadlineExceededError deadlineEpochMs =>
      some (.record [("deadlineEpochMs", some (.number deadlineEpochMs.1))])
  | .backpressureError _ retryAfterMs =>
      some (.record [("retryAfterMs", some (.number retryAfterMs))])
  | .queueFullError depth maxDepth =>
      some
        (.record
          [ ("depth", some (.number depth)),
            ("maxDepth", some (.number maxDepth)) ])
  | .resultExpiredError jobId =>
      some (.record [("jobId", some (.string jobId))])
  | _ => none

/-- `toJSON` of an error with a cause as an option. -/
def toJSON
    (cls : ErrorClass)
    (stack : Option String)
    (cause : Option Json) : Json :=
  WireError.json {
    name := cls.name
    code := cls.code
    message := cls.message
    httpStatus := cls.httpStatus
    stack := cls.wireStack stack
    originalName := cls.originalName
    extra := cls.extra
    cause := cause
  }

end ErrorClass

/-- `causeToWire` of an error that is not of the library. -/
def NativeError.causeToWire (err : NativeError) : Json :=
  WireError.json {
    name := err.name
    code := .execution
    message := err.message
    httpStatus := 500
    stack := err.stack
    originalName := some err.name
  }

/-- An entry of a map, as the wire form of an aggregate lists it. -/
def mapEntry
    (index : JsonNumber)
    (key : String)
    (value : Json) : Json :=
  .record [("index", some (.number index)), (key, some value)]

/-- `partialResultEntries`. -/
def partialResultEntries
    (partialResults : OrderedMap JsonNumber Json) : List Json :=
  partialResults.rows.map fun entry => mapEntry entry.1 "value" entry.2

mutual

/-- `toJSON`. -/
def ParallelError.toJSON : ParallelError → Json
  | .classed cls stack cause => cls.toJSON stack (causeToWire cause)
  | .retryExhaustedError attempts stack lastError =>
      WireError.json {
        name := "RetryExhaustedError"
        code := .retryExhausted
        message :=
          (ParallelError.retryExhaustedError attempts stack lastError).message
        httpStatus := 503
        stack := stack
        extra := some (.record [("attempts", some (.number attempts))])
        cause := some (errorCauseToWire lastError)
      }
  | .aggregateExecutionError errors partialResults stack =>
      WireError.json {
        name := "AggregateExecutionError"
        code := .aggregateExecution
        message :=
          (ParallelError.aggregateExecutionError errors partialResults
            stack).message
        httpStatus := 500
        stack := stack
        extra :=
          some
            (.record
              [ ("errorEntries", some (.array (errorEntries errors))),
                ("partialResultEntries",
                  some (.array (partialResultEntries partialResults))) ])
      }

/-- `causeToWire`. -/
def causeToWire : Cause ParallelError → Option Json
  | .undefined => none
  | .null => none
  | .error err => some (errorCauseToWire err)
  | .other asText =>
      some
        (WireError.json {
          name := "NonError"
          code := .execution
          message := asText
          httpStatus := 500
          stack := none
        })

/-- `causeToWire` of an error. -/
def errorCauseToWire : ErrorObject ParallelError → Json
  | .library err => err.toJSON
  | .native err => err.causeToWire

/-- `errorEntries`. -/
def errorEntries : List (JsonNumber × ParallelError) → List Json
  | [] => []
  | (index, err) :: rest =>
      mapEntry index "error" err.toJSON :: errorEntries rest

end

/-- `errorToWire` of an error. -/
def errorToWire : ErrorObject ParallelError → Json
  | .library err => err.toJSON
  | .native err =>
      WireError.json {
        name := if err.name = "" then "Error" else err.name
        code := .execution
        message := err.message
        httpStatus := 500
        stack := err.stack
        originalName := if err.name = "Error" then none else some err.name
      }

/-! ## The decoder -/

/-- A property of `wire.extra ?? {}`. -/
def extraOf
    (wire : Json)
    (key : String) : Option Json :=
  ((wire.get? "extra").getD .null).get? key

@[simp]
theorem extraOf_json
    (wire : WireError)
    (key : String) :
    extraOf wire.json key = (wire.extra.getD .null).get? key := by
  rw [extraOf, wire.get?_extra]

/-- An entry of a map, read back. -/
def mapEntryOf
    (key : String)
    (entry : Json) : Option (JsonNumber × Json) := do
  let index ← (← entry.get? "index").asNumber?
  let value ← entry.get? key
  some (index, value)

/-- The entries of a map under a property of `extra`; none if it is missing. -/
def mapEntriesOf
    (wire : Json)
    (property key : String) : Option (List (JsonNumber × Json)) := do
  let entries ← (Json.orElse (extraOf wire property) (.array [])).asArray?
  entries.mapM (mapEntryOf key)

/--
The class that `wireToError` picks for a code, with the arguments that it reads;
no class where a field does not have the type that the code takes for granted,
or where the constructor throws.  The two classes that need the decoded cause or
members are left to `wireToError`.
-/
def wireToClass
    (code : Option ErrorCode)
    (wire : Json) : Option ErrorClass := do
  let message ← (← wire.get? "message").asString?
  let extra := extraOf wire
  match code with
  | some .cancelled =>
      let reason ← Json.stringOr (extra "reason") message
      some (.cancelledError (some reason))
  | some .deadlineExceeded =>
      let ms ←
        Json.numberOr (extra "deadlineEpochMs") ⟨"0"⟩
      if valid : (timeValue? ms).isSome then
        some (.deadlineExceededError ⟨ms, valid⟩)
      else
        none
  | some .timeout =>
      let ms ← Json.numberOr (extra "deadlineMs") ⟨"0"⟩
      some (.timeoutError ms)
  | some .backpressure =>
      let ms ← Json.numberOr (extra "retryAfterMs") ⟨"100"⟩
      some (.backpressureError message ms)
  | some .disconnected => some (.disconnectedError message)
  | some .outOfMemory => some (.outOfMemoryError message)
  | some .billingLimit =>
      let kind ← Json.stringOr (extra "kind") "cpuMs"
      some (.billingLimitError (← BillingLimitKind.ofText? kind) message)
  | some .returnTooLarge =>
      let bytes ← Json.numberOr (extra "bytes") ⟨"0"⟩
      some (.returnTooLargeError bytes)
  | some .deadlineTooShort =>
      let budgetMs ← Json.numberOr (extra "budgetMs") ⟨"0"⟩
      let minBudgetMs ←
        Json.numberOr (extra "minBudgetMs") ⟨"1000"⟩
      some (.deadlineTooShortError budgetMs minBudgetMs)
  | some .serialization => some (.serializationError message)
  | some .resultExpired =>
      let jobId ← Json.stringOr (extra "jobId") ""
      some (.resultExpiredError jobId)
  | some .conflict => some (.conflictError message)
  | some .topology => some (.topologyError message)
  | some .binding => some (.bindingError message)
  | some .missingBinding =>
      let bindingName ←
        Json.stringOr (extra "bindingName") "unknown"
      some (.missingBindingError bindingName)
  | some .policyRequired => some (.policyRequiredError message)
  | _ =>
      -- `CFP_EXECUTION` and everything the switch does not list.
      let name ← (← wire.get? "name").asString?
      let originalName ←
        Json.stringOr (wire.get? "originalName") name
      let remoteStack ← (wire.get? "stack").mapM Json.asString?
      some (.executionError message remoteStack (some originalName))

/-- What is read from `extra` is smaller than the wire form. -/
theorem sizeOf_extraOf
    {wire found : Json}
    {key : String}
    (isFound : extraOf wire key = some found) :
    sizeOf found < sizeOf wire := by
  unfold extraOf at isFound
  cases isExtra : wire.get? "extra" with
  | none =>
      rw [isExtra] at isFound
      cases isFound
  | some extra =>
      rw [isExtra] at isFound
      exact Nat.lt_trans (Json.sizeOf_get? isFound) (Json.sizeOf_get? isExtra)

/-- An entry is smaller than the wire form that lists it. -/
theorem sizeOf_mapEntriesOf
    {wire : Json}
    {property key : String}
    {entries : List (JsonNumber × Json)}
    (listed : mapEntriesOf wire property key = some entries)
    {entry : JsonNumber × Json}
    (member : entry ∈ entries) :
    sizeOf entry.2 < sizeOf wire := by
  obtain ⟨items, isArray, isRead⟩ := Option.bind_eq_some_iff.mp listed
  obtain ⟨item, isItem, itemRead⟩ := exists_of_mapM isRead member
  obtain ⟨_, _, rest⟩ := Option.bind_eq_some_iff.mp itemRead
  obtain ⟨_, _, rest⟩ := Option.bind_eq_some_iff.mp rest
  obtain ⟨value, isValue, isEntry⟩ := Option.bind_eq_some_iff.mp rest
  cases isEntry
  have inItem := Json.sizeOf_get? isValue
  have inArray := Json.sizeOf_item isArray isItem
  cases isExtra : extraOf wire property with
  | none =>
      rw [isExtra] at isArray
      cases isArray
      cases isItem
  | some value =>
      have inWire := sizeOf_extraOf isExtra
      rw [isExtra] at isArray inArray
      cases value with
      | null =>
          cases isArray
          cases isItem
      | array _ =>
          exact Nat.lt_trans inItem (Nat.lt_trans inArray inWire)
      | _ =>
          cases isArray

/-- An error that is created now. -/
def ParallelError.create
    (stackOf : String → Option String)
    (err : Option String → ParallelError) : ParallelError :=
  err (stackOf (err none).message)

/-- The cause of an error that is rebuilt. -/
def causedBy : Option ParallelError → Cause ParallelError
  | none => .undefined
  | some err => .error (.library err)

/--
The switch of `wireToError`, given the decoded cause and, for an aggregate, the
decoded members.
-/
def wireSwitch
    (stackOf : String → Option String)
    (wire : Json)
    (cause : Option ParallelError)
    (members : Option (List (JsonNumber × ParallelError))) :
    Option ParallelError := do
  let code := ErrorCode.ofText? (← (← wire.get? "code").asString?)
  match code with
  | some .retryExhausted =>
      let message ← (← wire.get? "message").asString?
      let attempts ←
        Json.numberOr (extraOf wire "attempts") ⟨"1"⟩
      let inner : ErrorObject ParallelError :=
        match cause with
        | some err => .library err
        | none =>
            .native
              { name := "Error", message := message, stack := stackOf message }
      some
        (.create stackOf fun stack =>
          .retryExhaustedError attempts stack inner)
  | some .aggregateExecution =>
      let errMap := OrderedMap.ofList (← members)
      let entries ← mapEntriesOf wire "partialResultEntries" "value"
      let partMap := OrderedMap.ofList entries
      some
        (.create stackOf fun stack =>
          .aggregateExecutionError errMap.rows partMap stack)
  | _ =>
      let cls ← wireToClass code wire
      some (.create stackOf fun stack => .classed cls stack (causedBy cause))

/-- `wireToError`. -/
def wireToError
    (stackOf : String → Option String)
    (wire : Json) : Option ParallelError :=
  let cause : Option (Option ParallelError) :=
    match _ : wire.get? "cause" with
    | none => some none
    | some .null => some none
    | some wireCause => (wireToError stackOf wireCause).map some
  let members : Option (List (JsonNumber × ParallelError)) :=
    match _ : mapEntriesOf wire "errorEntries" "error" with
    | none => none
    | some entries =>
        entries.attach.mapM fun entry =>
          (wireToError stackOf entry.1.2).map (entry.1.1, ·)
  cause.bind fun cause => wireSwitch stackOf wire cause members
termination_by wire
decreasing_by
  · exact Json.sizeOf_get? (by assumption)
  · exact sizeOf_mapEntriesOf (by assumption) entry.2

end CloudflareParallel
