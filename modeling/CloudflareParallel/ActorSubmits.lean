import CloudflareParallel.ErrorDecode
import CloudflareParallel.LoaderShims
import CloudflareParallel.PoolFanOut
import CloudflareParallel.ReturnSizes
import CloudflareParallel.SubmitEvents

namespace CloudflareParallel

/-!
# The calls of an actor

`ActorHandle.submit` serializes its function and builds an envelope before it
dispatches, and dispatches under the timeout, the retries, the deadline and the
token of its options.  Each of these can keep a call from the answer of its
function.  `actorFake` looks at none of them.
-/

/-! ## Functions and what they leave -/

/-- A value with the objects behind it; a copy is not told from it. -/
structure RootedGraph where
  count : Nat
  heap : ReturnedHeap (Fin count)
  root : ReturnedValue (Fin count)

/-- The state of an actor, which is an object. -/
structure StateGraph where
  count : Nat
  heap : ReturnedHeap (Fin count)
  root : Fin count

/-- `{}`. -/
def StateGraph.empty : StateGraph where
  count := 1
  heap _ := .object []
  root := 0

/-- What a user function leaves behind when it returns a value. -/
structure LeftBehind where
  count : Nat
  heap : ReturnedHeap (Fin count)
  /-- `Object.getPrototypeOf(value)?.constructor?.name`. -/
  constructorName : Fin count → Option String
  state : Fin count
  value : ReturnedValue (Fin count)

namespace LeftBehind

/-- The state, as it was mutated. -/
def stateGraph (left : LeftBehind) : StateGraph :=
  ⟨left.count, left.heap, left.state⟩

/-- The value that was returned. -/
def valueGraph (left : LeftBehind) : RootedGraph :=
  ⟨left.count, left.heap, left.value⟩

end LeftBehind

/-- How a user function ends. -/
inductive FunctionRun where
  | throws (err : Thrown)
  | returns (left : LeftBehind)

/-- What a function does with a state, its other arguments given. -/
abbrev AppliedFunction := StateGraph → FunctionRun

/-- A user function, with what it does in the process of its caller. -/
structure UserFunction where
  /-- `fn.toString()`. -/
  source : String
  name : String
  run : List RootedGraph → AppliedFunction

/-- The message of `rejectIfRpcStub`, in the isolate and outside. -/
def rpcStubMessage : String :=
  "returned values cannot include RPC stubs"

/--
What the platform provides.  Structured serialization is at work in
`structuredClone` and in storage; an RPC takes the arguments on the way in and
the pair of state and value on the way out.
-/
structure ActorPlatform where
  runtime : DispatchRuntime
  /-- What the function of a text does in the isolate that is loaded for it. -/
  evaluates : String → List RootedGraph → AppliedFunction
  clones : StateGraph → Bool
  clones_empty : clones .empty = true
  sendsArguments : List RootedGraph → Bool
  sends : LeftBehind → Bool
  dataCloneMessage : String
  /-- The runtime does not speak of the stubs of the library. -/
  dataCloneMessage_ne : dataCloneMessage ≠ rpcStubMessage

/-- What the module and the runtime give to the errors. -/
abbrev ActorPlatform.globals (platform : ActorPlatform) : MarshalGlobals :=
  platform.runtime.globals

/-- A state that was cloned. -/
abbrev ClonedState (platform : ActorPlatform) :=
  { state : StateGraph // platform.clones state = true }

/-! ## What a caller reads of a rejection -/

/-- Of an error its name and its message. -/
inductive Caught where
  | error (name message : String)
  | other (asText : String)
  deriving DecidableEq

/-- A thrown value, as it is caught. -/
def Thrown.caught : Thrown → Caught
  | .error name message _ _ => .error name message
  | .string value => .other value
  | .object _ asText => .other asText

/-- An error of a class, as it is caught. -/
def ErrorClass.caught (cls : ErrorClass) : Caught :=
  .error cls.name cls.message

/-- A rejection, as it is caught. -/
def Rejection.caught : Rejection → Caught
  | .error (.library err) => .error err.name err.message
  | .error (.native err) => .error err.name err.message
  | .other asText => .other asText

/-- What a dispatch throws, as it is caught; nothing if it does not throw. -/
def DispatchEnd.thrown?
    {Value : Type}
    (numerics : JsNumerics) : DispatchEnd Value → Option Caught
  | .resolved _ => none
  | .pending => none
  | ended =>
      match ended.caught numerics with
      | .error name message => some (.error name message)
      | .undefined => some (.other "undefined")

namespace ActorPlatform

variable (platform : ActorPlatform)

/-- An error of the language or the runtime. -/
def nativeError (name message : String) : Rejection :=
  AttemptReading.nativeError platform.runtime name message

/-- An error of the library. -/
def libraryError (cls : ErrorClass) : Rejection :=
  .error (.library (.ofClass platform.globals.stackOf cls))

end ActorPlatform

/-! ## The options -/

/-- `ActorOptions`, with `initialState ?? {}`. -/
structure ActorOptions (platform : ActorPlatform) where
  initialState : ClonedState platform
  timeout : Option JsDouble
  retries : Option JsDouble

/-- `SubmitOptions`, as far as an actor reads them. -/
structure SubmitOptions where
  timeout : Option JsDouble
  retries : Option JsDouble
  deadline : Option JsDouble
  deadlineMs : Option JsDouble
  /-- A token is given. -/
  cancel : Bool

/-- What settles a race before the task does. -/
inductive RaceLoss where
  | timeout
  | deadline
  | cancel (reason : Option String)

/-- A loss decides the race. -/
def RaceLoss.winner {Value : Type} : RaceLoss → RaceWinner Value
  | .timeout => .timeout
  | .deadline => .deadline
  | .cancel reason => .cancel reason

/-- What the attempt of a call meets, as far as its options arm it. -/
structure ActorAttempt where
  /-- The token has fired before, for a reason. -/
  fired : Option (Option String)
  /-- The deadline is behind when the attempt begins. -/
  expired : Bool
  /-- What comes before the answer of the object. -/
  first : Option RaceLoss

/-- A `submit`, with what it reads of the clock and of the platform. -/
structure SubmitCall where
  fn : UserFunction
  args : List RootedGraph
  opts : SubmitOptions
  /-- `Date.now()` in `buildEnvelope`. -/
  now : Int
  attempt : ActorAttempt

/-- The function on the arguments. -/
def SubmitCall.applied (call : SubmitCall) : AppliedFunction :=
  call.fn.run call.args

namespace ActorAttempt

variable {runtime : DispatchRuntime}
variable {Value : Type}

/-- Who settles the race: the task, unless an armed racer comes before it. -/
def winner
    (attempt : ActorAttempt)
    (runtime : DispatchRuntime)
    (opts : DispatchOptions)
    (outcome : Except Rejection Value) : RaceWinner Value :=
  match attempt.first with
  | none => .task outcome
  | some loss =>
      if opts.armed runtime (loss.winner : RaceWinner Value) then
        loss.winner
      else
        .task outcome

/-- Whoever settles the race takes part in it. -/
theorem armed_winner
    (attempt : ActorAttempt)
    (opts : DispatchOptions)
    (outcome : Except Rejection Value) :
    opts.armed runtime (attempt.winner runtime opts outcome) = true := by
  unfold winner
  split
  · rfl
  · split
    next armed => exact armed
    next => rfl

/-- The race is settled alike, whatever the task answers. -/
theorem winner_map
    {Other : Type}
    (replace : Value → Other)
    (attempt : ActorAttempt)
    (opts : DispatchOptions)
    (outcome : Except Rejection Value) :
    attempt.winner runtime opts (outcome.map replace) =
      (attempt.winner runtime opts outcome).map replace := by
  unfold winner
  cases attempt.first with
  | none => rfl
  | some loss =>
      dsimp only
      rw [apply_ite (RaceWinner.map replace)]
      cases loss <;> rfl

/-- The attempt, as its dispatch reads it. -/
def reading
    (attempt : ActorAttempt)
    (opts : DispatchOptions)
    (outcome : Except Rejection Value) :
    AttemptReading runtime opts Value where
  fires := if opts.cancel then attempt.fired else none
  hasToken := by
    intro fires
    split at fires
    next given => exact given
    next => cases fires
  expired := attempt.expired
  winner := attempt.winner runtime opts outcome
  takesPart := attempt.armed_winner opts outcome

end ActorAttempt

/-! ## The way to the attempt -/

namespace SubmitCall

variable (platform : ActorPlatform)
variable (options : ActorOptions platform)
variable (call : SubmitCall)

/-- What `submit` passes to `dispatchWithResilience`. -/
def dispatchOptions (deadlineEpochMs : OptionValue) : DispatchOptions where
  timeout :=
    nullish (call.opts.timeout.map .typed) (options.timeout.map .typed)
  retries :=
    nullish (call.opts.retries.map .typed)
      (nullish (options.retries.map .typed) (some (.typed (.finite 0))))
  cancel := call.opts.cancel
  deadlineEpochMs :=
    if platform.runtime.numerics.truthy deadlineEpochMs then
      some deadlineEpochMs
    else
      none

/--
`submit` from the split of its arguments to the dispatch.  To `buildEnvelope` a
token is as good as none, since it has a `poll`.
-/
def prepare : Except Rejection (String × DispatchOptions) := do
  let fnSource ←
    (serializeFunction (.function call.fn.source call.fn.name)).mapError
      fun err => platform.libraryError (.serializationError err.message)
  let deadlineEpochMs ←
    buildEnvelope platform.runtime call.now none
      (call.opts.deadline.map .typed) (call.opts.deadlineMs.map .typed)
  return (fnSource, call.dispatchOptions platform options deadlineEpochMs)

/-- The call of the object is made, if its arguments can be sent. -/
def sent {Value : Type} (answer : Value) : Except Rejection Value :=
  if platform.sendsArguments call.args then
    .ok answer
  else
    .error (platform.nativeError "DataCloneError" platform.dataCloneMessage)

/-- `dispatchWithResilience`, whatever the object answers. -/
def dispatch
    {Value : Type}
    (opts : DispatchOptions)
    (answer : Value) : DispatchRun platform.runtime opts Value :=
  dispatchWithResilience [call.attempt.reading opts (call.sent platform answer)]

/-- The error that the call ends with before its function is looked at. -/
def refusal : Option Caught :=
  match call.prepare platform options with
  | .error err => some err.caught
  | .ok (_, opts) =>
      (call.dispatch platform opts ()).ended.thrown? platform.runtime.numerics

/-- The text does in the isolate what the function does in the process. -/
def IsClosureFree : Prop :=
  ∀ fnSource,
    serializeFunction (.function call.fn.source call.fn.name) = .ok fnSource →
    platform.evaluates fnSource = call.fn.run

end SubmitCall

/-! ## Calls that come to an answer -/

/-- An attempt is made, and nothing comes before the answer of the object. -/
structure ActorAttempt.Answers
    (attempt : ActorAttempt)
    (runtime : DispatchRuntime)
    (opts : DispatchOptions) : Prop where
  allowed :
    ∃ maxAttempts,
      opts.maxAttempts runtime = some maxAttempts ∧
        (JsDouble.ofNat 0).lessThan maxAttempts = true
  silent : opts.cancel = true → attempt.fired = none
  inTime : opts.deadlineArmed runtime = some true → attempt.expired = false
  first :
    ∀ loss,
      attempt.first = some loss →
      opts.armed runtime (loss.winner : RaceWinner Unit) = false

/--
A call that its text and its options let through: the text is no native one and
has no `this` in it, of the two deadlines at most one is given and it is far
enough, the arguments can be sent, and the attempt comes to its answer.
-/
structure SubmitCall.IsPlain
    (platform : ActorPlatform)
    (options : ActorOptions platform)
    (call : SubmitCall)
    (fnSource : String)
    (opts : DispatchOptions) : Prop where
  prepared : call.prepare platform options = .ok (fnSource, opts)
  sendable : platform.sendsArguments call.args = true
  answers : call.attempt.Answers platform.runtime opts

namespace SubmitCall

variable {platform : ActorPlatform}
variable {options : ActorOptions platform}
variable {call : SubmitCall}

/-- The options of a dispatch are numbers, if there are any. -/
structure AreTyped (opts : DispatchOptions) : Prop where
  timeout : ∀ value ∈ opts.timeout, ∃ number, value = .typed number
  deadline : ∀ value ∈ opts.deadlineEpochMs, ∃ number, value = .typed number

/-- A number passes a condition or does not; it does not throw. -/
theorem isSome_truthyPositive
    (numerics : JsNumerics)
    {value : Option OptionValue}
    (typed : ∀ given ∈ value, ∃ number, given = OptionValue.typed number) :
    (numerics.truthyPositive value).isSome = true := by
  cases value with
  | none => rfl
  | some given =>
      obtain ⟨number, rfl⟩ := typed given rfl
      unfold JsNumerics.truthyPositive
      dsimp only
      split <;> rfl

/-- What comes out of the way to the dispatch. -/
inductive PrepareCase
    (platform : ActorPlatform)
    (options : ActorOptions platform)
    (call : SubmitCall) : Except Rejection (String × DispatchOptions) → Prop where
  | noText {err : SerializationError} :
      serializeFunction (.function call.fn.source call.fn.name) = .error err →
      PrepareCase platform options call
        (.error (platform.libraryError (.serializationError err.message)))
  | noEnvelope {err : Rejection} :
      EnvelopeCase platform.runtime (.error err) →
      PrepareCase platform options call (.error err)
  | prepared {fnSource : String} (deadline : JsDouble) :
      serializeFunction (.function call.fn.source call.fn.name) =
        .ok fnSource →
      PrepareCase platform options call
        (.ok (fnSource, call.dispatchOptions platform options (.typed deadline)))

/-- The text is made first, and then the envelope. -/
theorem prepareCase :
    PrepareCase platform options call (call.prepare platform options) := by
  have envelope :=
    envelopeCase platform.runtime call.now call.opts.deadline
      call.opts.deadlineMs
  unfold prepare
  cases serialized :
      serializeFunction (.function call.fn.source call.fn.name) with
  | error err =>
      exact .noText serialized
  | ok fnSource =>
      simp only [Except.mapError, bind, Except.bind]
      generalize
        buildEnvelope platform.runtime call.now none
          (call.opts.deadline.map .typed) (call.opts.deadlineMs.map .typed) =
            built at envelope
      cases envelope with
      | built deadline => exact .prepared deadline serialized
      | both => exact .noEnvelope .both
      | tooShort budget minimum => exact .noEnvelope (.tooShort budget minimum)

/-- What gives a plain call its options gives it numbers. -/
theorem areTyped_of_prepare
    {fnSource : String}
    {opts : DispatchOptions}
    (prepared : call.prepare platform options = .ok (fnSource, opts)) :
    AreTyped opts := by
  have outcome := @prepareCase platform options call
  rw [prepared] at outcome
  cases outcome with
  | prepared deadline _ =>
      refine ⟨fun value member => ?_, fun value member => ?_⟩
      · unfold dispatchOptions at member
        cases given : call.opts.timeout <;>
          cases fallback : options.timeout <;>
          simp [given, fallback, nullish] at member
        all_goals exact ⟨_, member.symm⟩
      · simp only [dispatchOptions] at member
        split at member
        · exact ⟨deadline, (Option.some.inj member).symm⟩
        · cases member

/-- A dispatch goes by the answer of the object in its value only. -/
theorem dispatch_map
    {Value : Type}
    (opts : DispatchOptions)
    (answer : Value) :
    (call.dispatch platform opts answer).made.length =
        (call.dispatch platform opts ()).made.length ∧
      (call.dispatch platform opts answer).ended =
        (call.dispatch platform opts ()).ended.map fun _ => answer := by
  have same :
      (call.attempt.reading opts (call.sent platform answer) :
          AttemptReading platform.runtime opts Value) =
        (call.attempt.reading opts (call.sent platform ())).map
          fun _ => answer := by
    have replaced :
        call.sent platform answer =
          (call.sent platform ()).map fun _ => answer := by
      unfold sent
      split <;> rfl
    simp only [ActorAttempt.reading, AttemptReading.map, replaced,
      ActorAttempt.winner_map]
  unfold dispatch
  rw [same]
  exact dispatchWithResilience_map _ [_]

/-- The race of an attempt comes to the answer if nothing comes before it. -/
theorem withRaces_reading_iff
    {opts : DispatchOptions}
    (typed : AreTyped opts) :
    (call.attempt.reading opts (call.sent platform ()) :
          AttemptReading platform.runtime opts Unit).withRaces =
        .ok () ↔
      platform.sendsArguments call.args = true ∧
        (opts.deadlineArmed platform.runtime = some true →
          call.attempt.expired = false) ∧
        ∀ loss,
          call.attempt.first = some loss →
          opts.armed platform.runtime (loss.winner : RaceWinner Unit) =
            false := by
  obtain ⟨timeout, timeoutKnown⟩ :=
    Option.isSome_iff_exists.mp
      (isSome_truthyPositive platform.runtime.numerics typed.timeout)
  obtain ⟨deadline, deadlineKnown⟩ :=
    Option.isSome_iff_exists.mp
      (isSome_truthyPositive platform.runtime.numerics typed.deadline)
  have timeoutArmed : opts.timeoutArmed platform.runtime = some timeout :=
    timeoutKnown
  have deadlineArmed : opts.deadlineArmed platform.runtime = some deadline :=
    deadlineKnown
  unfold AttemptReading.withRaces AttemptReading.decidedBy
  simp only [timeoutArmed, deadlineArmed, Option.some.injEq,
    ActorAttempt.reading, ActorAttempt.winner]
  cases late : (decide (deadline = true) && call.attempt.expired) with
  | true =>
      have behind : deadline = true ∧ call.attempt.expired = true := by
        simpa using late
      simp only [↓reduceIte, behind, reduceCtorEq, imp_false, not_true_eq_false,
        false_and, and_false, iff_false]
      intro resolved
      split at resolved <;> cases resolved
  | false =>
      have inTime : deadline = true → call.attempt.expired = false := by
        simpa using late
      simp only [Bool.false_eq_true, ↓reduceIte, iff_true_intro inTime,
        true_and]
      cases call.attempt.first with
      | none =>
          unfold sent
          simp
      | some loss =>
          simp only [Option.some.injEq, forall_eq']
          cases armed :
              opts.armed platform.runtime
                (loss.winner : RaceWinner Unit) with
          | false =>
              unfold sent
              simp
          | true =>
              simp only [↓reduceIte, Bool.true_eq_false, and_false, iff_false]
              cases loss with
              | deadline =>
                  intro resolved
                  simp only [RaceLoss.winner] at resolved
                  split at resolved <;> cases resolved
              | timeout | cancel =>
                  intro resolved
                  cases resolved

/-- A prepared call comes to the answer of the object exactly if it is plain. -/
theorem resolved_dispatch_iff
    {fnSource : String}
    {opts : DispatchOptions}
    (prepared : call.prepare platform options = .ok (fnSource, opts)) :
    (call.dispatch platform opts ()).ended = .resolved () ↔
      call.IsPlain platform options fnSource opts := by
  have silent :
      (call.attempt.reading opts (call.sent platform ()) :
            AttemptReading platform.runtime opts Unit).fires =
          none ↔
        (opts.cancel = true → call.attempt.fired = none) := by
    simp only [ActorAttempt.reading]
    split <;> simp_all
  unfold dispatch
  rw [resolved_singleton_iff,
    withRaces_reading_iff (areTyped_of_prepare prepared), silent]
  constructor
  · rintro ⟨allowed, silent, sendable, inTime, first⟩
    exact ⟨prepared, sendable, ⟨allowed, silent, inTime, first⟩⟩
  · rintro ⟨-, sendable, ⟨allowed, silent, inTime, first⟩⟩
    exact ⟨allowed, silent, sendable, inTime, first⟩

/-- The text of a prepared call is the one that the serializer gives. -/
theorem serialized_of_prepare
    {fnSource : String}
    {opts : DispatchOptions}
    (prepared : call.prepare platform options = .ok (fnSource, opts)) :
    serializeFunction (.function call.fn.source call.fn.name) =
      .ok fnSource := by
  have outcome := @prepareCase platform options call
  rw [prepared] at outcome
  cases outcome with
  | prepared _ serialized => exact serialized

/-- A plain call is not refused. -/
theorem IsPlain.refusal
    {fnSource : String}
    {opts : DispatchOptions}
    (plain : call.IsPlain platform options fnSource opts) :
    call.refusal platform options = none := by
  unfold SubmitCall.refusal
  rw [plain.prepared]
  dsimp only
  rw [(resolved_dispatch_iff plain.prepared).mpr plain]
  rfl

end SubmitCall

/-! ## Errors that are never the same -/

/-- No error of the library is called as the runtime calls its own. -/
theorem ErrorClass.caught_ne_dataCloneError
    (cls : ErrorClass)
    (message : String) :
    cls.caught ≠ .error "DataCloneError" message := by
  intro same
  have named := (Caught.error.inj same).1
  cases cls <;> exact absurd named (of_decide_eq_true rfl)

/-- No marker stands for a value that is too large. -/
theorem name_markedClass_ne
    (globals : MarshalGlobals)
    (name message : String)
    (stack : Option String) :
    (markedClass globals name message stack).name ≠ "ReturnTooLargeError" := by
  unfold markedClass
  dsimp only
  repeat' split
  all_goals exact of_decide_eq_true rfl

/-- The class for what cannot be serialized has the message it stands for. -/
theorem message_markedClass
    {globals : MarshalGlobals}
    {name message : String}
    {stack : Option String}
    (named :
      (markedClass globals name message stack).name = "SerializationError") :
    (markedClass globals name message stack).message = message := by
  generalize marked : markedClass globals name message stack = cls at named ⊢
  unfold markedClass at marked
  dsimp only at marked
  repeat' split at marked
  all_goals
    subst marked
    first
    | exact absurd named (of_decide_eq_true rfl)
    | rfl

/-- The text about the stubs is not taken for one about serialization. -/
theorem name_markedClass_stub_ne
    {globals : MarshalGlobals}
    {name : String}
    {stack : Option String}
    (otherName : name ≠ "DataCloneError") :
    (markedClass globals name rpcStubMessage stack).name ≠
      "SerializationError" := by
  have unmarked :
      (includes (toLowerCase rpcStubMessage) "could not be cloned" ||
        includes (toLowerCase rpcStubMessage) "could not be serialized" ||
        includes (toLowerCase rpcStubMessage) "cannot be cloned" ||
        includes (toLowerCase rpcStubMessage) "not serializable") = false := by
    decide
  have unnamed :
      (name = "DataCloneError" ||
        includes (toLowerCase rpcStubMessage) "could not be cloned" ||
        includes (toLowerCase rpcStubMessage) "could not be serialized" ||
        includes (toLowerCase rpcStubMessage) "cannot be cloned" ||
        includes (toLowerCase rpcStubMessage) "not serializable") = false := by
    simpa [otherName] using unmarked
  unfold markedClass
  dsimp only
  simp only [unnamed]
  repeat' split
  all_goals first
    | exact of_decide_eq_true rfl
    | contradiction

/-- An error about what a function leaves, as it is thrown by the fake. -/
inductive Caught.IsReturnError : Caught → Prop where
  | dataClone (message : String) :
      IsReturnError (.error "DataCloneError" message)
  | stub : IsReturnError (ErrorClass.serializationError rpcStubMessage).caught
  | tooLarge (bytes : JsonValues.JsonNumber) :
      IsReturnError (ErrorClass.returnTooLargeError bytes).caught

/-- What the names and the messages of these errors are. -/
theorem Caught.IsReturnError.named
    {name message : String}
    (isReturnError : IsReturnError (.error name message)) :
    name = "DataCloneError" ∨ name = "ReturnTooLargeError" ∨
      (name = "SerializationError" ∧ message = rpcStubMessage) := by
  generalize shown : Caught.error name message = caught at isReturnError
  cases isReturnError with
  | dataClone => exact .inl (Caught.error.inj shown).1
  | stub => exact .inr (.inr (Caught.error.inj shown))
  | tooLarge => exact .inr (.inl (Caught.error.inj shown).1)

/-- An error of another name is no such error. -/
theorem not_isReturnError_of_name
    {name message : String}
    (other :
      name ∉
        ["DataCloneError", "ReturnTooLargeError", "SerializationError"]) :
    ¬ (Caught.error name message).IsReturnError := by
  intro isReturnError
  rcases isReturnError.named with rfl | rfl | ⟨rfl, -⟩ <;>
    exact other (by decide)

/-- What a marker stands for is no such error. -/
theorem not_isReturnError_marked
    {globals : MarshalGlobals}
    {name message : String}
    {stack : Option String}
    (foreign : name = "DataCloneError" → message ≠ rpcStubMessage) :
    ¬ (markedClass globals name message stack).caught.IsReturnError := by
  intro isReturnError
  rcases isReturnError.named with named | named | ⟨named, texts⟩
  · exact
      ErrorClass.caught_ne_dataCloneError _ _
        (congrArg (Caught.error · _) named)
  · exact name_markedClass_ne _ _ _ _ named
  · have same : message = rpcStubMessage :=
      (message_markedClass named).symm.trans texts
    subst same
    exact
      name_markedClass_stub_ne
        (fun dataClone => foreign dataClone rfl) named

/-- An error of the library, as it is caught. -/
def ParallelError.caught (err : ParallelError) : Caught :=
  .error err.name err.message

section Dispatch

variable {runtime : DispatchRuntime}
variable {opts : DispatchOptions}
variable {Value : Type}

/-- The race itself rejects with no such error. -/
theorem not_isReturnError_of_withRaces
    {reading : AttemptReading runtime opts Value}
    {rawErr : Rejection}
    (task :
      ∀ err,
        reading.winner = .task (.error err) →
        ¬ (marshalError runtime.globals err).caught.IsReturnError)
    (raced : reading.withRaces = .error rawErr) :
    ¬ (marshalError runtime.globals rawErr).caught.IsReturnError := by
  have marked {name message : String} {stack : Option String}
      (other : name ≠ "DataCloneError") :
      ¬ (markedClass runtime.globals name message
          stack).caught.IsReturnError :=
    not_isReturnError_marked fun same => absurd same other
  unfold AttemptReading.withRaces at raced
  split at raced
  next =>
    cases decided : reading.decidedBy with
    | task outcome =>
        rw [decided] at raced
        have settled : reading.winner = .task outcome := by
          unfold AttemptReading.decidedBy at decided
          split at decided
          · cases decided
          · exact decided
        refine task rawErr ?_
        rw [settled]
        exact congrArg RaceWinner.task raced
    | timeout =>
        rw [decided] at raced
        cases raced
        exact not_isReturnError_of_name (of_decide_eq_true rfl)
    | deadline =>
        rw [decided] at raced
        dsimp only at raced
        split at raced
        · cases raced
          exact marked (of_decide_eq_true rfl)
        · cases raced
          exact marked (of_decide_eq_true rfl)
    | cancel reason =>
        rw [decided] at raced
        cases raced
        exact marked (of_decide_eq_true rfl)
  next =>
    cases raced
    exact marked (of_decide_eq_true rfl)

/-- Neither the last error of a loop nor what is said of its retries is one. -/
theorem not_isReturnError_of_thrownAfter
    {maxAttempts : JsDouble}
    {err : ParallelError}
    {caught : Caught}
    (other : ¬ err.caught.IsReturnError)
    (thrown :
      (thrownAfter maxAttempts (some err) : DispatchEnd Value).thrown?
          runtime.numerics =
        some caught) :
    ¬ caught.IsReturnError := by
  unfold thrownAfter at thrown
  dsimp only at thrown
  split at thrown
  · cases thrown
    exact not_isReturnError_of_name (of_decide_eq_true rfl)
  · cases thrown
    exact other

/-- Nor does a dispatch of one attempt end with one. -/
theorem not_isReturnError_of_dispatch
    {reading : AttemptReading runtime opts Value}
    {caught : Caught}
    (task :
      ∀ err,
        reading.winner = .task (.error err) →
        ¬ (marshalError runtime.globals err).caught.IsReturnError)
    (thrown :
      (dispatchWithResilience [reading]).ended.thrown? runtime.numerics =
        some caught) :
    ¬ caught.IsReturnError := by
  have nothing : ¬ (Caught.other "undefined").IsReturnError := nofun
  unfold dispatchWithResilience at thrown
  cases known : opts.maxAttempts runtime with
  | none =>
      rw [known] at thrown
      cases thrown
      exact not_isReturnError_of_name (of_decide_eq_true rfl)
  | some maxAttempts =>
      rw [known] at thrown
      dsimp only at thrown
      unfold dispatchLoop at thrown
      split at thrown
      · dsimp only at thrown
        cases fires : reading.fires with
        | some reason =>
            rw [fires] at thrown
            cases thrown
            exact not_isReturnError_of_name (of_decide_eq_true rfl)
        | none =>
            rw [fires] at thrown
            cases raced : reading.withRaces with
            | ok value =>
                rw [raced] at thrown
                cases thrown
            | error rawErr =>
                have own := not_isReturnError_of_withRaces task raced
                rw [raced] at thrown
                dsimp only at thrown
                split at thrown
                · cases thrown
                  exact own
                · unfold dispatchLoop at thrown
                  split at thrown
                  · split at thrown
                    · cases thrown
                      exact not_isReturnError_of_name (of_decide_eq_true rfl)
                    · cases thrown
                    · contradiction
                  · exact not_isReturnError_of_thrownAfter own thrown
      · cases thrown
        exact nothing

end Dispatch

/-- No text about a function is the one about the stubs. -/
theorem serializeFunction_message_ne
    {source name : String}
    {err : SerializationError}
    (refused : serializeFunction (.function source name) = .error err) :
    err.message ≠ rpcStubMessage := by
  intro same
  have heads := congrArg (·.toList.head?) same
  have asText (text : String) : toString text = text := rfl
  unfold serializeFunction at refused
  dsimp only at refused
  split at refused
  · cases refused
    simp [rpcStubMessage, asText] at heads
  · split at refused
    · cases refused
      simp [rpcStubMessage, asText] at heads
    · cases refused

namespace SubmitCall

variable {platform : ActorPlatform}
variable {options : ActorOptions platform}
variable {call : SubmitCall}

/-- The task rejects only if the arguments are not sent. -/
theorem error_of_winner
    {Value : Type}
    {opts : DispatchOptions}
    {answer : Value}
    {err : Rejection}
    (won :
      call.attempt.winner platform.runtime opts (call.sent platform answer) =
        .task (.error err)) :
    err =
      platform.nativeError "DataCloneError" platform.dataCloneMessage := by
  have settled : call.sent platform answer = .error err := by
    unfold ActorAttempt.winner at won
    split at won
    · exact RaceWinner.task.inj won
    · next loss first =>
        split at won
        · cases loss <;> cases won
        · exact RaceWinner.task.inj won
  unfold sent at settled
  split at settled
  · cases settled
  · exact (Except.error.inj settled).symm

/-- No call is refused with an error that the fake itself throws. -/
theorem not_isReturnError_of_refusal
    {caught : Caught}
    (refused : call.refusal platform options = some caught) :
    ¬ caught.IsReturnError := by
  unfold refusal at refused
  cases prepared : call.prepare platform options with
  | ok both =>
      obtain ⟨fnSource, opts⟩ := both
      rw [prepared] at refused
      refine not_isReturnError_of_dispatch (fun err won => ?_) refused
      cases error_of_winner won
      exact not_isReturnError_marked fun _ => platform.dataCloneMessage_ne
  | error err =>
      have outcome := @prepareCase platform options call
      rw [prepared] at refused outcome
      cases refused
      intro isReturnError
      cases outcome with
      | noText serialized =>
          rcases isReturnError.named with named | named | ⟨-, texts⟩
          · exact absurd named (of_decide_eq_true rfl)
          · exact absurd named (of_decide_eq_true rfl)
          · exact serializeFunction_message_ne serialized texts
      | noEnvelope envelope =>
          cases envelope with
          | both =>
              rcases isReturnError.named with named | named | ⟨-, texts⟩
              · exact absurd named (of_decide_eq_true rfl)
              · exact absurd named (of_decide_eq_true rfl)
              · exact absurd texts (of_decide_eq_true rfl)
          | tooShort =>
              exact
                not_isReturnError_of_name (of_decide_eq_true rfl)
                  isReturnError

end SubmitCall

end CloudflareParallel
