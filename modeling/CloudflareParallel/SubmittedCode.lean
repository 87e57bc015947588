import CloudflareParallel.PoolBindings
import CloudflareParallel.ResilientDispatch
import CloudflareParallel.WorkerCode
import Mathlib.Data.Rat.Floor

namespace CloudflareParallel

open JsonValues

/-!
# Submitted code

The way of a request body through `submitCodeHandler` and `submitSource` to
`dispatchWithResilience`.  The body's `options` are taken as they are; each of
them goes before the pool's own.
-/

/-! ## The handler -/

/-- What the handler reads of a request; the body is decoded. -/
structure SubmitRequest where
  method : String
  /-- `Number` of the `content-length` header. -/
  contentLength : Option JsDouble
  body : String
  bodyBytes : Nat

/-- `SubmitCodePolicy`; without `auth` it is public. -/
structure SubmitCodePolicy where
  auth : Option (SubmitRequest → Except Rejection Bool)
  onSubmit : Option (SubmitRequest → Except Rejection Unit)
  allowBindings : Option (List String)
  maxBytes : Option Nat
  maxFnSourceBytes : Option Nat

/-- Why the handler answers without running anything. -/
inductive SubmitRefusal where
  | methodNotAllowed
  | authFailed (err : Rejection)
  | unauthorized
  | hookFailed (err : Rejection)
  | bodyTooLarge (maxBytes : Nat)
  | badBody (err : Rejection)
  | fnNotString
  | fnTooLong (maxFnSrc : Nat)

/-- The parsed body. -/
structure Submission where
  fn : String
  args : List Json
  options : Option Json

/-- `DEFAULT_MAX_BYTES`. -/
def DEFAULT_MAX_BYTES : Nat := 64 * 1024

/-- `text.length`: the units of a text in UTF-16. -/
def utf16Length (text : String) : Nat :=
  (text.toList.map fun letter => if letter.toNat < 65536 then 1 else 2).sum

/-- `Number.isFinite(n) && n > maxBytes`. -/
def exceeds (declared : JsDouble) (maxBytes : Nat) : Bool :=
  match declared with
  | .finite value => (maxBytes : Rat) < value
  | _ => false

/-- The default parser, on a body within its bound. -/
def parseBody
    (parseJson : String → Except Rejection Json)
    (body : String) : Except SubmitRefusal Submission :=
  match parseJson body with
  | .error err => .error (.badBody err)
  | .ok .null =>
      .error
        (.badBody
          (.error
            (.native
              { name := "TypeError"
                message := "Cannot read properties of null (reading 'fn')"
                stack := none })))
  | .ok value =>
      match value.get? "fn" with
      | some (.string fn) =>
          .ok
            { fn := fn
              args := ((value.get? "args").bind Json.asArray?).getD []
              options := value.get? "options" }
      | _ => .error .fnNotString

/-- `submitCodeHandler`, up to the submission; the pool's part comes after. -/
def submitCodeHandler
    (parseJson : String → Except Rejection Json)
    (policy : SubmitCodePolicy)
    (req : SubmitRequest) : Except SubmitRefusal Submission := do
  let maxBytes := policy.maxBytes.getD DEFAULT_MAX_BYTES
  let maxFnSrc := policy.maxFnSourceBytes.getD DEFAULT_MAX_BYTES
  if req.method ≠ "POST" then
    throw .methodNotAllowed
  match policy.auth with
  | none => pure ()
  | some auth =>
      match auth req with
      | .error err => throw (.authFailed err)
      | .ok true => pure ()
      | .ok false => throw .unauthorized
  match policy.onSubmit with
  | none => pure ()
  | some onSubmit =>
      match onSubmit req with
      | .error err => throw (.hookFailed err)
      | .ok () => pure ()
  if req.contentLength.any (exceeds · maxBytes) then
    throw (.bodyTooLarge maxBytes)
  if maxBytes < req.bodyBytes then
    throw (.bodyTooLarge maxBytes)
  let parsed ← parseBody parseJson req.body
  if maxFnSrc < utf16Length parsed.fn then
    throw (.fnTooLong maxFnSrc)
  return parsed

/-! ## The pool -/

/-- `PoolOptions`, as far as a submission reads them. -/
structure PoolOptions where
  timeout : Option JsDouble
  retries : Option JsDouble
  bindings : Option BindingDeclaration
  globalOutbound : GlobalOutbound

/-- `Pool.restrictTo`. -/
def PoolOptions.restrictTo
    (pool : PoolOptions)
    (allow : List String) : PoolOptions :=
  { pool with
    bindings := some (pickBindings (pool.bindings.getD .empty) allow) }

/-- `Pool.restrictForSubmittedCode`. -/
def PoolOptions.restrictForSubmittedCode
    (pool : PoolOptions)
    (allow : List String) : PoolOptions :=
  { pool with
    bindings := some (pickBindings (pool.bindings.getD .empty) allow)
    globalOutbound :=
      match pool.globalOutbound with
      | .absent => .blocked
      | explicit => explicit }

/-- `MIN_DEADLINE_BUDGET_MS`. -/
def MIN_DEADLINE_BUDGET_MS : Rat := 1000

/-- An option of the body; whatever is no object has none. -/
def submitOption
    (options : Option Json)
    (key : String) : Option OptionValue :=
  (options.bind (·.get? key)).map .unchecked

/--
`buildEnvelope` for a single submission: its `deadlineEpochMs`.  A token that
comes out of JSON has no `poll`.
-/
def buildEnvelope
    (runtime : DispatchRuntime)
    (now : Int)
    (cancel deadline deadlineMs : Option OptionValue) :
    Except Rejection OptionValue := do
  let thrown (cls : ErrorClass) : Rejection :=
    .error (.library (.ofClass runtime.globals.stackOf cls))
  let converted {α : Type} (value : Option α) : Except Rejection α :=
    match value with
    | some result => .ok result
    | none => .error (AttemptReading.typeError runtime)
  if deadline.isSome && deadlineMs.isSome then
    throw
      (thrown
        (.serializationError
          "Specify either \x60deadline\x60 or \x60deadlineMs\x60, not both"))
  let deadlineEpochMs ←
    match deadline, deadlineMs with
    | some value, _ => pure value
    | none, some value => converted (runtime.numerics.add now value)
    | none, none => pure (.typed (.finite 0))
  let number ← converted (runtime.numerics.toNumber deadlineEpochMs)
  if number.isPositive then
    let budget := runtime.numerics.plus (-now) number
    if budget.lessThan (.finite MIN_DEADLINE_BUDGET_MS) then
      throw
        (thrown
          (.deadlineTooShortError ⟨runtime.numerics.textOf budget⟩
            ⟨runtime.numerics.textOf (.finite MIN_DEADLINE_BUDGET_MS)⟩))
  match nullish cancel none with
  | none => pure deadlineEpochMs
  | some _ =>
      throw
        (AttemptReading.nativeError runtime "TypeError"
          "opts.cancel?.poll is not a function")

/-- What a dispatch passes to `buildEnvelope`, with the clock. -/
structure EnvelopeOptions where
  now : Int
  /-- Any other value than a token, which does as well as none. -/
  cancel : Option OptionValue := none
  deadline : Option OptionValue := none
  deadlineMs : Option OptionValue := none

/-- `buildEnvelope` with these options. -/
def EnvelopeOptions.build
    (opts : EnvelopeOptions)
    (runtime : DispatchRuntime) : Except Rejection OptionValue :=
  buildEnvelope runtime opts.now opts.cancel opts.deadline opts.deadlineMs

/-- `buildEnvelope` throws nothing but errors. -/
theorem EnvelopeOptions.isError_of_build
    {opts : EnvelopeOptions}
    {runtime : DispatchRuntime}
    {thrown : Rejection}
    (refused : opts.build runtime = .error thrown) :
    ∃ err, thrown = .error err := by
  have converted {α : Type} {value : Option α} {thrown : Rejection}
      (failed :
        (match value with
          | some result => Except.ok result
          | none => .error (AttemptReading.typeError runtime)) =
            Except.error thrown) :
      ∃ err, thrown = .error err := by
    cases value with
    | some result => cases failed
    | none =>
        cases failed
        exact ⟨_, rfl⟩
  unfold build buildEnvelope at refused
  simp only [bind, Except.bind, pure, Except.pure, throw, throwThe,
    MonadExceptOf.throw] at refused
  repeat' split at refused
  -- A step throws, or a conversion to a number has thrown before it.
  all_goals cases refused
  all_goals rename_i failed
  all_goals first | exact ⟨_, rfl⟩ | exact converted failed | cases failed

/-- What `buildEnvelope` makes of deadlines that are numbers. -/
inductive EnvelopeCase (runtime : DispatchRuntime) :
    Except Rejection OptionValue → Prop where
  | built (number : JsDouble) : EnvelopeCase runtime (.ok (.typed number))
  | both :
      EnvelopeCase runtime
        (.error
          (.error
            (.library
              (.ofClass runtime.globals.stackOf
                (.serializationError
                  "Specify either \x60deadline\x60 or \x60deadlineMs\x60, not both")))))
  | tooShort (budget minimum : JsonValues.JsonNumber) :
      EnvelopeCase runtime
        (.error
          (.error
            (.library
              (.ofClass runtime.globals.stackOf
                (.deadlineTooShortError budget minimum)))))

/-- Numbers are added and compared without an error. -/
theorem envelopeCase
    (runtime : DispatchRuntime)
    (now : Int)
    (deadline deadlineMs : Option JsDouble) :
    EnvelopeCase runtime
      (buildEnvelope runtime now none (deadline.map .typed)
        (deadlineMs.map .typed)) := by
  unfold buildEnvelope
  cases deadline <;> cases deadlineMs <;>
    simp only [Option.map, Option.isSome, Bool.and_true, Bool.and_false,
      Bool.false_eq_true, ↓reduceIte, bind, Except.bind, pure, Except.pure,
      nullish, JsNumerics.add, JsNumerics.toNumber, throw, throwThe,
      MonadExceptOf.throw]
  case some.some => exact .both
  all_goals
    split
    · split
      · exact .tooShort _ _
      · exact .built _
    · exact .built _

/-- What `#runOneSource` passes to `dispatchWithResilience`. -/
def runOneSourceOptions
    (runtime : DispatchRuntime)
    (pool : PoolOptions)
    (now : Int)
    (options : Option Json) : Except Rejection DispatchOptions := do
  let deadlineEpochMs ←
    buildEnvelope runtime now (submitOption options "cancel")
      (submitOption options "deadline") (submitOption options "deadlineMs")
  return {
    timeout :=
      nullish (submitOption options "timeout") (pool.timeout.map .typed)
    retries :=
      nullish (submitOption options "retries")
        (nullish (pool.retries.map .typed) (some (.typed (.finite 0))))
    cancel := false
    deadlineEpochMs :=
      if runtime.numerics.truthy deadlineEpochMs then
        some deadlineEpochMs
      else
        none }

end CloudflareParallel
