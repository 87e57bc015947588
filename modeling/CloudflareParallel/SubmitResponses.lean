import CloudflareParallel.ErrorWire
import CloudflareParallel.SubmittedSizes

namespace CloudflareParallel

open JsonValues

/-!
# What a submission is answered with

The rest of `submitCodeHandler`: the code is run, and its value or whatever
went wrong becomes a response.  A status of its own is on the wire of every
error, so the one that the handler proposes counts only where it is forced.
-/

/-! ## Responses -/

/-- The body of a response. -/
inductive ResponseBody where
  | text (content : String)
  | json (value : Json)

/-- `Response`, by its status and its body. -/
structure HttpResponse where
  status : Nat
  body : ResponseBody

/-- What the handler uses of the runtime. -/
structure ResponseRuntime (Value : Type) where
  /-- The stack of an error that is created, given its message. -/
  stackOf : String → Option String
  /-- `String(number)`. -/
  textOf : JsDouble → String
  /-- `statusOfError`; any will do, since every error has a status on the wire. -/
  statusOfError : Rejection → Nat
  /-- What `Response.json` writes for a value; nothing for `undefined`. -/
  toJson : Value → Except Rejection (Option Json)

/-- `httpStatus` on the wire. -/
def ErrorObject.httpStatus : ErrorObject ParallelError → Nat
  | .library err => err.httpStatus
  | .native _ => 500

namespace ResponseRuntime

variable {Value : Type}
variable (runtime : ResponseRuntime Value)

/-- `errorToWire` of what was thrown. -/
def wire (err : Rejection) : Json :=
  errorToWire (err.asError runtime.stackOf)

/-- `new Error(message)`. -/
def newError (message : String) : Rejection :=
  .error
    (.native
      { name := "Error"
        message := message
        stack := runtime.stackOf message })

/-- The wire form that an anonymous caller may see. -/
def sanitized (wire : Json) : Json :=
  .record
    [ ("name", wire.get? "name"),
      ("message", wire.get? "message"),
      ("code", wire.get? "code"),
      ("httpStatus", wire.get? "httpStatus") ]

/-- `jsonError`. -/
def jsonError
    (err : Rejection)
    (fallbackStatus : Nat)
    (forceStatus sanitize : Bool) : HttpResponse :=
  let wire := runtime.wire err
  let httpStatus := (err.asError runtime.stackOf).httpStatus
  { status :=
      if forceStatus then
        fallbackStatus
      else if httpStatus = 0 then
        fallbackStatus
      else
        httpStatus
    body :=
      .json
        (.record
          [ ("ok", some (.bool false)),
            ("error", some (if sanitize then sanitized wire else wire)) ]) }

/-- The answer to a body that is too large. -/
def bodyTooLarge (maxBytes : JsDouble) : HttpResponse where
  status := 413
  body := .text s!"Body exceeds {runtime.textOf maxBytes} bytes"

/-- The answer to a source that is too long. -/
def fnTooLong (maxFnSrc : JsDouble) : HttpResponse :=
  runtime.jsonError
    (runtime.newError s!"fn must be a string ≤ {runtime.textOf maxFnSrc} bytes")
    400 true false

/-- The answer to a request whose code is not run. -/
def refuse : StreamedRefusal → HttpResponse
  | .refused .methodNotAllowed =>
      { status := 405, body := .text "Method not allowed" }
  | .refused (.authFailed err) => runtime.jsonError err 401 false false
  | .refused .unauthorized =>
      { status := 401, body := .text "Unauthorized" }
  | .refused (.hookFailed err) => runtime.jsonError err 429 true false
  | .refused (.bodyTooLarge maxBytes) => runtime.bodyTooLarge (.ofNat maxBytes)
  | .refused (.badBody err) => runtime.jsonError err 400 true false
  | .refused .fnNotString =>
      runtime.jsonError (runtime.newError "body.fn must be a string") 400 false
        false
  | .refused (.fnTooLong maxFnSrc) => runtime.fnTooLong (.ofNat maxFnSrc)
  | .bodyTooLarge maxBytes => runtime.bodyTooLarge maxBytes
  | .fnTooLong maxFnSrc => runtime.fnTooLong maxFnSrc

/-- `submitSource` of the restricted pool, and its value as JSON. -/
def runToJson
    (submitSource : Submission → Except Rejection Value)
    (parsed : Submission) : Except Rejection (Option Json) :=
  match submitSource parsed with
  | .error err => .error err
  | .ok value => runtime.toJson value

/-- `submitCodeHandler` with the default parser and format. -/
def handle
    (parseJson : String → Except Rejection Json)
    (policy : StreamedPolicy)
    (submitSource : Submission → Except Rejection Value)
    (req : StreamedRequest) : HttpResponse :=
  match submitStream parseJson policy req with
  | .error refusal => runtime.refuse refusal
  | .ok parsed =>
      match runtime.runToJson submitSource parsed with
      | .ok value =>
          { status := 200
            body := .json (.record [("ok", some (.bool true)), ("value", value)]) }
      | .error err =>
          let sanitize := policy.auth.isNone
          runtime.jsonError err (runtime.statusOfError err) false sanitize

end ResponseRuntime

/-! ## Statuses -/

/-- The statuses of errors. -/
def errorStatuses : List Nat :=
  [400, 402, 409, 410, 413, 429, 499, 500, 502, 503, 504, 507]

theorem ErrorClass.httpStatus_mem (cls : ErrorClass) :
    cls.httpStatus ∈ errorStatuses := by
  cases cls <;> simp [ErrorClass.httpStatus, errorStatuses]

theorem ErrorObject.httpStatus_mem (err : ErrorObject ParallelError) :
    err.httpStatus ∈ errorStatuses := by
  cases err with
  | native => exact (by decide : 500 ∈ errorStatuses)
  | library err =>
      cases err with
      | classed cls => exact cls.httpStatus_mem
      | retryExhaustedError => exact (by decide : 503 ∈ errorStatuses)
      | aggregateExecutionError => exact (by decide : 500 ∈ errorStatuses)

/-- Every error has a status that says so, and none has 401. -/
theorem of_mem_errorStatuses :
    ∀ status ∈ errorStatuses, 400 ≤ status ∧ status ≠ 401 := by
  decide

/-! ## Which check refuses a request -/

/-- A step that may fail, and what comes after it. -/
theorem bind_eq_error_iff
    {Failure First Second : Type}
    {first : Except Failure First}
    {next : First → Except Failure Second}
    {failure : Failure} :
    first >>= next = .error failure ↔
      first = .error failure ∨
        ∃ value, first = .ok value ∧ next value = .error failure := by
  cases first with
  | error err => simp [bind, Except.bind]
  | ok value => simp [bind, Except.bind]

section Refusals

variable {parseJson : String → Except Rejection Json}
variable {policy : StreamedPolicy}
variable {req : StreamedRequest}

theorem checkAuth_eq_unauthorized_iff :
    policy.checkAuth req = .error (.refused .unauthorized) ↔
      ∃ auth, policy.auth = some auth ∧ auth req = .ok false := by
  unfold StreamedPolicy.checkAuth
  cases policy.auth with
  | none => simp
  | some auth =>
      dsimp only
      cases answer : auth req with
      | error err => simp [answer]
      | ok accepted => cases accepted <;> simp [answer]

/-- The checks after that of the sender do not answer so. -/
theorem not_unauthorized_later :
    policy.checkHook req ≠ .error (.refused .unauthorized) ∧
      policy.checkDeclared req ≠ .error (.refused .unauthorized) ∧
        policy.parseStream parseJson req ≠ .error (.refused .unauthorized) ∧
          ∀ parsed,
            policy.checkSource parsed ≠ .error (.refused .unauthorized) := by
  refine ⟨?_, ?_, ?_, fun parsed => ?_⟩
  · unfold StreamedPolicy.checkHook
    split
    · nofun
    · split <;> nofun
  · unfold StreamedPolicy.checkDeclared
    split <;> nofun
  · unfold StreamedPolicy.parseStream
    split
    · nofun
    · unfold parseBody
      split
      · nofun
      · nofun
      · split <;> nofun
  · unfold StreamedPolicy.checkSource
    split <;> nofun

/-- Who is unauthorized. -/
theorem submitStream_unauthorized_iff :
    submitStream parseJson policy req = .error (.refused .unauthorized) ↔
      req.method = "POST" ∧
        ∃ auth, policy.auth = some auth ∧ auth req = .ok false := by
  obtain ⟨hook, declared, read, source⟩ :=
    @not_unauthorized_later parseJson policy req
  unfold submitStream
  constructor
  · intro refused
    rcases bind_eq_error_iff.mp refused with method | ⟨_, method, rest⟩
    · unfold StreamedPolicy.checkMethod at method
      split at method <;> cases method
    refine ⟨checkMethod_eq_ok_iff.mp method, ?_⟩
    rcases bind_eq_error_iff.mp rest with auth | ⟨_, -, rest⟩
    · exact checkAuth_eq_unauthorized_iff.mp auth
    rcases bind_eq_error_iff.mp rest with failed | ⟨_, -, rest⟩
    · exact absurd failed hook
    rcases bind_eq_error_iff.mp rest with failed | ⟨_, -, rest⟩
    · exact absurd failed declared
    rcases bind_eq_error_iff.mp rest with failed | ⟨parsed, -, rest⟩
    · exact absurd failed read
    rcases bind_eq_error_iff.mp rest with failed | ⟨_, -, rest⟩
    · exact absurd failed (source parsed)
    · cases rest
  · rintro ⟨method, refused⟩
    rw [checkMethod_eq_ok_iff.mpr method,
      checkAuth_eq_unauthorized_iff.mpr refused]
    rfl

end Refusals

/-! ## Every response has the status of what happened -/

namespace ResponseRuntime

variable {Value : Type}
variable (runtime : ResponseRuntime Value)
variable {parseJson : String → Except Rejection Json}
variable {policy : StreamedPolicy}
variable {submitSource : Submission → Except Rejection Value}
variable {req : StreamedRequest}

/-- The proposed status counts only where it is forced. -/
theorem status_jsonError
    (err : Rejection)
    (fallbackStatus : Nat)
    (sanitize : Bool) :
    (runtime.jsonError err fallbackStatus true sanitize).status =
        fallbackStatus ∧
      (runtime.jsonError err fallbackStatus false sanitize).status =
        (err.asError runtime.stackOf).httpStatus := by
  have failed :=
    of_mem_errorStatuses _ (err.asError runtime.stackOf).httpStatus_mem
  refine ⟨rfl, if_neg fun none => ?_⟩
  rw [none] at failed
  exact absurd failed.1 (by decide)

/-- A refusal is no success, and says 401 for one reason only. -/
theorem status_refuse (refusal : StreamedRefusal) :
    400 ≤ (runtime.refuse refusal).status ∧
      ((runtime.refuse refusal).status = 401 ↔
        refusal = .refused .unauthorized) := by
  have ofError :
      ∀ err fallback,
        400 ≤ (runtime.jsonError err fallback false false).status ∧
          (runtime.jsonError err fallback false false).status ≠ 401 := by
    intro err fallback
    rw [(runtime.status_jsonError err fallback false).2]
    exact of_mem_errorStatuses _ (ErrorObject.httpStatus_mem _)
  cases refusal with
  | bodyTooLarge | fnTooLong =>
      simp [refuse, bodyTooLarge, fnTooLong, jsonError]
  | refused refusal =>
      cases refusal with
      | authFailed err =>
          exact ⟨(ofError err 401).1, iff_of_false (ofError err 401).2 nofun⟩
      | fnNotString =>
          exact ⟨(ofError _ 400).1, iff_of_false (ofError _ 400).2 nofun⟩
      | unauthorized => exact ⟨by simp [refuse], iff_of_true rfl rfl⟩
      | methodNotAllowed | hookFailed | bodyTooLarge | badBody | fnTooLong =>
          simp [refuse, ResponseRuntime.bodyTooLarge,
            ResponseRuntime.fnTooLong, jsonError]

/--
A response is a success exactly if the code has run and returned a value that
can be written, and 401 exactly if the policy says no; whatever is thrown, also
by the policy, has its own status, which is that of a failure and never 401.
-/
theorem handle_status :
    ((runtime.handle parseJson policy submitSource req).status = 200 ↔
        ∃ parsed value,
          submitStream parseJson policy req = .ok parsed ∧
            runtime.runToJson submitSource parsed = .ok value) ∧
      ((runtime.handle parseJson policy submitSource req).status = 401 ↔
          req.method = "POST" ∧
            ∃ auth, policy.auth = some auth ∧ auth req = .ok false) ∧
        ((runtime.handle parseJson policy submitSource req).status = 200 ∨
          400 ≤ (runtime.handle parseJson policy submitSource req).status) := by
  unfold handle
  rw [← @submitStream_unauthorized_iff parseJson]
  cases accepted : submitStream parseJson policy req with
  | error refusal =>
      obtain ⟨failed, unauthorized⟩ := runtime.status_refuse refusal
      dsimp only
      refine ⟨iff_of_false (by omega) ?_, ?_, .inr failed⟩
      · rintro ⟨parsed, value, isParsed, -⟩
        cases isParsed
      · rw [unauthorized, Except.error.injEq]
  | ok parsed =>
      dsimp only
      cases ran : runtime.runToJson submitSource parsed with
      | ok value =>
          have success : (200 : Nat) ≠ 401 := by decide
          exact
            ⟨iff_of_true rfl ⟨parsed, value, rfl, ran⟩,
              iff_of_false success nofun, .inl rfl⟩
      | error err =>
          dsimp only
          have status :=
            (runtime.status_jsonError err (runtime.statusOfError err)
              policy.auth.isNone).2
          have failed :=
            of_mem_errorStatuses _
              (err.asError runtime.stackOf).httpStatus_mem
          rw [← status] at failed
          refine
            ⟨iff_of_false (by omega) ?_, iff_of_false failed.2 nofun,
              .inr failed.1⟩
          rintro ⟨other, value, isParsed, isRun⟩
          cases isParsed
          rw [ran] at isRun
          cases isRun

/-! ## What a response discloses -/

/-- A wire form that tells more than what went wrong. -/
def TellsMore (wire : Json) : Prop :=
  (wire.get? "stack").isSome ∨
    (wire.get? "cause").isSome ∨
      (wire.get? "extra").isSome ∨ (wire.get? "originalName").isSome

/-- A response with such a wire form. -/
def Discloses (response : HttpResponse) : Prop :=
  ∃ value wire,
    response.body = .json value ∧
      value.get? "error" = some wire ∧ TellsMore wire

/-- The error in the answer to a request whose code is not run. -/
def refusalError? : StreamedRefusal → Option Rejection
  | .refused (.authFailed err) => some err
  | .refused (.hookFailed err) => some err
  | .refused (.badBody err) => some err
  | .refused .fnNotString => some (runtime.newError "body.fn must be a string")
  | .refused (.fnTooLong maxFnSrc) =>
      some
        (runtime.newError
          s!"fn must be a string ≤ {runtime.textOf (.ofNat maxFnSrc)} bytes")
  | .fnTooLong maxFnSrc =>
      some
        (runtime.newError
          s!"fn must be a string ≤ {runtime.textOf maxFnSrc} bytes")
  | .bodyTooLarge _ => none
  | .refused .methodNotAllowed => none
  | .refused .unauthorized => none
  | .refused (.bodyTooLarge _) => none

/-- What is sanitized tells no more. -/
theorem not_tellsMore_sanitized (wire : Json) :
    ¬ TellsMore (sanitized wire) := by
  simp [TellsMore, sanitized]

/-- An error is disclosed as it is, unless it is sanitized. -/
theorem discloses_jsonError_iff
    (err : Rejection)
    (fallbackStatus : Nat)
    (forceStatus sanitize : Bool) :
    Discloses (runtime.jsonError err fallbackStatus forceStatus sanitize) ↔
      sanitize = false ∧ TellsMore (runtime.wire err) := by
  unfold Discloses jsonError
  cases sanitize with
  | true =>
      refine iff_of_false ?_ nofun
      rintro ⟨value, wire, isBody, isError, tells⟩
      cases isBody
      simp only [Json.get?_record_cons, reduceIte, String.reduceEq,
        Option.some_or] at isError
      cases isError
      exact not_tellsMore_sanitized _ tells
  | false =>
      constructor
      · rintro ⟨value, wire, isBody, isError, tells⟩
        cases isBody
        simp only [Json.get?_record_cons, reduceIte, String.reduceEq,
          Bool.false_eq_true, Option.some_or] at isError
        cases isError
        exact ⟨rfl, tells⟩
      · rintro ⟨-, tells⟩
        exact ⟨_, runtime.wire err, rfl, by simp, tells⟩

/-- The error of a refusal is disclosed as it is. -/
theorem discloses_refuse_iff (refusal : StreamedRefusal) :
    Discloses (runtime.refuse refusal) ↔
      ∃ err,
        runtime.refusalError? refusal = some err ∧
          TellsMore (runtime.wire err) := by
  have noError :
      ∀ status text, ¬ Discloses { status := status, body := .text text } := by
    rintro status text ⟨value, wire, isBody, -⟩
    cases isBody
  have asItIs :
      ∀ err fallbackStatus forceStatus,
        Discloses (runtime.jsonError err fallbackStatus forceStatus false) ↔
          ∃ other, some err = some other ∧ TellsMore (runtime.wire other) := by
    intro err fallbackStatus forceStatus
    rw [discloses_jsonError_iff]
    simp
  cases refusal with
  | bodyTooLarge => exact iff_of_false (noError _ _) nofun
  | fnTooLong => exact asItIs _ _ _
  | refused refusal =>
      cases refusal with
      | methodNotAllowed | unauthorized | bodyTooLarge =>
          exact iff_of_false (noError _ _) nofun
      | authFailed | hookFailed | badBody | fnNotString | fnTooLong =>
          exact asItIs _ _ _

/--
A response discloses a stack, a cause or other parts of an error exactly if the
error is that of a check before the code is run, also for an anonymous caller,
or of the run under a policy that authenticates.
-/
theorem handle_discloses_iff :
    Discloses (runtime.handle parseJson policy submitSource req) ↔
      (∃ refusal err,
          submitStream parseJson policy req = .error refusal ∧
            runtime.refusalError? refusal = some err ∧
              TellsMore (runtime.wire err)) ∨
        (policy.auth.isSome ∧
          ∃ parsed err,
            submitStream parseJson policy req = .ok parsed ∧
              runtime.runToJson submitSource parsed = .error err ∧
                TellsMore (runtime.wire err)) := by
  unfold handle
  cases accepted : submitStream parseJson policy req with
  | error refusal =>
      dsimp only
      rw [discloses_refuse_iff]
      simp
  | ok parsed =>
      dsimp only
      cases ran : runtime.runToJson submitSource parsed with
      | ok value =>
          refine iff_of_false ?_ (by simp [ran])
          rintro ⟨body, wire, isBody, isError, -⟩
          cases isBody
          simp at isError
      | error err =>
          dsimp only
          rw [discloses_jsonError_iff]
          simp [ran]

end ResponseRuntime

end CloudflareParallel
