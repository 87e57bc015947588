import CloudflareParallel.BodyStreams
import CloudflareParallel.SubmittedCode

namespace CloudflareParallel

open JsonValues

/-!
# The size of submitted code

`submitCodeHandler` on a body that is a stream, with caps that are any numbers.
The body is measured in bytes and the source in units of UTF-16, while its cap
is one in bytes: a source of other letters than ASCII is longer than measured.
-/

/-! ## The handler over a stream -/

/-- What the handler reads of a request whose body is a stream. -/
structure StreamedRequest where
  method : String
  /-- `Number` of the `content-length` header. -/
  contentLength : Option JsDouble
  body : Option (List Chunk)

/-- `SubmitCodePolicy`, as far as the handler reads it before it submits. -/
structure StreamedPolicy where
  auth : Option (StreamedRequest → Except Rejection Bool) := none
  onSubmit : Option (StreamedRequest → Except Rejection Unit) := none
  maxBytes : Option JsDouble := none
  maxFnSourceBytes : Option JsDouble := none

/-- Why the handler answers without running anything. -/
inductive StreamedRefusal where
  | refused (refusal : SubmitRefusal)
  | bodyTooLarge (maxBytes : JsDouble)
  | fnTooLong (maxFnSrc : JsDouble)

namespace StreamedRequest

/-- All bytes of the body. -/
def bytes (req : StreamedRequest) : List UInt8 :=
  (chunksOf req.body).flatten

/-- The text of the body. -/
def text (req : StreamedRequest) : String :=
  Utf8Decoding.decode req.bytes

end StreamedRequest

namespace StreamedPolicy

/-- `policy.maxBytes ?? DEFAULT_MAX_BYTES`. -/
def bodyCap (policy : StreamedPolicy) : JsDouble :=
  policy.maxBytes.getD (.ofNat DEFAULT_MAX_BYTES)

/-- `policy.maxFnSourceBytes ?? DEFAULT_MAX_BYTES`. -/
def sourceCap (policy : StreamedPolicy) : JsDouble :=
  policy.maxFnSourceBytes.getD (.ofNat DEFAULT_MAX_BYTES)

end StreamedPolicy

/-- `Number.isFinite(n) && n > maxBytes`. -/
def declaredOver (maxBytes declared : JsDouble) : Bool :=
  match declared with
  | .finite value => maxBytes.lessThan (.finite value)
  | _ => false

/-- `parsed.fn.length > maxFnSrc`. -/
def sourceOver (maxFnSrc : JsDouble) (fn : String) : Bool :=
  maxFnSrc.lessThan (.ofNat (utf16Length fn))

namespace StreamedPolicy

/-- Only `POST` is allowed. -/
def checkMethod (req : StreamedRequest) : Except StreamedRefusal Unit :=
  if req.method ≠ "POST" then
    .error (.refused .methodNotAllowed)
  else
    .ok ()

/-- The request is authenticated, if the policy asks for it. -/
def checkAuth
    (policy : StreamedPolicy)
    (req : StreamedRequest) : Except StreamedRefusal Unit :=
  match policy.auth with
  | none => .ok ()
  | some auth =>
      match auth req with
      | .error err => .error (.refused (.authFailed err))
      | .ok true => .ok ()
      | .ok false => .error (.refused .unauthorized)

/-- The hook of the policy does not reject the request. -/
def checkHook
    (policy : StreamedPolicy)
    (req : StreamedRequest) : Except StreamedRefusal Unit :=
  match policy.onSubmit with
  | none => .ok ()
  | some onSubmit =>
      match onSubmit req with
      | .error err => .error (.refused (.hookFailed err))
      | .ok () => .ok ()

/-- The length that the request declares is within the cap. -/
def checkDeclared
    (policy : StreamedPolicy)
    (req : StreamedRequest) : Except StreamedRefusal Unit :=
  if req.contentLength.any (declaredOver policy.bodyCap) then
    .error (.bodyTooLarge policy.bodyCap)
  else
    .ok ()

/-- The default parser, on a body that it reads itself. -/
def parseStream
    (parseJson : String → Except Rejection Json)
    (policy : StreamedPolicy)
    (req : StreamedRequest) : Except StreamedRefusal Submission :=
  match readBodyBounded policy.bodyCap req.body with
  | none => .error (.bodyTooLarge policy.bodyCap)
  | some text => (parseBody parseJson text).mapError .refused

/-- The source, by the units of its text, is within the cap. -/
def checkSource
    (policy : StreamedPolicy)
    (parsed : Submission) : Except StreamedRefusal Unit :=
  if sourceOver policy.sourceCap parsed.fn then
    .error (.fnTooLong policy.sourceCap)
  else
    .ok ()

end StreamedPolicy

/-- `submitCodeHandler` with the default parser, up to the submission. -/
def submitStream
    (parseJson : String → Except Rejection Json)
    (policy : StreamedPolicy)
    (req : StreamedRequest) : Except StreamedRefusal Submission := do
  StreamedPolicy.checkMethod req
  policy.checkAuth req
  policy.checkHook req
  policy.checkDeclared req
  let parsed ← policy.parseStream parseJson req
  policy.checkSource parsed
  return parsed

/-! ## Requests whose code runs -/

/-- The request passes every check before its body is parsed. -/
structure StreamedPolicy.Admits
    (policy : StreamedPolicy)
    (req : StreamedRequest) : Prop where
  method : req.method = "POST"
  auth : ∀ auth, policy.auth = some auth → auth req = .ok true
  onSubmit : ∀ hook, policy.onSubmit = some hook → hook req = .ok ()
  declared : req.contentLength.any (declaredOver policy.bodyCap) = false
  read : readBodyBounded policy.bodyCap req.body = some req.text

section Checks

variable {policy : StreamedPolicy}
variable {req : StreamedRequest}

/-- Two steps that may fail succeed when both do. -/
theorem bind_eq_ok_iff
    {Failure First Second : Type}
    {first : Except Failure First}
    {next : First → Except Failure Second}
    {result : Second} :
    first >>= next = .ok result ↔
      ∃ value, first = .ok value ∧ next value = .ok result := by
  cases first with
  | error err => simp [bind, Except.bind]
  | ok value => simp [bind, Except.bind]

theorem checkMethod_eq_ok_iff :
    StreamedPolicy.checkMethod req = .ok () ↔ req.method = "POST" := by
  simp [StreamedPolicy.checkMethod]

theorem checkAuth_eq_ok_iff :
    policy.checkAuth req = .ok () ↔
      ∀ auth, policy.auth = some auth → auth req = .ok true := by
  unfold StreamedPolicy.checkAuth
  cases policy.auth with
  | none => simp
  | some auth =>
      dsimp only
      cases answer : auth req with
      | error err => simp [answer]
      | ok accepted => cases accepted <;> simp [answer]

theorem checkHook_eq_ok_iff :
    policy.checkHook req = .ok () ↔
      ∀ hook, policy.onSubmit = some hook → hook req = .ok () := by
  unfold StreamedPolicy.checkHook
  cases policy.onSubmit with
  | none => simp
  | some hook =>
      dsimp only
      cases answer : hook req with
      | error err => simp [answer]
      | ok => simp [answer]

theorem checkDeclared_eq_ok_iff :
    policy.checkDeclared req = .ok () ↔
      req.contentLength.any (declaredOver policy.bodyCap) = false := by
  simp [StreamedPolicy.checkDeclared]

theorem checkSource_eq_ok_iff
    {parsed : Submission} :
    policy.checkSource parsed = .ok () ↔
      sourceOver policy.sourceCap parsed.fn = false := by
  simp [StreamedPolicy.checkSource]

/-- The text of a body that is read is that of its bytes. -/
theorem text_of_readBodyBounded
    {maxBytes : JsDouble}
    {text : String}
    (read : readBodyBounded maxBytes req.body = some text) :
    text = req.text := by
  rw [readBodyBounded_eq] at read
  split at read
  · cases read
  · exact (Option.some.inj read).symm

/-- The parser reads the text of all bytes. -/
theorem parseStream_eq_ok_iff
    {parseJson : String → Except Rejection Json}
    {parsed : Submission} :
    policy.parseStream parseJson req = .ok parsed ↔
      readBodyBounded policy.bodyCap req.body = some req.text ∧
        parseBody parseJson req.text = .ok parsed := by
  unfold StreamedPolicy.parseStream
  cases read : readBodyBounded policy.bodyCap req.body with
  | none => simp
  | some text =>
      rw [text_of_readBodyBounded read]
      cases given : parseBody parseJson req.text <;>
        simp [Except.mapError, given]

/-- The code of a request runs if it is admitted, parsed and not too long. -/
theorem submitStream_eq_ok_iff
    {parseJson : String → Except Rejection Json}
    {parsed : Submission} :
    submitStream parseJson policy req = .ok parsed ↔
      policy.Admits req ∧
        parseBody parseJson req.text = .ok parsed ∧
          sourceOver policy.sourceCap parsed.fn = false := by
  unfold submitStream
  simp only [bind_eq_ok_iff]
  constructor
  · rintro ⟨_, method, _, auth, _, hook, _, declared, value, read, _, short,
      returned⟩
    cases returned
    have both := parseStream_eq_ok_iff.mp read
    exact
      ⟨{ method := checkMethod_eq_ok_iff.mp method
         auth := checkAuth_eq_ok_iff.mp auth
         onSubmit := checkHook_eq_ok_iff.mp hook
         declared := checkDeclared_eq_ok_iff.mp declared
         read := both.1 }, both.2, checkSource_eq_ok_iff.mp short⟩
  · rintro ⟨admitted, read, short⟩
    exact
      ⟨(), checkMethod_eq_ok_iff.mpr admitted.method,
        (), checkAuth_eq_ok_iff.mpr admitted.auth,
        (), checkHook_eq_ok_iff.mpr admitted.onSubmit,
        (), checkDeclared_eq_ok_iff.mpr admitted.declared,
        parsed, parseStream_eq_ok_iff.mpr ⟨admitted.read, read⟩,
        (), checkSource_eq_ok_iff.mpr short, rfl⟩

end Checks

/-! ## The handler over a decoded body -/

/-- The request with its body read and decoded. -/
def StreamedRequest.decoded (req : StreamedRequest) : SubmitRequest where
  method := req.method
  contentLength := req.contentLength
  body := req.text
  bodyBytes := req.bytes.length

/-- A policy with caps that are whole numbers. -/
def SubmitCodePolicy.streamed (policy : SubmitCodePolicy) : StreamedPolicy where
  auth := policy.auth.map fun auth req => auth req.decoded
  onSubmit := policy.onSubmit.map fun onSubmit req => onSubmit req.decoded
  maxBytes := policy.maxBytes.map .ofNat
  maxFnSourceBytes := policy.maxFnSourceBytes.map .ofNat

/-- The same refusal, with its cap as a number. -/
def SubmitRefusal.streamed : SubmitRefusal → StreamedRefusal
  | .bodyTooLarge maxBytes => .bodyTooLarge (.ofNat maxBytes)
  | .fnTooLong maxFnSrc => .fnTooLong (.ofNat maxFnSrc)
  | refusal => .refused refusal

/-- The handler over a decoded body, once the hooks are asked. -/
def SubmitCodePolicy.acceptBody
    (parseJson : String → Except Rejection Json)
    (policy : SubmitCodePolicy)
    (req : SubmitRequest) : Except SubmitRefusal Submission := do
  let maxBytes := policy.maxBytes.getD DEFAULT_MAX_BYTES
  let maxFnSrc := policy.maxFnSourceBytes.getD DEFAULT_MAX_BYTES
  if req.contentLength.any (exceeds · maxBytes) then
    throw (.bodyTooLarge maxBytes)
  if maxBytes < req.bodyBytes then
    throw (.bodyTooLarge maxBytes)
  let parsed ← parseBody parseJson req.body
  if maxFnSrc < utf16Length parsed.fn then
    throw (.fnTooLong maxFnSrc)
  return parsed

section Decoded

variable {policy : SubmitCodePolicy}
variable {req : StreamedRequest}

theorem bodyCap_streamed :
    policy.streamed.bodyCap =
      .ofNat (policy.maxBytes.getD DEFAULT_MAX_BYTES) := by
  unfold StreamedPolicy.bodyCap SubmitCodePolicy.streamed
  cases policy.maxBytes <;> rfl

theorem sourceCap_streamed :
    policy.streamed.sourceCap =
      .ofNat (policy.maxFnSourceBytes.getD DEFAULT_MAX_BYTES) := by
  unfold StreamedPolicy.sourceCap SubmitCodePolicy.streamed
  cases policy.maxFnSourceBytes <;> rfl

/-- Whole numbers are compared as such. -/
theorem ofNat_lessThan_ofNat
    (left right : Nat) :
    (JsDouble.ofNat left).lessThan (.ofNat right) = decide (left < right) := by
  simp [JsDouble.lessThan, JsDouble.ofNat]

/-- A declared length is compared with a whole cap. -/
theorem declaredOver_ofNat
    (maxBytes : Nat) :
    declaredOver (.ofNat maxBytes) = (exceeds · maxBytes) := by
  funext declared
  cases declared <;> rfl

/-- The parser refuses with no cap. -/
theorem streamed_of_parseBody
    {parseJson : String → Except Rejection Json}
    {body : String}
    {refusal : SubmitRefusal}
    (refused : parseBody parseJson body = .error refusal) :
    refusal.streamed = .refused refusal := by
  unfold parseBody at refused
  split at refused
  · cases refused
    rfl
  · cases refused
    rfl
  · split at refused
    · cases refused
    · cases refused
      rfl

/-- Under a whole cap a body is read when its bytes are within it. -/
theorem readBodyBounded_ofNat
    (maxBytes : Nat) :
    readBodyBounded (.ofNat maxBytes) req.body =
      if maxBytes < req.bytes.length then none else some req.text := by
  rw [readBodyBounded_eq, ofNat_lessThan_ofNat]
  change
    (if chunksOf req.body ≠ [] ∧ decide (maxBytes < req.bytes.length) = true
      then _ else some req.text) = _
  by_cases longer : maxBytes < req.bytes.length
  · have chunk : chunksOf req.body ≠ [] := by
      intro none
      rw [StreamedRequest.bytes, none] at longer
      exact Nat.not_lt_zero _ longer
    rw [if_pos ⟨chunk, decide_eq_true longer⟩, if_pos longer]
  · rw [if_neg fun both => longer (of_decide_eq_true both.2), if_neg longer]

/-- What comes after the hooks is the same. -/
theorem submitStream_afterHooks
    (parseJson : String → Except Rejection Json) :
    (do
      policy.streamed.checkDeclared req
      let parsed ← policy.streamed.parseStream parseJson req
      policy.streamed.checkSource parsed
      return parsed) =
      (policy.acceptBody parseJson req.decoded).mapError
        SubmitRefusal.streamed := by
  unfold StreamedPolicy.checkDeclared StreamedPolicy.parseStream
    StreamedPolicy.checkSource sourceOver SubmitCodePolicy.acceptBody
    StreamedRequest.decoded
  rw [bodyCap_streamed, sourceCap_streamed, declaredOver_ofNat,
    readBodyBounded_ofNat]
  generalize policy.maxBytes.getD DEFAULT_MAX_BYTES = maxBytes
  generalize policy.maxFnSourceBytes.getD DEFAULT_MAX_BYTES = maxFnSrc
  by_cases declared : req.contentLength.any (exceeds · maxBytes) = true
  · rw [if_pos declared, if_pos declared]
    rfl
  rw [if_neg declared, if_neg declared]
  by_cases longer : maxBytes < req.bytes.length
  · rw [if_pos longer]
    simp only [if_pos longer]
    rfl
  rw [if_neg longer]
  simp only [if_neg longer]
  cases given : parseBody parseJson req.text with
  | error refusal =>
      change Except.error (.refused refusal) = Except.error refusal.streamed
      rw [streamed_of_parseBody given]
  | ok parsed =>
      simp only [Except.mapError, bind, Except.bind, ofNat_lessThan_ofNat,
        decide_eq_true_eq]
      by_cases long : maxFnSrc < utf16Length parsed.fn
      · simp only [if_pos long]
        rfl
      · simp only [if_neg long]
        rfl

/-- The hook is asked about the decoded request. -/
theorem submitStream_afterAuth
    (parseJson : String → Except Rejection Json) :
    (do
      policy.streamed.checkHook req
      policy.streamed.checkDeclared req
      let parsed ← policy.streamed.parseStream parseJson req
      policy.streamed.checkSource parsed
      return parsed) =
      Except.mapError SubmitRefusal.streamed (do
        match policy.onSubmit with
        | none => pure ()
        | some onSubmit =>
            match onSubmit req.decoded with
            | .error err => throw (.hookFailed err)
            | .ok () => pure ()
        policy.acceptBody parseJson req.decoded) := by
  have rest := @submitStream_afterHooks policy req parseJson
  cases hook : policy.onSubmit with
  | none =>
      have passed : policy.streamed.checkHook req = .ok () := by
        simp [StreamedPolicy.checkHook, SubmitCodePolicy.streamed, hook]
      rw [passed]
      exact rest
  | some onSubmit =>
      cases answer : onSubmit req.decoded with
      | error err =>
          have failed :
              policy.streamed.checkHook req =
                .error (.refused (.hookFailed err)) := by
            simp [StreamedPolicy.checkHook, SubmitCodePolicy.streamed, hook,
              answer]
          rw [failed]
          simp only [answer]
          rfl
      | ok =>
          have passed : policy.streamed.checkHook req = .ok () := by
            simp [StreamedPolicy.checkHook, SubmitCodePolicy.streamed, hook,
              answer]
          rw [passed]
          simp only [answer]
          exact rest

/-- With whole caps, the handler is the one over the decoded body. -/
theorem submitStream_streamed
    (parseJson : String → Except Rejection Json) :
    submitStream parseJson policy.streamed req =
      (submitCodeHandler parseJson policy req.decoded).mapError
        SubmitRefusal.streamed := by
  have rest := @submitStream_afterAuth policy req parseJson
  unfold submitStream submitCodeHandler StreamedPolicy.checkMethod
  by_cases post : req.method ≠ "POST"
  · have decodedPost : req.decoded.method ≠ "POST" := post
    simp only [if_pos post, if_pos decodedPost]
    rfl
  have decodedPost : ¬ req.decoded.method ≠ "POST" := post
  simp only [if_neg post, if_neg decodedPost]
  cases authed : policy.auth with
  | none =>
      have passed : policy.streamed.checkAuth req = .ok () := by
        simp [StreamedPolicy.checkAuth, SubmitCodePolicy.streamed, authed]
      rw [passed]
      exact rest
  | some auth =>
      cases answer : auth req.decoded with
      | error err =>
          have failed :
              policy.streamed.checkAuth req =
                .error (.refused (.authFailed err)) := by
            simp [StreamedPolicy.checkAuth, SubmitCodePolicy.streamed, authed,
              answer]
          rw [failed]
          simp only [answer]
          rfl
      | ok accepted =>
          cases accepted with
          | false =>
              have failed :
                  policy.streamed.checkAuth req =
                    .error (.refused .unauthorized) := by
                simp [StreamedPolicy.checkAuth, SubmitCodePolicy.streamed,
                  authed, answer]
              rw [failed]
              simp only [answer]
              rfl
          | true =>
              have passed : policy.streamed.checkAuth req = .ok () := by
                simp [StreamedPolicy.checkAuth, SubmitCodePolicy.streamed,
                  authed, answer]
              rw [passed]
              simp only [answer]
              exact rest

end Decoded

/-! ## Sizes in bytes -/

/-- `<=` on numbers. -/
def JsDouble.atMost : JsDouble → JsDouble → Bool
  | .nan, _ => false
  | _, .nan => false
  | number, limit => !limit.lessThan number

/-- A whole number is at most what is a number and not below it. -/
theorem atMost_ofNat_iff
    (number : Nat)
    (limit : JsDouble) :
    (JsDouble.ofNat number).atMost limit = true ↔
      limit ≠ .nan ∧ limit.lessThan (.ofNat number) = false := by
  cases limit <;> simp [JsDouble.atMost, JsDouble.ofNat]

/-- The body and the source are no longer than their caps, in bytes. -/
structure WithinSizes
    (policy : StreamedPolicy)
    (req : StreamedRequest)
    (parsed : Submission) : Prop where
  body : (JsDouble.ofNat req.bytes.length).atMost policy.bodyCap = true
  source :
    (JsDouble.ofNat (Utf8Decoding.encode parsed.fn).length).atMost
        policy.sourceCap =
      true

/-- Code that runs is within the sizes. -/
def KeepsSizes
    (parseJson : String → Except Rejection Json)
    (policy : StreamedPolicy)
    (req : StreamedRequest) : Prop :=
  ∀ parsed,
    submitStream parseJson policy req = .ok parsed →
    WithinSizes policy req parsed

/-- A source that passes the cap by its units and exceeds it by its bytes. -/
def SourceSlips
    (maxFnSrc : JsDouble)
    (fn : String) : Prop :=
  sourceOver maxFnSrc fn = false ∧
    maxFnSrc.lessThan (.ofNat (Utf8Decoding.encode fn).length) = true

/--
The condition on an admitted request: its source is too long by its units, or
both caps are numbers and the source does not slip through.
-/
def MeasuresSource
    (parseJson : String → Except Rejection Json)
    (policy : StreamedPolicy)
    (req : StreamedRequest) : Prop :=
  ∀ parsed,
    policy.Admits req →
    parseBody parseJson req.text = .ok parsed →
    sourceOver policy.sourceCap parsed.fn = true ∨
      policy.bodyCap ≠ .nan ∧ policy.sourceCap ≠ .nan ∧
        ¬ SourceSlips policy.sourceCap parsed.fn

/-- A body that is parsed has a chunk, as an empty text is no JSON. -/
theorem chunksOf_ne_nil_of_parsed
    {parseJson : String → Except Rejection Json}
    (emptyText : ∀ value, parseJson "" ≠ .ok value)
    {req : StreamedRequest}
    {parsed : Submission}
    (given : parseBody parseJson req.text = .ok parsed) :
    chunksOf req.body ≠ [] := by
  intro none
  have empty : req.text = "" := by
    rw [StreamedRequest.text, StreamedRequest.bytes, none]
    rfl
  rw [empty, parseBody] at given
  cases value : parseJson "" with
  | error err =>
      rw [value] at given
      cases given
  | ok value' => exact emptyText value' value

/-- The body of an admitted request is not over its cap. -/
theorem body_within_of_admits
    {policy : StreamedPolicy}
    {req : StreamedRequest}
    (admitted : policy.Admits req)
    (chunk : chunksOf req.body ≠ []) :
    policy.bodyCap.lessThan (.ofNat req.bytes.length) = false := by
  have whole : ReadsWhole policy.bodyCap req.bytes req.body :=
    readsWhole_of_noticed (.inl chunk)
  refine Bool.eq_false_iff.mpr fun longer => ?_
  have refused := whole.refused.mpr longer
  rw [admitted.read] at refused
  cases refused

/--
Whatever runs is within both sizes in bytes exactly when no admitted request has
a source that slips through.  Under whole caps, what the handler does with the
chunks of a body is what it does with the text of the body.
-/
theorem keepsSizes_iff
    {parseJson : String → Except Rejection Json}
    (emptyText : ∀ value, parseJson "" ≠ .ok value)
    (policy : StreamedPolicy)
    (req : StreamedRequest) :
    (KeepsSizes parseJson policy req ↔
      MeasuresSource parseJson policy req) ∧
      ∀ whole : SubmitCodePolicy,
        policy = whole.streamed →
        submitStream parseJson policy req =
          (submitCodeHandler parseJson whole req.decoded).mapError
            SubmitRefusal.streamed := by
  refine ⟨⟨?_, ?_⟩, ?_⟩
  · intro keeps parsed admitted given
    cases short : sourceOver policy.sourceCap parsed.fn with
    | true => exact .inl rfl
    | false =>
        have within :=
          keeps parsed (submitStream_eq_ok_iff.mpr ⟨admitted, given, short⟩)
        have body := (atMost_ofNat_iff _ _).mp within.body
        have source := (atMost_ofNat_iff _ _).mp within.source
        refine .inr ⟨body.1, source.1, fun slips => ?_⟩
        exact Bool.false_ne_true (source.2.symm.trans slips.2)
  · intro measures parsed ran
    obtain ⟨admitted, given, short⟩ := submitStream_eq_ok_iff.mp ran
    have chunk := chunksOf_ne_nil_of_parsed emptyText given
    rcases measures parsed admitted given with
      longer | ⟨bodyNumber, sourceNumber, kept⟩
    · exact absurd (short.symm.trans longer) Bool.false_ne_true
    · have bytes :
          policy.sourceCap.lessThan
              (.ofNat (Utf8Decoding.encode parsed.fn).length) =
            false :=
        Bool.eq_false_iff.mpr fun long => kept ⟨short, long⟩
      exact
        { body :=
            (atMost_ofNat_iff _ _).mpr
              ⟨bodyNumber, body_within_of_admits admitted chunk⟩
          source := (atMost_ofNat_iff _ _).mpr ⟨sourceNumber, bytes⟩ }
  · rintro whole rfl
    exact submitStream_streamed parseJson

/-! ## A source with an accent -/

/-- A source of nine letters, one of them of two bytes. -/
def accentSource : String := "() => 'é'"

/-- The text of a body with the source. -/
def accentText : String := "\x7b\"fn\":\"() => 'é'\"\x7d"

/-- `JSON.parse`, as far as it reads the body. -/
def accentJson (text : String) : Except Rejection Json :=
  if text = accentText then
    .ok (.object [("fn", .string accentSource)])
  else
    .error
      (.error
        (.native
          { name := "SyntaxError"
            message := "Unexpected end of JSON input"
            stack := none }))

/-- A public policy with room for nine bytes of source. -/
def accentPolicy : StreamedPolicy where
  maxFnSourceBytes := some (.ofNat 9)

/-- The request with the body. -/
def accentRequest : StreamedRequest where
  method := "POST"
  contentLength := none
  body := some [Utf8Decoding.encode accentText]

/-- The code that runs. -/
def accentSubmission : Submission where
  fn := accentSource
  args := []
  options := none

/-- An empty text is no JSON. -/
theorem accentJson_empty
    (value : Json) :
    accentJson "" ≠ .ok value := by
  rw [accentJson, if_neg (by decide)]
  exact nofun

theorem keepsSizes_iff_accent :
    KeepsSizes accentJson accentPolicy accentRequest ↔
      MeasuresSource accentJson accentPolicy accentRequest :=
  (keepsSizes_iff accentJson_empty accentPolicy accentRequest).1

/-- The bytes of the body are read as its text. -/
theorem text_accentRequest : accentRequest.text = accentText := by
  unfold StreamedRequest.text StreamedRequest.bytes accentRequest
  rw [chunksOf, Option.getD_some, List.flatten_singleton]
  exact Utf8Decoding.decode_encode (by decide)

/-- The request passes every check before its body is parsed. -/
theorem admits_accentRequest : accentPolicy.Admits accentRequest where
  method := rfl
  auth := nofun
  onSubmit := nofun
  declared := rfl
  read := by
    rw [text_accentRequest]
    refine readBodyBounded_encode ?_ (by decide) (by decide)
    exact List.flatten_singleton

/-- Ten bytes of source run where nine are allowed. -/
theorem not_keepsSizes_accent :
    ¬ ∀ parseJson : String → Except Rejection Json,
        (∀ value, parseJson "" ≠ .ok value) →
        ∀ policy req, KeepsSizes parseJson policy req := by
  intro keeps
  have given :
      parseBody accentJson accentRequest.text = .ok accentSubmission := by
    rw [text_accentRequest]
    rfl
  have ran :
      submitStream accentJson accentPolicy accentRequest =
        .ok accentSubmission :=
    submitStream_eq_ok_iff.mpr ⟨admits_accentRequest, given, by decide⟩
  have within :=
    keeps accentJson accentJson_empty accentPolicy accentRequest _ ran
  have tooLong :
      (JsDouble.ofNat (Utf8Decoding.encode accentSource).length).atMost
          (.ofNat 9) =
        false := by
    decide
  exact Bool.false_ne_true (tooLong.symm.trans within.source)

end CloudflareParallel
