import CloudflareParallel.Library.ByteEncodings
import CloudflareParallel.Library.SegmentedNames
import CloudflareParallel.LoaderKeyOrder
import CloudflareParallel.SubmittedSizes
import Mathlib.Algebra.Order.Field.Rat

namespace CloudflareParallel

open ByteEncodings JsonValues

/-!
# Who may submit code

`bearerAuth` and `hmacAuth`, and the handler that asks them.  A signature is made
over a timestamp and the text of the whole body, which the verifier reads from a
clone; the handler reads the body once more, within its cap.
-/

/-! ## Texts -/

/--
`constantTimeEqual`: the comparison of the platform on UTF-8, or where there is
none a loop over the code units that collects what differs.
-/
def constantTimeEqual
    (timingSafeEqual : Option (List UInt8 → List UInt8 → Bool))
    (a b : String) : Bool :=
  if (codeUnits a).length ≠ (codeUnits b).length then
    false
  else
    match timingSafeEqual with
    | some equal =>
        let ab := Utf8Decoding.encode a
        let bb := Utf8Decoding.encode b
        if ab.length ≠ bb.length then false else equal ab bb
    | none =>
        ((codeUnits a).zip (codeUnits b)).foldl
            (fun mismatch pair => mismatch ||| (pair.1 ^^^ pair.2)) 0 =
          0

/-- The two digits of a byte. -/
def hexWord (byte : UInt8) : List Char :=
  let h := radixDigits 16 byte.toNat
  if h.length = 1 then '0' :: h else h

/-- `toHex`. -/
def toHex (bytes : List UInt8) : String :=
  String.ofList (bytes.flatMap hexWord)

/-- `encoding` of a signature. -/
inductive SignatureEncoding where
  | hex
  | base64
  deriving DecidableEq

/-- The text of a signature. -/
def SignatureEncoding.text : SignatureEncoding → List UInt8 → String
  | .hex => toHex
  | .base64 => ByteEncodings.base64

/-! ## Requests and verifiers -/

/-- What the handler and its verifier read of a request. -/
structure HttpRequest where
  method : String
  header : String → Option String
  body : Option (List Chunk)

/-- The request as the handler reads it. -/
def HttpRequest.stream
    (numerics : JsNumerics)
    (req : HttpRequest) : StreamedRequest where
  method := req.method
  contentLength := (req.header "content-length").map numerics.numberOf
  body := req.body

/-- `text()` of a clone of the request. -/
def HttpRequest.text (req : HttpRequest) : String :=
  Utf8Decoding.decode (chunksOf req.body).flatten

/-- What the recipes use of the platform. -/
structure AuthPlatform where
  numerics : JsNumerics
  /-- `crypto.subtle.timingSafeEqual`, where the runtime has it. -/
  timingSafeEqual : Option (List UInt8 → List UInt8 → Bool)
  /-- HMAC-SHA-256 with a key, on a message. -/
  sign : List UInt8 → List UInt8 → List UInt8

/-- `bearerAuth`; what it throws is the message of an `Error`. -/
def bearerAuth
    (platform : AuthPlatform)
    (secret : String) : Except String (HttpRequest → Bool) :=
  if (codeUnits secret).length < 16 then
    .error "bearerAuth: secret must be at least 16 characters"
  else
    .ok fun req =>
      constantTimeEqual platform.timingSafeEqual
        ((req.header "authorization").getD "") s!"Bearer {secret}"

/-- `HmacAuthOptions`. -/
structure HmacAuthOptions where
  secret : String
  signatureHeader : Option String := none
  timestampHeader : Option String := none
  ttlSeconds : Option JsDouble := none
  encoding : Option SignatureEncoding := none

/-- `Math.abs`. -/
def JsDouble.abs : JsDouble → JsDouble
  | .finite value => .finite |value|
  | .infinite _ => .infinite false
  | .nan => .nan

namespace HmacAuthOptions

variable (opts : HmacAuthOptions)

def sigHeader : String :=
  opts.signatureHeader.getD "x-cfp-signature"

def tsHeader : String :=
  opts.timestampHeader.getD "x-cfp-timestamp"

def ttl : JsDouble :=
  opts.ttlSeconds.getD (.ofNat 300)

/-- The message that is signed. -/
def message
    (platform : AuthPlatform)
    (ts : Rat)
    (body : String) : List UInt8 :=
  Utf8Decoding.encode
    (platform.numerics.textOf (.finite ts) ++ "\n" ++ body)

/-- The signature that is expected. -/
def expected
    (platform : AuthPlatform)
    (ts : Rat)
    (body : String) : String :=
  (opts.encoding.getD .hex).text
    (platform.sign (Utf8Decoding.encode opts.secret) (message platform ts body))

/-- The age of a timestamp, at a clock reading. -/
def ageSeconds
    (platform : AuthPlatform)
    (now : Int)
    (ts : Rat) : JsDouble :=
  (platform.numerics.round ((now / 1000 : Int) - ts)).abs

/-- The verifier that `hmacAuth` returns, at a clock reading. -/
def verify
    (platform : AuthPlatform)
    (now : Int)
    (req : HttpRequest) : Bool :=
  let provided := (req.header opts.sigHeader).getD ""
  let tsRaw := (req.header opts.tsHeader).getD ""
  if provided = "" || tsRaw = "" then
    false
  else
    match platform.numerics.numberOf tsRaw with
    | .finite ts =>
        if opts.ttl.lessThan (ageSeconds platform now ts) then
          false
        else
          constantTimeEqual platform.timingSafeEqual provided
            (opts.expected platform ts req.text)
    | _ => false

end HmacAuthOptions

/-- `hmacAuth`; what it throws is the message of an `Error`. -/
def hmacAuth
    (platform : AuthPlatform)
    (opts : HmacAuthOptions) : Except String (Int → HttpRequest → Bool) :=
  if (codeUnits opts.secret).length < 32 then
    .error "hmacAuth: secret must be at least 32 characters"
  else
    .ok (opts.verify platform)

/-- `submitCodeHandler` under a policy with this `auth`, up to the submission. -/
def submitAuthed
    (parseJson : String → Except Rejection Json)
    (numerics : JsNumerics)
    (policy : StreamedPolicy)
    (auth : HttpRequest → Bool)
    (req : HttpRequest) : Except StreamedRefusal Submission :=
  submitStream parseJson
    { policy with auth := some fun _ => .ok (auth req) } (req.stream numerics)

/-! ## Comparing texts -/

/-- What the code relies on: the platform compares bytes of one length. -/
def AuthPlatform.Compares (platform : AuthPlatform) : Prop :=
  ∀ equal,
    platform.timingSafeEqual = some equal →
    ∀ first second,
      first.length = second.length →
      (equal first second = true ↔ first = second)

/-- Different texts have different bytes. -/
theorem encode_injective
    {first second : String}
    (same : Utf8Decoding.encode first = Utf8Decoding.encode second) :
    first = second := by
  have letters := congrArg (Utf8Decoding.letters none) same
  rw [Utf8Decoding.letters_encode, Utf8Decoding.letters_encode] at letters
  exact String.toList_injective letters

/-- The two paths of the comparison agree, and decide equality. -/
theorem constantTimeEqual_iff
    {platform : AuthPlatform}
    (compares : platform.Compares)
    (a b : String) :
    constantTimeEqual platform.timingSafeEqual a b = true ↔ a = b := by
  unfold constantTimeEqual
  by_cases lengths : (codeUnits a).length = (codeUnits b).length
  · rw [if_neg (not_not_intro lengths)]
    cases native : platform.timingSafeEqual with
    | some equal =>
        dsimp only
        by_cases bytes :
            (Utf8Decoding.encode a).length = (Utf8Decoding.encode b).length
        · rw [if_neg (not_not_intro bytes), compares equal native _ _ bytes]
          exact ⟨encode_injective, congrArg Utf8Decoding.encode⟩
        · rw [if_pos bytes]
          constructor
          · nofun
          · rintro rfl
            exact absurd rfl bytes
    | none =>
        dsimp only
        rw [decide_eq_true_eq, foldl_or_xor_eq_zero_iff]
        constructor
        · rintro ⟨-, agree⟩
          refine codeUnits_injective (List.ext_getElem lengths ?_)
          intro index bound otherBound
          have inZip :
              ((codeUnits a)[index], (codeUnits b)[index]) ∈
                (codeUnits a).zip (codeUnits b) := by
            rw [← List.getElem_zip
              (h := by rw [List.length_zip]; exact lt_min bound otherBound)]
            exact List.getElem_mem _
          exact agree _ inZip
        · rintro rfl
          refine ⟨rfl, fun pair member => ?_⟩
          obtain ⟨index, bound, rfl⟩ := List.mem_iff_getElem.mp member
          rw [List.getElem_zip]
  · rw [if_pos lengths]
    constructor
    · nofun
    · rintro rfl
      exact absurd rfl lengths

/-! ## Signatures -/

/-- The value of two hexadecimal digits. -/
def hexValue : List Char → Nat
  | [high, low] =>
      (if high.toNat < 58 then high.toNat - 48 else high.toNat - 87) * 16 +
        (if low.toNat < 58 then low.toNat - 48 else low.toNat - 87)
  | _ => 0

set_option maxRecDepth 8000 in
/-- A byte is written as two digits that have its value. -/
theorem hexValue_hexWord :
    ∀ byte : Fin 256,
      (hexWord (UInt8.ofNat byte)).length = 2 ∧
        hexValue (hexWord (UInt8.ofNat byte)) = byte := by
  decide

/-- The digits of a byte are its own. -/
theorem hexWord_eq (byte : UInt8) :
    (hexWord byte).length = 2 ∧ hexValue (hexWord byte) = byte.toNat := by
  have digits := hexValue_hexWord ⟨byte.toNat, byte.toNat_lt⟩
  rwa [UInt8.ofNat_toNat] at digits

/-- Different bytes have different signature texts, in either encoding. -/
theorem SignatureEncoding.text_injective
    {encoding : SignatureEncoding}
    {first second : List UInt8}
    (same : encoding.text first = encoding.text second) :
    first = second := by
  cases encoding with
  | hex =>
      have injective :
          ∀ {byte other : UInt8},
            True → True → hexWord byte = hexWord other → byte = other := by
        intro byte other _ _ sameWord
        have values := congrArg hexValue sameWord
        rw [(hexWord_eq byte).2, (hexWord_eq other).2] at values
        exact UInt8.toNat_inj.mp values
      exact
        flatMap_injective_of_width (by decide)
          (fun {byte} _ => (hexWord_eq byte).1) injective (fun _ _ => trivial)
          (fun _ _ => trivial) (String.ofList_injective same)
  | base64 => exact base64_injective same

namespace HmacAuthOptions

variable {opts : HmacAuthOptions}
variable {platform : AuthPlatform}

/-- What the signature is made over: the texts of numbers tell them apart. -/
structure PrintsNumbers (numerics : JsNumerics) : Prop where
  oneLine :
    ∀ text ts,
      numerics.numberOf text = .finite ts →
      '\n' ∉ (numerics.textOf (.finite ts)).toList
  apart :
    ∀ text other ts ts',
      numerics.numberOf text = .finite ts →
      numerics.numberOf other = .finite ts' →
      numerics.textOf (.finite ts) = numerics.textOf (.finite ts') →
      ts = ts'

/-- The message tells the timestamp and the body. -/
theorem message_injective
    {text other : String}
    {ts ts' : Rat}
    {body body' : String}
    (prints : PrintsNumbers platform.numerics)
    (isNumber : platform.numerics.numberOf text = .finite ts)
    (isOther : platform.numerics.numberOf other = .finite ts')
    (same : message platform ts body = message platform ts' body') :
    ts = ts' ∧ body = body' := by
  have texts := congrArg String.toList (encode_injective same)
  simp only [String.toList_append] at texts
  rw [List.append_assoc, List.append_assoc] at texts
  obtain ⟨sameStamp, sameBody⟩ :=
    SegmentedNames.eq_and_eq_of_free_append_eq
      (prints.oneLine text ts isNumber) (prints.oneLine other ts' isOther) texts
  exact
    ⟨prints.apart text other ts ts' isNumber isOther
        (String.toList_injective sameStamp),
      String.toList_injective sameBody⟩

/-- The request is signed for a timestamp that is fresh at a clock reading. -/
structure IsSigned
    (opts : HmacAuthOptions)
    (platform : AuthPlatform)
    (now : Int)
    (req : HttpRequest)
    (ts : Rat) : Prop where
  timestamp :
    ∃ tsRaw,
      req.header opts.tsHeader = some tsRaw ∧
        tsRaw ≠ "" ∧ platform.numerics.numberOf tsRaw = .finite ts
  fresh : opts.ttl.lessThan (ageSeconds platform now ts) = false
  signature :
    req.header opts.sigHeader = some (opts.expected platform ts req.text)
  notEmpty : opts.expected platform ts req.text ≠ ""

/-- A text that is there and not empty. -/
theorem getD_ne_empty
    {header : Option String}
    (given : header.getD "" ≠ "") :
    header = some (header.getD "") := by
  cases header with
  | none => exact absurd rfl given
  | some text => rfl

/-- The verifier accepts exactly what is signed. -/
theorem verify_iff
    {now : Int}
    {req : HttpRequest}
    (compares : platform.Compares) :
    opts.verify platform now req = true ↔
      ∃ ts, opts.IsSigned platform now req ts := by
  unfold verify
  dsimp only
  by_cases missing :
      (req.header opts.sigHeader).getD "" = "" ∨
        (req.header opts.tsHeader).getD "" = ""
  · rw [if_pos (by simpa using missing)]
    constructor
    · nofun
    · rintro ⟨ts, signed⟩
      obtain ⟨tsRaw, header, given, -⟩ := signed.timestamp
      rcases missing with noSignature | noTimestamp
      · rw [signed.signature] at noSignature
        exact absurd noSignature signed.notEmpty
      · rw [header] at noTimestamp
        exact absurd noTimestamp given
  · rw [if_neg (by simpa using missing)]
    obtain ⟨hasSignature, hasTimestamp⟩ := not_or.mp missing
    have timestamp := getD_ne_empty hasTimestamp
    have signature := getD_ne_empty hasSignature
    generalize (req.header opts.tsHeader).getD "" = tsRaw at *
    generalize (req.header opts.sigHeader).getD "" = provided at *
    constructor
    · intro accepted
      split at accepted
      next ts isNumber =>
        split at accepted
        · cases accepted
        next fresh =>
          have same := (constantTimeEqual_iff compares _ _).mp accepted
          exact ⟨ts, {
            timestamp := ⟨tsRaw, timestamp, hasTimestamp, isNumber⟩
            fresh := Bool.eq_false_of_not_eq_true fresh
            signature := same ▸ signature
            notEmpty := same ▸ hasSignature
          }⟩
      next => cases accepted
    · rintro ⟨ts, signed⟩
      obtain ⟨text, header, -, isNumber⟩ := signed.timestamp
      rw [timestamp] at header
      cases header
      rw [isNumber]
      dsimp only
      rw [if_neg (Bool.eq_false_iff.mp signed.fresh),
        constantTimeEqual_iff compares]
      exact Option.some.inj (signature.symm.trans signed.signature)

end HmacAuthOptions

/-! ## Whose code runs -/

/-- A request passes every check of the handler but that of its sender. -/
structure StreamedPolicy.PassesOthers
    (policy : StreamedPolicy)
    (req : StreamedRequest) : Prop where
  method : req.method = "POST"
  onSubmit : ∀ hook, policy.onSubmit = some hook → hook req = .ok ()
  declared : req.contentLength.any (declaredOver policy.bodyCap) = false
  read : readBodyBounded policy.bodyCap req.body = some req.text

section Submissions

variable {platform : AuthPlatform}
variable {parseJson : String → Except Rejection Json}
variable {policy : StreamedPolicy}
variable {req : HttpRequest}
variable {parsed : Submission}

/-- The code of a request runs if its sender may submit it and all else is well. -/
theorem submitAuthed_eq_ok_iff
    {auth : HttpRequest → Bool} :
    submitAuthed parseJson platform.numerics policy auth req = .ok parsed ↔
      auth req = true ∧
        policy.PassesOthers (req.stream platform.numerics) ∧
          parseBody parseJson req.text = .ok parsed ∧
            sourceOver policy.sourceCap parsed.fn = false := by
  unfold submitAuthed
  rw [submitStream_eq_ok_iff]
  constructor
  · rintro ⟨admitted, parses, short⟩
    have accepted := admitted.auth _ rfl
    exact
      ⟨Except.ok.inj accepted,
        { method := admitted.method
          onSubmit := admitted.onSubmit
          declared := admitted.declared
          read := admitted.read }, parses, short⟩
  · rintro ⟨accepted, passes, parses, short⟩
    refine ⟨{
      method := passes.method
      auth := fun auth isAuth => ?_
      onSubmit := passes.onSubmit
      declared := passes.declared
      read := passes.read
    }, parses, short⟩
    cases isAuth
    exact congrArg Except.ok accepted

/--
Under `bearerAuth` code runs exactly if the request carries the secret and all
other checks pass, whichever way the platform compares texts.
-/
theorem submitted_with_bearer_iff
    {secret : String}
    {auth : HttpRequest → Bool}
    (compares : platform.Compares)
    (built : bearerAuth platform secret = .ok auth) :
    submitAuthed parseJson platform.numerics policy auth req = .ok parsed ↔
      req.header "authorization" = some s!"Bearer {secret}" ∧
        policy.PassesOthers (req.stream platform.numerics) ∧
          parseBody parseJson req.text = .ok parsed ∧
            sourceOver policy.sourceCap parsed.fn = false := by
  rw [submitAuthed_eq_ok_iff]
  refine and_congr_left' ?_
  unfold bearerAuth at built
  split at built
  · cases built
  · cases built
    rw [constantTimeEqual_iff compares]
    cases req.header "authorization" with
    | some text => simp
    | none =>
        have notEmpty : "" ≠ s!"Bearer {secret}" := by
          intro empty
          have letters := congrArg String.toList empty
          rw [String.toList_append] at letters
          exact absurd letters (List.cons_ne_nil _ _).symm
        simpa using notEmpty

/-- What `hmacAuth` lets pass is a signed request. -/
theorem hmacAuth_passes_iff
    {opts : HmacAuthOptions}
    {auth : Int → HttpRequest → Bool}
    {now : Int}
    (compares : platform.Compares)
    (built : hmacAuth platform opts = .ok auth) :
    auth now req = true ↔ ∃ ts, opts.IsSigned platform now req ts := by
  unfold hmacAuth at built
  split at built
  · cases built
  · cases built
    exact HmacAuthOptions.verify_iff compares

/--
Under `hmacAuth` code runs exactly if it is that of a signed body: the text that
the handler reads and parses, in whatever chunks it comes, is the one that the
signature is made over, with a fresh timestamp.
-/
theorem submitted_with_hmac_iff
    {opts : HmacAuthOptions}
    {auth : Int → HttpRequest → Bool}
    {now : Int}
    (compares : platform.Compares)
    (built : hmacAuth platform opts = .ok auth) :
    submitAuthed parseJson platform.numerics policy (auth now) req = .ok parsed ↔
      (∃ ts, opts.IsSigned platform now req ts) ∧
        policy.PassesOthers (req.stream platform.numerics) ∧
          parseBody parseJson req.text = .ok parsed ∧
            sourceOver policy.sourceCap parsed.fn = false := by
  rw [submitAuthed_eq_ok_iff, hmacAuth_passes_iff compares built]

/--
A signature that is used twice, at whatever times and under whatever texts of
its timestamp, runs the same code with the same arguments and options within
the life of one timestamp; or the two messages are a collision.
-/
theorem reused_signature_runs_same_code
    {opts : HmacAuthOptions}
    {auth : Int → HttpRequest → Bool}
    {now later : Int}
    {again : HttpRequest}
    {other : Submission}
    (compares : platform.Compares)
    (prints : HmacAuthOptions.PrintsNumbers platform.numerics)
    (built : hmacAuth platform opts = .ok auth)
    (ran :
      submitAuthed parseJson platform.numerics policy (auth now) req =
        .ok parsed)
    (ranAgain :
      submitAuthed parseJson platform.numerics policy (auth later) again =
        .ok other)
    (reused : again.header opts.sigHeader = req.header opts.sigHeader) :
    ∃ ts ts',
      opts.IsSigned platform now req ts ∧
        opts.IsSigned platform later again ts' ∧
          (ts = ts' ∧ req.text = again.text ∧ parsed = other ∨
            HmacAuthOptions.message platform ts req.text ≠
                HmacAuthOptions.message platform ts' again.text ∧
              platform.sign (Utf8Decoding.encode opts.secret)
                  (HmacAuthOptions.message platform ts req.text) =
                platform.sign (Utf8Decoding.encode opts.secret)
                  (HmacAuthOptions.message platform ts' again.text)) := by
  obtain ⟨passes, -, parses, -⟩ := submitAuthed_eq_ok_iff.mp ran
  obtain ⟨passesAgain, -, parsesAgain, -⟩ :=
    submitAuthed_eq_ok_iff.mp ranAgain
  obtain ⟨ts, signed⟩ := (hmacAuth_passes_iff compares built).mp passes
  obtain ⟨ts', signedAgain⟩ :=
    (hmacAuth_passes_iff compares built).mp passesAgain
  refine ⟨ts, ts', signed, signedAgain, ?_⟩
  have sameText :
      opts.expected platform ts req.text =
        opts.expected platform ts' again.text :=
    Option.some.inj
      (signed.signature.symm.trans (reused.symm.trans signedAgain.signature))
  have sameSignature := SignatureEncoding.text_injective sameText
  by_cases sameMessage :
      HmacAuthOptions.message platform ts req.text =
        HmacAuthOptions.message platform ts' again.text
  · obtain ⟨tsRaw, -, -, isNumber⟩ := signed.timestamp
    obtain ⟨otherRaw, -, -, isOther⟩ := signedAgain.timestamp
    obtain ⟨sameStamp, sameBody⟩ :=
      HmacAuthOptions.message_injective prints isNumber isOther sameMessage
    refine .inl ⟨sameStamp, sameBody, ?_⟩
    rw [← sameBody, parses] at parsesAgain
    exact Except.ok.inj parsesAgain
  · exact .inr ⟨sameMessage, sameSignature⟩

end Submissions

/-! ## A signature that is used twice -/

/-- A platform whose numbers are sixteen, which has two texts. -/
def sixteens : AuthPlatform where
  numerics := {
    numberOf := fun text =>
      if text = "16" ∨ text = "0x10" then .finite 16 else .nan
    round := .finite
    textOf := fun _ => "16"
  }
  timingSafeEqual := none
  sign := fun _ message => message.take 2

def signedOptions : HmacAuthOptions where
  secret := "0123456789abcdef0123456789abcdef"

/-- The body of a request for a function that is called `f`. -/
def namedBody : List UInt8 :=
  Utf8Decoding.encode "\x7b\"fn\":\"f\"\x7d"

/-- `JSON.parse` on that body. -/
def namedJson (text : String) : Except Rejection Json :=
  if text = "\x7b\"fn\":\"f\"\x7d" then
    .ok (.record [("fn", some (.string "f"))])
  else
    .error (.other "SyntaxError")

/-- A request that is signed for the time sixteen. -/
def signedRequest
    (tsRaw : String)
    (body : List Chunk) : HttpRequest where
  method := "POST"
  header := fun name =>
    if name = "x-cfp-signature" then
      some "3136"
    else if name = "x-cfp-timestamp" then
      some tsRaw
    else
      none
  body := some body

/-- The code that is called `f`, without arguments. -/
def namedSubmission : Submission where
  fn := "f"
  args := []
  options := none

theorem compares_sixteens : sixteens.Compares := by
  intro equal native
  cases native

theorem printsNumbers_sixteens :
    HmacAuthOptions.PrintsNumbers sixteens.numerics where
  oneLine := fun _ _ _ => (by decide : '\n' ∉ "16".toList)
  apart := by
    have only :
        ∀ text ts,
          sixteens.numerics.numberOf text = .finite ts → ts = 16 := by
      intro text ts isNumber
      dsimp only [sixteens] at isNumber
      split at isNumber
      · exact (JsDouble.finite.inj isNumber).symm
      · cases isNumber
    intro text other ts ts' isNumber isOther _
    rw [only text ts isNumber, only other ts' isOther]

section Reuse

variable {tsRaw : String}
variable {body : List Chunk}
variable {now : Int}

/-- The text of the body, in whatever chunks. -/
theorem text_signedRequest
    (whole : body.flatten = namedBody) :
    (signedRequest tsRaw body).text = "\x7b\"fn\":\"f\"\x7d" := by
  unfold HttpRequest.text signedRequest
  rw [chunksOf, Option.getD_some, whole]
  exact Utf8Decoding.decode_encode (by decide)

/-- The request is signed for sixteen seconds, under both texts. -/
theorem isSigned_signedRequest
    (isText : tsRaw = "16" ∨ tsRaw = "0x10")
    (whole : body.flatten = namedBody)
    (fresh :
      (JsDouble.ofNat 300).lessThan
          (HmacAuthOptions.ageSeconds sixteens now 16) =
        false) :
    signedOptions.IsSigned sixteens now (signedRequest tsRaw body) 16 := by
  have expected :
      signedOptions.expected sixteens 16 (signedRequest tsRaw body).text =
        "3136" := by
    rw [text_signedRequest whole]
    decide
  refine {
    timestamp := ⟨tsRaw, rfl, ?_, if_pos isText⟩
    fresh := fresh
    signature := by
      rw [expected]
      rfl
    notEmpty := by
      rw [expected]
      decide
  }
  rcases isText with rfl | rfl <;> decide

/-- Its code runs. -/
theorem runs_signedRequest
    (isText : tsRaw = "16" ∨ tsRaw = "0x10")
    (whole : body.flatten = namedBody)
    (fresh :
      (JsDouble.ofNat 300).lessThan
          (HmacAuthOptions.ageSeconds sixteens now 16) =
        false) :
    submitAuthed namedJson sixteens.numerics {}
        (signedOptions.verify sixteens now) (signedRequest tsRaw body) =
      .ok namedSubmission := by
  refine (submitAuthed_eq_ok_iff).mpr ⟨?_, ?_, ?_, by decide⟩
  · exact
      (HmacAuthOptions.verify_iff compares_sixteens).mpr
        ⟨16, isSigned_signedRequest isText whole fresh⟩
  · exact {
      method := rfl
      onSubmit := nofun
      declared := rfl
      read := by
        rw [readBodyBounded_eq]
        refine if_neg fun tooLarge => ?_
        have exceeds := tooLarge.2
        change
          (StreamedPolicy.bodyCap {}).lessThan (.ofNat body.flatten.length) =
            true at exceeds
        rw [whole] at exceeds
        revert exceeds
        decide
    }
  · rw [text_signedRequest whole]
    rfl

end Reuse

/-- The options make a verifier. -/
theorem hmacAuth_signedOptions :
    hmacAuth sixteens signedOptions = .ok (signedOptions.verify sixteens) :=
  if_neg (by decide)

/-- The timestamp is fresh when it is signed, and four seconds later. -/
theorem fresh_sixteen :
    (JsDouble.ofNat 300).lessThan
          (HmacAuthOptions.ageSeconds sixteens 16000 16) =
        false ∧
      (JsDouble.ofNat 300).lessThan
          (HmacAuthOptions.ageSeconds sixteens 20000 16) =
        false := by
  norm_num [HmacAuthOptions.ageSeconds, sixteens, JsDouble.abs, JsDouble.ofNat,
    JsDouble.lessThan]

/-- The code runs, and so it is signed. -/
theorem submitted_with_hmac_iff_signedRequest :
    ∃ ts,
      signedOptions.IsSigned sixteens 16000
        (signedRequest "16" [namedBody]) ts := by
  have ran :
      submitAuthed namedJson sixteens.numerics {}
          (signedOptions.verify sixteens 16000)
          (signedRequest "16" [namedBody]) =
        .ok namedSubmission :=
    runs_signedRequest (.inl rfl) List.flatten_singleton fresh_sixteen.1
  exact
    ((submitted_with_hmac_iff compares_sixteens hmacAuth_signedOptions).mp
      ran).1

/-- One signature, four seconds apart, under two texts of its timestamp. -/
theorem reused_signature_runs_same_code_signedRequest :
    ∃ ts ts',
      signedOptions.IsSigned sixteens 16000
          (signedRequest "16" [namedBody]) ts ∧
        signedOptions.IsSigned sixteens 20000
            (signedRequest "0x10" [namedBody.take 3, namedBody.drop 3]) ts' ∧
          ts = ts' := by
  have split : [namedBody.take 3, namedBody.drop 3].flatten = namedBody := by
    rw [List.flatten_cons, List.flatten_singleton, List.take_append_drop]
  have ran :
      submitAuthed namedJson sixteens.numerics {}
          (signedOptions.verify sixteens 16000)
          (signedRequest "16" [namedBody]) =
        .ok namedSubmission :=
    runs_signedRequest (.inl rfl) List.flatten_singleton fresh_sixteen.1
  have ranAgain :
      submitAuthed namedJson sixteens.numerics {}
          (signedOptions.verify sixteens 20000)
          (signedRequest "0x10" [namedBody.take 3, namedBody.drop 3]) =
        .ok namedSubmission :=
    runs_signedRequest (.inr rfl) split fresh_sixteen.2
  obtain ⟨ts, ts', signed, signedAgain, same | ⟨differ, -⟩⟩ :=
    reused_signature_runs_same_code compares_sixteens printsNumbers_sixteens
      hmacAuth_signedOptions ran ranAgain rfl
  · exact ⟨ts, ts', signed, signedAgain, same.1⟩
  · -- on this platform every timestamp has the same text
    refine absurd ?_ differ
    unfold HmacAuthOptions.message
    rw [text_signedRequest List.flatten_singleton, text_signedRequest split]
    rfl

/-- A request with a token of sixteen letters. -/
def bearerRequest : HttpRequest where
  method := "POST"
  header := fun name =>
    if name = "authorization" then some "Bearer 0123456789abcdef" else none
  body := some [namedBody]

/-- Its code runs if it is read within the cap. -/
theorem submitted_with_bearer_iff_bearerRequest :
    ∃ auth,
      bearerAuth sixteens "0123456789abcdef" = .ok auth ∧
        submitAuthed namedJson sixteens.numerics {} auth bearerRequest =
          .ok namedSubmission := by
  have built :
      bearerAuth sixteens "0123456789abcdef" =
        .ok fun req =>
          constantTimeEqual sixteens.timingSafeEqual
            ((req.header "authorization").getD "") "Bearer 0123456789abcdef" :=
    if_neg (by decide)
  refine ⟨_, built, ?_⟩
  have text : bearerRequest.text = "\x7b\"fn\":\"f\"\x7d" := by
    unfold HttpRequest.text bearerRequest
    rw [chunksOf, Option.getD_some, List.flatten_singleton]
    exact Utf8Decoding.decode_encode (by decide)
  refine
    (submitted_with_bearer_iff compares_sixteens built).mpr
      ⟨rfl, ?_, ?_, by decide⟩
  · exact {
      method := rfl
      onSubmit := by
        intro hook isHook
        cases isHook
      declared := rfl
      read := by
        rw [readBodyBounded_eq]
        exact if_neg fun tooLarge => absurd tooLarge.2 (by decide)
    }
  · rw [text]
    rfl

end CloudflareParallel
