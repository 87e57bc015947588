import CloudflareParallel.RetryableErrors
import CloudflareParallel.SubmittedCode

namespace CloudflareParallel

open JsonValues

/-!
# The operator's limits on submitted code

How many attempts the loop can make is the ceiling of what `1 + retries` comes
to, and the timeout takes part in every race or in none.  With the values of the
body in place of the pool's, that decides which bodies are held to the limits.
-/

/-! ## Counting attempts -/

namespace JsDouble

/-- The whole numbers below a number, counted from zero. -/
def attemptCeiling : JsDouble → JsDouble
  | .finite value => .ofNat ⌈value⌉₊
  | .infinite false => .infinite false
  | .infinite true => .ofNat 0
  | .nan => .ofNat 0

/-- A run of attempts that a limit allows: every one is below it. -/
def Allows (limit : JsDouble) (count : Nat) : Prop :=
  ∀ attempt < count, (JsDouble.ofNat attempt).lessThan limit = true

/-- The attempts that a finite limit allows. -/
theorem allows_finite_iff
    (value : Rat)
    (count : Nat) :
    (JsDouble.finite value).Allows count ↔ count ≤ ⌈value⌉₊ := by
  unfold Allows
  simp only [ofNat, lessThan, decide_eq_true_eq]
  constructor
  · intro below
    rcases Nat.eq_zero_or_pos count with none | some
    · rw [none]
      exact Nat.zero_le _
    · have last := below (count - 1) (Nat.sub_one_lt_of_lt some)
      have bound := Nat.lt_ceil.mpr last
      omega
  · intro few attempt before
    exact Nat.lt_ceil.mp (Nat.lt_of_lt_of_le before few)

/-- A limit on all runs of attempts is one on their ceiling. -/
theorem forall_allows_iff
    (limit bound : JsDouble) :
    (∀ count, limit.Allows count → bound.lessThan (.ofNat count) = false) ↔
      bound.lessThan limit.attemptCeiling = false := by
  have never :
      (∀ attempt : Nat, (JsDouble.ofNat attempt).lessThan limit = false) →
      limit.attemptCeiling = .ofNat 0 →
      ((∀ count, limit.Allows count →
          bound.lessThan (.ofNat count) = false) ↔
        bound.lessThan limit.attemptCeiling = false) := by
    intro none ceiling
    rw [ceiling]
    constructor
    · intro held
      exact held 0 (fun _ before => absurd before (Nat.not_lt_zero _))
    · intro held count allowed
      rcases Nat.eq_zero_or_pos count with zero | some
      · exact zero ▸ held
      · have first := allowed 0 some
        rw [none 0] at first
        cases first
  cases limit with
  | finite value =>
      simp only [allows_finite_iff, attemptCeiling]
      constructor
      · intro held
        exact held _ (Nat.le_refl _)
      · intro held count few
        refine Bool.eq_false_iff.mpr fun below => ?_
        rw [lessThan_ofNat_mono below few] at held
        cases held
  | nan => exact never (fun _ => rfl) rfl
  | infinite negative =>
      cases negative with
      | true => exact never (fun _ => rfl) rfl
      | false =>
          constructor
          · intro held
            cases bound with
            | finite value =>
                obtain ⟨count, larger⟩ := exists_nat_gt value
                have below := held count fun _ _ => rfl
                simp only [ofNat, lessThan, decide_eq_false_iff_not] at below
                exact absurd larger below
            | infinite negative =>
                cases negative with
                | true => exact held 0 fun _ _ => rfl
                | false => rfl
            | nan => rfl
          · intro held count _
            cases bound with
            | finite value => cases held
            | infinite negative =>
                cases negative with
                | true => cases held
                | false => rfl
            | nan => rfl

end JsDouble

section Attempts

variable {runtime : DispatchRuntime}
variable {opts : DispatchOptions}
variable {Value : Type}
variable {maxAttempts : JsDouble}

/-- The loop makes the attempts that its limit allows at most. -/
theorem allowed_of_dispatchLoop
    (readings : List (AttemptReading runtime opts Value))
    (attempt : Nat)
    (token : Option (Option String))
    (lastError : Option ParallelError) :
    ∀ made < (dispatchLoop maxAttempts readings attempt token
        lastError).made.length,
      (JsDouble.ofNat (attempt + made)).lessThan maxAttempts = true := by
  induction readings generalizing attempt token lastError with
  | nil =>
      have none :
          (dispatchLoop maxAttempts [] attempt token lastError :
            DispatchRun runtime opts Value).made.length = 0 := by
        unfold dispatchLoop
        split
        · cases token <;> rfl
        · rfl
      intro made before
      rw [none] at before
      exact absurd before (Nat.not_lt_zero _)
  | cons reading rest inductionHypothesis =>
      intro made before
      generalize equal :
        dispatchLoop maxAttempts (reading :: rest) attempt token lastError =
          run at before
      cases equal ▸
        loopCase maxAttempts reading rest attempt token lastError with
      | spent | stopped => exact absurd before (Nat.not_lt_zero _)
      | resolved allowed | ends allowed =>
          rw [Nat.lt_one_iff.mp before]
          exact allowed
      | retries allowed _ _ later =>
          subst later
          cases made with
          | zero => exact allowed
          | succ made =>
              have below := inductionHypothesis (attempt + 1) _ _ made
                (Nat.lt_of_succ_lt_succ before)
              rwa [Nat.add_right_comm] at below

/-- The error of a platform that is busy. -/
def busyError : ParallelError :=
  .ofClass (fun _ => none) (.backpressureError "busy" ⟨"100"⟩)

/-- An attempt on a platform that is busy. -/
def busy : AttemptReading runtime opts Value where
  fires := none
  hasToken := nofun
  expired := false
  winner := .task (.error (.error (.library busyError)))
  takesPart := rfl

/-- The task decides the race on a busy platform. -/
theorem decidedBy_busy :
    (busy : AttemptReading runtime opts Value).decidedBy =
      .task (.error (.error (.library busyError))) := by
  unfold AttemptReading.decidedBy
  simp [busy]

/-- On a busy platform the loop makes every attempt that is allowed. -/
theorem length_dispatchLoop_busy
    {timeoutPositive deadlinePositive : Bool}
    (timeout : opts.timeoutArmed runtime = some timeoutPositive)
    (deadline : opts.deadlineArmed runtime = some deadlinePositive)
    (count attempt : Nat)
    (lastError : Option ParallelError)
    (allowed :
      ∀ made < count,
        (JsDouble.ofNat (attempt + made)).lessThan maxAttempts = true) :
    (dispatchLoop maxAttempts
        (List.replicate count (busy : AttemptReading runtime opts Value))
        attempt none lastError).made.length = count := by
  have raced :
      (busy : AttemptReading runtime opts Value).withRaces =
        .error (.error (.library busyError)) := by
    rw [AttemptReading.withRaces, timeout, deadline, decidedBy_busy]
  have idle :
      (busy : AttemptReading runtime opts Value).tokenAfter = none := by
    rw [AttemptReading.tokenAfter, timeout, deadline, decidedBy_busy]
  induction count generalizing attempt lastError with
  | zero =>
      unfold dispatchLoop
      split <;> rfl
  | succ count inductionHypothesis =>
      have first : (JsDouble.ofNat attempt).lessThan maxAttempts = true :=
        allowed 0 (Nat.succ_pos _)
      rw [List.replicate_succ, dispatchLoop_retries _ first rfl raced rfl,
        idle]
      refine congrArg (· + 1) (inductionHypothesis _ _ fun made before => ?_)
      have next := allowed (made + 1) (Nat.succ_lt_succ before)
      rwa [← Nat.add_assoc, Nat.add_right_comm] at next

/-- The limit of the loop: an attempt that throws by its limits is the last. -/
def DispatchOptions.attemptLimit
    (runtime : DispatchRuntime)
    (opts : DispatchOptions) : JsDouble :=
  match opts.maxAttempts runtime with
  | none => .ofNat 0
  | some maxAttempts =>
      match opts.timeoutArmed runtime, opts.deadlineArmed runtime with
      | some _, some _ => maxAttempts
      | _, _ =>
          if (JsDouble.ofNat 0).lessThan maxAttempts then
            .ofNat 1
          else
            .ofNat 0

/-- A limit that is a whole number. -/
theorem allows_ofNat_iff (limit count : Nat) :
    (JsDouble.ofNat limit).Allows count ↔ count ≤ limit := by
  rw [JsDouble.ofNat, JsDouble.allows_finite_iff, Nat.ceil_natCast]

/-- One attempt is allowed if the limit is above zero. -/
theorem allows_of_le_one
    {limit : JsDouble}
    {count : Nat}
    (first : (JsDouble.ofNat 0).lessThan limit = true)
    (few : count ≤ 1) :
    limit.Allows count := by
  intro attempt before
  have zero : attempt = 0 := by omega
  rw [zero]
  exact first

/-- A limit of one attempt or none. -/
theorem allows_single_iff
    (limit : JsDouble)
    (count : Nat) :
    (if (JsDouble.ofNat 0).lessThan limit then JsDouble.ofNat 1
        else JsDouble.ofNat 0).Allows count ↔
      count ≤ 1 ∧ limit.Allows count := by
  cases first : (JsDouble.ofNat 0).lessThan limit with
  | true =>
      rw [if_pos rfl, allows_ofNat_iff]
      exact
        ⟨fun few => ⟨few, allows_of_le_one first few⟩, fun both => both.1⟩
  | false =>
      rw [if_neg Bool.false_ne_true, allows_ofNat_iff]
      constructor
      · intro none
        rw [Nat.le_zero.mp none]
        exact
          ⟨Nat.zero_le _, fun _ before => absurd before (Nat.not_lt_zero _)⟩
      · rintro ⟨few, allowed⟩
        by_contra some
        have zeroth := allowed 0 (Nat.pos_of_ne_zero (by omega))
        rw [first] at zeroth
        cases zeroth

/-- Where a limit throws, every attempt does. -/
theorem withRaces_of_throws
    (throws :
      opts.timeoutArmed runtime = none ∨ opts.deadlineArmed runtime = none)
    (reading : AttemptReading runtime opts Value) :
    reading.withRaces = .error (AttemptReading.typeError runtime) := by
  unfold AttemptReading.withRaces
  rcases throws with timeout | deadline
  · rw [timeout]
  · rw [deadline]
    cases opts.timeoutArmed runtime <;> rfl

/-- Where a limit throws, the first attempt is the last. -/
theorem length_made_le_one
    (throws :
      opts.timeoutArmed runtime = none ∨ opts.deadlineArmed runtime = none)
    (readings : List (AttemptReading runtime opts Value)) :
    (dispatchLoop maxAttempts readings 0 none none).made.length ≤ 1 := by
  cases readings with
  | nil =>
      unfold dispatchLoop
      split <;> exact Nat.zero_le _
  | cons reading rest =>
      generalize equal :
        dispatchLoop maxAttempts (reading :: rest) 0 none none = run
      cases equal ▸ loopCase maxAttempts reading rest 0 none none with
      | spent | stopped => exact Nat.zero_le _
      | resolved | ends => exact Nat.le_refl _
      | retries _ raced retryable =>
          rw [withRaces_of_throws throws] at raced
          cases raced
          rw [isRetryable_typeError] at retryable
          cases retryable

/-- Where a limit throws, one attempt is made if any is allowed. -/
theorem length_made_of_throws
    (throws :
      opts.timeoutArmed runtime = none ∨ opts.deadlineArmed runtime = none)
    (first : (JsDouble.ofNat 0).lessThan maxAttempts = true) :
    (dispatchLoop maxAttempts [(busy : AttemptReading runtime opts Value)] 0
        none none).made.length =
      1 := by
  have quiet : (busy : AttemptReading runtime opts Value).fires = none := rfl
  rw [dispatchLoop, if_pos first]
  simp only [quiet, withRaces_of_throws throws, endsLoop_eq,
    isRetryable_typeError]
  rfl

/-- The numbers of attempts that a dispatch can make are those of its limit. -/
theorem exists_length_made_iff (count : Nat) :
    (∃ readings : List (AttemptReading runtime opts Value),
        (dispatchWithResilience readings).made.length = count) ↔
      (opts.attemptLimit runtime).Allows count := by
  unfold dispatchWithResilience DispatchOptions.attemptLimit
  cases opts.maxAttempts runtime with
  | none =>
      rw [allows_ofNat_iff, Nat.le_zero]
      exact ⟨fun ⟨_, same⟩ => same.symm, fun none => ⟨[], none.symm⟩⟩
  | some maxAttempts =>
      have allowed (readings : List (AttemptReading runtime opts Value)) :
          maxAttempts.Allows
            (dispatchLoop maxAttempts readings 0 none none).made.length := by
        intro attempt before
        have below := allowed_of_dispatchLoop readings 0 none none attempt before
        rwa [Nat.zero_add] at below
      have thrown
          (throws :
            opts.timeoutArmed runtime = none ∨
              opts.deadlineArmed runtime = none) :
          (∃ readings : List (AttemptReading runtime opts Value),
              (dispatchLoop maxAttempts readings 0 none none).made.length =
                count) ↔
            count ≤ 1 ∧ maxAttempts.Allows count := by
        constructor
        · rintro ⟨readings, rfl⟩
          exact ⟨length_made_le_one throws readings, allowed readings⟩
        · rintro ⟨few, each⟩
          rcases Nat.le_one_iff_eq_zero_or_eq_one.mp few with rfl | rfl
          · refine ⟨[], ?_⟩
            unfold dispatchLoop
            split <;> rfl
          · exact ⟨[busy], length_made_of_throws throws (each 0 Nat.one_pos)⟩
      cases timeout : opts.timeoutArmed runtime with
      | none =>
          rw [allows_single_iff]
          exact thrown (.inl timeout)
      | some timeoutPositive =>
          cases deadline : opts.deadlineArmed runtime with
          | none =>
              rw [allows_single_iff]
              exact thrown (.inr deadline)
          | some deadlinePositive =>
              constructor
              · rintro ⟨readings, rfl⟩
                exact allowed readings
              · intro each
                refine ⟨List.replicate count busy,
                  length_dispatchLoop_busy timeout deadline count 0 none
                    fun made before => ?_⟩
                rw [Nat.zero_add]
                exact each made before

end Attempts

/-! ## The ceilings of the operator -/

/-- An endpoint for submitted code: the handler over its pool. -/
structure SubmitEndpoint where
  runtime : DispatchRuntime
  parseJson : String → Except Rejection Json
  policy : SubmitCodePolicy
  pool : PoolOptions

namespace SubmitEndpoint

variable (endpoint : SubmitEndpoint)

/-- The pool that runs a submission. -/
def restrictedPool : PoolOptions :=
  endpoint.pool.restrictForSubmittedCode
    (endpoint.policy.allowBindings.getD [])

/-- The options of the dispatch that a request is accepted for. -/
def Dispatches
    (now : Int)
    (req : SubmitRequest)
    (submission : Submission)
    (opts : DispatchOptions) : Prop :=
  submitCodeHandler endpoint.parseJson endpoint.policy req = .ok submission ∧
    runOneSourceOptions endpoint.runtime endpoint.restrictedPool now
        submission.options =
      .ok opts

/-- `1 + retries` of the pool. -/
def maxAttempts : JsDouble :=
  match endpoint.pool.retries with
  | none => .finite 1
  | some retries => endpoint.runtime.numerics.plus 1 retries

end SubmitEndpoint

/-- Every race has a timeout that is positive and within the ceiling. -/
def DispatchOptions.RunsUnder
    (runtime : DispatchRuntime)
    (opts : DispatchOptions)
    (ceiling : JsDouble) : Prop :=
  opts.armed runtime (.timeout : RaceWinner RunOneResult) = true ∧
    ∃ ms,
      opts.timeout.bind runtime.numerics.toNumber = some ms ∧
        ms.isPositive = true ∧ ceiling.lessThan ms = false

/-- What the operator wants of a run. -/
structure SubmitEndpoint.HoldsRun
    (endpoint : SubmitEndpoint)
    {opts : DispatchOptions}
    (run : DispatchRun endpoint.runtime opts RunOneResult) : Prop where
  timeout :
    ∀ ceiling,
      endpoint.pool.timeout = some ceiling →
      ceiling.isPositive = true →
      run.made ≠ [] →
      opts.RunsUnder endpoint.runtime ceiling
  attempts : endpoint.maxAttempts.lessThan (.ofNat run.made.length) = false

/-- A request is held to the limits, in every run it is accepted for. -/
def SubmitEndpoint.HoldsRequest
    (endpoint : SubmitEndpoint)
    (now : Int)
    (req : SubmitRequest) : Prop :=
  ∀ submission opts,
    endpoint.Dispatches now req submission opts →
    ∀ readings : List (AttemptReading endpoint.runtime opts RunOneResult),
      endpoint.HoldsRun (dispatchWithResilience readings)

/-- A timeout of the body that is no looser than the pool's. -/
def KeepsTimeout
    (numerics : JsNumerics)
    (ceiling : JsDouble)
    (given : Option OptionValue) : Prop :=
  nullish given none = none ∨
    numerics.truthyPositive given = some true ∧
      ∃ ms,
        given.bind numerics.toNumber = some ms ∧ ceiling.lessThan ms = false

/--
The condition on the options of a body: unless they allow no attempt, the
timeout is left out or is no looser than the pool's; and the attempts that they
allow are no more than the pool's.
-/
structure SubmitEndpoint.MeetsLimits
    (endpoint : SubmitEndpoint)
    (submission : Submission)
    (opts : DispatchOptions) : Prop where
  timeout :
    ∀ ceiling,
      endpoint.pool.timeout = some ceiling →
      ceiling.isPositive = true →
      (JsDouble.ofNat 0).lessThan (opts.attemptLimit endpoint.runtime) = true →
      KeepsTimeout endpoint.runtime.numerics ceiling
        (submitOption submission.options "timeout")
  attempts :
    endpoint.maxAttempts.lessThan
        (opts.attemptLimit endpoint.runtime).attemptCeiling =
      false

/-! ## The options of a dispatch -/

/-- A dispatch has the body's timeout, or else the pool's. -/
theorem timeout_of_runOneSourceOptions
    {runtime : DispatchRuntime}
    {pool : PoolOptions}
    {now : Int}
    {options : Option Json}
    {opts : DispatchOptions}
    (accepted : runOneSourceOptions runtime pool now options = .ok opts) :
    opts.timeout =
      nullish (submitOption options "timeout") (pool.timeout.map .typed) := by
  unfold runOneSourceOptions at accepted
  cases built :
      buildEnvelope runtime now (submitOption options "cancel")
        (submitOption options "deadline")
        (submitOption options "deadlineMs") with
  | error err =>
      rw [built] at accepted
      cases accepted
  | ok deadline =>
      rw [built] at accepted
      cases accepted
      rfl

/-- The timeout takes part as the body's options have it. -/
theorem runsUnder_iff
    {endpoint : SubmitEndpoint}
    {now : Int}
    {req : SubmitRequest}
    {submission : Submission}
    {opts : DispatchOptions}
    (accepted : endpoint.Dispatches now req submission opts)
    {ceiling : JsDouble}
    (configured : endpoint.pool.timeout = some ceiling)
    (positive : ceiling.isPositive = true) :
    opts.RunsUnder endpoint.runtime ceiling ↔
      KeepsTimeout endpoint.runtime.numerics ceiling
        (submitOption submission.options "timeout") := by
  have merged :
      opts.timeout =
        nullish (submitOption submission.options "timeout")
          (some (.typed ceiling)) := by
    have taken := timeout_of_runOneSourceOptions accepted.2
    rwa [SubmitEndpoint.restrictedPool,
      PoolOptions.restrictForSubmittedCode, configured] at taken
  unfold DispatchOptions.RunsUnder KeepsTimeout DispatchOptions.armed
    DispatchOptions.timeoutArmed
  rw [merged, decide_eq_true_eq]
  rcases nullish_cases (submitOption submission.options "timeout")
      (some (.typed ceiling))
    with ⟨absent, pools⟩ | ⟨value, given, present, own⟩
  · rw [absent, pools]
    refine iff_of_true ⟨?_, ceiling, rfl, positive, ?_⟩ (.inl rfl)
    · exact endpoint.runtime.numerics.truthyPositive_typed positive
    · exact ceiling.lessThan_self
  · rw [present, own, given]
    constructor
    · rintro ⟨passes, ms, read, -, within⟩
      exact .inr ⟨passes, ms, read, within⟩
    · rintro (absent | ⟨passes, ms, read, within⟩)
      · cases absent
      · exact
          ⟨passes, ms, read,
            endpoint.runtime.numerics.isPositive_of_truthyPositive passes read,
            within⟩

/-- A dispatch makes an attempt if its limit allows one. -/
theorem exists_made_iff
    {runtime : DispatchRuntime}
    {opts : DispatchOptions} :
    (∃ readings : List (AttemptReading runtime opts RunOneResult),
        (dispatchWithResilience readings).made ≠ []) ↔
      (JsDouble.ofNat 0).lessThan (opts.attemptLimit runtime) = true := by
  constructor
  · rintro ⟨readings, some⟩
    have allowed :=
      (exists_length_made_iff (dispatchWithResilience readings).made.length).mp
        ⟨readings, rfl⟩
    exact allowed 0 (List.length_pos_of_ne_nil some)
  · intro first
    obtain ⟨readings, one⟩ :=
      (exists_length_made_iff 1).mpr
        (allows_of_le_one first (Nat.le_refl 1))
    refine ⟨readings, fun none => ?_⟩
    rw [none] at one
    cases one

/--
A request is held to the operator's limits exactly if the options of its body
loosen neither.
-/
theorem SubmitEndpoint.holdsRequest_iff
    (endpoint : SubmitEndpoint)
    (now : Int)
    (req : SubmitRequest) :
    endpoint.HoldsRequest now req ↔
      ∀ submission opts,
        endpoint.Dispatches now req submission opts →
        endpoint.MeetsLimits submission opts := by
  refine forall_congr' fun submission => forall_congr' fun opts =>
    forall_congr' fun accepted => ?_
  have counts :=
    (opts.attemptLimit endpoint.runtime).forall_allows_iff endpoint.maxAttempts
  constructor
  · intro held
    constructor
    · intro ceiling configured positive first
      obtain ⟨readings, some⟩ := exists_made_iff.mpr first
      exact
        (runsUnder_iff accepted configured positive).mp
          ((held readings).timeout ceiling configured positive some)
    · refine counts.mp fun count allowed => ?_
      obtain ⟨readings, rfl⟩ :
          ∃ readings : List
              (AttemptReading endpoint.runtime opts RunOneResult),
            (dispatchWithResilience readings).made.length = count :=
        (exists_length_made_iff count).mpr allowed
      exact (held readings).attempts
  · intro meets readings
    constructor
    · intro ceiling configured positive some
      exact
        (runsUnder_iff accepted configured positive).mpr
          (meets.timeout ceiling configured positive
            (exists_made_iff.mp ⟨readings, some⟩))
    · exact
        counts.mpr meets.attempts _
          ((exists_length_made_iff _).mp ⟨readings, rfl⟩)

/-! ## A body that lifts the timeout -/

/-- An endpoint with a timeout of five seconds and no retries. -/
def fiveSeconds : SubmitEndpoint where
  runtime := wholeNumbers
  parseJson _ :=
    .ok
      (.object
        [ ("fn", .string "() => 1"),
          ("options", .object [("timeout", .number ⟨"0"⟩)]) ])
  policy :=
    { auth := none
      onSubmit := none
      allowBindings := none
      maxBytes := none
      maxFnSourceBytes := none }
  pool :=
    { timeout := some (.finite 5000)
      retries := none
      bindings := none
      globalOutbound := .absent }

/-- A request whose body sets the timeout to zero. -/
def noTimeout : SubmitRequest where
  method := "POST"
  contentLength := none
  body := "\x7b\"fn\":\"() => 1\",\"options\":\x7b\"timeout\":0\x7d\x7d"
  bodyBytes := 41

/-- The options of its dispatch. -/
def unlimited : DispatchOptions where
  timeout := some (.unchecked (.number ⟨"0"⟩))
  retries := some (.typed (.finite 0))
  cancel := false
  deadlineEpochMs := none

/-- The request is accepted with these options. -/
theorem dispatches_noTimeout :
    fiveSeconds.Dispatches 0 noTimeout
      { fn := "() => 1"
        args := []
        options := some (.object [("timeout", .number ⟨"0"⟩)]) }
      unlimited := by
  constructor
  · rfl
  · rfl

/-- The body takes the pool's timeout away. -/
theorem not_holdsRequest_noTimeout :
    ¬ fiveSeconds.HoldsRequest 0 noTimeout := by
  intro holds
  have first :
      (JsDouble.ofNat 0).lessThan (unlimited.attemptLimit wholeNumbers) =
        true := by
    decide +kernel
  obtain ⟨readings, some⟩ := exists_made_iff.mpr first
  have under :=
    (holds _ _ dispatches_noTimeout readings).timeout (.finite 5000) rfl
      (by decide) some
  exact absurd under.1 (by decide +kernel)

end CloudflareParallel
