import CloudflareParallel.ResilientDispatch

namespace CloudflareParallel

open JsonValues

/-!
# The class of the error that wins

What a dispatch rejects with has been through `marshalError`, which keeps the
class of an error only if it is passed through.  The token's own error is not,
but where its text is taken for a retryable marker the check before the next
attempt throws it once more.
-/

section RaceClasses

variable {runtime : DispatchRuntime}
variable {opts : DispatchOptions}
variable {Value : Type}

/-- The attempt rejects with an error of the library. -/
def AttemptRecord.RejectsWith
    (record : AttemptRecord runtime opts Value)
    (err : ParallelError) : Prop :=
  record.reading.withRaces = .error (.error (.library err))

/-- The token wins the race of an attempt. -/
def AttemptRecord.CancelWins
    (record : AttemptRecord runtime opts Value)
    (reason : Option String) : Prop :=
  record.reading.tokenAfter = some reason

/-- One more attempt is allowed after an attempt. -/
def AttemptRecord.hasNext
    (record : AttemptRecord runtime opts Value) : Bool :=
  (opts.maxAttempts runtime).any fun maxAttempts =>
    (JsDouble.ofNat (record.attempt + 1)).lessThan maxAttempts

/--
The error of an attempt reaches the caller with its class: the dispatch ends
with it or with a `RetryExhaustedError` that has it as its cause, or, if it is
the token's own, with the check that throws it again.
-/
def DispatchRun.Reaches
    (run : DispatchRun runtime opts Value)
    (record : AttemptRecord runtime opts Value)
    (err : ParallelError) : Prop :=
  run.made.getLast? = some record ∧
    ((∃ own, run.ended.ownError? = some own ∧ own.name = err.name) ∨
      ∃ reason thrown,
        record.CancelWins reason ∧
          run.ended = .cancelled thrown ∧ thrown.name = err.name)

/--
Whoever wins decides the class: an error of the library that an attempt rejects
with reaches the caller with its class, unless it is of a retryable class and
one more attempt is allowed.
-/
def DispatchRun.KeepsClasses (run : DispatchRun runtime opts Value) : Prop :=
  ∀ record ∈ run.made,
  ∀ err,
    record.RejectsWith err →
    (err.isRetryable = true ∧ record.hasNext = true) ∨ run.Reaches record err

/--
The condition on an attempt that rejects with an error of the library: the
class is passed through, or it is the token's own error, its text is taken for
a retryable marker and one more attempt is allowed.
-/
def AttemptRecord.KeptAs
    (record : AttemptRecord runtime opts Value)
    (err : ParallelError) : Prop :=
  err.passesThrough = true ∨
    ((∃ reason, record.CancelWins reason) ∧
      (marshalError runtime.globals (.error (.library err))).isRetryable =
          true ∧
        record.hasNext = true)

/-- The token's race is lost to its own error. -/
theorem AttemptReading.withRaces_of_tokenAfter
    {reading : AttemptReading runtime opts Value}
    {reason : Option String}
    (fired : reading.tokenAfter = some reason) :
    reading.withRaces =
      .error (.error (.library (cancelledError runtime reason))) := by
  unfold tokenAfter at fired
  unfold withRaces
  split at fired
  next armed deadline decided =>
      cases fired
      rw [armed, deadline, decided]
  next =>
      cases fired

/-! ## One attempt -/

variable {maxAttempts : JsDouble}
variable {attempt : Nat}
variable {lastError : Option ParallelError}

/-- What is thrown behind the loop is its last error. -/
theorem ownError?_thrownAfter :
    (thrownAfter maxAttempts lastError : DispatchEnd Value).ownError? =
      lastError := by
  unfold thrownAfter
  cases lastError with
  | none => rfl
  | some err =>
      dsimp only
      split <;> rfl

/-- The loop ends with errors that are passed through. -/
theorem passesThrough_ownError
    {readings : List (AttemptReading runtime opts Value)}
    {token : Option (Option String)}
    {own : ParallelError}
    (last : ∀ err, lastError = some err → err.passesThrough = true)
    (ended :
      (dispatchLoop maxAttempts readings attempt token
          lastError).ended.ownError? =
        some own) :
    own.passesThrough = true := by
  induction readings generalizing attempt token lastError with
  | nil =>
      unfold dispatchLoop at ended
      split at ended
      · cases token <;> cases ended
      · rw [ownError?_thrownAfter] at ended
        exact last own ended
  | cons reading rest inductionHypothesis =>
      generalize equal :
        dispatchLoop maxAttempts (reading :: rest) attempt token lastError =
          run at ended
      cases equal ▸
        loopCase maxAttempts reading rest attempt token lastError with
      | spent =>
          rw [ownError?_thrownAfter] at ended
          exact last own ended
      | stopped blank =>
          rw [blank] at ended
          cases ended
      | resolved => cases ended
      | ends =>
          cases ended
          exact passesThrough_marshalError _ _
      | retries _ raced retryable later =>
          subst later
          refine inductionHypothesis (fun err same => ?_) ended
          cases same
          exact passesThrough_marshalError _ _

/-- The error of an attempt that ends the loop keeps its class if it passes. -/
theorem keeps_iff_of_ends
    {reading : AttemptReading runtime opts Value}
    {rawErr : Rejection}
    (raced : reading.withRaces = .error rawErr)
    (terminal : (marshalError runtime.globals rawErr).isRetryable = false) :
    DispatchRun.KeepsClasses
        ({ made := [⟨attempt, reading⟩]
           ended := .rejected (marshalError runtime.globals rawErr) } :
          DispatchRun runtime opts Value) ↔
      ∀ err,
        (⟨attempt, reading⟩ : AttemptRecord runtime opts Value).RejectsWith
            err →
        (⟨attempt, reading⟩ : AttemptRecord runtime opts Value).KeptAs err := by
  constructor
  · intro keeps err rejects
    have same : rawErr = .error (.library err) :=
      Except.error.inj (raced.symm.trans rejects)
    subst same
    rcases keeps _ (List.mem_singleton_self _) err rejects
      with ⟨retryable, -⟩ | ⟨-, ⟨own, ended, names⟩ | ⟨_, _, _, ended, _⟩⟩
    · exact .inl (ParallelError.passesThrough_of_isRetryable retryable)
    · cases ended
      exact .inl ((marshalError_name_iff _ err).mp names)
    · cases ended
  · intro kept record member err rejects
    rw [List.mem_singleton.mp member] at rejects ⊢
    have same : rawErr = .error (.library err) :=
      Except.error.inj (raced.symm.trans rejects)
    subst same
    rcases kept err rejects with passes | ⟨-, retryable, -⟩
    · exact
        .inr ⟨rfl, .inl ⟨_, rfl, (marshalError_name_iff _ err).mpr passes⟩⟩
    · rw [terminal] at retryable
      cases retryable

/-- A later attempt reaches the caller of the loop as it does of its rest. -/
theorem reaches_cons_iff
    {first record : AttemptRecord runtime opts Value}
    {later : DispatchRun runtime opts Value}
    (member : record ∈ later.made)
    (err : ParallelError) :
    DispatchRun.Reaches
        { made := first :: later.made, ended := later.ended } record err ↔
      later.Reaches record err := by
  unfold DispatchRun.Reaches
  cases made : later.made with
  | nil =>
      rw [made] at member
      cases member
  | cons second others =>
      rw [List.getLast?_cons_cons]

/-- Whether one more attempt is allowed is what the loop asks next. -/
theorem hasNext_eq
    (known : opts.maxAttempts runtime = some maxAttempts)
    (reading : AttemptReading runtime opts Value) :
    (⟨attempt, reading⟩ : AttemptRecord runtime opts Value).hasNext =
      (JsDouble.ofNat (attempt + 1)).lessThan maxAttempts := by
  unfold AttemptRecord.hasNext
  rw [known]
  rfl

/-- A retried error keeps its class if it passes, or if the check throws it. -/
theorem keeps_iff_of_retries
    (known : opts.maxAttempts runtime = some maxAttempts)
    {reading : AttemptReading runtime opts Value}
    {rest : List (AttemptReading runtime opts Value)}
    {err : ParallelError}
    {later : DispatchRun runtime opts Value}
    (rejects :
      (⟨attempt, reading⟩ : AttemptRecord runtime opts Value).RejectsWith err)
    (retryable :
      (marshalError runtime.globals (.error (.library err))).isRetryable =
        true)
    (goesOn :
      later =
        dispatchLoop maxAttempts rest (attempt + 1) reading.tokenAfter
          (some (marshalError runtime.globals (.error (.library err))))) :
    ((err.isRetryable = true ∧
          (⟨attempt, reading⟩ : AttemptRecord runtime opts Value).hasNext =
            true) ∨
        DispatchRun.Reaches
          { made := ⟨attempt, reading⟩ :: later.made, ended := later.ended }
          ⟨attempt, reading⟩ err) ↔
      (⟨attempt, reading⟩ : AttemptRecord runtime opts Value).KeptAs err := by
  have next :
      (⟨attempt, reading⟩ : AttemptRecord runtime opts Value).hasNext =
        (JsDouble.ofNat (attempt + 1)).lessThan maxAttempts :=
    hasNext_eq known reading
  constructor
  · rintro (⟨own, -⟩ |
      ⟨-, ⟨own, ended, names⟩ | ⟨reason, thrown, wins, ended, -⟩⟩)
    · exact .inl (ParallelError.passesThrough_of_isRetryable own)
    · refine .inl (ParallelError.passesThrough_of_name_eq names ?_)
      rw [goesOn] at ended
      refine passesThrough_ownError (fun given same => ?_) ended
      cases same
      exact passesThrough_marshalError _ _
    · refine .inr ⟨⟨reason, wins⟩, retryable, ?_⟩
      cases allowed : (JsDouble.ofNat (attempt + 1)).lessThan maxAttempts with
      | true => rw [next, allowed]
      | false =>
          rw [goesOn, dispatchLoop_spent _ _ allowed] at ended
          have blank := congrArg DispatchEnd.ownError? ended
          rw [ownError?_thrownAfter] at blank
          cases blank
  · intro kept
    cases allowed : (JsDouble.ofNat (attempt + 1)).lessThan maxAttempts with
    | false =>
        rw [dispatchLoop_spent _ _ allowed] at goesOn
        subst goesOn
        rcases kept with passes | ⟨-, -, hasNext⟩
        · refine .inr ⟨rfl, .inl ⟨marshalError runtime.globals _, ?_,
            (marshalError_name_iff _ err).mpr passes⟩⟩
          dsimp only
          exact ownError?_thrownAfter
        · rw [next, allowed] at hasNext
          cases hasNext
    | true =>
        rcases kept with passes | ⟨⟨reason, wins⟩, -, -⟩
        · rw [marshalError_of_passesThrough _ passes] at retryable
          exact .inl ⟨retryable, next.trans allowed⟩
        · have fired : reading.tokenAfter = some reason := wins
          rw [fired, dispatchLoop_fired _ _ allowed] at goesOn
          subst goesOn
          have same :
              AttemptReading.cancelledError runtime reason = err := by
            have thrown := AttemptReading.withRaces_of_tokenAfter fired
            exact
              ErrorObject.library.inj
                (Rejection.error.inj
                  (Except.error.inj (thrown.symm.trans rejects)))
          exact .inr ⟨rfl, .inr ⟨reason, _, wins, rfl, congrArg _ same⟩⟩

/-! ## All attempts -/

/-- Without an attempt there is nothing to keep. -/
theorem keepsClasses_iff_of_nil
    {run : DispatchRun runtime opts Value}
    (none : run.made = []) :
    run.KeepsClasses ↔
      ∀ record ∈ run.made,
        ∀ err, record.RejectsWith err → record.KeptAs err := by
  unfold DispatchRun.KeepsClasses
  rw [none]
  simp only [List.not_mem_nil, false_implies, implies_true]

/-- The loop keeps the classes exactly if every attempt meets the condition. -/
theorem keepsClasses_dispatchLoop_iff
    (known : opts.maxAttempts runtime = some maxAttempts)
    (readings : List (AttemptReading runtime opts Value))
    (token : Option (Option String)) :
    (dispatchLoop maxAttempts readings attempt token lastError).KeepsClasses ↔
      ∀ record ∈
          (dispatchLoop maxAttempts readings attempt token lastError).made,
        ∀ err, record.RejectsWith err → record.KeptAs err := by
  induction readings generalizing attempt token lastError with
  | nil =>
      have none :
          (dispatchLoop maxAttempts [] attempt token lastError :
            DispatchRun runtime opts Value).made = [] := by
        unfold dispatchLoop
        split
        · cases token <;> rfl
        · rfl
      exact keepsClasses_iff_of_nil none
  | cons reading rest inductionHypothesis =>
      generalize equal :
        dispatchLoop maxAttempts (reading :: rest) attempt token lastError =
          run
      cases equal ▸
        loopCase maxAttempts reading rest attempt token lastError with
      | spent | stopped => exact keepsClasses_iff_of_nil rfl
      | resolved _ raced =>
          have never :
              ∀ record ∈
                  [(⟨attempt, reading⟩ : AttemptRecord runtime opts Value)],
                ∀ err, ¬ record.RejectsWith err := by
            intro record member err rejects
            rw [List.mem_singleton.mp member] at rejects
            cases raced.symm.trans rejects
          exact
            iff_of_true
              (fun record member err rejects =>
                absurd rejects (never record member err))
              (fun record member err rejects =>
                absurd rejects (never record member err))
      | ends _ raced terminal =>
          refine (keeps_iff_of_ends raced terminal).trans ?_
          simp only [List.mem_singleton, forall_eq]
      | @retries rawErr later _ raced retryable goesOn =>
          have others :
              later.KeepsClasses ↔
                ∀ record ∈ later.made,
                  ∀ err, record.RejectsWith err → record.KeptAs err := by
            rw [goesOn]
            exact inductionHypothesis reading.tokenAfter
          unfold DispatchRun.KeepsClasses at others ⊢
          rw [List.forall_mem_cons, List.forall_mem_cons]
          refine and_congr ?_ (Iff.trans ?_ others)
          · refine forall_congr' fun err => forall_congr' fun rejects => ?_
            have same : rawErr = .error (.library err) :=
              Except.error.inj (raced.symm.trans rejects)
            subst same
            exact keeps_iff_of_retries known rejects retryable goesOn
          · refine forall_congr' fun record => forall_congr' fun member =>
              forall_congr' fun err => forall_congr' fun _ => ?_
            rw [reaches_cons_iff member]

/--
A dispatch keeps the classes of the errors that win exactly if every attempt
that rejects with an error of the library does so with one that is passed
through, or with the token's own, taken for a retryable error while one more
attempt is allowed.
-/
theorem dispatchWithResilience_keepsClasses_iff
    (readings : List (AttemptReading runtime opts Value)) :
    (dispatchWithResilience readings).KeepsClasses ↔
      ∀ record ∈ (dispatchWithResilience readings).made,
        ∀ err, record.RejectsWith err → record.KeptAs err := by
  unfold dispatchWithResilience
  cases known : opts.maxAttempts runtime with
  | none => exact keepsClasses_iff_of_nil rfl
  | some maxAttempts => exact keepsClasses_dispatchLoop_iff known readings none

end RaceClasses

/-! ## A token that wins -/

/-- A token and nothing else. -/
def tokenOnly : DispatchOptions where
  timeout := none
  retries := none
  cancel := true
  deadlineEpochMs := none

/-- The token fires, for no matter which reason, before the task settles. -/
def tokenWins
    (reason : String) :
    AttemptReading wholeNumbers tokenOnly Nat where
  fires := none
  hasToken := nofun
  expired := false
  winner := .cancel (some reason)
  takesPart := rfl

/-- The error of the token, as the caller gets it. -/
def tokenError (reason : String) : ParallelError :=
  marshalError wholeNumbers.globals
    (.error
      (.library (AttemptReading.cancelledError wholeNumbers (some reason))))

/-- A dispatch that is cancelled ends with the error of its one attempt. -/
theorem dispatch_tokenWins
    {reason : String}
    (terminal : endsLoop (tokenError reason) = true) :
    dispatchWithResilience [tokenWins reason] =
      { made := [⟨0, tokenWins reason⟩]
        ended := .rejected (tokenError reason) } := by
  have known : tokenOnly.maxAttempts wholeNumbers = some (.finite 1) := rfl
  unfold dispatchWithResilience
  rw [known]
  change (if endsLoop (tokenError reason) then _ else _) = _
  exact if_pos terminal

/-- The caller of a cancelled dispatch gets an execution error. -/
theorem not_keepsClasses_tokenWins :
    ¬ (dispatchWithResilience [tokenWins "stop"]).KeepsClasses := by
  have terminal : endsLoop (tokenError "stop") = true := by decide +kernel
  have renamed : (tokenError "stop").name = "ExecutionError" := by
    decide +kernel
  rw [dispatch_tokenWins terminal]
  intro keeps
  rcases keeps _ (List.mem_singleton_self _) _ rfl
    with ⟨retryable, -⟩ | ⟨-, ⟨own, ended, names⟩ | ⟨_, _, _, ended, _⟩⟩
  · cases retryable
  · cases ended
    rw [renamed] at names
    exact absurd names (by decide)
  · cases ended

end CloudflareParallel
