import CloudflareParallel.ResilientDispatch
import CloudflareParallel.Library.DoubleIntegers

namespace CloudflareParallel

open DoubleIntegers

/-!
# The retry loop and its count

`retries` is not checked, and the loop bound, the test behind the loop and the
last throw read it each in its own way.  The attempt is counted in a number of
the language here, which stops at `2 ^ 53`; the calls of the task are counted
beside it.
-/

/-- The calls of the task that were made, and the end of the dispatch. -/
structure RetryRun (Value : Type) where
  calls : Nat
  ended : DispatchEnd Value

section RetryLoop

variable {Value : Type}
variable (runtime : DispatchRuntime)
variable (checks : Nat → Option (Option String))
variable (outcomes : Nat → Except Rejection Value)

/--
The loop over the attempts, for a number of turns; nothing while it goes on.
What the check of the token finds before a call is read from `checks`, how the
race of a call settles from `outcomes`.
-/
def retryLoop
    (maxAttempts : Int) :
    Nat → Nat → Nat → Option ParallelError → Option (RetryRun Value)
  | 0, _, _, _ => none
  | turns + 1, attempt, calls, lastError =>
      if (attempt : Int) < maxAttempts then
        match checks calls with
        | some reason =>
            some
              { calls := calls
                ended :=
                  .cancelled (AttemptReading.cancelledError runtime reason) }
        | none =>
            match outcomes calls with
            | .ok value =>
                some { calls := calls + 1, ended := .resolved value }
            | .error rawErr =>
                let err := marshalError runtime.globals rawErr
                if endsLoop err then
                  some { calls := calls + 1, ended := .rejected err }
                else
                  retryLoop maxAttempts turns (next attempt) (calls + 1)
                    (some err)
      else
        some
          { calls := calls
            ended := thrownAfter (.finite maxAttempts) lastError }

/-- `dispatchWithResilience`, with an integer for `retries`. -/
def retryDispatch
    (retries : Int)
    (turns : Nat) : Option (RetryRun Value) :=
  retryLoop runtime checks outcomes (roundInt (1 + retries)) turns 0 0 none

end RetryLoop

/-- A call fails with an error that is retried. -/
def FailsRetryably
    {Value : Type}
    (globals : MarshalGlobals)
    (outcome : Except Rejection Value) : Prop :=
  ∃ rawErr,
    outcome = .error rawErr ∧ (marshalError globals rawErr).isRetryable = true

/-- All that is thrown is an `Error`. -/
def DispatchEnd.throwsErrors {Value : Type} : DispatchEnd Value → Bool
  | .nothing => false
  | _ => true

/-- What the retry loop is to do with a sequence of outcomes. -/
structure RetrySpecification
    {Value : Type}
    (globals : MarshalGlobals)
    (outcomes : Nat → Except Rejection Value)
    (retries : Int)
    (run : RetryRun Value) : Prop where
  atLeastOnce : 1 ≤ run.calls
  atMost : (run.calls : Int) ≤ 1 + max 0 retries
  /-- It stops at the first success and at the first error not retried. -/
  retried :
    ∀ call,
      call + 1 < run.calls →
      FailsRetryably globals (outcomes call)
  resolves :
    ∀ value,
      outcomes (run.calls - 1) = .ok value →
      run.ended = .resolved value
  rejects :
    ∀ rawErr,
      outcomes (run.calls - 1) = .error rawErr →
      (marshalError globals rawErr).isRetryable = false →
      run.ended = .rejected (marshalError globals rawErr)
  throwsErrors : run.ended.throwsErrors = true
  exhausts :
    0 < retries →
    ∀ rawErr,
      outcomes (run.calls - 1) = .error rawErr →
      (marshalError globals rawErr).isRetryable = true →
      run.ended =
        .exhausted (JsDouble.ofNat run.calls) (marshalError globals rawErr)

/-- The dispatch ends, and as specified; its token has not fired. -/
def MeetsRetrySpecification
    {Value : Type}
    (runtime : DispatchRuntime)
    (retries : Int)
    (outcomes : Nat → Except Rejection Value) : Prop :=
  ∃ turns run,
    retryDispatch runtime (fun _ => none) outcomes retries turns = some run ∧
      RetrySpecification runtime.globals outcomes retries run

section Runs

variable {Value : Type}
variable {runtime : DispatchRuntime}
variable {outcomes : Nat → Except Rejection Value}
variable {maxAttempts : Int}

/-- `lastError`, behind a number of calls that failed. -/
def lastErrorOf
    (globals : MarshalGlobals)
    (outcomes : Nat → Except Rejection Value) : Nat → Option ParallelError
  | 0 => none
  | call + 1 =>
      match outcomes call with
      | .ok _ => none
      | .error rawErr => some (marshalError globals rawErr)

/-- The counter of the loop, behind a number of calls. -/
def attemptOf (calls : Nat) : Nat :=
  min calls limit

theorem next_attemptOf (calls : Nat) :
    next (attemptOf calls) = attemptOf (calls + 1) := by
  unfold attemptOf
  rcases Nat.lt_or_ge calls limit with inside | beyond
  · rw [Nat.min_eq_left (Nat.le_of_lt inside), Nat.min_eq_left inside,
      next_of_lt inside]
  · rw [Nat.min_eq_right beyond, Nat.min_eq_right (Nat.le_succ_of_le beyond),
      next_limit]

/-- So many calls were allowed, and failed with errors that are retried. -/
def GoneRound
    (globals : MarshalGlobals)
    (outcomes : Nat → Except Rejection Value)
    (maxAttempts : Int)
    (calls : Nat) : Prop :=
  ∀ call,
    call < calls →
    (attemptOf call : Int) < maxAttempts ∧
      FailsRetryably globals (outcomes call)

/-- How a loop whose token does not fire can end. -/
inductive RetryEnds
    (globals : MarshalGlobals)
    (outcomes : Nat → Except Rejection Value)
    (maxAttempts : Int) : RetryRun Value → Prop where
  | spent {calls : Nat} :
      GoneRound globals outcomes maxAttempts calls →
      maxAttempts ≤ attemptOf calls →
      RetryEnds globals outcomes maxAttempts
        { calls := calls
          ended :=
            thrownAfter (.finite maxAttempts)
              (lastErrorOf globals outcomes calls) }
  | resolved {calls : Nat} {value : Value} :
      GoneRound globals outcomes maxAttempts calls →
      (attemptOf calls : Int) < maxAttempts →
      outcomes calls = .ok value →
      RetryEnds globals outcomes maxAttempts
        { calls := calls + 1, ended := .resolved value }
  | rejected {calls : Nat} {rawErr : Rejection} :
      GoneRound globals outcomes maxAttempts calls →
      (attemptOf calls : Int) < maxAttempts →
      outcomes calls = .error rawErr →
      (marshalError globals rawErr).isRetryable = false →
      RetryEnds globals outcomes maxAttempts
        { calls := calls + 1, ended := .rejected (marshalError globals rawErr) }

/-- One more call of the task, or the end. -/
theorem retryLoop_turn
    (turns : Nat)
    {calls : Nat}
    (gone : GoneRound runtime.globals outcomes maxAttempts calls) :
    (∃ run,
        retryLoop runtime (fun _ => none) outcomes maxAttempts (turns + 1)
            (attemptOf calls) calls
            (lastErrorOf runtime.globals outcomes calls) =
          some run ∧
        RetryEnds runtime.globals outcomes maxAttempts run) ∨
      GoneRound runtime.globals outcomes maxAttempts (calls + 1) ∧
        retryLoop runtime (fun _ => none) outcomes maxAttempts (turns + 1)
            (attemptOf calls) calls
            (lastErrorOf runtime.globals outcomes calls) =
          retryLoop runtime (fun _ => none) outcomes maxAttempts turns
            (attemptOf (calls + 1)) (calls + 1)
            (lastErrorOf runtime.globals outcomes (calls + 1)) := by
  by_cases allowed : (attemptOf calls : Int) < maxAttempts
  · rw [retryLoop, if_pos allowed]
    cases outcome : outcomes calls with
    | ok value => exact .inl ⟨_, rfl, .resolved gone allowed outcome⟩
    | error rawErr =>
        cases retryable :
            (marshalError runtime.globals rawErr).isRetryable with
        | false =>
            refine .inl ⟨_, ?_, .rejected gone allowed outcome retryable⟩
            simp only [endsLoop_eq, retryable]
            rfl
        | true =>
            refine .inr ⟨fun call before => ?_, ?_⟩
            · rcases Nat.lt_succ_iff_lt_or_eq.mp before with before | rfl
              · exact gone call before
              · exact ⟨allowed, rawErr, outcome, retryable⟩
            · simp only [endsLoop_eq, retryable, next_attemptOf, lastErrorOf,
                outcome]
              rfl
  · rw [retryLoop, if_neg allowed]
    exact .inl ⟨_, rfl, .spent gone (Int.not_lt.mp allowed)⟩

/-- The loop has ended as it can, or every turn was a call that failed. -/
theorem retryLoop_run
    (turns : Nat)
    {calls : Nat}
    (gone : GoneRound runtime.globals outcomes maxAttempts calls) :
    let run? :=
      retryLoop runtime (fun _ => none) outcomes maxAttempts turns
        (attemptOf calls) calls (lastErrorOf runtime.globals outcomes calls)
    (∃ run,
        run? = some run ∧
          RetryEnds runtime.globals outcomes maxAttempts run) ∨
      run? = none ∧
        GoneRound runtime.globals outcomes maxAttempts (calls + turns) := by
  induction turns generalizing calls with
  | zero => exact .inr ⟨rfl, gone⟩
  | succ turns inductionHypothesis =>
      rcases retryLoop_turn turns gone with ended | ⟨more, same⟩
      · exact .inl ended
      · have later := inductionHypothesis more
        rw [Nat.add_right_comm, Nat.add_assoc] at later
        rw [same]
        exact later

/-! ## The loop over readings -/

/-- The comparison of the loop, on whole numbers. -/
theorem lessThan_ofNat (attempt : Nat) (maxAttempts : Int) :
    (JsDouble.ofNat attempt).lessThan (.finite maxAttempts) =
      decide ((attempt : Int) < maxAttempts) := by
  simp only [JsDouble.ofNat, JsDouble.lessThan, decide_eq_decide]
  exact_mod_cast Iff.rfl

/-- The calls are counted on. -/
theorem calls_le_of_retryLoop
    (turns : Nat)
    {attempt calls : Nat}
    {lastError : Option ParallelError}
    {run : RetryRun Value}
    (ran :
      retryLoop runtime (fun _ => none) outcomes maxAttempts turns attempt
          calls lastError =
        some run) :
    calls ≤ run.calls ∧
      ((attempt : Int) < maxAttempts → calls < run.calls) := by
  induction turns generalizing attempt calls lastError with
  | zero => cases ran
  | succ turns inductionHypothesis =>
      rw [retryLoop] at ran
      split at ran
      next =>
        cases outcome : outcomes calls with
        | ok value =>
            simp only [outcome] at ran
            cases ran
            exact ⟨Nat.le_succ _, fun _ => Nat.lt_succ_self _⟩
        | error rawErr =>
            simp only [outcome] at ran
            split at ran
            next =>
              cases ran
              exact ⟨Nat.le_succ _, fun _ => Nat.lt_succ_self _⟩
            next =>
              have later := (inductionHypothesis ran).1
              exact ⟨Nat.le_of_succ_le later, fun _ => later⟩
      next notAllowed =>
        cases ran
        exact ⟨Nat.le_refl _, fun allowed => absurd allowed notAllowed⟩

/--
Below the limit of the counter this is the loop over readings: it makes the
same calls and ends the same way.
-/
theorem dispatchLoop_eq_retryLoop
    {opts : DispatchOptions}
    (turns : Nat)
    (readings : List (AttemptReading runtime opts Value))
    {calls : Nat}
    {lastError : Option ParallelError}
    {run : RetryRun Value}
    (quiet :
      ∀ reading ∈ readings,
        reading.fires = none ∧ reading.tokenAfter = none)
    (same :
      ∀ place reading,
        readings[place]? = some reading →
        outcomes (calls + place) = reading.withRaces)
    (inside : calls + readings.length ≤ limit)
    (ran :
      retryLoop runtime (fun _ => none) outcomes maxAttempts turns calls calls
          lastError =
        some run)
    (enough : run.calls ≤ calls + readings.length) :
    let loop :=
      dispatchLoop (.finite maxAttempts) readings calls none lastError
    calls + loop.made.length = run.calls ∧ loop.ended = run.ended := by
  induction turns generalizing readings calls lastError with
  | zero => cases ran
  | succ turns inductionHypothesis =>
      rw [retryLoop] at ran
      by_cases allowed : (calls : Int) < maxAttempts
      · have allowedToo :
            (JsDouble.ofNat calls).lessThan (.finite maxAttempts) = true := by
          rw [lessThan_ofNat, decide_eq_true allowed]
        cases readings with
        | nil =>
            have more := (calls_le_of_retryLoop (turns + 1) ran).2 allowed
            exact absurd enough (Nat.not_le.mpr more)
        | cons reading rest =>
            have below : calls < limit := by
              rw [List.length_cons] at inside
              omega
            obtain ⟨fires, tokenAfter⟩ := quiet reading List.mem_cons_self
            have outcome := same 0 reading rfl
            rw [Nat.add_zero] at outcome
            rw [if_pos allowed] at ran
            simp only [outcome] at ran
            cases raced : reading.withRaces with
            | ok value =>
                simp only [raced] at ran
                cases ran
                rw [dispatchLoop, if_pos allowedToo]
                simp only [fires, raced]
                exact ⟨rfl, trivial⟩
            | error rawErr =>
                simp only [raced, next_of_lt below] at ran
                cases ends : endsLoop (marshalError runtime.globals rawErr) with
                | true =>
                    rw [ends, if_pos rfl] at ran
                    cases ran
                    rw [dispatchLoop, if_pos allowedToo]
                    simp only [fires, raced, ends]
                    exact ⟨rfl, rfl⟩
                | false =>
                    rw [ends, if_neg Bool.false_ne_true] at ran
                    have later :=
                      inductionHypothesis rest
                        (fun other member =>
                          quiet other (List.mem_cons_of_mem _ member))
                        (fun place other found => by
                          rw [Nat.add_right_comm, Nat.add_assoc]
                          exact same (place + 1) other found)
                        (by rw [List.length_cons] at inside; omega) ran
                        (by rw [List.length_cons] at enough; omega)
                    rw [dispatchLoop, if_pos allowedToo]
                    simp only [fires, raced, ends, tokenAfter]
                    obtain ⟨made, ended⟩ := later
                    refine ⟨?_, ended⟩
                    rw [← made]
                    simp only [Bool.false_eq_true, if_false, List.length_cons]
                    omega
      · rw [if_neg allowed] at ran
        cases ran
        rw [dispatchLoop_spent _ _ (by
          rw [lessThan_ofNat, decide_eq_false allowed])]
        exact ⟨rfl, rfl⟩

/-! ## The specification -/

theorem attemptOf_le (calls : Nat) : attemptOf calls ≤ calls :=
  Nat.min_le_left _ _

/-- A call that is allowed is no later than the bound, below the limit. -/
theorem call_lt_of_allowed
    {calls : Nat}
    (inside : maxAttempts ≤ limit)
    (allowed : (attemptOf calls : Int) < maxAttempts) :
    (calls : Int) < maxAttempts := by
  unfold attemptOf at allowed
  omega

section Bound

variable {retries : Int}

/-- Without a call allowed there is a negative number of retries. -/
theorem retries_nonneg
    (allowed : 0 < roundInt (1 + retries)) :
    0 ≤ retries := by
  by_contra negative
  have none_ := roundInt_of_neg (n := 1 + retries) (by omega)
  omega

/-- The bound of the loop, while the counter does not stop. -/
theorem bound_of_le
    (nonneg : 0 ≤ retries)
    (inside : retries ≤ limit) :
    0 < roundInt (1 + retries) ∧
      roundInt (1 + retries) ≤ 1 + retries ∧
        roundInt (1 + retries) ≤ limit ∧
          (0 < retries → 1 < roundInt (1 + retries)) := by
  obtain ⟨n, rfl⟩ := Int.eq_ofNat_of_zero_le nonneg
  rcases Int.lt_or_eq_of_le inside with below | same
  · have exact_ : roundInt (1 + n) = 1 + n := by
      have whole := roundInt_of_le (n := 1 + n) (by omega)
      push_cast at whole
      exact whole
    omega
  · have stops : roundInt (1 + (n : Int)) = limit := by
      rw [same]
      decide
    have large : 1 < limit := by decide
    omega

/-- The bound of the loop, where the counter stops. -/
theorem limit_lt_bound
    (beyond : limit < retries) :
    limit < roundInt (1 + retries) := by
  obtain ⟨n, rfl⟩ := Int.eq_ofNat_of_zero_le (a := retries) (by omega)
  have above := limit_lt_round (n := 1 + n) (by omega)
  change (limit : Int) < (round (1 + n) : Nat)
  omega

end Bound

/-- A call that succeeds ends the dispatch as specified. -/
theorem specification_resolved
    {retries : Int}
    {calls : Nat}
    {value : Value}
    (gone : GoneRound runtime.globals outcomes maxAttempts calls)
    (outcome : outcomes calls = .ok value)
    (within : (calls : Int) ≤ retries) :
    RetrySpecification runtime.globals outcomes retries
      { calls := calls + 1, ended := .resolved value } where
  atLeastOnce := Nat.le_add_left 1 calls
  atMost := by
    push_cast
    omega
  retried call before := (gone call (Nat.lt_of_succ_lt_succ before)).2
  resolves other same := by
    rw [Nat.add_sub_cancel, outcome] at same
    cases same
    rfl
  rejects rawErr same := by
    rw [Nat.add_sub_cancel, outcome] at same
    cases same
  throwsErrors := rfl
  exhausts _ rawErr same := by
    rw [Nat.add_sub_cancel, outcome] at same
    cases same

/-- A call that fails for good ends the dispatch as specified. -/
theorem specification_rejected
    {retries : Int}
    {calls : Nat}
    {rawErr : Rejection}
    (gone : GoneRound runtime.globals outcomes maxAttempts calls)
    (outcome : outcomes calls = .error rawErr)
    (final : (marshalError runtime.globals rawErr).isRetryable = false)
    (within : (calls : Int) ≤ retries) :
    RetrySpecification runtime.globals outcomes retries
      { calls := calls + 1
        ended := .rejected (marshalError runtime.globals rawErr) } where
  atLeastOnce := Nat.le_add_left 1 calls
  atMost := by
    push_cast
    omega
  retried call before := (gone call (Nat.lt_of_succ_lt_succ before)).2
  resolves other same := by
    rw [Nat.add_sub_cancel, outcome] at same
    cases same
  rejects other same _ := by
    rw [Nat.add_sub_cancel, outcome] at same
    cases same
    rfl
  throwsErrors := rfl
  exhausts _ other same retryable := by
    rw [Nat.add_sub_cancel, outcome] at same
    cases same
    rw [final] at retryable
    cases retryable

/-- Where the counter does not stop, the bound is the number of calls. -/
theorem calls_eq_bound
    {calls : Nat}
    (positive : 0 < maxAttempts)
    (inside : maxAttempts ≤ limit)
    (gone : GoneRound runtime.globals outcomes maxAttempts calls)
    (spent : maxAttempts ≤ attemptOf calls) :
    maxAttempts = calls := by
  have atMost := attemptOf_le calls
  rcases Nat.eq_zero_or_pos calls with rfl | some_
  · omega
  · have last := (gone (calls - 1) (by omega)).1
    have before := call_lt_of_allowed inside last
    omega

/-- The end behind the last call is as specified. -/
theorem specification_spent
    {retries : Int}
    {calls : Nat}
    (nonneg : 0 ≤ retries)
    (inside : retries ≤ limit)
    (gone :
      GoneRound runtime.globals outcomes (roundInt (1 + retries)) calls)
    (spent : roundInt (1 + retries) ≤ attemptOf calls) :
    RetrySpecification runtime.globals outcomes retries
      { calls := calls
        ended :=
          thrownAfter (.finite (roundInt (1 + retries)))
            (lastErrorOf runtime.globals outcomes calls) } := by
  obtain ⟨positive, atMost, belowLimit, many⟩ := bound_of_le nonneg inside
  have exact_ := calls_eq_bound positive belowLimit gone spent
  obtain ⟨last, rfl⟩ : ∃ last, calls = last + 1 :=
    ⟨calls - 1, by omega⟩
  obtain ⟨rawErr, outcome, retryable⟩ := (gone last (Nat.lt_succ_self last)).2
  have lastError :
      lastErrorOf runtime.globals outcomes (last + 1) =
        some (marshalError runtime.globals rawErr) := by
    simp only [lastErrorOf, outcome]
  rw [exact_] at many atMost ⊢
  rw [lastError]
  refine
    { atLeastOnce := Nat.le_add_left 1 last
      atMost := by
        dsimp only
        omega
      retried := fun call before =>
        (gone call (Nat.lt_of_succ_lt before)).2
      resolves := fun value same => ?_
      rejects := fun other same final => ?_
      throwsErrors := ?_
      exhausts := fun some_ other same _ => ?_ }
  · rw [Nat.add_sub_cancel, outcome] at same
    cases same
  · rw [Nat.add_sub_cancel, outcome] at same
    cases same
    rw [retryable] at final
    cases final
  · simp only [thrownAfter]
    split <;> rfl
  · rw [Nat.add_sub_cancel, outcome] at same
    cases same
    have more : (JsDouble.ofNat 1).lessThan
        (.finite (((last + 1 : Nat) : Int) : Rat)) = true := by
      have more := many some_
      simp only [JsDouble.ofNat, JsDouble.lessThan, decide_eq_true_eq]
      exact_mod_cast more
    simp only [thrownAfter, more, if_true]
    rfl

/-- Where the counter does not stop, the dispatch is as specified. -/
theorem meets_of_le
    {retries : Int}
    (nonneg : 0 ≤ retries)
    (inside : retries ≤ limit) :
    MeetsRetrySpecification runtime retries outcomes := by
  obtain ⟨positive, atMost, belowLimit, -⟩ := bound_of_le nonneg inside
  have start :
      GoneRound runtime.globals outcomes (roundInt (1 + retries)) 0 :=
    fun _ before => absurd before (Nat.not_lt_zero _)
  rcases retryLoop_run ((roundInt (1 + retries)).toNat + 1) start with
    ⟨run, ran, ends⟩ | ⟨-, gone⟩
  · refine ⟨_, run, ran, ?_⟩
    cases ends with
    | spent gone spent => exact specification_spent nonneg inside gone spent
    | resolved gone allowed outcome =>
        have before := call_lt_of_allowed belowLimit allowed
        exact specification_resolved gone outcome (by omega)
    | rejected gone allowed outcome final =>
        have before := call_lt_of_allowed belowLimit allowed
        exact specification_rejected gone outcome final (by omega)
  · have allowed := (gone (roundInt (1 + retries)).toNat (by omega)).1
    have before := call_lt_of_allowed belowLimit allowed
    omega

/-- Where the counter stops, an outcome that ends the loop is needed. -/
theorem meets_of_final
    {retries : Int}
    {call : Nat}
    (beyond : limit < retries)
    (within : (call : Int) ≤ retries)
    (final : ¬ FailsRetryably runtime.globals (outcomes call)) :
    MeetsRetrySpecification runtime retries outcomes := by
  have start :
      GoneRound runtime.globals outcomes (roundInt (1 + retries)) 0 :=
    fun _ before => absurd before (Nat.not_lt_zero _)
  rcases retryLoop_run (call + 1) start with ⟨run, ran, ends⟩ | ⟨-, gone⟩
  · have noLater :
        ∀ calls,
          GoneRound runtime.globals outcomes (roundInt (1 + retries)) calls →
          calls ≤ call := by
      intro calls gone
      by_contra later
      exact final (gone call (Nat.not_le.mp later)).2
    refine ⟨_, run, ran, ?_⟩
    cases ends with
    | @spent calls _ spent =>
        have large := limit_lt_bound beyond
        have small : attemptOf calls ≤ limit := Nat.min_le_right _ _
        omega
    | @resolved calls _ gone _ outcome =>
        have early := noLater calls gone
        exact specification_resolved gone outcome (by omega)
    | @rejected calls _ gone _ outcome ends =>
        have early := noLater calls gone
        exact specification_rejected gone outcome ends (by omega)
  · exact absurd (gone call (by omega)).2 final

/-- A dispatch that meets its specification has such `retries` and outcomes. -/
theorem retries_of_meets
    {retries : Int}
    (meets : MeetsRetrySpecification runtime retries outcomes) :
    0 ≤ retries ∧
      (retries ≤ limit ∨
        ∃ call : Nat,
          (call : Int) ≤ retries ∧
            ¬ FailsRetryably runtime.globals (outcomes call)) := by
  have start :
      GoneRound runtime.globals outcomes (roundInt (1 + retries)) 0 :=
    fun _ before => absurd before (Nat.not_lt_zero _)
  obtain ⟨turns, run, ran, meets⟩ := meets
  rcases retryLoop_run turns start with ⟨other, same, ends⟩ | ⟨none_, -⟩
  · cases ran.symm.trans same
    have bounded := meets.atMost
    cases ends with
    | @spent calls gone spent =>
        have allowed := (gone 0 meets.atLeastOnce).1
        have nonneg := retries_nonneg (Int.lt_of_le_of_lt (by decide) allowed)
        refine ⟨nonneg, .inl ?_⟩
        by_contra beyond
        have large := limit_lt_bound (Int.not_le.mp beyond)
        have small : attemptOf calls ≤ limit := Nat.min_le_right _ _
        omega
    | @resolved calls value gone allowed outcome =>
        have nonneg :=
          retries_nonneg (Int.lt_of_le_of_lt (Int.natCast_nonneg _) allowed)
        refine ⟨nonneg, .inr ⟨calls, ?_, ?_⟩⟩
        · push_cast at bounded
          omega
        · rintro ⟨rawErr, failed, -⟩
          rw [outcome] at failed
          cases failed
    | @rejected calls rawErr gone allowed outcome final =>
        have nonneg :=
          retries_nonneg (Int.lt_of_le_of_lt (Int.natCast_nonneg _) allowed)
        refine ⟨nonneg, .inr ⟨calls, ?_, ?_⟩⟩
        · push_cast at bounded
          omega
        · rintro ⟨other, failed, retryable⟩
          rw [outcome] at failed
          cases failed
          rw [final] at retryable
          cases retryable
  · cases ran.symm.trans none_

/-- Readings of attempts with these outcomes, whose token does not fire. -/
structure ReadsOutcomes
    (outcomes : Nat → Except Rejection Value)
    {opts : DispatchOptions}
    (readings : List (AttemptReading runtime opts Value)) : Prop where
  quiet :
    ∀ reading ∈ readings, reading.fires = none ∧ reading.tokenAfter = none
  same :
    ∀ place reading,
      readings[place]? = some reading →
      outcomes place = reading.withRaces
  inside : readings.length ≤ limit

/-- The dispatch follows the readings, as far as there are any. -/
theorem ReadsOutcomes.dispatchLoop_eq
    {opts : DispatchOptions}
    {readings : List (AttemptReading runtime opts Value)}
    {retries : Int}
    {turns : Nat}
    {run : RetryRun Value}
    (reads : ReadsOutcomes outcomes readings)
    (ran :
      retryDispatch runtime (fun _ => none) outcomes retries turns = some run)
    (enough : run.calls ≤ readings.length) :
    let loop :=
      dispatchLoop (.finite (roundInt (1 + retries))) readings 0 none none
    loop.made.length = run.calls ∧ loop.ended = run.ended := by
  have same :
      ∀ place reading,
        readings[place]? = some reading →
        outcomes (0 + place) = reading.withRaces := by
    intro place reading found
    rw [Nat.zero_add]
    exact reads.same place reading found
  obtain ⟨made, ended⟩ :=
    dispatchLoop_eq_retryLoop turns readings reads.quiet same
      (by rw [Nat.zero_add]; exact reads.inside) ran
      (by rw [Nat.zero_add]; exact enough)
  rw [Nat.zero_add] at made
  exact ⟨made, ended⟩

/--
The dispatch meets its specification exactly when `retries` is not negative,
and the counter does not stop before an outcome ends the loop.  Where the
counter does not stop it makes the calls of the loop over readings, and ends
the same way.
-/
theorem meetsRetrySpecification_iff
    (runtime : DispatchRuntime)
    (retries : Int)
    (outcomes : Nat → Except Rejection Value) :
    (MeetsRetrySpecification runtime retries outcomes ↔
      0 ≤ retries ∧
        (retries ≤ 2 ^ 53 ∨
          ∃ call : Nat,
            (call : Int) ≤ retries ∧
              ¬ FailsRetryably runtime.globals (outcomes call))) ∧
      ∀ (opts : DispatchOptions)
        (readings : List (AttemptReading runtime opts Value)) turns run,
        ReadsOutcomes outcomes readings →
        retryDispatch runtime (fun _ => none) outcomes retries turns =
          some run →
        run.calls ≤ readings.length →
        (dispatchLoop (.finite (roundInt (1 + retries))) readings 0 none
              none).made.length = run.calls ∧
          (dispatchLoop (.finite (roundInt (1 + retries))) readings 0 none
              none).ended = run.ended := by
  refine ⟨⟨retries_of_meets, ?_⟩, ?_⟩
  · rintro ⟨nonneg, inside | ⟨call, within, final⟩⟩
    · exact meets_of_le nonneg inside
    · by_cases inside : retries ≤ limit
      · exact meets_of_le nonneg inside
      · exact meets_of_final (Int.not_le.mp inside) within final
  · intro opts readings turns run reads ran enough
    exact reads.dispatchLoop_eq ran enough

/-- With a negative `retries` no call is made, and `undefined` is thrown. -/
theorem not_meetsRetrySpecification_negative :
    retryDispatch wholeNumbers (fun _ => none)
        (fun _ => (.ok 7 : Except Rejection Nat)) (-1) 1 =
      some { calls := 0, ended := .nothing } ∧
    ¬ MeetsRetrySpecification wholeNumbers (-1)
      fun _ => (.ok 7 : Except Rejection Nat) := by
  refine ⟨rfl, ?_⟩
  rintro ⟨turns, run, ran, meets⟩
  cases turns with
  | zero => cases ran
  | succ turns =>
      cases ran
      exact absurd meets.atLeastOnce (by decide)

end Runs

end CloudflareParallel
