import CloudflareParallel.SubmittedLimits

namespace CloudflareParallel

/-!
# What makes a dispatch try again

Every attempt but the last was settled by its task, with a rejection that
`marshalError` makes a retryable error of.  The timeout, the deadline and the
token end the loop.
-/

section DispatchAttempts

variable {runtime : DispatchRuntime}
variable {opts : DispatchOptions}
variable {Value : Type}

/-- The task settles the race, with what is taken for a retryable error. -/
def AttemptReading.Retries
    (reading : AttemptReading runtime opts Value) : Prop :=
  ∃ rawErr,
    reading.winner = .task (.error rawErr) ∧
      (marshalError runtime.globals rawErr).isRetryable = true

/-- Only its task or its token make an attempt reject with a retryable error. -/
theorem AttemptReading.retries_of_withRaces
    {reading : AttemptReading runtime opts Value}
    {rawErr : Rejection}
    (raced : reading.withRaces = .error rawErr)
    (retryable : (marshalError runtime.globals rawErr).isRetryable = true)
    (noToken : reading.tokenAfter = none) :
    reading.Retries := by
  unfold AttemptReading.withRaces at raced
  unfold AttemptReading.tokenAfter at noToken
  split at raced
  next timeoutPositive deadlinePositive timeout deadline =>
    cases decided : reading.decidedBy with
    | task outcome =>
        rw [decided] at raced
        have settled : reading.winner = .task outcome := by
          unfold AttemptReading.decidedBy at decided
          split at decided
          · cases decided
          · exact decided
        exact ⟨rawErr, by rw [settled, ← raced], retryable⟩
    | timeout =>
        rw [decided] at raced
        cases raced
        rw [isRetryable_timeoutError] at retryable
        cases retryable
    | deadline =>
        rw [decided] at raced
        simp only at raced
        split at raced
        · cases raced
          rw [isRetryable_rangeError] at retryable
          cases retryable
        · cases raced
          rw [isRetryable_deadlineError] at retryable
          cases retryable
    | cancel reason =>
        simp [timeout, deadline, decided] at noToken
  next =>
    cases raced
    rw [isRetryable_typeError] at retryable
    cases retryable

/-- Without a reading left, no attempt is made. -/
theorem made_dispatchLoop_nil
    (maxAttempts : JsDouble)
    (attempt : Nat)
    (token : Option (Option String))
    (lastError : Option ParallelError) :
    (dispatchLoop maxAttempts ([] : List (AttemptReading runtime opts Value))
      attempt token lastError).made = [] := by
  unfold dispatchLoop
  split
  · cases token <;> rfl
  · rfl

/-- A loop whose token has fired makes no more attempts. -/
theorem made_dispatchLoop_fired
    (maxAttempts : JsDouble)
    (readings : List (AttemptReading runtime opts Value))
    (attempt : Nat)
    (reason : Option String)
    (lastError : Option ParallelError) :
    (dispatchLoop maxAttempts readings attempt (some reason)
      lastError).made = [] := by
  unfold dispatchLoop
  split <;> rfl

/-- The loop reads its attempts one after the other. -/
theorem readings_made_dispatchLoop
    (maxAttempts : JsDouble)
    (readings : List (AttemptReading runtime opts Value))
    (attempt : Nat)
    (token : Option (Option String))
    (lastError : Option ParallelError) :
    (dispatchLoop maxAttempts readings attempt token
        lastError).made.map (·.reading) <+: readings := by
  induction readings generalizing attempt token lastError with
  | nil =>
      rw [made_dispatchLoop_nil]
      exact List.nil_prefix
  | cons reading rest inductionHypothesis =>
      generalize equal :
        dispatchLoop maxAttempts (reading :: rest) attempt token lastError =
          run
      cases equal ▸
        loopCase maxAttempts reading rest attempt token lastError with
      | spent | stopped => exact List.nil_prefix
      | resolved | ends => exact List.prefix_append [reading] rest
      | retries _ _ _ later =>
          subst later
          exact List.cons_prefix_cons.mpr ⟨rfl, inductionHypothesis ..⟩

/-- An attempt that is not the last one was retried for its task. -/
theorem retries_of_mem_dropLast
    (maxAttempts : JsDouble)
    (readings : List (AttemptReading runtime opts Value))
    (attempt : Nat)
    (token : Option (Option String))
    (lastError : Option ParallelError) :
    ∀ record ∈
        (dispatchLoop maxAttempts readings attempt token
          lastError).made.dropLast,
      record.reading.Retries := by
  induction readings generalizing attempt token lastError with
  | nil =>
      rw [made_dispatchLoop_nil]
      exact nofun
  | cons reading rest inductionHypothesis =>
      generalize equal :
        dispatchLoop maxAttempts (reading :: rest) attempt token lastError =
          run
      cases equal ▸
        loopCase maxAttempts reading rest attempt token lastError with
      | spent | stopped | resolved | ends => exact nofun
      | retries _ raced retryable later =>
          subst later
          intro record member
          generalize more :
            dispatchLoop maxAttempts rest (attempt + 1) reading.tokenAfter _ =
              later at member
          cases others : later.made with
          | nil =>
              rw [others] at member
              cases member
          | cons second further =>
              rw [others, List.dropLast_cons_cons] at member
              rcases List.mem_cons.mp member with rfl | inLater
              · refine AttemptReading.retries_of_withRaces raced retryable ?_
                cases fired : reading.tokenAfter with
                | none => rfl
                | some reason =>
                    rw [fired] at more
                    rw [← more, made_dispatchLoop_fired] at others
                    cases others
              · rw [← others, ← more] at inLater
                exact inductionHypothesis _ _ _ record inLater

/-! ## What a dispatch resolves to -/

/-- Only the task of an attempt makes it resolve. -/
theorem AttemptReading.winner_of_withRaces
    {reading : AttemptReading runtime opts Value}
    {value : Value}
    (raced : reading.withRaces = .ok value) :
    reading.winner = .task (.ok value) := by
  unfold withRaces at raced
  split at raced
  next =>
    cases decided : reading.decidedBy with
    | task outcome =>
        rw [decided] at raced
        cases raced
        unfold decidedBy at decided
        split at decided
        · cases decided
        · exact decided
    | timeout =>
        rw [decided] at raced
        cases raced
    | deadline =>
        rw [decided] at raced
        simp only at raced
        split at raced <;> cases raced
    | cancel reason =>
        rw [decided] at raced
        cases raced
  next => cases raced

/-- What is thrown behind the loop is no value. -/
theorem thrownAfter_ne_resolved
    (maxAttempts : JsDouble)
    (lastError : Option ParallelError)
    (value : Value) :
    thrownAfter maxAttempts lastError ≠ .resolved value := by
  unfold thrownAfter
  split
  · nofun
  · split <;> nofun

/-- A loop resolves to what the task of one of its attempts resolves to. -/
theorem exists_winner_dispatchLoop
    {maxAttempts : JsDouble}
    {readings : List (AttemptReading runtime opts Value)}
    {attempt : Nat}
    {token : Option (Option String)}
    {lastError : Option ParallelError}
    {value : Value}
    (resolved :
      (dispatchLoop maxAttempts readings attempt token lastError).ended =
        .resolved value) :
    ∃ reading ∈ readings, reading.winner = .task (.ok value) := by
  induction readings generalizing attempt token lastError with
  | nil =>
      unfold dispatchLoop at resolved
      split at resolved
      · cases token <;> cases resolved
      · exact absurd resolved (thrownAfter_ne_resolved _ _ _)
  | cons reading rest inductionHypothesis =>
      unfold dispatchLoop at resolved
      split at resolved
      next =>
        cases token with
        | some reason => cases resolved
        | none =>
            simp only at resolved
            split at resolved
            next => cases resolved
            next =>
              split at resolved
              next raced =>
                cases resolved
                exact
                  ⟨reading, List.mem_cons_self,
                    AttemptReading.winner_of_withRaces raced⟩
              next =>
                split at resolved
                · cases resolved
                · obtain ⟨found, member, won⟩ := inductionHypothesis resolved
                  exact ⟨found, List.mem_cons_of_mem _ member, won⟩
      next => exact absurd resolved (thrownAfter_ne_resolved _ _ _)

/-- A dispatch resolves to what the task of one of its attempts resolves to. -/
theorem exists_winner_of_resolved
    {readings : List (AttemptReading runtime opts Value)}
    {value : Value}
    (resolved : (dispatchWithResilience readings).ended = .resolved value) :
    ∃ reading ∈ readings, reading.winner = .task (.ok value) := by
  unfold dispatchWithResilience at resolved
  split at resolved
  · cases resolved
  · exact exists_winner_dispatchLoop resolved

/-- A dispatch of one attempt comes to a value if the attempt does. -/
theorem resolved_singleton_iff
    (reading : AttemptReading runtime opts Value)
    (value : Value) :
    (dispatchWithResilience [reading]).ended = .resolved value ↔
      (∃ maxAttempts,
        opts.maxAttempts runtime = some maxAttempts ∧
          (JsDouble.ofNat 0).lessThan maxAttempts = true) ∧
        reading.fires = none ∧ reading.withRaces = .ok value := by
  unfold dispatchWithResilience
  cases opts.maxAttempts runtime with
  | none => simp
  | some maxAttempts =>
      simp only [Option.some.injEq, exists_eq_left']
      unfold dispatchLoop
      cases (JsDouble.ofNat 0).lessThan maxAttempts with
      | false => simp [thrownAfter_ne_resolved]
      | true =>
          simp only [↓reduceIte, true_and]
          cases reading.fires with
          | some reason => simp
          | none =>
              cases reading.withRaces with
              | ok other => simp
              | error rawErr =>
                  simp only [reduceCtorEq, and_false, iff_false]
                  intro resolved
                  split at resolved
                  · cases resolved
                  · obtain ⟨_, member, -⟩ :=
                      exists_winner_dispatchLoop resolved
                    exact absurd member List.not_mem_nil

/-! ## Attempts with more to them than their race -/

variable {α : Type} {readingOf : α → AttemptReading runtime opts Value}

/-- The attempts that a dispatch makes, of those that it could make. -/
def madeOf
    (readingOf : α → AttemptReading runtime opts Value)
    (attempts : List α) : List α :=
  attempts.take (dispatchWithResilience (attempts.map readingOf)).made.length

/-- The readings of the attempts made are read one after the other. -/
theorem readings_made_dispatch
    (readings : List (AttemptReading runtime opts Value)) :
    (dispatchWithResilience readings).made.map (·.reading) <+: readings := by
  unfold dispatchWithResilience
  split
  · exact List.nil_prefix
  · exact readings_made_dispatchLoop ..

/-- What is read of the attempts made is what the loop recorded. -/
theorem map_madeOf (attempts : List α) :
    (madeOf readingOf attempts).map readingOf =
      (dispatchWithResilience (attempts.map readingOf)).made.map
        (·.reading) := by
  have start :=
    List.prefix_iff_eq_take.mp
      (readings_made_dispatch (attempts.map readingOf))
  rw [madeOf, List.map_take, start, List.length_map]

/-- A dispatch makes as many attempts as its limit allows at most. -/
theorem allows_length_madeOf (attempts : List α) :
    (opts.attemptLimit runtime).Allows
      (madeOf readingOf attempts).length := by
  have same := congrArg List.length (@map_madeOf _ _ _ _ readingOf attempts)
  rw [List.length_map, List.length_map] at same
  rw [same]
  exact (exists_length_made_iff _).mp ⟨_, rfl⟩

/-- Every attempt made but the last was retried for its task. -/
theorem retries_of_mem_madeOf
    (attempts : List α) :
    ∀ attempt ∈ (madeOf readingOf attempts).dropLast,
      (readingOf attempt).Retries := by
  intro attempt member
  have inReadings :
      readingOf attempt ∈
        ((madeOf readingOf attempts).map readingOf).dropLast := by
    rw [← List.map_dropLast]
    exact List.mem_map_of_mem member
  rw [map_madeOf, ← List.map_dropLast] at inReadings
  obtain ⟨record, recordMember, same⟩ := List.mem_map.mp inReadings
  rw [← same]
  unfold dispatchWithResilience at recordMember
  split at recordMember
  · cases recordMember
  · exact retries_of_mem_dropLast _ _ _ _ _ record recordMember

/-- Attempts are allowed only if the loop has a limit that allows them. -/
theorem maxAttempts_of_allows
    {count : Nat}
    (some_ : 0 < count)
    (allowed : (opts.attemptLimit runtime).Allows count) :
    ∃ maxAttempts,
      opts.maxAttempts runtime = some maxAttempts ∧
        maxAttempts.Allows count := by
  unfold DispatchOptions.attemptLimit at allowed
  cases known : opts.maxAttempts runtime with
  | none =>
      rw [known, allows_ofNat_iff] at allowed
      omega
  | some maxAttempts =>
      refine ⟨maxAttempts, rfl, ?_⟩
      rw [known] at allowed
      cases timeout : opts.timeoutArmed runtime with
      | none =>
          simp only [timeout, allows_single_iff] at allowed
          exact allowed.2
      | some timeoutPositive =>
          cases deadline : opts.deadlineArmed runtime with
          | none =>
              simp only [timeout, deadline, allows_single_iff] at allowed
              exact allowed.2
          | some deadlinePositive =>
              simpa only [timeout, deadline] using allowed

/-- More attempts than one are allowed only if no limit throws. -/
theorem armed_of_allows
    {count : Nat}
    (several : 1 < count)
    (allowed : (opts.attemptLimit runtime).Allows count) :
    (opts.timeoutArmed runtime).isSome = true ∧
      (opts.deadlineArmed runtime).isSome = true := by
  unfold DispatchOptions.attemptLimit at allowed
  cases known : opts.maxAttempts runtime with
  | none =>
      rw [known, allows_ofNat_iff] at allowed
      omega
  | some maxAttempts =>
      rw [known] at allowed
      cases timeout : opts.timeoutArmed runtime with
      | none =>
          simp only [timeout, allows_single_iff] at allowed
          omega
      | some timeoutPositive =>
          cases deadline : opts.deadlineArmed runtime with
          | none =>
              simp only [timeout, deadline, allows_single_iff] at allowed
              omega
          | some deadlinePositive =>
              exact ⟨rfl, rfl⟩

/-- A token that does not fire need not be there. -/
theorem hasToken_of_silent :
    (none : Option (Option String)).isSome → opts.cancel = true := by
  intro fires
  cases fires

/-- An attempt whose task settles the race in time, with the token silent. -/
def AttemptReading.settledBy
    (outcome : Except Rejection Value) : AttemptReading runtime opts Value where
  fires := none
  hasToken := hasToken_of_silent
  expired := false
  winner := .task outcome
  takesPart := rfl

/-- The race of such an attempt. -/
theorem AttemptReading.withRaces_settledBy
    (timeout : (opts.timeoutArmed runtime).isSome = true)
    (deadline : (opts.deadlineArmed runtime).isSome = true)
    (outcome : Except Rejection Value) :
    (settledBy outcome : AttemptReading runtime opts Value).withRaces =
        outcome ∧
      (settledBy outcome : AttemptReading runtime opts Value).tokenAfter =
        none := by
  have decided :
      (settledBy outcome : AttemptReading runtime opts Value).decidedBy =
        .task outcome := by
    simp [decidedBy, settledBy]
  obtain ⟨timeoutPositive, timeoutKnown⟩ := Option.isSome_iff_exists.mp timeout
  obtain ⟨deadlinePositive, deadlineKnown⟩ :=
    Option.isSome_iff_exists.mp deadline
  simp [withRaces, tokenAfter, timeoutKnown, deadlineKnown, decided]

/-- The last reading of a loop is read if an attempt is allowed. -/
theorem length_made_dispatchLoop_singleton
    {maxAttempts : JsDouble}
    {reading : AttemptReading runtime opts Value}
    {attempt : Nat}
    {lastError : Option ParallelError}
    (allowed : (JsDouble.ofNat attempt).lessThan maxAttempts = true)
    (quiet : reading.fires = none) :
    (dispatchLoop maxAttempts [reading] attempt none
      lastError).made.length = 1 := by
  unfold dispatchLoop
  simp only [allowed, ↓reduceIte, quiet]
  cases reading.withRaces with
  | ok value =>
      rfl
  | error rawErr =>
      dsimp only
      split
      · rfl
      · rw [made_dispatchLoop_nil]
        rfl

/-- An attempt that comes to a value was made. -/
theorem length_made_of_resolved
    {reading : AttemptReading runtime opts Value}
    {value : Value}
    (resolved : (dispatchWithResilience [reading]).ended = .resolved value) :
    (dispatchWithResilience [reading]).made.length = 1 := by
  obtain ⟨⟨maxAttempts, known, allowed⟩, quiet, -⟩ :=
    (resolved_singleton_iff reading value).mp resolved
  unfold dispatchWithResilience
  rw [known]
  exact length_made_dispatchLoop_singleton allowed quiet

/-- Where one attempt is allowed, it is made. -/
theorem madeOf_singleton
    (one : (opts.attemptLimit runtime).Allows 1)
    {attempt : α}
    (quiet : (readingOf attempt).fires = none) :
    madeOf readingOf [attempt] = [attempt] := by
  obtain ⟨maxAttempts, known, first⟩ := maxAttempts_of_allows Nat.one_pos one
  have single :
      (dispatchWithResilience [readingOf attempt]).made.length = 1 := by
    unfold dispatchWithResilience
    simp only [known]
    exact length_made_dispatchLoop_singleton (first 0 Nat.one_pos) quiet
  rw [madeOf, List.map_singleton, single]
  rfl

/-- Where two attempts are allowed, a retryable first one is followed. -/
theorem madeOf_pair
    (two : (opts.attemptLimit runtime).Allows 2)
    {first second : α}
    {rawErr : Rejection}
    (firstReading : readingOf first = .settledBy (.error rawErr))
    (quiet : (readingOf second).fires = none)
    (retryable : (marshalError runtime.globals rawErr).isRetryable = true) :
    madeOf readingOf [first, second] = [first, second] := by
  obtain ⟨maxAttempts, known, allowed⟩ :=
    maxAttempts_of_allows Nat.two_pos two
  obtain ⟨timeout, deadline⟩ := armed_of_allows (by omega) two
  obtain ⟨raced, idle⟩ :=
    @AttemptReading.withRaces_settledBy runtime opts Value timeout deadline
      (.error rawErr)
  have both :
      (dispatchWithResilience
          [readingOf first, readingOf second]).made.length =
        2 := by
    rw [firstReading]
    unfold dispatchWithResilience
    simp only [known]
    rw [dispatchLoop_retries _ (allowed 0 (by omega)) rfl raced retryable,
      idle]
    exact
      congrArg (· + 1)
        (length_made_dispatchLoop_singleton (allowed 1 (by omega)) quiet)
  rw [madeOf, List.map_cons, List.map_singleton, both]
  rfl

end DispatchAttempts

/-! ## Another value -/

section Values

variable {runtime : DispatchRuntime}
variable {opts : DispatchOptions}
variable {Value Other : Type}

/-- The same racer, with the value of the task replaced. -/
def RaceWinner.map
    (replace : Value → Other) : RaceWinner Value → RaceWinner Other
  | .task outcome => .task (outcome.map replace)
  | .timeout => .timeout
  | .deadline => .deadline
  | .cancel reason => .cancel reason

/-- Whether a racer can settle is no matter of the value. -/
theorem armed_map
    (replace : Value → Other)
    (winner : RaceWinner Value) :
    opts.armed runtime (winner.map replace) = opts.armed runtime winner := by
  cases winner <;> rfl

/-- The same reading, with the value of the task replaced. -/
def AttemptReading.map
    (replace : Value → Other)
    (reading : AttemptReading runtime opts Value) :
    AttemptReading runtime opts Other where
  fires := reading.fires
  hasToken := reading.hasToken
  expired := reading.expired
  winner := reading.winner.map replace
  takesPart := (armed_map replace reading.winner).trans reading.takesPart

/-- The same end, with the value replaced. -/
def DispatchEnd.map
    (replace : Value → Other) : DispatchEnd Value → DispatchEnd Other
  | .resolved value => .resolved (replace value)
  | .rejected err => .rejected err
  | .exhausted attempts lastError => .exhausted attempts lastError
  | .cancelled err => .cancelled err
  | .nothing => .nothing
  | .typeError => .typeError
  | .pending => .pending

/-- The race is decided alike. -/
theorem AttemptReading.decidedBy_map
    (replace : Value → Other)
    (reading : AttemptReading runtime opts Value) :
    (reading.map replace).decidedBy = reading.decidedBy.map replace := by
  unfold decidedBy
  simp only [map]
  rw [apply_ite (RaceWinner.map replace)]
  rfl

/-- The race settles alike. -/
theorem AttemptReading.withRaces_map
    (replace : Value → Other)
    (reading : AttemptReading runtime opts Value) :
    (reading.map replace).withRaces = reading.withRaces.map replace := by
  unfold withRaces
  rw [decidedBy_map]
  split
  · cases reading.decidedBy with
    | deadline =>
        simp only [RaceWinner.map]
        split <;> rfl
    | _ => rfl
  · rfl

/-- The token is left alike. -/
theorem AttemptReading.tokenAfter_map
    (replace : Value → Other)
    (reading : AttemptReading runtime opts Value) :
    (reading.map replace).tokenAfter = reading.tokenAfter := by
  unfold tokenAfter
  rw [decidedBy_map]
  cases reading.decidedBy <;>
    cases opts.timeoutArmed runtime <;>
    cases opts.deadlineArmed runtime <;> rfl

/-- What is thrown behind the loop is no matter of the value. -/
theorem thrownAfter_map
    (replace : Value → Other)
    (maxAttempts : JsDouble)
    (lastError : Option ParallelError) :
    thrownAfter maxAttempts lastError =
      (thrownAfter maxAttempts lastError : DispatchEnd Value).map
        replace := by
  unfold thrownAfter
  split
  · rfl
  · split <;> rfl

/-- A loop does as many attempts with another value, and ends alike. -/
theorem dispatchLoop_map
    (replace : Value → Other)
    (maxAttempts : JsDouble)
    (readings : List (AttemptReading runtime opts Value))
    (attempt : Nat)
    (token : Option (Option String))
    (lastError : Option ParallelError) :
    (dispatchLoop maxAttempts (readings.map (·.map replace)) attempt token
          lastError).made.length =
        (dispatchLoop maxAttempts readings attempt token
          lastError).made.length ∧
      (dispatchLoop maxAttempts (readings.map (·.map replace)) attempt token
          lastError).ended =
        (dispatchLoop maxAttempts readings attempt token
          lastError).ended.map replace := by
  induction readings generalizing attempt token lastError with
  | nil =>
      unfold dispatchLoop
      split
      · cases token <;> exact ⟨rfl, rfl⟩
      · exact ⟨rfl, thrownAfter_map ..⟩
  | cons reading rest later =>
      unfold dispatchLoop
      split
      · cases token with
        | some reason => exact ⟨rfl, rfl⟩
        | none =>
            have silent : (reading.map replace).fires = reading.fires := rfl
            simp only [List.map_cons, silent]
            cases reading.fires with
            | some reason => exact ⟨rfl, rfl⟩
            | none =>
                rw [AttemptReading.withRaces_map,
                  AttemptReading.tokenAfter_map]
                cases reading.withRaces with
                | ok value => exact ⟨rfl, rfl⟩
                | error rawErr =>
                    simp only [Except.map]
                    split
                    · exact ⟨rfl, rfl⟩
                    · obtain ⟨made, ended⟩ :=
                        later (attempt + 1) reading.tokenAfter
                          (some (marshalError runtime.globals rawErr))
                      exact ⟨congrArg (· + 1) made, ended⟩
      · exact ⟨rfl, thrownAfter_map ..⟩

/-- A dispatch makes as many attempts with another value, and ends alike. -/
theorem dispatchWithResilience_map
    (replace : Value → Other)
    (readings : List (AttemptReading runtime opts Value)) :
    (dispatchWithResilience (readings.map (·.map replace))).made.length =
        (dispatchWithResilience readings).made.length ∧
      (dispatchWithResilience (readings.map (·.map replace))).ended =
        (dispatchWithResilience readings).ended.map replace := by
  unfold dispatchWithResilience
  cases opts.maxAttempts runtime with
  | none => exact ⟨rfl, rfl⟩
  | some maxAttempts => exact dispatchLoop_map replace maxAttempts readings ..

end Values

end CloudflareParallel
