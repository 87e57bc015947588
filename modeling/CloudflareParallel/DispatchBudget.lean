import CloudflareParallel.DispatchAttempts
import Mathlib.Tactic.Linarith

namespace CloudflareParallel

/-!
# When the attempts of a dispatch start

The timers of a dispatch are made anew for every attempt, after its task has
been called, and the backoff lies between the attempts.  A schedule says how
long each attempt takes and who settles it, what the backoff draws, and when the
token fires; the clock of the dispatch follows from that.
-/

variable {runtime : DispatchRuntime}
variable {opts : DispatchOptions}
variable {Value : Type}

/-! ## The attempts that a loop makes -/

namespace AttemptReading

/-- The attempt ends so that the loop comes to the next call. -/
def GoesRound (reading : AttemptReading runtime opts Value) : Prop :=
  ∃ rawErr,
    reading.withRaces = .error rawErr ∧
      (marshalError runtime.globals rawErr).isRetryable = true ∧
        reading.tokenAfter = none

variable {reading : AttemptReading runtime opts Value}

/-- Where a limit throws, no attempt goes round. -/
theorem GoesRound.armed
    (round : reading.GoesRound) :
    (opts.timeoutArmed runtime).isSome = true ∧
      (opts.deadlineArmed runtime).isSome = true := by
  obtain ⟨rawErr, raced, retryable, -⟩ := round
  unfold withRaces at raced
  split at raced
  next timeout deadline =>
    rw [timeout, deadline]
    exact ⟨rfl, rfl⟩
  next =>
    cases raced
    rw [isRetryable_typeError] at retryable
    cases retryable

/-- A retryable failure of the task goes round, while the deadline is ahead. -/
theorem goesRound_of_retries
    (retries : reading.Retries)
    (timeout : (opts.timeoutArmed runtime).isSome = true)
    (deadline : (opts.deadlineArmed runtime).isSome = true)
    (ahead :
      opts.deadlineArmed runtime = some true → reading.expired = false) :
    reading.GoesRound := by
  obtain ⟨rawErr, won, retryable⟩ := retries
  obtain ⟨timeoutArmed, timeoutKnown⟩ := Option.isSome_iff_exists.mp timeout
  obtain ⟨deadlineArmed, deadlineKnown⟩ := Option.isSome_iff_exists.mp deadline
  have decided : reading.decidedBy = .task (.error rawErr) := by
    unfold decidedBy
    rw [if_neg, won]
    intro expired
    rw [Bool.and_eq_true, decide_eq_true_eq] at expired
    rw [ahead expired.1] at expired
    cases expired.2
  refine ⟨rawErr, ?_, retryable, ?_⟩
  · unfold withRaces
    rw [timeoutKnown, deadlineKnown, decided]
  · unfold tokenAfter
    rw [timeoutKnown, deadlineKnown, decided]

end AttemptReading

section Loop

variable {maxAttempts : JsDouble}
variable {attempt : Nat}
variable {reading : AttemptReading runtime opts Value}
variable {rest : List (AttemptReading runtime opts Value)}

/-- Without an attempt that is allowed and not cancelled, none is made. -/
theorem length_made_of_stopped
    (lastError : Option ParallelError)
    (stopped :
      (JsDouble.ofNat attempt).lessThan maxAttempts = false ∨
        reading.fires ≠ none) :
    (dispatchLoop maxAttempts (reading :: rest) attempt none
      lastError).made.length = 0 := by
  cases allowed : (JsDouble.ofNat attempt).lessThan maxAttempts with
  | false =>
      rw [dispatchLoop_spent _ _ allowed]
      rfl
  | true =>
      obtain ⟨reason, fired⟩ :=
        Option.ne_none_iff_exists'.mp
          (stopped.resolve_left (by rw [allowed]; exact Bool.noConfusion))
      rw [dispatchLoop, if_pos allowed]
      simp only [fired, List.length_nil]

/-- An attempt that does not go round is the last one. -/
theorem length_made_of_last
    (lastError : Option ParallelError)
    (allowed : (JsDouble.ofNat attempt).lessThan maxAttempts = true)
    (quiet : reading.fires = none)
    (last : ¬ reading.GoesRound) :
    (dispatchLoop maxAttempts (reading :: rest) attempt none
      lastError).made.length = 1 := by
  cases raced : reading.withRaces with
  | ok value =>
      rw [dispatchLoop, if_pos allowed]
      simp only [quiet, raced, List.length_singleton]
  | error rawErr =>
      cases retryable : (marshalError runtime.globals rawErr).isRetryable with
      | false =>
          rw [dispatchLoop, if_pos allowed]
          simp only [quiet, raced, endsLoop_eq, retryable, Bool.not_false,
            if_true, List.length_singleton]
      | true =>
          obtain ⟨reason, fired⟩ :=
            Option.ne_none_iff_exists'.mp fun silent =>
              last ⟨rawErr, raced, retryable, silent⟩
          rw [dispatchLoop_retries rest allowed quiet raced retryable, fired]
          simp only [List.length_cons, made_dispatchLoop_fired,
            List.length_nil]

/-- An attempt that goes round has the attempts of the rest behind it. -/
theorem length_made_of_goesRound
    (lastError : Option ParallelError)
    (allowed : (JsDouble.ofNat attempt).lessThan maxAttempts = true)
    (quiet : reading.fires = none)
    (round : reading.GoesRound) :
    ∃ err,
      (dispatchLoop maxAttempts (reading :: rest) attempt none
          lastError).made.length =
        (dispatchLoop maxAttempts rest (attempt + 1) none
          (some err)).made.length + 1 := by
  obtain ⟨rawErr, raced, retryable, silent⟩ := round
  rw [dispatchLoop_retries rest allowed quiet raced retryable, silent]
  exact ⟨_, rfl⟩

/-- Which attempts a loop makes. -/
theorem lt_length_made_iff
    (readings : List (AttemptReading runtime opts Value))
    (attempt : Nat)
    (lastError : Option ParallelError)
    (number : Nat) :
    number <
        (dispatchLoop maxAttempts readings attempt none
          lastError).made.length ↔
      number < readings.length ∧
        (∀ earlier ≤ number,
          (JsDouble.ofNat (attempt + earlier)).lessThan maxAttempts = true) ∧
        (∀ reading ∈ readings.take (number + 1), reading.fires = none) ∧
        ∀ reading ∈ readings.take number, reading.GoesRound := by
  induction readings generalizing attempt lastError number with
  | nil =>
      rw [made_dispatchLoop_nil]
      simp
  | cons reading rest inductionHypothesis =>
      by_cases makes :
          (JsDouble.ofNat attempt).lessThan maxAttempts = true ∧
            reading.fires = none
      · obtain ⟨allowed, quiet⟩ := makes
        by_cases round : reading.GoesRound
        · obtain ⟨err, length⟩ :
              ∃ err,
                (dispatchLoop maxAttempts (reading :: rest) attempt none
                    lastError).made.length =
                  (dispatchLoop maxAttempts rest (attempt + 1) none
                    (some err)).made.length + 1 :=
            length_made_of_goesRound lastError allowed quiet round
          rw [length]
          cases number with
          | zero =>
              simp [allowed, quiet]
          | succ number =>
              rw [Nat.succ_lt_succ_iff, inductionHypothesis (attempt + 1),
                List.length_cons, Nat.succ_lt_succ_iff, List.take_succ_cons,
                List.take_succ_cons, List.forall_mem_cons, List.forall_mem_cons]
              refine and_congr_right fun _ => ?_
              refine and_congr
                ⟨fun later earlier le => ?_, fun all earlier le => ?_⟩
                (and_congr ⟨fun later => ⟨quiet, later⟩, And.right⟩
                  ⟨fun later => ⟨round, later⟩, And.right⟩)
              · cases earlier with
                | zero => exact allowed
                | succ earlier =>
                    rw [← Nat.add_assoc, Nat.add_right_comm]
                    exact later earlier (Nat.le_of_succ_le_succ le)
              · rw [Nat.add_right_comm, Nat.add_assoc]
                exact all (earlier + 1) (Nat.succ_le_succ le)
        · rw [length_made_of_last lastError allowed quiet round]
          cases number with
          | zero => simp [allowed, quiet]
          | succ number =>
              refine ⟨fun one => absurd one (by omega), fun goes => ?_⟩
              exact absurd (goes.2.2.2 reading List.mem_cons_self) round
      · rw [length_made_of_stopped lastError]
        · refine ⟨fun none_ => absurd none_ (Nat.not_lt_zero _), fun goes => ?_⟩
          refine absurd ⟨?_, goes.2.2.1 reading List.mem_cons_self⟩ makes
          exact goes.2.1 0 (Nat.zero_le _)
        · rw [not_and_or, Bool.not_eq_true] at makes
          exact makes

end Loop

/-! ## Schedules -/

/-- `delay`: the backoff of an attempt, for a draw of `Math.random()`. -/
def backoffDelay
    (baseDelay : Rat)
    (err : ParallelError)
    (attempt : Nat)
    (random : Rat) : Rat :=
  let factor : Rat :=
    if err.classMeets ErrorClass.isBackpressureError then 3 / 2 else 2
  let jitter := 1 / 2 + random
  min (baseDelay * factor ^ attempt * jitter) 5000

/-- An attempt that could be made, with what happens in it and behind it. -/
structure TimedAttempt
    (runtime : DispatchRuntime)
    (opts : DispatchOptions)
    (Value : Type) where
  winner : RaceWinner Value
  takesPart : opts.armed runtime winner = true
  /-- From the call of the task until the race is decided. -/
  duration : Rat
  lasts : 0 ≤ duration
  /-- `Math.random()`, for the backoff behind the attempt. -/
  random : Rat
  drawn : 0 ≤ random ∧ random < 1
  /-- How late the timer of that backoff is. -/
  late : Rat
  waits : 0 ≤ late

namespace TimedAttempt

/-- The task settles the race, with what is taken for a retryable error. -/
def Retries (attempt : TimedAttempt runtime opts Value) : Prop :=
  ∃ rawErr,
    attempt.winner = .task (.error rawErr) ∧
      (marshalError runtime.globals rawErr).isRetryable = true

/-- `setTimeout(r, delay)`, behind the attempt with this number. -/
def pause
    (baseDelay : Rat)
    (number : Nat)
    (attempt : TimedAttempt runtime opts Value) : Rat :=
  match attempt.winner with
  | .task (.error rawErr) =>
      let err := marshalError runtime.globals rawErr
      max (backoffDelay baseDelay err number attempt.random) 0 + attempt.late
  | _ => 0

theorem pause_nonneg
    (baseDelay : Rat)
    (number : Nat)
    (attempt : TimedAttempt runtime opts Value) :
    0 ≤ attempt.pause baseDelay number := by
  unfold pause
  split
  · exact add_nonneg (le_max_right _ _) attempt.waits
  · exact le_refl 0

end TimedAttempt

/-- What a dispatch meets with while it goes on. -/
structure DispatchSchedule
    (runtime : DispatchRuntime)
    (opts : DispatchOptions)
    (Value : Type) where
  /-- When the dispatch itself starts. -/
  start : Rat
  retryDelay : Option Rat
  /-- When the token fires, and for what reason. -/
  firesAt : Option (Rat × Option String)
  hasToken : firesAt.isSome → opts.cancel = true
  attempts : List (TimedAttempt runtime opts Value)

namespace DispatchOptions

/-- The number that a limit is compared as. -/
def numberOf
    (runtime : DispatchRuntime)
    (limit : Option OptionValue) : Option JsDouble :=
  limit.bind runtime.numerics.toNumber

/-- `opts.deadlineEpochMs - Date.now() <= 0`. -/
def expiredAt
    (runtime : DispatchRuntime)
    (opts : DispatchOptions)
    (now : Rat) : Bool :=
  match numberOf runtime opts.deadlineEpochMs with
  | some (.finite deadline) => deadline ≤ now
  | some (.infinite negative) => negative
  | _ => false

end DispatchOptions

namespace DispatchSchedule

variable (schedule : DispatchSchedule runtime opts Value)

/-- `opts.retryDelay ?? 100`. -/
def baseDelay : Rat :=
  schedule.retryDelay.getD 100

/-- The time that attempts take, from the attempt with this number on. -/
def timeOf : Nat → List (TimedAttempt runtime opts Value) → Rat
  | _, [] => 0
  | number, attempt :: rest =>
      attempt.duration + attempt.pause schedule.baseDelay number +
        timeOf (number + 1) rest

/-- When the task is called for the attempt with this number. -/
def startOf (number : Nat) : Rat :=
  schedule.start + schedule.timeOf 0 (schedule.attempts.take number)

/-- The reason of the token at a time, if it has fired. -/
def tokenAt (now : Rat) : Option (Option String) :=
  match schedule.firesAt with
  | some (time, reason) => if time ≤ now then some reason else none
  | none => none

/-- What an attempt reads from outside at its start. -/
def readingAt
    (now : Rat)
    (attempt : TimedAttempt runtime opts Value) :
    AttemptReading runtime opts Value where
  fires := schedule.tokenAt now
  hasToken fired := by
    refine schedule.hasToken ?_
    unfold tokenAt at fired
    split at fired
    next same => rw [same]; rfl
    next => cases fired
  expired := opts.expiredAt runtime now
  winner := attempt.winner
  takesPart := attempt.takesPart

/-- What the attempts read, each at its own start. -/
def readings : List (AttemptReading runtime opts Value) :=
  schedule.attempts.mapIdx fun number =>
    schedule.readingAt (schedule.startOf number)

/-- `dispatchWithResilience`, on the schedule. -/
def run : DispatchRun runtime opts Value :=
  dispatchWithResilience schedule.readings

/-- The times at which `taskFactory` is called. -/
def calls : List Rat :=
  (List.range schedule.run.made.length).map schedule.startOf

/-- The limits that do not depend on the token, at a time. -/
structure InBudget (now : Rat) : Prop where
  beforeDeadline :
    ∀ deadline,
      DispatchOptions.numberOf runtime opts.deadlineEpochMs =
        some (.finite deadline) →
      now < deadline
  beforeTimeout :
    ∀ timeout,
      DispatchOptions.numberOf runtime opts.timeout = some (.finite timeout) →
      0 < timeout →
      now < schedule.start + timeout

/-- No attempt starts outside the budget, or after the token has fired. -/
def KeepsBudget : Prop :=
  ∀ now ∈ schedule.calls,
    schedule.InBudget now ∧
      ∀ time reason, schedule.firesAt = some (time, reason) → now < time

/--
The attempts before the one with this number fail retryably, the limits allow
it, and the token has not fired when its turn comes.
-/
structure ComesTo (number : Nat) : Prop where
  known : number < schedule.attempts.length
  allowed : (opts.attemptLimit runtime).Allows (number + 1)
  quiet : schedule.tokenAt (schedule.startOf number) = none
  failed : ∀ attempt ∈ schedule.attempts.take number, attempt.Retries

/-! ## The clock of a schedule -/

variable {schedule : DispatchSchedule runtime opts Value}

theorem timeOf_nonneg
    (attempts : List (TimedAttempt runtime opts Value))
    (number : Nat) :
    0 ≤ schedule.timeOf number attempts := by
  induction attempts generalizing number with
  | nil => exact le_refl 0
  | cons attempt rest inductionHypothesis =>
      have pause := attempt.pause_nonneg schedule.baseDelay number
      have later := inductionHypothesis (number + 1)
      exact add_nonneg (add_nonneg attempt.lasts pause) later

theorem timeOf_append
    (first second : List (TimedAttempt runtime opts Value))
    (number : Nat) :
    schedule.timeOf number (first ++ second) =
      schedule.timeOf number first +
        schedule.timeOf (number + first.length) second := by
  induction first generalizing number with
  | nil => exact (zero_add _).symm
  | cons attempt rest inductionHypothesis =>
      rw [List.cons_append, timeOf, timeOf, inductionHypothesis,
        List.length_cons, Nat.add_right_comm, Nat.add_assoc]
      linarith

/-- An attempt starts no earlier than the ones before it. -/
theorem startOf_le
    {earlier number : Nat}
    (le : earlier ≤ number) :
    schedule.startOf earlier ≤ schedule.startOf number := by
  have parts := List.take_append_drop earlier (schedule.attempts.take number)
  rw [List.take_take, Nat.min_eq_left le] at parts
  unfold startOf
  rw [← parts, timeOf_append]
  have later :
      0 ≤ schedule.timeOf (0 + (schedule.attempts.take earlier).length)
        ((schedule.attempts.take number).drop earlier) :=
    timeOf_nonneg _ _
  linarith

/-- A token that has not fired had not fired before. -/
theorem tokenAt_of_le
    {earlier now : Rat}
    (le : earlier ≤ now)
    (quiet : schedule.tokenAt now = none) :
    schedule.tokenAt earlier = none := by
  unfold tokenAt at quiet ⊢
  split at quiet
  next time reason fires =>
    split at quiet
    next => cases quiet
    next ahead =>
      exact if_neg fun fired => ahead (le_trans fired le)
  next => rfl

/-- What holds of the readings of some attempts. -/
theorem forall_mem_take_readings
    {holds : AttemptReading runtime opts Value → Prop}
    (number : Nat) :
    (∀ reading ∈ schedule.readings.take number, holds reading) ↔
      ∀ place < number,
        ∀ attempt,
          schedule.attempts[place]? = some attempt →
          holds (schedule.readingAt (schedule.startOf place) attempt) := by
  constructor
  · intro all place before attempt found
    refine all _ (List.mem_take_iff_getElem.mpr ?_)
    obtain ⟨inside, same⟩ := List.getElem?_eq_some_iff.mp found
    refine ⟨place, ?_, ?_⟩
    · unfold readings
      rw [List.length_mapIdx]
      omega
    · unfold readings
      rw [List.getElem_mapIdx, same]
  · intro all reading member
    obtain ⟨place, inside, same⟩ := List.mem_take_iff_getElem.mp member
    unfold readings at inside same
    rw [List.length_mapIdx] at inside
    rw [List.getElem_mapIdx] at same
    rw [← same]
    refine all place (by omega) _ ?_
    exact List.getElem?_eq_getElem (by omega)

/-- Which attempts the dispatch makes. -/
theorem lt_length_made_run_iff (number : Nat) :
    number < schedule.run.made.length ↔
      number < schedule.attempts.length ∧
        (∃ maxAttempts,
          opts.maxAttempts runtime = some maxAttempts ∧
            maxAttempts.Allows (number + 1)) ∧
          schedule.tokenAt (schedule.startOf number) = none ∧
            ∀ place < number,
              ∀ attempt,
                schedule.attempts[place]? = some attempt →
                (schedule.readingAt (schedule.startOf place)
                  attempt).GoesRound := by
  have length : schedule.readings.length = schedule.attempts.length :=
    List.length_mapIdx
  unfold run dispatchWithResilience
  split
  next unknown =>
    refine ⟨fun none_ => absurd none_ (Nat.not_lt_zero _), fun comes => ?_⟩
    obtain ⟨-, ⟨maxAttempts, known, -⟩, -⟩ := comes
    rw [unknown] at known
    cases known
  next maxAttempts known =>
    rw [lt_length_made_iff, length, forall_mem_take_readings,
      forall_mem_take_readings]
    refine and_congr_right fun inside => ?_
    refine and_congr ⟨fun all => ?_, ?_⟩ (and_congr ⟨fun all => ?_, ?_⟩ Iff.rfl)
    · refine ⟨maxAttempts, known, fun attempt before => ?_⟩
      have allowed := all attempt (Nat.le_of_lt_succ before)
      rw [Nat.zero_add] at allowed
      exact allowed
    · rintro ⟨other, same, allows⟩ earlier le
      cases known.symm.trans same
      rw [Nat.zero_add]
      exact allows earlier (Nat.lt_succ_of_le le)
    · exact
        all number (Nat.lt_succ_self _) _ (List.getElem?_eq_getElem inside)
    · intro quiet place before attempt _
      exact tokenAt_of_le (startOf_le (Nat.le_of_lt_succ before)) quiet

/-! ## The budget -/

/-- A number that an attempt comes to was preceded by numbers it came to. -/
theorem ComesTo.earlier
    {earlier number : Nat}
    (comes : schedule.ComesTo number)
    (le : earlier ≤ number) :
    schedule.ComesTo earlier where
  known := Nat.lt_of_le_of_lt le comes.known
  allowed attempt before :=
    comes.allowed attempt (Nat.lt_of_lt_of_le before (Nat.succ_le_succ le))
  quiet := tokenAt_of_le (startOf_le le) comes.quiet
  failed attempt member :=
    comes.failed attempt
      ((List.take_prefix_take_left le).subset member)

/-- Where the deadline is ahead, it has not expired. -/
theorem expiredAt_of_inBudget
    {now : Rat}
    (budget : schedule.InBudget now)
    (armed : opts.deadlineArmed runtime = some true) :
    opts.expiredAt runtime now = false := by
  unfold DispatchOptions.expiredAt
  cases read : DispatchOptions.numberOf runtime opts.deadlineEpochMs with
  | none => rfl
  | some number =>
      cases number with
      | finite deadline =>
          exact decide_eq_false (not_le.mpr (budget.beforeDeadline _ read))
      | nan => rfl
      | infinite negative =>
          obtain ⟨limit, given, number⟩ := Option.bind_eq_some_iff.mp read
          unfold DispatchOptions.deadlineArmed at armed
          rw [given] at armed
          have positive :=
            runtime.numerics.isPositive_of_truthyPositive armed number
          cases negative with
          | true => cases positive
          | false => rfl

/-- An attempt that is made is one that the dispatch comes to. -/
theorem comesTo_of_made
    {number : Nat}
    (made : number < schedule.run.made.length) :
    schedule.ComesTo number := by
  obtain ⟨known, -, quiet, rounds⟩ :=
    (lt_length_made_run_iff number).mp made
  refine ⟨known, fun attempt before => ?_, quiet, fun attempt member => ?_⟩
  · have allowed := (exists_length_made_iff _).mp ⟨schedule.readings, rfl⟩
    exact allowed attempt (Nat.lt_of_lt_of_le before made)
  · obtain ⟨place, inside, same⟩ := List.mem_take_iff_getElem.mp member
    obtain ⟨rawErr, raced, retryable, silent⟩ :=
      rounds place (by omega) attempt
        (same ▸ List.getElem?_eq_getElem (by omega))
    exact AttemptReading.retries_of_withRaces raced retryable silent

/-- While the attempts are in the budget, what the dispatch comes to is made. -/
theorem made_of_comesTo
    {number : Nat}
    (budget :
      ∀ earlier < number,
        earlier < schedule.run.made.length →
        schedule.InBudget (schedule.startOf earlier))
    (comes : schedule.ComesTo number) :
    number < schedule.run.made.length := by
  induction number using Nat.strong_induction_on with
  | h number inductionHypothesis =>
      refine
        (lt_length_made_run_iff number).mpr
          ⟨comes.known, maxAttempts_of_allows (Nat.succ_pos _) comes.allowed,
            comes.quiet, ?_⟩
      intro place before attempt found
      have made :=
        inductionHypothesis place before
          (fun earlier less => budget earlier (Nat.lt_trans less before))
          (comes.earlier (Nat.le_of_lt before))
      have armed := armed_of_allows (by omega) comes.allowed
      refine AttemptReading.goesRound_of_retries ?_ armed.1 armed.2
        fun deadline =>
          expiredAt_of_inBudget (budget place before made) deadline
      obtain ⟨inside, same⟩ := List.getElem?_eq_some_iff.mp found
      refine comes.failed attempt
        (List.mem_take_iff_getElem.mpr ⟨place, ?_, same⟩)
      omega

/--
No attempt starts outside the budget exactly when every attempt that the
retries come to is still within it: the durations and backoffs before it end
before the deadline, and take less than the timeout.
-/
theorem keepsBudget_iff_comesTo
    (schedule : DispatchSchedule runtime opts Value) :
    schedule.KeepsBudget ↔
      ∀ number,
        schedule.ComesTo number →
        schedule.InBudget (schedule.startOf number) := by
  constructor
  · intro keeps number comes
    have inBudget :
        ∀ earlier,
          earlier < schedule.run.made.length →
          schedule.InBudget (schedule.startOf earlier) := by
      intro earlier made
      exact
        (keeps _ (List.mem_map.mpr ⟨earlier, List.mem_range.mpr made, rfl⟩)).1
    exact
      inBudget number
        (made_of_comesTo (fun earlier _ => inBudget earlier) comes)
  · intro within now member
    obtain ⟨number, made, rfl⟩ := List.mem_map.mp member
    have comes := comesTo_of_made (List.mem_range.mp made)
    refine ⟨within number comes, fun time reason fires => ?_⟩
    have quiet := comes.quiet
    unfold tokenAt at quiet
    rw [fires] at quiet
    by_contra late
    exact Option.some_ne_none _ ((if_pos (not_lt.mp late)).symm.trans quiet)

end DispatchSchedule

end CloudflareParallel
