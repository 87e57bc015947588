import CloudflareParallel.Coordinator
import CloudflareParallel.DispatchAttempts

namespace CloudflareParallel

/-!
# The dispatch of a fan-out by its pool

`Pool.#fanOut` runs `target.runMany(...)` under `dispatchWithResilience`.  The
closure builds the same request for every attempt, with the same cancel stream.
What the coordinator did in an attempt stays done, whoever settled the race.
-/

/-- What the closure sends, to whom, and the options of the dispatch. -/
structure PoolFanOut where
  runtime : DispatchRuntime
  opts : DispatchOptions
  treeDepth : TreeDepth
  target : CfpCoordinator
  request : CoordinatorFanOutRequest

/-- What happens to one call of the coordinator. -/
inductive PoolHop where
  | delivered
  /-- The call rejects and the coordinator never ran. -/
  | lost (err : Rejection)
  /-- The coordinator ran, and the call rejects all the same. -/
  | answerLost (err : Rejection)

/-- A thrown value as the caller of an RPC gets it. -/
def Thrown.asRejection : Thrown → Rejection
  | .error name message stack _ =>
      .error (.native { name := name, message := message, stack := stack })
  | .string value => .other value
  | .object _ asText => .other asText

namespace PoolFanOut

variable (call : PoolFanOut)

/-- `runMany` of the target. -/
def runMany (platform : Platform) : Except Thrown FanOutResponse :=
  CloudflareParallel.runMany call.treeDepth platform call.target call.request

/-- How the promise of one call settles. -/
def taskOutcome
    (platform : Platform) :
    PoolHop → Except Rejection FanOutResponse
  | .delivered => (call.runMany platform).mapError Thrown.asRejection
  | .lost err => .error err
  | .answerLost err => .error err

end PoolFanOut

/-- One attempt of the closure, with the race around it. -/
structure FanOutAttempt (call : PoolFanOut) where
  platform : Platform
  hop : PoolHop
  reading : AttemptReading call.runtime call.opts FanOutResponse
  settles :
    ∀ outcome,
      reading.winner = .task outcome →
      outcome = call.taskOutcome platform hop

namespace FanOutAttempt

variable {call : PoolFanOut}

/-- What the coordinator did in an attempt. -/
def log (attempt : FanOutAttempt call) : List Activity :=
  match attempt.hop, call.runMany attempt.platform with
  | .lost _, _ => []
  | _, .error _ => []
  | _, .ok response => response.activity

/-- An attempt whose task settles the race in time. -/
def settled
    (call : PoolFanOut)
    (platform : Platform)
    (hop : PoolHop) : FanOutAttempt call where
  platform := platform
  hop := hop
  reading := .settledBy (call.taskOutcome platform hop)
  settles _ same := (RaceWinner.task.inj same).symm

/-- An attempt did nothing, or what a run of the coordinator did. -/
theorem log_eq (attempt : FanOutAttempt call) :
    attempt.log = [] ∨
      ∃ response,
        call.runMany attempt.platform = .ok response ∧
          attempt.log = response.activity := by
  unfold log
  cases attempt.hop with
  | lost err =>
      exact .inl rfl
  | delivered =>
      cases ran : call.runMany attempt.platform with
      | error err => exact .inl rfl
      | ok response => exact .inr ⟨response, rfl, rfl⟩
  | answerLost err =>
      cases ran : call.runMany attempt.platform with
      | error err => exact .inl rfl
      | ok response => exact .inr ⟨response, rfl, rfl⟩

/-- A retried attempt did nothing, or its answer was lost. -/
theorem log_of_retries
    {attempt : FanOutAttempt call}
    (retries : attempt.reading.Retries) :
    attempt.log = [] ∨
      ∃ err,
        attempt.hop = .answerLost err ∧
          (marshalError call.runtime.globals err).isRetryable = true := by
  obtain ⟨rawErr, won, retryable⟩ := retries
  have settled := attempt.settles _ won
  unfold log
  cases hop : attempt.hop with
  | lost err =>
      exact .inl rfl
  | answerLost err =>
      rw [hop] at settled
      cases settled
      exact .inr ⟨_, rfl, retryable⟩
  | delivered =>
      rw [hop] at settled
      cases ran : call.runMany attempt.platform with
      | error err =>
          exact .inl rfl
      | ok response =>
          simp only [PoolFanOut.taskOutcome, ran] at settled
          cases settled

end FanOutAttempt

end CloudflareParallel
