import CloudflareParallel.FanOutOptions

namespace CloudflareParallel

/-!
# When a fan-out starts its work

Neither the coordinators nor the leaves read the clock: what they do is the same
at any time.  A clock says when the coordinator takes up a request, when each
attempt of a call is started and when each function is.  An attempt waits for
the run that makes it, and a retry for the backoff of the attempt before it.
-/

/-- The least of `transientBackoff`: its base, without the jitter. -/
def transientBackoffBase (attempt : Nat) : Int :=
  100 + attempt * 150

/-- When things start in a run, in milliseconds since the epoch. -/
structure FanOutClock where
  /-- The coordinator takes up the request. -/
  arrives : Int
  starts : Path → Int
  executes : Path → RunnerCall → Int

namespace FanOutClock

variable (clock : FanOutClock)

/-- When the target of some attempts can begin; without any, the coordinator. -/
def begins : Path → Int
  | [] => clock.arrives
  | hop :: path => clock.starts (hop :: path)

/-- A clock of the code: nothing starts before what it waits for. -/
structure Valid : Prop where
  first :
    ∀ path target,
      clock.begins path ≤
        clock.starts (path ++ [{ target := target, attempt := 0 }])
  again :
    ∀ path target attempt,
      clock.starts (path ++ [{ target := target, attempt := attempt }]) +
          transientBackoffBase attempt ≤
        clock.starts
          (path ++ [{ target := target, attempt := attempt + 1 }])
  runs : ∀ path call, clock.begins path ≤ clock.executes path call

/-- What an entry starts, it starts before a deadline. -/
def StartsBefore (deadlineEpochMs : Int) : Activity → Prop
  | .execute path call => clock.executes path call < deadlineEpochMs
  | .runBatch _ attempts =>
      ∀ attempt ∈ attempts, clock.starts attempt.path < deadlineEpochMs
  | .dispatch _ attempts =>
      ∀ attempt ∈ attempts, clock.starts attempt.path < deadlineEpochMs

end FanOutClock

namespace CoordinatorFanOutRequest

variable (request : CoordinatorFanOutRequest)

/--
No call and no function of a run starts at or after the deadline of the request,
if it has one.
-/
def KeepsDeadline
    (treeDepth : TreeDepth)
    (self : CfpCoordinator) : Prop :=
  0 < request.envelope.deadlineEpochMs →
    ∀ platform response (clock : FanOutClock),
      runMany treeDepth platform self request = .ok response →
      clock.Valid →
      Throughout (clock.StartsBefore request.envelope.deadlineEpochMs)
        response.activity

/-- The coordinator has jobs, a plan for them and the bindings of the plan. -/
def StartsWork
    (treeDepth : TreeDepth)
    (self : CfpCoordinator) : Prop :=
  0 < request.argsList.length ∧
    ∃ plan,
      selectTopology treeDepth request.argsList.length
          request.selectorOptions = .ok plan ∧
        self.carriesOut plan = true

end CoordinatorFanOutRequest

/-- The backoffs that went before an attempt. -/
def backoffsBefore : (attempt : Nat) → Int
  | 0 => 0
  | attempt + 1 => backoffsBefore attempt + transientBackoffBase attempt

/--
A clock on which everything takes no time but the backoffs, and the functions,
which wait for their isolates.
-/
def FanOutClock.waiting (arrives delay : Int) : FanOutClock where
  arrives := arrives
  starts path :=
    arrives + (path.map fun hop => backoffsBefore hop.attempt).sum
  executes path _ :=
    arrives + (path.map fun hop => backoffsBefore hop.attempt).sum + delay

/-- Such a clock is one of the code. -/
theorem FanOutClock.valid_waiting
    (arrives : Int)
    {delay : Int}
    (notEarly : 0 ≤ delay) :
    (waiting arrives delay).Valid := by
  have begins :
      ∀ path,
        (waiting arrives delay).begins path =
          arrives + (path.map fun hop => backoffsBefore hop.attempt).sum := by
    intro path
    cases path with
    | nil => simp [FanOutClock.begins, waiting]
    | cons hop path => rfl
  constructor
  · intro path target
    rw [begins]
    simp [waiting, backoffsBefore]
  · intro path target attempt
    simp [waiting, backoffsBefore]
    omega
  · intro path call
    rw [begins]
    simp [waiting, notEarly]

/-- The backoffs are not negative. -/
theorem backoffsBefore_nonneg (attempt : Nat) : 0 ≤ backoffsBefore attempt := by
  induction attempt with
  | zero =>
      exact Int.le_refl 0
  | succ attempt inductionHypothesis =>
      rw [backoffsBefore, transientBackoffBase]
      omega

/--
Where work is started, some of it is started too late in some run, although the
request arrives before its deadline.
-/
theorem exists_late
    {treeDepth : TreeDepth}
    {self : CfpCoordinator}
    {request : CoordinatorFanOutRequest}
    (starts : request.StartsWork treeDepth self) :
    ∃ platform response clock path call,
      runMany treeDepth platform self request = .ok response ∧
        FanOutClock.Valid clock ∧
        clock.arrives < request.envelope.deadlineEpochMs ∧
        Occurs (.execute path call) response.activity ∧
        request.envelope.deadlineEpochMs ≤ clock.executes path call := by
  obtain ⟨someJob, plan, selected, bound⟩ := starts
  obtain ⟨response, ran⟩ :=
    (@runMany_answers_iff treeDepth .ideal self request someJob).mpr
      ⟨plan, selected, bound⟩
  obtain ⟨path, call, occurs⟩ :=
    exists_execution Platform.reliable_ideal ran someJob
  refine
    ⟨.ideal, response,
      .waiting (request.envelope.deadlineEpochMs - 1) 1, path, call, ran,
      FanOutClock.valid_waiting _ (by omega), ?_, occurs, ?_⟩
  · simp [FanOutClock.waiting]
  · have notEarly :
        0 ≤ (path.map fun hop => backoffsBefore hop.attempt).sum := by
      apply List.sum_nonneg
      intro backoff member
      obtain ⟨hop, _, rfl⟩ := List.mem_map.mp member
      exact backoffsBefore_nonneg _
    simp only [FanOutClock.waiting]
    omega

/--
A deadline is kept, on every platform and at any timing, exactly by the requests
that have none and by those that start no work at all.
-/
theorem keepsDeadline_iff
    (treeDepth : TreeDepth)
    (self : CfpCoordinator)
    (request : CoordinatorFanOutRequest) :
    request.KeepsDeadline treeDepth self ↔
      request.envelope.deadlineEpochMs ≤ 0 ∨
        ¬ request.StartsWork treeDepth self := by
  constructor
  · intro keeps
    by_contra neither
    rw [not_or, not_le, not_not] at neither
    obtain ⟨hasDeadline, starts⟩ := neither
    obtain
      ⟨platform, response, clock, path, call, ran, valid, _, occurs, late⟩ :=
      exists_late starts
    exact
      absurd (keeps hasDeadline platform response clock ran valid _ occurs)
        (not_lt.mpr late)
  · rintro (noDeadline | nothing) hasDeadline platform response clock ran _
    · omega
    · rcases runMany_cases ran with ⟨-, -, noActivity⟩ | ⟨_, _, someJob, -⟩
      · rw [noActivity]
        exact throughout_nil
      · exact
          (nothing
            ⟨someJob, (runMany_answers_iff someJob).mp ⟨response, ran⟩⟩).elim

/-- Four jobs that arrive with a deadline. -/
def CoordinatorFanOutRequest.fourUntil
    (deadlineEpochMs : Int) : CoordinatorFanOutRequest :=
  { CoordinatorFanOutRequest.overFour 4 with
    envelope := {
      deadlineEpochMs := deadlineEpochMs
      signal := { cancelled := false }
    } }

/-- They start a function when the deadline is reached. -/
theorem not_keepsDeadline_fourUntil :
    ¬ (CoordinatorFanOutRequest.fourUntil 1000).KeepsDeadline .exact
        .configured := by
  intro keeps
  have starts :
      (CoordinatorFanOutRequest.fourUntil 1000).StartsWork .exact
        .configured :=
    ⟨by decide, .fanOut (.hybrid (buildHybridPlan 4)), rfl, by decide⟩
  obtain ⟨platform, response, clock, path, call, ran, valid, _, occurs, late⟩ :=
    exists_late starts
  exact
    absurd (keeps (by decide) platform response clock ran valid _ occurs)
      (not_lt.mpr late)

end CloudflareParallel
