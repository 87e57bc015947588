import CloudflareParallel.DispatchBudget

namespace CloudflareParallel

/-!
# Which options keep a dispatch in its budget

The budget is kept by every course of a dispatch only if there is none to run
out of between two calls: one attempt, or no limit.  Where no timer is late, a
retry without backoff comes in time too, once behind a timeout and always
behind a deadline.
-/

variable {runtime : DispatchRuntime}
variable {opts : DispatchOptions}
variable {Value : Type}

namespace DispatchOptions

/-- A timeout or a deadline is a number of milliseconds. -/
def Limited (runtime : DispatchRuntime) (opts : DispatchOptions) : Prop :=
  (∃ timeout,
      numberOf runtime opts.timeout = some (.finite timeout) ∧ 0 < timeout) ∨
    ∃ deadline,
      numberOf runtime opts.deadlineEpochMs = some (.finite deadline)

/-- If there is a first call, the deadline is ahead of the start. -/
def StartsInBudget
    (runtime : DispatchRuntime)
    (opts : DispatchOptions)
    (start : Rat) : Prop :=
  (opts.attemptLimit runtime).Allows 1 →
  ∀ deadline,
    numberOf runtime opts.deadlineEpochMs = some (.finite deadline) →
    start < deadline

end DispatchOptions

namespace DispatchSchedule

/--
No timer is late: a pause takes as long as it is set, and a task that settles
its race does so before the timers of its attempt.
-/
structure OnTime (schedule : DispatchSchedule runtime opts Value) : Prop where
  pauses : ∀ attempt ∈ schedule.attempts, attempt.late = 0
  beforeTimeout :
    ∀ attempt ∈ schedule.attempts, ∀ outcome timeout,
      attempt.winner = .task outcome →
      DispatchOptions.numberOf runtime opts.timeout = some (.finite timeout) →
      0 < timeout →
      attempt.duration < timeout
  beforeDeadline :
    ∀ number attempt outcome deadline,
      schedule.attempts[number]? = some attempt →
      attempt.winner = .task outcome →
      DispatchOptions.numberOf runtime opts.deadlineEpochMs =
        some (.finite deadline) →
      schedule.startOf number < deadline →
      schedule.startOf number + attempt.duration < deadline

variable {schedule : DispatchSchedule runtime opts Value}

/-! ## The clock between two calls -/

@[simp] theorem startOf_zero : schedule.startOf 0 = schedule.start := by
  simp [startOf, timeOf]

/-- A call comes after the attempt before it, and after its pause. -/
theorem startOf_succ
    {number : Nat}
    {attempt : TimedAttempt runtime opts Value}
    (found : schedule.attempts[number]? = some attempt) :
    schedule.startOf (number + 1) =
      schedule.startOf number + attempt.duration +
        attempt.pause schedule.baseDelay number := by
  obtain ⟨inside, _⟩ := List.getElem?_eq_some_iff.mp found
  have length : (schedule.attempts.take number).length = number := by
    rw [List.length_take]
    omega
  unfold startOf
  rw [List.take_add_one, found, Option.toList_some, timeOf_append, length,
    timeOf, timeOf, Nat.zero_add]
  linarith

/-- Without a base delay, a pause on time takes no time. -/
theorem pause_eq_zero
    {attempt : TimedAttempt runtime opts Value}
    (punctual : attempt.late = 0)
    {baseDelay : Rat}
    (none_ : baseDelay ≤ 0)
    (number : Nat) :
    attempt.pause baseDelay number = 0 := by
  unfold TimedAttempt.pause
  split
  next rawErr _ =>
    have backoff :
        backoffDelay baseDelay (marshalError runtime.globals rawErr) number
          attempt.random ≤ 0 := by
      unfold backoffDelay
      refine le_trans (min_le_left _ _) ?_
      refine mul_nonpos_of_nonpos_of_nonneg ?_ ?_
      · refine mul_nonpos_of_nonpos_of_nonneg none_ (pow_nonneg ?_ _)
        split <;> norm_num
      · have := attempt.drawn.1
        linarith
    dsimp only
    rw [max_eq_right backoff, punctual, add_zero]
  next => rfl

/-! ## Schedules of lost connections -/

/-- The rejection of a lost connection. -/
def lostConnection (runtime : DispatchRuntime) : Rejection :=
  .error
    (.library
      (.ofClass runtime.globals.stackOf (.disconnectedError "lost")))

/-- An attempt that loses its connection. -/
def loses (duration : NNRat) : TimedAttempt runtime opts Value where
  winner := .task (.error (lostConnection runtime))
  takesPart := rfl
  duration := duration
  lasts := duration.2
  random := 0
  drawn := by decide
  late := 0
  waits := le_refl 0

/-- A dispatch that loses every connection, after these durations. -/
def lossy
    (runtime : DispatchRuntime)
    (opts : DispatchOptions)
    (Value : Type)
    (start : Rat)
    (retryDelay : Option Rat)
    (durations : List NNRat) : DispatchSchedule runtime opts Value where
  start := start
  retryDelay := retryDelay
  firesAt := none
  hasToken fires := by cases fires
  attempts := durations.map loses

section Lossy

variable {start : Rat}
variable {retryDelay : Option Rat}
variable {durations : List NNRat}

@[simp] theorem start_lossy :
    (lossy runtime opts Value start retryDelay durations).start = start := rfl

/-- A dispatch that loses all connections comes to every call it may make. -/
theorem comesTo_lossy
    {number : Nat}
    (known : number < durations.length)
    (allowed : (opts.attemptLimit runtime).Allows (number + 1)) :
    (lossy runtime opts Value start retryDelay durations).ComesTo number where
  known := by
    rw [lossy, List.length_map]
    exact known
  allowed := allowed
  quiet := rfl
  failed attempt member := by
    obtain ⟨duration, _, rfl⟩ := List.mem_map.mp (List.mem_of_mem_take member)
    exact ⟨_, rfl, rfl⟩

/-- When a dispatch that loses all connections is on time. -/
theorem onTime_lossy
    (beforeTimeout :
      ∀ duration ∈ durations, ∀ timeout,
        DispatchOptions.numberOf runtime opts.timeout =
          some (.finite timeout) →
        0 < timeout →
        (duration : Rat) < timeout)
    (beforeDeadline :
      ∀ number (duration : NNRat) deadline,
        durations[number]? = some duration →
        DispatchOptions.numberOf runtime opts.deadlineEpochMs =
          some (.finite deadline) →
        (lossy runtime opts Value start retryDelay durations).startOf number <
          deadline →
        (lossy runtime opts Value start retryDelay durations).startOf number +
            duration <
          deadline) :
    (lossy runtime opts Value start retryDelay durations).OnTime where
  pauses attempt member := by
    obtain ⟨duration, _, rfl⟩ := List.mem_map.mp member
    rfl
  beforeTimeout attempt member outcome timeout _ := by
    obtain ⟨duration, isDuration, rfl⟩ := List.mem_map.mp member
    exact beforeTimeout duration isDuration timeout
  beforeDeadline number attempt outcome deadline found _ := by
    rw [lossy, List.getElem?_map] at found
    obtain ⟨duration, isDuration, rfl⟩ := Option.map_eq_some_iff.mp found
    exact beforeDeadline number duration deadline isDuration

/-- The pause behind the first lost connection, on time and shortest. -/
theorem pause_loses
    (duration : NNRat)
    {baseDelay : Rat}
    (some_ : 0 < baseDelay) :
    (loses duration : TimedAttempt runtime opts Value).pause baseDelay 0 =
      min (baseDelay / 2) 5000 := by
  have shortest : 0 ≤ min (baseDelay / 2) 5000 :=
    le_min (by linarith) (by norm_num)
  simp only [TimedAttempt.pause, loses, backoffDelay, pow_zero, mul_one,
    add_zero, one_div, ← div_eq_mul_inv]
  exact max_eq_left shortest

/-- The next call of a dispatch that loses its connections. -/
theorem startOf_succ_lossy
    {number : Nat}
    {duration : NNRat}
    (found : durations[number]? = some duration) :
    (lossy runtime opts Value start retryDelay durations).startOf (number + 1) =
      (lossy runtime opts Value start retryDelay durations).startOf number +
          duration +
        (loses duration : TimedAttempt runtime opts Value).pause
          (retryDelay.getD 100) number := by
  have inAttempts :
      (lossy runtime opts Value start retryDelay
        durations).attempts[number]? = some (loses duration) := by
    rw [lossy, List.getElem?_map, found]
    rfl
  exact startOf_succ inAttempts

end Lossy

end DispatchSchedule

namespace DispatchOptions

/-- Every course of a dispatch with these options keeps the budget. -/
def KeepsBudget
    (runtime : DispatchRuntime)
    (opts : DispatchOptions)
    (Value : Type)
    (start : Rat)
    (retryDelay : Option Rat) : Prop :=
  ∀ schedule : DispatchSchedule runtime opts Value,
    schedule.start = start →
    schedule.retryDelay = retryDelay →
    schedule.KeepsBudget

/-- Every course in which no timer is late keeps the budget. -/
def KeepsBudgetOnTime
    (runtime : DispatchRuntime)
    (opts : DispatchOptions)
    (Value : Type)
    (start : Rat)
    (retryDelay : Option Rat) : Prop :=
  ∀ schedule : DispatchSchedule runtime opts Value,
    schedule.start = start →
    schedule.retryDelay = retryDelay →
    schedule.OnTime →
    schedule.KeepsBudget

variable {start : Rat}
variable {retryDelay : Option Rat}

/-! ## Options that leave the budget -/

open DispatchSchedule

/-- Where the budget is kept, so it is by lost connections. -/
theorem KeepsBudgetOnTime.inBudget
    (keeps : opts.KeepsBudgetOnTime runtime Value start retryDelay)
    {durations : List NNRat}
    (onTime :
      (lossy runtime opts Value start retryDelay durations).OnTime)
    {number : Nat}
    (known : number < durations.length)
    (allowed : (opts.attemptLimit runtime).Allows (number + 1)) :
    (lossy runtime opts Value start retryDelay durations).InBudget
      ((lossy runtime opts Value start retryDelay durations).startOf number) :=
  (keepsBudget_iff_comesTo _).mp (keeps _ rfl rfl onTime) number
    (comesTo_lossy known allowed)

/-- The deadline of a first call has to be ahead. -/
theorem KeepsBudgetOnTime.startsInBudget
    (keeps : opts.KeepsBudgetOnTime runtime Value start retryDelay) :
    opts.StartsInBudget runtime start := by
  intro one deadline isDeadline
  have onTime : (lossy runtime opts Value start retryDelay [0]).OnTime := by
    refine onTime_lossy ?_ ?_
    · simp
    · intro number duration deadline found _ ahead
      rw [List.mem_singleton.mp (List.mem_of_getElem? found)]
      simpa using ahead
  have first := keeps.inBudget onTime Nat.one_pos one
  have before := first.beforeDeadline deadline isDeadline
  rwa [startOf_zero] at before

/-- The time that a limited dispatch has; behind it, every call is late. -/
structure IsMargin
    (runtime : DispatchRuntime)
    (opts : DispatchOptions)
    (start margin : Rat) : Prop where
  positive : 0 < margin
  timeout :
    ∀ timeout,
      numberOf runtime opts.timeout = some (.finite timeout) →
      0 < timeout →
      margin ≤ timeout
  deadline :
    ∀ deadline,
      numberOf runtime opts.deadlineEpochMs = some (.finite deadline) →
      start + margin ≤ deadline
  reached :
    numberOf runtime opts.timeout = some (.finite margin) ∨
      numberOf runtime opts.deadlineEpochMs = some (.finite (start + margin))

/-- No call behind the margin is in the budget. -/
theorem IsMargin.late
    {margin now : Rat}
    (isMargin : opts.IsMargin runtime start margin)
    {schedule : DispatchSchedule runtime opts Value}
    (starts : schedule.start = start)
    (behind : start + margin ≤ now) :
    ¬ schedule.InBudget now := by
  intro budget
  rcases isMargin.reached with timeout | deadline
  · have before := budget.beforeTimeout margin timeout isMargin.positive
    rw [starts] at before
    exact absurd before (not_lt.mpr behind)
  · exact absurd (budget.beforeDeadline _ deadline) (not_lt.mpr behind)

/-- A limited dispatch that starts before its deadline has a margin. -/
theorem exists_margin
    (starts :
      ∀ deadline,
        numberOf runtime opts.deadlineEpochMs = some (.finite deadline) →
        start < deadline)
    (limited : opts.Limited runtime) :
    ∃ margin, opts.IsMargin runtime start margin := by
  have onlyTimeout :
      ∀ timeout,
        numberOf runtime opts.timeout = some (.finite timeout) →
        0 < timeout →
        (∀ deadline,
          numberOf runtime opts.deadlineEpochMs = some (.finite deadline) →
          start + timeout ≤ deadline) →
        opts.IsMargin runtime start timeout := by
    intro timeout isTimeout positive ahead
    refine ⟨positive, fun other isOther _ => ?_, ahead, .inl isTimeout⟩
    cases isTimeout.symm.trans isOther
    exact le_refl _
  have onlyDeadline :
      ∀ deadline,
        numberOf runtime opts.deadlineEpochMs = some (.finite deadline) →
        (∀ timeout,
          numberOf runtime opts.timeout = some (.finite timeout) →
          0 < timeout →
          deadline - start ≤ timeout) →
        opts.IsMargin runtime start (deadline - start) := by
    intro deadline isDeadline ahead
    have sum : start + (deadline - start) = deadline := by linarith
    refine
      ⟨sub_pos.mpr (starts deadline isDeadline), ahead,
        fun other isOther => ?_, .inr (by rw [sum]; exact isDeadline)⟩
    cases isDeadline.symm.trans isOther
    exact sum.le
  by_cases hasDeadline :
      ∃ deadline,
        numberOf runtime opts.deadlineEpochMs = some (.finite deadline)
  · obtain ⟨deadline, isDeadline⟩ := hasDeadline
    by_cases sooner :
        ∃ timeout,
          numberOf runtime opts.timeout = some (.finite timeout) ∧
            0 < timeout ∧ timeout < deadline - start
    · obtain ⟨timeout, isTimeout, positive, before⟩ := sooner
      refine ⟨timeout, onlyTimeout timeout isTimeout positive ?_⟩
      intro other isOther
      cases isDeadline.symm.trans isOther
      linarith
    · refine ⟨_, onlyDeadline deadline isDeadline ?_⟩
      intro timeout isTimeout positive
      exact not_lt.mp fun before => sooner ⟨timeout, isTimeout, positive, before⟩
  · obtain ⟨timeout, isTimeout, positive⟩ :=
      limited.resolve_right hasDeadline
    exact
      ⟨timeout, onlyTimeout timeout isTimeout positive fun deadline isDeadline =>
        absurd ⟨deadline, isDeadline⟩ hasDeadline⟩

/-- Two lost connections, of which the first fills the margin up to a pause. -/
theorem KeepsBudgetOnTime.baseDelay_nonpos
    (keeps : opts.KeepsBudgetOnTime runtime Value start retryDelay)
    (two : (opts.attemptLimit runtime).Allows 2)
    (limited : opts.Limited runtime) :
    retryDelay.getD 100 ≤ 0 := by
  by_contra slow
  have some_ : 0 < retryDelay.getD 100 := not_le.mp slow
  have one : (opts.attemptLimit runtime).Allows 1 :=
    fun attempt before => two attempt (by omega)
  obtain ⟨margin, isMargin⟩ := exists_margin (keeps.startsInBudget one) limited
  have positive := isMargin.positive
  have pause : 0 < min (retryDelay.getD 100 / 2) 5000 :=
    lt_min (by linarith) (by norm_num)
  let first : NNRat :=
    ⟨max 0 (margin - min (retryDelay.getD 100 / 2) 5000), le_max_left _ _⟩
  have short : (first : Rat) < margin := max_lt positive (by linarith)
  have onTime :
      (lossy runtime opts Value start retryDelay [first, 0]).OnTime := by
    refine onTime_lossy ?_ ?_
    · intro duration member timeout isTimeout armed
      have within := isMargin.timeout timeout isTimeout armed
      simp only [List.mem_cons, List.not_mem_nil, or_false] at member
      rcases member with rfl | rfl
      · linarith
      · simpa using armed
    · intro number duration deadline found isDeadline ahead
      match number with
      | 0 =>
          cases found
          have within := isMargin.deadline deadline isDeadline
          rw [startOf_zero, start_lossy]
          linarith
      | 1 =>
          cases found
          simpa using ahead
      | _ + 2 =>
          cases found
  refine
    isMargin.late rfl ?_ (keeps.inBudget onTime (Nat.lt_succ_self 1) two)
  have step :=
    @startOf_succ_lossy runtime opts Value start retryDelay [first, 0] 0 first
      rfl
  rw [startOf_zero, start_lossy, pause_loses _ some_] at step
  have filled :
      margin - min (retryDelay.getD 100 / 2) 5000 ≤ (first : Rat) :=
    le_max_right _ _
  rw [step]
  linarith

/-- Two lost connections of half the timeout each, and a third call. -/
theorem KeepsBudgetOnTime.exists_deadline
    (keeps : opts.KeepsBudgetOnTime runtime Value start retryDelay)
    (three : (opts.attemptLimit runtime).Allows 3)
    {timeout : Rat}
    (isTimeout : numberOf runtime opts.timeout = some (.finite timeout))
    (positive : 0 < timeout) :
    ∃ deadline,
      numberOf runtime opts.deadlineEpochMs = some (.finite deadline) ∧
        deadline ≤ start + timeout := by
  by_contra none_
  have later :
      ∀ deadline,
        numberOf runtime opts.deadlineEpochMs = some (.finite deadline) →
        start + timeout < deadline :=
    fun deadline isDeadline =>
      not_le.mp fun ahead => none_ ⟨deadline, isDeadline, ahead⟩
  have two : (opts.attemptLimit runtime).Allows 2 :=
    fun attempt before => three attempt (by omega)
  have noDelay :=
    keeps.baseDelay_nonpos two (.inl ⟨timeout, isTimeout, positive⟩)
  let half : NNRat := ⟨timeout / 2, (half_pos positive).le⟩
  have isHalf : (half : Rat) = timeout / 2 := rfl
  have second :
      (lossy runtime opts Value start retryDelay [half, half, 0]).startOf 1 =
        start + timeout / 2 := by
    have step :=
      @startOf_succ_lossy runtime opts Value start retryDelay [half, half, 0]
        0 half rfl
    rw [startOf_zero, start_lossy, pause_eq_zero rfl noDelay] at step
    rw [step, isHalf, add_zero]
  have third :
      (lossy runtime opts Value start retryDelay [half, half, 0]).startOf 2 =
        start + timeout := by
    have step :=
      @startOf_succ_lossy runtime opts Value start retryDelay [half, half, 0]
        1 half rfl
    rw [second, pause_eq_zero rfl noDelay] at step
    rw [step, isHalf]
    linarith
  have onTime :
      (lossy runtime opts Value start retryDelay [half, half, 0]).OnTime := by
    refine onTime_lossy ?_ ?_
    · intro duration member other isOther _
      cases isTimeout.symm.trans isOther
      simp only [List.mem_cons, List.not_mem_nil, or_false] at member
      rcases member with rfl | rfl | rfl
      · linarith
      · linarith
      · simpa using positive
    · intro number duration deadline found isDeadline ahead
      have within := later deadline isDeadline
      match number with
      | 0 =>
          cases found
          rw [startOf_zero, start_lossy]
          linarith
      | 1 =>
          cases found
          rw [second]
          linarith
      | 2 =>
          cases found
          simpa using ahead
      | _ + 3 =>
          cases found
  have before :=
    (keeps.inBudget onTime (Nat.lt_succ_self 2) three).beforeTimeout timeout
      isTimeout positive
  rw [third, start_lossy] at before
  exact lt_irrefl _ before

/-- A late timer of the first attempt leaves the budget behind. -/
theorem KeepsBudget.not_limited
    (keeps : opts.KeepsBudget runtime Value start retryDelay)
    (two : (opts.attemptLimit runtime).Allows 2) :
    ¬ opts.Limited runtime := by
  intro limited
  have one : (opts.attemptLimit runtime).Allows 1 :=
    fun attempt before => two attempt (by omega)
  have onTime : opts.KeepsBudgetOnTime runtime Value start retryDelay :=
    fun schedule starts delays _ => keeps schedule starts delays
  obtain ⟨margin, isMargin⟩ := exists_margin (onTime.startsInBudget one) limited
  let first : NNRat := ⟨margin, isMargin.positive.le⟩
  have budget :=
    (keepsBudget_iff_comesTo
        (lossy runtime opts Value start retryDelay [first, 0])).mp
      (keeps _ rfl rfl) 1 (comesTo_lossy (Nat.lt_succ_self 1) two)
  refine isMargin.late rfl ?_ budget
  have step :=
    @startOf_succ_lossy runtime opts Value start retryDelay [first, 0] 0 first
      rfl
  have pause :=
    (loses first : TimedAttempt runtime opts Value).pause_nonneg
      (retryDelay.getD 100) 0
  have isMarginal : (first : Rat) = margin := rfl
  rw [startOf_zero, start_lossy, isMarginal] at step
  rw [step]
  linarith

/-! ## Options that keep the budget -/

/-- Without a limit every time is in the budget. -/
theorem inBudget_of_not_limited
    (unlimited : ¬ opts.Limited runtime)
    (schedule : DispatchSchedule runtime opts Value)
    (now : Rat) :
    schedule.InBudget now where
  beforeDeadline deadline isDeadline :=
    absurd (.inr ⟨deadline, isDeadline⟩) unlimited
  beforeTimeout timeout isTimeout positive :=
    absurd (.inl ⟨timeout, isTimeout, positive⟩) unlimited

/-- The first call is in the budget. -/
theorem StartsInBudget.inBudget
    (starts : opts.StartsInBudget runtime start)
    {schedule : DispatchSchedule runtime opts Value}
    (isStart : schedule.start = start)
    (comes : schedule.ComesTo 0) :
    schedule.InBudget (schedule.startOf 0) where
  beforeDeadline := by
    rw [startOf_zero, isStart]
    exact starts comes.allowed
  beforeTimeout timeout _ positive := by
    rw [startOf_zero]
    linarith

/-- On time and without backoff, every call is before the deadline. -/
theorem startOf_lt_deadline
    {schedule : DispatchSchedule runtime opts Value}
    (onTime : schedule.OnTime)
    (noDelay : schedule.baseDelay ≤ 0)
    {deadline : Rat}
    (isDeadline :
      numberOf runtime opts.deadlineEpochMs = some (.finite deadline))
    (ahead : schedule.start < deadline)
    {number : Nat}
    (comes : schedule.ComesTo number) :
    schedule.startOf number < deadline := by
  induction number with
  | zero =>
      rw [startOf_zero]
      exact ahead
  | succ number inductionHypothesis =>
      have before := inductionHypothesis (comes.earlier (Nat.le_succ number))
      have inside : number < schedule.attempts.length :=
        Nat.lt_of_succ_lt comes.known
      have found := List.getElem?_eq_getElem inside
      obtain ⟨rawErr, won, _⟩ :=
        comes.failed schedule.attempts[number]
          (List.mem_take_iff_getElem.mpr ⟨number, by omega, rfl⟩)
      have punctual :=
        onTime.pauses schedule.attempts[number] (List.getElem_mem inside)
      rw [startOf_succ found, pause_eq_zero punctual noDelay, add_zero]
      exact
        onTime.beforeDeadline number _ _ deadline found won isDeadline before

/--
The first call comes before the deadline; with a second one allowed, there is
no timeout and no deadline.
-/
def IsSafe
    (runtime : DispatchRuntime)
    (opts : DispatchOptions)
    (start : Rat) : Prop :=
  opts.StartsInBudget runtime start ∧
    ((opts.attemptLimit runtime).Allows 2 → ¬ opts.Limited runtime)

/--
The first call comes before the deadline; with a second one allowed under a
limit, the backoff is zero; with a third one allowed under a timeout, the
deadline is no later than the timeout.
-/
structure IsSafeOnTime
    (runtime : DispatchRuntime)
    (opts : DispatchOptions)
    (start : Rat)
    (retryDelay : Option Rat) : Prop where
  starts : opts.StartsInBudget runtime start
  second :
    (opts.attemptLimit runtime).Allows 2 →
    opts.Limited runtime →
    retryDelay.getD 100 ≤ 0
  third :
    (opts.attemptLimit runtime).Allows 3 →
    ∀ timeout,
      numberOf runtime opts.timeout = some (.finite timeout) →
      0 < timeout →
      ∃ deadline,
        numberOf runtime opts.deadlineEpochMs = some (.finite deadline) ∧
          deadline ≤ start + timeout

/-- Safe options keep the budget. -/
theorem IsSafe.keepsBudget
    (safe : opts.IsSafe runtime start) :
    opts.KeepsBudget runtime Value start retryDelay := by
  intro schedule isStart _
  rw [keepsBudget_iff_comesTo]
  intro number comes
  cases number with
  | zero =>
      exact safe.1.inBudget isStart comes
  | succ number =>
      have two : (opts.attemptLimit runtime).Allows 2 :=
        fun attempt before => comes.allowed attempt (by omega)
      exact inBudget_of_not_limited (safe.2 two) schedule _

/-- On time, a second call comes before the timeout. -/
theorem startOf_one_lt_timeout
    {schedule : DispatchSchedule runtime opts Value}
    (onTime : schedule.OnTime)
    (noDelay : schedule.baseDelay ≤ 0)
    {timeout : Rat}
    (isTimeout : numberOf runtime opts.timeout = some (.finite timeout))
    (positive : 0 < timeout)
    (comes : schedule.ComesTo 1) :
    schedule.startOf 1 < schedule.start + timeout := by
  have inside : 0 < schedule.attempts.length :=
    Nat.lt_of_succ_lt comes.known
  obtain ⟨rawErr, won, _⟩ :=
    comes.failed schedule.attempts[0]
      (List.mem_take_iff_getElem.mpr ⟨0, by omega, rfl⟩)
  have member := List.getElem_mem inside
  have within :=
    onTime.beforeTimeout _ member _ timeout won isTimeout positive
  rw [startOf_succ (List.getElem?_eq_getElem inside), startOf_zero,
    pause_eq_zero (onTime.pauses _ member) noDelay]
  linarith

/-- Options that are safe on time keep the budget while no timer is late. -/
theorem IsSafeOnTime.keepsBudgetOnTime
    (safe : opts.IsSafeOnTime runtime start retryDelay) :
    opts.KeepsBudgetOnTime runtime Value start retryDelay := by
  rintro schedule isStart rfl onTime
  rw [keepsBudget_iff_comesTo]
  intro number comes
  cases number with
  | zero =>
      exact safe.starts.inBudget isStart comes
  | succ number =>
      by_cases limited : opts.Limited runtime
      · have two : (opts.attemptLimit runtime).Allows 2 :=
          fun attempt before => comes.allowed attempt (by omega)
        have one : (opts.attemptLimit runtime).Allows 1 :=
          fun attempt before => two attempt (by omega)
        have noDelay : schedule.baseDelay ≤ 0 := safe.second two limited
        have beforeDeadline :
            ∀ deadline,
              numberOf runtime opts.deadlineEpochMs =
                some (.finite deadline) →
              schedule.startOf (number + 1) < deadline := by
          intro deadline isDeadline
          have ahead := safe.starts one deadline isDeadline
          rw [← isStart] at ahead
          exact startOf_lt_deadline onTime noDelay isDeadline ahead comes
        refine ⟨beforeDeadline, fun timeout isTimeout positive => ?_⟩
        cases number with
        | zero =>
            exact
              startOf_one_lt_timeout onTime noDelay isTimeout positive comes
        | succ number =>
            have three : (opts.attemptLimit runtime).Allows 3 :=
              fun attempt before => comes.allowed attempt (by omega)
            obtain ⟨deadline, isDeadline, soon⟩ :=
              safe.third three timeout isTimeout positive
            rw [isStart]
            exact lt_of_lt_of_le (beforeDeadline deadline isDeadline) soon
      · exact inBudget_of_not_limited limited schedule _

/--
The options of which every dispatch keeps its budget, whatever its attempts do
and whenever its token fires; and those of which every dispatch does while no
timer is late.
-/
theorem keepsBudget_iff
    (runtime : DispatchRuntime)
    (opts : DispatchOptions)
    (Value : Type)
    (start : Rat)
    (retryDelay : Option Rat) :
    (opts.KeepsBudget runtime Value start retryDelay ↔
        opts.IsSafe runtime start) ∧
      (opts.KeepsBudgetOnTime runtime Value start retryDelay ↔
        opts.IsSafeOnTime runtime start retryDelay) := by
  refine ⟨⟨fun keeps => ⟨?_, ?_⟩, IsSafe.keepsBudget⟩,
    ⟨fun keeps => ⟨?_, ?_, ?_⟩, IsSafeOnTime.keepsBudgetOnTime⟩⟩
  · have onTime : opts.KeepsBudgetOnTime runtime Value start retryDelay :=
      fun schedule starts delays _ => keeps schedule starts delays
    exact onTime.startsInBudget
  · exact keeps.not_limited
  · exact keeps.startsInBudget
  · exact keeps.baseDelay_nonpos
  · intro three timeout isTimeout positive
    exact keeps.exists_deadline three isTimeout positive

end DispatchOptions

namespace DispatchSchedule

/-! ## A retry outside the budget -/

/-- One retry, a timeout and a deadline. -/
def oneRetry : DispatchOptions where
  timeout := some (.typed (.finite 50))
  retries := some (.typed (.finite 1))
  cancel := false
  deadlineEpochMs := some (.typed (.finite 60))

/-- An attempt of ten milliseconds, that its task settles. -/
def settlesAfterTen
    (outcome : Except Rejection Nat) :
    TimedAttempt wholeNumbers oneRetry Nat where
  winner := .task outcome
  takesPart := rfl
  duration := 10
  lasts := by decide
  random := 1 / 2
  drawn := by norm_num
  late := 0
  waits := by decide

/-- The connection is lost once, and the task is called again. -/
def reconnects : DispatchSchedule wholeNumbers oneRetry Nat where
  start := 0
  retryDelay := none
  firesAt := none
  hasToken fires := by cases fires
  attempts :=
    [settlesAfterTen
        (.error
          (.error
            (.library
              (.ofClass wholeNumbers.globals.stackOf
                (.disconnectedError "lost"))))),
      settlesAfterTen (.ok 7)]

/-- The second call comes after the timeout and after the deadline. -/
theorem not_keepsBudget_reconnects :
    reconnects.calls = [0, 110] ∧ ¬ reconnects.KeepsBudget := by
  have calls : reconnects.calls = [0, 110] := by
    decide +kernel
  refine ⟨calls, fun keeps => ?_⟩
  have late :=
    (keeps 110 (by rw [calls]; simp)).1.beforeTimeout 50 rfl (by decide)
  exact absurd late (by decide +kernel)

end DispatchSchedule

end CloudflareParallel
