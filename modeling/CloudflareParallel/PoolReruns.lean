import CloudflareParallel.FanOutRepeats

namespace CloudflareParallel

/-!
# Whether a fan-out runs a completed job again

`Pool.#fanOut` may call the coordinator several times, and every tier below
retries for itself.  Over all attempts of one call, no job is run after it was
completed exactly where what the platform does spares the selected plan and no
fan-out is repeated for a lost answer.
-/

/-- One attempt of a dispatch, and which of its runs were completed. -/
structure ObservedAttempt (call : PoolFanOut) where
  attempt : FanOutAttempt call
  completes : Path → RunnerCall → Bool

namespace ObservedAttempt

variable {call : PoolFanOut}

/-- An attempt keeps to a conduct. -/
structure KeepsTo
    (observed : ObservedAttempt call)
    (conduct : Conduct) : Prop where
  allowed : conduct.Allows observed.attempt.platform observed.completes
  poolAnswerLost :
    ∀ err,
      observed.attempt.hop = .answerLost err →
      err ∈ conduct.poolAnswerLost

/-- The completions of a job in an attempt. -/
def completions
    (slot : Nat)
    (observed : ObservedAttempt call) : List Bool :=
  completionsOf observed.completes slot observed.attempt.log

/-- The attempts that a dispatch makes, of those that it could make. -/
def made (attempts : List (ObservedAttempt call)) :
    List (ObservedAttempt call) :=
  madeOf (fun observed => observed.attempt.reading) attempts

end ObservedAttempt

namespace PoolFanOut

variable (call : PoolFanOut) (conduct : Conduct)

/-- Completed user code is never run again, whatever keeps to the conduct. -/
def NeverRerunsCompleted : Prop :=
  ∀ attempts : List (ObservedAttempt call),
    (∀ observed ∈ attempts, observed.KeepsTo conduct) →
    ∀ slot,
      NeverReruns
        ((ObservedAttempt.made attempts).flatMap
          (ObservedAttempt.completions slot))

/-- What the dispatch carries out is spared by a conduct. -/
def Spared : Prop :=
  ∀ plan,
    0 < call.request.argsList.length →
    selectTopology call.treeDepth call.request.argsList.length
        call.request.selectorOptions = .ok plan →
    call.target.carriesOut plan = true →
    ((call.opts.attemptLimit call.runtime).Allows 1 →
        conduct.Spares plan) ∧
      ((call.opts.attemptLimit call.runtime).Allows 2 →
        ¬ conduct.RepeatsFanOuts call.runtime.globals)

variable {call : PoolFanOut} {conduct : Conduct}

/-- An attempt that runs a job carries a plan out. -/
theorem plan_of_log
    {attempt : FanOutAttempt call}
    (someRun : attempt.log ≠ []) :
    ∃ response plan,
      call.runMany attempt.platform = .ok response ∧
        attempt.log = response.activity ∧
        0 < call.request.argsList.length ∧
        selectTopology call.treeDepth call.request.argsList.length
            call.request.selectorOptions = .ok plan ∧
        call.target.carriesOut plan = true := by
  rcases attempt.log_eq with nothing | ⟨response, ran, same⟩
  · exact (someRun nothing).elim
  · rcases Nat.eq_zero_or_pos call.request.argsList.length with
      noJob | someJob
    · have emptyRun := ran
      unfold PoolFanOut.runMany CloudflareParallel.runMany at emptyRun
      simp only [noJob, ↓reduceIte] at emptyRun
      cases emptyRun
      exact (someRun same).elim
    · obtain ⟨plan, selected, bound⟩ :=
        (runMany_answers_iff someJob).mp ⟨response, ran⟩
      exact ⟨response, plan, ran, same, someJob, selected, bound⟩

/-- Within the condition every attempt is orderly for itself. -/
theorem Spared.orderly
    (spared : call.Spared conduct)
    (one : (call.opts.attemptLimit call.runtime).Allows 1)
    {observed : ObservedAttempt call}
    (keeps : observed.KeepsTo conduct)
    (slot : Nat) :
    NeverReruns (observed.completions slot) := by
  unfold ObservedAttempt.completions
  by_cases nothing : observed.attempt.log = []
  · rw [nothing]
    exact .nil
  · obtain ⟨response, plan, ran, same, someJob, selected, bound⟩ :=
      plan_of_log nothing
    rw [same]
    exact
      (keeps.allowed.orderly_runMany
        ((spared plan someJob selected bound).1 one) selected ran).everywhere
        slot

/-- Within the condition a repeated attempt has completed no job. -/
theorem Spared.retried
    (spared : call.Spared conduct)
    (two : (call.opts.attemptLimit call.runtime).Allows 2)
    {observed : ObservedAttempt call}
    (keeps : observed.KeepsTo conduct)
    (retries : observed.attempt.reading.Retries)
    (slot : Nat) :
    ∀ completed ∈ observed.completions slot, completed = false := by
  intro completed member
  by_contra isCompleted
  rw [Bool.not_eq_false] at isCompleted
  subst isCompleted
  unfold ObservedAttempt.completions at member
  rcases FanOutAttempt.log_of_retries retries with
    nothing | ⟨err, lost, retryable⟩
  · rw [nothing] at member
    cases member
  · have someRun : observed.attempt.log ≠ [] := by
      intro nothing
      rw [nothing] at member
      cases member
    obtain ⟨_, plan, _, _, someJob, selected, bound⟩ := plan_of_log someRun
    exact
      (spared plan someJob selected bound).2 two
        ⟨keeps.allowed.nonempty member, err, keeps.poolAnswerLost err lost,
          retryable⟩

/-- An attempt in which everything is as a platform has it. -/
def observedAs
    (call : PoolFanOut)
    (platform : Platform)
    (hop : PoolHop)
    (completes : Path → RunnerCall → Bool) : ObservedAttempt call where
  attempt := .settled call platform hop
  completes := completes

/-- Where a single attempt runs a completed job again, so does the call. -/
theorem spares_of_neverReruns
    (never : call.NeverRerunsCompleted conduct)
    {plan : TopologyPlan}
    (someJob : 0 < call.request.argsList.length)
    (selected :
      selectTopology call.treeDepth call.request.argsList.length
        call.request.selectorOptions = .ok plan)
    (bound : call.target.carriesOut plan = true)
    (one : (call.opts.attemptLimit call.runtime).Allows 1) :
    conduct.Spares plan := by
  by_contra notSpared
  obtain ⟨platform, completes, response, slot, allowed, ran, reruns⟩ :=
    conduct.reruns_of_not_spares notSpared someJob selected bound
  have only :=
    never [call.observedAs platform .delivered completes]
      (by
        intro observed member
        rw [List.mem_singleton] at member
        subst member
        exact ⟨allowed, fun _ => nofun⟩)
      slot
  rw [ObservedAttempt.made, madeOf_singleton one rfl,
    List.flatMap_singleton] at only
  have log :
      (FanOutAttempt.settled call platform .delivered).log =
        response.activity := by
    simp only [FanOutAttempt.log, FanOutAttempt.settled]
    rw [show call.runMany platform = .ok response from ran]
  rw [ObservedAttempt.completions, observedAs, log] at only
  exact reruns only

/-- Where everything completes, a call that arrives completes the first job. -/
theorem completions_uniform
    {outcome : Except Thrown JsValue}
    {plan : TopologyPlan}
    {hop : PoolHop}
    (someJob : 0 < call.request.argsList.length)
    (selected :
      selectTopology call.treeDepth call.request.argsList.length
        call.request.selectorOptions = .ok plan)
    (bound : call.target.carriesOut plan = true)
    (notLost : ∀ err, hop ≠ .lost err) :
    1 ≤
      ((call.observedAs (.uniform .delivered outcome) hop
        fun _ _ => true).completions 0).length := by
  obtain ⟨response, ran⟩ :=
    (@runMany_answers_iff call.treeDepth (.uniform .delivered outcome)
        call.target call.request someJob).mpr
      ⟨plan, selected, bound⟩
  have reaches : (Platform.uniform .delivered outcome).Reaches :=
    fun _ _ => nofun
  have someRun :=
    (reaches.tierRules_someRun.runMany selected ran).inside 0 (Nat.zero_le _)
      (by omega)
  have log :
      (FanOutAttempt.settled call (.uniform .delivered outcome) hop).log =
        response.activity := by
    unfold FanOutAttempt.log FanOutAttempt.settled PoolFanOut.runMany
    cases hop with
    | lost err => exact (notLost err rfl).elim
    | delivered => simp only [ran]
    | answerLost err => simp only [ran]
  rw [ObservedAttempt.completions, observedAs, log, completionsOf,
    List.length_map]
  exact someRun

/-- Where a fan-out is repeated for a lost answer, so are completed jobs. -/
theorem not_repeatsFanOuts_of_neverReruns
    (never : call.NeverRerunsCompleted conduct)
    {plan : TopologyPlan}
    (someJob : 0 < call.request.argsList.length)
    (selected :
      selectTopology call.treeDepth call.request.argsList.length
        call.request.selectorOptions = .ok plan)
    (bound : call.target.carriesOut plan = true)
    (two : (call.opts.attemptLimit call.runtime).Allows 2) :
    ¬ conduct.RepeatsFanOuts call.runtime.globals := by
  rintro ⟨⟨outcome, isCompleted⟩, err, isLost, retryable⟩
  have allowed :
      conduct.Allows (.uniform .delivered outcome) fun _ _ => true :=
    conduct.allows_uniform isCompleted nofun nofun
  have both :=
    never
      [call.observedAs (.uniform .delivered outcome) (.answerLost err)
          fun _ _ => true,
        call.observedAs (.uniform .delivered outcome) .delivered
          fun _ _ => true]
      (by
        intro observed member
        rw [List.mem_pair] at member
        rcases member with rfl | rfl
        · refine ⟨allowed, fun otherErr same => ?_⟩
          cases same
          exact isLost
        · exact ⟨allowed, fun _ => nofun⟩)
      0
  have made :
      ObservedAttempt.made
          [call.observedAs (.uniform .delivered outcome) (.answerLost err)
              fun _ _ => true,
            call.observedAs (.uniform .delivered outcome) .delivered
              fun _ _ => true] =
        _ :=
    madeOf_pair two rfl rfl retryable
  rw [made, List.flatMap_cons, List.flatMap_singleton] at both
  refine not_neverReruns ?_ ?_ both
  · intro completed member
    rcases List.mem_append.mp member with first | second
    · exact all_completionsOf (fun _ _ _ => rfl) _ completed first
    · exact all_completionsOf (fun _ _ _ => rfl) _ completed second
  · have first :=
      @completions_uniform call outcome plan (.answerLost err) someJob selected
        bound nofun
    have second :=
      @completions_uniform call outcome plan .delivered someJob selected bound
        nofun
    rw [List.length_append]
    omega

/--
No job of a fan-out is run after it was completed, in any run that keeps to a
conduct, exactly where the conduct spares what the dispatch carries out.
-/
theorem neverRerunsCompleted_iff
    (call : PoolFanOut)
    (conduct : Conduct) :
    call.NeverRerunsCompleted conduct ↔ call.Spared conduct := by
  constructor
  · intro never plan someJob selected bound
    exact
      ⟨spares_of_neverReruns never someJob selected bound,
        not_repeatsFanOuts_of_neverReruns never someJob selected bound⟩
  · intro spared attempts keeps slot
    have keepsMade :
        ∀ observed ∈ ObservedAttempt.made attempts,
          observed.KeepsTo conduct :=
      fun observed member => keeps observed (List.mem_of_mem_take member)
    have limit :
        (call.opts.attemptLimit call.runtime).Allows
          (ObservedAttempt.made attempts).length :=
      allows_length_madeOf attempts
    apply neverReruns_flatMap
    · intro observed member
      have earlier := List.length_pos_of_mem member
      rw [List.length_dropLast] at earlier
      exact
        spared.retried (fun attempt before => limit attempt (by omega))
          (keepsMade observed (List.mem_of_mem_dropLast member))
          (retries_of_mem_madeOf attempts observed member) slot
    · intro observed member
      have some := List.length_pos_of_mem member
      exact
        spared.orderly (fun attempt before => limit attempt (by omega))
          (keepsMade observed member) slot

/-- A map over the first natural numbers, without retries of its own. -/
def overFour (size : Nat) : PoolFanOut where
  runtime := wholeNumbers
  opts := {
    timeout := none
    retries := none
    cancel := false
    deadlineEpochMs := none
  }
  treeDepth := .exact
  target := .configured
  request := .overFour size

/-- Every function throws an error of its own, with one message. -/
def throwing (message : String) : Conduct where
  completed := {.error (plainError message)}
  failures := ∅
  answerLost := ∅
  poolAnswerLost := ∅

/--
Four functions that throw an error of their own are run again, when its message
is that of a lost connection.
-/
theorem not_neverRerunsCompleted_throwing :
    ¬ (overFour 4).NeverRerunsCompleted
        (throwing "Network connection lost.") := by
  intro never
  have selected :
      selectTopology .exact
          (CoordinatorFanOutRequest.overFour 4).argsList.length
          (CoordinatorFanOutRequest.overFour 4).selectorOptions =
        .ok (.fanOut (.hybrid (buildHybridPlan 4))) :=
    rfl
  have limit :
      (overFour 4).opts.attemptLimit wholeNumbers = .ofNat 1 := by
    decide +kernel
  have one : ((overFour 4).opts.attemptLimit wholeNumbers).Allows 1 := by
    rw [limit, allows_ofNat_iff]
  have spared :=
    spares_of_neverReruns never (by decide) selected (by decide) one
  exact
    spared (.inl ⟨_, rfl, by decide +kernel⟩)

end PoolFanOut

end CloudflareParallel
