import CloudflareParallel.RunFanOutSpecification

namespace CloudflareParallel

open LabelledRuns

/-!
# The first failure under `throw-fast`

The failures are kept by index, and the one of the lowest index is thrown.  The
first item is always run, so without a value it is the failure of that item:
the one that came first in time only if no other item failed before it.
-/

namespace RunFanOutOptions

variable {Item Value : Type}

/-- The run of this index fails, and no item has failed before. -/
def FailsFirst
    (opts : RunFanOutOptions Item Value)
    (steps : List RunFanOutStep)
    (idx : Nat)
    (error : ParallelError) : Prop :=
  ∃ before worker later state item,
    steps = before ++ .settles worker :: later ∧
      opts.Reaches before state ∧
        (∀ (other : Nat) (failure : ParallelError),
          state.settled[other]? ≠ some (some (.failed failure))) ∧
          state.workers[worker]? = some (.running idx item) ∧
            opts.settledOf (opts.run item idx) = .failed error

variable {opts : RunFanOutOptions Item Value}

/-- A turn of a worker's loop does not raise the flag. -/
theorem aborted_takeNext
    (state : RunFanOutState Item Value)
    (worker : Nat) :
    (opts.takeNext state worker).aborted = state.aborted := by
  unfold takeNext
  cases found : opts.items[state.cursor]? with
  | none => simp only [found]
  | some item =>
      simp only [found]
      split
      · rfl
      · unfold runOne
        split <;> rfl

/-- The flag is raised when a run fails. -/
theorem failed_of_step
    {state next : RunFanOutState Item Value}
    {label : RunFanOutStep}
    (stepped : opts.step state label = some next)
    (down : ¬ state.aborted = true)
    (up : next.aborted = true) :
    ∃ worker idx item error,
      label = .settles worker ∧
        state.workers[worker]? = some (.running idx item) ∧
          opts.settledOf (opts.run item idx) = .failed error := by
  cases label with
  | takes worker =>
      cases found : state.workers[worker]? with
      | none => simp [step, found] at stepped
      | some at_ =>
          cases at_ with
          | ready =>
              simp only [step, found, Option.some.injEq] at stepped
              rw [← stepped, aborted_takeNext] at up
              exact absurd up down
          | running => simp [step, found] at stepped
          | returned => simp [step, found] at stepped
  | settles worker =>
      cases found : state.workers[worker]? with
      | none => simp [step, found] at stepped
      | some at_ =>
          cases at_ with
          | ready => simp [step, found] at stepped
          | running idx item =>
              simp only [step, found, Option.some.injEq] at stepped
              rw [← stepped, aborted_settle] at up
              obtain ⟨-, error, failed⟩ := up.resolve_left down
              exact ⟨worker, idx, item, error, rfl, found, failed⟩
          | returned => simp [step, found] at stepped

/-- When the flag is up, some run has failed first. -/
theorem exists_failsFirst
    (mode : opts.onError = .throwFast)
    {steps : List RunFanOutStep}
    {final : RunFanOutState Item Value}
    (reached : opts.Reaches steps final)
    (aborted : final.aborted = true) :
    ∃ idx error, opts.FailsFirst steps idx error := by
  let flagUp (state : RunFanOutState Item Value) : Prop :=
    state.aborted = true
  have initially : ¬ flagUp opts.launch := Bool.false_ne_true
  obtain ⟨before, label, later, state, next, split, earlier, down, stepped,
    up⟩ := reached.exists_first initially aborted
  obtain ⟨worker, idx, item, error, rfl, running, failed⟩ :=
    failed_of_step stepped down up
  refine ⟨idx, error, before, worker, later, state, item, split, earlier,
    fun other failure there => ?_, running, failed⟩
  have recorded := (sound_of_reaches earlier).recorded other _ there
  exact down (recorded.fails mode failure rfl)

/-- The run of the first item that fails has its outcome. -/
theorem FailsFirst.settledAt
    {steps : List RunFanOutStep}
    {idx : Nat}
    {error : ParallelError}
    (first : opts.FailsFirst steps idx error) :
    opts.settledAt? idx = some (.failed error) := by
  obtain ⟨before, worker, later, state, item, -, earlier, -, running,
    failed⟩ := first
  obtain ⟨found, -⟩ :=
    (sound_of_reaches earlier).running worker idx item running
  rw [settledAt?, found, Option.map_some, failed]

/--
When nothing succeeds under `throw-fast`, some run fails first, and the call
rejects with the failure of the first item, whose run has started.  It is the
first failure exactly when the first item fails first, or fails alike.
-/
theorem throwFast_throwsFirst_iff
    {steps : List RunFanOutStep}
    {final : RunFanOutState Item Value}
    {result : Except (FanOutFailure Value) (List (FanOutEntry Value))}
    (mode : opts.onError = .throwFast)
    (nonempty : opts.items ≠ [])
    (reached : opts.Reaches steps final)
    (ended : opts.result? final = some result)
    (none :
      ∀ (idx : Nat) (value : Value),
        final.settled[idx]? ≠ some (some (.ok value))) :
    (∃ idx error, opts.FailsFirst steps idx error) ∧
      (∃ error,
        result = .error (.plain error) ∧
          0 ∈ final.started ∧ opts.settledAt? 0 = some (.failed error)) ∧
        ∀ idx error,
          opts.FailsFirst steps idx error →
          (result = .error (.plain error) ↔
            idx = 0 ∨ opts.settledAt? 0 = some (.failed error)) := by
  obtain ⟨started, error, thrown, failed⟩ :=
    throws_first mode nonempty reached ended none
  have sound := sound_of_reaches reached
  obtain ⟨finished, -⟩ := of_result? reached ended
  have present : 0 < opts.items.length := List.length_pos_of_ne_nil nonempty
  have aborted : final.aborted = true := by
    obtain ⟨record, there⟩ := sound.exists_record finished present
    cases record with
    | ok value => exact absurd there (none 0 value)
    | failed other =>
        exact (sound.recorded 0 _ there).fails mode other rfl
  refine ⟨exists_failsFirst mode reached aborted,
    ⟨error, thrown, started, failed⟩, fun idx first failsFirst => ?_⟩
  rw [thrown, failed]
  constructor
  · intro same
    cases same
    exact .inr rfl
  · rintro (rfl | same)
    · have own := failsFirst.settledAt
      rw [failed] at own
      cases own
      rfl
    · cases same
      rfl

/-- Two items that are run side by side and both fail. -/
def bothFail : RunFanOutOptions Nat Nat where
  items := [0, 1]
  concurrency := 2
  onError := .throwFast
  run item _ := .error (.other (if item = 0 then "first" else "second"))
  stackOf _ := none

/-- The second item fails before the first one. -/
def secondEarlier : List RunFanOutStep :=
  [.takes 0, .takes 1, .settles 1, .takes 1, .settles 0, .takes 0]

/-- The variables when both workers have returned. -/
def bothFailed : RunFanOutState Nat Nat where
  settled :=
    [ some (bothFail.settledOf (.error (.other "first"))),
      some (bothFail.settledOf (.error (.other "second"))) ]
  cursor := 4
  aborted := true
  workers := [.returned, .returned]
  started := [0, 1]

/-- The order of completions is a run. -/
theorem reaches_bothFailed : bothFail.Reaches secondEarlier bothFailed :=
  .of_foldlM rfl

/-- No item succeeds. -/
theorem no_value_bothFailed
    (idx value : Nat) :
    bothFailed.settled[idx]? ≠ some (some (.ok value)) := by
  match idx with
  | 0 | 1 => nofun
  | _ + 2 => nofun

theorem throwFast_throwsFirst_bothFail :
    ∃ idx error, bothFail.FailsFirst secondEarlier idx error :=
  (throwFast_throwsFirst_iff rfl (List.cons_ne_nil _ _) reaches_bothFailed rfl
    no_value_bothFailed).1

/-- The second item is the first to fail. -/
theorem failsFirst_secondEarlier :
    bothFail.FailsFirst secondEarlier 1
      ((Rejection.other "second").asParallel bothFail.stackOf) := by
  refine ⟨[.takes 0, .takes 1], 1, [.takes 1, .settles 0, .takes 0], _, 1,
    rfl, .of_foldlM rfl, fun other failure => ?_, rfl, rfl⟩
  match other with
  | 0 | 1 => nofun
  | _ + 2 => nofun

/-- The caller gets the failure that came second. -/
theorem not_throwsFirst_bothFail :
    ¬ ∀ (opts : RunFanOutOptions Nat Nat) steps final result,
        opts.onError = .throwFast →
        opts.items ≠ [] →
        opts.Reaches steps final →
        opts.result? final = some result →
        (∀ (idx : Nat) (value : Nat),
          final.settled[idx]? ≠ some (some (.ok value))) →
        ∀ idx error,
          opts.FailsFirst steps idx error →
          result = .error (.plain error) := by
  intro throwsFirst
  have thrown :=
    throwsFirst bothFail secondEarlier bothFailed _ rfl
      (List.cons_ne_nil _ _) reaches_bothFailed rfl no_value_bothFailed 1 _
      failsFirst_secondEarlier
  have same := FanOutFailure.plain.inj (Except.error.inj thrown)
  exact absurd (congrArg ParallelError.message same) (by decide)

end RunFanOutOptions

end CloudflareParallel
