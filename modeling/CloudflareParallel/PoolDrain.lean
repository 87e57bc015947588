import CloudflareParallel.Library.DrainBarriers
import CloudflareParallel.PoolCounters

namespace CloudflareParallel

open LabelledRuns DrainBarriers

/-!
# `Pool.drain`

A caller waits for the counter of the tasks in flight to be zero; the decrement
of the counter, and nothing else, looks at the barrier.
-/

namespace PoolState

/-- `this.#inFlight === 0`. -/
def isIdle (state : PoolState) : Bool :=
  state.counters.inFlight = 0

/-- No task of the pool is in flight. -/
def isAtRest (state : PoolState) : Bool :=
  state.openedTasks = 0

/-- `#inFlightDec` ends with a look at the barrier; `#inFlightInc` does not. -/
def decrements : PoolEvent → Bool
  | .begins _ => false
  | .settles _ => true

/-- The pool with the callers of its `drain`, by a number for each call. -/
def drainStep :
    PoolState × Barrier Nat →
    BarrierEvent PoolEvent Nat →
    Option (PoolState × Barrier Nat) :=
  stepWith step isIdle decrements

/-- The calls of `drain`, each with whether the pool has been at rest since. -/
def observeDrains :
    PoolState × Barrier Nat →
    BarrierEvent PoolEvent Nat →
    CallHistory Nat →
    CallHistory Nat :=
  observe step isAtRest

/-- The counter of the tasks in flight tells whether the pool is at rest. -/
theorem isIdle_eq
    {state : PoolState}
    (follows : state.Follows) :
    state.isIdle = state.isAtRest := by
  simp only [isIdle, isAtRest, follows.inFlight, Int.natCast_eq_zero]

/-- A dispatch that begins does not bring the pool to rest. -/
theorem decrements_of_wakes
    {state next : PoolState}
    {event : PoolEvent}
    (stepped : state.step event = some next)
    (busy : state.isAtRest = false)
    (atRest : next.isAtRest = true) :
    decrements event = true := by
  cases event with
  | settles => rfl
  | begins dispatch =>
      cases stepped
      unfold isAtRest openedTasks at busy atRest
      simp only [decide_eq_false_iff_not, decide_eq_true_eq, List.map_append,
        List.sum_append] at busy atRest
      omega

/--
In every run of a pool, a call of `drain` has resolved exactly if at some moment
since the call no task was in flight; all other calls still wait.
-/
theorem drain_resolves_iff_at_rest_since
    {events : List (BarrierEvent PoolEvent Nat)}
    {final : PoolState}
    {barrier : Barrier Nat}
    {history : CallHistory Nat}
    (run :
      Run (recording drainStep observeDrains) ((initial, {}), []) events
        ((final, barrier), history)) :
    barrier.released.Perm (history.callers true) ∧
      barrier.waiting.getD [] = history.callers false ∧
        (barrier.waiting.isSome → 0 < final.openedTasks) := by
  have served : final.Follows ∧ Serves isAtRest final barrier history :=
    @serves_of_run _ _ _ step isIdle isAtRest decrements history Follows
      follows_of_step isIdle_eq (fun stepped _ => decrements_of_wakes stepped)
      _ _ _ _ follows_initial run
  obtain ⟨-, serves⟩ := served
  refine ⟨serves.released, serves.waiting, fun waits => ?_⟩
  have busy := serves.busy waits
  unfold isAtRest at busy
  exact Nat.pos_of_ne_zero (of_decide_eq_false busy)

/-- A submit begins, `drain` is called twice, and the submit settles. -/
def drainsOnce : List (BarrierEvent PoolEvent Nat) :=
  [ .drain 0,
    .work (.begins (submits (.settledBy (.ok (.ok .undefined))))),
    .drain 1,
    .drain 2,
    .work (.settles 0) ]

/-- The pool when the submit has settled. -/
def drained : PoolState where
  counters := ⟨0, 1, 0, 0⟩
  opened := []
  submitted := 1
  settled := [.completed]

/-- All three calls have resolved, the first one at once. -/
theorem drain_resolves_drainsOnce :
    ∃ history : CallHistory Nat,
      Run (recording drainStep observeDrains) ((initial, {}), []) drainsOnce
          ((drained, { released := [0, 1, 2] }), history) ∧
        history = [(0, true), (1, true), (2, true)] ∧
          [0, 1, 2].Perm (history.callers true) := by
  have run :
      Run (recording drainStep observeDrains) ((initial, {}), []) drainsOnce
        ((drained, { released := [0, 1, 2] }),
          [(0, true), (1, true), (2, true)]) :=
    .of_foldlM rfl
  exact ⟨_, run, rfl, (drain_resolves_iff_at_rest_since run).1⟩

end PoolState

end CloudflareParallel
