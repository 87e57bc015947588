import CloudflareParallel.Library.SlidingWindows
import CloudflareParallel.PoolCounters

namespace CloudflareParallel

open LabelledRuns

/-!
# `Pool.stats`

The counter of the last sixty seconds is a list of times that retries append to
and that `stats` itself trims, so what one call reports depends on the calls
before it.  The other figures are those of the dispatches so far, except that a
function counts as soon as it is serialized: `buildEnvelope` may still throw.
-/

/-- `PoolStats`. -/
structure PoolStats where
  inFlight : Int
  queued : Nat
  completed : Nat
  failed : Nat
  cancelled : Nat
  topology : Topology
  topologyDecisionAt : Int
  warmIsolatesEstimate : Nat
  uniqueFnShapesToday : Nat
  lruEvictionLast60sCount : Nat
  treeDepth : Nat
  fanOutPerLevel : List Nat

/-- What `Pool` keeps for `stats`. -/
structure PoolStatsState where
  pool : PoolState := .initial
  fnShapesToday : Finset String := ∅
  lastTopologyDecisionAt : Int := 0
  lastFanOutPerLevel : List Nat := []
  lastTreeDepth : Nat := 1
  lastTopology : Option Topology := none
  lruEvictionLast60s : List Int := []

/-- The answer that `#fanOut` records. -/
def PoolDispatch.decision? : PoolDispatch → Option FanOutResponse
  | .runOneSource _ _ _ => none
  | .fanOut _ _ _ _ readings _ =>
      match (dispatchWithResilience readings).ended with
      | .resolved response => some response
      | _ => none

/-- The runtime of a dispatch. -/
def PoolDispatch.runtime : PoolDispatch → DispatchRuntime
  | .runOneSource runtime _ _ => runtime
  | .fanOut runtime _ _ _ _ _ => runtime

/-- What happens at a pool, with the clock readings. -/
inductive PoolStatsEvent where
  /-- A function is serialized, and its dispatch begins with its envelope. -/
  | begins
      (fnHash : String)
      (envelope : EnvelopeOptions)
      (dispatch : PoolDispatch)
  /-- The `onRetry` of a dispatch. -/
  | retries (error : ParallelError) (now : Int)
  | settles (idx : Nat) (now : Int)
  | stats (now : Int)

/-- The clock reading of an event. -/
def PoolStatsEvent.now? : PoolStatsEvent → Option Int
  | .begins _ _ _ => none
  | .retries _ now => some now
  | .settles _ now => some now
  | .stats now => some now

namespace PoolStatsState

/-- `lruEvictionLast60s` without the times before the window. -/
def trimmed
    (state : PoolStatsState)
    (now : Int) : List Int :=
  SlidingWindows.trim (now - 60000) state.lruEvictionLast60s

/-- `stats`, by the topology that the options name. -/
def stats
    (state : PoolStatsState)
    (pinned : Option Topology)
    (now : Int) : PoolStats where
  inFlight := state.pool.counters.inFlight
  queued := 0
  completed := state.pool.counters.completed
  failed := state.pool.counters.failed
  cancelled := state.pool.counters.cancelled
  topology :=
    state.lastTopology.getD ((pinned.filter (· ≠ .auto)).getD .inDo)
  topologyDecisionAt := state.lastTopologyDecisionAt
  warmIsolatesEstimate := min state.fnShapesToday.card 50
  uniqueFnShapesToday := state.fnShapesToday.card
  lruEvictionLast60sCount := (state.trimmed now).length
  treeDepth := state.lastTreeDepth
  fanOutPerLevel := state.lastFanOutPerLevel

/-- The answer of a fan-out is recorded. -/
def decide
    (state : PoolStatsState)
    (now : Int)
    (response : FanOutResponse) : PoolStatsState :=
  { state with
    lastTopologyDecisionAt := now
    lastFanOutPerLevel := response.fanOutPerLevel
    lastTreeDepth := response.treeDepth
    lastTopology := some response.topology }

/-- The step function of a pool with its statistics. -/
def step (state : PoolStatsState) : PoolStatsEvent → Option PoolStatsState
  | .begins fnHash envelope dispatch =>
      let serialized :=
        { state with fnShapesToday := insert fnHash state.fnShapesToday }
      match envelope.build dispatch.runtime with
      | .error _ => some serialized
      | .ok _ =>
          (state.pool.step (.begins dispatch)).map fun pool =>
            { serialized with pool := pool }
  | .retries error now =>
      some
        (if error.name = "BackpressureError" then
          { state with
            lruEvictionLast60s := state.lruEvictionLast60s ++ [now] }
        else
          state)
  | .settles idx now =>
      (state.pool.step (.settles idx)).map fun pool =>
        let settled := { state with pool := pool }
        match state.pool.opened[idx]?.bind PoolDispatch.decision? with
        | none => settled
        | some response => settled.decide now response
  | .stats now => some { state with lruEvictionLast60s := state.trimmed now }

end PoolStatsState

/-- What has happened at a pool so far. -/
structure PoolHistory where
  /-- The hashes of the functions that were serialized, newest first. -/
  fnHashes : List String := []
  /-- When a dispatch was retried because of a `BackpressureError`. -/
  backpressure : List Int := []
  /-- The fan-outs that were answered, newest first. -/
  decisions : List (FanOutResponse × Int) := []
  /-- The last reading of the clock. -/
  latest : Int

namespace PoolHistory

/-- What an event adds to the history. -/
def add
    (state : PoolStatsState)
    (event : PoolStatsEvent)
    (history : PoolHistory) : PoolHistory :=
  let history := { history with latest := event.now?.getD history.latest }
  match event with
  | .begins fnHash _ _ =>
      { history with fnHashes := fnHash :: history.fnHashes }
  | .retries error now =>
      if error.name = "BackpressureError" then
        { history with backpressure := history.backpressure ++ [now] }
      else
        history
  | .settles idx now =>
      match state.pool.opened[idx]?.bind PoolDispatch.decision? with
      | none => history
      | some response =>
          { history with decisions := (response, now) :: history.decisions }
  | .stats _ => history

/-- The clock does not go backwards. -/
def IsOrdered
    (current : PoolStatsState × PoolHistory)
    (event : PoolStatsEvent) : Prop :=
  ∀ now ∈ event.now?, current.2.latest ≤ now

instance
    (current : PoolStatsState × PoolHistory)
    (event : PoolStatsEvent) :
    Decidable (IsOrdered current event) :=
  inferInstanceAs (Decidable (∀ now ∈ event.now?, _))

end PoolHistory

/-- The report tells what has happened. -/
structure PoolStats.IsAccurate
    (report : PoolStats)
    (pinned : Option Topology)
    (pool : PoolState)
    (history : PoolHistory)
    (now : Int) : Prop where
  inFlight : report.inFlight = pool.openedTasks
  lruEvictionLast60sCount :
    report.lruEvictionLast60sCount =
      history.backpressure.countP fun time => now - 60000 ≤ time
  uniqueFnShapesToday :
    report.uniqueFnShapesToday = history.fnHashes.toFinset.card
  warmIsolatesEstimate :
    report.warmIsolatesEstimate = min history.fnHashes.toFinset.card 50
  decided :
    ∀ response at_,
      history.decisions.head? = some (response, at_) →
      report.topology = response.topology ∧
        report.topologyDecisionAt = at_ ∧
          report.treeDepth = response.treeDepth ∧
            report.fanOutPerLevel = response.fanOutPerLevel
  undecided :
    history.decisions = [] →
    report.topology = (pinned.filter (· ≠ .auto)).getD .inDo ∧
      report.topologyDecisionAt = 0 ∧
        report.treeDepth = 1 ∧
          report.fanOutPerLevel = []

/-! ## The invariant -/

/-- What is kept agrees with the history. -/
structure PoolStatsState.Keeps
    (state : PoolStatsState)
    (history : PoolHistory) : Prop where
  follows : state.pool.Follows
  fnShapesToday : state.fnShapesToday = history.fnHashes.toFinset
  window :
    ∃ bound,
      bound ≤ history.latest - 60000 ∧
        SlidingWindows.Shows state.lruEvictionLast60s history.backpressure
          bound history.latest
  decision :
    (state.lastTopology, state.lastTopologyDecisionAt, state.lastTreeDepth,
        state.lastFanOutPerLevel) =
      match history.decisions.head? with
      | none => (none, 0, 1, [])
      | some (response, at_) =>
          (some response.topology, at_, response.treeDepth,
            response.fanOutPerLevel)

namespace PoolStatsState

/-- A step in order keeps the agreement. -/
theorem keeps_step
    {current next : PoolStatsState × PoolHistory}
    {event : PoolStatsEvent}
    (ordered : PoolHistory.IsOrdered current event)
    (recorded : recording step PoolHistory.add current event = some next)
    (keeps : current.1.Keeps current.2) :
    next.1.Keeps next.2 := by
  obtain ⟨state, history⟩ := current
  obtain ⟨after, stepped, rfl⟩ := Option.map_eq_some_iff.mp recorded
  obtain ⟨bound, behind, shown⟩ := keeps.window
  dsimp only at behind shown ⊢
  cases event with
  | begins fnHash envelope dispatch =>
      have counted :
          insert fnHash state.fnShapesToday =
            (fnHash :: history.fnHashes).toFinset := by
        rw [keeps.fnShapesToday, List.toFinset_cons]
      unfold step at stepped
      dsimp only at stepped
      split at stepped
      next =>
        cases stepped
        exact ⟨keeps.follows, counted, ⟨bound, behind, shown⟩, keeps.decision⟩
      next =>
        obtain ⟨pool, begun, rfl⟩ := Option.map_eq_some_iff.mp stepped
        exact ⟨PoolState.follows_of_step begun keeps.follows, counted,
          ⟨bound, behind, shown⟩, keeps.decision⟩
  | retries error now =>
      cases stepped
      have later : history.latest ≤ now := ordered now rfl
      unfold PoolHistory.add
      dsimp only
      split
      next =>
        exact ⟨keeps.follows, keeps.fnShapesToday,
          ⟨bound, behind.trans (Int.sub_le_sub_right later _),
            shown.push later (by omega)⟩, keeps.decision⟩
      next =>
        exact ⟨keeps.follows, keeps.fnShapesToday,
          ⟨bound, behind.trans (Int.sub_le_sub_right later _),
            shown.mono later⟩, keeps.decision⟩
  | settles idx now =>
      unfold step at stepped
      obtain ⟨pool, settled, rfl⟩ := Option.map_eq_some_iff.mp stepped
      have later : history.latest ≤ now := ordered now rfl
      have follows := PoolState.follows_of_step settled keeps.follows
      have window :
          ∃ bound,
            bound ≤ now - 60000 ∧
              SlidingWindows.Shows state.lruEvictionLast60s
                history.backpressure bound now :=
        ⟨bound, behind.trans (Int.sub_le_sub_right later _), shown.mono later⟩
      unfold PoolHistory.add
      dsimp only
      cases state.pool.opened[idx]?.bind PoolDispatch.decision? with
      | none => exact ⟨follows, keeps.fnShapesToday, window, keeps.decision⟩
      | some response => exact ⟨follows, keeps.fnShapesToday, window, rfl⟩
  | stats now =>
      cases stepped
      have later : history.latest ≤ now := ordered now rfl
      have further : bound ≤ now - 60000 :=
        behind.trans (Int.sub_le_sub_right later _)
      exact ⟨keeps.follows, keeps.fnShapesToday,
        ⟨now - 60000, Int.le_refl _, (shown.trim further).mono later⟩,
        keeps.decision⟩

/-- What agrees with the history is reported right. -/
theorem Keeps.isAccurate
    {state : PoolStatsState}
    {history : PoolHistory}
    {now : Int}
    (keeps : state.Keeps history)
    (later : history.latest ≤ now)
    (pinned : Option Topology) :
    (state.stats pinned now).IsAccurate pinned state.pool history now := by
  obtain ⟨bound, behind, shown⟩ := keeps.window
  have further : bound ≤ now - 60000 :=
    behind.trans (Int.sub_le_sub_right later _)
  have decision := keeps.decision
  refine ⟨keeps.follows.inFlight, ?_, ?_, ?_, ?_, ?_⟩
  · change (SlidingWindows.trim _ _).length = _
    rw [(shown.trim further).window, List.countP_eq_length_filter]
  · exact congrArg Finset.card keeps.fnShapesToday
  · exact congrArg (min ·.card 50) keeps.fnShapesToday
  · intro response at_ last
    rw [last] at decision
    simp only [Prod.mk.injEq] at decision
    obtain ⟨topology, decidedAt, treeDepth, fanOutPerLevel⟩ := decision
    refine ⟨?_, decidedAt, treeDepth, fanOutPerLevel⟩
    unfold stats
    rw [topology]
    rfl
  · intro none
    rw [none] at decision
    simp only [List.head?_nil, Prod.mk.injEq] at decision
    obtain ⟨topology, decidedAt, treeDepth, fanOutPerLevel⟩ := decision
    refine ⟨?_, decidedAt, treeDepth, fanOutPerLevel⟩
    unfold stats
    rw [topology]
    rfl

/--
In every run whose clock does not go backwards, whichever calls of `stats` were
made before, the report of `stats` is accurate: it counts the tasks in flight,
the retries for backpressure of the last sixty seconds and the functions that
were serialized so far, and names the topology of the last answered fan-out.
-/
theorem stats_isAccurate
    {start : Int}
    {events : List PoolStatsEvent}
    {final : PoolStatsState}
    {history : PoolHistory}
    {now : Int}
    (run :
      GuardedRun (recording step PoolHistory.add) PoolHistory.IsOrdered
        ({}, { latest := start }) events (final, history))
    (later : history.latest ≤ now)
    (pinned : Option Topology) :
    (final.stats pinned now).IsAccurate pinned final.pool history now := by
  have keeps : final.Keeps history := by
    refine @GuardedRun.invariant _ _ _ _
      (fun (current : PoolStatsState × PoolHistory) =>
        current.1.Keeps current.2)
      keeps_step _ _ _ run ?_
    exact {
      follows := PoolState.follows_initial
      fnShapesToday := rfl
      window :=
        ⟨start - 60000, Int.le_refl _, rfl, .nil, fun _ member => by
          cases member⟩
      decision := rfl
    }
  exact keeps.isAccurate later pinned

/-- The error of an isolate that is overloaded. -/
def overloaded : ParallelError :=
  .classed (.backpressureError "overloaded" ⟨"100"⟩) none .undefined

/--
Two retries, one of which is out of the window at the second `stats`, and a
call whose deadline is half a second away.
-/
def retriesTwice : List PoolStatsEvent :=
  [ .begins "hash" { now := 0 } PoolState.timedOut, .retries overloaded 1000,
    .stats 50000,
    .begins "late"
      { now := 50000, deadlineMs := some (.typed (.finite 500)) }
      PoolState.timedOut,
    .retries overloaded 55000, .stats 62000 ]

/--
The report after it counts the second retry only, and both functions, though
only the dispatch of the first is in flight.
-/
theorem stats_isAccurate_retriesTwice :
    ∃ (final : PoolStatsState) (history : PoolHistory),
      GuardedRun (recording step PoolHistory.add) PoolHistory.IsOrdered
          ({}, { latest := 0 }) retriesTwice (final, history) ∧
        history.backpressure = [1000, 55000] ∧
          (final.stats none 62000).lruEvictionLast60sCount = 1 ∧
            (final.stats none 62000).uniqueFnShapesToday = 2 ∧
              (final.stats none 62000).inFlight = 1 ∧
                (final.stats none 62000).IsAccurate none final.pool history
                  62000 := by
  have executed :
      (retriesTwice.foldlM
          (fun current event =>
            if PoolHistory.IsOrdered current event then
              recording step PoolHistory.add current event
            else
              none)
          ({}, { latest := 0 })).any
        fun current =>
          current.2.latest = 62000 ∧
            current.2.backpressure = [1000, 55000] ∧
              (current.1.stats none 62000).lruEvictionLast60sCount = 1 ∧
                (current.1.stats none 62000).uniqueFnShapesToday = 2 ∧
                  (current.1.stats none 62000).inFlight = 1 := by
    decide +kernel
  obtain ⟨⟨final, history⟩, isFinal, reported⟩ :=
    (Option.any_eq_true _ _).mp executed
  obtain ⟨latest, backpressure, counted, shapes, inFlight⟩ :=
    of_decide_eq_true reported
  have run := GuardedRun.of_checked isFinal
  exact ⟨final, history, run, backpressure, counted, shapes, inFlight,
    stats_isAccurate run (Int.le_of_eq latest) none⟩

end PoolStatsState

end CloudflareParallel
