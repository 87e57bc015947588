import CloudflareParallel.FanOutSchedules
import CloudflareParallel.PoolFanOut
import CloudflareParallel.RunFanOutSpecification

namespace CloudflareParallel

open Interleavings

/-!
# The concurrency of `Pool.map`

`Pool.map` hands all its items to one `#fanOut`, which sends them to the
coordinator as one request.  The options of the call go with it, but for
`concurrency`, which nothing reads; `LoaderOnlyPoolImpl.map` makes it the number
of its workers.
-/

/-- `MapOptions`, without the deadlines, of which the envelope is made. -/
structure MapOptions where
  concurrency : Option Int := none
  onError : Option OnErrorStrategy := none
  timeout : Option OptionValue := none
  retries : Option OptionValue := none
  context : Option JsRecord := none
  /-- The stream of the cancel token, if there is one. -/
  cancel : Option CancelStream := none
  freshIsolate : Option Bool := none

/-- What `#fanOut` takes from its pool. -/
structure FanOutPool where
  runtime : DispatchRuntime
  treeDepth : TreeDepth
  runManyTarget : (size : Nat) → CfpCoordinator
  context : Option JsRecord := none
  timeout : Option OptionValue := none
  retries : Option OptionValue := none
  cacheKeyStrategy : Option CacheKeyStrategy := none
  workerOptions : Option WireWorkerOptions := none
  selector : SelectorOptions := {}
  allowList : Option (List String) := none
  locationHint : Option LocationHint := none

/-- `mergeContext`; the value of the call goes before that of the pool. -/
def mergeContext :
    (poolContext perCallContext : Option JsRecord) → Option JsRecord
  | none, perCall => perCall
  | some pool, none => some pool
  | some pool, some perCall =>
      some
        (pool.map (fun entry =>
            (entry.1, (perCall.lookup entry.1).getD entry.2)) ++
          perCall.filter fun entry => (pool.lookup entry.1).isNone)

/--
`#fanOut`, behind `#serialize` and `buildEnvelope`: what it dispatches, with the
options of the call.
-/
def FanOutPool.fanOut
    (pool : FanOutPool)
    (fnSource fnHash : String)
    (argsList : List (List JsValue))
    (envelope : DispatchEnvelope)
    (perCall : MapOptions) : PoolFanOut where
  runtime := pool.runtime
  opts := {
    timeout := nullish perCall.timeout pool.timeout
    retries :=
      nullish perCall.retries
        (nullish pool.retries (some (.typed (.finite 0))))
    cancel := perCall.cancel.isSome
    deadlineEpochMs :=
      if envelope.deadlineEpochMs = 0 then
        none
      else
        some (.typed (.finite envelope.deadlineEpochMs))
  }
  treeDepth := pool.treeDepth
  target := pool.runManyTarget argsList.length
  request := {
    fnSource := fnSource
    fnHash := fnHash
    argsList := argsList
    context := mergeContext pool.context perCall.context
    cacheKeyStrategy := some (pool.cacheKeyStrategy.getD .stable)
    workerOptions := pool.workerOptions
    envelope := envelope
    freshIsolate := perCall.freshIsolate
    selector := some pool.selector
    allowList := pool.allowList
    cancelStream := perCall.cancel
    locationHint := pool.locationHint
  }

/-- A call `pool.map(fn, items, opts)`. -/
structure MapCall where
  pool : FanOutPool
  fnSource : String
  fnHash : String
  envelope : DispatchEnvelope
  items : List JsValue
  opts : MapOptions := {}

namespace MapCall

/-- The `#fanOut` of the call, with one argument list per item. -/
def fanOut (call : MapCall) : PoolFanOut :=
  call.pool.fanOut call.fnSource call.fnHash (call.items.map ([·]))
    call.envelope call.opts

/-- The attempts that `Pool.map` makes, of those that it could make. -/
def made
    (call : MapCall)
    (attempts : List (FanOutAttempt call.fanOut)) :
    List (FanOutAttempt call.fanOut) :=
  if call.items.length = 0 then
    []
  else
    madeOf (·.reading) attempts

end MapCall

/--
The events of the attempts of a call.  An attempt that did something and is
followed by another one lost its answer, so the two go on side by side.
-/
inductive CallSchedule
    {call : PoolFanOut} :
    List (FanOutAttempt call) → List ExecutionEvent → Prop where
  | nil : CallSchedule [] []
  | cons {attempt : FanOutAttempt call}
      {rest : List (FanOutAttempt call)}
      {events others all : List ExecutionEvent} :
      LogSchedule attempt.platform attempt.log events →
      CallSchedule rest others →
      Beside events others all →
      CallSchedule (attempt :: rest) all

namespace MapCall

/--
The call is dispatched: its options let an attempt be made, and the coordinator
selects a plan and has the bindings for it.
-/
def IsDispatched (call : MapCall) : Prop :=
  (call.fanOut.opts.attemptLimit call.fanOut.runtime).Allows 1 ∧
    ∃ plan,
      selectTopology call.pool.treeDepth call.items.length
          call.pool.selector = .ok plan ∧
        (call.pool.runManyTarget call.items.length).carriesOut plan = true

/-- At no time are more jobs of the call executed than this. -/
def NeverExceeds
    (call : MapCall)
    (concurrency : Int) : Prop :=
  ∀ attempts events started,
    CallSchedule (call.made attempts) events →
    started <+: events →
    (executing call.items.length started : Int) ≤ concurrency

end MapCall

/-- The `runFanOut` of `LoaderOnlyPoolImpl.map`. -/
def LoaderOnlyPool.mapOptions
    {Item Value : Type}
    (items : List Item)
    (opts : MapOptions)
    (runOnce : Item → (taskSlot : Nat) → Except Rejection Value)
    (stackOf : String → Option String) : RunFanOutOptions Item Value where
  items := items
  concurrency := opts.concurrency.getD items.length
  onError := opts.onError.getD .throw
  run := runOnce
  stackOf := stackOf

/-! ## What a call does -/

/-- Attempts that did nothing have no events. -/
theorem CallSchedule.eq_nil
    {call : PoolFanOut}
    {attempts : List (FanOutAttempt call)}
    {events : List ExecutionEvent}
    (schedule : CallSchedule attempts events)
    (nothing : ∀ attempt ∈ attempts, attempt.log = []) :
    events = [] := by
  induction schedule with
  | nil => rfl
  | cons ofAttempt _ beside inductionHypothesis =>
      rw [nothing _ List.mem_cons_self] at ofAttempt
      cases ofAttempt
      rw [beside.eq_of_nil]
      exact
        inductionHypothesis fun attempt member =>
          nothing attempt (List.mem_cons_of_mem _ member)

/-- One attempt alone. -/
theorem CallSchedule.single
    {call : PoolFanOut}
    {attempt : FanOutAttempt call}
    {events : List ExecutionEvent}
    (schedule : LogSchedule attempt.platform attempt.log events) :
    CallSchedule [attempt] events :=
  .cons schedule .nil (.alone events)

namespace MapCall

variable {call : MapCall}

/-- The request carries one job per item. -/
@[simp] theorem length_argsList_fanOut :
    call.fanOut.request.argsList.length = call.items.length := by
  simp [fanOut, FanOutPool.fanOut]

/-- The request goes to the target for this many jobs. -/
theorem target_fanOut :
    call.fanOut.target = call.pool.runManyTarget call.items.length := by
  simp [fanOut, FanOutPool.fanOut]

/-- A dispatched call is answered on every platform. -/
theorem runMany_answers_iff
    (someItem : 0 < call.items.length)
    (platform : Platform) :
    (∃ response, call.fanOut.runMany platform = .ok response) ↔
      ∃ plan,
        selectTopology call.pool.treeDepth call.items.length
            call.pool.selector = .ok plan ∧
          (call.pool.runManyTarget call.items.length).carriesOut plan =
            true := by
  rw [← length_argsList_fanOut] at someItem
  rw [← target_fanOut, ← length_argsList_fanOut]
  exact CloudflareParallel.runMany_answers_iff someItem

/-- A call that is not dispatched executes nothing. -/
theorem nothing_of_not_isDispatched
    (notDispatched : ¬call.IsDispatched)
    {attempts : List (FanOutAttempt call.fanOut)} :
    ∀ attempt ∈ call.made attempts, attempt.log = [] := by
  intro attempt member
  unfold made at member
  split at member
  next => cases member
  next someItem =>
    rcases attempt.log_eq with nothing | ⟨response, ran, -⟩
    · exact nothing
    · have allowed :=
        @allows_length_madeOf _ _ _ _ FanOutAttempt.reading attempts
      have planned :=
        (runMany_answers_iff (Nat.pos_of_ne_zero someItem)
          attempt.platform).mp ⟨response, ran⟩
      refine absurd ⟨fun first before => ?_, planned⟩ notDispatched
      exact
        allowed first
          (Nat.lt_of_lt_of_le before (List.length_pos_of_mem member))

/-- A call that is dispatched may execute all its jobs at once. -/
theorem exists_allAtOnce
    (dispatched : call.IsDispatched)
    (someItem : call.items.length ≠ 0) :
    ∃ attempts events started,
      CallSchedule (call.made attempts) events ∧
        started <+: events ∧
        executing call.items.length started = call.items.length := by
  obtain ⟨one, plan, selected, bound⟩ := dispatched
  obtain ⟨response, ran⟩ :=
    (runMany_answers_iff (Nat.pos_of_ne_zero someItem) .ideal).mpr
      ⟨plan, selected, bound⟩
  rw [← length_argsList_fanOut] at selected
  obtain ⟨started, later, schedule, beginnings, begun⟩ :=
    (tierLaw_allAtOnce Platform.reliable_ideal).runMany selected ran
  let attempt := FanOutAttempt.settled call.fanOut .ideal .delivered
  have log : attempt.log = response.activity := by
    simp only [attempt, FanOutAttempt.log, FanOutAttempt.settled, ran]
  have made : call.made [attempt] = [attempt] := by
    rw [MapCall.made, if_neg someItem]
    exact madeOf_singleton one rfl
  refine ⟨[attempt], started ++ later, started, ?_, ⟨later, rfl⟩, ?_⟩
  · rw [made]
    refine .single ?_
    rw [log]
    exact schedule
  · refine executing_eq_of_begun beginnings fun slot before => ?_
    rw [length_argsList_fanOut, Nat.zero_add] at begun
    exact begun slot (Nat.zero_le _) before

/--
`Pool.map` keeps to its cap exactly where it has no more items than the cap, or
where it is not dispatched at all: the cap is nowhere looked at.
`LoaderOnlyPoolImpl.map` never has more runs in flight.
-/
theorem map_capped_iff
    (call : MapCall)
    {concurrency : Int}
    (isCap : call.opts.concurrency = some concurrency)
    (atLeastOne : 1 ≤ concurrency) :
    (call.NeverExceeds concurrency ↔
        call.items.length ≤ concurrency ∨ ¬call.IsDispatched) ∧
      ∀ (runOnce : JsValue → Nat → Except Rejection JsValue) stackOf steps
          state,
        (LoaderOnlyPool.mapOptions call.items call.opts runOnce
          stackOf).Reaches steps state →
        (state.inFlight : Int) ≤ concurrency := by
  refine
    ⟨⟨fun never => ?_, ?_⟩, fun runOnce stackOf steps state reached => ?_⟩
  · by_contra exceeded
    rw [not_or, not_not] at exceeded
    obtain ⟨attempts, events, started, schedule, isPrefix, all⟩ :=
      exists_allAtOnce exceeded.2 (by omega)
    have within := never attempts events started schedule isPrefix
    rw [all] at within
    exact exceeded.1 within
  · rintro (few | notDispatched) attempts events started schedule isPrefix
    · exact (Int.ofNat_le.mpr (executing_le _ _)).trans few
    · have none :=
        schedule.eq_nil (nothing_of_not_isDispatched notDispatched)
      rw [none, List.prefix_nil] at isPrefix
      rw [isPrefix, executing_nil]
      omega
  · have bound := (RunFanOutOptions.sound_of_reaches reached).inFlight_le
    simp only [LoaderOnlyPool.mapOptions, isCap, Option.getD_some] at bound
    omega

/-- A call that maps the first natural numbers, one at a time. -/
def oneAtATime (size : Nat) : MapCall where
  pool := {
    runtime := wholeNumbers
    treeDepth := .exact
    runManyTarget := fun _ => .configured
  }
  fnSource := "(x) => x"
  fnHash := "0"
  envelope := {
    deadlineEpochMs := 0
    signal := { cancelled := false }
  }
  items := (List.range size).map fun i => .number (.finite (toString i))
  opts := { concurrency := some 1 }

/-- Three items are mapped three at a time. -/
theorem map_capped_threeAtATime :
    MapCall.NeverExceeds
      { oneAtATime 3 with opts := { concurrency := some 3 } } 3 :=
  (map_capped_iff { oneAtATime 3 with opts := { concurrency := some 3 } } rfl
    (by decide)).1.mpr (.inl (Int.le_refl 3))

/-- Two items are not: each has its own leaf, and both leaves are called. -/
theorem map_exceeds_cap :
    (oneAtATime 2).opts.concurrency = some 1 ∧
      ¬(oneAtATime 2).NeverExceeds 1 := by
  have dispatched : (oneAtATime 2).IsDispatched := by
    refine ⟨?_, .fanOut (.hybrid (buildHybridPlan 2)), rfl, by decide⟩
    have limit :
        (oneAtATime 2).fanOut.opts.attemptLimit wholeNumbers = .ofNat 1 := by
      decide +kernel
    rw [show (oneAtATime 2).fanOut.runtime = wholeNumbers from rfl, limit,
      allows_ofNat_iff]
  obtain ⟨attempts, events, started, schedule, isPrefix, all⟩ :=
    exists_allAtOnce dispatched (by decide)
  refine ⟨rfl, fun never => ?_⟩
  have within := never attempts events started schedule isPrefix
  rw [all] at within
  revert within
  decide

end MapCall

end CloudflareParallel
