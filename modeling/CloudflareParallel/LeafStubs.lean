import CloudflareParallel.Coordinator
import CloudflareParallel.Library.OrderedMap
import Mathlib.Data.Finset.Card

namespace CloudflareParallel

open KeyedTables

/-!
# Cached stubs and prewarmed objects

A coordinator keeps the stubs of the Durable Objects it fans out to, and the
names of those it has sent a `noop()` to.  All fan-outs at one instance share
both: while one awaits an answer, others get, drop and replace the same stubs,
and a `noop()` that fails takes its name back.  A retry drops the cached stub
and gets another one.
-/

/-- A `DurableObjectStub`: the name it was got by, and the how-many-th it is. -/
structure DurableObjectStub where
  name : String
  locationHint : Option LocationHint
  serial : Nat
  deriving Repr, DecidableEq

/-- What is sent to an object: a `noop()`, or an attempt at its part. -/
inductive StubMessage where
  | noop
  | work (attempt : Nat)
  deriving Repr, DecidableEq

/-- A message, the name of the object it is meant for, and the stub it takes. -/
structure SentMessage where
  target : String
  message : StubMessage
  stub : DurableObjectStub
  deriving Repr, DecidableEq

/-- When a dispatch drops the cached stub, besides before each retry. -/
structure StubPolicy where
  onTransientResult : Bool
  onError : Bool

/-- `#leafStubCache` of a coordinator, in `#dispatchHybrid`. -/
def leafStubPolicy : StubPolicy where
  onTransientResult := false
  onError := false

/-- `#subCoordStubCache` of a coordinator, in `#dispatchTree`. -/
def subCoordStubPolicy : StubPolicy where
  onTransientResult := true
  onError := false

/-- `leafStubCache` of a sub-coordinator, in `dispatchHybridLeaf`. -/
def tierLeafStubPolicy : StubPolicy where
  onTransientResult := false
  onError := true

/-- A dispatch awaits an answer, awaits the backoff, or has returned. -/
inductive DispatchPhase where
  | calling
  | backingOff
  | returned
  deriving Repr, DecidableEq

/-- The dispatch of one part of a fan-out. -/
structure PartDispatch where
  target : String
  locationHint : Option LocationHint
  attempt : Nat := 0
  phase : DispatchPhase := .calling

/-- A `noop()`, which has arrived or failed once it is settled. -/
structure PrewarmCall where
  target : String
  arrived : Option Bool := none

/-- It has not failed. -/
def PrewarmCall.stands (call : PrewarmCall) : Bool :=
  call.arrived.getD true

/-- One instance: what it keeps, what is under way, and what it has sent. -/
structure StubState where
  prewarmed : Finset String := ∅
  stubs : OrderedMap String DurableObjectStub := .empty
  made : Nat := 0
  prewarms : List PrewarmCall := []
  dispatches : List PartDispatch := []
  /-- The latest message first. -/
  sent : List SentMessage := []

namespace StubState

/-- `#getLeafStub`: the cached stub, or a new one that is then cached. -/
def getLeafStub
    (state : StubState)
    (leafName : String)
    (locationHint : Option LocationHint) : DurableObjectStub × StubState :=
  match OrderedMap.lookup state.stubs leafName with
  | some stub => (stub, state)
  | none =>
      let stub :=
        { name := leafName, locationHint := locationHint, serial := state.made }
      (stub,
        { state with
          stubs := OrderedMap.set state.stubs leafName stub
          made := state.made + 1 })

/-- `#leafStubCache.delete`. -/
def dropStub
    (state : StubState)
    (leafName : String) : StubState :=
  { state with stubs := OrderedMap.delete state.stubs leafName }

/-- Gets the stub of an object and sends a message through it. -/
def send
    (state : StubState)
    (target : String)
    (locationHint : Option LocationHint)
    (message : StubMessage) : StubState :=
  let got := state.getLeafStub target locationHint
  { got.2 with
    sent :=
      { target := target, message := message, stub := got.1 } :: got.2.sent }

/-- `#prewarmedLeaves.add`, for a `noop()` that is then sent. -/
def addPrewarm
    (state : StubState)
    (leafName : String) : StubState :=
  { state with
    prewarmed := insert leafName state.prewarmed
    prewarms := state.prewarms ++ [{ target := leafName }] }

/-- The body of the loop of `#schedulePrewarmLeaves`. -/
def schedulePrewarm
    (locationHint : Option LocationHint)
    (state : StubState)
    (leafName : String) : StubState :=
  if leafName ∈ state.prewarmed then
    state
  else
    (state.addPrewarm leafName).send leafName locationHint .noop

/-- A part whose first attempt is then made. -/
def addDispatch
    (locationHint : Option LocationHint)
    (state : StubState)
    (target : String) : StubState :=
  { state with
    dispatches :=
      state.dispatches ++
        [{ target := target, locationHint := locationHint }] }

/-- The first attempt at a part. -/
def startDispatch
    (locationHint : Option LocationHint)
    (state : StubState)
    (target : String) : StubState :=
  (addDispatch locationHint state target).send target locationHint (.work 0)

/-- A fan-out over parts, each with its number of jobs, up to its first await. -/
def fanOut
    (state : StubState)
    (parts : List (String × Nat))
    (locationHint : Option LocationHint) : StubState :=
  let warmed :=
    (parts.map Prod.fst).foldl (schedulePrewarm locationHint) state
  ((parts.filter (·.2 ≠ 0)).map Prod.fst).foldl (startDispatch locationHint)
    warmed

/-- A `noop()` has arrived, or it has failed and its name is taken back. -/
def settlePrewarm
    (state : StubState)
    (index : Nat)
    (call : PrewarmCall)
    (arrived : Bool) : StubState :=
  { state with
    prewarms := state.prewarms.set index { call with arrived := some arrived }
    prewarmed :=
      if arrived then
        state.prewarmed
      else
        state.prewarmed.erase call.target }

/-- The cached stub is dropped because of an outcome. -/
def dropsStub
    (policy : StubPolicy)
    (attempt : Nat) : RpcOutcome → Bool
  | .ok results =>
      policy.onTransientResult &&
        (hasTransientRunFailure results && attempt < MAX_TRANSIENT_RETRIES)
  | .error _ => policy.onError

/-- An attempt comes back: the dispatch returns, or awaits the backoff. -/
def answer
    (policy : StubPolicy)
    (state : StubState)
    (index : Nat)
    (dispatch : PartDispatch)
    (outcome : RpcOutcome) : StubState :=
  let kept :=
    if dropsStub policy dispatch.attempt outcome then
      state.dropStub dispatch.target
    else
      state
  let phase :=
    if outcome.isTransient && dispatch.attempt < MAX_TRANSIENT_RETRIES then
      DispatchPhase.backingOff
    else
      .returned
  { kept with
    dispatches := state.dispatches.set index { dispatch with phase := phase } }

/-- A dispatch whose next attempt is then made. -/
def restart
    (state : StubState)
    (index : Nat)
    (dispatch : PartDispatch) : StubState :=
  { state.dropStub dispatch.target with
    dispatches :=
      state.dispatches.set index
        { dispatch with
          attempt := dispatch.attempt + 1
          phase := .calling } }

/-- The next attempt, through a new stub. -/
def retry
    (state : StubState)
    (index : Nat)
    (dispatch : PartDispatch) : StubState :=
  (state.restart index dispatch).send dispatch.target dispatch.locationHint
    (.work (dispatch.attempt + 1))

end StubState

/-- What can happen next at an instance. -/
inductive StubEvent where
  | fanOut
    (parts : List (String × Nat))
    (locationHint : Option LocationHint)
  | settlePrewarm (index : Nat) (arrived : Bool)
  | answer (index : Nat) (outcome : RpcOutcome)
  | retry (index : Nat)

/-- The objects that a fan-out is over. -/
def StubEvent.targets : StubEvent → List String
  | .fanOut parts _ => parts.map Prod.fst
  | _ => []

/-- One step of an instance. -/
def StubState.step
    (policy : StubPolicy)
    (state : StubState) : StubEvent → Option StubState
  | .fanOut parts locationHint => some (state.fanOut parts locationHint)
  | .settlePrewarm index arrived =>
      match state.prewarms[index]? with
      | some call =>
          if call.arrived.isNone then
            some (state.settlePrewarm index call arrived)
          else
            none
      | none => none
  | .answer index outcome =>
      match state.dispatches[index]? with
      | some dispatch =>
          if dispatch.phase = .calling then
            some (state.answer policy index dispatch outcome)
          else
            none
      | none => none
  | .retry index =>
      match state.dispatches[index]? with
      | some dispatch =>
          if dispatch.phase = .backingOff then
            some (state.retry index dispatch)
          else
            none
      | none => none

/-! ## The fan-outs of a coordinator -/

/-- The object that an activity calls. -/
def Activity.target? : Activity → Option String
  | .execute .. => none
  | .runBatch leafName _ => some leafName
  | .dispatch subName _ => some subName

/-- The parts of a sliced dispatch, with the number of jobs of each. -/
def slicedParts
    (nameOf : Nat → String)
    (argsList : List (List JsValue))
    (childSizes : List Nat) : List (String × Nat) :=
  (ListSlices.cut argsList 0 childSizes).mapIdx fun index slice =>
    (nameOf index, slice.items.length)

/-- The parts of `#dispatchHybrid`. -/
def CfpCoordinator.hybridParts
    (self : CfpCoordinator)
    (plan : HybridPlan)
    (argsList : List (List JsValue)) : List (String × Nat) :=
  slicedParts (fun leafIdx => s!"{self.id}-{requestId}-leaf-{leafIdx}") argsList
    plan.leafShape

/-- The parts of `#dispatchTree`. -/
def CfpCoordinator.treeParts
    (self : CfpCoordinator)
    (children : List FanOutPlan)
    (argsList : List (List JsValue)) : List (String × Nat) :=
  slicedParts (fun subIdx => s!"{self.id}-{requestId}-sub-{subIdx}") argsList
    (children.map FanOutPlan.size)

/-- The parts of `dispatchHybridLeaf`: a leaf for every job. -/
def tierParts
    (ownerId : String)
    (sliceIdx : Nat)
    (slice : List (List JsValue)) : List (String × Nat) :=
  slice.mapIdx fun i _ => (s!"{ownerId}-r{reqIdx}-leaf-{sliceIdx}-{i}", 1)

/-- A fan-out of an instance: its parts, and the activity of its dispatch. -/
inductive FansOut
    (platform : Platform) :
    StubPolicy → List (String × Nat) → List Activity → Prop where
  | hybrid {self : CfpCoordinator} {plan : HybridPlan}
      {request : CoordinatorFanOutRequest} {dispatched : Dispatched} :
      dispatchHybrid platform self plan request = .ok dispatched →
      FansOut platform leafStubPolicy
        (self.hybridParts plan request.argsList) dispatched.activity
  | tree {self : CfpCoordinator} {branchingFactor depth : Nat}
      {children : List FanOutPlan} {request : CoordinatorFanOutRequest}
      {dispatched : Dispatched} :
      dispatchTree platform self branchingFactor depth children request =
        .ok dispatched →
      FansOut platform subCoordStubPolicy
        (self.treeParts children request.argsList) dispatched.activity
  | tier (path : Path) (ownerId : String) (request : DispatchTreeRequest)
      (slice : List (List JsValue)) (sliceSlotBase sliceIdx : Nat)
      (cancelStream : Option CancelStream) :
      FansOut platform tierLeafStubPolicy (tierParts ownerId sliceIdx slice)
        (dispatchHybridLeaf platform path ownerId request slice sliceSlotBase
          sliceIdx cancelStream).activity

/-- A sliced dispatch calls the objects of its parts that have jobs. -/
theorem targets_forEachSlice
    {nameOf : Nat → String}
    {argsList : List (List JsValue)}
    {childSizes : List Nat}
    {cancelStream : Option CancelStream}
    {child :
      Nat → ListSlices.Slice (List JsValue) → Option CancelStream → Dispatched}
    (calls :
      ∀ index slice stream,
        (child index slice stream).activity.filterMap Activity.target? =
          [nameOf index]) :
    (forEachSlice argsList childSizes cancelStream child).activity.filterMap
        Activity.target? =
      ((slicedParts nameOf argsList childSizes).filter (·.2 ≠ 0)).map
        Prod.fst := by
  obtain ⟨run, shape, ran⟩ :=
    forEachSlice_eq_join argsList childSizes cancelStream child
  rw [shape, slicedParts, Dispatched.join, List.filterMap_flatten,
    List.mapIdx_eq_zipIdx_map, List.mapIdx_eq_zipIdx_map]
  generalize (ListSlices.cut argsList 0 childSizes).zipIdx = slices
  induction slices with
  | nil => rfl
  | cons entry rest inductionHypothesis =>
      obtain ⟨slice, index⟩ := entry
      simp only [List.map_cons, List.flatten_cons, inductionHypothesis]
      rcases ran index slice with ⟨noItems, nothing⟩ | ⟨stream, some, isChild⟩
      · rw [nothing, noItems]
        rfl
      · rw [isChild, calls, List.filter_cons_of_pos (by simpa using some)]
        rfl

/-- `#dispatchHybrid` calls the leaves of its parts. -/
theorem targets_dispatchHybrid
    {platform : Platform}
    {self : CfpCoordinator}
    {plan : HybridPlan}
    {request : CoordinatorFanOutRequest}
    {dispatched : Dispatched}
    (isDispatched :
      dispatchHybrid platform self plan request = .ok dispatched) :
    dispatched.activity.filterMap Activity.target? =
      ((self.hybridParts plan request.argsList).filter (·.2 ≠ 0)).map
        Prod.fst := by
  rw [dispatchHybrid, if_pos (bound_of_dispatchHybrid isDispatched)]
    at isDispatched
  cases isDispatched
  exact targets_forEachSlice fun _ _ _ => rfl

/-- `#dispatchTree` calls the sub-coordinators of its parts. -/
theorem targets_dispatchTree
    {platform : Platform}
    {self : CfpCoordinator}
    {branchingFactor depth : Nat}
    {children : List FanOutPlan}
    {request : CoordinatorFanOutRequest}
    {dispatched : Dispatched}
    (isDispatched :
      dispatchTree platform self branchingFactor depth children request =
        .ok dispatched) :
    dispatched.activity.filterMap Activity.target? =
      ((self.treeParts children request.argsList).filter (·.2 ≠ 0)).map
        Prod.fst := by
  obtain ⟨subCoordBound, leafBound⟩ := bound_of_dispatchTree isDispatched
  rw [dispatchTree, if_neg (not_not.mpr subCoordBound),
    if_neg (not_not.mpr leafBound)] at isDispatched
  cases isDispatched
  exact targets_forEachSlice fun _ _ _ => rfl

/-- `dispatchHybridLeaf` calls the leaves of its parts. -/
theorem targets_dispatchHybridLeaf
    (platform : Platform)
    (path : Path)
    (ownerId : String)
    (request : DispatchTreeRequest)
    (slice : List (List JsValue))
    (sliceSlotBase sliceIdx : Nat)
    (cancelStream : Option CancelStream) :
    (dispatchHybridLeaf platform path ownerId request slice sliceSlotBase
          sliceIdx cancelStream).activity.filterMap Activity.target? =
      ((tierParts ownerId sliceIdx slice).filter (·.2 ≠ 0)).map
        Prod.fst := by
  unfold dispatchHybridLeaf tierParts
  dsimp only
  rw [Dispatched.join, List.filterMap_flatten, List.mapIdx_eq_zipIdx_map,
    List.mapIdx_eq_zipIdx_map]
  generalize slice.zipIdx = jobs
  induction jobs with
  | nil => rfl
  | cons entry rest inductionHypothesis =>
      simp only [List.map_cons, List.flatten_cons, inductionHypothesis]
      rfl

/-- The objects called by a fan-out are those of its parts that have jobs. -/
theorem FansOut.targets
    {platform : Platform}
    {policy : StubPolicy}
    {parts : List (String × Nat)}
    {activity : List Activity}
    (fansOut : FansOut platform policy parts activity) :
    activity.filterMap Activity.target? =
      (parts.filter (·.2 ≠ 0)).map Prod.fst := by
  cases fansOut with
  | hybrid isDispatched => exact targets_dispatchHybrid isDispatched
  | tree isDispatched => exact targets_dispatchTree isDispatched
  | tier => exact targets_dispatchHybridLeaf _ _ _ _ _ _ _ _

end CloudflareParallel
