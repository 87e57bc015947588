import CloudflareParallel.FanOutPlacement
import CloudflareParallel.LoaderRunner

namespace CloudflareParallel

open ListSlices

/-!
# Jobs of one fan-out share no leaf and no loader key

A leaf belongs to one job because no two positions of a plan have leaves of one
name, and a loader key belongs to one job because it says the global slot.  The
names depend on the plan alone and a stable key on function, context and slot,
so a second fan-out of the same shape finds the leaves and isolates of the first.
-/

/-- The loader id of a call, at a counter and a clock reading of its object. -/
def RunnerCall.cacheKey
    (counter now : Nat)
    (call : RunnerCall) : Except SerializationError String :=
  let dispatch : LoaderDispatch := {
    options := call.options
    input := call.input
    mode := .poolFn
    now := now
  }
  dispatch.cacheKeyInput.map fun keyInput =>
    (buildCacheKey counter now keyInput).1

/-- The key strategy of a request; `freshIsolate` overrides the configured one. -/
def CoordinatorFanOutRequest.keyStrategy
    (request : CoordinatorFanOutRequest) : CacheKeyStrategy :=
  if request.freshIsolate.getD false then
    .fresh
  else
    request.cacheKeyStrategy.getD .stable

/-- Some attempt of a call to the leaf carries the job of the slot. -/
def DispatchedTo
    (log : List Activity)
    (slot : Nat)
    (leafName : String) : Prop :=
  ∃ attempts attempt args,
    Occurs (.runBatch leafName attempts) log ∧
      attempt ∈ attempts ∧
      CarriesJob attempt.request.argsList attempt.request.taskSlotBase
        slot args

/-- The job of the slot is executed by the call. -/
def ExecutedBy
    (log : List Activity)
    (slot : Nat)
    (call : RunnerCall) : Prop :=
  ∃ path,
    Occurs (.execute path call) log ∧
      call.input.taskSlot = some (.index slot)

/-- Different jobs of a request go to different leaves, under different keys. -/
structure SeparatesJobs
    (request : CoordinatorFanOutRequest)
    (log : List Activity) : Prop where
  /-- What is carried for a slot is the job of the request at that position. -/
  carriesJobs :
    ∀ {leafName attempts attempt slot args},
      Occurs (.runBatch leafName attempts) log →
      attempt ∈ attempts →
      CarriesJob attempt.request.argsList attempt.request.taskSlotBase
        slot args →
      request.argsList[slot]? = some args
  /-- Whatever is executed is the job of the request at its slot. -/
  executesJobs :
    ∀ {path call},
      Occurs (.execute path call) log →
      ∃ slot,
        call.input.taskSlot = some (.index slot) ∧
          request.argsList[slot]? = some call.input.args
  leaves :
    ∀ {first second leafName},
      DispatchedTo log first leafName →
      DispatchedTo log second leafName →
      first = second
  keys :
    request.keyStrategy ≠ .fresh →
    ∀ {first second firstCall secondCall firstCounter secondCounter
        firstNow secondNow key},
      ExecutedBy log first firstCall →
      ExecutedBy log second secondCall →
      firstCall.cacheKey firstCounter firstNow = .ok key →
      secondCall.cacheKey secondCounter secondNow = .ok key →
      first = second

/-- Two requests use the same leaves and, when stable, the same keys. -/
structure ReusesIsolates
    (firstRequest secondRequest : CoordinatorFanOutRequest)
    (firstLog secondLog : List Activity)
    (allDelivered : Prop) : Prop where
  leaf :
    ∀ {slot firstLeaf secondLeaf},
      DispatchedTo firstLog slot firstLeaf →
      DispatchedTo secondLog slot secondLeaf →
      firstLeaf = secondLeaf
  leaves :
    allDelivered →
    ∀ slot leafName,
      DispatchedTo firstLog slot leafName ↔
        DispatchedTo secondLog slot leafName
  keys :
    firstRequest.keyStrategy = .stable →
    secondRequest.keyStrategy = .stable →
    firstRequest.fnSource = secondRequest.fnSource →
    firstRequest.context = secondRequest.context →
    ∀ {slot firstCall secondCall},
      ExecutedBy firstLog slot firstCall →
      ExecutedBy secondLog slot secondCall →
      ∀ firstCounter firstNow secondCounter secondNow,
        firstCall.cacheKey firstCounter firstNow =
          secondCall.cacheKey secondCounter secondNow

section Keys

/-- The hash of a request's context, if it has one. -/
def CoordinatorFanOutRequest.contextHash
    (request : CoordinatorFanOutRequest) : Except SerializationError String :=
  match request.context with
  | some ctx => (canonicalizeContext ctx).map hashSource
  | none => .ok ""

/-- What the loader id of a slot says, when isolates are shared. -/
def CoordinatorFanOutRequest.sharedShape
    (request : CoordinatorFanOutRequest)
    (now slot : Nat)
    (contextHash : String) : CacheKeyShape where
  hash := djb2 (request.fnSource ++ ":" ++ contextHash)
  kind :=
    .shared
      (if request.cacheKeyStrategy.getD .stable = .auto then
        some (now / AUTO_WINDOW_MS)
      else
        none)
      (some slot)

/-- The loader id of a slot, for a request that shares its isolates. -/
def CoordinatorFanOutRequest.sharedKey
    (request : CoordinatorFanOutRequest)
    (now slot : Nat) : Except SerializationError String :=
  request.contextHash.map fun contextHash =>
    (request.sharedShape now slot contextHash).key

/-- A request that shares its isolates asks for no fresh one. -/
theorem shared_of_keyStrategy
    {request : CoordinatorFanOutRequest}
    (shared : request.keyStrategy ≠ .fresh) :
    request.freshIsolate.getD false = false ∧
      request.cacheKeyStrategy.getD .stable ≠ .fresh := by
  unfold CoordinatorFanOutRequest.keyStrategy at shared
  split at shared
  · exact (shared rfl).elim
  next notForced =>
    exact ⟨by simpa using notForced, shared⟩

/-- A call under the options of such a request has the id of its slot. -/
theorem RunsUnder.cacheKey_eq
    {request : CoordinatorFanOutRequest}
    {env : Env}
    {call : RunnerCall}
    (under : RunsUnder request env call)
    (shared : request.keyStrategy ≠ .fresh)
    {slot : Nat}
    (slotIs : call.input.taskSlot = some (.index slot))
    (counter now : Nat) :
    call.cacheKey counter now = request.sharedKey now slot := by
  obtain ⟨notForced, notFresh⟩ := shared_of_keyStrategy shared
  have keyOf :
      ∀ contextHash,
        (buildCacheKey counter now {
          fnSource := call.input.fnSource
          contextHash := contextHash
          strategy := call.options.cacheKeyStrategy
          forceFresh := call.input.freshIsolate
          taskSlot := call.input.taskSlot
        }).1 = (request.sharedShape now slot contextHash).key := by
    intro contextHash
    rw [buildCacheKey_eq_key]
    simp [CacheKeyInput.shape, CacheKeyInput.isFresh, CacheKeyInput.window,
      CacheKeyInput.slot, CacheKeyInput.combined, under.options,
      under.freshIsolate, under.fnSource, notForced, notFresh, slotIs,
      CoordinatorFanOutRequest.sharedShape]
  unfold RunnerCall.cacheKey LoaderDispatch.cacheKeyInput
    CoordinatorFanOutRequest.sharedKey CoordinatorFanOutRequest.contextHash
  simp only [under.context]
  cases request.context with
  | none =>
      exact congrArg Except.ok (keyOf "")
  | some ctx =>
      cases canonical : canonicalizeContext ctx with
      | error err =>
          simp only [canonical]
          rfl
      | ok text =>
          simp only [canonical]
          exact congrArg Except.ok (keyOf (hashSource text))

/-- The loader id of a slot says the slot. -/
theorem slot_eq_of_sharedKey
    {request : CoordinatorFanOutRequest}
    {firstNow secondNow first second : Nat}
    {key : String}
    (firstKey : request.sharedKey firstNow first = .ok key)
    (secondKey : request.sharedKey secondNow second = .ok key) :
    first = second := by
  unfold CoordinatorFanOutRequest.sharedKey at firstKey secondKey
  cases hashed : request.contextHash with
  | error err =>
      rw [hashed] at firstKey
      cases firstKey
  | ok contextHash =>
      rw [hashed] at firstKey secondKey
      have sameKey := Except.ok.inj (firstKey.trans secondKey.symm)
      have sameKind :=
        congrArg CacheKeyShape.kind (CacheKeyShape.key_inj.mp sameKey)
      obtain ⟨_, sameSlot⟩ := CacheKeyKind.shared.inj sameKind
      exact Option.some.inj sameSlot

/-- A stable loader id is one of function, context and slot. -/
theorem sharedKey_congr
    {first second : CoordinatorFanOutRequest}
    (firstStable : first.keyStrategy = .stable)
    (secondStable : second.keyStrategy = .stable)
    (sameSource : first.fnSource = second.fnSource)
    (sameContext : first.context = second.context)
    (firstNow secondNow slot : Nat) :
    first.sharedKey firstNow slot = second.sharedKey secondNow slot := by
  have strategyIs :
      ∀ {request : CoordinatorFanOutRequest},
        request.keyStrategy = .stable →
        request.cacheKeyStrategy.getD .stable = .stable := by
    intro request stable
    unfold CoordinatorFanOutRequest.keyStrategy at stable
    split at stable
    · cases stable
    · exact stable
  simp [CoordinatorFanOutRequest.sharedKey,
    CoordinatorFanOutRequest.contextHash,
    CoordinatorFanOutRequest.sharedShape, strategyIs firstStable,
    strategyIs secondStable, sameSource, sameContext]

end Keys

/-- A request that shares its isolates keeps its options in every topology. -/
theorem keepsOptions_of_shared
    {treeDepth : TreeDepth}
    {platform : Platform}
    {self : CfpCoordinator}
    {request : CoordinatorFanOutRequest}
    {plan : TopologyPlan}
    {response : FanOutResponse}
    (selected :
      selectTopology treeDepth request.argsList.length
        request.selectorOptions = .ok plan)
    (ran : runMany treeDepth platform self request = .ok response)
    (shared : request.keyStrategy ≠ .fresh) :
    KeepsOptions request response.activity := by
  by_cases isTree :
      request.selectorOptions.selectsTree request.argsList.length
  · exact keepsOptions_of_selectsTree selected ran isTree
      (shared_of_keyStrategy shared).1 rfl
  · exact keepsOptions_of_not_selectsTree selected ran isTree

/-- An answered request did nothing or was accepted by the selector. -/
theorem selected_of_runMany
    {treeDepth : TreeDepth}
    {platform : Platform}
    {self : CfpCoordinator}
    {request : CoordinatorFanOutRequest}
    {response : FanOutResponse}
    (ran : runMany treeDepth platform self request = .ok response) :
    response.activity = [] ∨
      ∃ plan,
        selectTopology treeDepth request.argsList.length
          request.selectorOptions = .ok plan := by
  rcases runMany_cases ran with ⟨-, -, nothing⟩ | ⟨plan, _, -, selected, -⟩
  · exact .inl nothing
  · exact .inr ⟨plan, selected⟩

/-- Nothing occurs in an empty log. -/
theorem not_occurs_nil
    {entry : Activity} :
    ¬ Occurs entry [] := by
  intro occurs
  cases occurs with
  | here member =>
      cases member
  | belowLeaf member =>
      cases member
  | belowSubCoord member =>
      cases member

/-- An executed job of such a request runs under the loader id of its slot. -/
theorem key_of_executedBy
    {treeDepth : TreeDepth}
    {platform : Platform}
    {self : CfpCoordinator}
    {request : CoordinatorFanOutRequest}
    {response : FanOutResponse}
    (ran : runMany treeDepth platform self request = .ok response)
    (shared : request.keyStrategy ≠ .fresh)
    {slot : Nat}
    {call : RunnerCall}
    (runs : ExecutedBy response.activity slot call)
    (counter now : Nat) :
    call.cacheKey counter now = request.sharedKey now slot := by
  obtain ⟨path, occurs, slotIs⟩ := runs
  rcases selected_of_runMany ran with nothing | ⟨plan, selected⟩
  · rw [nothing] at occurs
    exact (not_occurs_nil occurs).elim
  · obtain ⟨env, under⟩ :=
      keepsOptions_of_shared selected ran shared _ occurs
    exact under.cacheKey_eq shared slotIs counter now

section Placed

variable {nameAt : Nat → Option String}
variable {jobs : List (List JsValue)} {log : List Activity}

/-- A carried job sits where the names of the run put its leaf. -/
theorem carried_of_placed
    (placed : Throughout (EntryPlaced nameAt jobs 0) log)
    {leafName : String}
    {attempts : List (Attempt RunBatchRequest Activity)}
    {attempt : Attempt RunBatchRequest Activity}
    {slot : Nat}
    {args : List JsValue}
    (occurs : Occurs (.runBatch leafName attempts) log)
    (member : attempt ∈ attempts)
    (carries :
      CarriesJob attempt.request.argsList attempt.request.taskSlotBase
        slot args) :
    nameAt slot = some leafName ∧ jobs[slot]? = some args := by
  obtain ⟨position, placedArgs, named, found, carried⟩ := placed _ occurs
  obtain ⟨oneJob, sameBase, _⟩ := carried attempt member
  obtain ⟨index, atIndex, slotIs⟩ := carries
  rw [oneJob] at atIndex
  rw [sameBase] at slotIs
  obtain rfl : index = 0 := by
    have inside := (List.getElem?_eq_some_iff.mp atIndex).1
    simpa using inside
  obtain rfl : placedArgs = args := by simpa using atIndex
  have slotIsPosition : slot = position := by
    simpa using slotIs
  rw [slotIsPosition]
  exact ⟨named, found⟩

end Placed

/-- What a realized plan executes, a leaf of it executes. -/
theorem exists_leaf_of_execute
    {platform : Platform}
    {plan : FanOutPlan}
    {log : List Activity}
    {path : Path}
    {call : RunnerCall}
    (realized : Realizes platform plan log)
    (occurs : Occurs (.execute path call) log) :
    ∃ leafName attempts attempt inner,
      Occurs (.runBatch leafName attempts) log ∧
        attempt ∈ attempts ∧
        attempt.reached = some inner ∧
        Occurs (.execute path call) inner := by
  induction occurs generalizing plan with
  | here member =>
      -- A coordinator itself executes nothing.
      cases plan with
      | hybrid plan =>
          rw [Realizes] at realized
          obtain ⟨_, _, _, _, isLeafCall, _⟩ :=
            exists_left_of_mem realized member
          cases isLeafCall
      | tree size branchingFactor depth children =>
          rw [Realizes, realizesChildren_iff] at realized
          obtain ⟨_, _, _, _, isSubCoordCall, _⟩ :=
            exists_left_of_mem realized member
          cases isSubCoordCall
  | belowLeaf member attemptMember reached below =>
      exact ⟨_, _, _, _, .here member, attemptMember, reached, below⟩
  | belowSubCoord member attemptMember reached below inductionHypothesis =>
      have delegates : Delegates _ _ :=
        ⟨_, _, _, member, attemptMember, reached⟩
      cases plan with
      | hybrid plan =>
          exact (not_delegates_of_realizes_hybrid realized delegates).elim
      | tree size branchingFactor depth children =>
          obtain ⟨child, _, childRealized⟩ :=
            realizes_child_of_delegates realized delegates
          obtain ⟨leafName, attempts, attempt, inner, occurs, found⟩ :=
            inductionHypothesis childRealized
          exact ⟨leafName, attempts, attempt, inner,
            .belowSubCoord member attemptMember reached occurs, found⟩

/-- On a reliable platform every job of a fan-out plan goes to some leaf. -/
theorem exists_dispatchedTo
    {treeDepth : TreeDepth}
    {platform : Platform}
    (reliable : platform.Reliable)
    {self : CfpCoordinator}
    {request : CoordinatorFanOutRequest}
    {plan : FanOutPlan}
    {response : FanOutResponse}
    (selected :
      selectTopology treeDepth request.argsList.length
        request.selectorOptions = .ok (.fanOut plan))
    (ran : runMany treeDepth platform self request = .ok response)
    {slot : Nat}
    (inRange : slot < request.argsList.length) :
    ∃ leafName, DispatchedTo response.activity slot leafName := by
  obtain ⟨args, found⟩ : ∃ args, request.argsList[slot]? = some args :=
    ⟨_, List.getElem?_eq_getElem inRange⟩
  obtain ⟨result, _, outcome⟩ := (response_aligned ran).getElem? found
  rw [Nat.zero_add] at outcome
  cases outcome with
  | executed occurs _ slotIs =>
      have realized := runMany_realizes selected ran
      obtain ⟨executedPlan, isFanOut⟩ :
          ∃ executedPlan,
            executedTopology (.fanOut plan) = .fanOut executedPlan := by
        cases plan <;> exact ⟨_, rfl⟩
      rw [isFanOut] at realized
      obtain ⟨leafName, attempts, attempt, inner, leafOccurs, member, reached,
        below⟩ := exists_leaf_of_execute realized occurs
      obtain ⟨position, carriedArgs, _, _, carried⟩ :=
        placed_runMany selected ran _ leafOccurs
      obtain ⟨oneJob, sameBase, runs⟩ := carried attempt member
      have sameSlot : slot = 0 + position :=
        TaskSlot.index.inj
          (Option.some.inj (slotIs.symm.trans (runs _ _ _ reached below)))
      refine ⟨leafName, attempts, attempt, carriedArgs, leafOccurs, member,
        0, ?_, ?_⟩
      · rw [oneJob]
        rfl
      · rw [sameBase, sameSlot]
        rfl
  | leafRejected _ _ rejected =>
      rw [reliable.not_rejected] at rejected
      cases rejected
  | subCoordRejected _ _ rejected =>
      rw [reliable.not_rejected] at rejected
      cases rejected

/-- The leaf a job was sent to is the one of its slot in the selected plan. -/
theorem leafName_of_dispatchedTo
    {treeDepth : TreeDepth}
    {platform : Platform}
    {self : CfpCoordinator}
    {request : CoordinatorFanOutRequest}
    {response : FanOutResponse}
    (ran : runMany treeDepth platform self request = .ok response)
    {slot : Nat}
    {leafName : String}
    (dispatched : DispatchedTo response.activity slot leafName) :
    ∃ plan,
      selectTopology treeDepth request.argsList.length
          request.selectorOptions = .ok plan ∧
        plan.leafNames platform.idFromName self.id slot = some leafName ∧
        slot < request.argsList.length := by
  obtain ⟨attempts, attempt, args, occurs, member, carries⟩ := dispatched
  rcases selected_of_runMany ran with nothing | ⟨plan, selected⟩
  · rw [nothing] at occurs
    exact (not_occurs_nil occurs).elim
  · obtain ⟨named, found⟩ :=
      carried_of_placed (placed_runMany selected ran) occurs member carries
    exact ⟨plan, selected, named, (List.getElem?_eq_some_iff.mp found).1⟩

section TwoRequests

variable {treeDepth : TreeDepth} {first second : Platform}
variable {self : CfpCoordinator}
variable {firstRequest secondRequest : CoordinatorFanOutRequest}
variable {firstResponse secondResponse : FanOutResponse}
variable
  (sameIds : first.idFromName = second.idFromName)
  (sameSize : firstRequest.argsList.length = secondRequest.argsList.length)
  (sameOptions :
    firstRequest.selectorOptions = secondRequest.selectorOptions)
  (firstRan : runMany treeDepth first self firstRequest = .ok firstResponse)
  (secondRan :
    runMany treeDepth second self secondRequest = .ok secondResponse)

include sameIds sameSize sameOptions firstRan secondRan

/-- Requests of one shape send the job of a slot to one leaf. -/
theorem sameLeaf_of_runMany
    {slot : Nat}
    {firstLeaf secondLeaf : String}
    (firstDispatched : DispatchedTo firstResponse.activity slot firstLeaf)
    (secondDispatched :
      DispatchedTo secondResponse.activity slot secondLeaf) :
    firstLeaf = secondLeaf := by
  obtain ⟨plan, selected, named, _⟩ :=
    leafName_of_dispatchedTo firstRan firstDispatched
  obtain ⟨other, otherSelected, otherNamed, _⟩ :=
    leafName_of_dispatchedTo secondRan secondDispatched
  rw [sameSize, sameOptions, otherSelected] at selected
  cases selected
  rw [sameIds, otherNamed] at named
  exact (Option.some.inj named).symm

/-- When everything is delivered, a second request uses the leaf again. -/
theorem dispatchedTo_again
    (reliable : second.Reliable)
    {slot : Nat}
    {leafName : String}
    (dispatched : DispatchedTo firstResponse.activity slot leafName) :
    DispatchedTo secondResponse.activity slot leafName := by
  obtain ⟨plan, selected, named, inRange⟩ :=
    leafName_of_dispatchedTo firstRan dispatched
  cases plan with
  | inDo size =>
      cases named
  | fanOut plan =>
      rw [sameSize, sameOptions] at selected
      rw [sameSize] at inRange
      obtain ⟨again, dispatchedAgain⟩ :=
        exists_dispatchedTo reliable selected secondRan inRange
      rw [sameLeaf_of_runMany sameIds sameSize sameOptions firstRan secondRan
        dispatched dispatchedAgain]
      exact dispatchedAgain

end TwoRequests

/-- Every job of a run is separated from every other one. -/
theorem separatesJobs_of_runMany
    {treeDepth : TreeDepth}
    {platform : Platform}
    (injective : Function.Injective platform.idFromName)
    {self : CfpCoordinator}
    {request : CoordinatorFanOutRequest}
    {response : FanOutResponse}
    (ran : runMany treeDepth platform self request = .ok response) :
    SeparatesJobs request response.activity := by
  have placed :
      ∃ nameAt,
        Throughout (EntryPlaced nameAt request.argsList 0)
          response.activity := by
    rcases selected_of_runMany ran with nothing | ⟨plan, selected⟩
    · rw [nothing]
      exact ⟨fun _ => none, throughout_nil⟩
    · exact ⟨_, placed_runMany selected ran⟩
  obtain ⟨nameAt, placed⟩ := placed
  refine {
    carriesJobs := ?_
    executesJobs := ?_
    leaves := ?_
    keys := ?_
  }
  · intro leafName attempts attempt slot args occurs member carries
    exact (carried_of_placed placed occurs member carries).2
  · intro path call occurs
    obtain ⟨position, found, slotIs⟩ := placed _ occurs
    rw [Nat.zero_add] at slotIs
    exact ⟨position, slotIs, found⟩
  · intro first second leafName firstDispatched secondDispatched
    obtain ⟨plan, selected, firstNamed, _⟩ :=
      leafName_of_dispatchedTo ran firstDispatched
    obtain ⟨other, otherSelected, secondNamed, _⟩ :=
      leafName_of_dispatchedTo ran secondDispatched
    obtain rfl : plan = other :=
      Except.ok.inj (selected.symm.trans otherSelected)
    exact leafNames_inj selected injective firstNamed secondNamed
  · intro shared first second firstCall secondCall firstCounter
      secondCounter firstNow secondNow key firstRuns secondRuns firstKey
      secondKey
    rw [key_of_executedBy ran shared firstRuns] at firstKey
    rw [key_of_executedBy ran shared secondRuns] at secondKey
    exact slot_eq_of_sharedKey firstKey secondKey

/-- Two requests of one shape find the same leaves and isolates. -/
theorem reusesIsolates_of_runMany
    {treeDepth : TreeDepth}
    {first second : Platform}
    (sameIds : first.idFromName = second.idFromName)
    {self : CfpCoordinator}
    {firstRequest secondRequest : CoordinatorFanOutRequest}
    {firstResponse secondResponse : FanOutResponse}
    (sameSize :
      firstRequest.argsList.length = secondRequest.argsList.length)
    (sameOptions :
      firstRequest.selectorOptions = secondRequest.selectorOptions)
    (firstRan :
      runMany treeDepth first self firstRequest = .ok firstResponse)
    (secondRan :
      runMany treeDepth second self secondRequest = .ok secondResponse) :
    ReusesIsolates firstRequest secondRequest firstResponse.activity
      secondResponse.activity (first.Reliable ∧ second.Reliable) := by
  refine {
    leaf := ?_
    leaves := ?_
    keys := ?_
  }
  · intro slot firstLeaf secondLeaf firstDispatched secondDispatched
    exact sameLeaf_of_runMany sameIds sameSize sameOptions firstRan secondRan
      firstDispatched secondDispatched
  · rintro ⟨firstReliable, secondReliable⟩ slot leafName
    constructor
    · exact dispatchedTo_again sameIds sameSize sameOptions firstRan
        secondRan secondReliable
    · exact dispatchedTo_again sameIds.symm sameSize.symm sameOptions.symm
        secondRan firstRan firstReliable
  · intro firstStable secondStable sameSource sameContext slot firstCall
      secondCall firstRuns secondRuns firstCounter firstNow secondCounter
      secondNow
    have notFresh :
        ∀ {strategy : CacheKeyStrategy},
          strategy = .stable → strategy ≠ .fresh := by
      rintro _ rfl wrong
      cases wrong
    rw [key_of_executedBy firstRan (notFresh firstStable) firstRuns,
      key_of_executedBy secondRan (notFresh secondStable) secondRuns]
    exact sharedKey_congr firstStable secondStable sameSource sameContext
      firstNow secondNow slot

/--
Distinct jobs of one fan-out share neither a leaf nor a loader key.  Where
Durable Object ids are told apart by their names, every request sends different
jobs to leaves of different names, and, unless it asks for fresh isolates, runs
them under different loader ids at any counter and clock.  Two requests of one
size and one set of selector options against one coordinator use the same
leaves, and under the stable strategy the same loader ids for the same function
and context.
-/
theorem runMany_separatesJobs
    (treeDepth : TreeDepth)
    (self : CfpCoordinator)
    {idFromName : String → String}
    (injective : Function.Injective idFromName) :
    (∀ platform request response,
      platform.idFromName = idFromName →
      runMany treeDepth platform self request = .ok response →
      SeparatesJobs request response.activity) ∧
    (∀ first second firstRequest secondRequest firstResponse secondResponse,
      first.idFromName = idFromName →
      second.idFromName = idFromName →
      firstRequest.argsList.length = secondRequest.argsList.length →
      firstRequest.selectorOptions = secondRequest.selectorOptions →
      runMany treeDepth first self firstRequest = .ok firstResponse →
      runMany treeDepth second self secondRequest = .ok secondResponse →
      ReusesIsolates firstRequest secondRequest firstResponse.activity
        secondResponse.activity (first.Reliable ∧ second.Reliable)) := by
  refine ⟨?_, ?_⟩
  · rintro platform request response rfl ran
    exact separatesJobs_of_runMany injective ran
  · intro first second firstRequest secondRequest firstResponse
      secondResponse firstIds secondIds sameSize sameOptions firstRan secondRan
    exact reusesIsolates_of_runMany (firstIds.trans secondIds.symm) sameSize
      sameOptions firstRan secondRan

/-- An id of 64 characters for every name that is shorter. -/
def paddedId (name : String) : String :=
  String.ofList
    (SegmentedNames.extend '.' name.toList
      [List.replicate (63 - name.length) '0'])

/-- The name is what comes before the last dot. -/
theorem paddedId_injective : Function.Injective paddedId := by
  intro first second same
  have reads :
      ∀ name,
        (paddedId name).toList =
          SegmentedNames.extend '.' name.toList
            [List.replicate (63 - name.length) '0'] :=
    fun _ => String.toList_ofList
  obtain ⟨sameName, _⟩ :=
    SegmentedNames.parts_eq_of_texts_eq (reads first) (reads second)
      (by simp [SegmentedNames.Separable])
      (by simp [SegmentedNames.Separable]) rfl same
  exact String.toList_inj.mp sameName

/-- The ideal platform with ids of one length. -/
def Platform.padded : Platform :=
  { Platform.ideal with idFromName := paddedId }

/-- Its ids change nothing about what it delivers. -/
theorem Platform.reliable_padded : Platform.padded.Reliable :=
  fun _ => rfl

/--
Seventeen jobs over a tree, twice: a leaf for each, separated, and on the same
leaves.
-/
theorem runMany_separatesJobs_seventeen :
    ∃ response,
      runMany .exact .padded .configured (.overFour 17) = .ok response ∧
        (∀ slot < 17,
          ∃ leafName, DispatchedTo response.activity slot leafName) ∧
        SeparatesJobs (.overFour 17) response.activity ∧
        ReusesIsolates (.overFour 17) (.overFour 17) response.activity
          response.activity
          (Platform.padded.Reliable ∧ Platform.padded.Reliable) := by
  have selected :
      selectTopology .exact
          (CoordinatorFanOutRequest.overFour 17).argsList.length
          (CoordinatorFanOutRequest.overFour 17).selectorOptions =
        .ok (.fanOut (buildTreePlanAt 4 4 2 17)) :=
    rfl
  obtain ⟨leafBound, subCoordBound⟩ := CfpCoordinator.hasBinding_configured
  obtain ⟨response, ran⟩ :=
    runMany_answers .padded selected leafBound subCoordBound
  obtain ⟨separates, reuses⟩ :=
    runMany_separatesJobs .exact .configured paddedId_injective
  refine ⟨response, ran, ?_, separates _ _ _ rfl ran,
    reuses _ _ _ _ _ _ rfl rfl rfl rfl ran ran⟩
  intro slot inRange
  exact exists_dispatchedTo Platform.reliable_padded selected ran inRange

end CloudflareParallel
