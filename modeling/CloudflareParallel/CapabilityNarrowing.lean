import CloudflareParallel.FanOutOptions
import CloudflareParallel.LoaderIsolation
import CloudflareParallel.SubmittedCode

namespace CloudflareParallel

/-!
# Which bindings a narrowed pool hands out

A pool sends the keys of its declaration with every request, and the object
that runs a job forwards those of its own environment.  `Pool.Loads` covers
every way from a pool to a runner; `Pool.Permits` is what a chain of
restrictions allows.
-/

/-- `CoordinatorRunRequest`. -/
structure CoordinatorRunRequest where
  fnSource : String
  fnHash : String
  args : List JsValue
  context : Option JsRecord := none
  cacheKeyStrategy : Option CacheKeyStrategy := none
  workerOptions : Option WireWorkerOptions := none
  envelope : DispatchEnvelope
  freshIsolate : Option Bool := none
  taskSlot : Option TaskSlot := none
  allowList : Option (List String) := none
  cancelStream : Option CancelStream := none

/-- The runner call of `runOne`, in the coordinator and in the loopback. -/
def runOneRunnerCall
    (env : Env)
    (request : CoordinatorRunRequest) : RunnerCall where
  options := {
    callSite := .doMethod
    cacheKeyStrategy := request.cacheKeyStrategy.getD .stable
    workerOptions := wireToWorkerOptions request.workerOptions env
    allowList := request.allowList
  }
  input := {
    fnSource := request.fnSource
    fnHash := request.fnHash
    context := request.context
    bindings := some env
    envelope := request.envelope.withMode .poolFn
    args := request.args
    freshIsolate := request.freshIsolate
    taskSlot := some (request.taskSlot.getD (.index 0))
    cancelStream := request.cancelStream
  }

/-- The runner call of the loopback's `runMany`, which takes one job. -/
def loopbackRunnerCall
    (env : Env)
    (request : CoordinatorFanOutRequest)
    (args : List JsValue) : RunnerCall where
  options := {
    callSite := .doMethod
    cacheKeyStrategy := request.cacheKeyStrategy.getD .stable
    workerOptions := wireToWorkerOptions request.workerOptions env
    allowList := request.allowList
  }
  input := {
    fnSource := request.fnSource
    fnHash := request.fnHash
    context := request.context
    bindings := some env
    envelope := request.envelope.withMode .poolFn
    args := args
    freshIsolate := request.freshIsolate
    taskSlot := some (.index 0)
    cancelStream := request.cancelStream
  }

/-- The call as a dispatch on its runner. -/
def RunnerCall.dispatchAt
    (now : Nat)
    (call : RunnerCall) : LoaderDispatch where
  options := call.options
  input := call.input
  mode := .poolFn
  now := now

/-- The isolate loaded for the call has the binding of this name. -/
def RunnerCall.Forwards
    (call : RunnerCall)
    (key : String) : Prop :=
  ∃ now code binding,
    (call.dispatchAt now).ownCode = .ok code ∧
      (key, EnvValue.binding binding) ∈ code.env.getD []

/-- A pool, which its constructor accepted. -/
structure Pool where
  options : PoolOptions
  accepted : assertNoLibraryInternalBindings options.bindings = .ok ()

/-- A restriction of a pool. -/
inductive Narrowing where
  | restrictTo (allow : List String)
  | restrictForSubmittedCode (allow : List String)

/-- The names that a restriction lists. -/
def Narrowing.allow : Narrowing → List String
  | .restrictTo allow => allow
  | .restrictForSubmittedCode allow => allow

namespace Pool

variable (pool : Pool)

/-- What `restrictTo` picks from: no declaration counts as an empty one. -/
def declared : BindingDeclaration :=
  pool.options.bindings.getD .empty

/-- The picked keys pass the constructor of the new pool. -/
theorem accepted_pickBindings (allow : List String) :
    assertNoLibraryInternalBindings
        (some (pickBindings pool.declared allow)) =
      .ok () := by
  apply assertNoLibraryInternalBindings_pickBindings
  have accepted := pool.accepted
  unfold declared
  cases shape : pool.options.bindings with
  | none => rfl
  | some declaration =>
      rw [shape] at accepted
      exact accepted

/-- The pool that a restriction returns. -/
def narrow : Narrowing → Pool
  | .restrictTo allow =>
      { options := pool.options.restrictTo allow
        accepted := pool.accepted_pickBindings allow }
  | .restrictForSubmittedCode allow =>
      { options := pool.options.restrictForSubmittedCode allow
        accepted := pool.accepted_pickBindings allow }

/-- The pool after a chain of restrictions. -/
def narrowAll (chain : List Narrowing) : Pool :=
  chain.foldl narrow pool

/-- `#bindingAllowList`. -/
def allowList : Option (List String) :=
  bindingAllowList pool.options.bindings

/-- The pool lets the receiving object forward a key. -/
def Exposes (key : String) : Prop :=
  admits pool.allowList key = true

instance (key : String) : Decidable (pool.Exposes key) :=
  inferInstanceAs (Decidable (admits pool.allowList key = true))

/-- A request of the pool makes an object with this environment run a call. -/
inductive Loads (env : Env) : RunnerCall → Prop where
  | runOne
      (request : CoordinatorRunRequest)
      (sent : request.allowList = pool.allowList) :
      Loads env (runOneRunnerCall env request)
  | loopback
      (request : CoordinatorFanOutRequest)
      (args : List JsValue)
      (sent : request.allowList = pool.allowList)
      (single : request.argsList = [args]) :
      Loads env (loopbackRunnerCall env request args)
  | runMany
      (treeDepth : TreeDepth)
      (platform : Platform)
      (self : CfpCoordinator)
      (request : CoordinatorFanOutRequest)
      (response : FanOutResponse)
      (path : Path)
      (call : RunnerCall)
      (sent : request.allowList = pool.allowList)
      (ran : runMany treeDepth platform self request = .ok response)
      (executed : Occurs (.execute path call) response.activity)
      (receiver : call.input.bindings = some env) :
      Loads env call

/-- What a chain of restrictions lets reach an isolate. -/
structure Permits
    (chain : List Narrowing)
    (env : Env)
    (key : String) : Prop where
  received : key ∈ env.keys
  exposed : pool.Exposes key
  allowed : ∀ step ∈ chain, key ∈ step.allow
  forwardable : isUnforwardableBindingKey key = false

end Pool

/-! ## What reaches an isolate -/

/-- Of a binding the loader's environment says what was sanitized. -/
theorem binding_of_mem_loaderEnv
    {sanitized : Env}
    {cancelStream : Option CancelStream}
    {key : String}
    {binding : Binding}
    (member :
      (key, EnvValue.binding binding) ∈ loaderEnv sanitized cancelStream) :
    (key, binding) ∈ sanitized := by
  have forwarded :
      (key, EnvValue.binding binding) ∈
          (sanitized.map fun entry => (entry.1, EnvValue.binding entry.2)) →
        (key, binding) ∈ sanitized := by
    intro inside
    obtain ⟨entry, entryMember, same⟩ := List.mem_map.mp inside
    cases same
    exact entryMember
  unfold loaderEnv at member
  cases cancelStream with
  | none =>
      exact forwarded member
  | some stream =>
      by_cases isStream : key = "cancelStream"
      · subst isStream
        have value := eq_of_mem_assignKey member
        cases value
      · exact forwarded ((mem_assignKey_of_ne isStream).mp member)

/-- A forwarded key is the receiver's own, admitted and forwardable. -/
theorem RunnerCall.Forwards.sanitized
    {call : RunnerCall}
    {env : Env}
    {key : String}
    (forwards : call.Forwards key)
    (receiver : call.input.bindings = some env) :
    key ∈ env.keys ∧
      admits call.options.allowList key = true ∧
        isUnforwardableBindingKey key = false := by
  obtain ⟨now, code, binding, own, member⟩ := forwards
  rw [(fields_of_ownCode own).1] at member
  obtain ⟨inEnv, forwardable, admitted⟩ :=
    mem_sanitizeBindings.mp (binding_of_mem_loaderEnv member)
  unfold dispatchAt at inEnv admitted
  simp only [receiver, Option.getD_some] at inEnv
  exact ⟨List.mem_map_of_mem inEnv, admitted, forwardable⟩

/-- Every job of a fan-out runs with the list of its request. -/
theorem runsUnder_of_runMany
    {treeDepth : TreeDepth}
    {platform : Platform}
    {self : CfpCoordinator}
    {request : CoordinatorFanOutRequest}
    {response : FanOutResponse}
    (ran : runMany treeDepth platform self request = .ok response)
    {path : Path}
    {call : RunnerCall}
    (executed : Occurs (.execute path call) response.activity) :
    call.options.allowList = request.allowList := by
  obtain ⟨_, _, under⟩ := exists_runsUnder_of_runMany ran executed
  rw [under.options]

namespace Pool

/-- A runner that a pool's request reaches has the pool's list. -/
theorem Loads.runsUnder
    {pool : Pool}
    {env : Env}
    {call : RunnerCall}
    (loads : pool.Loads env call) :
    call.input.bindings = some env ∧
      call.options.allowList = pool.allowList := by
  cases loads with
  | runOne request sent =>
      exact ⟨rfl, sent⟩
  | loopback request args sent single =>
      exact ⟨rfl, sent⟩
  | runMany treeDepth platform self request response path call sent ran
      executed receiver =>
      exact ⟨receiver, (runsUnder_of_runMany ran executed).trans sent⟩

/-! ## Chains of restrictions -/

variable {pool : Pool}

/-- A restriction picks from what the pool declared. -/
theorem options_narrow (step : Narrowing) :
    (pool.narrow step).options.bindings =
      some (pickBindings pool.declared step.allow) := by
  cases step <;> rfl

/-- What a restriction exposes is listed, and declared before or inherited. -/
theorem exposes_narrow_iff
    {step : Narrowing}
    {key : String} :
    (pool.narrow step).Exposes key ↔
      key ∈ step.allow ∧
        key ≠ "__proto__" ∧
          (key ∈ pool.declared.keys ∨ key ∈ OBJECT_PROTOTYPE_KEYS) := by
  unfold Exposes allowList bindingAllowList
  rw [options_narrow, Option.map_some, admits, List.contains_iff_mem,
    mem_pickBindings]

/-- A declared key is exposed. -/
theorem exposes_of_declared
    {key : String}
    (member : key ∈ pool.declared.keys) :
    pool.Exposes key := by
  unfold Exposes allowList bindingAllowList
  unfold declared at member
  cases shape : pool.options.bindings with
  | none =>
      rfl
  | some declaration =>
      rw [shape, Option.getD_some] at member
      rw [Option.map_some, admits, List.contains_iff_mem]
      exact member

/-- A key that no object inherits passed every restriction. -/
theorem passed_of_declared
    {key : String}
    (own : key ∉ OBJECT_PROTOTYPE_KEYS)
    (chain : List Narrowing)
    (member : key ∈ (pool.narrowAll chain).declared.keys) :
    key ∈ pool.declared.keys ∧ ∀ step ∈ chain, key ∈ step.allow := by
  induction chain generalizing pool with
  | nil =>
      exact ⟨member, by simp⟩
  | cons step rest inductionHypothesis =>
      obtain ⟨here, later⟩ :=
        @inductionHypothesis (pool.narrow step) member
      unfold declared at here
      rw [options_narrow, Option.getD_some, mem_pickBindings] at here
      obtain ⟨listed, _, before | inherited⟩ := here
      · rw [List.forall_mem_cons]
        exact ⟨before, listed, later⟩
      · exact (own inherited).elim

/-- What a chain exposes, it permits, unless every object inherits it. -/
theorem permitted_of_exposed
    {chain : List Narrowing}
    {key : String}
    (exposed : (pool.narrowAll chain).Exposes key)
    (own :
      ∀ last ∈ chain.getLast?,
        key ∈ last.allow →
        key ≠ "__proto__" →
        key ∈ OBJECT_PROTOTYPE_KEYS →
        pool.Exposes key ∧ ∀ step ∈ chain, key ∈ step.allow) :
    pool.Exposes key ∧ ∀ step ∈ chain, key ∈ step.allow := by
  rcases List.eq_nil_or_concat chain with rfl | ⟨earlier, last, rfl⟩
  · exact ⟨exposed, by simp⟩
  · rw [List.concat_eq_append] at exposed own ⊢
    have atLast :
        pool.narrowAll (earlier ++ [last]) =
          (pool.narrowAll earlier).narrow last :=
      List.foldl_concat ..
    rw [atLast, exposes_narrow_iff] at exposed
    obtain ⟨listed, notProto, before | inherited⟩ := exposed
    · by_cases isInherited : key ∈ OBJECT_PROTOTYPE_KEYS
      · exact own last (by simp) listed notProto isInherited
      · obtain ⟨declared, passed⟩ :=
          passed_of_declared isInherited earlier before
        refine ⟨exposes_of_declared declared, ?_⟩
        rw [List.forall_mem_append, List.forall_mem_singleton]
        exact ⟨passed, listed⟩
    · exact own last (by simp) listed notProto inherited

/-- A request for nothing, with a pool's list. -/
def emptyRequest (pool : Pool) : CoordinatorRunRequest where
  fnSource := ""
  fnHash := ""
  args := []
  envelope := { deadlineEpochMs := 0, signal := { cancelled := false } }
  allowList := pool.allowList

/-- An exposed, forwardable key reaches an isolate of a receiver that has it. -/
theorem forwards_of_exposed
    {key : String}
    (exposed : pool.Exposes key)
    (forwardable : isUnforwardableBindingKey key = false)
    (binding : Binding) :
    (runOneRunnerCall [(key, binding)] pool.emptyRequest).Forwards key := by
  have keyed :
      ((runOneRunnerCall [(key, binding)] pool.emptyRequest).dispatchAt
          0).cacheKeyInput =
        .ok
          { fnSource := ""
            contextHash := ""
            strategy := .stable
            forceFresh := none
            taskSlot := some (.index 0) } :=
    rfl
  obtain ⟨code, own⟩ := ownCode_ok keyed
  refine ⟨0, code, binding, own, ?_⟩
  rw [(fields_of_ownCode own).1]
  have sanitized :
      (key, binding) ∈
        sanitizeBindings (some [(key, binding)]) pool.allowList :=
    mem_sanitizeBindings.mpr ⟨List.mem_singleton.mpr rfl, forwardable, exposed⟩
  exact List.mem_map.mpr ⟨(key, binding), sanitized, rfl⟩

/--
Whatever reaches an isolate is permitted by the chain exactly when each name
of the last list that every object inherits is exposed by the first pool and
listed all along.
-/
theorem narrowed_permits_iff
    (pool : Pool)
    (chain : List Narrowing) :
    (∀ env call key,
        (pool.narrowAll chain).Loads env call →
        call.Forwards key →
        pool.Permits chain env key) ↔
      ∀ last ∈ chain.getLast?, ∀ key ∈ last.allow,
        key ≠ "__proto__" →
        key ∈ OBJECT_PROTOTYPE_KEYS →
        pool.Exposes key ∧ ∀ step ∈ chain, key ∈ step.allow := by
  constructor
  · intro permits last isLast key listed notProto inherited
    obtain ⟨earlier, rfl⟩ := List.getLast?_eq_some_iff.mp isLast
    have exposed : (pool.narrowAll (earlier ++ [last])).Exposes key := by
      have atLast :
          pool.narrowAll (earlier ++ [last]) =
            (pool.narrowAll earlier).narrow last :=
        List.foldl_concat ..
      rw [atLast, exposes_narrow_iff]
      exact ⟨listed, notProto, .inr inherited⟩
    have permitted :=
      permits _ _ key (.runOne (emptyRequest _) rfl)
        (forwards_of_exposed exposed
          (forwardable_of_mem_objectPrototype inherited)
          { id := 0, hasFetch := false })
    exact ⟨permitted.exposed, permitted.allowed⟩
  · intro condition env call key loads forwards
    obtain ⟨receiver, list⟩ := loads.runsUnder
    obtain ⟨received, admitted, forwardable⟩ := forwards.sanitized receiver
    rw [list] at admitted
    obtain ⟨exposed, allowed⟩ :=
      permitted_of_exposed admitted
        fun last isLast listed => condition last isLast key listed
    exact {
      received := received
      exposed := exposed
      allowed := allowed
      forwardable := forwardable
    }

/-- A pool that declares one database. -/
def database : Pool where
  options := {
    timeout := none
    retries := none
    bindings := some { keys := ["DB"], noOwnProto := by decide }
    globalOutbound := .absent
  }
  accepted := by decide

/--
Restricted to `constructor`, the pool hands out a binding of that name, which
it never declared.
-/
theorem database_exposes_constructor :
    ¬ ∀ env call key,
        (database.narrowAll [.restrictTo ["constructor"]]).Loads env call →
        call.Forwards key →
        database.Permits [.restrictTo ["constructor"]] env key := by
  intro permits
  have exposed :
      (database.narrowAll [.restrictTo ["constructor"]]).Exposes
        "constructor" := by
    decide
  have permitted :=
    permits _ _ "constructor" (.runOne (emptyRequest _) rfl)
      (forwards_of_exposed exposed (by decide) { id := 0, hasFetch := false })
  have undeclared : ¬ database.Exposes "constructor" := by decide
  exact undeclared permitted.exposed

end Pool

end CloudflareParallel
