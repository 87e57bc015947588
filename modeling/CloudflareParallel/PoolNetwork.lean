import CloudflareParallel.CapabilityNarrowing

namespace CloudflareParallel

/-!
# Which isolates have the network

A pool reads `globalOutbound` from its options or from their `workerOptions`,
and the wire has a word for `undefined` and one for all else: a service stub
does not get across.  The receiver reads the word back, and the loader takes the
network of its own worker exactly for a key that is there and `undefined`.
-/

/-- What `globalOutbound` is when it is read. -/
inductive OutboundValue where
  | undefined
  | null
  | stub (binding : Binding)
  deriving DecidableEq

/-- A missing key reads as `undefined`. -/
def GlobalOutbound.value : GlobalOutbound → OutboundValue
  | .absent => .undefined
  | .inherit => .undefined
  | .blocked => .null
  | .redirect stub => .stub stub

/-- `hasOwnProperty`. -/
def GlobalOutbound.isOwn : GlobalOutbound → Bool
  | .absent => false
  | _ => true

/-- The outbound policy that `workerOptionsToWire` sends. -/
def outboundToWire : OutboundValue → WireOutbound
  | .null => .sandboxed
  | .undefined => .inherit
  | .stub _ => .sandboxed

/-- `workerOptionsToWire`. -/
def workerOptionsToWire
    (compatibilityDate : Option String)
    (compatibilityFlags : Option (List String))
    (globalOutbound : OutboundValue)
    (limits : Option WorkerCodeLimits)
    (tailBindingName : Option String) : WireWorkerOptions where
  compatibilityDate := compatibilityDate
  compatibilityFlags := compatibilityFlags
  globalOutbound := some (outboundToWire globalOutbound)
  limits := limits
  tailBindingName := tailBindingName

/-- `PoolOptions`, as far as the workers of a pool are made from them. -/
structure WorkerPoolOptions where
  bindings : Option BindingDeclaration := none
  globalOutbound : GlobalOutbound := .absent
  workerOptions : Option InternalWorkerCodeOptions := none
  limits : Option WorkerCodeLimits := none
  /-- `observability.tail.bindingName`. -/
  tailBindingName : Option String := none

namespace WorkerPoolOptions

/-- The setting in force: that of `workerOptions` only for `undefined`. -/
def outbound (opts : WorkerPoolOptions) : OutboundValue :=
  match opts.globalOutbound.value with
  | .undefined =>
      opts.workerOptions.elim .undefined (·.globalOutbound.value)
  | value => value

/-- The `workerOptions` of every request of a pool. -/
def wireWorkerOptions (opts : WorkerPoolOptions) : WireWorkerOptions :=
  workerOptionsToWire
    (opts.workerOptions.bind (·.compatibilityDate))
    (opts.workerOptions.bind (·.compatibilityFlags))
    opts.outbound
    (opts.limits.or (opts.workerOptions.bind (·.limits)))
    opts.tailBindingName

/-- `#hasExplicitGlobalOutbound`. -/
def hasExplicitGlobalOutbound (opts : WorkerPoolOptions) : Bool :=
  opts.globalOutbound.isOwn ||
    opts.workerOptions.any (·.globalOutbound.isOwn)

/-- The bindings of a restricted pool. -/
def picked
    (opts : WorkerPoolOptions)
    (allow : List String) : BindingDeclaration :=
  pickBindings (opts.bindings.getD .empty) allow

/-- The options of the pool that a restriction returns. -/
def narrow (opts : WorkerPoolOptions) : Narrowing → WorkerPoolOptions
  | .restrictTo allow => { opts with bindings := some (opts.picked allow) }
  | .restrictForSubmittedCode allow =>
      { opts with
        bindings := some (opts.picked allow)
        globalOutbound :=
          if opts.hasExplicitGlobalOutbound then
            opts.globalOutbound
          else
            .blocked }

/-- The options of the pool after a chain of restrictions. -/
def narrowAll
    (opts : WorkerPoolOptions)
    (chain : List Narrowing) : WorkerPoolOptions :=
  chain.foldl narrow opts

/-- A request of the pool makes an object with this environment run a call. -/
inductive Loads (opts : WorkerPoolOptions) (env : Env) : RunnerCall → Prop where
  | runOne
      (request : CoordinatorRunRequest)
      (sent : request.workerOptions = some opts.wireWorkerOptions) :
      Loads opts env (runOneRunnerCall env request)
  | loopback
      (request : CoordinatorFanOutRequest)
      (args : List JsValue)
      (sent : request.workerOptions = some opts.wireWorkerOptions)
      (single : request.argsList = [args]) :
      Loads opts env (loopbackRunnerCall env request args)
  | runMany
      (treeDepth : TreeDepth)
      (platform : Platform)
      (self : CfpCoordinator)
      (request : CoordinatorFanOutRequest)
      (response : FanOutResponse)
      (path : Path)
      (call : RunnerCall)
      (sent : request.workerOptions = some opts.wireWorkerOptions)
      (ran : runMany treeDepth platform self request = .ok response)
      (executed : Occurs (.execute path call) response.activity)
      (receiver : call.input.bindings = some env) :
      Loads opts env call

end WorkerPoolOptions

/-- A restriction for submitted code. -/
def Narrowing.isForSubmittedCode : Narrowing → Bool
  | .restrictTo _ => false
  | .restrictForSubmittedCode _ => true

/-- The module of a worker seals `caches.default` before the user's code. -/
def WorkerCode.SealsCaches (code : WorkerCode) : Prop :=
  ∃ above below,
    code.modules =
      [("worker.js", String.intercalate "\n" (above ++ sealLines ++ below))]

/-! ## From the pool to the isolate -/

/-- Every job of a fan-out runs with the worker options of its request. -/
theorem workerOptions_of_runMany
    {treeDepth : TreeDepth}
    {platform : Platform}
    {self : CfpCoordinator}
    {request : CoordinatorFanOutRequest}
    {response : FanOutResponse}
    (ran : runMany treeDepth platform self request = .ok response)
    {path : Path}
    {call : RunnerCall}
    (executed : Occurs (.execute path call) response.activity) :
    ∃ env,
      call.options.workerOptions =
        wireToWorkerOptions request.workerOptions env := by
  obtain ⟨env, _, under⟩ := exists_runsUnder_of_runMany ran executed
  exact ⟨env, congrArg LoaderRunnerOptions.workerOptions under.options⟩

/-- The wire keeps `undefined` apart from all other settings. -/
theorem outboundAccess_outboundToWire
    (value : OutboundValue) :
    outboundAccess (outboundOfWire (some (outboundToWire value))) =
      if value = .undefined then .inherit else .blocked := by
  cases value <;> rfl

namespace WorkerPoolOptions

variable {opts : WorkerPoolOptions}

/-- A runner that a pool's request reaches has the worker options of the pool. -/
theorem Loads.workerOptions
    {env : Env}
    {call : RunnerCall}
    (loads : opts.Loads env call) :
    ∃ receiver,
      call.options.workerOptions =
        wireToWorkerOptions (some opts.wireWorkerOptions) receiver := by
  cases loads with
  | runOne request sent =>
      exact ⟨env, congrArg (wireToWorkerOptions · env) sent⟩
  | loopback request args sent single =>
      exact ⟨env, congrArg (wireToWorkerOptions · env) sent⟩
  | runMany treeDepth platform self request response path call sent ran
      executed receiver =>
      rw [← sent]
      exact workerOptions_of_runMany ran executed

/-- The runner reads back what the pool has sent. -/
theorem Loads.globalOutbound
    {env : Env}
    {call : RunnerCall}
    (loads : opts.Loads env call)
    (now : Nat) :
    (call.dispatchAt now).effectiveOptions.globalOutbound =
        outboundOfWire (some (outboundToWire opts.outbound)) ∧
      (call.dispatchAt now).sourceOptions.sealGlobals =
        (outboundOfWire (some (outboundToWire opts.outbound)) == .blocked) := by
  obtain ⟨receiver, same⟩ := loads.workerOptions
  unfold LoaderDispatch.effectiveOptions LoaderDispatch.sourceOptions
    RunnerCall.dispatchAt
  dsimp only
  rw [same]
  exact ⟨rfl, rfl⟩

end WorkerPoolOptions

/-- A worker that is generated with the seal has it above the user's code. -/
theorem sealsCaches_of_ownCode
    {dispatch : LoaderDispatch}
    {code : WorkerCode}
    (own : dispatch.ownCode = .ok code)
    (isSealed : dispatch.sourceOptions.sealGlobals = true) :
    code.SealsCaches := by
  simp only [LoaderDispatch.ownCode, buildWorkerCode, generateWorkerSource,
    generateWorkerLines] at own
  cases declared : contextLines dispatch.sourceOptions.context with
  | error err =>
      simp [declared, bind, Except.bind, Except.map] at own
  | ok declarations =>
      simp only [declared, bind, Except.bind, Except.map, pure, Except.pure,
        Except.ok.injEq] at own
      subst own
      refine
        ⟨headerLines ++ declarations,
          cancelSignalLines ++ validateReturnLines ++
            entrypointLines dispatch.input.fnSource dispatch.sourceOptions,
          ?_⟩
      unfold preambleLines
      rw [if_pos isSealed]
      simp only [List.append_assoc]
      rfl

/-! ## Chains of restrictions -/

namespace WorkerPoolOptions

variable {opts : WorkerPoolOptions}

/-- A restriction for submitted code leaves an explicit setting. -/
theorem hasExplicitGlobalOutbound_narrow
    (step : Narrowing) :
    (opts.narrow step).hasExplicitGlobalOutbound =
      (opts.hasExplicitGlobalOutbound || step.isForSubmittedCode) := by
  cases step with
  | restrictTo allow => exact (Bool.or_false _).symm
  | restrictForSubmittedCode allow =>
      cases explicit : opts.hasExplicitGlobalOutbound with
      | true =>
          unfold narrow
          rw [explicit]
          exact explicit
      | false =>
          unfold narrow
          rw [explicit]
          rfl

/-- A restriction takes the network away only for submitted code. -/
theorem outbound_narrow_eq_undefined_iff
    (step : Narrowing) :
    (opts.narrow step).outbound = .undefined ↔
      opts.outbound = .undefined ∧
        (opts.hasExplicitGlobalOutbound = true ∨
          step.isForSubmittedCode = false) := by
  cases step with
  | restrictTo allow =>
      exact ⟨fun open_ => ⟨open_, .inr rfl⟩, And.left⟩
  | restrictForSubmittedCode allow =>
      cases explicit : opts.hasExplicitGlobalOutbound with
      | true =>
          unfold narrow
          rw [explicit]
          exact ⟨fun open_ => ⟨open_, .inl rfl⟩, And.left⟩
      | false =>
          unfold narrow
          rw [explicit]
          refine iff_of_false nofun ?_
          rintro ⟨-, isTrue | isFalse⟩
          · cases isTrue
          · cases isFalse

/--
After a chain of restrictions a pool has the network exactly if it had it, and
its options name the setting or no restriction was for submitted code.
-/
theorem outbound_narrowAll_eq_undefined_iff
    (opts : WorkerPoolOptions)
    (chain : List Narrowing) :
    (opts.narrowAll chain).outbound = .undefined ↔
      opts.outbound = .undefined ∧
        (opts.hasExplicitGlobalOutbound = true ∨
          ∀ step ∈ chain, step.isForSubmittedCode = false) := by
  induction chain generalizing opts with
  | nil =>
      exact
        ⟨fun open_ => ⟨open_, .inr nofun⟩,
          And.left⟩
  | cons step rest inductionHypothesis =>
      refine (inductionHypothesis (opts.narrow step)).trans ?_
      rw [outbound_narrow_eq_undefined_iff, hasExplicitGlobalOutbound_narrow,
        Bool.or_eq_true, List.forall_mem_cons]
      cases step.isForSubmittedCode <;> simp

/-- The isolate has the network of its parent, or none and a sealed module. -/
theorem network_of_loads
    {opts : WorkerPoolOptions}
    {env : Env}
    {call : RunnerCall}
    {now : Nat}
    {code : WorkerCode}
    (loads : opts.Loads env call)
    (own : (call.dispatchAt now).ownCode = .ok code) :
    (code.globalOutbound = .inherit ↔ opts.outbound = .undefined) ∧
      (code.globalOutbound ≠ .inherit →
        code.globalOutbound = .blocked ∧ code.SealsCaches) := by
  obtain ⟨read, seals⟩ := loads.globalOutbound now
  have outbound :
      code.globalOutbound =
        if opts.outbound = .undefined then .inherit else .blocked := by
    rw [(fields_of_ownCode own).2.1, read, outboundAccess_outboundToWire]
  rw [outbound]
  split
  next open_ => exact ⟨iff_of_true rfl open_, fun shut => absurd rfl shut⟩
  next shut =>
    refine ⟨iff_of_false nofun shut, fun _ => ⟨rfl, ?_⟩⟩
    refine sealsCaches_of_ownCode own (seals.trans ?_)
    cases setting : opts.outbound with
    | undefined => exact absurd setting shut
    | null => rfl
    | stub binding => rfl

/--
The isolate that a job of a pool loads has the network of its parent exactly if
the options of the first pool leave the setting `undefined`, and name it or have
never been restricted for submitted code.  Otherwise it has no network, whatever
service stub was set, and its module seals `caches.default`.
-/
theorem loads_network_iff
    (opts : WorkerPoolOptions)
    (chain : List Narrowing)
    {env : Env}
    {call : RunnerCall}
    {now : Nat}
    {code : WorkerCode}
    (loads : (opts.narrowAll chain).Loads env call)
    (own : (call.dispatchAt now).ownCode = .ok code) :
    (code.globalOutbound = .inherit ↔
      opts.outbound = .undefined ∧
        (opts.hasExplicitGlobalOutbound = true ∨
          ∀ step ∈ chain, step.isForSubmittedCode = false)) ∧
      (code.globalOutbound ≠ .inherit →
        code.globalOutbound = .blocked ∧ code.SealsCaches) := by
  rw [← outbound_narrowAll_eq_undefined_iff]
  exact network_of_loads loads own

/-- The call of a request for nothing, in an object without bindings. -/
def emptyCall (opts : WorkerPoolOptions) : RunnerCall :=
  runOneRunnerCall []
    { fnSource := ""
      fnHash := ""
      args := []
      workerOptions := some opts.wireWorkerOptions
      envelope := { deadlineEpochMs := 0, signal := { cancelled := false } } }

/-- A pool that sends outbound traffic to a service. -/
def redirected : WorkerPoolOptions where
  globalOutbound := .redirect { id := 0, hasFetch := true }

/-- The service does not get across: the isolate has no network. -/
theorem loads_network_redirected :
    ∃ code,
      (redirected.emptyCall.dispatchAt 0).ownCode = .ok code ∧
        redirected.outbound = .stub { id := 0, hasFetch := true } ∧
          code.globalOutbound = .blocked ∧ code.SealsCaches := by
  have keyed :
      (redirected.emptyCall.dispatchAt 0).cacheKeyInput =
        .ok
          { fnSource := ""
            contextHash := ""
            strategy := .stable
            forceFresh := none
            taskSlot := some (.index 0) } :=
    rfl
  obtain ⟨code, own⟩ := ownCode_ok keyed
  have network := loads_network_iff redirected [] (.runOne _ rfl) own
  refine ⟨code, own, rfl, network.2 fun inherits => ?_⟩
  cases (network.1.mp inherits).1

end WorkerPoolOptions

/-! ## Histories of a loader -/

/--
The dispatch is a job of a pool for submitted code, which was made from options
that do not name `globalOutbound`.
-/
def LoaderDispatch.IsSubmitted (dispatch : LoaderDispatch) : Prop :=
  ∃ (opts : WorkerPoolOptions) (chain : List Narrowing) (env : Env)
      (call : RunnerCall) (now : Nat),
    (opts.narrowAll chain).Loads env call ∧
      dispatch = call.dispatchAt now ∧
        opts.hasExplicitGlobalOutbound = false ∧
          ∃ step ∈ chain, step.isForSubmittedCode = true

/-- The own worker of a job of submitted code has no network. -/
theorem LoaderDispatch.IsSubmitted.ownCode
    {dispatch : LoaderDispatch}
    {code : WorkerCode}
    (submitted : dispatch.IsSubmitted)
    (own : dispatch.ownCode = .ok code) :
    code.globalOutbound = .blocked ∧ code.SealsCaches := by
  obtain ⟨opts, chain, env, call, now, loads, rfl, implicit, step, member,
    isForSubmittedCode⟩ := submitted
  obtain ⟨inherits, shut⟩ := WorkerPoolOptions.network_of_loads loads own
  refine shut fun open_ => ?_
  have kept :=
    (opts.outbound_narrowAll_eq_undefined_iff chain).mp (inherits.mp open_)
  rcases kept.2 with explicit | never
  · cases implicit.symm.trans explicit
  · cases (never step member).symm.trans isForSubmittedCode

/--
In every history of a loader whose dispatches are jobs of submitted code, of any
pools, restrictions and topologies, every job runs on an isolate without network
and with sealed caches, also when it runs on one that another job has loaded.
-/
theorem submitted_code_has_no_network
    {dispatches : List LoaderDispatch}
    (submitted : ∀ dispatch ∈ dispatches, dispatch.IsSubmitted)
    {dispatch : LoaderDispatch}
    {run : LoaderRun}
    (ran : (dispatch, run) ∈ runDispatches {} dispatches) :
    run.code.globalOutbound = .blocked ∧ run.code.SealsCaches := by
  obtain ⟨member, runs⟩ := loaded_nil.runDispatches ran
  cases shared : dispatch.sharedId with
  | none => exact (submitted dispatch member).ownCode (runs.own shared)
  | some id =>
      obtain ⟨first, isFirst, own⟩ := runs.first id shared
      exact (submitted first (mem_of_firstUse isFirst).1).ownCode own

/-- A pool that names no outbound policy, restricted for submitted code. -/
def submittedPool : WorkerPoolOptions :=
  WorkerPoolOptions.narrowAll {} [.restrictForSubmittedCode [], .restrictTo []]

/-- Two jobs of submitted code, the second of which finds an isolate. -/
def submittedTwice : List LoaderDispatch :=
  [submittedPool.emptyCall.dispatchAt 0, submittedPool.emptyCall.dispatchAt 1]

theorem submitted_code_has_no_network_submittedTwice :
    ∃ run,
      (submittedPool.emptyCall.dispatchAt 1, run) ∈
          runDispatches {} submittedTwice ∧
        run.code.globalOutbound = .blocked ∧ run.code.SealsCaches := by
  have submitted : ∀ dispatch ∈ submittedTwice, dispatch.IsSubmitted := by
    intro dispatch member
    have isJob : ∃ now, dispatch = submittedPool.emptyCall.dispatchAt now := by
      rcases List.mem_cons.mp member with first | later
      · exact ⟨0, first⟩
      · exact ⟨1, List.mem_singleton.mp later⟩
    obtain ⟨now, isJob⟩ := isJob
    exact
      ⟨{}, [.restrictForSubmittedCode [], .restrictTo []], [], _, now,
        .runOne _ rfl, isJob, rfl, _, List.mem_cons_self, rfl⟩
  have shared :
      (submittedPool.emptyCall.dispatchAt 1).sharedId = some _ := rfl
  obtain ⟨run, ran⟩ :=
    exists_run_of_sharedId
      (List.mem_cons_of_mem _ (List.mem_singleton.mpr rfl)) shared {}
  exact ⟨run, ran, submitted_code_has_no_network submitted ran⟩

end CloudflareParallel
