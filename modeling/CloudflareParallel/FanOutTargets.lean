import CloudflareParallel.CapabilityNarrowing

namespace CloudflareParallel

open ListSlices

/-!
# The objects that a fan-out may be sent to

A pool sends a fan-out to its coordinator, or to a loopback in its own process
that takes a single job.  Where the job runs makes no difference to the answer,
with one exception: the loopback does not look at the selector.
-/

/-- `CfpInProcessCoordinator.runMany`, with the environment of the Worker. -/
def loopbackRunMany
    (platform : Platform)
    (env : Env)
    (request : CoordinatorFanOutRequest) :
    Except Thrown FanOutResponse :=
  match request.argsList with
  | [] =>
      .ok {
        results := []
        topology := .inDo
        fanOutPerLevel := []
        treeDepth := 1
        activity := []
      }
  | [args] =>
      let dispatched :=
        executeJob platform [] (loopbackRunnerCall env request args)
      .ok {
        results := dispatched.results
        topology := .inDo
        fanOutPerLevel := [1]
        treeDepth := 1
        activity := dispatched.activity
      }
  | argsList =>
      .error (plainError
        (s!"CfpInProcessCoordinator.runMany: size={argsList.length} unsupported; " ++
          "the loopback is single-job only. Fan-outs of size ≥ 2 must route " ++
          "through CfpCoordinator so each task lands in its own leaf DO " ++
          "process for real CPU parallelism."))

/-- The largest fan-out of the loopback. -/
def IN_PROCESS_THRESHOLD : Nat := 1

/-- What a pool can send a fan-out to. -/
structure FanOutTargets where
  /-- The environment of the loopback, if there is one. -/
  inProcess : Option Env
  coordinator : CfpCoordinator
  /-- `this.#opts.topology`. -/
  topology : Option Topology

namespace FanOutTargets

variable (targets : FanOutTargets)

/-- The pinned topology does not need the coordinator. -/
def isUnpinned : Bool :=
  match targets.topology with
  | none => true
  | some .auto => true
  | some .inDo => true
  | some _ => false

/-- `canLoopback`, where there is a loopback. -/
def fitsLoopback (size : Nat) : Bool :=
  0 < size && size ≤ IN_PROCESS_THRESHOLD && targets.isUnpinned

/-- `#runManyTarget(size).runMany(request)`. -/
def runMany
    (treeDepth : TreeDepth)
    (platform : Platform)
    (request : CoordinatorFanOutRequest) :
    Except Thrown FanOutResponse :=
  match targets.inProcess with
  | none =>
      CloudflareParallel.runMany treeDepth platform targets.coordinator request
  | some env =>
      if targets.fitsLoopback request.argsList.length then
        loopbackRunMany platform env request
      else
        CloudflareParallel.runMany treeDepth platform targets.coordinator
          request

end FanOutTargets

/-! ## The loopback and the coordinator -/

/-- Of a single job without a pinned fan-out, the plan is the direct path. -/
theorem selectTopology_single
    {treeDepth : TreeDepth}
    {opts : SelectorOptions}
    {plan : TopologyPlan}
    (selected : selectTopology treeDepth 1 opts = .ok plan)
    (unpinned :
      opts.topology = none ∨
        opts.topology = some .auto ∨ opts.topology = some .inDo) :
    plan = .inDo 1 := by
  simp only [selectTopology] at selected
  split at selected
  next negative => cases negative
  next =>
    split at selected
    next => cases selected
    next =>
      split at selected
      next => cases selected
      next =>
        rcases unpinned with absent | auto | inDo
        · rw [absent] at selected
          cases selected
          rfl
        · rw [auto] at selected
          cases selected
          rfl
        · rw [inDo] at selected
          cases selected
          rfl

/-- A single job on the direct path is answered as by the loopback. -/
theorem loopbackRunMany_eq
    {treeDepth : TreeDepth}
    (platform : Platform)
    {self : CfpCoordinator}
    {request : CoordinatorFanOutRequest}
    {args : List JsValue}
    (single : request.argsList = [args])
    (selected :
      selectTopology treeDepth 1 request.selectorOptions = .ok (.inDo 1)) :
    runMany treeDepth platform self request =
      loopbackRunMany platform self.env request := by
  have selected' :
      selectTopology treeDepth (request.argsList.length : Nat)
          request.selectorOptions =
        .ok (.inDo 1) := by
    rw [single]
    exact selected
  unfold runMany loopbackRunMany
  dsimp only
  rw [selected', if_neg (by simp [single])]
  simp only [dispatchPlan, dispatchInDo, single]
  rfl

/-- The loopback takes single jobs without a pinned fan-out. -/
theorem FanOutTargets.single_of_fitsLoopback
    {targets : FanOutTargets}
    {jobs : List (List JsValue)}
    (fits : targets.fitsLoopback jobs.length = true) :
    (∃ args, jobs = [args]) ∧
      (targets.topology = none ∨
        targets.topology = some .auto ∨ targets.topology = some .inDo) := by
  unfold fitsLoopback isUnpinned at fits
  simp only [Bool.and_eq_true, decide_eq_true_eq] at fits
  obtain ⟨⟨isSome, few⟩, unpinned⟩ := fits
  have one : jobs.length = 1 := Nat.le_antisymm few isSome
  refine ⟨List.length_eq_one_iff.mp one, ?_⟩
  split at unpinned
  next absent => exact .inl absent
  next auto => exact .inr (.inl auto)
  next inDo => exact .inr (.inr inDo)
  next => cases unpinned

namespace FanOutTargets

/--
A pool with a loopback answers every fan-out as it does without one, exactly if
the selector accepts its options for the jobs that the loopback takes.
-/
theorem runMany_eq_iff
    (treeDepth : TreeDepth)
    (platform : Platform)
    (targets : FanOutTargets)
    (request : CoordinatorFanOutRequest)
    (sameEnv : ∀ env, targets.inProcess = some env → env = targets.coordinator.env)
    (sent : request.selectorOptions.topology = targets.topology) :
    targets.runMany treeDepth platform request =
        CloudflareParallel.runMany treeDepth platform targets.coordinator
          request ↔
      (targets.inProcess.isSome →
        targets.fitsLoopback request.argsList.length = true →
        ∃ plan,
          selectTopology treeDepth request.argsList.length
            request.selectorOptions = .ok plan) := by
  unfold runMany
  cases loopback : targets.inProcess with
  | none => exact iff_of_true rfl nofun
  | some env =>
      cases sameEnv env loopback
      dsimp only
      split
      next fits =>
        obtain ⟨⟨args, single⟩, unpinned⟩ := single_of_fitsLoopback fits
        rw [← sent] at unpinned
        have one : (request.argsList.length : Int) = 1 := by
          rw [single]
          rfl
        rw [one]
        cases selected :
            selectTopology treeDepth 1 request.selectorOptions with
        | ok plan =>
            cases selectTopology_single selected unpinned
            exact
              iff_of_true (loopbackRunMany_eq platform single selected).symm
                fun _ _ => ⟨_, rfl⟩
        | error err =>
            refine iff_of_false (fun same => ?_) (fun accepted => ?_)
            · unfold loopbackRunMany CloudflareParallel.runMany at same
              rw [single] at same
              dsimp only at same
              rw [List.length_singleton, Nat.cast_one, selected] at same
              cases same
            · obtain ⟨plan, isPlan⟩ := accepted rfl fits
              cases isPlan
      next other => exact iff_of_true rfl fun _ fits => absurd fits other

/-- A pool without a pinned topology, with a loopback beside its coordinator. -/
def beside : FanOutTargets where
  inProcess := some CfpCoordinator.configured.env
  coordinator := .configured
  topology := none

/-- A request whose branching factor is out of range. -/
def outOfRange : CoordinatorFanOutRequest :=
  { CoordinatorFanOutRequest.overFour 1 with
    selector := some { branchingFactor := some 3 } }

/-- The loopback runs a job that the coordinator would reject. -/
theorem runMany_ne_outOfRange :
    beside.runMany .exact .ideal outOfRange ≠
      CloudflareParallel.runMany .exact .ideal .configured outOfRange := by
  intro same
  have accepted :=
    (runMany_eq_iff .exact .ideal beside outOfRange
      (fun env isEnv => (Option.some.inj isEnv).symm) rfl).mp same rfl rfl
  obtain ⟨plan, selected⟩ := accepted
  cases selected

end FanOutTargets

/-! ## The answer of a pure function -/

/-- What a call of the function does depends on its arguments alone. -/
def Platform.RunsPure
    (platform : Platform)
    (behaviour :
      String → Option JsRecord → List JsValue → Except Thrown JsValue) : Prop :=
  ∀ path call,
    platform.runOne path call =
      behaviour call.input.fnSource call.input.context call.input.args

/-- Every job of a fan-out runs the function of its request. -/
theorem function_of_runMany
    {treeDepth : TreeDepth}
    {platform : Platform}
    {self : CfpCoordinator}
    {request : CoordinatorFanOutRequest}
    {response : FanOutResponse}
    (ran : runMany treeDepth platform self request = .ok response)
    {path : Path}
    {call : RunnerCall}
    (executed : Occurs (.execute path call) response.activity) :
    call.input.fnSource = request.fnSource ∧
      call.input.context = request.context := by
  obtain ⟨_, _, under⟩ := exists_runsUnder_of_runMany ran executed
  exact ⟨under.fnSource, under.context⟩

/-- A coordinator on a reliable platform maps a pure function, in any topology. -/
theorem runMany_eq_map
    {treeDepth : TreeDepth}
    {platform : Platform}
    {self : CfpCoordinator}
    {request : CoordinatorFanOutRequest}
    {response : FanOutResponse}
    {behaviour :
      String → Option JsRecord → List JsValue → Except Thrown JsValue}
    (reliable : platform.Reliable)
    (runsPure : platform.RunsPure behaviour)
    (ran : runMany treeDepth platform self request = .ok response) :
    response.results =
      request.argsList.map fun args =>
        runnerResult (behaviour request.fnSource request.context args) := by
  refine (response_aligned ran).eq_map fun outcome => ?_
  cases outcome with
  | executed executed sameArgs sameSlot =>
      obtain ⟨sameSource, sameContext⟩ := function_of_runMany ran executed
      rw [runsPure, sameSource, sameContext, sameArgs]
  | leafRejected executed member rejected carries =>
      cases (reliable.not_rejected _).symm.trans rejected
  | subCoordRejected executed member rejected carries =>
      cases (reliable.not_rejected _).symm.trans rejected

/--
On reliable platforms that run a function as a pure one, any two fan-outs of
that function over the same arguments have the same results, whatever the
targets, the topologies, the bindings and the isolates are: those of a map.
-/
theorem results_independent_of_target
    {treeDepth : TreeDepth}
    {platform : Platform}
    {targets : FanOutTargets}
    {request : CoordinatorFanOutRequest}
    {response : FanOutResponse}
    {behaviour :
      String → Option JsRecord → List JsValue → Except Thrown JsValue}
    (reliable : platform.Reliable)
    (runsPure : platform.RunsPure behaviour)
    (ran : targets.runMany treeDepth platform request = .ok response) :
    response.results =
      request.argsList.map fun args =>
        runnerResult (behaviour request.fnSource request.context args) := by
  unfold FanOutTargets.runMany at ran
  split at ran
  next => exact runMany_eq_map reliable runsPure ran
  next env _ =>
    split at ran
    next =>
      unfold loopbackRunMany at ran
      split at ran
      next none =>
        cases ran
        rw [none]
        rfl
      next args single =>
        cases ran
        rw [single]
        exact congrArg (fun outcome => [runnerResult outcome]) (runsPure _ _)
      next => cases ran
    next => exact runMany_eq_map reliable runsPure ran

/-- A reliable platform whose functions answer their first argument. -/
def Platform.echoing : Platform :=
  { ideal with runOne := fun _ call => .ok (call.input.args.headD .undefined) }

/-- It runs everything as that pure function. -/
theorem Platform.runsPure_echoing :
    Platform.echoing.RunsPure fun _ _ args => .ok (args.headD .undefined) :=
  fun _ _ => rfl

/-- A pool that is pinned to a topology, and its request for three jobs. -/
def runThree (topology : Topology) : Except Thrown FanOutResponse :=
  { FanOutTargets.beside with topology := some topology }.runMany .exact
    .echoing
    { CoordinatorFanOutRequest.overFour 3 with
      selector := some { topology := some topology } }

/-- Three jobs on leaves, and the same jobs in a tree. -/
theorem results_independent_of_target_three :
    ∃ onLeaves inTree,
      runThree .hybrid = .ok onLeaves ∧
        runThree .tree = .ok inTree ∧
          onLeaves.topology = .hybrid ∧
            inTree.topology = .tree ∧
              inTree.results.length = 3 ∧
                onLeaves.results = inTree.results := by
  have onLeaves : runThree .hybrid = .ok _ := rfl
  have inTree : runThree .tree = .ok _ := rfl
  refine ⟨_, _, onLeaves, inTree, rfl, rfl, rfl, ?_⟩
  unfold runThree at onLeaves inTree
  have reliable : Platform.echoing.Reliable := fun _ => rfl
  rw [results_independent_of_target reliable Platform.runsPure_echoing
      onLeaves,
    results_independent_of_target reliable Platform.runsPure_echoing inTree]

end CloudflareParallel
