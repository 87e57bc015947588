import CloudflareParallel.LoaderHistory
import CloudflareParallel.LoaderModuleText

namespace CloudflareParallel

/-!
# Which program a cached isolate runs

The loader id says a 32-bit hash of source and context, the window and the
slot.  The mode, the sealing of globals and the order of the context change the
module too, and the hash has collisions, so the id does not determine the
module.  `Meets` and `SameProgram` say in the inputs of two dispatches when
they share an id and when they ask for one module.
-/

/-- The worker runs the module of the dispatch's own source. -/
def RunsOwnModule
    (dispatch : LoaderDispatch)
    (code : WorkerCode) : Prop :=
  dispatch.moduleSource.map (fun text => [("worker.js", text)]) =
    .ok code.modules

/-- The dispatch's own worker runs its own module. -/
theorem runsOwnModule_of_ownCode
    {dispatch : LoaderDispatch}
    {code : WorkerCode}
    (own : dispatch.ownCode = .ok code) :
    RunsOwnModule dispatch code := by
  unfold RunsOwnModule LoaderDispatch.moduleSource
  simp only [LoaderDispatch.ownCode, buildWorkerCode] at own
  cases source :
      generateWorkerSource (some dispatch.input.fnSource)
        dispatch.sourceOptions with
  | error err =>
      simp [source, bind, Except.bind] at own
  | ok text =>
      simp only [source, bind, Except.bind, pure, Except.pure,
        Except.ok.injEq] at own
      subst own
      rfl

/-- Two dispatches that both find their own module on a worker agree on it. -/
theorem moduleSource_eq_of_runsOwnModule
    {first second : LoaderDispatch}
    {code : WorkerCode}
    (firstOwn : RunsOwnModule first code)
    (secondOwn : RunsOwnModule second code) :
    first.moduleSource = second.moduleSource := by
  unfold RunsOwnModule at firstOwn secondOwn
  rw [← secondOwn] at firstOwn
  cases firstSource : first.moduleSource <;>
    cases secondSource : second.moduleSource <;>
      simp_all [Except.map]

/-- Runs under one id are on one worker. -/
theorem exists_common_run
    {dispatches : List LoaderDispatch}
    {first second : LoaderDispatch}
    {id : SharedId}
    (firstMember : first ∈ dispatches)
    (secondMember : second ∈ dispatches)
    (firstShared : first.sharedId = some id)
    (secondShared : second.sharedId = some id) :
    ∃ firstRun secondRun,
      (first, firstRun) ∈ runDispatches {} dispatches ∧
        (second, secondRun) ∈ runDispatches {} dispatches ∧
          firstRun.code = secondRun.code := by
  obtain ⟨firstRun, firstRan⟩ :=
    exists_run_of_sharedId firstMember firstShared {}
  obtain ⟨secondRun, secondRan⟩ :=
    exists_run_of_sharedId secondMember secondShared {}
  obtain ⟨_, firstRuns⟩ := loaded_nil.runDispatches firstRan
  obtain ⟨_, secondRuns⟩ := loaded_nil.runDispatches secondRan
  obtain ⟨user, isUser, firstCode⟩ := firstRuns.first id firstShared
  obtain ⟨sameUser, isSameUser, secondCode⟩ :=
    secondRuns.first id secondShared
  rw [isUser] at isSameUser
  cases isSameUser
  rw [firstCode] at secondCode
  exact ⟨firstRun, secondRun, firstRan, secondRan,
    Except.ok.inj secondCode⟩

/-- When every run is on its own module, one id means one module. -/
theorem moduleSource_eq_of_sharedId
    {dispatches : List LoaderDispatch}
    (everyOwn :
      ∀ dispatch run,
        (dispatch, run) ∈ runDispatches {} dispatches →
        RunsOwnModule dispatch run.code)
    {first second : LoaderDispatch}
    {id : SharedId}
    (firstMember : first ∈ dispatches)
    (secondMember : second ∈ dispatches)
    (firstShared : first.sharedId = some id)
    (secondShared : second.sharedId = some id) :
    first.moduleSource = second.moduleSource := by
  obtain ⟨firstRun, secondRun, firstRan, secondRan, sameCode⟩ :=
    exists_common_run firstMember secondMember firstShared secondShared
  have firstOwn := everyOwn first firstRun firstRan
  rw [sameCode] at firstOwn
  exact
    moduleSource_eq_of_runsOwnModule firstOwn
      (everyOwn second secondRun secondRan)

/--
Every run is on its own module exactly when one shared id never means two
modules.
-/
theorem runsOwnModule_iff_moduleSource
    (dispatches : List LoaderDispatch) :
    (∀ dispatch run,
        (dispatch, run) ∈ runDispatches {} dispatches →
        RunsOwnModule dispatch run.code) ↔
      ∀ first ∈ dispatches, ∀ second ∈ dispatches, ∀ id,
        first.sharedId = some id →
        second.sharedId = some id →
        first.moduleSource = second.moduleSource := by
  constructor
  · intro everyOwn first firstMember second secondMember id
    exact moduleSource_eq_of_sharedId everyOwn firstMember secondMember
  · intro separated dispatch run ran
    obtain ⟨member, runs⟩ := loaded_nil.runDispatches ran
    cases shared : dispatch.sharedId with
    | none =>
        exact runsOwnModule_of_ownCode (runs.own shared)
    | some id =>
        obtain ⟨first, isFirst, own⟩ := runs.first id shared
        obtain ⟨firstMember, firstShared⟩ := mem_of_firstUse isFirst
        have sameModule :=
          separated dispatch member first firstMember id shared firstShared
        unfold RunsOwnModule
        rw [sameModule]
        exact runsOwnModule_of_ownCode own

/-! ## Ids and modules in the inputs of a dispatch -/

namespace LoaderDispatch

/-- Whether the dispatch asks for an isolate of its own. -/
def isFresh (dispatch : LoaderDispatch) : Bool :=
  dispatch.input.freshIsolate.getD false ||
    dispatch.options.cacheKeyStrategy == .fresh

/-- The window of an `auto` dispatch. -/
def window (dispatch : LoaderDispatch) : Option Nat :=
  if dispatch.options.cacheKeyStrategy = .auto then
    some (dispatch.now / AUTO_WINDOW_MS)
  else
    none

/-- The slot index of the dispatch. -/
def slot (dispatch : LoaderDispatch) : Option Nat :=
  match dispatch.input.taskSlot with
  | some (.index slot) => some slot
  | _ => none

/-- The hash of the context; without one it is empty. -/
def contextHash
    (dispatch : LoaderDispatch) : Except SerializationError String :=
  match dispatch.input.context with
  | some ctx => (canonicalizeContext ctx).map hashSource
  | none => .ok ""

/-- What is hashed into the id. -/
def hashedText
    (dispatch : LoaderDispatch) : Except SerializationError String :=
  dispatch.contextHash.map fun hash => dispatch.input.fnSource ++ ":" ++ hash

/--
Neither dispatch is fresh, their contexts are accepted, and they agree in
window, slot and the 32-bit hash.
-/
structure Meets (first second : LoaderDispatch) : Prop where
  firstShared : first.isFresh = false
  secondShared : second.isFresh = false
  window : first.window = second.window
  slot : first.slot = second.slot
  hash :
    ∃ firstText secondText,
      first.hashedText = .ok firstText ∧
        second.hashedText = .ok secondText ∧
          djb2 firstText = djb2 secondText

/--
The same function source, the same context entries in the same order, the same
sealing and, unless there is no function, the same mode.
-/
def SameProgram (first second : LoaderDispatch) : Prop :=
  SameModule first.input.fnSource second.input.fnSource first.sourceOptions
    second.sourceOptions

/-- Every number in the context has its canonical text. -/
def HasCanonicalContext (dispatch : LoaderDispatch) : Prop :=
  ∀ entry ∈ dispatch.input.context.getD [], HasCanonicalNumbers entry.2

/-- The key input of a dispatch, once its context is hashed. -/
def keyInput (dispatch : LoaderDispatch) (contextHash : String) :
    CacheKeyInput where
  fnSource := dispatch.input.fnSource
  contextHash := contextHash
  strategy := dispatch.options.cacheKeyStrategy
  forceFresh := dispatch.input.freshIsolate
  taskSlot := dispatch.input.taskSlot

theorem cacheKeyInput_eq (dispatch : LoaderDispatch) :
    dispatch.cacheKeyInput =
      dispatch.contextHash.map dispatch.keyInput := by
  unfold cacheKeyInput contextHash
  cases dispatch.input.context with
  | none =>
      rfl
  | some ctx =>
      cases canonical : canonicalizeContext ctx with
      | error err => simp [canonical, bind, Except.bind, Except.map]
      | ok text =>
          simp [canonical, bind, Except.bind, Except.map, pure, Except.pure,
            keyInput]

/-- The shared id in the inputs of the dispatch. -/
theorem sharedId_eq (dispatch : LoaderDispatch) :
    dispatch.sharedId =
      if dispatch.isFresh then
        none
      else
        dispatch.hashedText.toOption.map fun text => {
          hash := djb2 text
          window := dispatch.window
          slot := dispatch.slot
        } := by
  rw [sharedId, cacheKeyInput_eq, hashedText]
  cases dispatch.contextHash with
  | error err =>
      simp [Except.map, Except.toOption]
  | ok hash =>
      rfl

/-- A dispatch has a shared id if it is not fresh and its context is accepted. -/
theorem sharedId_eq_some_iff
    {dispatch : LoaderDispatch}
    {id : SharedId} :
    dispatch.sharedId = some id ↔
      dispatch.isFresh = false ∧
        ∃ text,
          dispatch.hashedText = .ok text ∧
            id = {
              hash := djb2 text
              window := dispatch.window
              slot := dispatch.slot
            } := by
  rw [sharedId_eq]
  cases dispatch.isFresh <;> cases dispatch.hashedText <;>
    simp [Except.toOption, eq_comm]

/-- Dispatches meet exactly when they have one shared id. -/
theorem meets_iff
    {first second : LoaderDispatch} :
    first.Meets second ↔
      ∃ id, first.sharedId = some id ∧ second.sharedId = some id := by
  simp only [sharedId_eq_some_iff]
  constructor
  · rintro ⟨firstShared, secondShared, window, slot, firstText, secondText,
      firstHashed, secondHashed, hash⟩
    refine ⟨_, ⟨firstShared, firstText, firstHashed, rfl⟩, secondShared,
      secondText, secondHashed, ?_⟩
    rw [hash, window, slot]
  · rintro ⟨id, ⟨firstShared, firstText, firstHashed, rfl⟩, secondShared,
      secondText, secondHashed, same⟩
    rw [SharedId.mk.injEq] at same
    obtain ⟨hash, window, slot⟩ := same
    exact ⟨firstShared, secondShared, window, slot, firstText, secondText,
      firstHashed, secondHashed, hash⟩

/-- A dispatch with a shared id has a module. -/
theorem moduleSource_ok_of_sharedId
    {dispatch : LoaderDispatch}
    {id : SharedId}
    (shared : dispatch.sharedId = some id) :
    ∃ text, dispatch.moduleSource = .ok text := by
  obtain ⟨code, own⟩ := ownCode_ok_of_sharedId shared
  have isOwn := runsOwnModule_of_ownCode own
  unfold RunsOwnModule at isOwn
  cases generated : dispatch.moduleSource with
  | error err =>
      rw [generated] at isOwn
      cases isOwn
  | ok text =>
      exact ⟨text, rfl⟩

/-- Dispatches of one id have one module exactly when it is one program. -/
theorem moduleSource_eq_iff
    {first second : LoaderDispatch}
    {id : SharedId}
    (firstCanonical : first.HasCanonicalContext)
    (secondCanonical : second.HasCanonicalContext)
    (shared : first.sharedId = some id) :
    first.moduleSource = second.moduleSource ↔ first.SameProgram second := by
  have runner :
      ∀ dispatch : LoaderDispatch, IsRunnerSource dispatch.sourceOptions :=
    fun _ => ⟨rfl, rfl⟩
  obtain ⟨text, firstText⟩ := moduleSource_ok_of_sharedId shared
  constructor
  · intro same
    exact
      sameModule_of_generateWorkerSource (runner first) (runner second)
        firstCanonical secondCanonical firstText (same.symm.trans firstText)
  · intro same
    exact same.generateWorkerSource_eq (runner first) (runner second)

end LoaderDispatch

/--
Every dispatch of a sequence executes the module of its own source, context and
mode exactly when all dispatches that meet ask for the same program.
-/
theorem runDispatches_ownModule_iff
    (dispatches : List LoaderDispatch)
    (canonical :
      ∀ dispatch ∈ dispatches, dispatch.HasCanonicalContext) :
    (∀ dispatch run,
        (dispatch, run) ∈ runDispatches {} dispatches →
        RunsOwnModule dispatch run.code) ↔
      ∀ first ∈ dispatches, ∀ second ∈ dispatches,
        first.Meets second →
        first.SameProgram second := by
  rw [runsOwnModule_iff_moduleSource]
  constructor
  · intro separated first firstMember second secondMember meets
    obtain ⟨id, firstShared, secondShared⟩ :=
      LoaderDispatch.meets_iff.1 meets
    exact
      (LoaderDispatch.moduleSource_eq_iff (canonical first firstMember)
          (canonical second secondMember) firstShared).1
        (separated first firstMember second secondMember id firstShared
          secondShared)
  · intro samePrograms first firstMember second secondMember id firstShared
      secondShared
    exact
      (LoaderDispatch.moduleSource_eq_iff (canonical first firstMember)
          (canonical second secondMember) firstShared).2
        (samePrograms first firstMember second secondMember
          (LoaderDispatch.meets_iff.2 ⟨id, firstShared, secondShared⟩))

/-- A plain stable `runOne` of a source in slot zero. -/
def LoaderDispatch.stable (fnSource : String) : LoaderDispatch where
  options := {
    callSite := .doMethod
    cacheKeyStrategy := .stable
  }
  input := {
    fnSource := fnSource
    fnHash := hashSource fnSource
    envelope := {
      deadlineEpochMs := 0
      signal := { cancelled := false }
      mode := .poolFn
    }
    args := []
    taskSlot := some (.index 0)
  }
  mode := .poolFn
  now := 0

/-- A dispatch in slot zero with a number in its context. -/
def LoaderDispatch.limited
    (mode : CodegenMode)
    (fnSource : String) : LoaderDispatch :=
  let dispatch := LoaderDispatch.stable fnSource
  { dispatch with
    mode := mode
    input := {
      dispatch.input with
      context := some [("limit", .number (.finite "3"))]
    } }

/-- A dispatch and its repetition meet no dispatch of another id. -/
theorem sameProgram_of_apart
    {repeated other : LoaderDispatch}
    (apart : repeated.sharedId ≠ other.sharedId) :
    ∀ first ∈ [repeated, repeated, other],
      ∀ second ∈ [repeated, repeated, other],
        first.Meets second →
        first.SameProgram second := by
  intro first firstMember second secondMember meets
  obtain ⟨id, firstShared, secondShared⟩ := LoaderDispatch.meets_iff.1 meets
  rw [← secondShared] at firstShared
  simp only [List.mem_cons, List.not_mem_nil, or_false] at firstMember
  simp only [List.mem_cons, List.not_mem_nil, or_false] at secondMember
  by_cases same : first = second
  · rw [same]
    exact SameModule.refl _ _
  · grind

/--
A warm second use of one pool function, and an actor function in the same slot:
every run is on its own module.
-/
theorem runDispatches_ownModule_limited :
    (runDispatches {}
        [.limited .poolFn "() => limit", .limited .poolFn "() => limit",
          .limited .actorClass "(state) => limit"]).length = 3 ∧
      ∀ dispatch run,
        (dispatch, run) ∈
            runDispatches {}
              [.limited .poolFn "() => limit", .limited .poolFn "() => limit",
                .limited .actorClass "(state) => limit"] →
        RunsOwnModule dispatch run.code := by
  have canonical :
      ∀ mode source,
        (LoaderDispatch.limited mode source).HasCanonicalContext := by
    intro mode source
    have number : HasCanonicalNumbers (.number (.finite "3")) :=
      .number (.inl (by decide))
    simpa [LoaderDispatch.HasCanonicalContext, LoaderDispatch.limited] using
      number
  have apart :
      (LoaderDispatch.limited .poolFn "() => limit").sharedId ≠
        (LoaderDispatch.limited .actorClass "(state) => limit").sharedId := by
    decide +kernel
  refine ⟨by decide +kernel, (runDispatches_ownModule_iff _ ?_).mpr ?_⟩
  · simp [canonical]
  · exact sameProgram_of_apart apart

/--
Two sources with the same hash: the second dispatch executes the module of the
first, although its own is another one.
-/
theorem runDispatches_wrong_module :
    ¬ ∀ dispatch run,
        (dispatch, run) ∈
            runDispatches {}
              [.stable "() => \"ab\"", .stable "() => \"bA\""] →
        RunsOwnModule dispatch run.code := by
  intro everyOwn
  obtain ⟨id, firstShared⟩ :
      ∃ id, (LoaderDispatch.stable "() => \"ab\"").sharedId = some id :=
    Option.isSome_iff_exists.mp (by decide)
  have secondShared :
      (LoaderDispatch.stable "() => \"bA\"").sharedId = some id := by
    rw [← firstShared]
    decide
  have sameModule :=
    moduleSource_eq_of_sharedId everyOwn (by simp) (by simp)
      firstShared secondShared
  have canonical : ∀ source, (LoaderDispatch.stable source).HasCanonicalContext :=
    fun _ => by simp [LoaderDispatch.HasCanonicalContext, LoaderDispatch.stable]
  have sameProgram :=
    (LoaderDispatch.moduleSource_eq_iff (canonical _) (canonical _)
      firstShared).1 sameModule
  have sameSource := sameProgram.source
  revert sameSource
  decide

end CloudflareParallel
