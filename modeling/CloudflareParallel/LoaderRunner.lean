import CloudflareParallel.LoaderCacheKey
import CloudflareParallel.LoaderCodegen

namespace CloudflareParallel

/-!
# The loader runner: `LoaderRunner.#runWithMode`

One dispatch computes its cache id, and the loader either builds the worker
from the dispatch's own callback or reuses the worker that the id was first
used for.  `Loaded` says what a loader holds after a history of dispatches.
-/

/-- The call a runner makes on the entrypoint of the loaded worker. -/
inductive EntrypointCall where
  | execute (envelope : RpcEnvelope) (args : List JsValue)
  | submit
      (envelope : RpcEnvelope)
      (fnSource : String)
      (state : JsValue)
      (args : List JsValue)

/-- One `runOne` or `runActor` on some runner, with its clock reading. -/
structure LoaderDispatch where
  options : LoaderRunnerOptions
  input : RunOneInput
  mode : CodegenMode
  state : Option JsValue := none
  now : Nat

/-- The module counter of fresh keys, and the workers loaded by id. -/
structure LoaderState where
  counter : Nat := 0
  loaded : List (String × WorkerCode) := []

/-- The worker a dispatch runs on and the call it makes there. -/
structure LoaderRun where
  code : WorkerCode
  call : EntrypointCall

namespace LoaderDispatch

/-- What the dispatch hands to `buildCacheKey`. -/
def cacheKeyInput
    (dispatch : LoaderDispatch) : Except SerializationError CacheKeyInput := do
  let contextHash ←
    match dispatch.input.context with
    | some ctx => (canonicalizeContext ctx).map hashSource
    | none => .ok ""
  return {
    fnSource := dispatch.input.fnSource
    contextHash := contextHash
    strategy := dispatch.options.cacheKeyStrategy
    forceFresh := dispatch.input.freshIsolate
    taskSlot := dispatch.input.taskSlot
  }

/-- What the dispatch's callback hands to `generateWorkerSource`. -/
def sourceOptions (dispatch : LoaderDispatch) : GenerateSourceOptions where
  mode := dispatch.mode
  context := dispatch.input.context
  injectCancelSignal := true
  passEnv := true
  sealGlobals :=
    match dispatch.options.workerOptions with
    | some options => options.globalOutbound == .blocked
    | none => false

/-- The module text of the dispatch's own callback. -/
def moduleSource
    (dispatch : LoaderDispatch) : Except SerializationError String :=
  generateWorkerSource (some dispatch.input.fnSource) dispatch.sourceOptions

/-- The worker of the dispatch's own callback. -/
def ownCode
    (dispatch : LoaderDispatch) : Except SerializationError WorkerCode :=
  buildWorkerCode {
    fnSource := some dispatch.input.fnSource
    source := dispatch.sourceOptions
    worker := some (dispatch.options.workerOptions.getD {})
    env :=
      some
        (loaderEnv
          (sanitizeBindings dispatch.input.bindings
            dispatch.options.allowList)
          dispatch.input.cancelStream)
  }

/-- The entrypoint call of the dispatch. -/
def entrypointCall (dispatch : LoaderDispatch) : EntrypointCall :=
  match dispatch.mode with
  | .poolFn => .execute dispatch.input.envelope dispatch.input.args
  | .actorClass =>
      .submit dispatch.input.envelope dispatch.input.fnSource
        (dispatch.state.getD (.object [])) dispatch.input.args

end LoaderDispatch

/--
`#runWithMode` up to the entrypoint call.  The loader asks the callback for
code only when the id is new.
-/
def runWithMode
    (state : LoaderState)
    (dispatch : LoaderDispatch) :
    Except SerializationError LoaderRun × LoaderState :=
  match dispatch.cacheKeyInput with
  | .error err => (.error err, state)
  | .ok keyInput =>
      let (cacheKey, counter) :=
        buildCacheKey state.counter dispatch.now keyInput
      match state.loaded.lookup cacheKey with
      | some code =>
          (.ok { code := code, call := dispatch.entrypointCall },
            { state with counter := counter })
      | none =>
          match dispatch.ownCode with
          | .error err => (.error err, { state with counter := counter })
          | .ok code =>
              (.ok { code := code, call := dispatch.entrypointCall },
                { counter := counter
                  loaded := state.loaded ++ [(cacheKey, code)] })

/-- The dispatches of a sequence that reach their entrypoint, with their run. -/
def runDispatches :
    LoaderState → List LoaderDispatch → List (LoaderDispatch × LoaderRun)
  | _, [] => []
  | state, dispatch :: rest =>
      match runWithMode state dispatch with
      | (.ok run, next) => (dispatch, run) :: runDispatches next rest
      | (.error _, next) => runDispatches next rest

/-- Once a context has been canonicalized, its declarations are generated. -/
theorem contextLines_ok
    {ctx : JsRecord}
    {text : String}
    (canonical : canonicalizeContext ctx = .ok text) :
    ∃ lines, contextLines (some ctx) = .ok lines := by
  have accepted := canonicalizeContext_ok_iff.mp ⟨text, canonical⟩
  have everyLine :
      ∀ entry ∈ ctx, ∃ line, contextLine entry = .ok line := by
    intro entry member
    obtain ⟨validKey, serializable⟩ := accepted entry member
    obtain ⟨literal, rendered⟩ := serializable
    simp [contextLine, contextLiteral_eq, validKey, rendered, bind,
      Except.bind, pure, Except.pure]
  cases ctx with
  | nil =>
      exact ⟨[], rfl⟩
  | cons entry rest =>
      obtain ⟨declarations, generated⟩ := mapM_ok_iff.mpr everyLine
      exact ⟨declarations ++ [""], by
        simp [contextLines, generated, bind, Except.bind, pure,
          Except.pure]⟩

/-- The callback of a dispatch whose id was computed never fails. -/
theorem ownCode_ok
    {dispatch : LoaderDispatch}
    {keyInput : CacheKeyInput}
    (keyed : dispatch.cacheKeyInput = .ok keyInput) :
    ∃ code, dispatch.ownCode = .ok code := by
  have lines : ∃ lines, contextLines dispatch.input.context = .ok lines := by
    cases context : dispatch.input.context with
    | none =>
        exact ⟨[], rfl⟩
    | some ctx =>
        cases canonical : canonicalizeContext ctx with
        | error err =>
            simp [LoaderDispatch.cacheKeyInput, context, canonical, bind,
              Except.bind, Except.map] at keyed
        | ok text =>
            exact contextLines_ok canonical
  obtain ⟨lines, generated⟩ := lines
  simp [LoaderDispatch.ownCode, buildWorkerCode, generateWorkerSource,
    generateWorkerLines, LoaderDispatch.sourceOptions, generated, bind,
    Except.bind, Except.map, pure, Except.pure]

end CloudflareParallel
