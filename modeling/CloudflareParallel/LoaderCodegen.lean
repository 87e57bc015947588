import CloudflareParallel.LoaderSandbox
import CloudflareParallel.WorkerCode

namespace CloudflareParallel

/-!
# Code generation for loaded isolates

`generateWorkerSource` and `buildWorkerCode`: the text of the module that a
loaded isolate runs, and the worker description around it.
-/

/-- Default compatibility date. -/
def DEFAULT_COMPAT_DATE : String := "2026-01-20"

structure GenerateSourceOptions where
  mode : CodegenMode
  context : Option JsRecord := none
  injectCancelSignal : Bool
  passEnv : Bool
  sealGlobals : Bool

/-- The first lines of every module. -/
def headerLines : List String :=
  [ "// AUTO-GENERATED by cloudflare-parallel — do not edit",
    "import \x7b WorkerEntrypoint \x7d from \"cloudflare:workers\";",
    "" ]

/-- Defensive seal of globals when `globalOutbound` is `null`. -/
def sealLines : List String :=
  [ "(() => \x7b",
    "  const seal = (obj, name, msg) => \x7b",
    "    try \x7b",
    "      Object.defineProperty(obj, name, \x7b",
    "        get() \x7b throw new Error(msg); \x7d,",
    "        configurable: false,",
    "      \x7d);",
    "    \x7d catch (_) \x7b /* already non-configurable, fine */ \x7d",
    "  \x7d;",
    "  if (typeof caches !== \"undefined\") \x7b",
    "    seal(caches, \"default\", \"caches.default is sealed (globalOutbound: null)\");",
    "  \x7d",
    "\x7d)();",
    "" ]

/-- The `AbortSignal` builder of the loaded isolate. -/
def cancelSignalLines : List String :=
  [ "function cfpMakeAbortSignal(envelopeSignal, cancelStream) \x7b",
    "  const controller = new AbortController();",
    "  const trip = (reason) => \x7b",
    "    if (controller.signal.aborted) return;",
    "    const err = Object.assign(new Error(reason ?? \"Cancelled\"), \x7b name: \"CancelledError\" \x7d);",
    "    controller.abort(err);",
    "  \x7d;",
    "  if (envelopeSignal?.cancelled) \x7b",
    "    queueMicrotask(() => trip(envelopeSignal.reason));",
    "  \x7d",
    "  if (cancelStream) \x7b",
    "    (async () => \x7b",
    "      try \x7b",
    "        const reader = cancelStream.getReader();",
    "        const \x7b value, done \x7d = await reader.read();",
    "        if (!done && value) \x7b",
    "          const reason = new TextDecoder().decode(value);",
    "          trip(reason);",
    "        \x7d",
    "        try \x7b reader.releaseLock(); \x7d catch (_) \x7b\x7d",
    "      \x7d catch (_) \x7b",
    "        // Reader errors when the producer aborts the stream — treat as no-op.",
    "      \x7d",
    "    \x7d)();",
    "  \x7d",
    "  return controller.signal;",
    "\x7d",
    "" ]

/-- The return-value validator of the loaded isolate. -/
def validateReturnLines : List String :=
  [ "function cfpValidateReturn(value) \x7b",
    "  if (value == null) return value;",
    "  if (value instanceof ReadableStream) return value;",
    "  // Surface RPC-stub returns as a serialization error.",
    "  if (typeof value === \"object\") \x7b",
    "    const proto = Object.getPrototypeOf(value);",
    "    const ctorName = proto?.constructor?.name;",
    "    if (ctorName === \"RpcStub\" || ctorName === \"RpcTarget\" || ctorName === \"RpcPromise\") \x7b",
    "      const err = new Error(\"returned values cannot include RPC stubs\");",
    "      err.name = \"SerializationError\";",
    "      throw err;",
    "    \x7d",
    "  \x7d",
    "  // Size check is best-effort: sample via JSON length where possible.",
    "  // Coordinator side does the authoritative measurement after structured-clone.",
    "  return value;",
    "\x7d",
    "" ]

/-- The environment block with an injected signal. -/
def signalEnvLines : List String :=
  [ "    const __signal__ = cfpMakeAbortSignal(envelope?.signal, this.env?.cancelStream);",
    "    const __env__ = Object.assign(\x7b\x7d, this.env, \x7b signal: __signal__ \x7d);",
    "    // Hide library-internal env entries from user code (defense in depth).",
    "    delete __env__.cancelStream;",
    "    delete __env__.cfpSql;" ]

/-- The head of a `pool-fn` entrypoint. -/
def executeHeadLines : List String :=
  [ "export default class extends WorkerEntrypoint \x7b",
    "  async execute(envelope, ...args) \x7b" ]

/-- The head of an `actor-class` entrypoint. -/
def submitHeadLines : List String :=
  [ "export default class extends WorkerEntrypoint \x7b",
    "  async submit(envelope, _fnSource, state, args) \x7b" ]

/-- The tail of an `actor-class` entrypoint. -/
def submitTailLines : List String :=
  [ "    // Synthesize a capability-restricted SQL proxy. The actor",
    "    // coordinator fences this to its own namespace.",
    "    const sql = this.env?.cfpSql ?? null;",
    "    const result = await __fn__(state, sql, ...args, __env__);",
    "    return \x7b state, value: cfpValidateReturn(result) \x7d;",
    "  \x7d",
    "\x7d" ]

/-- A context value as the literal of its declaration. -/
def contextLiteral (value : JsValue) : Except SerializationError String :=
  (canonicalizeContext [("v", value)]).map fun text =>
    String.ofList (text.toList.drop 5).dropLast

/-- A context value is declared as its canonical text. -/
theorem contextLiteral_eq (value : JsValue) :
    contextLiteral value = stringify value := by
  have valid : assertValidContextKey "v" = .ok () := by decide
  have checked :
      ([("v", value)].forM fun entry => assertValidContextKey entry.1) =
        .ok () :=
    forM_ok_iff.2 (List.forall_mem_singleton.2 valid)
  have sorted :
      sortByKey [("v", stringify value)] = [("v", stringify value)] := rfl
  have quoted : (jsonString "v").toList = ['"', 'v', '"'] := by decide
  rw [contextLiteral, canonicalizeContext, checked]
  simp only [stringify, stringifyEntries, sorted, List.mapM_cons,
    List.mapM_nil, stringifyMember, bind, Except.bind]
  cases stringify value with
  | error err =>
      rfl
  | ok text =>
      simp [Except.map, pure, Except.pure, quoted]

/-- The declaration of one context entry. -/
def contextLine
    (entry : String × JsValue) : Except SerializationError String := do
  assertValidContextKey entry.1
  let literal ← contextLiteral entry.2
  return s!"const {entry.1} = {literal};"

/-- The module-scope constants of a context. -/
def contextLines :
    Option JsRecord → Except SerializationError (List String)
  | none => .ok []
  | some [] => .ok []
  | some ctx => do
      let declarations ← ctx.mapM contextLine
      return declarations ++ [""]

/-- `emitEnvSetup`. -/
def envSetupLines (opts : GenerateSourceOptions) : List String :=
  if opts.injectCancelSignal then
    signalEnvLines
  else if opts.passEnv then
    ["    const __env__ = this.env;"]
  else
    ["    const __env__ = \x7b\x7d;"]

/-- The entrypoint class of a mode. -/
def entrypointClassLines (opts : GenerateSourceOptions) : List String :=
  match opts.mode with
  | .poolFn =>
      executeHeadLines ++ envSetupLines opts ++
        [ "    const __result__ = await __fn__(...args, __env__);",
          "    return cfpValidateReturn(__result__);",
          "  \x7d",
          "\x7d" ]
  | .actorClass =>
      submitHeadLines ++ envSetupLines opts ++ submitTailLines

/-- The user function and its entrypoint; without a source there is none. -/
def entrypointLines
    (fnSource : String)
    (opts : GenerateSourceOptions) : List String :=
  if fnSource = "" then
    []
  else
    [s!"const __fn__ = {fnSource};", ""] ++ entrypointClassLines opts

/-- The lines above the user function. -/
def preambleLines
    (declarations : List String)
    (opts : GenerateSourceOptions) : List String :=
  headerLines ++ declarations ++
    (if opts.sealGlobals then sealLines else []) ++
    (if opts.injectCancelSignal then cancelSignalLines else []) ++
    validateReturnLines

/-- The lines of the generated module. -/
def generateWorkerLines
    (fnSource : Option String)
    (opts : GenerateSourceOptions) :
    Except SerializationError (List String) := do
  let declarations ← contextLines opts.context
  return preambleLines declarations opts ++
    entrypointLines (fnSource.getD "") opts

/-- The ES module source loaded into a dynamic Worker isolate. -/
def generateWorkerSource
    (fnSource : Option String)
    (opts : GenerateSourceOptions) : Except SerializationError String :=
  (generateWorkerLines fnSource opts).map (String.intercalate "\n")

/-- Network access of a loaded isolate. -/
inductive OutboundAccess where
  | inherit
  | blocked
  | redirect (stub : Binding)
  deriving Repr, DecidableEq

/-- `WorkerCode`, the description that the loader turns into an isolate. -/
structure WorkerCode where
  compatibilityDate : String
  compatibilityFlags : Option (List String)
  mainModule : String
  modules : List (String × String)
  env : Option LoaderEnv
  globalOutbound : OutboundAccess
  tails : Option (List Binding)
  limits : Option WorkerCodeLimits
  deriving Repr, DecidableEq

/-- The effective network access: an absent key means no network at all. -/
def outboundAccess : GlobalOutbound → OutboundAccess
  | .absent => .blocked
  | .inherit => .inherit
  | .blocked => .blocked
  | .redirect stub => .redirect stub

/-- `BuildWorkerCodeOptions`; `env` is the field of that name of `worker`. -/
structure BuildWorkerCodeOptions where
  fnSource : Option String
  source : GenerateSourceOptions
  worker : Option InternalWorkerCodeOptions
  env : Option LoaderEnv

/-- `buildWorkerCode`. -/
def buildWorkerCode
    (opts : BuildWorkerCodeOptions) :
    Except SerializationError WorkerCode := do
  let moduleSource ← generateWorkerSource opts.fnSource opts.source
  let worker := opts.worker.getD {}
  return {
    compatibilityDate :=
      worker.compatibilityDate.getD DEFAULT_COMPAT_DATE
    compatibilityFlags := worker.compatibilityFlags
    mainModule := "worker.js"
    modules := [("worker.js", moduleSource)]
    env := opts.env
    globalOutbound := outboundAccess worker.globalOutbound
    tails := worker.tails
    limits := worker.limits
  }

/--
The environment that the generated entrypoint hands to the user function:
`Object.assign` of the signal, then the two deletions.
-/
def userEnv (env : LoaderEnv) : LoaderEnv :=
  deleteKey (deleteKey (assignKey env "signal" .abortSignal) "cancelStream")
    "cfpSql"

end CloudflareParallel
