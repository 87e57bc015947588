import CloudflareParallel.WorkerCode

namespace CloudflareParallel

/-!
# What a loader runner is given

`LoaderRunnerOptions` and `RunOneInput`.  A coordinator or a leaf builds one of
each per job; together they are everything the loader sees of the request.
-/

/-- Where a runner is called from. -/
inductive CallSiteKind where
  | fetchHandler
  | doMethod
  deriving Repr, DecidableEq

/-- A task slot; the cache key ignores one that is not a finite number. -/
inductive TaskSlot where
  | index (n : Nat)
  | nonFinite
  deriving Repr, DecidableEq

/-- `LoaderRunnerOptions`, without the loader binding itself. -/
structure LoaderRunnerOptions where
  callSite : CallSiteKind
  cacheKeyStrategy : CacheKeyStrategy
  workerOptions : Option InternalWorkerCodeOptions := none
  allowList : Option (List String) := none

/-- `RunOneInput`. -/
structure RunOneInput where
  fnSource : String
  fnHash : String
  context : Option JsRecord := none
  bindings : Option Env := none
  envelope : RpcEnvelope
  args : List JsValue
  freshIsolate : Option Bool := none
  taskSlot : Option TaskSlot := none
  cancelStream : Option CancelStream := none

/-- One `runner.runOne(input)` on a runner built with `options`. -/
structure RunnerCall where
  options : LoaderRunnerOptions
  input : RunOneInput

end CloudflareParallel
