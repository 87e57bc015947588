import Mathlib.Logic.Function.Basic
import CloudflareParallel.CancelStreams
import CloudflareParallel.LoaderProgram

namespace CloudflareParallel

/-!
# Live cancel through the loader

The cancel stream of a dispatch travels in the environment of the worker it
loads, its envelope with the call.  A history interleaves dispatches, the
entries of their calls into the isolate, token firings and ends; the worker of
an id is the one its first dispatch loaded.
-/

/-- What tripped an `env.signal`, with the reason it was aborted for. -/
inductive Trip where
  | envelope (reason : String)
  | stream (source : CancelStream) (reason : String)
  deriving Repr, DecidableEq

/-- The stream that the entrypoint of a worker reads, `this.env?.cancelStream`. -/
def WorkerCode.cancelStream (code : WorkerCode) : Option CancelStream :=
  match (code.env.getD []).lookup "cancelStream" with
  | some (.cancelStream stream) => some stream
  | _ => none

/-- The dispatch with this stream for its cancel token. -/
def LoaderDispatch.withStream
    (dispatch : LoaderDispatch)
    (stream : Option CancelStream) : LoaderDispatch :=
  { dispatch with input := { dispatch.input with cancelStream := stream } }

/-- A dispatch that got its worker. -/
structure Execution where
  key : String
  dispatch : LoaderDispatch
  code : WorkerCode

/-- What the envelope alone does to the signal of an execution. -/
def Execution.envelopeTrip (execution : Execution) : Option Trip :=
  let signal := execution.dispatch.input.envelope.signal
  if signal.cancelled then
    some (.envelope (signal.reason.getD "Cancelled"))
  else
    none

/-- One event at the loader of an owner. -/
inductive CancelEvent where
  | dispatches (counter : Nat) (dispatch : LoaderDispatch) (token : Bool)
  | enters (n : Nat)
  | fires (n : Nat) (reason : Option String)
  | returns (n : Nat)
  | closes (n : Nat)

/--
The loaded workers, the executions in the order of their dispatches, the
streams, the signals, and which executions have entered and returned.
-/
structure CancelWorld where
  loaded : List (String × WorkerCode) := []
  executions : List Execution := []
  streams : CancelStream → OneShotStream := fun _ => {}
  signals : Nat → Option Trip := fun _ => none
  entries : List Nat := []
  returned : List Nat := []

namespace CancelWorld

/-- The stream that the isolate of an execution reads when it enters. -/
def reads (world : CancelWorld) (n : Nat) : Option CancelStream :=
  world.executions[n]?.bind (·.code.cancelStream)

/-- The stream of the token of an execution. -/
def ownStream (world : CancelWorld) (n : Nat) : Option CancelStream :=
  world.executions[n]?.bind (·.dispatch.input.cancelStream)

/-- `trip`: the first abort of a signal stands. -/
def trip (world : CancelWorld) (n : Nat) (trip : Trip) : CancelWorld :=
  { world with
    signals :=
      Function.update world.signals n ((world.signals n).or (some trip)) }

/-- Replace the state of one stream. -/
def setStream
    (world : CancelWorld)
    (source : CancelStream)
    (stream : OneShotStream) : CancelWorld :=
  { world with streams := Function.update world.streams source stream }

/-- A dispatch: its writer, the id, and the worker that the loader gives. -/
def dispatches
    (world : CancelWorld)
    (counter : Nat)
    (dispatch : LoaderDispatch)
    (token : Bool) : CancelWorld :=
  let own := CancelStream.source world.executions.length
  let dispatch := dispatch.withStream (if token then some own else none)
  let signal := dispatch.input.envelope.signal
  match dispatch.cacheKeyInput with
  | .error _ => world
  | .ok keyInput =>
      match
        runWithMode { counter := counter, loaded := world.loaded } dispatch with
      | (.error _, _) => world
      | (.ok run, next) =>
          { world with
            loaded := next.loaded
            executions :=
              world.executions ++
                [{
                  key := (buildCacheKey counter dispatch.now keyInput).1
                  dispatch := dispatch
                  code := run.code
                }]
            -- A token that had fired before the dispatch fires the writer.
            streams :=
              Function.update world.streams own
                (if signal.cancelled then
                  (OneShotStream.cancel {} signal.reason).1
                else
                  {}) }

/-- The call of an execution enters its isolate: `cfpMakeAbortSignal`. -/
def enters (world : CancelWorld) (n : Nat) : CancelWorld :=
  match world.executions[n]? with
  | none => world
  | some execution =>
      if n ∈ world.entries then
        world
      else
        let entered :=
          { world with
            entries := world.entries ++ [n]
            signals :=
              Function.update world.signals n execution.envelopeTrip }
        match execution.code.cancelStream with
        | none => entered
        | some source =>
            match (world.streams source).read n with
            | (stream, none) => entered.setStream source stream
            | (stream, some reason) =>
                (entered.setStream source stream).trip n
                  (.stream source reason)

/-- The token of an execution fires. -/
def fires
    (world : CancelWorld)
    (n : Nat)
    (reason : Option String) : CancelWorld :=
  match world.ownStream n with
  | none => world
  | some source =>
      match (world.streams source).cancel reason with
      | (stream, none) => world.setStream source stream
      | (stream, some (reader, text)) =>
          (world.setStream source stream).trip reader (.stream source text)

/-- One event. -/
def step (world : CancelWorld) : CancelEvent → CancelWorld
  | .dispatches counter dispatch token =>
      world.dispatches counter dispatch token
  | .enters n => world.enters n
  | .fires n reason => world.fires n reason
  | .returns n =>
      if n ∈ world.entries then
        { world with returned := world.returned ++ [n] }
      else
        world
  | .closes n =>
      match world.ownStream n with
      | none => world
      | some source => world.setStream source (world.streams source).close

/-- The world after a history. -/
def after (history : List CancelEvent) : CancelWorld :=
  history.foldl step {}

/-- The user function of the execution is running. -/
def Running (world : CancelWorld) (n : Nat) : Prop :=
  n ∈ world.entries ∧ n ∉ world.returned

/-- The execution has a token that can still fire. -/
def Live (world : CancelWorld) (n : Nat) : Prop :=
  ∃ source,
    world.ownStream n = some source ∧
      (world.streams source).settled = false

end CancelWorld

end CloudflareParallel
