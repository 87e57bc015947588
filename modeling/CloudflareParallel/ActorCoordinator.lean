import CloudflareParallel.Coordinator
import CloudflareParallel.Library.LabelledRuns
import CloudflareParallel.Library.SerialOrder

namespace CloudflareParallel

open SerialOrder

/-!
# The actor: `CfpCoordinator.actorSubmit`

A submit reads the persisted state, awaits the run of the user function in
another isolate, and then writes the state that came back.  While it awaits,
the object may start or finish other submits, so a submit is two steps here.
-/

/-- The request of `actorSubmit`. -/
structure ActorSubmitRequest where
  fnSource : String
  fnHash : String
  args : List JsValue
  context : Option JsRecord := none
  workerOptions : Option WireWorkerOptions := none
  cacheKeyStrategy : Option CacheKeyStrategy := none
  allowList : Option (List String) := none
  envelope : DispatchEnvelope

/-- The runner call of a submit; the state goes along. -/
def actorRunnerCall
    (env : Env)
    (req : ActorSubmitRequest) : RunnerCall where
  options := {
    callSite := .doMethod
    cacheKeyStrategy := req.cacheKeyStrategy.getD .stable
    workerOptions := wireToWorkerOptions req.workerOptions env
    allowList := req.allowList
  }
  input := {
    fnSource := req.fnSource
    fnHash := req.fnHash
    context := req.context
    bindings := some env
    envelope := req.envelope.withMode .actorClass
    args := req.args
  }

/-- A submit that was accepted, with the number of its acceptance. -/
structure ActorCall where
  id : Nat
  req : ActorSubmitRequest

/--
An actor object.  `runActor` is what the loaded isolate does for a submit on a
state: the state and the value that come back, or an error.
-/
structure ActorObject where
  env : Env
  runActor :
    (id : Nat) → RunnerCall → (state : JsValue) →
      Except Thrown (JsValue × JsValue)

/-- A submit that awaits its run, with the state it has read. -/
structure InFlightSubmit where
  call : ActorCall
  state : JsValue

/-- The object between two of its steps. -/
structure ActorState where
  /-- What storage holds under the actor state key. -/
  persisted : Option JsValue
  accepted : Nat := 0
  inFlight : List InFlightSubmit := []
  /-- Answers given so far, oldest first. -/
  answered : List (ActorCall × RunOneResult) := []

/-- `(await storage.get(key)) ?? {}`. -/
def readActorState : Option JsValue → JsValue
  | none => .object []
  | some .undefined => .object []
  | some .null => .object []
  | some state => state

/-- The user function of a submit, run on a persisted state. -/
def ActorObject.behaviour
    (self : ActorObject)
    (call : ActorCall)
    (persisted : Option JsValue) :
    Except Thrown (Option JsValue × JsValue) :=
  (self.runActor call.id (actorRunnerCall self.env call.req)
    (readActorState persisted)).map fun result =>
      (some result.1, result.2)

/-- What can happen next at the object. -/
inductive ActorEvent where
  /-- A submit arrives and runs up to its loader RPC. -/
  | submit (req : ActorSubmitRequest)
  /-- The loader RPC of a submit settles and the submit runs to its end. -/
  | settle (id : Nat)

/-- The part of `actorSubmit` before the loader RPC. -/
def ActorState.begin
    (state : ActorState)
    (req : ActorSubmitRequest) : ActorState :=
  { state with
    accepted := state.accepted + 1
    inFlight :=
      state.inFlight ++
        [{ call := { id := state.accepted, req := req }
           state := readActorState state.persisted }] }

/-- The part of `actorSubmit` after the loader RPC. -/
def ActorState.finish
    (self : ActorObject)
    (state : ActorState)
    (submit : InFlightSubmit) : ActorState :=
  let remaining :=
    state.inFlight.filter fun other => other.call.id ≠ submit.call.id
  match
      self.runActor submit.call.id
        (actorRunnerCall self.env submit.call.req) submit.state with
  | .ok (newState, value) =>
      { state with
        persisted := some newState
        inFlight := remaining
        answered := state.answered ++ [(submit.call, .ok value)] }
  | .error err =>
      { state with
        inFlight := remaining
        answered :=
          state.answered ++ [(submit.call, errorToFailedResult err)] }

/-- One step of the object. -/
def ActorObject.step
    (self : ActorObject)
    (state : ActorState) : ActorEvent → Option ActorState
  | .submit req => some (state.begin req)
  | .settle id =>
      (state.inFlight.find? fun submit => submit.call.id = id).map
        (ActorState.finish self state)

/-- The submits that were answered with a value, in the order of the answers. -/
def ActorState.successful
    (state : ActorState) : List (ActorCall × JsValue) :=
  state.answered.filterMap fun answer =>
    match answer.2 with
    | .ok value => some (answer.1, value)
    | .failed _ => none

/-- The answers so far and the persisted state have a serial explanation. -/
def ActorState.IsSerializable
    (self : ActorObject)
    (initial : Option JsValue)
    (state : ActorState) : Prop :=
  Serializable self.behaviour initial state.successful state.persisted

end CloudflareParallel
