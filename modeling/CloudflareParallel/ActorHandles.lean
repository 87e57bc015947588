import CloudflareParallel.ActorCoordinator

namespace CloudflareParallel

/-!
# Handles of an actor

Any number of `ActorHandle`s share one actor object.  Each remembers by itself
whether the object is initialized, and learns of a close only when it made the
call.  Every RPC runs at the object some time after it was made, and its answer
arrives some time later.
-/

/-- How far a call of `ActorHandle.submit` has come. -/
inductive SubmitPhase where
  /-- `actorEnsureInitialized` is on its way to the object. -/
  | initializing
  /-- It has run there, and its answer is on its way back. -/
  | initialized
  /-- `actorSubmit` is on its way to the object. -/
  | dispatching
  /-- It has begun to run there. -/
  | begun
  deriving DecidableEq

/-- A call of `ActorHandle.submit`. -/
structure HandleSubmit (Handle : Type) where
  handle : Handle
  req : ActorSubmitRequest
  phase : SubmitPhase
  /-- It is the first call after a completed close. -/
  afterClose : Bool

/-- The actor object, its handles and the calls under way. -/
structure ActorWorld (Handle : Type) where
  object : ActorState
  /-- What storage holds under `ACTOR_INITIALIZED_KEY`. -/
  initialized : Bool
  /-- `#initialized` of each handle. -/
  believes : Handle → Bool := fun _ => false
  started : Nat := 0
  submits : Nat → Option (HandleSubmit Handle) := fun _ => none
  /-- Handles whose close has run at the object, without its answer. -/
  closing : List Handle := []
  /-- A close was completed, and no submit has started since. -/
  closedSince : Bool := false
  /-- The state on which each submit first ran. -/
  firstRuns : List (HandleSubmit Handle × JsValue) := []

/-- What can happen next. -/
inductive HandleEvent (Handle : Type) where
  | start (handle : Handle) (req : ActorSubmitRequest)
  | ensureRuns (id : Nat)
  | ensureReturns (id : Nat)
  /-- An attempt of `actorSubmit` begins to run at the object. -/
  | submitRuns (id : Nat)
  /-- The loader RPC of an attempt settles. -/
  | settle (callId : Nat)
  | closeRuns (handle : Handle)
  | closeReturns (handle : Handle)

namespace ActorWorld

variable {Handle : Type} [DecidableEq Handle]

/-- New handles on an actor whose storage is in any state. -/
def opened
    (persisted : Option JsValue)
    (initialized : Bool) : ActorWorld Handle where
  object := { persisted := persisted }
  initialized := initialized

/-- `submit`, up to its first RPC. -/
def start
    (world : ActorWorld Handle)
    (handle : Handle)
    (req : ActorSubmitRequest) : ActorWorld Handle :=
  { world with
    started := world.started + 1
    closedSince := false
    submits :=
      Function.update world.submits world.started
        (some {
          handle := handle
          req := req
          phase :=
            if world.believes handle then .dispatching else .initializing
          afterClose := world.closedSince }) }

/-- A submit goes on to its next phase. -/
def advance
    (world : ActorWorld Handle)
    (id : Nat)
    (submit : HandleSubmit Handle)
    (phase : SubmitPhase) : ActorWorld Handle :=
  { world with
    submits :=
      Function.update world.submits id (some { submit with phase := phase }) }

/-- `actorEnsureInitialized`. -/
def ensureInitialized
    (seed : JsValue)
    (world : ActorWorld Handle) : ActorWorld Handle :=
  if world.initialized then
    world
  else
    { world with
      object := {
        world.object with
        persisted := some (readActorState (some seed)) }
      initialized := true }

/-- The first attempt of a submit, with the state that it reads. -/
def recordFirstRun
    (world : ActorWorld Handle)
    (submit : HandleSubmit Handle) : ActorWorld Handle :=
  { world with
    firstRuns :=
      world.firstRuns ++
        [(submit, readActorState world.object.persisted)] }

/-- `actorClose`. -/
def close
    (world : ActorWorld Handle)
    (handle : Handle) : ActorWorld Handle :=
  { world with
    object := { world.object with persisted := none }
    initialized := false
    closing := handle :: world.closing }

end ActorWorld

/-- One step of an actor with its handles; `seed` is `initialState ?? {}`. -/
def ActorObject.handleStep
    {Handle : Type} [DecidableEq Handle]
    (self : ActorObject)
    (seed : JsValue)
    (world : ActorWorld Handle) :
    HandleEvent Handle → Option (ActorWorld Handle)
  | .start handle req => some (world.start handle req)
  | .ensureRuns id =>
      match world.submits id with
      | some submit =>
          if submit.phase = .initializing then
            some ((world.ensureInitialized seed).advance id submit .initialized)
          else
            none
      | none => none
  | .ensureReturns id =>
      match world.submits id with
      | some submit =>
          if submit.phase = .initialized then
            some {
              world.advance id submit .dispatching with
              believes := Function.update world.believes submit.handle true }
          else
            none
      | none => none
  | .submitRuns id =>
      match world.submits id with
      | some submit =>
          if submit.phase = .dispatching then
            some {
              (world.recordFirstRun submit).advance id submit .begun with
              object := world.object.begin submit.req }
          else if submit.phase = .begun then
            some { world with object := world.object.begin submit.req }
          else
            none
      | none => none
  | .settle callId =>
      (self.step world.object (.settle callId)).map fun object =>
        { world with object := object }
  | .closeRuns handle => some (world.close handle)
  | .closeReturns handle =>
      if handle ∈ world.closing then
        some {
          world with
          closing := world.closing.erase handle
          believes := Function.update world.believes handle false
          closedSince := true }
      else
        none

/-- Every first submit after a completed close first ran on the seed. -/
def ActorWorld.ResetForEveryHandle
    {Handle : Type}
    (seed : JsValue)
    (world : ActorWorld Handle) : Prop :=
  ∀ run ∈ world.firstRuns, run.1.afterClose = true → run.2 = seed

end CloudflareParallel
