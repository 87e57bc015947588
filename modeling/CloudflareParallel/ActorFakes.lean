import CloudflareParallel.ActorSubmits
import CloudflareParallel.Library.LabelledRuns

namespace CloudflareParallel

open LabelledRuns

/-!
# The fake of the actor

`actorFake` runs the user function in the same process, on a structured clone of
the state, and keeps what the function leaves before it looks at the value that
was returned.  In production the function runs in an isolate that answers with
the state and the value in one object: the runner checks this object as a whole,
and only then is the state persisted.  What fails there is marshalled, recorded
and decoded on its way to the caller, while the fake throws it as it is.
-/

/-! ## The return validator -/

section Validator

variable {ObjectId : Type}

/-- The constructor of the prototype is one of the RPC stubs. -/
def isRpcStub
    (constructorName : ObjectId → Option String) :
    ReturnedValue ObjectId → Bool
  | .reference object =>
      match constructorName object with
      | some name => ["RpcStub", "RpcTarget", "RpcPromise"].contains name
      | none => false
  | _ => false

/-- `rejectIfRpcStub`. -/
def rejectIfRpcStub
    (constructorName : ObjectId → Option String)
    (value : ReturnedValue ObjectId) : Except ErrorClass Unit :=
  if isRpcStub constructorName value then
    .error (.serializationError rpcStubMessage)
  else
    .ok ()

/-- `validateReturn`, at a depth that is beyond the number of objects. -/
def checkSize
    [Fintype ObjectId]
    [DecidableEq ObjectId]
    (heap : ReturnedHeap ObjectId)
    (value : ReturnedValue ObjectId) : Except ErrorClass Unit :=
  match validateReturn heap (Fintype.card ObjectId + 1) value with
  | some (.error err) => .error err
  | _ => .ok ()

/-- A value with its objects under other identities. -/
def ReturnedValue.rename
    {Other : Type}
    (identity : ObjectId → Other) :
    ReturnedValue ObjectId → ReturnedValue Other
  | .null => .null
  | .undefined => .undefined
  | .bool value => .bool value
  | .number value => .number value
  | .bigint => .bigint
  | .string text => .string text
  | .symbol => .symbol
  | .function => .function
  | .reference object => .reference (identity object)

/-- An object with the objects it holds under other identities. -/
def ReturnedObject.rename
    {Other : Type}
    (identity : ObjectId → Other) :
    ReturnedObject ObjectId → ReturnedObject Other
  | .arrayBuffer byteLength => .arrayBuffer byteLength
  | .view byteLength => .view byteLength
  | .date => .date
  | .regExp => .regExp
  | .map entries =>
      .map
        (entries.map fun entry =>
          (entry.1.rename identity, entry.2.rename identity))
  | .set members => .set (members.map (·.rename identity))
  | .array items => .array (items.map (·.rename identity))
  | .object entries =>
      .object (entries.map fun entry => (entry.1, entry.2.rename identity))
  | .readableStream => .readableStream

end Validator

namespace LeftBehind

/-- The heap with the object `{ state, value }`. -/
def pairHeap (left : LeftBehind) : ReturnedHeap (Option (Fin left.count))
  | none =>
      .object
        [ ("state", .reference (some left.state)),
          ("value", left.value.rename some) ]
  | some object => (left.heap object).rename some

/-- The constructors of the prototypes, with that of `{ state, value }`. -/
def pairConstructorName
    (left : LeftBehind) : Option (Fin left.count) → Option String
  | none => some "Object"
  | some object => left.constructorName object

end LeftBehind

/-! ## The fake -/

/-- The variable `state` of `actorFake`. -/
structure ActorFake (platform : ActorPlatform) where
  state : ClonedState platform

namespace ActorFake

variable {platform : ActorPlatform}

/-- `submit`, which looks at no option but the token, for the function's `env`. -/
def submit
    (fake : ActorFake platform)
    (call : SubmitCall) : Except Caught RootedGraph × ActorFake platform :=
  match call.applied fake.state with
  | .throws err => (.error err.caught, fake)
  | .returns left =>
      if cloned : platform.clones left.stateGraph = true then
        -- The state is kept, whatever is found out about the value.
        let fake : ActorFake platform := ⟨left.stateGraph, cloned⟩
        match rejectIfRpcStub left.constructorName left.value with
        | .error err => (.error err.caught, fake)
        | .ok () =>
            match checkSize left.heap left.value with
            | .error err => (.error err.caught, fake)
            | .ok () => (.ok left.valueGraph, fake)
      else
        (.error (.error "DataCloneError" platform.dataCloneMessage), fake)

/-- `close`. -/
def close (_fake : ActorFake platform) : ActorFake platform where
  state := ⟨.empty, platform.clones_empty⟩

end ActorFake

/-! ## Production -/

namespace ActorPlatform

variable (platform : ActorPlatform)

/-- The `submit` of the isolate: its answer, or what its RPC rejects with. -/
def isolateSubmit
    (fn : AppliedFunction)
    (state : StateGraph) : Except Rejection LeftBehind :=
  match fn state with
  | .throws err => .error err.asRejection
  | .returns left =>
      -- `cfpValidateReturn` throws an `Error` with the name set.
      if isRpcStub left.constructorName left.value then
        .error (platform.nativeError "SerializationError" rpcStubMessage)
      else if platform.sends left then
        .ok left
      else
        .error (platform.nativeError "DataCloneError" platform.dataCloneMessage)

/-- `LoaderRunner.runActor`, which looks at the object that was answered. -/
def runActor
    (fn : AppliedFunction)
    (state : StateGraph) : Except ParallelError LeftBehind :=
  let checked : Except Rejection LeftBehind := do
    let left ← platform.isolateSubmit fn state
    (rejectIfRpcStub left.pairConstructorName (.reference none)).mapError
      platform.libraryError
    (checkSize left.pairHeap (.reference none)).mapError platform.libraryError
    return left
  checked.mapError (marshalError platform.globals)

/-- `actorSubmit`, with what storage holds under the actor state key. -/
def actorSubmit
    (fn : AppliedFunction)
    (persisted : Option StateGraph) :
    Except ErrorRecord LeftBehind × Option StateGraph :=
  match platform.runActor fn (persisted.getD .empty) with
  | .error err => (.error (errorToRecord err.thrown), persisted)
  | .ok left =>
      if platform.clones left.stateGraph then
        (.ok left, some left.stateGraph)
      else
        let err : Thrown :=
          .error "DataCloneError" platform.dataCloneMessage
            (platform.globals.stackOf platform.dataCloneMessage) none
        (.error (errorToRecord err), persisted)

end ActorPlatform

/-- An actor object with its one handle. -/
structure ProductionActor where
  persisted : Option StateGraph
  /-- What storage holds under `ACTOR_INITIALIZED_KEY`. -/
  initialized : Bool
  /-- `#initialized` of the handle. -/
  believes : Bool

namespace ProductionActor

/-- Nothing has been called yet. -/
def fresh : ProductionActor := ⟨none, false, false⟩

/-- `actorEnsureInitialized`. -/
def ensureInitialized
    (actor : ProductionActor)
    (seed : StateGraph) : ProductionActor :=
  if actor.initialized then
    actor
  else
    { actor with persisted := some seed, initialized := true }

/-- The object is initialized, as far as the handle knows. -/
def ready
    {platform : ActorPlatform}
    (options : ActorOptions platform)
    (actor : ProductionActor) : ProductionActor :=
  if actor.believes then
    actor
  else
    { actor.ensureInitialized options.initialState with believes := true }

/-- What comes out of `dispatchWithResilience`; nothing if it goes on. -/
def settle
    (numerics : JsNumerics) :
    DispatchEnd (Except ErrorRecord LeftBehind) →
      Option (Except Caught RootedGraph)
  | .resolved (.ok left) => some (.ok left.valueGraph)
  | .resolved (.error record) =>
      some (.error (leafErrorToTypedError record).caught)
  | ended => (ended.thrown? numerics).map .error

/--
`ActorHandle.submit`.  Whoever settles the race of the attempt, the object goes
on with the call that has reached it.
-/
def submit
    (platform : ActorPlatform)
    (options : ActorOptions platform)
    (actor : ProductionActor)
    (call : SubmitCall) :
    Option (Except Caught RootedGraph) × ProductionActor :=
  let actor := actor.ready options
  match call.prepare platform options with
  | .error err => (some (.error err.caught), actor)
  | .ok (fnSource, opts) =>
      let (answer, persisted) :=
        platform.actorSubmit (platform.evaluates fnSource call.args)
          actor.persisted
      let run := call.dispatch platform opts answer
      let reached :=
        0 < run.made.length && platform.sendsArguments call.args
      ( settle platform.runtime.numerics run.ended,
        if reached then { actor with persisted := persisted } else actor )

/-- `ActorHandle.close`, with `actorClose`. -/
def close (_actor : ProductionActor) : ProductionActor where
  persisted := none
  initialized := false
  believes := false

/-- The state that a next submit runs on. -/
def state
    (actor : ProductionActor)
    (seed : StateGraph) : StateGraph :=
  if actor.believes || actor.initialized then
    actor.persisted.getD .empty
  else
    seed

end ProductionActor

/-! ## Both, side by side -/

/-- A call through the handle. -/
inductive ActorRequest where
  | submit (call : SubmitCall)
  | close

/-- The fake and the production actor with their answers, oldest first. -/
structure ActorPair (platform : ActorPlatform) where
  fake : ActorFake platform
  actor : ProductionActor
  ofFake : List (Except Caught RootedGraph) := []
  ofActor : List (Except Caught RootedGraph) := []

namespace ActorPair

variable {platform : ActorPlatform}

/-- Both with the same initial state. -/
def opened (options : ActorOptions platform) : ActorPair platform where
  fake := ⟨options.initialState⟩
  actor := .fresh

/-- A call is made on both, and they settle. -/
def step
    (options : ActorOptions platform)
    (pair : ActorPair platform) : ActorRequest → Option (ActorPair platform)
  | .submit call =>
      let (fakeAnswer, fake) := pair.fake.submit call
      let (answer?, actor) := pair.actor.submit platform options call
      answer?.map fun answer =>
        { fake := fake
          actor := actor
          ofFake := pair.ofFake ++ [fakeAnswer]
          ofActor := pair.ofActor ++ [answer] }
  | .close =>
      some
        { pair with
          fake := pair.fake.close
          actor := pair.actor.close }

/-- All calls had the same answers, and the next one finds the same state. -/
structure Agrees
    (options : ActorOptions platform)
    (pair : ActorPair platform) : Prop where
  answers : pair.ofFake = pair.ofActor
  state : pair.actor.state options.initialState = pair.fake.state.val

end ActorPair

/--
The condition on a submit.  A function that throws does so with an error that
reads the same after `marshalError`, the record and `leafErrorToTypedError`; one
that returns leaves a state that can be cloned and a value that is no RPC stub,
the two can be sent, and neither the value nor the pair is too large.
-/
def FunctionRun.IsSimulated
    (platform : ActorPlatform) : FunctionRun → Prop
  | .throws err =>
      err.caught =
        (marshalError platform.globals err.asRejection).atCaller.caught
  | .returns left =>
      platform.clones left.stateGraph = true ∧
        isRpcStub left.constructorName left.value = false ∧
          checkSize left.heap left.value = .ok () ∧
            platform.sends left = true ∧
              checkSize left.pairHeap (.reference none) = .ok ()

/--
The condition on a call.  A submit is plain and its function meets the condition
above; or the submit is refused, and its function throws just that error.  A
close comes only with an empty initial state.
-/
def ActorPair.IsSimulated
    {platform : ActorPlatform}
    (options : ActorOptions platform)
    (pair : ActorPair platform) : ActorRequest → Prop
  | .submit call =>
      ((∃ fnSource opts, call.IsPlain platform options fnSource opts) ∧
          (call.applied pair.fake.state).IsSimulated platform) ∨
        ∃ caught err,
          call.refusal platform options = some caught ∧
            call.applied pair.fake.state = .throws err ∧ err.caught = caught
  | .close => options.initialState.val = .empty

/-- No function of a submit has more to it than its text. -/
def ActorRequest.IsClosureFree
    (platform : ActorPlatform) : ActorRequest → Prop
  | .submit call => call.IsClosureFree platform
  | .close => True

/-! ## Errors that are never the same -/

/-- The decoder gives these two classes to records of their names only. -/
theorem name_leafErrorToTypedError
    {wire : ErrorRecord}
    {name : String}
    (named : (leafErrorToTypedError wire).name = name)
    (either : name = "ReturnTooLargeError" ∨ name = "SerializationError") :
    wire.name = name := by
  subst named
  unfold leafErrorToTypedError at either ⊢
  split at either <;> rename_i read <;>
    first
    | exact read
    | exact absurd either (by simp [ErrorClass.name])

/-- The record of a marked class has its name. -/
theorem name_atCaller_native
    {platform : ActorPlatform}
    {name message target : String}
    (named :
      (marshalError platform.globals
        (platform.nativeError name message)).atCaller.name = target)
    (either : target = "ReturnTooLargeError" ∨ target = "SerializationError") :
    (markedClass platform.globals name message
      (platform.globals.stackOf message)).name = target := by
  have recorded := name_leafErrorToTypedError named either
  rw [errorToRecord_thrown] at recorded
  exact recorded

/-- The error of a value that is too large has the size in its message. -/
theorem caught_of_checkSize
    {ObjectId : Type}
    [Fintype ObjectId]
    [DecidableEq ObjectId]
    {heap : ReturnedHeap ObjectId}
    {value : ReturnedValue ObjectId}
    {err : ErrorClass}
    (tooLarge : checkSize heap value = .error err) :
    ∃ bytes,
      HARD_RPC_PAYLOAD_BYTES < bytes ∧
        err = .returnTooLargeError ⟨toString bytes⟩ := by
  obtain ⟨seen, estimated⟩ :=
    heap.estimateBytes_eq value (Nat.lt_succ_self (Fintype.card ObjectId))
  unfold checkSize at tooLarge
  split at tooLarge
  next rejects =>
    cases tooLarge
    exact ⟨_, ReturnedHeap.of_rejects estimated rejects⟩
  next => cases tooLarge

/-! ## One submit -/

namespace ActorPlatform

variable {platform : ActorPlatform}

/-- What a submit comes to in production, with the state that it leaves. -/
def outcome
    (platform : ActorPlatform)
    (fn : AppliedFunction)
    (state : StateGraph) : Except Caught RootedGraph × StateGraph :=
  match platform.runActor fn state with
  | .error err => (.error err.atCaller.caught, state)
  | .ok left =>
      if platform.clones left.stateGraph then
        (.ok left.valueGraph, left.stateGraph)
      else
        (.error
          (leafErrorToTypedError
            { name := "DataCloneError"
              message := platform.dataCloneMessage
              stack :=
                platform.globals.stackOf platform.dataCloneMessage }).caught,
          state)

/-- What the RPC of the isolate rejects with is marshalled; the state stays. -/
theorem outcome_rejects
    {fn : AppliedFunction}
    {state : StateGraph}
    {err : Rejection}
    (rejects : platform.isolateSubmit fn state = .error err) :
    platform.outcome fn state =
      (.error (marshalError platform.globals err).atCaller.caught, state) := by
  rw [outcome, runActor, rejects]
  rfl

/-- A function that throws makes the RPC reject. -/
theorem isolateSubmit_throws
    {fn : AppliedFunction}
    {state : StateGraph}
    {err : Thrown}
    (ran : fn state = .throws err) :
    platform.isolateSubmit fn state = .error err.asRejection := by
  rw [isolateSubmit, ran]

/-- A stub makes the isolate throw. -/
theorem isolateSubmit_stub
    {fn : AppliedFunction}
    {state : StateGraph}
    {left : LeftBehind}
    (ran : fn state = .returns left)
    (stub : isRpcStub left.constructorName left.value = true) :
    platform.isolateSubmit fn state =
      .error (platform.nativeError "SerializationError" rpcStubMessage) := by
  rw [isolateSubmit, ran]
  exact if_pos stub

/-- What cannot be sent makes the RPC reject. -/
theorem isolateSubmit_unsent
    {fn : AppliedFunction}
    {state : StateGraph}
    {left : LeftBehind}
    (ran : fn state = .returns left)
    (noStub : isRpcStub left.constructorName left.value = false)
    (unsent : platform.sends left = false) :
    platform.isolateSubmit fn state =
      .error
        (platform.nativeError "DataCloneError" platform.dataCloneMessage) := by
  simp [isolateSubmit, ran, noStub, unsent]

/-- What is sent is checked as a pair before the state is stored. -/
theorem outcome_sent
    {fn : AppliedFunction}
    {state : StateGraph}
    {left : LeftBehind}
    (ran : fn state = .returns left)
    (noStub : isRpcStub left.constructorName left.value = false)
    (sent : platform.sends left = true) :
    platform.outcome fn state =
      match checkSize left.pairHeap (.reference none) with
      | .error err =>
          (.error
            (marshalError platform.globals
              (platform.libraryError err)).atCaller.caught,
            state)
      | .ok () =>
          if platform.clones left.stateGraph then
            (.ok left.valueGraph, left.stateGraph)
          else
            (.error
              (leafErrorToTypedError
                { name := "DataCloneError"
                  message := platform.dataCloneMessage
                  stack :=
                    platform.globals.stackOf
                      platform.dataCloneMessage }).caught,
              state) := by
  have answers : platform.isolateSubmit fn state = .ok left := by
    simp [isolateSubmit, ran, noStub, sent]
  have wrapped :
      rejectIfRpcStub left.pairConstructorName (.reference none) =
        .ok () := rfl
  rw [outcome, runActor, answers]
  cases sized : checkSize left.pairHeap (.reference none) with
  | error err => simp [wrapped, sized, Except.mapError, bind, Except.bind]
  | ok => simp [wrapped, sized, Except.mapError, bind, Except.bind, pure,
      Except.pure]

/-- No submit is answered as the runtime itself would. -/
theorem outcome_ne_dataCloneError
    (fn : AppliedFunction)
    (state : StateGraph)
    (message : String) :
    (platform.outcome fn state).1 ≠
      .error (.error "DataCloneError" message) := by
  unfold outcome
  split
  · exact fun same =>
      ErrorClass.caught_ne_dataCloneError _ _ (Except.error.inj same)
  · split
    · nofun
    · exact fun same =>
        ErrorClass.caught_ne_dataCloneError _ _ (Except.error.inj same)

/-- The error of a stub is of another class at the caller. -/
theorem caught_stub_ne (message : String) :
    (marshalError platform.globals
        (platform.nativeError "SerializationError"
          rpcStubMessage)).atCaller.caught ≠
      (ErrorClass.serializationError message).caught := by
  intro same
  exact
    name_markedClass_stub_ne (of_decide_eq_true rfl)
      (name_atCaller_native (Caught.error.inj same).1 (.inr rfl))

/-- An error of the runtime is none of a value that is too large. -/
theorem caught_native_ne
    (name message : String)
    (bytes : JsonValues.JsonNumber) :
    (marshalError platform.globals
        (platform.nativeError name message)).atCaller.caught ≠
      (ErrorClass.returnTooLargeError bytes).caught := by
  intro same
  exact
    name_markedClass_ne _ _ _ _
      (name_atCaller_native (Caught.error.inj same).1 (.inl rfl))

/-- The size is lost on the way to the caller. -/
theorem caught_tooLarge_ne
    (pairBytes : JsonValues.JsonNumber)
    {bytes : Nat}
    (large : HARD_RPC_PAYLOAD_BYTES < bytes) :
    (marshalError platform.globals
        (platform.libraryError
          (.returnTooLargeError pairBytes))).atCaller.caught ≠
      (ErrorClass.returnTooLargeError ⟨toString bytes⟩).caught := by
  intro same
  have messages :
      (ErrorClass.returnTooLargeError ⟨"0"⟩).message =
        (ErrorClass.returnTooLargeError ⟨toString bytes⟩).message :=
    (Caught.error.inj same).2
  have zero : Nat.repr bytes = Nat.repr 0 := (composed_eq_iff rfl).mp messages
  rw [Nat.repr_inj.mp zero] at large
  exact absurd large (Nat.not_lt_zero _)

end ActorPlatform

/-- What the fake does with a value that is no stub, and a state it can keep. -/
theorem ActorFake.submit_of_cloned
    {platform : ActorPlatform}
    {fake : ActorFake platform}
    {call : SubmitCall}
    {left : LeftBehind}
    (ran : call.applied fake.state = .returns left)
    (cloned : platform.clones left.stateGraph = true)
    (noStub : isRpcStub left.constructorName left.value = false) :
    fake.submit call =
      match checkSize left.heap left.value with
      | .error err => (.error err.caught, ⟨left.stateGraph, cloned⟩)
      | .ok () => (.ok left.valueGraph, ⟨left.stateGraph, cloned⟩) := by
  have passes :
      rejectIfRpcStub left.constructorName left.value = .ok () := by
    simp [rejectIfRpcStub, noStub]
  simp only [submit, ran, cloned, ↓reduceDIte, passes]

/-- A value that is no stub is simulated if it and its pair are sent. -/
theorem submit_agrees_iff_of_cloned
    {platform : ActorPlatform}
    {fake : ActorFake platform}
    {call : SubmitCall}
    {left : LeftBehind}
    (ran : call.applied fake.state = .returns left)
    (cloned : platform.clones left.stateGraph = true)
    (noStub : isRpcStub left.constructorName left.value = false) :
    ((fake.submit call).1 = (platform.outcome call.applied fake.state).1 ∧
        (platform.outcome call.applied fake.state).2 =
          (fake.submit call).2.state.val) ↔
      checkSize left.heap left.value = .ok () ∧
        platform.sends left = true ∧
          checkSize left.pairHeap (.reference none) = .ok () := by
  rw [ActorFake.submit_of_cloned ran cloned noStub]
  cases sized : checkSize left.heap left.value with
  | error err =>
      obtain ⟨bytes, large, rfl⟩ := caught_of_checkSize sized
      refine iff_of_false (fun both => ?_) nofun
      cases sent : platform.sends left with
      | false =>
          rw [ActorPlatform.outcome_rejects
            (ActorPlatform.isolateSubmit_unsent ran noStub sent)] at both
          exact
            ActorPlatform.caught_native_ne _ _ _
              (Except.error.inj both.1).symm
      | true =>
          rw [ActorPlatform.outcome_sent ran noStub sent] at both
          cases pairSized : checkSize left.pairHeap (.reference none) with
          | error err =>
              obtain ⟨pairBytes, -, rfl⟩ := caught_of_checkSize pairSized
              simp only [pairSized] at both
              exact
                ActorPlatform.caught_tooLarge_ne _ large
                  (Except.error.inj both.1).symm
          | ok =>
              simp [pairSized, cloned] at both
  | ok =>
      cases sent : platform.sends left with
      | false =>
          rw [ActorPlatform.outcome_rejects
            (ActorPlatform.isolateSubmit_unsent ran noStub sent)]
          exact iff_of_false nofun nofun
      | true =>
          rw [ActorPlatform.outcome_sent ran noStub sent]
          cases pairSized : checkSize left.pairHeap (.reference none) with
          | error err => exact iff_of_false nofun nofun
          | ok => simp [cloned]

/-- A submit has the same answer and state exactly under the condition. -/
theorem submit_agrees_iff
    {platform : ActorPlatform}
    (fake : ActorFake platform)
    (call : SubmitCall) :
    ((fake.submit call).1 = (platform.outcome call.applied fake.state).1 ∧
        (platform.outcome call.applied fake.state).2 =
          (fake.submit call).2.state.val) ↔
      (call.applied fake.state).IsSimulated platform := by
  cases ran : call.applied fake.state with
  | throws err =>
      rw [ActorPlatform.outcome_rejects
        (ActorPlatform.isolateSubmit_throws ran)]
      simp [ActorFake.submit, ran, FunctionRun.IsSimulated]
  | returns left =>
      by_cases cloned : platform.clones left.stateGraph = true
      · cases stub : isRpcStub left.constructorName left.value with
        | true =>
            rw [ActorPlatform.outcome_rejects
              (ActorPlatform.isolateSubmit_stub ran stub)]
            refine iff_of_false (fun both => ?_) (fun fits => ?_)
            · have same := both.1
              simp only [ActorFake.submit, ran, cloned, ↓reduceDIte,
                rejectIfRpcStub, stub, ↓reduceIte, Except.error.injEq]
                at same
              exact ActorPlatform.caught_stub_ne _ same.symm
            · cases stub.symm.trans fits.2.1
        | false =>
            rw [submit_agrees_iff_of_cloned ran cloned stub]
            simp only [FunctionRun.IsSimulated, cloned, stub, true_and]
      · refine iff_of_false (fun both => ?_) (fun fits => cloned fits.1)
        have same := both.1
        simp only [ActorFake.submit, ran, cloned] at same
        exact
          ActorPlatform.outcome_ne_dataCloneError call.applied _ _ same.symm

/-! ## One submit in production -/

namespace ProductionActor

variable {platform : ActorPlatform}
variable {options : ActorOptions platform}
variable {call : SubmitCall}

/-- A handle that is ready runs its function on the state of the actor. -/
theorem state_ready
    (actor : ProductionActor)
    (persisted : Option StateGraph) :
    (actor.ready options).persisted.getD .empty =
        actor.state options.initialState ∧
      ({ actor.ready options with persisted := persisted }).state
          options.initialState =
        persisted.getD .empty := by
  obtain ⟨held, initialized, believes⟩ := actor
  cases believes <;> cases initialized <;> exact ⟨rfl, rfl⟩

/-- Readiness leaves the state of the actor. -/
theorem state_of_ready (actor : ProductionActor) :
    (actor.ready options).state options.initialState =
      actor.state options.initialState := by
  obtain ⟨held, initialized, believes⟩ := actor
  cases believes <;> cases initialized <;> rfl

/-- What reaches the object comes to its outcome there. -/
theorem actorSubmit_outcome
    (actor : ProductionActor)
    (fn : AppliedFunction) :
    settle platform.runtime.numerics
          (.resolved
            (platform.actorSubmit fn (actor.ready options).persisted).1) =
        some (platform.outcome fn (actor.state options.initialState)).1 ∧
      ({ actor.ready options with
          persisted :=
            (platform.actorSubmit fn
              (actor.ready options).persisted).2 }).state
          options.initialState =
        (platform.outcome fn (actor.state options.initialState)).2 := by
  obtain ⟨read, -⟩ := @state_ready platform options actor none
  rw [(@state_ready platform options actor _).2, ← read]
  generalize (actor.ready options).persisted = persisted
  unfold ActorPlatform.actorSubmit ActorPlatform.outcome
  cases platform.runActor fn (persisted.getD .empty) with
  | error err => exact ⟨rfl, rfl⟩
  | ok left =>
      dsimp only
      split
      · exact ⟨rfl, rfl⟩
      · exact ⟨rfl, rfl⟩

/-- The attempt of a call reaches the object. -/
def reaches
    (platform : ActorPlatform)
    (call : SubmitCall)
    (opts : DispatchOptions) : Bool :=
  0 < (call.dispatch platform opts ()).made.length &&
    platform.sendsArguments call.args

/-- What a prepared call is answered, and the state that it leaves. -/
theorem submit_of_prepared
    {fnSource : String}
    {opts : DispatchOptions}
    (prepared : call.prepare platform options = .ok (fnSource, opts))
    (actor : ProductionActor) :
    (actor.submit platform options call).1 =
        (match (call.dispatch platform opts ()).ended with
        | .resolved () =>
            some
              (platform.outcome (platform.evaluates fnSource call.args)
                (actor.state options.initialState)).1
        | ended =>
            (ended.thrown? platform.runtime.numerics).map Except.error) ∧
      (actor.submit platform options call).2.state options.initialState =
        if reaches platform call opts then
          (platform.outcome (platform.evaluates fnSource call.args)
            (actor.state options.initialState)).2
        else
          actor.state options.initialState := by
  obtain ⟨answered, left⟩ :=
    @actorSubmit_outcome platform options actor
      (platform.evaluates fnSource call.args)
  unfold submit reaches
  rw [prepared]
  dsimp only
  generalize
    platform.actorSubmit (platform.evaluates fnSource call.args)
      (actor.ready options).persisted = both at answered left ⊢
  obtain ⟨answer, persisted⟩ := both
  obtain ⟨made, ended⟩ :=
    @SubmitCall.dispatch_map platform call _ opts answer
  constructor
  · rw [ended]
    cases (call.dispatch platform opts ()).ended with
    | resolved => exact answered
    | _ => rfl
  · rw [made]
    split
    · exact left
    · exact actor.state_of_ready

/-- A plain call comes to the outcome of its text. -/
theorem submit_of_plain
    {fnSource : String}
    {opts : DispatchOptions}
    (plain : call.IsPlain platform options fnSource opts)
    (actor : ProductionActor) :
    (actor.submit platform options call).1 =
        some
          (platform.outcome (platform.evaluates fnSource call.args)
            (actor.state options.initialState)).1 ∧
      (actor.submit platform options call).2.state options.initialState =
        (platform.outcome (platform.evaluates fnSource call.args)
          (actor.state options.initialState)).2 := by
  have resolved := (SubmitCall.resolved_dispatch_iff plain.prepared).mpr plain
  obtain ⟨answered, left⟩ := submit_of_prepared plain.prepared actor
  have reached : reaches platform call opts = true := by
    unfold reaches
    rw [plain.sendable, SubmitCall.dispatch,
      length_made_of_resolved resolved]
    rfl
  rw [resolved] at answered
  rw [if_pos reached] at left
  exact ⟨answered, left⟩

/-- A refused call is answered with its error, whatever its text leaves. -/
theorem submit_of_refused
    {caught : Caught}
    (refused : call.refusal platform options = some caught)
    (actor : ProductionActor) :
    (actor.submit platform options call).1 = some (.error caught) ∧
      ((actor.submit platform options call).2.state options.initialState =
          actor.state options.initialState ∨
        ∃ fnSource opts,
          call.prepare platform options = .ok (fnSource, opts) ∧
            (actor.submit platform options call).2.state
                options.initialState =
              (platform.outcome (platform.evaluates fnSource call.args)
                (actor.state options.initialState)).2) := by
  unfold SubmitCall.refusal at refused
  cases prepared : call.prepare platform options with
  | error err =>
      rw [prepared] at refused
      cases refused
      unfold submit
      rw [prepared]
      exact ⟨rfl, .inl actor.state_of_ready⟩
  | ok both =>
      obtain ⟨fnSource, opts⟩ := both
      rw [prepared] at refused
      dsimp only at refused
      obtain ⟨answered, left⟩ := submit_of_prepared prepared actor
      constructor
      · rw [answered]
        generalize (call.dispatch platform opts ()).ended = ended at refused ⊢
        cases ended with
        | resolved => cases refused
        | _ => exact congrArg (Option.map Except.error) refused
      · split at left
        · exact .inr ⟨fnSource, opts, rfl, left⟩
        · exact .inl left

/-- A call that is answered is plain or refused. -/
theorem plain_or_refused
    {actor : ProductionActor}
    (answered : (actor.submit platform options call).1.isSome = true) :
    (∃ fnSource opts, call.IsPlain platform options fnSource opts) ∨
      ∃ caught, call.refusal platform options = some caught := by
  unfold SubmitCall.refusal
  cases prepared : call.prepare platform options with
  | error err => exact .inr ⟨_, rfl⟩
  | ok both =>
      obtain ⟨fnSource, opts⟩ := both
      rw [(submit_of_prepared prepared actor).1] at answered
      cases ended : (call.dispatch platform opts ()).ended with
      | resolved =>
          exact
            .inl
              ⟨fnSource, opts,
                (SubmitCall.resolved_dispatch_iff prepared).mp ended⟩
      | pending =>
          rw [ended] at answered
          cases answered
      | _ =>
          rw [ended] at answered
          rw [Option.isSome_map] at answered
          obtain ⟨caught, thrown⟩ := Option.isSome_iff_exists.mp answered
          refine .inr ⟨caught, ?_⟩
          dsimp only
          rw [ended]
          exact thrown

end ProductionActor

/-- What the fake throws after its function has returned is its own. -/
theorem ActorFake.isReturnError_of_submit
    {platform : ActorPlatform}
    {fake : ActorFake platform}
    {call : SubmitCall}
    {left : LeftBehind}
    {caught : Caught}
    (ran : call.applied fake.state = .returns left)
    (failed : (fake.submit call).1 = .error caught) :
    caught.IsReturnError := by
  unfold submit at failed
  rw [ran] at failed
  dsimp only at failed
  split at failed
  · split at failed
    next err rejected =>
      unfold rejectIfRpcStub at rejected
      split at rejected
      · cases rejected
        cases failed
        exact .stub
      · cases rejected
    next =>
      split at failed
      next err tooLarge =>
        obtain ⟨bytes, -, rfl⟩ := caught_of_checkSize tooLarge
        cases failed
        exact .tooLarge _
      next => cases failed
  · cases failed
    exact .dataClone _

/-- A refused submit is simulated if its function throws the same error. -/
theorem submit_agrees_iff_of_refused
    {platform : ActorPlatform}
    {options : ActorOptions platform}
    {actor : ProductionActor}
    {fake : ActorFake platform}
    {call : SubmitCall}
    {caught : Caught}
    (same : actor.state options.initialState = fake.state.val)
    (closureFree : call.IsClosureFree platform)
    (refused : call.refusal platform options = some caught) :
    ((fake.submit call).1 = .error caught ∧
        (actor.submit platform options call).2.state options.initialState =
          (fake.submit call).2.state.val) ↔
      ∃ err,
        call.applied fake.state = .throws err ∧ err.caught = caught := by
  cases ran : call.applied fake.state with
  | returns left =>
      refine iff_of_false (fun both => ?_) nofun
      exact
        SubmitCall.not_isReturnError_of_refusal refused
          (ActorFake.isReturnError_of_submit ran both.1)
  | throws err =>
      have unchanged :
          (actor.submit platform options call).2.state options.initialState =
            fake.state.val := by
        rcases (ProductionActor.submit_of_refused refused actor).2 with
          stays | ⟨fnSource, opts, prepared, left⟩
        · exact stays.trans same
        · have text :=
            closureFree fnSource (SubmitCall.serialized_of_prepare prepared)
          rw [left, text, same]
          have thrown : call.fn.run call.args fake.state = .throws err := ran
          rw [ActorPlatform.outcome_rejects
            (ActorPlatform.isolateSubmit_throws thrown)]
      have answered :
          fake.submit call = (.error err.caught, fake) := by
        unfold ActorFake.submit
        rw [ran]
      rw [answered, unchanged]
      simp

/-- A submit that settles is simulated exactly under the condition. -/
theorem submit_isSimulated_iff
    {platform : ActorPlatform}
    {options : ActorOptions platform}
    {pair : ActorPair platform}
    {call : SubmitCall}
    {answer : Except Caught RootedGraph}
    (same : pair.actor.state options.initialState = pair.fake.state.val)
    (closureFree : call.IsClosureFree platform)
    (answered :
      (pair.actor.submit platform options call).1 = some answer) :
    ((pair.fake.submit call).1 = answer ∧
        (pair.actor.submit platform options call).2.state
            options.initialState =
          (pair.fake.submit call).2.state.val) ↔
      pair.IsSimulated options (.submit call) := by
  unfold ActorPair.IsSimulated
  rcases @ProductionActor.plain_or_refused platform options _ _
      (Option.isSome_iff_exists.mpr ⟨answer, answered⟩) with
    ⟨fnSource, opts, plain⟩ | ⟨caught, refused⟩
  · obtain ⟨comes, left⟩ := ProductionActor.submit_of_plain plain pair.actor
    have text :
        platform.evaluates fnSource call.args = call.applied := by
      rw [closureFree fnSource
        (SubmitCall.serialized_of_prepare plain.prepared)]
      rfl
    rw [text, same] at comes left
    cases comes.symm.trans answered
    rw [left, submit_agrees_iff pair.fake call]
    constructor
    · exact fun simulated => .inl ⟨⟨fnSource, opts, plain⟩, simulated⟩
    · rintro (⟨-, simulated⟩ | ⟨caught, err, refused, -⟩)
      · exact simulated
      · rw [plain.refusal] at refused
        cases refused
  · cases (ProductionActor.submit_of_refused refused pair.actor).1.symm.trans
      answered
    rw [submit_agrees_iff_of_refused same closureFree refused]
    constructor
    · rintro ⟨err, thrown⟩
      exact .inr ⟨caught, err, refused, thrown⟩
    · rintro (⟨⟨fnSource, opts, plain⟩, -⟩ | ⟨other, err, again, thrown⟩)
      · rw [plain.refusal] at refused
        cases refused
      · cases refused.symm.trans again
        exact ⟨err, thrown⟩

/-! ## Whole runs -/

namespace ActorPair

variable {platform : ActorPlatform}

/-- A call has the same answer and state exactly under the condition. -/
theorem agrees_of_step_iff
    {options : ActorOptions platform}
    {pair next : ActorPair platform}
    {request : ActorRequest}
    (stepped : pair.step options request = some next)
    (closureFree : request.IsClosureFree platform)
    (agrees : pair.Agrees options) :
    next.Agrees options ↔ pair.IsSimulated options request := by
  cases request with
  | submit call =>
      obtain ⟨answer, answered, made⟩ := Option.map_eq_some_iff.mp stepped
      have settled :
          next =
            { fake := (pair.fake.submit call).2
              actor := (pair.actor.submit platform options call).2
              ofFake := pair.ofFake ++ [(pair.fake.submit call).1]
              ofActor := pair.ofActor ++ [answer] } :=
        made.symm
      refine
        Iff.trans ?_
          (submit_isSimulated_iff agrees.state closureFree answered)
      rw [settled]
      constructor
      · rintro ⟨answers, state⟩
        rw [agrees.answers] at answers
        exact
          ⟨(List.cons.inj (List.append_cancel_left answers)).1, state⟩
      · rintro ⟨answer, state⟩
        refine ⟨?_, state⟩
        rw [agrees.answers, answer]
  | close =>
      cases stepped
      constructor
      · exact fun closed => closed.state
      · exact fun empty => ⟨agrees.answers, empty⟩

/--
In every run whose functions have no closures and whose calls meet the
condition, the fake and the production actor have given the same answers and are
left with the same state.  A call without a closure keeps it so exactly under
the condition.
-/
theorem agrees_of_isSimulated
    (options : ActorOptions platform)
    (requests : List ActorRequest)
    (final : ActorPair platform) :
    (GuardedRun (step options)
        (fun pair request =>
          request.IsClosureFree platform ∧ pair.IsSimulated options request)
        (opened options) requests final →
      final.Agrees options) ∧
      ∀ request next,
        final.step options request = some next →
        request.IsClosureFree platform →
        final.Agrees options →
        (next.Agrees options ↔ final.IsSimulated options request) := by
  refine ⟨fun run => ?_, fun request next stepped closureFree agrees =>
    agrees_of_step_iff stepped closureFree agrees⟩
  have initially : (opened options).Agrees options := ⟨rfl, rfl⟩
  exact
    run.invariant
      (fun guarded stepped agrees =>
        (agrees_of_step_iff stepped guarded.1 agrees).mpr guarded.2)
      initially

/-- A call that is plain or refused is answered. -/
theorem exists_step
    {options : ActorOptions platform}
    {call : SubmitCall}
    (pair : ActorPair platform)
    (comes :
      (∃ fnSource opts, call.IsPlain platform options fnSource opts) ∨
        ∃ caught, call.refusal platform options = some caught) :
    ∃ next,
      pair.step options (.submit call) = some next ∧
        next.ofActor.length = pair.ofActor.length + 1 := by
  have answered :
      ∃ answer, (pair.actor.submit platform options call).1 = some answer := by
    rcases comes with ⟨fnSource, opts, plain⟩ | ⟨caught, refused⟩
    · exact ⟨_, (ProductionActor.submit_of_plain plain pair.actor).1⟩
    · exact ⟨_, (ProductionActor.submit_of_refused refused pair.actor).1⟩
  obtain ⟨answer, answered⟩ := answered
  refine
    ⟨_, Option.map_eq_some_iff.mpr ⟨answer, answered, rfl⟩, ?_⟩
  exact List.length_append

/-- What a function that sets a count and returns it leaves. -/
def countLeft : LeftBehind where
  count := 1
  heap _ := .object [("count", .number (.finite "1"))]
  constructorName _ := none
  state := ⟨0, Nat.zero_lt_one⟩
  value := .number (.finite "1")

/-- A function that sets a count and returns it. -/
def counts : UserFunction where
  source := "(state) => (state.count = 1)"
  name := "counts"
  run _ _ := .returns countLeft

/-- A function that throws an error which is named as the library names it. -/
def fails : UserFunction where
  source :=
    "() => Promise.reject(((e) => (e.name = 'ExecutionError', e))(" ++
      "new Error('no')))"
  name := "fails"
  run _ _ := .throws (.error "ExecutionError" "no" none none)

/-- A function that throws an error like that of its token. -/
def stops : UserFunction where
  source :=
    "() => Promise.reject(((e) => (e.name = 'CancelledError', e))(" ++
      "new Error('Cancelled: stop')))"
  name := "stops"
  run _ _ := .throws (.error "CancelledError" "Cancelled: stop" none none)

/-- A function that returns its state. -/
def returnsState : UserFunction where
  source := "(state) => state"
  name := "returnsState"
  run _ state :=
    .returns
      { count := state.count
        heap := state.heap
        constructorName := fun _ => none
        state := state.root
        value := .reference state.root }

/-- The platform knows these texts; an RPC takes whatever it is given. -/
def dataOnly : ActorPlatform where
  runtime := wholeNumbers
  evaluates fnSource :=
    match [counts, fails, stops, returnsState].find? (·.source == fnSource) with
    | some fn => fn.run
    | none => fun _ _ => .throws (.error "SyntaxError" "" none none)
  clones state :=
    (List.finRange state.count).all fun object =>
      (state.heap object).values.all fun value =>
        match value with
        | .function | .symbol => false
        | _ => true
  clones_empty := rfl
  sendsArguments _ := true
  sends _ := true
  dataCloneMessage := "The object could not be cloned."
  dataCloneMessage_ne := by decide

/-- No option limits the submits. -/
def unlimited (initialState : ClonedState dataOnly) : ActorOptions dataOnly where
  initialState := initialState
  timeout := none
  retries := none

/-- The state `{}`. -/
def emptySeed : ClonedState dataOnly := ⟨.empty, rfl⟩

/-- The state `{ list: [] }`. -/
def listSeed : ClonedState dataOnly :=
  ⟨{ count := 2
     heap := fun object =>
       if object.val = 0 then
         .object [("list", .reference ⟨1, Nat.one_lt_two⟩)]
       else
         .array []
     root := ⟨0, Nat.two_pos⟩ },
    rfl⟩

/-- A call without options. -/
def callOf (fn : UserFunction) : SubmitCall where
  fn := fn
  args := []
  opts :=
    { timeout := none
      retries := none
      deadline := none
      deadlineMs := none
      cancel := false }
  now := 0
  attempt := { fired := none, expired := false, first := none }

/-- A call whose token has fired. -/
def stoppedCallOf (fn : UserFunction) : SubmitCall :=
  { callOf fn with
    opts := { (callOf fn).opts with cancel := true }
    attempt := { fired := some (some "stop"), expired := false, first := none } }

/-- The options of a dispatch without limits. -/
def noLimits (cancel : Bool) : DispatchOptions where
  timeout := none
  retries := some (.typed (.finite 0))
  cancel := cancel
  deadlineEpochMs := none

/-- One attempt is allowed. -/
theorem allowed_noLimits :
    (JsDouble.ofNat 0).lessThan
        (dataOnly.runtime.numerics.plus 1 (.finite 0)) =
      true := by
  decide +kernel

/-- A function whose text is serialized as it is, and known to the platform. -/
structure IsKnown (fn : UserFunction) : Prop where
  kept : serializeFunction (.function fn.source fn.name) = .ok fn.source
  known : dataOnly.evaluates fn.source = fn.run

namespace IsKnown

variable {fn : UserFunction}

/-- Such a function has no closure. -/
theorem isClosureFree
    (isKnown : IsKnown fn)
    {call : SubmitCall}
    (same : call.fn = fn) :
    call.IsClosureFree dataOnly := by
  subst same
  intro fnSource serialized
  cases isKnown.kept.symm.trans serialized
  exact isKnown.known

/-- A call of it without options is plain. -/
theorem isPlain
    (isKnown : IsKnown fn)
    (initialState : ClonedState dataOnly) :
    (callOf fn).IsPlain dataOnly (unlimited initialState) fn.source
      (noLimits false) where
  prepared := by
    unfold SubmitCall.prepare
    simp only [callOf, isKnown.kept]
    rfl
  sendable := rfl
  answers :=
    { allowed := ⟨_, rfl, allowed_noLimits⟩
      silent := nofun
      inTime := fun _ => rfl
      first := nofun }

/-- A call of it with a token that has fired is refused. -/
theorem refusal (isKnown : IsKnown fn) :
    (stoppedCallOf fn).refusal dataOnly (unlimited emptySeed) =
      some (.error "CancelledError" "Cancelled: stop") := by
  have prepared :
      (stoppedCallOf fn).prepare dataOnly (unlimited emptySeed) =
        .ok (fn.source, noLimits true) := by
    unfold SubmitCall.prepare
    simp only [stoppedCallOf, callOf, isKnown.kept]
    rfl
  unfold SubmitCall.refusal
  rw [prepared]
  change
    (dispatchLoop _ _ 0 none none).ended.thrown? dataOnly.runtime.numerics =
      _
  unfold dispatchLoop
  rw [if_pos allowed_noLimits]
  rfl

end IsKnown

theorem agrees_countsAndFails :
    ∃ final : ActorPair dataOnly,
      final.ofActor.length = 3 ∧ final.Agrees (unlimited emptySeed) := by
  have countsKnown : IsKnown counts := ⟨by decide +kernel, rfl⟩
  have failsKnown : IsKnown fails := ⟨by decide +kernel, rfl⟩
  have stopsKnown : IsKnown stops := ⟨by decide +kernel, rfl⟩
  have failsAlike :
      (Thrown.error "ExecutionError" "no" none none).caught =
        (marshalError dataOnly.globals
          (Thrown.error "ExecutionError" "no" none
            none).asRejection).atCaller.caught := by
    decide
  obtain ⟨counted, countStep, one⟩ :=
    exists_step (opened (unlimited emptySeed))
      (.inl ⟨_, _, countsKnown.isPlain emptySeed⟩)
  obtain ⟨failed, failStep, two⟩ :=
    exists_step counted (.inl ⟨_, _, failsKnown.isPlain emptySeed⟩)
  obtain ⟨stopped, stopStep, three⟩ :=
    exists_step failed (.inr ⟨_, stopsKnown.refusal⟩)
  refine
    ⟨_, ?_,
      (agrees_of_isSimulated (unlimited emptySeed)
          [.submit (callOf counts), .submit (callOf fails),
            .submit (stoppedCallOf stops), .close]
          _).1
        (.cons
          ⟨countsKnown.isClosureFree rfl,
            .inl
              ⟨⟨_, _, countsKnown.isPlain emptySeed⟩, rfl, rfl, rfl, rfl,
                rfl⟩⟩
          countStep
          (.cons
            ⟨failsKnown.isClosureFree rfl,
              .inl ⟨⟨_, _, failsKnown.isPlain emptySeed⟩, failsAlike⟩⟩
            failStep
            (.cons
              ⟨stopsKnown.isClosureFree rfl,
                .inr ⟨_, _, stopsKnown.refusal, rfl, rfl⟩⟩
              stopStep (.cons ⟨trivial, rfl⟩ rfl .nil))))⟩
  rw [three, two, one]
  rfl

/-- The number of objects in an answer. -/
def answerCount : Except Caught RootedGraph → Nat
  | .ok answer => answer.count
  | .error _ => 0

/-- After a close the fake runs on `{}`, and the actor on its initial state. -/
theorem not_agrees_listSeed :
    ¬ ∀ (platform : ActorPlatform) (options : ActorOptions platform)
        (requests : List ActorRequest) (final : ActorPair platform),
        (∀ request ∈ requests, request.IsClosureFree platform) →
        Run (step options) (opened options) requests final →
        final.Agrees options := by
  intro agrees
  have returnsKnown : IsKnown returnsState := ⟨by decide +kernel, rfl⟩
  have closureFree :
      ∀ request ∈ [ActorRequest.close, .submit (callOf returnsState)],
        request.IsClosureFree dataOnly := by
    simp only [List.forall_mem_cons, List.not_mem_nil, false_implies,
      implies_true, and_true]
    exact ⟨trivial, returnsKnown.isClosureFree rfl⟩
  have answered :=
    (ProductionActor.submit_of_plain (returnsKnown.isPlain listSeed)
      ProductionActor.fresh.close).1
  have answers :=
    (agrees dataOnly (unlimited listSeed)
      [.close, .submit (callOf returnsState)] _ closureFree
      (.cons trivial rfl
        (.cons trivial
          (Option.map_eq_some_iff.mpr ⟨_, answered, rfl⟩) .nil))).answers
  exact absurd (congrArg (List.map answerCount) answers) (by decide)

end ActorPair

end CloudflareParallel
