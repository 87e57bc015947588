import CloudflareParallel.ActorCoordinator

namespace CloudflareParallel

open LabelledRuns SerialOrder

/-!
# When concurrent submits are serializable

A submit writes what its user function made of the state it read.  If that is
still the persisted state when the submit settles, its answer extends the
serial order of the earlier answers; if not, an update is lost.
-/

/--
The condition on a step: a submit that is about to settle successfully finds
the persisted state as it has read it.
-/
def ReadIsCurrent
    (self : ActorObject)
    (state : ActorState) : ActorEvent → Prop
  | .submit _ => True
  | .settle id =>
      ∀ submit ∈ state.inFlight,
        submit.call.id = id →
        (self.runActor id (actorRunnerCall self.env submit.call.req)
          submit.state).isOk →
        submit.state = readActorState state.persisted

/-- The answers so far are in a serial order already. -/
def InSerialOrder
    (self : ActorObject)
    (initial : Option JsValue)
    (state : ActorState) : Prop :=
  SerialRun self.behaviour initial state.successful state.persisted

/-- A settling submit whose read is current extends the serial order. -/
theorem inSerialOrder_finish
    {self : ActorObject}
    {initial : Option JsValue}
    {state : ActorState}
    {submit : InFlightSubmit}
    (current :
      (self.runActor submit.call.id
        (actorRunnerCall self.env submit.call.req) submit.state).isOk →
      submit.state = readActorState state.persisted)
    (serial : InSerialOrder self initial state) :
    InSerialOrder self initial (state.finish self submit) := by
  unfold InSerialOrder ActorState.finish
  split
  next newState value outcome =>
    have isCurrent : submit.state = readActorState state.persisted := by
      apply current
      rw [outcome]
      rfl
    have succeeded :
        self.behaviour submit.call state.persisted =
          .ok (some newState, value) := by
      rw [ActorObject.behaviour, ← isCurrent, outcome]
      rfl
    simpa [ActorState.successful] using serial.snoc succeeded
  next err outcome =>
    simpa [InSerialOrder, ActorState.successful, errorToFailedResult]
      using serial

/-- Every step that meets the condition keeps the answers in serial order. -/
theorem inSerialOrder_step
    {self : ActorObject}
    {initial : Option JsValue}
    {state next : ActorState}
    {event : ActorEvent}
    (current : ReadIsCurrent self state event)
    (stepped : self.step state event = some next)
    (serial : InSerialOrder self initial state) :
    InSerialOrder self initial next := by
  cases event with
  | submit req =>
      cases stepped
      exact serial
  | settle id =>
      obtain ⟨submit, found, rfl⟩ := Option.map_eq_some_iff.mp stepped
      have sameId : submit.call.id = id := by
        simpa using List.find?_some found
      have member := List.mem_of_find?_eq_some found
      apply inSerialOrder_finish _ serial
      intro succeeds
      rw [sameId] at succeeds
      exact current submit member sameId succeeds

/--
Actor updates are serializable in every run in which each submit that settles
successfully finds the persisted state as it has read it: the persisted state
and the values of the successful submits are those of a serial order of them.
-/
theorem actorSubmit_serializable
    {self : ActorObject}
    {initial : Option JsValue}
    {events : List ActorEvent}
    {final : ActorState}
    (run :
      GuardedRun self.step (ReadIsCurrent self)
        { persisted := initial } events final) :
    final.IsSerializable self initial := by
  have serial : InSerialOrder self initial final :=
    run.invariant inSerialOrder_step .nil
  exact serial.serializable

/-- An actor whose every submit appends a letter to its log and returns it. -/
def ActorObject.appendLog : ActorObject where
  env := []
  runActor _ _ state :=
    match state with
    | .object [("log", .string log)] =>
        .ok (.object [("log", .string (log ++ "x"))], .string (log ++ "x"))
    | _ => .error (.error "TypeError" "state has no log" none none)

/-- A submit of the appending function. -/
def ActorSubmitRequest.append : ActorSubmitRequest where
  fnSource := "(state) => (state.log += 'x')"
  fnHash := "0"
  args := []
  envelope := {
    deadlineEpochMs := 0
    signal := { cancelled := false }
  }

/-- An empty log. -/
def emptyLog : JsValue :=
  .object [("log", .string "")]

/-- What appending does to a log. -/
theorem behaviour_appendLog
    (call : ActorCall)
    (log : String) :
    ActorObject.appendLog.behaviour call
        (some (.object [("log", .string log)])) =
      .ok
        (some (.object [("log", .string (log ++ "x"))]),
          .string (log ++ "x")) :=
  rfl

/-- An actor whose submits append a letter; without one they throw. -/
def ActorObject.appendLetter : ActorObject where
  env := []
  runActor _ call state :=
    match call.input.args, state with
    | [.string letter], .object [("log", .string log)] =>
        .ok
          (.object [("log", .string (log ++ letter))], .string (log ++ letter))
    | _, _ =>
        .error
          (.error "TypeError"
            "Cannot read properties of undefined (reading 'at')" none none)

/-- A submit with these arguments. -/
def ActorSubmitRequest.letters (letters : List String) : ActorSubmitRequest :=
  { append with
    fnSource := "(state, letter) => (state.log += letter.at(0))"
    args := letters.map .string }

/--
The first submit has no letter and is in flight all the time; the second one
appends its letter, and only then does the third one read the log.
-/
def appendsBeside : List ActorEvent :=
  [ .submit (.letters []), .submit (.letters ["a"]), .settle 1,
    .submit (.letters ["b"]), .settle 0, .settle 2 ]

/-- The first submit fails, and the log has the letters of the others. -/
theorem actorSubmit_serializable_appendsBeside :
    ∃ final,
      Run ActorObject.appendLetter.step { persisted := some emptyLog }
          appendsBeside final ∧
        final.persisted = some (.object [("log", .string "ab")]) ∧
          final.IsSerializable .appendLetter (some emptyLog) := by
  refine ⟨_, .of_foldlM rfl, rfl, ?_⟩
  refine
    @actorSubmit_serializable .appendLetter (some emptyLog) appendsBeside _
      (.cons trivial rfl (.cons trivial rfl (.cons ?_ rfl
        (.cons trivial rfl (.cons ?_ rfl (.cons ?_ rfl .nil))))))
  · intro submit member isSecond _
    rcases List.mem_pair.mp member with rfl | rfl
    · cases isSecond
    · rfl
  · intro submit member isFirst succeeds
    rcases List.mem_pair.mp member with rfl | rfl
    · cases succeeds
    · cases isFirst
  · intro submit member _ _
    cases List.mem_singleton.mp member
    rfl

/-- In a serial order the second append returns two letters. -/
theorem second_append_value
    {order : List (ActorCall × JsValue)}
    {final : Option JsValue}
    (serial :
      SerialRun ActorObject.appendLog.behaviour (some emptyLog) order final)
    {entry : ActorCall × JsValue}
    (second : order[1]? = some entry) :
    entry.2 = .string "xx" := by
  cases serial with
  | nil =>
      cases second
  | cons firstSucceeded rest =>
      cases rest with
      | nil =>
          cases second
      | cons secondSucceeded rest =>
          rw [emptyLog, behaviour_appendLog, Except.ok.injEq,
            Prod.mk.injEq] at firstSucceeded
          rw [← firstSucceeded.1, behaviour_appendLog, Except.ok.injEq,
            Prod.mk.injEq] at secondSucceeded
          cases second
          exact secondSucceeded.2.symm

/--
Two submits that both read the empty log: the second write loses the first,
and both callers are told that the log has one letter.
-/
theorem actorSubmit_loses_update :
    ∃ final,
      Run ActorObject.appendLog.step { persisted := some emptyLog }
          [.submit .append, .submit .append, .settle 0, .settle 1] final ∧
        ¬ final.IsSerializable .appendLog (some emptyLog) := by
  refine ⟨_, .of_foldlM rfl, ?_⟩
  rintro ⟨order, sameCalls, serial⟩
  change List.Perm order
    [({ id := 0, req := .append }, .string "x"),
      ({ id := 1, req := .append }, .string "x")] at sameCalls
  have two : order.length = 2 := sameCalls.length_eq
  have member : order[1] ∈ order := List.getElem_mem _
  have value : order[1].2 = .string "xx" :=
    second_append_value serial (List.getElem?_eq_getElem _)
  rw [sameCalls.mem_iff] at member
  simp only [List.mem_cons, List.not_mem_nil, or_false] at member
  rcases member with isFirst | isSecond
  · rw [isFirst] at value
    simp at value
  · rw [isSecond] at value
    simp at value

end CloudflareParallel
