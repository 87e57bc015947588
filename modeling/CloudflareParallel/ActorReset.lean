import CloudflareParallel.ActorHandles
import CloudflareParallel.ActorSerializability

namespace CloudflareParallel

open LabelledRuns

/-!
# When a close resets an actor for every handle

The first submit after a close waits until it runs; what it needs meanwhile is
that storage reads the initial state, or is still to be initialized by it.
Three kinds of steps can break this: its own start through a handle that missed
the close, a stale submit that settles, and another close.
-/

section

variable {Handle : Type}

/-- A first submit after a close that has not run yet. -/
def ActorWorld.Awaits
    (world : ActorWorld Handle)
    (submit : HandleSubmit Handle) : Prop :=
  (∃ id, world.submits id = some submit) ∧
    submit.afterClose = true ∧ submit.phase ≠ .begun

/-- What a submit would read now. -/
def ActorWorld.reads (world : ActorWorld Handle) : JsValue :=
  readActorState world.object.persisted

/--
The condition on a step.  A first submit after a close starts while storage
reads the initial state, or is empty and its handle knows so; while one waits,
no submit settles with another state, unless storage is empty and the waiting
one is still to initialize it; and no close comes between its initialization
and its run.
-/
def KeepsReset
    (self : ActorObject)
    (seed : JsValue)
    (world : ActorWorld Handle) : HandleEvent Handle → Prop
  | .start handle _ =>
      world.closedSince = true →
      world.reads = seed ∨
        (world.believes handle = false ∧ world.initialized = false)
  | .settle callId =>
      ∀ submit ∈ world.object.inFlight, ∀ newState value,
        submit.call.id = callId →
        self.runActor callId (actorRunnerCall self.env submit.call.req)
            submit.state =
          .ok (newState, value) →
        ∀ waiting,
          world.Awaits waiting →
          readActorState (some newState) = seed ∨
            (waiting.phase = .initializing ∧ world.initialized = false)
  | .closeRuns _ =>
      ∀ waiting,
        world.Awaits waiting →
        waiting.phase = .initializing ∨ readActorState none = seed
  | _ => True

/-- What a waiting first submit can rely on. -/
structure ResetPending
    (seed : JsValue)
    (world : ActorWorld Handle) : Prop where
  waiting :
    ∀ submit,
      world.Awaits submit →
      world.reads = seed ∨
        (submit.phase = .initializing ∧ world.initialized = false)
  reset : world.ResetForEveryHandle seed

/-- Reading a state that was read changes nothing. -/
theorem readActorState_readActorState (persisted : Option JsValue) :
    readActorState (some (readActorState persisted)) =
      readActorState persisted := by
  cases persisted with
  | none => rfl
  | some value => cases value <;> rfl

/-- Another phase of a submit leaves all others as they are. -/
theorem awaits_advance
    {world : ActorWorld Handle}
    {id : Nat}
    {submit other : HandleSubmit Handle}
    {phase : SubmitPhase}
    (waits : (world.advance id submit phase).Awaits other) :
    world.Awaits other ∨
      (other = { submit with phase := phase } ∧
        submit.afterClose = true ∧ phase ≠ .begun) := by
  obtain ⟨⟨otherId, found⟩, afterClose, notBegun⟩ := waits
  by_cases isSame : otherId = id
  · subst isSame
    simp only [ActorWorld.advance, Function.update_self,
      Option.some.injEq] at found
    subst found
    exact .inr ⟨rfl, afterClose, notBegun⟩
  · simp only [ActorWorld.advance, Function.update_of_ne isSame] at found
    exact .inl ⟨⟨otherId, found⟩, afterClose, notBegun⟩

/-- A started submit waits for storage that it can rely on. -/
theorem resetPending_start
    {seed : JsValue}
    {world : ActorWorld Handle}
    {handle : Handle}
    {req : ActorSubmitRequest}
    (guarded :
      world.closedSince = true →
      world.reads = seed ∨
        (world.believes handle = false ∧ world.initialized = false))
    (pending : ResetPending seed world) :
    ResetPending seed (world.start handle req) where
  waiting := by
    rintro submit ⟨⟨id, found⟩, afterClose, notBegun⟩
    by_cases isNew : id = world.started
    · subst isNew
      simp only [ActorWorld.start, Function.update_self,
        Option.some.injEq] at found
      subst found
      apply (guarded afterClose).imp_right
      rintro ⟨believes, empty⟩
      refine ⟨?_, empty⟩
      simp [believes]
    · simp only [ActorWorld.start, Function.update_of_ne isNew] at found
      exact pending.waiting submit ⟨⟨id, found⟩, afterClose, notBegun⟩
  reset := pending.reset

/-- After the initialization storage reads the seed if it was empty. -/
theorem resetPending_ensure
    {seed : JsValue}
    (isSeed : readActorState (some seed) = seed)
    {world : ActorWorld Handle}
    {id : Nat}
    {submit : HandleSubmit Handle}
    (found : world.submits id = some submit)
    (initializing : submit.phase = .initializing)
    (pending : ResetPending seed world) :
    ResetPending seed
      ((world.ensureInitialized seed).advance id submit .initialized) := by
  cases already : world.initialized with
  | true =>
      have same : world.ensureInitialized seed = world := if_pos already
      rw [same]
      refine { waiting := ?_, reset := pending.reset }
      intro other waits
      rcases awaits_advance waits with before | ⟨_, afterClose, _⟩
      · exact pending.waiting other before
      · have waited : world.Awaits submit :=
          ⟨⟨id, found⟩, afterClose, by rw [initializing]; decide⟩
        rcases pending.waiting submit waited with reads | ⟨_, empty⟩
        · exact .inl reads
        · rw [already] at empty
          cases empty
  | false =>
      have seeded : (world.ensureInitialized seed).reads = seed := by
        unfold ActorWorld.ensureInitialized ActorWorld.reads
        rw [already]
        exact (readActorState_readActorState (some seed)).trans isSeed
      refine { waiting := fun _ _ => .inl seeded, reset := ?_ }
      unfold ActorWorld.ensureInitialized
      rw [already]
      exact pending.reset

/-- A submit whose answer arrived waits as before. -/
theorem resetPending_advance
    {seed : JsValue}
    {world : ActorWorld Handle}
    {id : Nat}
    {submit : HandleSubmit Handle}
    (found : world.submits id = some submit)
    (initialized : submit.phase = .initialized)
    (pending : ResetPending seed world) :
    ResetPending seed (world.advance id submit .dispatching) where
  waiting := by
    intro other waits
    rcases awaits_advance waits with before | ⟨_, afterClose, _⟩
    · exact pending.waiting other before
    · have waited : world.Awaits submit :=
        ⟨⟨id, found⟩, afterClose, by rw [initialized]; decide⟩
      rcases pending.waiting submit waited with reads | ⟨initializing, _⟩
      · exact .inl reads
      · rw [initialized] at initializing
        cases initializing
  reset := pending.reset

/-- The first run of a submit reads what storage reads. -/
theorem resetPending_firstRun
    {seed : JsValue}
    {world : ActorWorld Handle}
    {id : Nat}
    {submit : HandleSubmit Handle}
    (found : world.submits id = some submit)
    (dispatching : submit.phase = .dispatching)
    (pending : ResetPending seed world) :
    ResetPending seed
      { (world.recordFirstRun submit).advance id submit .begun with
        object := world.object.begin submit.req } where
  waiting := by
    intro other waits
    have waits' :
        ((world.recordFirstRun submit).advance id submit .begun).Awaits
          other :=
      waits
    rcases awaits_advance waits' with before | ⟨_, _, notBegun⟩
    · exact pending.waiting other before
    · exact (notBegun rfl).elim
  reset := by
    intro run member afterClose
    rcases List.mem_append.mp member with before | isThis
    · exact pending.reset run before afterClose
    · cases List.mem_singleton.mp isThis
      have waited : world.Awaits submit :=
        ⟨⟨id, found⟩, afterClose, by rw [dispatching]; decide⟩
      rcases pending.waiting submit waited with reads | ⟨initializing, _⟩
      · exact reads
      · rw [dispatching] at initializing
        cases initializing

/-- A settling submit leaves storage as it is or to the waiting ones' liking. -/
theorem resetPending_settle
    {self : ActorObject}
    {seed : JsValue}
    {world : ActorWorld Handle}
    {callId : Nat}
    {object : ActorState}
    (guarded : KeepsReset self seed world (.settle callId))
    (settled : self.step world.object (.settle callId) = some object)
    (pending : ResetPending seed world) :
    ResetPending seed { world with object := object } where
  waiting := by
    intro waiting waits
    obtain ⟨submit, found, rfl⟩ := Option.map_eq_some_iff.mp settled
    have sameId : submit.call.id = callId := by
      simpa using List.find?_some found
    have member := List.mem_of_find?_eq_some found
    unfold ActorWorld.reads ActorState.finish
    split
    next newState value outcome =>
      rw [sameId] at outcome
      exact
        guarded submit member newState value sameId outcome waiting waits
    next err outcome =>
      exact pending.waiting waiting waits
  reset := pending.reset

/-- A close leaves storage empty for those that are still to initialize it. -/
theorem resetPending_close
    {seed : JsValue}
    {world : ActorWorld Handle}
    {handle : Handle}
    (guarded :
      ∀ waiting,
        world.Awaits waiting →
        waiting.phase = .initializing ∨ readActorState none = seed)
    (pending : ResetPending seed world) :
    ResetPending seed (world.close handle) where
  waiting waiting waits :=
    (guarded waiting waits).elim (fun initializing => .inr ⟨initializing, rfl⟩)
      .inl
  reset := pending.reset

variable [DecidableEq Handle]

/-- Every step that meets the condition leaves the waiting ones their state. -/
theorem resetPending_step
    {self : ActorObject}
    {seed : JsValue}
    (isSeed : readActorState (some seed) = seed)
    {world next : ActorWorld Handle}
    {event : HandleEvent Handle}
    (guarded : KeepsReset self seed world event)
    (stepped : self.handleStep seed world event = some next)
    (pending : ResetPending seed world) :
    ResetPending seed next := by
  cases event with
  | start handle req =>
      cases stepped
      exact resetPending_start guarded pending
  | ensureRuns id =>
      simp only [ActorObject.handleStep] at stepped
      split at stepped
      next submit found =>
        split at stepped
        next initializing =>
          cases stepped
          exact resetPending_ensure isSeed found initializing pending
        · cases stepped
      · cases stepped
  | ensureReturns id =>
      simp only [ActorObject.handleStep] at stepped
      split at stepped
      next submit found =>
        split at stepped
        next initialized =>
          cases stepped
          obtain ⟨waiting, reset⟩ :=
            resetPending_advance found initialized pending
          exact ⟨waiting, reset⟩
        · cases stepped
      · cases stepped
  | submitRuns id =>
      simp only [ActorObject.handleStep] at stepped
      split at stepped
      next submit found =>
        split at stepped
        next dispatching =>
          cases stepped
          exact resetPending_firstRun found dispatching pending
        next =>
          split at stepped
          · cases stepped
            exact ⟨pending.waiting, pending.reset⟩
          · cases stepped
      · cases stepped
  | settle callId =>
      obtain ⟨object, settled, rfl⟩ := Option.map_eq_some_iff.mp stepped
      exact resetPending_settle guarded settled pending
  | closeRuns handle =>
      cases stepped
      exact resetPending_close guarded pending
  | closeReturns handle =>
      simp only [ActorObject.handleStep] at stepped
      split at stepped
      · cases stepped
        exact ⟨pending.waiting, pending.reset⟩
      · cases stepped

omit [DecidableEq Handle] in
/-- New handles wait for nothing. -/
theorem resetPending_opened
    (seed : JsValue)
    (persisted : Option JsValue)
    (initialized : Bool) :
    ResetPending seed
      (ActorWorld.opened persisted initialized : ActorWorld Handle) where
  waiting submit waits := by
    obtain ⟨⟨id, found⟩, _⟩ := waits
    cases found
  reset run member := by
    cases member

/--
In every run whose steps meet the condition, each first submit after a completed
close first runs on the initial state, through whichever handle it came.
-/
theorem actorClose_resets
    {self : ActorObject}
    {initialState persisted : Option JsValue}
    {initialized : Bool}
    {events : List (HandleEvent Handle)}
    {final : ActorWorld Handle}
    (run :
      GuardedRun (self.handleStep (readActorState initialState))
        (KeepsReset self (readActorState initialState))
        (.opened persisted initialized) events final) :
    final.ResetForEveryHandle (readActorState initialState) := by
  have isSeed := readActorState_readActorState initialState
  have pending :=
    @GuardedRun.invariant _ _ _ _
      (ResetPending (readActorState initialState))
      (resetPending_step isSeed) _ _ _ run
      (resetPending_opened _ persisted initialized)
  exact pending.reset

end

/-- A submit through a handle that never submitted before, after a close. -/
theorem actorClose_resets_new_handle :
    ∃ final : ActorWorld Bool,
      Run (ActorObject.appendLog.handleStep emptyLog) (.opened none true)
          [ .closeRuns true, .closeReturns true, .start false .append,
            .ensureRuns 0, .ensureReturns 0, .submitRuns 0 ]
          final ∧
        final.firstRuns.length = 1 ∧ final.ResetForEveryHandle emptyLog := by
  refine ⟨_, .of_foldlM rfl, rfl, ?_⟩
  refine
    @actorClose_resets Bool _ .appendLog (some emptyLog) none true
      [ .closeRuns true, .closeReturns true, .start false .append,
        .ensureRuns 0, .ensureReturns 0, .submitRuns 0 ] _
      (.cons ?_ rfl (.cons trivial rfl (.cons ?_ rfl
        (.cons trivial rfl (.cons trivial rfl (.cons trivial rfl .nil))))))
  · rintro waiting ⟨⟨id, found⟩, _⟩
    cases found
  · exact fun _ => .inr ⟨rfl, rfl⟩

/--
The second handle closes the actor; the first one takes it for initialized
still, and its next submit runs on an empty object.
-/
theorem actorClose_missed_by_handle :
    ∃ final : ActorWorld Bool,
      Run (ActorObject.appendLog.handleStep emptyLog) (.opened none false)
          [ .start true .append, .ensureRuns 0, .ensureReturns 0,
            .submitRuns 0, .settle 0, .closeRuns false, .closeReturns false,
            .start true .append, .submitRuns 1 ]
          final ∧
        ¬ final.ResetForEveryHandle emptyLog := by
  refine ⟨_, .of_foldlM rfl, ?_⟩
  intro reset
  have ranOnSeed :=
    reset _ (List.mem_append_right _ (List.mem_singleton.mpr rfl)) rfl
  cases ranOnSeed

end CloudflareParallel
