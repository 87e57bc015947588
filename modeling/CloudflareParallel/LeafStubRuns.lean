import CloudflareParallel.LeafStubs
import CloudflareParallel.Library.LabelledRuns

namespace CloudflareParallel

open KeyedTables LabelledRuns

/-!
# Runs of an instance that keeps stubs

What holds of the stubs and of the messages sent through them, whatever
fan-outs overlap at an instance and whatever fails.  The invariant is carried
through one lemma for each thing that can happen.
-/

/-! ## What is sent -/

/-- A `noop()` has been sent to the object. -/
def IsWarmed
    (sent : List SentMessage)
    (target : String) : Prop :=
  ∃ earlier ∈ sent, earlier.target = target ∧ earlier.message = .noop

/--
Messages, the latest first, that go through stubs of their targets.  An attempt
comes after a `noop()` to the object; a retry comes after the attempt before it
and goes through a stub that nothing was sent through.
-/
inductive SentInOrder : List SentMessage → Prop where
  | nil :
      SentInOrder []
  | noop {sent : List SentMessage} {stub : DurableObjectStub} :
      SentInOrder sent →
      SentInOrder
        ({ target := stub.name, message := .noop, stub := stub } :: sent)
  | first {sent : List SentMessage} {stub : DurableObjectStub} :
      SentInOrder sent →
      IsWarmed sent stub.name →
      SentInOrder
        ({ target := stub.name, message := .work 0, stub := stub } :: sent)
  | retry {sent : List SentMessage} {stub : DurableObjectStub}
      {attempt : Nat} :
      SentInOrder sent →
      IsWarmed sent stub.name →
      (∃ earlier ∈ sent,
        earlier.target = stub.name ∧ earlier.message = .work attempt) →
      attempt < MAX_TRANSIENT_RETRIES →
      (∀ earlier ∈ sent, earlier.stub.serial ≠ stub.serial) →
      SentInOrder
        ({ target := stub.name
           message := .work (attempt + 1)
           stub := stub } :: sent)

theorem IsWarmed.cons
    {sent : List SentMessage}
    {target : String}
    (warmed : IsWarmed sent target)
    (message : SentMessage) :
    IsWarmed (message :: sent) target := by
  obtain ⟨earlier, member, about⟩ := warmed
  exact ⟨earlier, List.mem_cons_of_mem message member, about⟩

/-! ## The invariant -/

/-- What has been sent for a dispatch. -/
structure PartDispatch.Follows
    (sent : List SentMessage)
    (dispatch : PartDispatch) : Prop where
  warmed : IsWarmed sent dispatch.target
  attempted :
    ∃ earlier ∈ sent,
      earlier.target = dispatch.target ∧
        earlier.message = .work dispatch.attempt
  remaining :
    dispatch.phase = .backingOff →
    dispatch.attempt < MAX_TRANSIENT_RETRIES

theorem PartDispatch.Follows.cons
    {sent : List SentMessage}
    {dispatch : PartDispatch}
    (follows : dispatch.Follows sent)
    (message : SentMessage) :
    dispatch.Follows (message :: sent) where
  warmed := follows.warmed.cons message
  attempted := by
    obtain ⟨earlier, member, about⟩ := follows.attempted
    exact ⟨earlier, List.mem_cons_of_mem message member, about⟩
  remaining := follows.remaining

namespace StubState

/-- The `noop()` calls to an object that have not failed. -/
def standingPrewarms
    (state : StubState)
    (target : String) : Nat :=
  state.prewarms.countP fun call => call.target = target && call.stands

/-- The stubs of an instance are in order. -/
structure StubsInOrder (state : StubState) : Prop where
  sentInOrder : SentInOrder state.sent
  named :
    ∀ name stub,
      OrderedMap.lookup state.stubs name = some stub →
      stub.name = name ∧ stub.serial < state.made
  old : ∀ message ∈ state.sent, message.stub.serial < state.made

/-- A name is kept exactly as long as a `noop()` to it stands. -/
structure PrewarmsFollow (state : StubState) : Prop where
  warmed : ∀ target ∈ state.prewarmed, IsWarmed state.sent target
  stands :
    ∀ target,
      state.standingPrewarms target =
        if target ∈ state.prewarmed then 1 else 0

/-- The invariant of an instance. -/
structure Follows (state : StubState) : Prop where
  stubs : state.StubsInOrder
  dispatches : ∀ dispatch ∈ state.dispatches, dispatch.Follows state.sent
  prewarms : state.PrewarmsFollow

/-- What getting a stub comes to. -/
theorem getLeafStub_spec
    {state : StubState}
    (inOrder : state.StubsInOrder)
    (leafName : String)
    (locationHint : Option LocationHint) :
    ∃ stub stubs made,
      state.getLeafStub leafName locationHint =
          (stub, { state with stubs := stubs, made := made }) ∧
        stub.name = leafName ∧
        stub.serial < made ∧
        state.made ≤ made ∧
        (∀ name other,
          OrderedMap.lookup stubs name = some other →
          other.name = name ∧ other.serial < made) ∧
        (∀ name ∈ OrderedMap.keys stubs,
          name = leafName ∨ name ∈ OrderedMap.keys state.stubs) ∧
        (OrderedMap.lookup state.stubs leafName = none →
          stub.serial = state.made) := by
  unfold getLeafStub
  cases found : OrderedMap.lookup state.stubs leafName with
  | some stub =>
      obtain ⟨isNamed, isOld⟩ := inOrder.named leafName stub found
      exact
        ⟨stub, state.stubs, state.made, rfl, isNamed, isOld, le_rfl,
          inOrder.named, fun _ => .inr, nofun⟩
  | none =>
      refine
        ⟨_, _, _, rfl, rfl, Nat.lt_succ_self _, Nat.le_succ _, ?_, ?_,
          fun _ => rfl⟩
      · intro name other isOther
        rw [OrderedMap.lookup_set] at isOther
        split at isOther
        next same =>
          cases isOther
          exact ⟨same, Nat.lt_succ_self _⟩
        next =>
          obtain ⟨isNamed, isOld⟩ := inOrder.named name other isOther
          exact ⟨isNamed, Nat.lt_succ_of_lt isOld⟩
      · intro name isKey
        exact (OrderedMap.mem_keys_set ..).mp isKey

/-- Dropping a stub keeps the order. -/
theorem StubsInOrder.drop
    {state : StubState}
    (inOrder : state.StubsInOrder)
    (leafName : String) :
    (state.dropStub leafName).StubsInOrder where
  sentInOrder := inOrder.sentInOrder
  named name stub found := by
    unfold dropStub at found
    rw [OrderedMap.lookup_delete] at found
    split at found
    next => cases found
    next => exact inOrder.named name stub found
  old := inOrder.old

/-- A message through the stub that is got for its target keeps the order. -/
theorem StubsInOrder.send
    {state : StubState}
    (inOrder : state.StubsInOrder)
    {target : String}
    {message : StubMessage}
    (locationHint : Option LocationHint)
    (allowed :
      ∀ stub : DurableObjectStub,
        stub.name = target →
        (OrderedMap.lookup state.stubs target = none →
          stub.serial = state.made) →
        SentInOrder
          ({ target := target, message := message, stub := stub } ::
            state.sent)) :
    (state.send target locationHint message).StubsInOrder := by
  obtain ⟨stub, stubs, made, got, isNamed, isOld, grows, named, -, fresh⟩ :=
    getLeafStub_spec inOrder target locationHint
  unfold StubState.send
  rw [got]
  refine { sentInOrder := allowed stub isNamed fresh, named := named, old := ?_ }
  intro earlier member
  rcases List.mem_cons.mp member with rfl | before
  · exact isOld
  · exact Nat.lt_of_lt_of_le (inOrder.old earlier before) grows

/-! ### Sending -/

section Sending

variable (state : StubState)
variable (target : String)
variable (locationHint : Option LocationHint)
variable (message : StubMessage)

@[simp]
theorem prewarmed_send :
    (state.send target locationHint message).prewarmed = state.prewarmed := by
  unfold StubState.send getLeafStub
  split <;> rfl

@[simp]
theorem prewarms_send :
    (state.send target locationHint message).prewarms = state.prewarms := by
  unfold StubState.send getLeafStub
  split <;> rfl

@[simp]
theorem dispatches_send :
    (state.send target locationHint message).dispatches =
      state.dispatches := by
  unfold StubState.send getLeafStub
  split <;> rfl

theorem sent_send :
    ∃ stub,
      (state.send target locationHint message).sent =
        { target := target, message := message, stub := stub } ::
          state.sent := by
  unfold StubState.send getLeafStub
  split <;> exact ⟨_, rfl⟩

theorem keys_send
    {name : String}
    (isKey :
      name ∈
        OrderedMap.keys (state.send target locationHint message).stubs) :
    name = target ∨ name ∈ OrderedMap.keys state.stubs := by
  unfold StubState.send getLeafStub at isKey
  split at isKey
  · exact .inr isKey
  · exact (OrderedMap.mem_keys_set ..).mp isKey

end Sending

/-- A name that is prewarmed stays so, and more is sent. -/
theorem PrewarmsFollow.send
    {state : StubState}
    (follows : state.PrewarmsFollow)
    (target : String)
    (locationHint : Option LocationHint)
    (message : StubMessage) :
    (state.send target locationHint message).PrewarmsFollow := by
  obtain ⟨stub, sent⟩ := state.sent_send target locationHint message
  refine { warmed := fun name isWarm => ?_, stands := fun name => ?_ }
  · rw [sent]
    rw [prewarmed_send] at isWarm
    exact (follows.warmed name isWarm).cons _
  · rw [standingPrewarms, prewarms_send, prewarmed_send]
    exact follows.stands name

/-! ### Fan-outs -/

/-- Prewarming an object keeps the invariant. -/
theorem follows_schedulePrewarm
    {state : StubState}
    (follows : state.Follows)
    (locationHint : Option LocationHint)
    (leafName : String) :
    (state.schedulePrewarm locationHint leafName).Follows := by
  unfold schedulePrewarm
  split
  next isWarm =>
    exact follows
  next isCold =>
    have inOrder : (state.addPrewarm leafName).StubsInOrder :=
      { sentInOrder := follows.stubs.sentInOrder
        named := follows.stubs.named
        old := follows.stubs.old }
    obtain ⟨stub, sent⟩ :=
      (state.addPrewarm leafName).sent_send leafName locationHint .noop
    change _ = _ :: state.sent at sent
    refine {
      stubs := inOrder.send locationHint fun stub isNamed _ => ?_
      dispatches := fun dispatch member => ?_
      prewarms := { warmed := fun name isWarm => ?_, stands := fun name => ?_ }
    }
    · subst isNamed
      exact .noop follows.stubs.sentInOrder
    · rw [dispatches_send] at member
      rw [sent]
      exact (follows.dispatches dispatch member).cons _
    · rw [prewarmed_send] at isWarm
      rw [sent]
      rcases Finset.mem_insert.mp isWarm with rfl | before
      · exact ⟨_, List.mem_cons_self, rfl, rfl⟩
      · exact (follows.prewarms.warmed name before).cons _
    · have before := follows.prewarms.stands name
      unfold standingPrewarms at before ⊢
      rw [prewarms_send, prewarmed_send]
      change List.countP _ (_ ++ _) = if name ∈ insert _ _ then 1 else 0
      rw [List.countP_append, before, List.countP_singleton]
      by_cases same : leafName = name
      · subst same
        simp [isCold, PrewarmCall.stands]
      · simp [same, Ne.symm same]

/-- A prewarmed object stays so while others are prewarmed. -/
theorem mem_prewarmed_foldl
    {locationHint : Option LocationHint}
    {leafNames : List String}
    {state : StubState}
    {name : String}
    (isWarm : name ∈ state.prewarmed ∨ name ∈ leafNames) :
    name ∈
      (leafNames.foldl (schedulePrewarm locationHint) state).prewarmed := by
  induction leafNames generalizing state with
  | nil =>
      exact isWarm.resolve_right List.not_mem_nil
  | cons leafName rest inductionHypothesis =>
      have added :
          (state.schedulePrewarm locationHint leafName).prewarmed =
            insert leafName state.prewarmed := by
        unfold schedulePrewarm
        split
        next already => exact (Finset.insert_eq_of_mem already).symm
        next => exact prewarmed_send ..
      refine inductionHypothesis ?_
      rw [added, Finset.mem_insert]
      rcases isWarm with before | isNew
      · exact .inl (.inr before)
      · rcases List.mem_cons.mp isNew with same | later
        · exact .inl (.inl same)
        · exact .inr later

/-- Prewarming objects keeps the invariant. -/
theorem follows_foldl_schedulePrewarm
    {locationHint : Option LocationHint}
    {leafNames : List String}
    {state : StubState}
    (follows : state.Follows) :
    (leafNames.foldl (schedulePrewarm locationHint) state).Follows := by
  induction leafNames generalizing state with
  | nil => exact follows
  | cons leafName rest inductionHypothesis =>
      exact
        inductionHypothesis (follows_schedulePrewarm follows locationHint _)

/-- Parts that have been warmed are dispatched. -/
theorem follows_foldl_startDispatch
    {locationHint : Option LocationHint}
    {targets : List String}
    {state : StubState}
    (follows : state.Follows)
    (warmed : ∀ target ∈ targets, IsWarmed state.sent target) :
    (targets.foldl (startDispatch locationHint) state).Follows := by
  induction targets generalizing state with
  | nil => exact follows
  | cons target rest inductionHypothesis =>
      have isWarmed := warmed target List.mem_cons_self
      obtain ⟨stub, sent⟩ :=
        (addDispatch locationHint state target).sent_send target locationHint
          (.work 0)
      change _ = _ :: state.sent at sent
      have inOrder :
          (addDispatch locationHint state target).StubsInOrder :=
        { sentInOrder := follows.stubs.sentInOrder
          named := follows.stubs.named
          old := follows.stubs.old }
      have prewarms :
          (addDispatch locationHint state target).PrewarmsFollow :=
        { warmed := follows.prewarms.warmed
          stands := follows.prewarms.stands }
      refine inductionHypothesis {
        stubs := inOrder.send locationHint fun stub isNamed _ => ?_
        dispatches := fun dispatch member => ?_
        prewarms := prewarms.send ..
      } fun later isLater => ?_
      · subst isNamed
        exact .first follows.stubs.sentInOrder isWarmed
      · unfold startDispatch at member ⊢
        rw [dispatches_send] at member
        rw [sent]
        rcases List.mem_append.mp member with before | isNew
        · exact (follows.dispatches dispatch before).cons _
        · rw [List.mem_singleton.mp isNew]
          exact {
            warmed := isWarmed.cons _
            attempted := ⟨_, List.mem_cons_self, rfl, rfl⟩
            remaining := nofun
          }
      · unfold startDispatch
        rw [sent]
        exact (warmed later (List.mem_cons_of_mem target isLater)).cons _

/-- A fan-out keeps the invariant. -/
theorem follows_fanOut
    {state : StubState}
    (follows : state.Follows)
    (parts : List (String × Nat))
    (locationHint : Option LocationHint) :
    (state.fanOut parts locationHint).Follows := by
  have warmed :=
    @follows_foldl_schedulePrewarm locationHint (parts.map Prod.fst) state
      follows
  refine follows_foldl_startDispatch warmed fun target isTarget => ?_
  refine warmed.prewarms.warmed target (mem_prewarmed_foldl (.inr ?_))
  obtain ⟨part, isPart, rfl⟩ := List.mem_map.mp isTarget
  exact List.mem_map_of_mem (List.mem_of_mem_filter isPart)

/-! ### Answers and retries -/

/-- A `noop()` that is settled keeps the invariant. -/
theorem follows_settlePrewarm
    {state : StubState}
    (follows : state.Follows)
    {index : Nat}
    {call : PrewarmCall}
    (found : state.prewarms[index]? = some call)
    (pending : call.arrived.isNone)
    (arrived : Bool) :
    (state.settlePrewarm index call arrived).Follows := by
  obtain ⟨inside, isCall⟩ := List.getElem?_eq_some_iff.mp found
  have stood : call.stands = true := by
    unfold PrewarmCall.stands
    rw [Option.isNone_iff_eq_none.mp pending]
    rfl
  refine {
    stubs :=
      { sentInOrder := follows.stubs.sentInOrder
        named := follows.stubs.named
        old := follows.stubs.old }
    dispatches := follows.dispatches
    prewarms := { warmed := fun name isWarm => ?_, stands := fun name => ?_ }
  }
  · refine follows.prewarms.warmed name ?_
    unfold settlePrewarm at isWarm
    dsimp only at isWarm
    split at isWarm
    · exact isWarm
    · exact Finset.mem_of_mem_erase isWarm
  · have before := follows.prewarms.stands name
    have wasCounted :
        (call.target = name && call.stands) =
          decide (call.target = name) := by
      rw [stood, Bool.and_true]
    unfold standingPrewarms at before ⊢
    change List.countP _ (List.set _ _ _) = _
    rw [List.countP_set inside, isCall, wasCounted]
    by_cases same : call.target = name
    · have positive :
          0 < state.prewarms.countP fun call =>
            call.target = name && call.stands :=
        List.countP_pos_iff.mpr
          ⟨call, List.mem_of_getElem? found, by rw [wasCounted]; simp [same]⟩
      rw [before] at positive ⊢
      have isWarm : name ∈ state.prewarmed := by
        by_contra isCold
        rw [if_neg isCold] at positive
        exact absurd positive (Nat.lt_irrefl 0)
      subst same
      cases arrived <;>
        simp [isWarm, settlePrewarm, PrewarmCall.stands]
    · rw [before]
      cases arrived <;>
        simp [same, Ne.symm same, settlePrewarm, PrewarmCall.stands]

/-- An answer keeps the invariant. -/
theorem follows_answer
    {policy : StubPolicy}
    {state : StubState}
    (follows : state.Follows)
    {index : Nat}
    {dispatch : PartDispatch}
    (found : state.dispatches[index]? = some dispatch)
    (outcome : RpcOutcome) :
    (state.answer policy index dispatch outcome).Follows := by
  have before := follows.dispatches dispatch (List.mem_of_getElem? found)
  have dropped := follows.stubs.drop dispatch.target
  unfold StubState.answer
  dsimp only
  have answered :
      ∀ other ∈
        state.dispatches.set index
          { dispatch with
            phase :=
              if outcome.isTransient &&
                  dispatch.attempt < MAX_TRANSIENT_RETRIES then
                .backingOff
              else
                .returned },
        other.Follows state.sent := by
    intro other member
    rcases List.mem_or_eq_of_mem_set member with stays | rfl
    · exact follows.dispatches other stays
    · refine {
        warmed := before.warmed
        attempted := before.attempted
        remaining := fun backsOff => ?_
      }
      dsimp only at backsOff ⊢
      split at backsOff
      next again =>
        exact of_decide_eq_true (Bool.and_eq_true_iff.mp again).2
      next =>
        cases backsOff
  split
  · exact {
      stubs :=
        { sentInOrder := dropped.sentInOrder
          named := dropped.named
          old := dropped.old }
      dispatches := answered
      prewarms :=
        { warmed := follows.prewarms.warmed
          stands := follows.prewarms.stands }
    }
  · exact {
      stubs :=
        { sentInOrder := follows.stubs.sentInOrder
          named := follows.stubs.named
          old := follows.stubs.old }
      dispatches := answered
      prewarms :=
        { warmed := follows.prewarms.warmed
          stands := follows.prewarms.stands }
    }

/-- A retry keeps the invariant. -/
theorem follows_retry
    {state : StubState}
    (follows : state.Follows)
    {index : Nat}
    {dispatch : PartDispatch}
    (found : state.dispatches[index]? = some dispatch)
    (backsOff : dispatch.phase = .backingOff) :
    (state.retry index dispatch).Follows := by
  have before := follows.dispatches dispatch (List.mem_of_getElem? found)
  have dropped := follows.stubs.drop dispatch.target
  obtain ⟨stub, sent⟩ :=
    (state.restart index dispatch).sent_send dispatch.target
      dispatch.locationHint (.work (dispatch.attempt + 1))
  change _ = _ :: state.sent at sent
  have inOrder : (state.restart index dispatch).StubsInOrder :=
    { sentInOrder := dropped.sentInOrder
      named := dropped.named
      old := dropped.old }
  have prewarms : (state.restart index dispatch).PrewarmsFollow :=
    { warmed := follows.prewarms.warmed
      stands := follows.prewarms.stands }
  refine {
    stubs :=
      inOrder.send dispatch.locationHint fun stub isNamed isFresh => ?_
    dispatches := fun other member => ?_
    prewarms := prewarms.send ..
  }
  · -- the cached stub has just been dropped, so this one is new
    have fresh : stub.serial = state.made := by
      refine isFresh ?_
      change OrderedMap.lookup (OrderedMap.delete _ _) _ = none
      rw [OrderedMap.lookup_delete, if_pos rfl]
    have warmed := before.warmed
    have attempted := before.attempted
    rw [← isNamed] at warmed attempted ⊢
    refine
      .retry follows.stubs.sentInOrder warmed attempted
        (before.remaining backsOff) fun earlier member => ?_
    rw [fresh]
    exact Nat.ne_of_lt (follows.stubs.old earlier member)
  · unfold StubState.retry at member ⊢
    rw [dispatches_send] at member
    rw [sent]
    rcases List.mem_or_eq_of_mem_set member with stays | rfl
    · exact (follows.dispatches other stays).cons _
    · exact {
        warmed := before.warmed.cons _
        attempted := ⟨_, List.mem_cons_self, rfl, rfl⟩
        remaining := nofun
      }

/-! ### Steps -/

/-- What an event does to an instance. -/
inductive Moves
    (policy : StubPolicy)
    (state : StubState) : StubEvent → StubState → Prop where
  | fanOut {parts : List (String × Nat)} {locationHint : Option LocationHint} :
      Moves policy state (.fanOut parts locationHint)
        (state.fanOut parts locationHint)
  | settlePrewarm {index : Nat} {call : PrewarmCall} {arrived : Bool} :
      state.prewarms[index]? = some call →
      call.arrived.isNone →
      Moves policy state (.settlePrewarm index arrived)
        (state.settlePrewarm index call arrived)
  | answer {index : Nat} {dispatch : PartDispatch} {outcome : RpcOutcome} :
      state.dispatches[index]? = some dispatch →
      Moves policy state (.answer index outcome)
        (state.answer policy index dispatch outcome)
  | retry {index : Nat} {dispatch : PartDispatch} :
      state.dispatches[index]? = some dispatch →
      dispatch.phase = .backingOff →
      Moves policy state (.retry index) (state.retry index dispatch)

/-- Every step is such a move. -/
theorem moves_of_step
    {policy : StubPolicy}
    {state next : StubState}
    {event : StubEvent}
    (stepped : state.step policy event = some next) :
    state.Moves policy event next := by
  cases event with
  | fanOut parts locationHint =>
      cases stepped
      exact .fanOut
  | settlePrewarm index arrived =>
      dsimp only [step] at stepped
      split at stepped
      next call found =>
        split at stepped
        next pending =>
          cases stepped
          exact .settlePrewarm found pending
        next => cases stepped
      next => cases stepped
  | answer index outcome =>
      dsimp only [step] at stepped
      split at stepped
      next dispatch found =>
        split at stepped
        next =>
          cases stepped
          exact .answer found
        next => cases stepped
      next => cases stepped
  | retry index =>
      dsimp only [step] at stepped
      split at stepped
      next dispatch found =>
        split at stepped
        next backsOff =>
          cases stepped
          exact .retry found backsOff
        next => cases stepped
      next => cases stepped

/-- Every step of an instance keeps the invariant. -/
theorem follows_step
    {policy : StubPolicy}
    {state next : StubState}
    {event : StubEvent}
    (stepped : state.step policy event = some next)
    (follows : state.Follows) :
    next.Follows := by
  cases moves_of_step stepped with
  | fanOut => exact follows_fanOut follows _ _
  | settlePrewarm found pending =>
      exact follows_settlePrewarm follows found pending _
  | answer found => exact follows_answer follows found _
  | retry found backsOff => exact follows_retry follows found backsOff

/-! ### What is kept -/

/-- All stubs and dispatches are those of some objects. -/
structure Within
    (objects : List String)
    (state : StubState) : Prop where
  keys : OrderedMap.keys state.stubs ⊆ objects
  dispatches : ∀ dispatch ∈ state.dispatches, dispatch.target ∈ objects

variable {objects : List String}

/-- Dropping a stub adds none. -/
theorem Within.drop
    {state : StubState}
    (within : state.Within objects)
    (leafName : String) :
    (state.dropStub leafName).Within objects where
  keys _ isKey :=
    within.keys ((OrderedMap.mem_keys_delete ..).mp isKey).2
  dispatches := within.dispatches

/-- A message to one of the objects adds at most its stub. -/
theorem Within.send
    {state : StubState}
    (within : state.Within objects)
    {target : String}
    (isObject : target ∈ objects)
    (locationHint : Option LocationHint)
    (message : StubMessage) :
    (state.send target locationHint message).Within objects where
  keys name isKey := by
    rcases state.keys_send target locationHint message isKey with rfl | before
    · exact isObject
    · exact within.keys before
  dispatches dispatch member := by
    rw [dispatches_send] at member
    exact within.dispatches dispatch member

/-- A fan-out over some of the objects stays within them. -/
theorem Within.fanOut
    {state : StubState}
    (within : state.Within objects)
    {parts : List (String × Nat)}
    (areObjects : parts.map Prod.fst ⊆ objects)
    (locationHint : Option LocationHint) :
    (state.fanOut parts locationHint).Within objects := by
  have prewarms :
      ∀ (leafNames : List String) (state : StubState),
        leafNames ⊆ objects →
        state.Within objects →
        (leafNames.foldl (schedulePrewarm locationHint) state).Within
          objects := by
    intro leafNames
    induction leafNames with
    | nil => exact fun _ _ within => within
    | cons leafName rest inductionHypothesis =>
        intro state included within
        obtain ⟨isObject, others⟩ := List.cons_subset.mp included
        refine inductionHypothesis _ others ?_
        unfold schedulePrewarm
        split
        · exact within
        · refine Within.send ?_ isObject locationHint .noop
          exact { keys := within.keys, dispatches := within.dispatches }
  have starts :
      ∀ (targets : List String) (state : StubState),
        targets ⊆ objects →
        state.Within objects →
        (targets.foldl (startDispatch locationHint) state).Within
          objects := by
    intro targets
    induction targets with
    | nil => exact fun _ _ within => within
    | cons target rest inductionHypothesis =>
        intro state included within
        obtain ⟨isObject, others⟩ := List.cons_subset.mp included
        refine
          inductionHypothesis _ others
            (Within.send ?_ isObject locationHint _)
        refine { keys := within.keys, dispatches := ?_ }
        intro dispatch member
        rcases List.mem_append.mp member with before | isNew
        · exact within.dispatches dispatch before
        · rw [List.mem_singleton.mp isNew]
          exact isObject
  refine starts _ _ (fun target isTarget => ?_) (prewarms _ _ areObjects within)
  obtain ⟨part, isPart, rfl⟩ := List.mem_map.mp isTarget
  exact areObjects (List.mem_map_of_mem (List.mem_of_mem_filter isPart))

/-- A step over some of the objects stays within them. -/
theorem within_step
    {policy : StubPolicy}
    {state next : StubState}
    {event : StubEvent}
    (areObjects : event.targets ⊆ objects)
    (stepped : state.step policy event = some next)
    (within : state.Within objects) :
    next.Within objects := by
  have replaced
      {index : Nat}
      {dispatch new : PartDispatch}
      (found : state.dispatches[index]? = some dispatch)
      (sameTarget : new.target = dispatch.target)
      {other : PartDispatch}
      (member : other ∈ state.dispatches.set index new) :
      other.target ∈ objects := by
    rcases List.mem_or_eq_of_mem_set member with stays | rfl
    · exact within.dispatches other stays
    · rw [sameTarget]
      exact within.dispatches dispatch (List.mem_of_getElem? found)
  cases moves_of_step stepped with
  | fanOut => exact within.fanOut areObjects _
  | settlePrewarm found pending =>
      exact { keys := within.keys, dispatches := within.dispatches }
  | @answer _ dispatch _ found =>
      refine { keys := ?_, dispatches := fun _ => replaced found (by rfl) }
      unfold StubState.answer
      dsimp only
      split
      · exact (within.drop dispatch.target).keys
      · exact within.keys
  | @retry _ dispatch found backsOff =>
      have isObject :=
        within.dispatches dispatch (List.mem_of_getElem? found)
      refine Within.send ?_ isObject dispatch.locationHint _
      exact {
        keys := (within.drop dispatch.target).keys
        dispatches := fun _ => replaced found (by rfl)
      }

/-- There are no more stubs than objects. -/
theorem Within.size_le
    {state : StubState}
    (within : state.Within objects) :
    OrderedMap.size state.stubs ≤ objects.length := by
  have bounded :=
    (List.subperm_of_subset state.stubs.unique within.keys).length_le
  rwa [List.length_map] at bounded

end StubState

namespace StubState

/-- First attempts are added behind what is under way. -/
theorem targets_foldl_startDispatch
    (locationHint : Option LocationHint)
    (targets : List String)
    (state : StubState) :
    (targets.foldl (startDispatch locationHint) state).dispatches.map
        PartDispatch.target =
      state.dispatches.map PartDispatch.target ++ targets := by
  induction targets generalizing state with
  | nil => simp
  | cons target rest inductionHypothesis =>
      rw [List.foldl_cons, inductionHypothesis, startDispatch, dispatches_send,
        addDispatch]
      simp

/-- A `noop()` leaves the dispatches alone. -/
theorem dispatches_foldl_schedulePrewarm
    (locationHint : Option LocationHint)
    (names : List String)
    (state : StubState) :
    (names.foldl (schedulePrewarm locationHint) state).dispatches =
      state.dispatches := by
  induction names generalizing state with
  | nil => rfl
  | cons name rest inductionHypothesis =>
      rw [List.foldl_cons, inductionHypothesis, schedulePrewarm]
      split
      · rfl
      · rw [dispatches_send, addPrewarm]

/-- A fan-out starts one dispatch for each part with a job. -/
theorem targets_fanOut
    (state : StubState)
    (parts : List (String × Nat))
    (locationHint : Option LocationHint) :
    (state.fanOut parts locationHint).dispatches.map PartDispatch.target =
      state.dispatches.map PartDispatch.target ++
        (parts.filter (·.2 ≠ 0)).map Prod.fst := by
  rw [fanOut, targets_foldl_startDispatch, dispatches_foldl_schedulePrewarm]

end StubState

/-! ## Runs of an instance -/

/--
Whatever fan-outs overlap at an instance, whichever `noop()` calls fail and
whichever attempts are repeated: every message goes through a stub of its
target, no attempt comes before a `noop()` to the object, and every retry takes
a stub through which nothing was sent.  At most one `noop()` to an object
stands, and it does exactly as long as its name is kept; and there are no more
stubs than objects.  A fan-out then starts one dispatch for each object that it
calls.
-/
theorem stubs_in_order
    {policy : StubPolicy}
    {objects : List String}
    {events : List StubEvent}
    {final : StubState}
    (run :
      GuardedRun (StubState.step policy)
        (fun _ event => event.targets ⊆ objects) {} events final) :
    SentInOrder final.sent ∧
      (∀ target,
        final.standingPrewarms target =
          if target ∈ final.prewarmed then 1 else 0) ∧
        OrderedMap.size final.stubs ≤ objects.length ∧
          ∀ platform parts activity locationHint,
            FansOut platform policy parts activity →
            (final.fanOut parts locationHint).dispatches.map
                PartDispatch.target =
              final.dispatches.map PartDispatch.target ++
                activity.filterMap Activity.target? := by
  have follows : final.Follows :=
    run.invariant (fun _ stepped => StubState.follows_step stepped) {
      stubs :=
        { sentInOrder := .nil
          named := nofun
          old := nofun }
      dispatches := nofun
      prewarms := { warmed := nofun, stands := fun _ => rfl }
    }
  have within : final.Within objects :=
    run.invariant
      (fun areObjects stepped => StubState.within_step areObjects stepped)
      { keys := nofun, dispatches := nofun }
  refine ⟨follows.stubs.sentInOrder, follows.prewarms.stands,
    within.size_le, ?_⟩
  intro platform parts activity locationHint fansOut
  rw [fansOut.targets]
  exact StubState.targets_fanOut final parts locationHint

/-- Three fan-outs; a `noop()` and an attempt at the first leaf fail. -/
def overlappingFanOuts : List StubEvent :=
  [ .fanOut [("c--leaf-0", 1)] none,
    .fanOut [("c--leaf-0", 1), ("c--leaf-1", 1)] none,
    .settlePrewarm 0 false,
    .answer 0 (.error (plainError "Network connection lost.")),
    .retry 0,
    .fanOut [("c--leaf-0", 1)] none ]

/-- The retry takes the third stub, and the leaf is prewarmed once more. -/
theorem stubs_in_order_overlappingFanOuts :
    ∃ final,
      GuardedRun (StubState.step leafStubPolicy)
          (fun _ event => event.targets ⊆ ["c--leaf-0", "c--leaf-1"]) {}
          overlappingFanOuts final ∧
        final.made = 3 ∧
          final.prewarms.length = 3 ∧
            SentInOrder final.sent ∧
              final.standingPrewarms "c--leaf-0" = 1 := by
  have executed :
      (overlappingFanOuts.foldlM
          (fun state event =>
            if event.targets ⊆ ["c--leaf-0", "c--leaf-1"] then
              StubState.step leafStubPolicy state event
            else
              none) {}).any
        fun final =>
          final.made = 3 && final.prewarms.length = 3 &&
            "c--leaf-0" ∈ final.prewarmed := by
    decide +kernel
  obtain ⟨final, isFinal, counts⟩ := (Option.any_eq_true _ _).mp executed
  simp only [Bool.and_eq_true, decide_eq_true_eq] at counts
  obtain ⟨⟨made, prewarms⟩, isWarm⟩ := counts
  have run := GuardedRun.of_checked isFinal
  obtain ⟨inOrder, stands, -, -⟩ := stubs_in_order run
  refine ⟨final, run, made, prewarms, inOrder, ?_⟩
  rw [stands, if_pos isWarm]

end CloudflareParallel
