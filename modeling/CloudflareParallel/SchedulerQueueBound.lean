import CloudflareParallel.SchedulerReadyOnce

namespace CloudflareParallel

open KeyedTables LabelledRuns

/-!
# The bound of the queue

The depth test of an enqueue counts the jobs that are ready; the jobs that
other producers are about to insert count only once they are there.  An accepted
enqueue keeps to the bound when the room it was given is still there after its
store write, and that is a matter of what was under way when it was given.
-/

/-- A depth that does not exceed the bound. -/
def QueueBound.admits
    (bound : QueueBound)
    (depth : Nat) : Bool :=
  match bound with
  | .finite limit => depth ≤ limit
  | .infinity => true

theorem QueueBound.admits_of_le
    {bound : QueueBound}
    {depth less : Nat}
    (admitted : bound.admits depth)
    (fewer : less ≤ depth) :
    bound.admits less := by
  cases bound with
  | infinity => rfl
  | finite limit =>
      have within : (depth : Int) ≤ limit := of_decide_eq_true admitted
      refine decide_eq_true (p := (less : Int) ≤ limit) ?_
      omega

/-- `Dispatcher.enqueue` awaits the store. -/
def SchedulerTask.isEnqueueStored : SchedulerTask → Bool
  | .enqueueStored _ => true
  | _ => false

namespace SchedulerState

/-- An enqueue has passed the depth test and has not inserted its job. -/
def enqueueUnderWay (state : SchedulerState) : Bool :=
  state.tasks.any (·.isEnqueueStored)

/-- The step makes the depth test of an enqueue. -/
def testsDepth (state : SchedulerState) : SchedulerEvent → Bool
  | .resume index _ =>
      match state.tasks[index]? with
      | some (.rebuilt (.enqueue _)) => true
      | _ => false
  | _ => false

/-- The bound after a step; only `configure` changes it. -/
def boundAfter (state : SchedulerState) : SchedulerEvent → QueueBound
  | .configure c => (state.configure c).dispatcher.config.maxQueueDepth
  | _ => state.dispatcher.config.maxQueueDepth

end SchedulerState

/--
The condition on a step: while an enqueue is under way the bound stays as it
is, and a step that takes jobs up, be it the depth test of that enqueue or
another producer, leaves no more jobs ready or under way than the bound.
-/
structure LeavesRoom
    (scheduler : CfpSchedulerDO)
    (state : SchedulerState)
    (event : SchedulerEvent) : Prop where
  boundStays :
    state.enqueueUnderWay →
      state.boundAfter event = state.dispatcher.config.maxQueueDepth
  room :
    (state.enqueueUnderWay || state.testsDepth event) →
      (scheduler.takenUp state event).isEmpty = false →
        state.dispatcher.config.maxQueueDepth.admits
          ((state.keptReadyIds event).length +
            (scheduler.takenUp state event).length +
            state.underWayIds.length)

instance
    (scheduler : CfpSchedulerDO)
    (state : SchedulerState)
    (event : SchedulerEvent) : Decidable (LeavesRoom scheduler state event) :=
  decidable_of_iff
    ((state.enqueueUnderWay →
        state.boundAfter event = state.dispatcher.config.maxQueueDepth) ∧
      ((state.enqueueUnderWay || state.testsDepth event) →
        (scheduler.takenUp state event).isEmpty = false →
          state.dispatcher.config.maxQueueDepth.admits
            ((state.keptReadyIds event).length +
              (scheduler.takenUp state event).length +
              state.underWayIds.length)))
    ⟨fun met => ⟨met.1, met.2⟩, fun kept => ⟨kept.boundStays, kept.room⟩⟩

/-- What an enqueue does to the depth of the queue. -/
structure RespectsQueueBound
    (scheduler : CfpSchedulerDO)
    (state : SchedulerState) : Prop where
  /-- Its job is inserted within the bound, before the kick and after it. -/
  accepted :
    ∀ {index : Nat} {readings : Readings} {job : PersistedJob}
      {next : SchedulerState},
      state.tasks[index]? = some (.enqueueStored job) →
        scheduler.step state (.resume index readings) = some next →
          state.dispatcher.config.maxQueueDepth.admits
              (state.dispatcher.enqueueReady job).totalReady ∧
            state.dispatcher.config.maxQueueDepth.admits
              next.dispatcher.totalReady
  /-- Where it is rejected nothing is stored and nothing becomes ready. -/
  rejected :
    ∀ {index : Nat} {readings : Readings} {req : SchedulerEnqueueRequest}
      {err : Thrown} {next : SchedulerState},
      state.tasks[index]? = some (.rebuilt (.enqueue req)) →
        scheduler.step state (.resume index readings) = some next →
          next.replies = state.replies ++ [.rejected err] →
            next.store = state.store ∧ next.dispatcher = state.dispatcher

/-! ## What a step does to the bound and to the room -/

/-- The bound after a step's own part. -/
theorem CfpSchedulerDO.Moves.bound
    {self : CfpSchedulerDO}
    {state : SchedulerState}
    {event : SchedulerEvent}
    {tasks : List SchedulerTask}
    {dispatcher : Dispatcher}
    (moves : self.Moves state event tasks dispatcher)
    (staysLoaded : event ≠ .evict) :
    dispatcher.config.maxQueueDepth = state.boundAfter event := by
  cases moves with
  | enqueue begins => cases begins <;> rfl
  | deliverAlarm begins => cases begins <;> rfl
  | resume found goes => exact congrArg _ goes.config
  | evict => exact absurd rfl staysLoaded
  | _ => rfl

/-- A task that comes to await the store has just passed the depth test. -/
theorem SchedulerTask.GoesOn.testsDepth
    {self : CfpSchedulerDO}
    {state : SchedulerState}
    {index : Nat}
    {readings : Readings}
    {old new : SchedulerTask}
    {started : List SchedulerTask}
    {dispatcher : Dispatcher}
    (found : state.tasks[index]? = some old)
    (goes : old.GoesOn self state readings new started dispatcher)
    (isStored : new.isEnqueueStored) :
    state.testsDepth (.resume index readings) ∧
      (self.takenUp state (.resume index readings)).isEmpty = false := by
  cases goes with
  | @accepted req store isCall accepted =>
      constructor
      · simp only [SchedulerState.testsDepth, found]
      · have inserts :=
          (SchedulerTask.GoesOn.accepted isCall accepted).inserts_subperm
            found
        have taken := inserts.subset (List.mem_singleton_self _)
        change _ ∈ _ ++ [] at taken
        rw [List.append_nil] at taken
        simpa using List.ne_nil_of_mem taken
  | _ => cases isStored

/-- An enqueue that is under way was so before, or passes its test. -/
theorem CfpSchedulerDO.Moves.enqueueUnderWay
    {self : CfpSchedulerDO}
    {state : SchedulerState}
    {event : SchedulerEvent}
    {tasks : List SchedulerTask}
    {dispatcher : Dispatcher}
    (moves : self.Moves state event tasks dispatcher)
    (underWay : tasks.any (·.isEnqueueStored)) :
    state.enqueueUnderWay ∨
      (state.testsDepth event ∧
        (self.takenUp state event).isEmpty = false) := by
  obtain ⟨task, member, isStored⟩ := List.any_eq_true.mp underWay
  cases moves.origin member with
  | before isOld => exact .inl (List.any_eq_true.mpr ⟨task, isOld, isStored⟩)
  | begins begun => cases begun <;> cases isStored
  | goesOn found goes => exact .inr (goes.testsDepth found isStored)
  | started _ goes _ isStarted =>
      rcases goes.started isStarted with ⟨_, _, rfl⟩ | ⟨_, _, _, rfl⟩ <;>
        cases isStored
  | _ => cases isStored

/-- While an enqueue is under way, what is on offer is within the bound. -/
def SchedulerState.HasRoom (state : SchedulerState) : Prop :=
  state.enqueueUnderWay →
    state.dispatcher.config.maxQueueDepth.admits state.onOffer.length

/-- A step that meets the condition leaves the room that was given. -/
theorem hasRoom_step
    {self : CfpSchedulerDO}
    {state next : SchedulerState}
    {event : SchedulerEvent}
    (leavesRoom : LeavesRoom self state event)
    (stepped : self.step state event = some next)
    (hasRoom : state.HasRoom) :
    next.HasRoom := by
  intro underWay
  by_cases staysLoaded : event = .evict
  · subst staysLoaded
    cases stepped
    cases underWay
  have offered := (onOffer_step_subperm stepped staysLoaded).length_le
  rw [List.length_append, List.length_append, List.length_map] at offered
  obtain ⟨segment, isSegment, rfl⟩ := Option.map_eq_some_iff.mp stepped
  have finishes := segment.finishes self event.loopReadings
  have moves := CfpSchedulerDO.moves isSegment
  rw [SchedulerState.enqueueUnderWay, finishes.tasks] at underWay
  have wasUnderWay := moves.enqueueUnderWay underWay
  have sameBound :
      state.boundAfter event = state.dispatcher.config.maxQueueDepth := by
    rcases wasUnderWay with before | ⟨tests, -⟩
    · exact leavesRoom.boundStays before
    · cases event with
      | configure c => cases tests
      | _ => rfl
  rw [finishes.config, moves.bound staysLoaded, sameBound]
  cases taken : (self.takenUp state event).isEmpty with
  | false =>
      have tests : state.enqueueUnderWay || state.testsDepth event := by
        rw [Bool.or_eq_true]
        exact wasUnderWay.imp_right And.left
      refine QueueBound.admits_of_le (leavesRoom.room tests taken) ?_
      omega
  | true =>
      have before :=
        wasUnderWay.resolve_right fun passed => by
          rw [taken] at passed
          exact Bool.noConfusion passed.2
      refine QueueBound.admits_of_le (hasRoom before) ?_
      have kept :
          (state.keptReadyIds event).length ≤
            state.dispatcher.readyIds.length := by
        unfold SchedulerState.keptReadyIds
        split
        · exact Nat.zero_le _
        · exact Nat.le_refl _
      have noneTaken : (self.takenUp state event).length = 0 := by
        rw [List.isEmpty_iff.mp taken]
        rfl
      have onOffer :
          state.onOffer.length =
            state.dispatcher.readyIds.length + state.underWayIds.length :=
        List.length_append
      omega

/-! ## The claim -/

/-- An enqueue that is refused stores nothing. -/
theorem store_startEnqueue_of_refused
    {state : SchedulerState}
    {index : Nat}
    {readings : Readings}
    {req : SchedulerEnqueueRequest}
    {err : Thrown}
    (refused :
      (state.startEnqueue index readings req).replies =
        state.replies ++ [.rejected err]) :
    (state.startEnqueue index readings req).store = state.store := by
  unfold SchedulerState.startEnqueue at refused ⊢
  dsimp only at refused ⊢
  split
  · rfl
  next notFull =>
    rw [if_neg notFull] at refused
    split
    · rfl
    next accepts =>
      rw [accepts] at refused
      split
      · rfl
      next store accepted =>
        rw [accepted] at refused
        exact absurd (congrArg List.length refused) (by
          simp [SchedulerState.withStore, SchedulerState.setTask])

/-- Inserting a job makes one more ready. -/
theorem Dispatcher.totalReady_enqueueReady
    (dispatcher : Dispatcher)
    (job : PersistedJob) :
    (dispatcher.enqueueReady job).totalReady = dispatcher.totalReady + 1 := by
  rw [totalReady_eq_length, totalReady_eq_length,
    (dispatcher.readyJobs_enqueueReady_perm job).length_eq, List.length_cons]

/-- An enqueue that is under way is given its room in advance. -/
theorem SchedulerState.HasRoom.admits
    {state : SchedulerState}
    (hasRoom : state.HasRoom)
    {index : Nat}
    {job : PersistedJob}
    (found : state.tasks[index]? = some (.enqueueStored job)) :
    state.dispatcher.config.maxQueueDepth.admits
      (state.dispatcher.enqueueReady job).totalReady := by
  have member := List.mem_of_getElem? found
  have room := hasRoom (List.any_eq_true.mpr ⟨_, member, rfl⟩)
  have underWay : job ∈ state.underWay :=
    List.mem_flatMap.mpr ⟨_, member, List.mem_singleton_self job⟩
  have atLeastOne := List.length_pos_of_mem underWay
  refine QueueBound.admits_of_le room ?_
  rw [Dispatcher.totalReady_enqueueReady, SchedulerState.onOffer,
    Dispatcher.totalReady_eq_length, List.length_append,
    SchedulerState.underWayIds, List.length_map, Dispatcher.readyIds,
    List.length_map]
  omega

/--
In a run in which the room that an enqueue was given is left to it, every
accepted enqueue keeps to the bound; a rejected one never changes anything.
-/
theorem scheduler_respectsQueueBound
    {self : CfpSchedulerDO}
    {events : List SchedulerEvent}
    {state : SchedulerState}
    (run : GuardedRun self.step (LeavesRoom self) {} events state) :
    RespectsQueueBound self state := by
  have hasRoom : state.HasRoom :=
    @GuardedRun.invariant _ _ _ _ SchedulerState.HasRoom hasRoom_step _ _ _
      run fun underWay => by cases underWay
  refine {
    accepted := ?_
    rejected := ?_
  }
  · intro index readings job next found stepped
    have admitted := hasRoom.admits found
    refine ⟨admitted, QueueBound.admits_of_le admitted ?_⟩
    have ready :=
      (CfpSchedulerDO.readyJobs_step_subperm stepped (by simp)).length_le
    rw [SchedulerState.segmentTurns_resume found] at ready
    rw [Dispatcher.totalReady_eq_length, Dispatcher.totalReady_eq_length]
    exact ready
  · intro index readings req err next found stepped refused
    obtain ⟨segment, isSegment, rfl⟩ := Option.map_eq_some_iff.mp stepped
    obtain ⟨task, isTask, resumed⟩ := Option.bind_eq_some_iff.mp isSegment
    cases found.symm.trans isTask
    cases resumed
    exact ⟨store_startEnqueue_of_refused refused,
      state.dispatcher_startEnqueue index readings req⟩

/-- With a bound of one, a job is accepted and then another one. -/
def boundOfOne : List SchedulerEvent :=
  .configure { maxQueueDepth := some (.finite 1) } :: slowStarts ++
    [ .enqueue { SchedulerEnqueueRequest.slow with id := "second" },
      .resume 2 (.at 20) ]

/-- The second job is inserted within the bound. -/
theorem scheduler_respectsQueueBound_boundOfOne :
    ∃ state : SchedulerState,
      GuardedRun (CfpSchedulerDO.step .plain) (LeavesRoom .plain) {}
          boundOfOne state ∧
        state.enqueueUnderWay ∧ RespectsQueueBound .plain state := by
  have executed :
      (boundOfOne.foldlM
          (fun state event =>
            if LeavesRoom .plain state event then
              CfpSchedulerDO.step .plain state event
            else
              none) {}).any (·.enqueueUnderWay) := by
    decide +kernel
  obtain ⟨state, isFinal, underWay⟩ := (Option.any_eq_true _ _).mp executed
  have run := GuardedRun.of_checked isFinal
  exact ⟨state, run, underWay, scheduler_respectsQueueBound run⟩

/--
With a bound of one, three enqueues pass the depth test before any of them
inserts its job; the first job is picked at once.
-/
def threePassTest : List SchedulerEvent :=
  [ .configure { maxQueueDepth := some (.finite 1) },
    .enqueue .slow, .resume 0 (.at 10), .resume 0 (.at 10),
    .enqueue { SchedulerEnqueueRequest.slow with id := "second" },
    .resume 1 (.at 10),
    .enqueue { SchedulerEnqueueRequest.slow with id := "third" },
    .resume 2 (.at 10),
    .resume 0 (.at 10), .resume 1 (.at 10) ]

/-- The third enqueue is accepted and leaves two jobs ready. -/
theorem scheduler_exceedsQueueBound :
    ∃ state next : SchedulerState,
      Run (CfpSchedulerDO.step .plain) {} threePassTest state ∧
        CfpSchedulerDO.step .plain state (.resume 2 (.at 10)) = some next ∧
          state.dispatcher.config.maxQueueDepth = .finite 1 ∧
            next.dispatcher.totalReady = 2 ∧
              ¬ RespectsQueueBound .plain state := by
  have executed :
      (threePassTest.foldlM (CfpSchedulerDO.step .plain) {}).any
        fun state =>
          state.dispatcher.config.maxQueueDepth = .finite 1 &&
            ((state.tasks[2]?.any (·.isEnqueueStored)) &&
              (CfpSchedulerDO.step .plain state
                (.resume 2 (.at 10))).any (·.dispatcher.totalReady = 2)) := by
    decide +kernel
  obtain ⟨state, isState, holds⟩ := (Option.any_eq_true _ _).mp executed
  simp only [Bool.and_eq_true, decide_eq_true_eq] at holds
  obtain ⟨bound, awaits, deep⟩ := holds
  obtain ⟨next, stepped, isDeep⟩ := (Option.any_eq_true _ _).mp deep
  have twoReady := of_decide_eq_true isDeep
  obtain ⟨task, found, isStored⟩ := (Option.any_eq_true _ _).mp awaits
  refine ⟨state, next, .of_foldlM isState, stepped, bound, twoReady,
    fun respects => ?_⟩
  cases task with
  | enqueueStored job =>
      have admitted := (respects.accepted found stepped).2
      rw [bound, twoReady] at admitted
      exact absurd admitted (by decide)
  | _ => cases isStored

end CloudflareParallel
