import CloudflareParallel.SchedulerMoves
import CloudflareParallel.SchedulerRunningMap

namespace CloudflareParallel

open KeyedTables LabelledRuns

/-!
# The concurrency limits

The running map counts every execution from its start to its `finally`
callback, so the limits that are checked against the map bound the unsettled
runs.  They do as long as no entry of the map stands for two executions: the
callback of one deletes the entry of both.
-/

/-! ## Executions and their entries -/

/-- The job of an execution that has a place in the running map. -/
def SchedulerTask.occupant? : SchedulerTask → Option PersistedJob
  | .running job _ => some job
  | .settled job _ => some job
  | .requeueing job => some job
  | .finishing job => some job
  | _ => none

/-- The task awaits a `runJob` call of a tenant that has not settled. -/
def SchedulerTask.runsFor
    (ofTenant : String → Bool) : SchedulerTask → Bool
  | .running job _ => ofTenant job.tenantId
  | _ => false

namespace SchedulerState

/-- The unsettled `runJob` calls of some tenants. -/
def unsettledRuns
    (state : SchedulerState)
    (ofTenant : String → Bool) : Nat :=
  state.tasks.countP (·.runsFor ofTenant)

/-- The unsettled runs are within the limits. -/
structure WithinLimits (state : SchedulerState) : Prop where
  inFlight :
    state.unsettledRuns (fun _ => true) ≤
      state.dispatcher.config.inFlightLimit
  perTenant :
    ∀ tenantId,
      state.unsettledRuns (· = tenantId) ≤
        state.dispatcher.config.fairCapacityPerTenant

end SchedulerState

/-- The jobs of the executions in a list of tasks. -/
def occupantsOf (tasks : List SchedulerTask) : List PersistedJob :=
  tasks.filterMap SchedulerTask.occupant?

theorem occupantsOf_append
    (tasks started : List SchedulerTask) :
    occupantsOf (tasks ++ started) =
      occupantsOf tasks ++ occupantsOf started :=
  List.filterMap_append

/-- One task and the others. -/
theorem occupantsOf_perm
    {tasks : List SchedulerTask}
    {index : Nat}
    {task : SchedulerTask}
    (found : tasks[index]? = some task) :
    (occupantsOf tasks).Perm
      (task.occupant?.toList ++ occupantsOf (tasks.eraseIdx index)) := by
  obtain ⟨inside, rfl⟩ := List.getElem?_eq_some_iff.mp found
  have first := (List.getElem_cons_eraseIdx_perm inside).symm
  refine (first.filterMap _).trans (.of_eq ?_)
  rw [List.filterMap_cons]
  unfold occupantsOf
  cases tasks[index].occupant? <;> rfl

/-- A task that goes on leaves the others. -/
theorem occupantsOf_set_perm
    {tasks : List SchedulerTask}
    {index : Nat}
    {old : SchedulerTask}
    (found : tasks[index]? = some old)
    (task : SchedulerTask) :
    (occupantsOf (tasks.set index task)).Perm
      (task.occupant?.toList ++ occupantsOf (tasks.eraseIdx index)) := by
  obtain ⟨inside, -⟩ := List.getElem?_eq_some_iff.mp found
  have replaced : (tasks.set index task)[index]? = some task :=
    List.getElem?_set_self inside
  have split := occupantsOf_perm replaced
  rw [List.eraseIdx_set_eq] at split
  exact split

/-- Unsettled runs are executions of the tenants they are counted for. -/
theorem countP_runsFor_le
    (tasks : List SchedulerTask)
    (ofTenant : String → Bool) :
    tasks.countP (·.runsFor ofTenant) ≤
      (occupantsOf tasks).countP fun job => ofTenant job.tenantId := by
  rw [occupantsOf, List.countP_filterMap]
  refine List.countP_mono_left fun task _ runs => ?_
  cases task with
  | running job call => exact runs
  | _ => cases runs

/-! ## The condition and the invariant -/

/-- The job that the loop has claimed and has still to start. -/
def LoopState.target? : LoopState → Option PersistedJob
  | .claimed target => target
  | _ => none

/--
The condition on a step's own part: the limits stay as they are unless nothing
is running or about to, and no run is started while the job's entry in the
running map stands for another execution.
-/
def SchedulerState.KeepsLimits (state : SchedulerState) :
    SchedulerEvent → Prop
  | .configure c =>
      let config := (state.configure c).dispatcher.config
      (config.inFlightLimit = state.dispatcher.config.inFlightLimit ∧
          config.fairCapacityPerTenant =
            state.dispatcher.config.fairCapacityPerTenant) ∨
        (state.dispatcher.runningCount = 0 ∧
          state.dispatcher.loop.target? = none ∧
            1 ≤ config.inFlightLimit ∧ 1 ≤ config.fairCapacityPerTenant)
  | .resumeLoop _ =>
      ∀ target ∈ state.dispatcher.loop.target?,
        target.id ∉ OrderedMap.keys state.dispatcher.running
  | _ => True

/--
The condition on a step: it also claims no row of another tenant than that of
the job it has taken.
-/
structure LimitsKept
    (scheduler : CfpSchedulerDO)
    (state : SchedulerState)
    (event : SchedulerEvent) : Prop where
  keeps : state.KeepsLimits event
  claims :
    ∀ segment ∈ scheduler.segment state event,
      ∀ pick ∈ segment.pick,
        ∀ row ∈ segment.claimedRows scheduler event.loopReadings,
          row.tenantId = pick.1.tenantId

instance
    (state : SchedulerState)
    (event : SchedulerEvent) : Decidable (state.KeepsLimits event) := by
  unfold SchedulerState.KeepsLimits
  split <;> infer_instance

instance
    (scheduler : CfpSchedulerDO)
    (state : SchedulerState)
    (event : SchedulerEvent) : Decidable (LimitsKept scheduler state event) :=
  decidable_of_iff (_ ∧ _)
    ⟨fun kept => ⟨kept.1, kept.2⟩, fun kept => ⟨kept.keeps, kept.claims⟩⟩

/-- What a list of tasks and the memory have in common in every state. -/
structure LimitsInvariant
    (tasks : List SchedulerTask)
    (dispatcher : Dispatcher) : Prop where
  registers : dispatcher.Registers (occupantsOf tasks)
  within : dispatcher.WithinLimits
  ownTenants : dispatcher.OwnTenants
  room :
    ∀ target ∈ dispatcher.loop.target?,
      dispatcher.HasRoomFor target.tenantId

/-- With the invariant the unsettled runs are within the limits. -/
theorem LimitsInvariant.withinLimits
    {state : SchedulerState}
    (invariant : LimitsInvariant state.tasks state.dispatcher) :
    state.WithinLimits := by
  have bounded (ofTenant : String → Bool) :
      state.unsettledRuns ofTenant ≤
        (OrderedMap.values state.dispatcher.running).countP fun entry =>
          ofTenant entry.tenantId :=
    (countP_runsFor_le state.tasks ofTenant).trans
      (OrderedMap.countP_le_of_registered invariant.registers.distinct
        invariant.registers.registered fun entry => ofTenant entry.tenantId)
  refine {
    inFlight := ?_
    perTenant := fun tenantId => ?_
  }
  · refine (Int.ofNat_le.mpr (bounded fun _ => true)).trans ?_
    rw [List.countP_true, OrderedMap.values, List.length_map]
    exact invariant.within.inFlight
  · exact (Int.ofNat_le.mpr (bounded (· = tenantId))).trans
      (invariant.within.perTenant tenantId)

namespace LimitsInvariant

variable {tasks others : List SchedulerTask} {dispatcher next : Dispatcher}

/-- The executions, the map, the limits and the loop stay as they are. -/
theorem frame
    (invariant : LimitsInvariant tasks dispatcher)
    (sameOccupants : (occupantsOf tasks).Perm (occupantsOf others))
    (same : dispatcher.SameButReady next)
    (own : next.OwnTenants) :
    LimitsInvariant others next where
  registers := (invariant.registers.congr same.running).perm sameOccupants
  within :=
    invariant.within.congr same.running (by rw [same.config])
      (by rw [same.config])
  ownTenants := own
  room target isTarget :=
    (invariant.room target (same.loop ▸ isTarget)).congr same.running
      same.config

/-- A task is added that is no execution. -/
theorem start
    (invariant : LimitsInvariant tasks dispatcher)
    {task : SchedulerTask}
    (noOccupant : task.occupant? = none)
    (same : dispatcher.SameButReady next)
    (own : next.OwnTenants) :
    LimitsInvariant (tasks ++ [task]) next := by
  refine invariant.frame (.of_eq ?_) same own
  simp [occupantsOf, noOccupant]

/-- An execution comes to its end. -/
theorem finish
    (invariant : LimitsInvariant tasks dispatcher)
    {index : Nat}
    {job : PersistedJob}
    (found : tasks[index]? = some (.finishing job)) :
    LimitsInvariant (tasks.set index .finished)
      (dispatcher.unregister job.id) where
  registers :=
    (invariant.registers.perm (occupantsOf_perm found)).unregister.perm
      (occupantsOf_set_perm found .finished).symm
  within := invariant.within.unregister job.id
  ownTenants := invariant.ownTenants.congr rfl
  room target isTarget := (invariant.room target isTarget).unregister job.id

/-- A run starts for which there is room. -/
theorem run
    (invariant : LimitsInvariant tasks dispatcher)
    {target : PersistedJob}
    {call : RunnerCall}
    (isTarget : target ∈ dispatcher.loop.target?)
    (fresh : target.id ∉ OrderedMap.keys dispatcher.running) :
    LimitsInvariant (tasks ++ [.running target call])
      (dispatcher.register target) where
  registers := by
    refine (invariant.registers.register fresh).perm ?_
    rw [occupantsOf_append]
    exact (List.perm_append_singleton target (occupantsOf tasks)).symm
  within := invariant.within.register fresh (invariant.room target isTarget)
  ownTenants := invariant.ownTenants.congr rfl
  room _ wrong := by cases wrong

/-- The limits stay as they are, or nothing is running or about to. -/
theorem configure
    (invariant : LimitsInvariant tasks dispatcher)
    {config : DispatcherConfig}
    (keeps :
      (config.inFlightLimit = dispatcher.config.inFlightLimit ∧
          config.fairCapacityPerTenant =
            dispatcher.config.fairCapacityPerTenant) ∨
        (dispatcher.runningCount = 0 ∧
          dispatcher.loop.target? = none ∧
            1 ≤ config.inFlightLimit ∧ 1 ≤ config.fairCapacityPerTenant)) :
    LimitsInvariant tasks { dispatcher with config := config } := by
  refine {
    registers := invariant.registers.congr rfl
    within := ?_
    ownTenants := invariant.ownTenants.congr rfl
    room := fun target isTarget => ?_
  }
  · rcases keeps with ⟨sameLimit, sameCapacity⟩ | ⟨noneRuns, -, limit, capacity⟩
    · exact invariant.within.congr rfl sameLimit sameCapacity
    · have inFlight (tenantId : String) :
          dispatcher.tenantInFlight tenantId ≤ dispatcher.runningCount := by
        rw [Dispatcher.runningCount, OrderedMap.size,
          ← List.length_map Prod.snd]
        exact List.countP_le_length
      refine ⟨?_, fun tenantId => ?_⟩
      · have none :
            ({ dispatcher with config := config } : Dispatcher).runningCount =
              0 :=
          noneRuns
        rw [none]
        exact (Int.zero_le_ofNat 1).trans limit
      · have none :
            ({ dispatcher with config := config } : Dispatcher).tenantInFlight
                tenantId =
              0 :=
          Nat.eq_zero_of_le_zero (noneRuns ▸ inFlight tenantId)
        rw [none]
        exact (Int.zero_le_ofNat 1).trans capacity
  · rcases keeps with ⟨sameLimit, sameCapacity⟩ | ⟨-, noTarget, -⟩
    · obtain ⟨inFlight, perTenant⟩ := invariant.room target isTarget
      exact ⟨by rw [← sameLimit] at inFlight; exact inFlight,
        by rw [← sameCapacity] at perTenant; exact perTenant⟩
    · rw [show _ = none from noTarget] at isTarget
      cases isTarget

end LimitsInvariant

/-- How a task goes on: with its job in its entry, or as the last of it. -/
theorem SchedulerTask.GoesOn.limits
    {self : CfpSchedulerDO}
    {state : SchedulerState}
    {readings : Readings}
    {old new : SchedulerTask}
    {started : List SchedulerTask}
    {dispatcher : Dispatcher}
    (goes : old.GoesOn self state readings new started dispatcher)
    (own : state.dispatcher.OwnTenants) :
    (∃ job,
        old = .finishing job ∧ new = .finished ∧ started = [] ∧
          dispatcher = state.dispatcher.unregister job.id) ∨
      (new.occupant? = old.occupant? ∧
        state.dispatcher.SameButReady dispatcher ∧ dispatcher.OwnTenants) := by
  cases goes with
  | rebuild =>
      exact .inr ⟨rfl, Dispatcher.sameButReady_foldl .., own.foldl _⟩
  | enqueueStored =>
      exact .inr
        ⟨rfl, Dispatcher.sameButReady_enqueueReady .., own.enqueueReady _⟩
  | cancelled =>
      exact .inr
        ⟨rfl, Dispatcher.sameButReady_dropFromReady .., own.dropFromReady _⟩
  | tenantCleared =>
      exact .inr
        ⟨rfl, Dispatcher.sameButReady_removeTenant .., own.removeTenant _⟩
  | someReclaimed =>
      exact .inr ⟨rfl, ⟨rfl, rfl, rfl⟩, .of_empty rfl⟩
  | backstop =>
      exact .inr ⟨rfl, ⟨rfl, rfl, rfl⟩, .of_empty rfl⟩
  | retryNow =>
      exact .inr
        ⟨rfl, Dispatcher.sameButReady_enqueueReady .., own.enqueueReady _⟩
  | finishing =>
      exact .inl ⟨_, rfl, rfl, rfl, rfl⟩
  | retryTimer =>
      exact .inr
        ⟨rfl, Dispatcher.sameButReady_enqueueReady .., own.enqueueReady _⟩
  | _ =>
      exact .inr ⟨rfl, .refl _, own⟩

/-! ## Steps and runs -/

/-- Nothing runs in a dispatcher that was just created. -/
theorem limits_loaded
    {dispatcher : Dispatcher}
    (noneReady : dispatcher.ready = .empty)
    (noneRunning : dispatcher.running = .empty)
    (idle : dispatcher.loop = .idle)
    (config : dispatcher.config = {}) :
    LimitsInvariant [] dispatcher where
  registers := ⟨.nil, fun _ member => by cases member⟩
  within := by
    refine ⟨?_, fun tenantId => ?_⟩
    · rw [Dispatcher.runningCount, noneRunning, config]
      decide
    · rw [Dispatcher.tenantInFlight, noneRunning, config]
      exact Int.natCast_nonneg 4
  ownTenants := .of_empty noneReady
  room _ isTarget := by
    rw [idle] at isTarget
    cases isTarget

/-- What happens before the loop is kicked keeps the invariant. -/
theorem limits_moves
    {self : CfpSchedulerDO}
    {state : SchedulerState}
    {event : SchedulerEvent}
    {tasks : List SchedulerTask}
    {dispatcher : Dispatcher}
    (keeps : state.KeepsLimits event)
    (moves : self.Moves state event tasks dispatcher)
    (invariant : LimitsInvariant state.tasks state.dispatcher) :
    LimitsInvariant tasks dispatcher := by
  have begun
      {caller : RebuildCaller}
      {task : SchedulerTask}
      {dispatcher : Dispatcher}
      (begins : state.Begins caller task dispatcher) :
      LimitsInvariant (state.tasks ++ [task]) dispatcher := by
    cases begins with
    | rebuilds =>
        exact invariant.start rfl ⟨rfl, rfl, rfl⟩ (.of_empty rfl)
    | isReady =>
        exact invariant.start rfl (.refl _) invariant.ownTenants
  cases moves with
  | enqueue begins =>
      exact begun begins
  | cancel =>
      exact invariant.start rfl (.refl _) invariant.ownTenants
  | cancelByTenant =>
      exact invariant.start rfl (.refl _) invariant.ownTenants
  | @configure c =>
      obtain ⟨config, configured⟩ := dispatcher_configure state c
      unfold SchedulerState.KeepsLimits at keeps
      dsimp only at keeps
      rw [configured] at keeps ⊢
      exact invariant.configure keeps
  | status =>
      exact invariant
  | result =>
      exact invariant
  | deliverAlarm begins =>
      exact begun begins
  | @resume index readings old new started dispatcher found goes =>
      rcases goes.limits invariant.ownTenants with
        ⟨job, rfl, rfl, rfl, rfl⟩ | ⟨sameOccupant, same, own⟩
      · rw [List.append_nil]
        exact invariant.finish found
      · refine invariant.frame ?_ same own
        have noOccupant : occupantsOf started = [] := by
          refine List.filterMap_eq_nil_iff.mpr fun task member => ?_
          rcases goes.started member with ⟨_, _, rfl⟩ | ⟨_, _, _, rfl⟩ <;> rfl
        rw [occupantsOf_append, noOccupant, List.append_nil]
        refine (occupantsOf_perm found).trans ?_
        rw [← sameOccupant]
        exact (occupantsOf_set_perm found new).symm
  | loopGoesOn =>
      exact {
        registers := invariant.registers.congr rfl
        within := invariant.within.congr rfl rfl rfl
        ownTenants := invariant.ownTenants.congr rfl
        room := fun _ wrong => by cases wrong
      }
  | @runs readings target claimed =>
      have isTarget : target ∈ state.dispatcher.loop.target? := by
        rw [claimed]
        rfl
      exact invariant.run isTarget (keeps _ isTarget)
  | settle found =>
      refine invariant.frame ?_ (.refl _) invariant.ownTenants
      exact (occupantsOf_perm found).trans
        (occupantsOf_set_perm found (.settled _ _)).symm
  | evict noneReady _ noneRunning idle config =>
      exact limits_loaded noneReady noneRunning idle config

/-- A step that meets the condition keeps the invariant. -/
theorem limits_step
    {self : CfpSchedulerDO}
    {state next : SchedulerState}
    {event : SchedulerEvent}
    (kept : LimitsKept self state event)
    (stepped : self.step state event = some next)
    (invariant : LimitsInvariant state.tasks state.dispatcher) :
    LimitsInvariant next.tasks next.dispatcher := by
  obtain ⟨segment, isSegment, rfl⟩ := Option.map_eq_some_iff.mp stepped
  have before :=
    limits_moves kept.keeps (CfpSchedulerDO.moves isSegment) invariant
  have finishes := segment.finishes self event.loopReadings
  have loopEnd := segment.loopEnd self event.loopReadings
  refine {
    registers := ?_
    within := ?_
    ownTenants := ?_
    room := fun target isTarget => ?_
  }
  · rw [finishes.tasks]
    exact before.registers.congr finishes.running
  · exact before.within.congr finishes.running (by rw [finishes.config])
      (by rw [finishes.config])
  · rcases finishes.ready with same | taken
    · exact before.ownTenants.congr same
    · exact before.ownTenants.takeNextReady.congr taken
  · suffices room : segment.state.dispatcher.HasRoomFor target.tenantId from
      room.congr finishes.running finishes.config
    generalize (segment.finish self event.loopReadings).dispatcher.loop = loop
      at isTarget loopEnd
    generalize (segment.finish self event.loopReadings).store = store at loopEnd
    cases loopEnd with
    | stays =>
        exact before.room target isTarget
    | @claimed job _ _ leased _ picked _ _ claimedRow _ _ isLeased =>
        cases isTarget
        obtain ⟨-, -, slot, took⟩ := Segment.of_pick picked
        have sameTenant :=
          kept.claims segment isSegment _ picked _
            (by rw [claimedRow]; exact List.mem_singleton_self _)
        have targetTenant :
            (rowToJob leased).tenantId = job.tenantId := by
          rw [isLeased]
          exact sameTenant
        rw [targetTenant]
        exact {
          inFlight := of_decide_eq_true (Bool.and_eq_true_iff.mp slot).2
          perTenant := before.ownTenants.below_of_taken took
        }
    | _ =>
        cases isTarget

/--
The unsettled runs are within the limits in every state of every run whose
limits are fixed, in which no run is started while the job's entry in the
running map stands for another execution, and no claim takes a row of another
tenant than that of the job that was taken.
-/
theorem scheduler_withinLimits
    {self : CfpSchedulerDO}
    {events : List SchedulerEvent}
    {final : SchedulerState}
    (run : GuardedRun self.step (LimitsKept self) {} events final) :
    final.WithinLimits := by
  have invariant : LimitsInvariant final.tasks final.dispatcher :=
    @GuardedRun.invariant _ _ _ _
      (fun state => LimitsInvariant state.tasks state.dispatcher) limits_step
      _ _ _ run (limits_loaded rfl rfl rfl rfl)
  exact invariant.withinLimits

/-- Enqueues a job at a time and starts it, with the tasks that this adds. -/
def enqueueAndStart
    (req : SchedulerEnqueueRequest)
    (index : Nat)
    (now : Int) : List SchedulerEvent :=
  [ .enqueue req, .resume index (.at now), .resume index (.at now),
    .resume index (.at now), .resumeLoop { check := now, claim := now } ]

/--
With a limit of two, and of one for each tenant, a job of each of two tenants is
started and a third job is enqueued.
-/
def twoTenantsRun : List SchedulerEvent :=
  .configure { inFlightLimit := some 2, fairCapacityPerTenant := some 1 } ::
    slowStarts ++
      enqueueAndStart
        { SchedulerEnqueueRequest.slow with id := "other", tenantId := "b" }
        2 20 ++
        [ .enqueue { SchedulerEnqueueRequest.slow with id := "third" },
          .resume 4 (.at 30), .resume 4 (.at 30) ]

/-- Both tenants are at their caps, and the third job waits. -/
theorem scheduler_withinLimits_twoTenantsRun :
    ∃ final,
      GuardedRun (CfpSchedulerDO.step .plain) (LimitsKept .plain) {}
          twoTenantsRun final ∧
        final.unsettledRuns (fun _ => true) = 2 ∧
          final.unsettledRuns (fun tenantId => tenantId = "b") = 1 ∧
            final.dispatcher.totalReady = 1 ∧ final.WithinLimits := by
  have executed :
      (twoTenantsRun.foldlM
          (fun state event =>
            if LimitsKept .plain state event then
              CfpSchedulerDO.step .plain state event
            else
              none) {}).any
        fun final =>
          final.unsettledRuns (fun _ => true) = 2 ∧
            final.unsettledRuns (fun tenantId => tenantId = "b") = 1 ∧
              final.dispatcher.totalReady = 1 := by
    decide +kernel
  obtain ⟨final, isFinal, reached⟩ := (Option.any_eq_true _ _).mp executed
  obtain ⟨both, ofTenant, waits⟩ := of_decide_eq_true reached
  have run := GuardedRun.of_checked isFinal
  exact ⟨final, run, both, ofTenant, waits, scheduler_withinLimits run⟩

/-- A job that is retried at once. -/
def SchedulerEnqueueRequest.eager : SchedulerEnqueueRequest :=
  { slow with
    id := "eager"
    retry := { max := 3, backoff := .constant, baseMs := 0 } }

/--
The limit is set to two.  A job fails, is retried at once, and its second run
starts before the `finally` callback of the first one; then two jobs start.
-/
def threeRun : List SchedulerEvent :=
  [ .configure { inFlightLimit := some 2 },
    .enqueue .eager, .resume 0 (.at 10), .resume 0 (.at 10),
    .resume 0 (.at 10), .resume 0 (.at 10),
    .resumeLoop { check := 10, claim := 10 },
    .settle 1 (.error (.error "Error" "boom" none none)),
    .resume 1 (.at 20), .resume 1 (.at 20),
    .resumeLoop { check := 20, claim := 20 }, .resume 1 (.at 20) ] ++
    enqueueAndStart .slow 4 30 ++
    enqueueAndStart { SchedulerEnqueueRequest.slow with id := "third" } 6 40

/--
Three runs are unsettled under a limit of two, though no lease has run out: the
callback of the first run has deleted the entry of the second.
-/
theorem scheduler_exceeds_limit :
    ∃ final,
      GuardedRun (CfpSchedulerDO.step .plain) (LeasesHeld .plain) {} threeRun
          final ∧
        final.dispatcher.config.inFlightLimit = 2 ∧
          final.unsettledRuns (fun _ => true) = 3 ∧ ¬ final.WithinLimits := by
  have executed :
      (threeRun.foldlM
          (fun state event =>
            if LeasesHeld .plain state event then
              CfpSchedulerDO.step .plain state event
            else
              none) {}).any
        fun final =>
          final.dispatcher.config.inFlightLimit = 2 &&
            final.unsettledRuns (fun _ => true) = 3 := by
    decide +kernel
  obtain ⟨final, isFinal, exceeds⟩ := (Option.any_eq_true _ _).mp executed
  simp only [Bool.and_eq_true, decide_eq_true_eq] at exceeds
  obtain ⟨limit, runs⟩ := exceeds
  refine ⟨final, .of_checked isFinal, limit, runs, fun within => ?_⟩
  have below := within.inFlight
  rw [limit, runs] at below
  exact absurd below (by decide)

end CloudflareParallel
