import CloudflareParallel.SchedulerMoves
import CloudflareParallel.SchedulerStats

namespace CloudflareParallel

open KeyedTables LabelledRuns

/-!
# What `configure` reports

The updates are kept in `#configOverrides` until the dispatcher is created, and
in the dispatcher from then on.  What is in force is always the default with all
updates since the object was loaded; the answer of a call before the creation
is made from that call alone.
-/

/-- What can happen at the object, the counting of its rows included. -/
inductive SchedulerCall where
  | event (event : SchedulerEvent)
  | stats (groups : List (JobStatus × Nat)) (now : Int)

/-- One step of the object, or one call of `stats`. -/
def CfpSchedulerDO.stepCall
    (self : CfpSchedulerDO)
    (state : SchedulerState) : SchedulerCall → Option SchedulerState
  | .event event => self.step state event
  | .stats groups now => some (state.stats groups now).2

/-- The updates since the object was loaded, oldest first. -/
def recordUpdates
    (_ : SchedulerState)
    (call : SchedulerCall)
    (updates : List PartialDispatcherConfig) : List PartialDispatcherConfig :=
  match call with
  | .event (.configure c) => updates ++ [c]
  | .event .evict => []
  | _ => updates

/-- The default configuration overlaid with updates, in order. -/
def configAfter (updates : List PartialDispatcherConfig) : DispatcherConfig :=
  updates.foldl DispatcherConfig.overlay {}

/-- The call is no update and does not unload the object. -/
def SchedulerCall.keepsConfig : SchedulerCall → Bool
  | .event (.configure _) => false
  | .event .evict => false
  | _ => true

/-- Every tunable is set by the update, or is at its default. -/
structure PartialDispatcherConfig.Overwrites
    (c : PartialDispatcherConfig)
    (config : DispatcherConfig) : Prop where
  inFlightLimit : c.inFlightLimit.isSome ∨ config.inFlightLimit = 32
  maxQueueDepth : c.maxQueueDepth.isSome ∨ config.maxQueueDepth = .infinity
  resultTtlMs : c.resultTtlMs.isSome ∨ config.resultTtlMs = 3600000
  fairCapacityPerTenant :
    c.fairCapacityPerTenant.isSome ∨ config.fairCapacityPerTenant = 4
  defaultLeaseMs : c.defaultLeaseMs.isSome ∨ config.defaultLeaseMs = 60000

/-! ## Overlays -/

/-- A tunable of two configurations after one update. -/
theorem getD_eq_getD_iff
    {α : Type}
    (update : Option α)
    (first second : α) :
    update.getD first = update.getD second ↔
      update.isSome = true ∨ second = first := by
  cases update with
  | none => simpa using eq_comm
  | some value => simp

/-- Two updates one after the other are their overlay. -/
theorem overlay_overlay
    (config : DispatcherConfig)
    (first second : PartialDispatcherConfig) :
    config.overlay (first.overlay second) =
      (config.overlay first).overlay second := by
  have tunable {α : Type} (before after : Option α) (value : α) :
      (after.or before).getD value = after.getD (before.getD value) := by
    cases after <;> rfl
  simp only [DispatcherConfig.overlay, PartialDispatcherConfig.overlay, tunable]

/-- The update leaves no trace of what was there before. -/
theorem overlay_default_iff
    (config : DispatcherConfig)
    (c : PartialDispatcherConfig) :
    ({} : DispatcherConfig).overlay c = config.overlay c ↔
      c.Overwrites config := by
  simp only [DispatcherConfig.overlay, DispatcherConfig.mk.injEq,
    getD_eq_getD_iff]
  constructor
  · rintro ⟨inFlight, depth, ttl, capacity, lease⟩
    exact ⟨inFlight, depth, ttl, capacity, lease⟩
  · rintro ⟨inFlight, depth, ttl, capacity, lease⟩
    exact ⟨inFlight, depth, ttl, capacity, lease⟩

theorem configAfter_concat
    (updates : List PartialDispatcherConfig)
    (c : PartialDispatcherConfig) :
    configAfter (updates ++ [c]) = (configAfter updates).overlay c := by
  unfold configAfter
  rw [List.foldl_append, List.foldl_cons, List.foldl_nil]

/-! ## What changes the configuration -/

section Steps

variable {self : CfpSchedulerDO}
variable {state next : SchedulerState}

theorem SchedulerState.Begins.config
    {caller : RebuildCaller}
    {task : SchedulerTask}
    {dispatcher : Dispatcher}
    (begins : state.Begins caller task dispatcher) :
    dispatcher.config = state.dispatcher.config := by
  cases begins <;> rfl

/-- What is in force after `configure`, before or after the creation. -/
theorem config_configure
    (state : SchedulerState)
    (c : PartialDispatcherConfig) :
    (state.configure c).dispatcher.config =
      state.dispatcher.config.overlay c := by
  cases created : state.created with
  | none =>
      simp [SchedulerState.configure, SchedulerState.dispatcher,
        SchedulerState.reply, created, overlay_overlay]
  | some dispatcher =>
      simp [SchedulerState.configure, SchedulerState.dispatcher,
        SchedulerState.reply, Dispatcher.configure, created]

/-- The configuration after a step, with the updates since the loading. -/
theorem config_step
    {event : SchedulerEvent}
    {updates : List PartialDispatcherConfig}
    (stepped : self.step state event = some next)
    (inForce : state.dispatcher.config = configAfter updates) :
    next.dispatcher.config =
      configAfter (recordUpdates state (.event event) updates) := by
  obtain ⟨segment, isSegment, rfl⟩ := Option.map_eq_some_iff.mp stepped
  rw [(segment.finishes self event.loopReadings).config]
  have moves := CfpSchedulerDO.moves isSegment
  generalize segment.state.dispatcher = dispatcher at moves ⊢
  generalize segment.state.tasks = tasks at moves
  cases moves with
  | enqueue begins => exact begins.config.trans inForce
  | deliverAlarm begins => exact begins.config.trans inForce
  | resume _ goes => exact goes.config.trans inForce
  | @configure c =>
      rw [recordUpdates, configAfter_concat, ← inForce]
      exact config_configure state c
  | evict _ _ _ _ config => exact config
  | _ => exact inForce

/-- The configuration after a call, with the updates since the loading. -/
theorem config_stepCall
    {call : SchedulerCall}
    {updates : List PartialDispatcherConfig}
    (stepped : self.stepCall state call = some next)
    (inForce : state.dispatcher.config = configAfter updates) :
    next.dispatcher.config =
      configAfter (recordUpdates state call updates) := by
  cases call with
  | event event => exact config_step stepped inForce
  | stats groups now =>
      cases stepped
      exact inForce

/-- A call that is no update keeps the configuration. -/
theorem config_of_keepsConfig
    {call : SchedulerCall}
    (stepped : self.stepCall state call = some next)
    (kept : call.keepsConfig = true)
    {updates : List PartialDispatcherConfig}
    (inForce : state.dispatcher.config = configAfter updates) :
    next.dispatcher.config = configAfter updates := by
  have after := config_stepCall stepped inForce
  cases call with
  | stats => exact after
  | event event =>
      cases event with
      | configure | evict => cases kept
      | _ => exact after

end Steps

section Runs

variable {self : CfpSchedulerDO}
variable {state next final : SchedulerState}
variable {calls later : List SchedulerCall}
variable {updates : List PartialDispatcherConfig}

/-- The default with all updates is in force. -/
def UpdatesInForce
    (current : SchedulerState × List PartialDispatcherConfig) : Prop :=
  current.1.dispatcher.config = configAfter current.2

/-- In every run the default with all updates is in force. -/
theorem config_of_run
    (ran :
      Run (recording self.stepCall recordUpdates) ({}, []) calls
        (state, updates)) :
    state.dispatcher.config = configAfter updates := by
  have initially : UpdatesInForce ({}, []) := rfl
  refine ran.invariant ?_ initially
  intro current call after _ stepped inForce
  obtain ⟨next, isNext, rfl⟩ := Option.map_eq_some_iff.mp stepped
  exact config_stepCall isNext inForce

/-- Until the next update, it stays in force. -/
theorem config_of_later
    (went : Run self.stepCall state later final)
    (kept : ∀ call ∈ later, call.keepsConfig = true)
    (inForce : state.dispatcher.config = configAfter updates) :
    final.dispatcher.config = configAfter updates := by
  induction went with
  | nil => exact inForce
  | cons _ stepped _ inductionHypothesis =>
      rw [List.forall_mem_cons] at kept
      exact
        inductionHypothesis kept.2
          (config_of_keepsConfig stepped kept.1 inForce)

/-- What `configure` answers. -/
theorem answer_of_configure
    {c : PartialDispatcherConfig}
    {effective : DispatcherConfig}
    (configured : self.step state (.configure c) = some next)
    (answered : next.replies = state.replies ++ [.configured effective]) :
    effective =
      if state.created.isSome then
        state.dispatcher.config.overlay c
      else
        ({} : DispatcherConfig).overlay c := by
  obtain ⟨segment, isSegment, rfl⟩ := Option.map_eq_some_iff.mp configured
  cases isSegment
  rw [(Segment.finishes self _ _).replies] at answered
  unfold SchedulerState.configure SchedulerState.reply at answered
  have same := List.append_cancel_left answered
  cases created : state.created with
  | none =>
      simp only [created, Option.map_none] at same
      cases same
      rfl
  | some dispatcher =>
      simp only [created, Option.map_some] at same
      cases same
      unfold SchedulerState.dispatcher
      rw [created]
      rfl

/--
`configure` reports the default with all updates, which is what the dispatcher
uses until the next one, exactly when the dispatcher has been created, or the
call sets again whatever the earlier ones changed from its default.
-/
theorem configure_reports_iff
    {c : PartialDispatcherConfig}
    {effective : DispatcherConfig}
    (ran :
      Run (recording self.stepCall recordUpdates) ({}, []) calls
        (state, updates))
    (configured : self.step state (.configure c) = some next)
    (answered : next.replies = state.replies ++ [.configured effective])
    (went : Run self.stepCall next later final)
    (kept : ∀ call ∈ later, call.keepsConfig = true) :
    (effective = configAfter (updates ++ [c]) ∧
        final.dispatcher.config = effective) ↔
      state.created.isSome = true ∨ c.Overwrites (configAfter updates) := by
  have inForce := config_of_run ran
  have afterwards := config_of_later went kept (config_step configured inForce)
  rw [recordUpdates] at afterwards
  rw [afterwards, answer_of_configure configured answered, inForce,
    configAfter_concat]
  cases created : state.created.isSome with
  | true => simp
  | false =>
      rw [if_neg Bool.false_ne_true, ← overlay_default_iff]
      simp [eq_comm]

end Runs

/-- An update, and an enqueue that creates the dispatcher. -/
def configuredThenEnqueued : List SchedulerCall :=
  [.event (.configure { inFlightLimit := some 8 }), .event (.enqueue .slow)]

/-- A second update reports both, which stay in force. -/
theorem configure_reports_secondUpdate :
    ∃ state next later,
      Run (recording CfpSchedulerDO.plain.stepCall recordUpdates) ({}, [])
          configuredThenEnqueued (state, [{ inFlightLimit := some 8 }]) ∧
        CfpSchedulerDO.plain.step state
            (.configure { fairCapacityPerTenant := some 2 }) =
          some next ∧
          Run CfpSchedulerDO.plain.stepCall next [.event (.resume 0 (.at 10))]
            later ∧
            later.dispatcher.config =
              { inFlightLimit := 8, fairCapacityPerTenant := 2 } := by
  have executed :
      (configuredThenEnqueued.foldlM
          (recording CfpSchedulerDO.plain.stepCall recordUpdates)
          ({}, [])) =
        some (_, [{ inFlightLimit := some 8 }]) := rfl
  have ran := GuardedRun.of_foldlM executed
  have kept :
      ∀ call ∈ [SchedulerCall.event (.resume 0 (.at 10))],
        call.keepsConfig = true := by
    intro call member
    cases List.mem_singleton.mp member
    rfl
  refine ⟨_, _, _, ran, rfl, .of_foldlM rfl, ?_⟩
  have reports :=
    configure_reports_iff ran (c := { fairCapacityPerTenant := some 2 }) rfl rfl
      (.of_foldlM rfl) kept
  exact (reports.mpr (.inl rfl)).2

/--
Of two updates before the dispatcher is created, the second answer forgets the
first one, which stays in force.
-/
theorem not_configure_reports_second :
    ∃ (first second : SchedulerState) (effective : DispatcherConfig),
      Run (recording CfpSchedulerDO.plain.stepCall recordUpdates) ({}, [])
          [.event (.configure { inFlightLimit := some 8 })]
          (first, [{ inFlightLimit := some 8 }]) ∧
        CfpSchedulerDO.plain.step first
            (.configure { fairCapacityPerTenant := some 2 }) =
          some second ∧
          second.replies = first.replies ++ [.configured effective] ∧
            effective.inFlightLimit = 32 ∧
              second.dispatcher.config.inFlightLimit = 8 ∧
                ¬ (effective =
                      configAfter
                        [{ inFlightLimit := some 8 },
                          { fairCapacityPerTenant := some 2 }] ∧
                    second.dispatcher.config = effective) := by
  refine ⟨_, _, _, .of_foldlM rfl, rfl, rfl, rfl, rfl, ?_⟩
  rintro ⟨reported, -⟩
  exact absurd (congrArg DispatcherConfig.inFlightLimit reported) (by decide)

end CloudflareParallel
