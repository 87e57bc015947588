import CloudflareParallel.SchedulerBackoff
import CloudflareParallel.SchedulerFairness

namespace CloudflareParallel

open KeyedTables LabelledRuns

/-!
# The ready set holds no job twice

The jobs on offer are those that are ready and those that a suspended producer
is about to put into the ready set.  Only the producers add to them, each when
it takes a job up: before the await that separates it from the insertion.
-/

namespace Dispatcher

/-- The ids of the ready jobs. -/
def readyIds (dispatcher : Dispatcher) : List String :=
  dispatcher.readyJobs.map (·.id)

/-- The ready jobs of a tenant and those of the others. -/
theorem readyJobs_perm_bucket
    (dispatcher : Dispatcher)
    (tenantId : String) :
    dispatcher.readyJobs.Perm
      (dispatcher.bucket tenantId ++
        (dispatcher.removeTenant tenantId).readyJobs) := by
  unfold bucket readyJobs removeTenant
  cases found : OrderedMap.lookup dispatcher.ready tenantId with
  | none =>
      rw [OrderedMap.delete_of_absent found]
      exact .refl _
  | some queue =>
      exact (OrderedMap.values_perm_of_lookup found).flatten

/-- The ready jobs once a bucket has been written. -/
theorem readyJobs_set_perm
    (dispatcher : Dispatcher)
    (tenantId : String)
    (queue : List PersistedJob)
    (order : List String) :
    ({ dispatcher with
        ready := OrderedMap.set dispatcher.ready tenantId queue
        tenantOrder := order } : Dispatcher).readyJobs.Perm
      (queue ++ (dispatcher.removeTenant tenantId).readyJobs) :=
  (OrderedMap.values_set_perm dispatcher.ready tenantId queue).flatten

theorem readyJobs_enqueueReady_perm
    (dispatcher : Dispatcher)
    (job : PersistedJob) :
    (dispatcher.enqueueReady job).readyJobs.Perm
      (job :: dispatcher.readyJobs) := by
  have parts := dispatcher.readyJobs_perm_bucket job.tenantId
  unfold enqueueReady
  split
  next absent =>
    rw [bucket, absent] at parts
    exact (dispatcher.readyJobs_set_perm job.tenantId [job] _).trans
      (parts.symm.cons job)
  next queue found =>
    rw [bucket, found] at parts
    refine (dispatcher.readyJobs_set_perm job.tenantId _ _).trans ?_
    rw [List.append_assoc]
    exact List.perm_middle.trans (parts.symm.cons job)

theorem readyJobs_shrinkBucket_perm
    (dispatcher : Dispatcher)
    (tenantId : String)
    (queue : List PersistedJob) :
    (dispatcher.shrinkBucket tenantId queue).readyJobs.Perm
      (queue ++ (dispatcher.removeTenant tenantId).readyJobs) := by
  unfold shrinkBucket
  split
  next isEmpty =>
    rw [List.isEmpty_iff.mp isEmpty]
    exact .refl _
  next =>
    exact dispatcher.readyJobs_set_perm tenantId queue _

/-- A bucket that loses jobs loses them from the ready set. -/
theorem readyJobs_shrinkBucket_subperm
    {dispatcher : Dispatcher}
    {tenantId : String}
    {queue : List PersistedJob}
    (fewer : queue.Sublist (dispatcher.bucket tenantId)) :
    (dispatcher.shrinkBucket tenantId queue).readyJobs.Subperm
      dispatcher.readyJobs := by
  have shrunk := dispatcher.readyJobs_shrinkBucket_perm tenantId queue
  have parts := dispatcher.readyJobs_perm_bucket tenantId
  exact shrunk.subperm.trans
    ((fewer.append (List.Sublist.refl _)).subperm.trans parts.symm.subperm)

theorem readyJobs_removeTenant_subperm
    (dispatcher : Dispatcher)
    (tenantId : String) :
    (dispatcher.removeTenant tenantId).readyJobs.Subperm
      dispatcher.readyJobs :=
  (List.sublist_append_right _ _).subperm.trans
    (dispatcher.readyJobs_perm_bucket tenantId).symm.subperm

theorem readyJobs_takeNextReadyFrom_subperm
    (rounds i : Nat)
    (dispatcher : Dispatcher) :
    (takeNextReadyFrom rounds i dispatcher).2.readyJobs.Subperm
      dispatcher.readyJobs := by
  induction rounds generalizing i dispatcher with
  | zero =>
      exact .refl _
  | succ rounds inductionHypothesis =>
      unfold takeNextReadyFrom
      split
      next =>
        split
        next =>
          exact .refl _
        next tenantId others order =>
          have rotated :
              (dispatcher.withOrder (others ++ [tenantId])).readyJobs =
                dispatcher.readyJobs := rfl
          split
          next noJobs =>
            exact (inductionHypothesis (i + 1) _).trans
              (readyJobs_removeTenant_subperm
                (dispatcher.withOrder (others ++ [tenantId])) tenantId)
          next job queue found =>
            split
            next =>
              exact inductionHypothesis (i + 1) _
            next =>
              have firstOfBucket :
                  (dispatcher.withOrder
                      (others ++ [tenantId])).bucket tenantId =
                    job :: queue := found
              exact readyJobs_shrinkBucket_subperm
                (firstOfBucket ▸ List.sublist_cons_self job queue)
      next =>
        exact .refl _

theorem readyJobs_dropFromReady_subperm
    (dispatcher : Dispatcher)
    (jobId : String) :
    (dispatcher.dropFromReady jobId).readyJobs.Subperm
      dispatcher.readyJobs := by
  unfold dropFromReady
  split
  next =>
    exact .refl _
  next tenantId queue found =>
    have entry := OrderedMap.lookup_of_mem (List.mem_of_find?_eq_some found)
    have isBucket : dispatcher.bucket tenantId = queue := by
      rw [bucket, entry, Option.getD_some]
    exact readyJobs_shrinkBucket_subperm
      (isBucket ▸ List.eraseP_sublist)

/-- A turn adds the job that enters, and no other. -/
theorem readyJobs_turn_subperm
    (dispatcher : Dispatcher)
    (turn : DispatcherTurn) :
    (dispatcher.turn turn).readyJobs.Subperm
      (enteredJobs [turn] ++ dispatcher.readyJobs) := by
  cases turn with
  | enters job =>
      exact (dispatcher.readyJobs_enqueueReady_perm job).subperm
  | drops jobId => exact dispatcher.readyJobs_dropFromReady_subperm jobId
  | clears tenantId => exact dispatcher.readyJobs_removeTenant_subperm tenantId
  | picks => exact dispatcher.readyJobs_takeNextReadyFrom_subperm ..
  | starts job => exact .refl _
  | settles jobId => exact .refl _
  | configures config => exact .refl _
  | empties => exact List.nil_subperm
  | suspends loop => exact .refl _

/-- And so does a list of turns. -/
theorem readyJobs_turns_subperm
    (dispatcher : Dispatcher)
    (turns : List DispatcherTurn) :
    (dispatcher.turns turns).readyJobs.Subperm
      (enteredJobs turns ++ dispatcher.readyJobs) := by
  induction turns generalizing dispatcher with
  | nil =>
      exact .refl _
  | cons first rest inductionHypothesis =>
      rw [enteredJobs_cons, turns_cons]
      refine (inductionHypothesis (dispatcher.turn first)).trans ?_
      refine ((List.subperm_append_left (enteredJobs rest)).mpr
        (dispatcher.readyJobs_turn_subperm first)).trans ?_
      rw [← List.append_assoc]
      exact (List.perm_append_comm.append_right _).subperm

end Dispatcher

/-! ## The producers -/

/-- The jobs that a suspended task is going to put into the ready set. -/
def SchedulerTask.inserts : SchedulerTask → List PersistedJob
  | .rebuild queued _ => queued
  | .enqueueStored job => [job]
  | .requeueing job => [retryJob job]
  | .retryTimer job _ => [job]
  | _ => []

/-- `rebuildFromStorage` begins. -/
def DispatcherTurn.isRebuild : DispatcherTurn → Bool
  | .empties => true
  | _ => false

namespace SchedulerState

/-- The jobs that suspended tasks are going to put into the ready set. -/
def underWay (state : SchedulerState) : List PersistedJob :=
  state.tasks.flatMap (·.inserts)

/-- The ids of these jobs. -/
def underWayIds (state : SchedulerState) : List String :=
  state.underWay.map (·.id)

/-- The step begins a rebuild. -/
def beginsRebuild
    (state : SchedulerState)
    (event : SchedulerEvent) : Bool :=
  (state.segmentTurns event).any (·.isRebuild)

end SchedulerState

/--
The jobs that a step takes up: those that a rebuild lists, the job of an
enqueue that the store accepts, the job of a failure that is stored as queued.
-/
def CfpSchedulerDO.takenUp
    (self : CfpSchedulerDO)
    (state : SchedulerState)
    (event : SchedulerEvent) : List PersistedJob :=
  if state.beginsRebuild event then
    state.store.peek none 10000
  else
    match event with
    | .resume index readings =>
        match state.tasks[index]? with
        | some (.rebuilt (.enqueue req)) =>
            if state.dispatcher.queueIsFull || readings.rejection.isSome ||
                !(state.store.enqueue readings.now
                  (req.toJob readings.now)).isOk then
              []
            else
              [req.toJob readings.now]
        | some (.settled job (.error rawErr)) =>
            if readings.rejection = none ∧
                (state.store.fail readings.now job.id self.ownerId
                  (errorToRecord rawErr)).2 = .queued then
              [retryJob job]
            else
              []
        | _ => []
    | _ => []

/--
The condition on a step: a job that it takes up is not on its way into the
ready set already, nor in it, unless a rebuild has just emptied it.
-/
def TakesUpOnce
    (self : CfpSchedulerDO)
    (state : SchedulerState)
    (event : SchedulerEvent) : Prop :=
  ∀ job ∈ self.takenUp state event,
    job.id ∉ state.underWayIds ∧
      (state.beginsRebuild event ∨ job.id ∉ state.dispatcher.readyIds)

instance
    (self : CfpSchedulerDO)
    (state : SchedulerState)
    (event : SchedulerEvent) : Decidable (TakesUpOnce self state event) :=
  inferInstanceAs (Decidable (∀ job ∈ _, _))

/-- Among the turns of a task, a rebuild stands alone. -/
theorem SchedulerTask.turns_of_isRebuild
    {state : SchedulerState}
    {now : Int}
    {task : SchedulerTask}
    (rebuilds : (task.turns state now).any (·.isRebuild)) :
    task.turns state now = [.empties] := by
  cases task with
  | rebuild queued caller =>
      simp [turns, DispatcherTurn.isRebuild] at rebuilds
  | cancelDone jobId ok =>
      cases ok <;> cases rebuilds
  | cancelTenant tenantId reason active count =>
      cases active <;> cases rebuilds
  | alarmReclaimed now reclaimed =>
      rw [turns] at rebuilds ⊢
      split at rebuilds
      next some => exact if_pos some
      next => cases rebuilds
  | alarmSwept now =>
      rw [turns] at rebuilds ⊢
      split at rebuilds
      next => cases rebuilds
      next room => exact if_neg room
  | requeueing job =>
      rw [turns] at rebuilds
      split at rebuilds <;> cases rebuilds
  | retryTimer job wakeAt =>
      rw [turns] at rebuilds
      split at rebuilds <;> cases rebuilds
  | _ =>
      cases rebuilds

/-- The turns of a task that goes on are those of the step. -/
theorem SchedulerState.segmentTurns_resume
    {state : SchedulerState}
    {index : Nat}
    {task : SchedulerTask}
    (found : state.tasks[index]? = some task)
    (readings : Readings) :
    state.segmentTurns (.resume index readings) =
      task.turns state readings.now := by
  simp only [segmentTurns, found, Option.map_some, Option.getD_some]

/-- And so it does among the turns of a step before the kick. -/
theorem SchedulerState.segmentTurns_of_beginsRebuild
    {state : SchedulerState}
    {event : SchedulerEvent}
    (rebuilds : state.beginsRebuild event) :
    state.segmentTurns event = [.empties] := by
  have initializes
      (rebuilds : state.ensureInitTurns.any (·.isRebuild)) :
      state.ensureInitTurns = [.empties] := by
    unfold ensureInitTurns at rebuilds ⊢
    split at rebuilds
    · cases rebuilds
    next uninitialized => exact if_neg uninitialized
  unfold beginsRebuild at rebuilds
  cases event with
  | enqueue req => exact initializes rebuilds
  | deliverAlarm now => exact initializes rebuilds
  | resume index readings =>
      cases found : state.tasks[index]? with
      | none =>
          simp [segmentTurns, found] at rebuilds
      | some task =>
          rw [segmentTurns_resume found] at rebuilds ⊢
          exact SchedulerTask.turns_of_isRebuild rebuilds
  | resumeLoop readings =>
      simp only [segmentTurns] at rebuilds
      split at rebuilds <;> cases rebuilds
  | _ =>
      cases rebuilds

theorem enteredJobs_map (jobs : List PersistedJob) :
    enteredJobs (jobs.map .enters) = jobs := by
  induction jobs with
  | nil => rfl
  | cons job rest inductionHypothesis =>
      exact congrArg (job :: ·) inductionHypothesis

/-- A rebuild takes up what it lists. -/
theorem CfpSchedulerDO.takenUp_of_rebuild
    {self : CfpSchedulerDO}
    {state : SchedulerState}
    {event : SchedulerEvent}
    (rebuilds : state.segmentTurns event = [.empties]) :
    self.takenUp state event = state.store.peek none 10000 := by
  unfold takenUp SchedulerState.beginsRebuild
  rw [rebuilds]
  rfl

/-- The jobs that a task inserts or has under way, it had or takes up. -/
theorem SchedulerTask.GoesOn.inserts_subperm
    {self : CfpSchedulerDO}
    {state : SchedulerState}
    {index : Nat}
    {readings : Readings}
    {old new : SchedulerTask}
    {started : List SchedulerTask}
    {dispatcher : Dispatcher}
    (found : state.tasks[index]? = some old)
    (goes : old.GoesOn self state readings new started dispatcher) :
    (enteredJobs (old.turns state readings.now) ++
        (new.inserts ++ started.flatMap (·.inserts))).Subperm
      (self.takenUp state (.resume index readings) ++ old.inserts) := by
  have turns := SchedulerState.segmentTurns_resume found readings
  have had
      {jobs : List PersistedJob}
      (same : jobs = old.inserts) :
      jobs.Subperm
        (self.takenUp state (.resume index readings) ++ old.inserts) :=
    same ▸ (List.sublist_append_right _ _).subperm
  have takes
      {jobs : List PersistedJob}
      (same : self.takenUp state (.resume index readings) = jobs) :
      jobs.Subperm
        (self.takenUp state (.resume index readings) ++ old.inserts) :=
    same ▸ (List.sublist_append_left _ _).subperm
  have lists
      (rebuilds : old.turns state readings.now = [.empties]) :
      self.takenUp state (.resume index readings) =
        state.store.peek none 10000 :=
    self.takenUp_of_rebuild (turns.trans rebuilds)
  cases goes with
  | @rebuild queued caller =>
      refine had ?_
      change enteredJobs (queued.map .enters) ++ [] = queued
      rw [enteredJobs_map, List.append_nil]
  | @accepted req store isCall accepted =>
      have stays : state.beginsRebuild (.resume index readings) = false := by
        rw [SchedulerState.beginsRebuild, turns]
        rfl
      have passes :
          (state.dispatcher.queueIsFull || readings.rejection.isSome) =
            false := by
        simp only [CfpSchedulerDO.taskCalls] at isCall
        split at isCall
        next => cases isCall
        next passes => exact Bool.eq_false_iff.mpr passes
      have isOk :
          (state.store.enqueue readings.now
            (req.toJob readings.now)).isOk = true := by
        rw [accepted]
        rfl
      refine takes ?_
      simp only [CfpSchedulerDO.takenUp, stays, found, passes, isOk]
      rfl
  | @someReclaimed now reclaimed some =>
      have rebuilds :
          (alarmReclaimed now reclaimed).turns state readings.now =
            [.empties] :=
        if_pos some
      rw [rebuilds]
      exact takes ((lists rebuilds).trans (List.append_nil _).symm)
  | @backstop now room =>
      have rebuilds :
          (alarmSwept now).turns state readings.now = [.empties] :=
        if_neg (Int.not_le.mpr room)
      rw [rebuilds]
      exact takes ((lists rebuilds).trans (List.append_nil _).symm)
  | @requeued job rawErr accepts queued =>
      have stays : state.beginsRebuild (.resume index readings) = false := by
        rw [SchedulerState.beginsRebuild, turns]
        rfl
      refine takes ?_
      simp only [CfpSchedulerDO.takenUp, stays, found, accepts, queued]
      rfl
  | @retryNow job now =>
      refine had ?_
      change enteredJobs (if _ then _ else _) ++ [] = [retryJob job]
      rw [if_pos now]
      rfl
  | @retryLater job later =>
      refine had ?_
      change enteredJobs (if _ then _ else _) ++ _ = [retryJob job]
      rw [if_neg (Int.not_le.mpr later)]
      rfl
  | @retryTimer job wakeAt due =>
      refine had ?_
      change enteredJobs (if _ then _ else _) ++ [] = [job]
      rw [if_pos due]
      rfl
  | @busy now =>
      change (enteredJobs (if _ then _ else _) ++ []).Subperm _
      split <;> exact List.nil_subperm
  | enqueueStored => exact had rfl
  | _ => exact List.nil_subperm

/-- The jobs of one task and those of the others. -/
theorem insertsOf_perm
    {tasks : List SchedulerTask}
    {index : Nat}
    {task : SchedulerTask}
    (found : tasks[index]? = some task) :
    (tasks.flatMap (·.inserts)).Perm
      (task.inserts ++ (tasks.eraseIdx index).flatMap (·.inserts)) := by
  obtain ⟨inside, rfl⟩ := List.getElem?_eq_some_iff.mp found
  exact (List.getElem_cons_eraseIdx_perm inside).symm.flatMap_right _

theorem insertsOf_set_perm
    {tasks : List SchedulerTask}
    {index : Nat}
    {old : SchedulerTask}
    (found : tasks[index]? = some old)
    (new : SchedulerTask) :
    ((tasks.set index new).flatMap (·.inserts)).Perm
      (new.inserts ++ (tasks.eraseIdx index).flatMap (·.inserts)) := by
  obtain ⟨inside, -⟩ := List.getElem?_eq_some_iff.mp found
  have replaced : (tasks.set index new)[index]? = some new :=
    List.getElem?_set_self inside
  have parts := insertsOf_perm replaced
  rw [List.eraseIdx_set_eq] at parts
  exact parts

/-- A task that does not insert anything adds nothing. -/
theorem insertsOf_append_of_none
    {tasks : List SchedulerTask}
    {task : SchedulerTask}
    (none : task.inserts = []) :
    (tasks ++ [task]).flatMap (·.inserts) =
      tasks.flatMap (·.inserts) := by
  simp [none]

/-- `#ensureInit` takes up what its rebuild lists. -/
theorem SchedulerState.Begins.inserts_subperm
    {self : CfpSchedulerDO}
    {state : SchedulerState}
    {event : SchedulerEvent}
    {caller : RebuildCaller}
    {task : SchedulerTask}
    {dispatcher : Dispatcher}
    (turns : state.segmentTurns event = state.ensureInitTurns)
    (begins : state.Begins caller task dispatcher) :
    (enteredJobs (state.segmentTurns event) ++
        (state.tasks ++ [task]).flatMap (·.inserts)).Subperm
      (self.takenUp state event ++ state.underWay) := by
  cases begins with
  | rebuilds uninitialized =>
      have rebuilds : state.segmentTurns event = [.empties] := by
        rw [turns, ensureInitTurns, uninitialized]
        rfl
      rw [self.takenUp_of_rebuild rebuilds, rebuilds, List.flatMap_append]
      have listed :
          [SchedulerTask.rebuild (state.store.peek none 10000)
              caller].flatMap (·.inserts) =
            state.store.peek none 10000 :=
        List.append_nil _
      rw [listed]
      exact (@List.perm_append_comm _ state.underWay _).subperm
  | isReady initialized =>
      have stays : state.segmentTurns event = [] := by
        rw [turns, ensureInitTurns, initialized]
        rfl
      rw [stays, insertsOf_append_of_none rfl]
      exact (List.sublist_append_right _ _).subperm

/-- The dispatch loop inserts nothing. -/
theorem SchedulerState.enteredJobs_resumeLoop
    (state : SchedulerState)
    (readings : LoopReadings) :
    enteredJobs (state.segmentTurns (.resumeLoop readings)) = [] := by
  simp only [segmentTurns]
  split <;> rfl

/-- What a step inserts or has under way, it had or takes up. -/
theorem CfpSchedulerDO.Moves.inserts_subperm
    {self : CfpSchedulerDO}
    {state : SchedulerState}
    {event : SchedulerEvent}
    {tasks : List SchedulerTask}
    {dispatcher : Dispatcher}
    (moves : self.Moves state event tasks dispatcher) :
    (enteredJobs (state.segmentTurns event) ++
        tasks.flatMap (·.inserts)).Subperm
      (self.takenUp state event ++ state.underWay) := by
  have same
      {jobs : List PersistedJob}
      (isSame : jobs = state.underWay) :
      jobs.Subperm (self.takenUp state event ++ state.underWay) :=
    isSame ▸ (List.sublist_append_right _ _).subperm
  cases moves with
  | enqueue begins => exact begins.inserts_subperm rfl
  | deliverAlarm begins => exact begins.inserts_subperm rfl
  | cancel => exact same (insertsOf_append_of_none rfl)
  | cancelByTenant => exact same (insertsOf_append_of_none rfl)
  | configure => exact same rfl
  | status => exact same rfl
  | result => exact same rfl
  | @resume index readings old new started _ found goes =>
      rw [SchedulerState.segmentTurns_resume found, List.flatMap_append]
      have own := goes.inserts_subperm found
      let others := (state.tasks.eraseIdx index).flatMap (·.inserts)
      have after :
          ((state.tasks.set index new).flatMap (·.inserts) ++
              started.flatMap (·.inserts)).Perm
            (new.inserts ++ started.flatMap (·.inserts) ++ others) := by
        refine ((insertsOf_set_perm found new).append_right _).trans ?_
        rw [List.append_assoc, List.append_assoc]
        exact List.perm_append_comm.append_left _
      have before :
          (self.takenUp state (.resume index readings) ++ old.inserts ++
              others).Perm
            (self.takenUp state (.resume index readings) ++
              state.underWay) := by
        rw [List.append_assoc]
        exact (insertsOf_perm found).symm.append_left _
      refine (after.append_left _).subperm.trans ?_
      rw [← List.append_assoc]
      exact ((List.subperm_append_right others).mpr own).trans before.subperm
  | loopGoesOn suspended unclaimed =>
      rw [state.enteredJobs_resumeLoop]
      exact same rfl
  | runs claimed =>
      rw [state.enteredJobs_resumeLoop, insertsOf_append_of_none rfl]
      exact same rfl
  | @settle index job call outcome found =>
      have before := insertsOf_perm found
      have after := insertsOf_set_perm found (.settled job outcome)
      exact ((after.trans before.symm).subperm).trans (same rfl)
  | evict => exact List.nil_subperm

/-! ## No job twice -/

/-- What is left of a list without repetition has none. -/
theorem nodup_of_subperm
    {ids fewer : List String}
    (nodup : ids.Nodup)
    (subperm : fewer.Subperm ids) :
    fewer.Nodup := by
  obtain ⟨part, perm, sublist⟩ := subperm
  exact perm.nodup_iff.mp (sublist.nodup nodup)

/-- The ids of some of the jobs are some of the ids. -/
theorem ids_subperm
    {jobs fewer : List PersistedJob}
    (subperm : fewer.Subperm jobs) :
    (fewer.map (·.id)).Subperm (jobs.map (·.id)) := by
  obtain ⟨part, perm, sublist⟩ := subperm
  exact ⟨part.map (·.id), perm.map _, sublist.map _⟩

/-- A listing names no job twice. -/
theorem JobStore.nodup_peek
    (store : JobStore)
    (tenantId : Option String)
    (limit : Nat) :
    ((store.peek tenantId limit).map (·.id)).Nodup := by
  have sorted (scan : JobScan) (rows : List JobsRow) :
      (byCreation (store.scan.arrange scan rows)).Perm rows :=
    (List.perm_insertionSort _ _).trans (store.scan.perm scan rows)
  unfold peek
  rw [List.map_map]
  refine ((List.take_sublist limit _).map _).nodup ?_
  refine ((sorted _ _).map JobsRow.id).nodup_iff.mpr ?_
  exact store.nodup_filter _

/-- A step takes no job up twice. -/
theorem CfpSchedulerDO.nodup_takenUp
    (self : CfpSchedulerDO)
    (state : SchedulerState)
    (event : SchedulerEvent) :
    ((self.takenUp state event).map (·.id)).Nodup := by
  unfold takenUp
  split
  next => exact state.store.nodup_peek none 10000
  next =>
    split
    next =>
      split
      next =>
        split
        · exact .nil
        · exact List.nodup_singleton _
      next =>
        split
        · exact List.nodup_singleton _
        · exact .nil
      next => exact .nil
    next => exact .nil

namespace SchedulerState

/-- The ids of the jobs that are ready or on their way into the ready set. -/
def onOffer (state : SchedulerState) : List String :=
  state.dispatcher.readyIds ++ state.underWayIds

/-- The ready jobs that a step starts from: a rebuild empties the ready set. -/
def keptReadyIds
    (state : SchedulerState)
    (event : SchedulerEvent) : List String :=
  if state.beginsRebuild event then [] else state.dispatcher.readyIds

end SchedulerState

/-- The kick of the dispatch loop inserts nothing. -/
theorem Segment.enteredJobs_loopTurns
    (self : CfpSchedulerDO)
    (readings : LoopReadings)
    (segment : Segment) :
    enteredJobs (segment.loopTurns self readings) = [] := by
  unfold loopTurns
  split <;> rfl

/-- What is ready after a step, up to its kick. -/
theorem CfpSchedulerDO.readyJobs_step_subperm
    {self : CfpSchedulerDO}
    {state next : SchedulerState}
    {event : SchedulerEvent}
    (stepped : self.step state event = some next)
    (staysLoaded : event ≠ .evict) :
    next.dispatcher.readyJobs.Subperm
      (state.dispatcher.turns (state.segmentTurns event)).readyJobs := by
  obtain ⟨segment, isSegment, rfl⟩ := Option.map_eq_some_iff.mp stepped
  rw [segment.dispatcher_finish, ← dispatcher_segment isSegment staysLoaded]
  have kicked :=
    segment.state.dispatcher.readyJobs_turns_subperm
      (segment.loopTurns self event.loopReadings)
  rw [segment.enteredJobs_loopTurns] at kicked
  exact kicked

/-- What is on offer after a step was on offer or is taken up. -/
theorem onOffer_step_subperm
    {self : CfpSchedulerDO}
    {state next : SchedulerState}
    {event : SchedulerEvent}
    (stepped : self.step state event = some next)
    (staysLoaded : event ≠ .evict) :
    next.onOffer.Subperm
      (state.keptReadyIds event ++
        ((self.takenUp state event).map (·.id) ++ state.underWayIds)) := by
  have ready := CfpSchedulerDO.readyJobs_step_subperm stepped staysLoaded
  obtain ⟨segment, isSegment, rfl⟩ := Option.map_eq_some_iff.mp stepped
  have inserted := (CfpSchedulerDO.moves isSegment).inserts_subperm
  rw [← (segment.finishes self event.loopReadings).tasks] at inserted
  have offered := ids_subperm inserted
  rw [List.map_append, List.map_append] at offered
  unfold SchedulerState.keptReadyIds
  cases rebuilds : state.beginsRebuild event with
  | true =>
      rw [SchedulerState.segmentTurns_of_beginsRebuild rebuilds] at ready
      have noneReady := List.subperm_nil.mp ready
      rw [SchedulerState.onOffer, Dispatcher.readyIds, noneReady]
      exact (List.sublist_append_right _ _).subperm.trans offered
  | false =>
      have becomesReady :=
        ids_subperm
          (ready.trans
            (state.dispatcher.readyJobs_turns_subperm
              (state.segmentTurns event)))
      rw [List.map_append] at becomesReady
      refine ((List.subperm_append_right _).mpr becomesReady).trans ?_
      refine (List.perm_append_comm.append_right _).subperm.trans ?_
      rw [List.append_assoc]
      exact (List.subperm_append_left _).mpr offered

/-- A step that meets the condition offers no job twice. -/
theorem nodup_onOffer_step
    {self : CfpSchedulerDO}
    {state next : SchedulerState}
    {event : SchedulerEvent}
    (takesUp : TakesUpOnce self state event)
    (stepped : self.step state event = some next)
    (nodup : state.onOffer.Nodup) :
    next.onOffer.Nodup := by
  by_cases staysLoaded : event = .evict
  · subst staysLoaded
    cases stepped
    exact .nil
  refine nodup_of_subperm ?_ (onOffer_step_subperm stepped staysLoaded)
  obtain ⟨readyOnce, underWayOnce, apart⟩ := List.nodup_append.mp nodup
  have offeredOnce :
      ((self.takenUp state event).map (·.id) ++ state.underWayIds).Nodup := by
    refine List.nodup_append.mpr
      ⟨self.nodup_takenUp state event, underWayOnce, ?_⟩
    rintro taken isTaken other isUnderWay rfl
    obtain ⟨job, member, rfl⟩ := List.mem_map.mp isTaken
    exact (takesUp job member).1 isUnderWay
  unfold SchedulerState.keptReadyIds
  cases rebuilds : state.beginsRebuild event with
  | true => exact offeredOnce
  | false =>
      refine List.nodup_append.mpr ⟨readyOnce, offeredOnce, ?_⟩
      rintro id isReady other isOffered rfl
      rcases List.mem_append.mp isOffered with isTaken | isUnderWay
      · obtain ⟨job, member, rfl⟩ := List.mem_map.mp isTaken
        have notReady := (takesUp job member).2
        rw [rebuilds] at notReady
        exact notReady.resolve_left Bool.false_ne_true isReady
      · exact apart id isReady id isUnderWay rfl

/-- No job is ready twice, and the depth of the queue counts jobs. -/
structure SchedulerState.CountsJobs (state : SchedulerState) : Prop where
  nodup : state.dispatcher.readyIds.Nodup
  totalReady :
    state.dispatcher.totalReady = state.dispatcher.readyIds.toFinset.card

/--
In a run in which no job is taken up while it is ready or on its way into the
ready set, every job id is in at most one place of the ready buckets.
-/
theorem scheduler_countsJobs
    {self : CfpSchedulerDO}
    {events : List SchedulerEvent}
    {state : SchedulerState}
    (run : GuardedRun self.step (TakesUpOnce self) {} events state) :
    state.CountsJobs := by
  have nodup : state.onOffer.Nodup :=
    @GuardedRun.invariant _ _ _ _
      (fun (state : SchedulerState) => state.onOffer.Nodup)
      nodup_onOffer_step _ _ _ run .nil
  have readyOnce := (List.nodup_append.mp nodup).1
  refine {
    nodup := readyOnce
    totalReady := ?_
  }
  rw [List.toFinset_card_of_nodup readyOnce, Dispatcher.readyIds,
    List.length_map, Dispatcher.totalReady_eq_length]

/-- A job that fails and waits for its delay is never offered twice. -/
theorem scheduler_countsJobs_flakyWaits :
    ∃ state : SchedulerState,
      GuardedRun (CfpSchedulerDO.step .plain) (TakesUpOnce .plain) {}
          flakyWaits state ∧
        state.CountsJobs := by
  have executed :
      (flakyWaits.foldlM
          (fun state event =>
            if TakesUpOnce .plain state event then
              CfpSchedulerDO.step .plain state event
            else
              none) {}).isSome := by
    decide +kernel
  obtain ⟨state, isFinal⟩ := Option.isSome_iff_exists.mp executed
  have run := GuardedRun.of_checked isFinal
  exact ⟨state, run, scheduler_countsJobs run⟩

/--
Two jobs wait for their retries, an alarm reads both back, and with a limit of
one only the first of them is dispatched; then both timers fire.
-/
def timersFireAfterAlarm : List SchedulerEvent :=
  .configure { inFlightLimit := some 1 } ::
    alarmReadsBack ++ [.resume 3 (.at 215), .resume 7 (.at 60020)]

/-- The job that waited for a minute is ready twice, and counts as two. -/
theorem scheduler_countsJob_twice :
    ∃ state : SchedulerState,
      Run (CfpSchedulerDO.step .plain) {} timersFireAfterAlarm state ∧
        state.dispatcher.readyIds = ["flaky", "slow", "flaky"] ∧
          ¬ state.CountsJobs := by
  have executed :
      (timersFireAfterAlarm.foldlM (CfpSchedulerDO.step .plain) {}).any
        fun state =>
          state.dispatcher.readyIds = ["flaky", "slow", "flaky"] := by
    decide +kernel
  obtain ⟨state, isFinal, twice⟩ := (Option.any_eq_true _ _).mp executed
  have isTwice := of_decide_eq_true twice
  refine ⟨state, .of_foldlM isFinal, isTwice, fun counts => ?_⟩
  have nodup := counts.nodup
  rw [isTwice] at nodup
  exact absurd nodup (by decide)

end CloudflareParallel
