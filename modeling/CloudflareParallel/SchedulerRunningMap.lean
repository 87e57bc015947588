import CloudflareParallel.SchedulerReadySet

namespace CloudflareParallel

open KeyedTables

/-!
# The running map and the limits

The dispatcher checks its limits against the running map when it takes a job.
A bucket holds jobs of its own tenant only, so that the tenant whose cap is
checked is the tenant of the job; executions with distinct entries in the map
are at most as many as the map allows.
-/

namespace Dispatcher

/-- Every job in a bucket belongs to the bucket's tenant. -/
def OwnTenants (dispatcher : Dispatcher) : Prop :=
  ∀ tenantId queue,
    OrderedMap.lookup dispatcher.ready tenantId = some queue →
    ∀ job ∈ queue, job.tenantId = tenantId

namespace OwnTenants

variable {dispatcher : Dispatcher}

theorem congr
    {next : Dispatcher}
    (own : dispatcher.OwnTenants)
    (sameReady : next.ready = dispatcher.ready) :
    next.OwnTenants := by
  unfold OwnTenants
  rw [sameReady]
  exact own

theorem of_empty (empty : dispatcher.ready = .empty) :
    dispatcher.OwnTenants := by
  intro tenantId queue found
  rw [empty] at found
  cases found

/-- A bucket is written with jobs of its tenant. -/
theorem setBucket
    (own : dispatcher.OwnTenants)
    {next : Dispatcher}
    {tenantId : String}
    {queue : List PersistedJob}
    (written :
      next.ready = OrderedMap.set dispatcher.ready tenantId queue)
    (owned : ∀ job ∈ queue, job.tenantId = tenantId) :
    next.OwnTenants := by
  intro other bucket found
  rw [written, OrderedMap.lookup_set] at found
  split at found
  next same =>
    cases found
    rw [← same]
    exact owned
  next =>
    exact own other bucket found

theorem enqueueReady
    (own : dispatcher.OwnTenants)
    (job : PersistedJob) :
    (dispatcher.enqueueReady job).OwnTenants := by
  unfold Dispatcher.enqueueReady
  split
  next =>
    refine own.setBucket rfl fun other member => ?_
    rw [List.mem_singleton.mp member]
  next queue found =>
    refine own.setBucket rfl fun other member => ?_
    rcases List.mem_append.mp member with before | new
    · exact own _ _ found other before
    · rw [List.mem_singleton.mp new]

theorem foldl
    (own : dispatcher.OwnTenants)
    (jobs : List PersistedJob) :
    (jobs.foldl Dispatcher.enqueueReady dispatcher).OwnTenants := by
  induction jobs generalizing dispatcher with
  | nil =>
      exact own
  | cons job rest inductionHypothesis =>
      exact inductionHypothesis (own.enqueueReady job)

theorem removeTenant
    (own : dispatcher.OwnTenants)
    (tenantId : String) :
    (dispatcher.removeTenant tenantId).OwnTenants := by
  intro other queue found
  have foundBefore :
      OrderedMap.lookup (OrderedMap.delete dispatcher.ready tenantId) other =
        some queue :=
    found
  rw [OrderedMap.lookup_delete] at foundBefore
  split at foundBefore
  · cases foundBefore
  · exact own other queue foundBefore

theorem shrinkBucket
    (own : dispatcher.OwnTenants)
    {tenantId : String}
    {queue : List PersistedJob}
    (owned : ∀ job ∈ queue, job.tenantId = tenantId) :
    (dispatcher.shrinkBucket tenantId queue).OwnTenants := by
  unfold Dispatcher.shrinkBucket
  split
  · exact own.removeTenant tenantId
  · exact own.setBucket rfl owned

theorem dropFromReady
    (own : dispatcher.OwnTenants)
    (jobId : String) :
    (dispatcher.dropFromReady jobId).OwnTenants := by
  unfold Dispatcher.dropFromReady
  split
  next =>
    exact own
  next tenantId queue found =>
    have bucket := OrderedMap.lookup_of_mem (List.mem_of_find?_eq_some found)
    exact own.shrinkBucket fun job member =>
      own tenantId queue bucket job (List.mem_of_mem_eraseP member)

/-- A job is only taken while its tenant is below its cap. -/
theorem takeNextReadyFrom
    (own : dispatcher.OwnTenants)
    (rounds i : Nat) :
    (Dispatcher.takeNextReadyFrom rounds i dispatcher).2.OwnTenants ∧
      ∀ job ∈ (Dispatcher.takeNextReadyFrom rounds i dispatcher).1,
        dispatcher.tenantInFlight job.tenantId <
          dispatcher.config.fairCapacityPerTenant := by
  induction rounds generalizing i dispatcher with
  | zero =>
      exact ⟨own, fun _ none => by cases none⟩
  | succ rounds inductionHypothesis =>
      unfold Dispatcher.takeNextReadyFrom
      split
      next =>
        split
        · exact ⟨own, fun _ none => by cases none⟩
        next tenantId others order =>
          have rotated :
              (dispatcher.withOrder (others ++ [tenantId])).OwnTenants :=
            own
          split
          next =>
            exact inductionHypothesis (rotated.removeTenant tenantId) _
          next first queue bucket =>
            have owned : ∀ job ∈ first :: queue, job.tenantId = tenantId := by
              cases found : OrderedMap.lookup dispatcher.ready tenantId with
              | none =>
                  rw [found] at bucket
                  cases bucket
              | some stored =>
                  rw [found] at bucket
                  cases bucket
                  exact own tenantId _ found
            split
            next =>
              exact inductionHypothesis rotated _
            next below =>
              refine ⟨rotated.shrinkBucket fun job member =>
                owned job (List.mem_cons_of_mem first member), ?_⟩
              rintro job isFirst
              cases isFirst
              rw [owned first List.mem_cons_self]
              exact Int.not_le.mp below
      next =>
        exact ⟨own, fun _ none => by cases none⟩

/-- What is left in the buckets stays with its tenants. -/
theorem takeNextReady (own : dispatcher.OwnTenants) :
    dispatcher.takeNextReady.2.OwnTenants :=
  (own.takeNextReadyFrom _ 0).1

/-- The tenant of a job that is taken is below its cap. -/
theorem below_of_taken
    (own : dispatcher.OwnTenants)
    {next : Dispatcher}
    {job : PersistedJob}
    (took : dispatcher.takeNextReady = (some job, next)) :
    dispatcher.tenantInFlight job.tenantId <
      dispatcher.config.fairCapacityPerTenant := by
  apply (own.takeNextReadyFrom dispatcher.tenantOrder.length 0).2
  rw [← Dispatcher.takeNextReady, took]
  rfl

end OwnTenants

/-- The jobs have distinct entries in the running map, with their tenants. -/
structure Registers
    (dispatcher : Dispatcher)
    (jobs : List PersistedJob) : Prop where
  distinct : (jobs.map PersistedJob.id).Nodup
  registered :
    ∀ job ∈ jobs,
      OrderedMap.lookup dispatcher.running job.id =
        some { id := job.id, tenantId := job.tenantId }

/-- The running map is within the limits. -/
structure WithinLimits (dispatcher : Dispatcher) : Prop where
  inFlight : dispatcher.runningCount ≤ dispatcher.config.inFlightLimit
  perTenant :
    ∀ tenantId,
      dispatcher.tenantInFlight tenantId ≤
        dispatcher.config.fairCapacityPerTenant

/-- There is room for one more run of a tenant. -/
structure HasRoomFor
    (dispatcher : Dispatcher)
    (tenantId : String) : Prop where
  inFlight : dispatcher.runningCount < dispatcher.config.inFlightLimit
  perTenant :
    dispatcher.tenantInFlight tenantId <
      dispatcher.config.fairCapacityPerTenant

/-- The `finally` callback of an execution takes its entry out of the map. -/
def unregister
    (dispatcher : Dispatcher)
    (jobId : String) : Dispatcher :=
  { dispatcher with running := OrderedMap.delete dispatcher.running jobId }

/-- The map has an entry for a run that starts. -/
def register
    (dispatcher : Dispatcher)
    (job : PersistedJob) : Dispatcher :=
  { dispatcher with
    running :=
      OrderedMap.set dispatcher.running job.id
        { id := job.id, tenantId := job.tenantId }
    loop := .idle }

namespace Registers

variable {dispatcher next : Dispatcher} {jobs : List PersistedJob}

theorem congr
    (registers : dispatcher.Registers jobs)
    (sameRunning : next.running = dispatcher.running) :
    next.Registers jobs where
  distinct := registers.distinct
  registered := by
    rw [sameRunning]
    exact registers.registered

theorem perm
    {others : List PersistedJob}
    (registers : dispatcher.Registers jobs)
    (sameJobs : jobs.Perm others) :
    dispatcher.Registers others where
  distinct := (sameJobs.map _).nodup_iff.mp registers.distinct
  registered job member :=
    registers.registered job (sameJobs.mem_iff.mpr member)

/-- An execution ends, and the others keep their entries. -/
theorem unregister
    {job : PersistedJob}
    (registers : dispatcher.Registers (job :: jobs)) :
    (dispatcher.unregister job.id).Registers jobs := by
  obtain ⟨unlisted, distinct⟩ := List.nodup_cons.mp registers.distinct
  refine ⟨distinct, fun other member => ?_⟩
  have different : job.id ≠ other.id := fun same =>
    unlisted (same ▸ List.mem_map_of_mem member)
  unfold Dispatcher.unregister
  rw [OrderedMap.lookup_delete, if_neg different]
  exact registers.registered other (List.mem_cons_of_mem job member)

/-- A job that has no entry gets one of its own. -/
theorem register
    {job : PersistedJob}
    (registers : dispatcher.Registers jobs)
    (fresh : job.id ∉ OrderedMap.keys dispatcher.running) :
    (dispatcher.register job).Registers (job :: jobs) := by
  have isOther {other : PersistedJob} (member : other ∈ jobs) :
      job.id ≠ other.id := by
    intro same
    apply fresh
    rw [OrderedMap.mem_keys_iff, same, registers.registered other member]
    rfl
  refine ⟨List.nodup_cons.mpr ⟨?_, registers.distinct⟩, ?_⟩
  · intro listed
    obtain ⟨other, member, same⟩ := List.mem_map.mp listed
    exact isOther member same.symm
  · intro other member
    unfold Dispatcher.register
    rw [OrderedMap.lookup_set]
    rcases List.mem_cons.mp member with rfl | member
    · rw [if_pos rfl]
    · rw [if_neg (isOther member)]
      exact registers.registered other member

end Registers

namespace WithinLimits

variable {dispatcher : Dispatcher}

/-- The map and the limits decide. -/
theorem congr
    {next : Dispatcher}
    (within : dispatcher.WithinLimits)
    (sameRunning : next.running = dispatcher.running)
    (sameLimit :
      next.config.inFlightLimit = dispatcher.config.inFlightLimit)
    (sameCapacity :
      next.config.fairCapacityPerTenant =
        dispatcher.config.fairCapacityPerTenant) :
    next.WithinLimits where
  inFlight := by
    rw [runningCount, sameRunning, sameLimit]
    exact within.inFlight
  perTenant tenantId := by
    rw [tenantInFlight, sameRunning, sameCapacity]
    exact within.perTenant tenantId

theorem unregister
    (within : dispatcher.WithinLimits)
    (jobId : String) :
    (dispatcher.unregister jobId).WithinLimits where
  inFlight :=
    (Int.ofNat_le.mpr (OrderedMap.size_delete_le _ _)).trans within.inFlight
  perTenant tenantId :=
    (Int.ofNat_le.mpr (OrderedMap.countP_values_delete_le _ _ _)).trans
      (within.perTenant tenantId)

/-- A run is registered where there is room for it. -/
theorem register
    {job : PersistedJob}
    (within : dispatcher.WithinLimits)
    (fresh : job.id ∉ OrderedMap.keys dispatcher.running)
    (room : dispatcher.HasRoomFor job.tenantId) :
    (dispatcher.register job).WithinLimits where
  inFlight := by
    have size :
        (dispatcher.register job).runningCount =
          dispatcher.runningCount + 1 :=
      OrderedMap.size_set_of_absent fresh _
    rw [size]
    exact Int.add_one_le_of_lt room.inFlight
  perTenant tenantId := by
    have count :
        (dispatcher.register job).tenantInFlight tenantId =
          dispatcher.tenantInFlight tenantId +
            (decide (job.tenantId = tenantId)).toNat :=
      OrderedMap.countP_values_set_of_absent fresh _ _
    rw [count]
    by_cases isTenant : job.tenantId = tenantId
    · rw [← isTenant, decide_eq_true rfl]
      exact Int.add_one_le_of_lt room.perTenant
    · rw [decide_eq_false isTenant]
      exact within.perTenant tenantId

end WithinLimits

/-- A map that no run has left has room for what it had room for. -/
theorem HasRoomFor.congr
    {dispatcher next : Dispatcher}
    {tenantId : String}
    (room : dispatcher.HasRoomFor tenantId)
    (sameRunning : next.running = dispatcher.running)
    (sameConfig : next.config = dispatcher.config) :
    next.HasRoomFor tenantId where
  inFlight := by
    rw [runningCount, sameRunning, sameConfig]
    exact room.inFlight
  perTenant := by
    rw [tenantInFlight, sameRunning, sameConfig]
    exact room.perTenant

/-- A run that ends takes no room. -/
theorem HasRoomFor.unregister
    {dispatcher : Dispatcher}
    {tenantId : String}
    (room : dispatcher.HasRoomFor tenantId)
    (jobId : String) :
    (dispatcher.unregister jobId).HasRoomFor tenantId where
  inFlight :=
    (Int.ofNat_le.mpr (OrderedMap.size_delete_le _ _)).trans_lt room.inFlight
  perTenant :=
    (Int.ofNat_le.mpr
      (OrderedMap.countP_values_delete_le _ _ _)).trans_lt room.perTenant

end Dispatcher

end CloudflareParallel
