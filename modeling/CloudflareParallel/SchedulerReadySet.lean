import CloudflareParallel.SchedulerDispatcher

namespace CloudflareParallel

open KeyedTables

/-!
# The ready buckets

What the operations of the dispatcher's memory do to the ready jobs, and the
invariant of the buckets: the cyclic order lists, without repetition, the
tenants that have a bucket, and no bucket is empty.
-/

namespace Dispatcher

/-- Two dispatchers that differ at most in their ready buckets. -/
structure SameButReady (dispatcher next : Dispatcher) : Prop where
  config : next.config = dispatcher.config
  running : next.running = dispatcher.running
  loop : next.loop = dispatcher.loop

namespace SameButReady

theorem refl (dispatcher : Dispatcher) : dispatcher.SameButReady dispatcher :=
  ⟨rfl, rfl, rfl⟩

theorem trans
    {first second third : Dispatcher}
    (before : first.SameButReady second)
    (after : second.SameButReady third) :
    first.SameButReady third where
  config := after.config.trans before.config
  running := after.running.trans before.running
  loop := after.loop.trans before.loop

end SameButReady

theorem sameButReady_enqueueReady
    (dispatcher : Dispatcher)
    (job : PersistedJob) :
    dispatcher.SameButReady (dispatcher.enqueueReady job) := by
  unfold enqueueReady
  split <;> exact ⟨rfl, rfl, rfl⟩

theorem sameButReady_foldl
    (jobs : List PersistedJob)
    (dispatcher : Dispatcher) :
    dispatcher.SameButReady (jobs.foldl enqueueReady dispatcher) := by
  induction jobs generalizing dispatcher with
  | nil =>
      exact .refl dispatcher
  | cons job rest inductionHypothesis =>
      exact (sameButReady_enqueueReady dispatcher job).trans
        (inductionHypothesis _)

theorem sameButReady_withOrder
    (dispatcher : Dispatcher)
    (order : List String) :
    dispatcher.SameButReady (dispatcher.withOrder order) :=
  ⟨rfl, rfl, rfl⟩

theorem sameButReady_removeTenant
    (dispatcher : Dispatcher)
    (tenantId : String) :
    dispatcher.SameButReady (dispatcher.removeTenant tenantId) :=
  ⟨rfl, rfl, rfl⟩

theorem sameButReady_shrinkBucket
    (dispatcher : Dispatcher)
    (tenantId : String)
    (queue : List PersistedJob) :
    dispatcher.SameButReady (dispatcher.shrinkBucket tenantId queue) := by
  unfold shrinkBucket
  split <;> exact ⟨rfl, rfl, rfl⟩

theorem sameButReady_dropFromReady
    (dispatcher : Dispatcher)
    (jobId : String) :
    dispatcher.SameButReady (dispatcher.dropFromReady jobId) := by
  unfold dropFromReady
  split
  · exact .refl dispatcher
  · exact sameButReady_shrinkBucket ..

theorem sameButReady_takeNextReadyFrom
    (rounds i : Nat)
    (dispatcher : Dispatcher) :
    dispatcher.SameButReady (takeNextReadyFrom rounds i dispatcher).2 := by
  induction rounds generalizing i dispatcher with
  | zero =>
      exact .refl dispatcher
  | succ rounds inductionHypothesis =>
      unfold takeNextReadyFrom
      split
      · split
        · exact .refl dispatcher
        next tenantId others order =>
          have rotated :=
            sameButReady_withOrder dispatcher (others ++ [tenantId])
          split
          · exact (rotated.trans (sameButReady_removeTenant ..)).trans
              (inductionHypothesis _ _)
          · split
            · exact rotated.trans (inductionHypothesis _ _)
            · exact rotated.trans (sameButReady_shrinkBucket ..)
      · exact .refl dispatcher

/-- Taking a job changes nothing but the buckets. -/
theorem sameButReady_takeNextReady
    {dispatcher next : Dispatcher}
    {taken : Option PersistedJob}
    (took : dispatcher.takeNextReady = (taken, next)) :
    dispatcher.SameButReady next := by
  have same :=
    sameButReady_takeNextReadyFrom dispatcher.tenantOrder.length 0 dispatcher
  rw [← takeNextReady, took] at same
  exact same

/-! ## The ready jobs -/

/-- A job is ready when it is in some bucket. -/
theorem mem_readyJobs
    {dispatcher : Dispatcher}
    {job : PersistedJob} :
    job ∈ dispatcher.readyJobs ↔
      ∃ tenantId queue,
        OrderedMap.lookup dispatcher.ready tenantId = some queue ∧
          job ∈ queue := by
  unfold readyJobs OrderedMap.values
  rw [List.mem_flatten]
  constructor
  · rintro ⟨queue, member, inQueue⟩
    obtain ⟨⟨tenantId, _⟩, entry, rfl⟩ := List.mem_map.mp member
    exact ⟨tenantId, _, OrderedMap.lookup_of_mem entry, inQueue⟩
  · rintro ⟨tenantId, queue, found, inQueue⟩
    exact ⟨queue, List.mem_map.mpr ⟨_, OrderedMap.mem_of_lookup found, rfl⟩,
      inQueue⟩

theorem totalReady_eq_length (dispatcher : Dispatcher) :
    dispatcher.totalReady = dispatcher.readyJobs.length := by
  rw [totalReady, readyJobs, List.length_flatten]

/-- The buckets only lose what was in the one that is written back. -/
theorem mem_readyJobs_set
    {dispatcher : Dispatcher}
    {tenantId : String}
    {queue order : _}
    {job : PersistedJob} :
    job ∈
        ({ dispatcher with
            ready := OrderedMap.set dispatcher.ready tenantId queue
            tenantOrder := order } : Dispatcher).readyJobs ↔
      job ∈ queue ∨
        ∃ other bucket,
          other ≠ tenantId ∧
            OrderedMap.lookup dispatcher.ready other = some bucket ∧
              job ∈ bucket := by
  rw [mem_readyJobs]
  constructor
  · rintro ⟨other, bucket, found, inBucket⟩
    rw [OrderedMap.lookup_set] at found
    split at found
    next =>
      cases found
      exact .inl inBucket
    next different =>
      exact .inr ⟨other, bucket, Ne.symm different, found, inBucket⟩
  · rintro (inQueue | ⟨other, bucket, different, found, inBucket⟩)
    · exact ⟨tenantId, queue, OrderedMap.lookup_set_self .., inQueue⟩
    · refine ⟨other, bucket, ?_, inBucket⟩
      rw [OrderedMap.lookup_set, if_neg (Ne.symm different)]
      exact found

/-- A ready job is in the bucket of a tenant or in another one. -/
theorem mem_readyJobs_split
    (dispatcher : Dispatcher)
    (tenantId : String)
    {job : PersistedJob} :
    job ∈ dispatcher.readyJobs ↔
      job ∈ (OrderedMap.lookup dispatcher.ready tenantId).getD [] ∨
        ∃ other bucket,
          other ≠ tenantId ∧
            OrderedMap.lookup dispatcher.ready other = some bucket ∧
              job ∈ bucket := by
  rw [mem_readyJobs]
  constructor
  · rintro ⟨other, bucket, found, inBucket⟩
    by_cases same : other = tenantId
    · rw [← same, found]
      exact .inl inBucket
    · exact .inr ⟨other, bucket, same, found, inBucket⟩
  · rintro (inBucket | ⟨other, bucket, _, found, inBucket⟩)
    · cases found : OrderedMap.lookup dispatcher.ready tenantId with
      | none =>
          rw [found] at inBucket
          cases inBucket
      | some bucket =>
          rw [found] at inBucket
          exact ⟨tenantId, bucket, found, inBucket⟩
    · exact ⟨other, bucket, found, inBucket⟩

/-- A job that is put into the ready set is ready, and the others stay. -/
theorem mem_readyJobs_enqueueReady
    {dispatcher : Dispatcher}
    {job other : PersistedJob} :
    other ∈ (dispatcher.enqueueReady job).readyJobs ↔
      other ∈ dispatcher.readyJobs ∨ other = job := by
  rw [mem_readyJobs_split dispatcher job.tenantId]
  unfold enqueueReady
  split
  next absent =>
    rw [mem_readyJobs_set, absent]
    simp [or_comm]
  next queue found =>
    have set :=
      @mem_readyJobs_set dispatcher job.tenantId (queue ++ [job])
        dispatcher.tenantOrder other
    rw [set, found, Option.getD_some, List.mem_append, List.mem_singleton]
    exact or_right_comm

theorem mem_readyJobs_foldl
    {jobs : List PersistedJob}
    {dispatcher : Dispatcher}
    {job : PersistedJob} :
    job ∈ (jobs.foldl enqueueReady dispatcher).readyJobs ↔
      job ∈ dispatcher.readyJobs ∨ job ∈ jobs := by
  induction jobs generalizing dispatcher with
  | nil =>
      simp
  | cons first rest inductionHypothesis =>
      rw [List.foldl_cons, inductionHypothesis, mem_readyJobs_enqueueReady,
        List.mem_cons]
      tauto

/-- Removing a tenant loses its bucket only. -/
theorem mem_readyJobs_removeTenant
    {dispatcher : Dispatcher}
    {tenantId : String}
    {job : PersistedJob} :
    job ∈ (dispatcher.removeTenant tenantId).readyJobs ↔
      ∃ other bucket,
        other ≠ tenantId ∧
          OrderedMap.lookup dispatcher.ready other = some bucket ∧
            job ∈ bucket := by
  rw [mem_readyJobs]
  constructor
  · rintro ⟨other, bucket, found, inBucket⟩
    change
      OrderedMap.lookup (OrderedMap.delete dispatcher.ready tenantId) other =
        some bucket at found
    rw [OrderedMap.lookup_delete] at found
    split at found
    · cases found
    next different =>
      exact ⟨other, bucket, Ne.symm different, found, inBucket⟩
  · rintro ⟨other, bucket, different, found, inBucket⟩
    refine ⟨other, bucket, ?_, inBucket⟩
    change
      OrderedMap.lookup (OrderedMap.delete dispatcher.ready tenantId) other =
        some bucket
    rw [OrderedMap.lookup_delete, if_neg (Ne.symm different)]
    exact found

/-- Writing a bucket back replaces its jobs. -/
theorem mem_readyJobs_shrinkBucket
    {dispatcher : Dispatcher}
    {tenantId : String}
    {queue : List PersistedJob}
    {job : PersistedJob} :
    job ∈ (dispatcher.shrinkBucket tenantId queue).readyJobs ↔
      job ∈ queue ∨
        ∃ other bucket,
          other ≠ tenantId ∧
            OrderedMap.lookup dispatcher.ready other = some bucket ∧
              job ∈ bucket := by
  unfold shrinkBucket
  split
  next isEmpty =>
    rw [mem_readyJobs_removeTenant, List.isEmpty_iff.mp isEmpty]
    simp
  next =>
    exact
      @mem_readyJobs_set dispatcher tenantId queue dispatcher.tenantOrder job

/-- Dropping a job keeps every job with another id. -/
theorem mem_readyJobs_dropFromReady
    {dispatcher : Dispatcher}
    {jobId : String}
    {job : PersistedJob}
    (ready : job ∈ dispatcher.readyJobs)
    (otherId : job.id ≠ jobId) :
    job ∈ (dispatcher.dropFromReady jobId).readyJobs := by
  unfold dropFromReady
  split
  next =>
    exact ready
  next tenantId queue found =>
    have entry := OrderedMap.lookup_of_mem (List.mem_of_find?_eq_some found)
    rw [mem_readyJobs_shrinkBucket]
    rw [mem_readyJobs_split dispatcher tenantId, entry] at ready
    refine ready.imp_left fun inQueue => ?_
    rwa [List.mem_eraseP_of_neg (by simpa using otherId)]

/-- Dropping a job adds none. -/
theorem readyJobs_of_dropFromReady
    {dispatcher : Dispatcher}
    {jobId : String}
    {job : PersistedJob}
    (ready : job ∈ (dispatcher.dropFromReady jobId).readyJobs) :
    job ∈ dispatcher.readyJobs := by
  unfold dropFromReady at ready
  split at ready
  next =>
    exact ready
  next tenantId queue found =>
    have entry := OrderedMap.lookup_of_mem (List.mem_of_find?_eq_some found)
    rw [mem_readyJobs_shrinkBucket] at ready
    rw [mem_readyJobs_split dispatcher tenantId, entry]
    exact ready.imp_left List.mem_of_mem_eraseP

/-- What taking the next job does to the ready jobs. -/
theorem mem_readyJobs_takeNextReadyFrom
    (rounds i : Nat)
    (dispatcher : Dispatcher)
    {job : PersistedJob}
    (ready : job ∈ dispatcher.readyJobs) :
    (takeNextReadyFrom rounds i dispatcher).1 = some job ∨
      job ∈ (takeNextReadyFrom rounds i dispatcher).2.readyJobs := by
  induction rounds generalizing i dispatcher with
  | zero =>
      exact .inr ready
  | succ rounds inductionHypothesis =>
      unfold takeNextReadyFrom
      split
      next =>
        split
        · exact .inr ready
        next tenantId others order =>
          have rotated :
              job ∈
                (dispatcher.withOrder (others ++ [tenantId])).readyJobs :=
            ready
          split
          next noJobs =>
            apply inductionHypothesis
            rw [mem_readyJobs_removeTenant]
            rw [mem_readyJobs_split dispatcher tenantId, noJobs] at ready
            exact ready.resolve_left List.not_mem_nil
          next first queue bucket =>
            split
            · exact inductionHypothesis _ _ rotated
            · rw [mem_readyJobs_split dispatcher tenantId, bucket,
                List.mem_cons] at ready
              rw [mem_readyJobs_shrinkBucket]
              rcases ready with (rfl | inQueue) | elsewhere
              · exact .inl rfl
              · exact .inr (.inl inQueue)
              · exact .inr (.inr elsewhere)
      next =>
        exact .inr ready

/-- A ready job is the one that is taken, or stays ready. -/
theorem mem_readyJobs_takeNextReady
    {dispatcher next : Dispatcher}
    {taken : Option PersistedJob}
    (took : dispatcher.takeNextReady = (taken, next))
    {job : PersistedJob}
    (ready : job ∈ dispatcher.readyJobs) :
    taken = some job ∨ job ∈ next.readyJobs := by
  have kept :=
    mem_readyJobs_takeNextReadyFrom dispatcher.tenantOrder.length 0 dispatcher
      ready
  rw [← takeNextReady, took] at kept
  exact kept

/-- Taking a job leaves only jobs that were ready, and takes one of them. -/
theorem ready_of_takeNextReadyFrom
    (rounds i : Nat)
    (dispatcher : Dispatcher) :
    (∀ job ∈ (takeNextReadyFrom rounds i dispatcher).2.readyJobs,
        job ∈ dispatcher.readyJobs) ∧
      ∀ job ∈ (takeNextReadyFrom rounds i dispatcher).1,
        job ∈ dispatcher.readyJobs := by
  induction rounds generalizing i dispatcher with
  | zero =>
      exact ⟨fun _ => id, fun _ none => by cases none⟩
  | succ rounds inductionHypothesis =>
      unfold takeNextReadyFrom
      split
      next =>
        split
        · exact ⟨fun _ => id, fun _ none => by cases none⟩
        next tenantId others order =>
          split
          next noJobs =>
            obtain ⟨kept, taken⟩ :=
              inductionHypothesis (i + 1)
                ((dispatcher.withOrder (others ++ [tenantId])).removeTenant
                  tenantId)
            have wasReady {job : PersistedJob}
                (ready :
                  job ∈
                    ((dispatcher.withOrder
                      (others ++ [tenantId])).removeTenant
                        tenantId).readyJobs) :
                job ∈ dispatcher.readyJobs := by
              rw [mem_readyJobs_removeTenant] at ready
              rw [mem_readyJobs_split dispatcher tenantId]
              exact .inr ready
            exact ⟨fun job ready => wasReady (kept job ready),
              fun job isTaken => wasReady (taken job isTaken)⟩
          next first queue bucket =>
            split
            · exact inductionHypothesis _ _
            · constructor
              · intro job ready
                rw [mem_readyJobs_shrinkBucket] at ready
                rw [mem_readyJobs_split dispatcher tenantId, bucket]
                exact ready.imp_left (List.mem_cons_of_mem first)
              · rintro job isFirst
                cases isFirst
                rw [mem_readyJobs_split dispatcher tenantId, bucket]
                exact .inl List.mem_cons_self
      next =>
        exact ⟨fun _ => id, fun _ none => by cases none⟩

/-- What stays ready was ready. -/
theorem readyJobs_of_takeNextReady
    {dispatcher next : Dispatcher}
    {taken : Option PersistedJob}
    (took : dispatcher.takeNextReady = (taken, next))
    {job : PersistedJob}
    (ready : job ∈ next.readyJobs) :
    job ∈ dispatcher.readyJobs := by
  have kept :=
    (ready_of_takeNextReadyFrom dispatcher.tenantOrder.length 0
      dispatcher).1
  rw [← takeNextReady, took] at kept
  exact kept job ready

/-- The job that is taken was ready. -/
theorem ready_of_taken
    {dispatcher next : Dispatcher}
    {job : PersistedJob}
    (took : dispatcher.takeNextReady = (some job, next)) :
    job ∈ dispatcher.readyJobs := by
  have taken :=
    (ready_of_takeNextReadyFrom dispatcher.tenantOrder.length 0
      dispatcher).2
  rw [← takeNextReady, took] at taken
  exact taken job rfl

/-- Some bucket has a job with this id. -/
def isReady
    (dispatcher : Dispatcher)
    (jobId : String) : Bool :=
  dispatcher.readyJobs.any (·.id = jobId)

theorem isReady_iff
    {dispatcher : Dispatcher}
    {jobId : String} :
    dispatcher.isReady jobId ↔
      ∃ job ∈ dispatcher.readyJobs, job.id = jobId := by
  simp [isReady]

theorem isReady_enqueueReady
    {dispatcher : Dispatcher}
    {job : PersistedJob}
    {jobId : String} :
    (dispatcher.enqueueReady job).isReady jobId ↔
      dispatcher.isReady jobId ∨ job.id = jobId := by
  rw [isReady_iff, isReady_iff]
  constructor
  · rintro ⟨other, ready, sameId⟩
    rcases mem_readyJobs_enqueueReady.mp ready with before | rfl
    · exact .inl ⟨other, before, sameId⟩
    · exact .inr sameId
  · rintro (⟨other, ready, sameId⟩ | sameId)
    · exact ⟨other, mem_readyJobs_enqueueReady.mpr (.inl ready), sameId⟩
    · exact ⟨job, mem_readyJobs_enqueueReady.mpr (.inr rfl), sameId⟩

theorem isReady_dropFromReady
    {dispatcher : Dispatcher}
    {droppedId jobId : String}
    (ready : dispatcher.isReady jobId)
    (different : jobId ≠ droppedId) :
    (dispatcher.dropFromReady droppedId).isReady jobId := by
  rw [isReady_iff] at ready ⊢
  obtain ⟨job, isJob, rfl⟩ := ready
  exact ⟨job, mem_readyJobs_dropFromReady isJob different, rfl⟩

theorem isReady_takeNextReady
    {dispatcher next : Dispatcher}
    {taken : Option PersistedJob}
    (took : dispatcher.takeNextReady = (taken, next))
    {jobId : String}
    (ready : dispatcher.isReady jobId)
    (different : ∀ job, taken = some job → jobId ≠ job.id) :
    next.isReady jobId := by
  rw [isReady_iff] at ready ⊢
  obtain ⟨job, isJob, rfl⟩ := ready
  rcases mem_readyJobs_takeNextReady took isJob with isTaken | stays
  · exact absurd rfl (different job isTaken)
  · exact ⟨job, stays, rfl⟩

theorem totalReady_pos_iff
    {dispatcher : Dispatcher} :
    0 < dispatcher.totalReady ↔ ∃ job, job ∈ dispatcher.readyJobs := by
  rw [totalReady_eq_length, List.length_pos_iff_exists_mem]

/-- A ready job counts. -/
theorem totalReady_pos_of_isReady
    {dispatcher : Dispatcher}
    {jobId : String}
    (ready : dispatcher.isReady jobId) :
    0 < dispatcher.totalReady := by
  obtain ⟨job, isJob, -⟩ := isReady_iff.mp ready
  exact totalReady_pos_iff.mpr ⟨job, isJob⟩

/-! ## The invariant of the buckets -/

/-- The tenant order and the buckets fit together. -/
structure WellFormed (dispatcher : Dispatcher) : Prop where
  orderNodup : dispatcher.tenantOrder.Nodup
  orderTenants :
    ∀ tenantId,
      tenantId ∈ dispatcher.tenantOrder ↔
        tenantId ∈ OrderedMap.keys dispatcher.ready
  bucketsNonempty :
    ∀ tenantId queue,
      OrderedMap.lookup dispatcher.ready tenantId = some queue → queue ≠ []

namespace WellFormed

theorem clearReady (dispatcher : Dispatcher) :
    dispatcher.clearReady.WellFormed where
  orderNodup := .nil
  orderTenants _ := Iff.rfl
  bucketsNonempty _ _ found := by cases found

/-- The invariant only looks at the buckets and the order. -/
theorem congr
    {dispatcher next : Dispatcher}
    (wellFormed : dispatcher.WellFormed)
    (sameReady : next.ready = dispatcher.ready)
    (sameOrder : next.tenantOrder = dispatcher.tenantOrder) :
    next.WellFormed where
  orderNodup := sameOrder ▸ wellFormed.orderNodup
  orderTenants := by
    rw [sameOrder, sameReady]
    exact wellFormed.orderTenants
  bucketsNonempty := by
    rw [sameReady]
    exact wellFormed.bucketsNonempty

theorem enqueueReady
    {dispatcher : Dispatcher}
    (wellFormed : dispatcher.WellFormed)
    (job : PersistedJob) :
    (dispatcher.enqueueReady job).WellFormed := by
  unfold Dispatcher.enqueueReady
  split
  next absent =>
    have fresh : job.tenantId ∉ dispatcher.tenantOrder := by
      rw [wellFormed.orderTenants, OrderedMap.mem_keys_iff, absent]
      simp
    refine {
      orderNodup := ?_
      orderTenants := ?_
      bucketsNonempty := ?_
    }
    · exact List.nodup_append.mpr
        ⟨wellFormed.orderNodup, List.nodup_singleton _, by
          rintro tenantId member other isNew rfl
          exact fresh (List.mem_singleton.mp isNew ▸ member)⟩
    · intro tenantId
      rw [List.mem_append, List.mem_singleton, OrderedMap.mem_keys_set,
        wellFormed.orderTenants]
      exact or_comm
    · intro tenantId queue found
      rw [OrderedMap.lookup_set] at found
      split at found
      · cases found
        simp
      · exact wellFormed.bucketsNonempty tenantId queue found
  next queue present =>
    refine {
      orderNodup := wellFormed.orderNodup
      orderTenants := ?_
      bucketsNonempty := ?_
    }
    · intro tenantId
      rw [OrderedMap.mem_keys_set, wellFormed.orderTenants]
      constructor
      · exact .inr
      · rintro (rfl | member)
        · rw [OrderedMap.mem_keys_iff, present]
          rfl
        · exact member
    · intro tenantId other found
      rw [OrderedMap.lookup_set] at found
      split at found
      · cases found
        simp
      · exact wellFormed.bucketsNonempty tenantId other found

theorem foldl
    {dispatcher : Dispatcher}
    (wellFormed : dispatcher.WellFormed)
    (jobs : List PersistedJob) :
    (jobs.foldl Dispatcher.enqueueReady dispatcher).WellFormed := by
  induction jobs generalizing dispatcher with
  | nil =>
      exact wellFormed
  | cons job rest inductionHypothesis =>
      exact inductionHypothesis (wellFormed.enqueueReady job)

theorem removeTenant
    {dispatcher : Dispatcher}
    (wellFormed : dispatcher.WellFormed)
    (tenantId : String) :
    (dispatcher.removeTenant tenantId).WellFormed where
  orderNodup := wellFormed.orderNodup.erase tenantId
  orderTenants other := by
    change
      other ∈ dispatcher.tenantOrder.erase tenantId ↔
        other ∈ OrderedMap.keys (OrderedMap.delete dispatcher.ready tenantId)
    rw [wellFormed.orderNodup.mem_erase_iff, OrderedMap.mem_keys_delete,
      wellFormed.orderTenants]
  bucketsNonempty other queue found := by
    change
      OrderedMap.lookup (OrderedMap.delete dispatcher.ready tenantId) other =
        some queue at found
    rw [OrderedMap.lookup_delete] at found
    split at found
    · cases found
    · exact wellFormed.bucketsNonempty other queue found

/-- A bucket that is there is written back without breaking the invariant. -/
theorem shrinkBucket
    {dispatcher : Dispatcher}
    (wellFormed : dispatcher.WellFormed)
    {tenantId : String}
    (present : tenantId ∈ OrderedMap.keys dispatcher.ready)
    (queue : List PersistedJob) :
    (dispatcher.shrinkBucket tenantId queue).WellFormed := by
  unfold Dispatcher.shrinkBucket
  split
  next =>
    exact wellFormed.removeTenant tenantId
  next nonempty =>
    refine {
      orderNodup := wellFormed.orderNodup
      orderTenants := ?_
      bucketsNonempty := ?_
    }
    · intro other
      rw [OrderedMap.mem_keys_set, wellFormed.orderTenants]
      constructor
      · exact .inr
      · rintro (rfl | member)
        · exact present
        · exact member
    · intro other bucket found
      rw [OrderedMap.lookup_set] at found
      split at found
      · cases found
        simpa using nonempty
      · exact wellFormed.bucketsNonempty other bucket found

theorem dropFromReady
    {dispatcher : Dispatcher}
    (wellFormed : dispatcher.WellFormed)
    (jobId : String) :
    (dispatcher.dropFromReady jobId).WellFormed := by
  unfold Dispatcher.dropFromReady
  split
  next =>
    exact wellFormed
  next tenantId queue found =>
    apply wellFormed.shrinkBucket
    rw [OrderedMap.mem_keys_iff,
      OrderedMap.lookup_of_mem (List.mem_of_find?_eq_some found)]
    rfl

/-- Rotating the order keeps the invariant. -/
theorem rotate
    {dispatcher : Dispatcher}
    (wellFormed : dispatcher.WellFormed)
    {tenantId : String}
    {others : List String}
    (order : dispatcher.tenantOrder = tenantId :: others) :
    (dispatcher.withOrder (others ++ [tenantId])).WellFormed where
  orderNodup := by
    change (others ++ [tenantId]).Nodup
    rw [(List.perm_append_singleton tenantId others).nodup_iff, ← order]
    exact wellFormed.orderNodup
  orderTenants other := by
    change other ∈ others ++ [tenantId] ↔ _
    rw [(List.perm_append_singleton tenantId others).mem_iff, ← order]
    exact wellFormed.orderTenants other
  bucketsNonempty := wellFormed.bucketsNonempty

theorem takeNextReadyFrom
    (rounds i : Nat)
    {dispatcher : Dispatcher}
    (wellFormed : dispatcher.WellFormed) :
    (Dispatcher.takeNextReadyFrom rounds i dispatcher).2.WellFormed := by
  induction rounds generalizing i dispatcher with
  | zero =>
      exact wellFormed
  | succ rounds inductionHypothesis =>
      unfold Dispatcher.takeNextReadyFrom
      split
      next =>
        split
        · exact wellFormed
        next tenantId others order =>
          have rotated := wellFormed.rotate order
          split
          · exact inductionHypothesis _ (rotated.removeTenant tenantId)
          · split
            · exact inductionHypothesis _ rotated
            · apply rotated.shrinkBucket
              change tenantId ∈ OrderedMap.keys dispatcher.ready
              rw [← wellFormed.orderTenants, order]
              exact List.mem_cons_self
      next =>
        exact wellFormed

/-- Taking a job keeps the invariant. -/
theorem takeNextReady
    {dispatcher next : Dispatcher}
    {taken : Option PersistedJob}
    (wellFormed : dispatcher.WellFormed)
    (took : dispatcher.takeNextReady = (taken, next)) :
    next.WellFormed := by
  have kept :=
    wellFormed.takeNextReadyFrom dispatcher.tenantOrder.length 0
  rw [← Dispatcher.takeNextReady, took] at kept
  exact kept

/-- With a ready job, nothing running and a capacity, a job is taken. -/
theorem takes
    {dispatcher : Dispatcher}
    (wellFormed : dispatcher.WellFormed)
    (someReady : 0 < dispatcher.totalReady)
    (noneRunning : dispatcher.runningCount = 0)
    (capacity : 1 ≤ dispatcher.config.fairCapacityPerTenant) :
    ∃ job, dispatcher.takeNextReady.1 = some job := by
  obtain ⟨job, ready⟩ := totalReady_pos_iff.mp someReady
  obtain ⟨readyTenant, readyQueue, readyFound, -⟩ := mem_readyJobs.mp ready
  have nonempty : readyTenant ∈ dispatcher.tenantOrder := by
    rw [wellFormed.orderTenants, OrderedMap.mem_keys_iff, readyFound]
    rfl
  cases order : dispatcher.tenantOrder with
  | nil =>
      rw [order] at nonempty
      cases nonempty
  | cons tenantId others =>
      have hasBucket : tenantId ∈ OrderedMap.keys dispatcher.ready := by
        rw [← wellFormed.orderTenants, order]
        exact List.mem_cons_self
      rw [OrderedMap.mem_keys_iff, Option.isSome_iff_exists] at hasBucket
      obtain ⟨bucket, found⟩ := hasBucket
      have noneInFlight : dispatcher.tenantInFlight tenantId = 0 := by
        have noRows : dispatcher.running.rows = [] :=
          List.length_eq_zero_iff.mp noneRunning
        rw [tenantInFlight, OrderedMap.values, noRows]
        rfl
      cases bucket with
      | nil =>
          exact absurd rfl (wellFormed.bucketsNonempty tenantId [] found)
      | cons first queue =>
          refine ⟨first, ?_⟩
          have below :
              ¬ dispatcher.config.fairCapacityPerTenant ≤
                dispatcher.tenantInFlight tenantId := by
            rw [noneInFlight]
            omega
          simp [Dispatcher.takeNextReady, Dispatcher.takeNextReadyFrom,
            order, found, below]

end WellFormed

end Dispatcher

end CloudflareParallel
