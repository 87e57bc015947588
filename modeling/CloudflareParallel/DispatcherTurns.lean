import CloudflareParallel.SchedulerReadySet

namespace CloudflareParallel

open KeyedTables

/-!
# The turns of the dispatcher's memory

Everything that changes the memory of a dispatcher is one of its own
operations, a turn.  The turns that are picks take the tenants in cyclic order;
what the others do to the order and to the buckets bounds how long a tenant is
passed over, and keeps the jobs of a tenant in the order in which they came.
-/

/-- One operation on the dispatcher's memory. -/
inductive DispatcherTurn where
  /-- `#enqueueReady`, by whichever producer. -/
  | enters (job : PersistedJob)
  /-- `dropFromReady`. -/
  | drops (jobId : String)
  /-- `clearTenant`. -/
  | clears (tenantId : String)
  /-- `#takeNextReady`. -/
  | picks
  /-- A claimed job is noted as running. -/
  | starts (job : RunningJob)
  /-- An execution has come to its end. -/
  | settles (jobId : String)
  /-- The configuration is replaced. -/
  | configures (config : DispatcherConfig)
  /-- `rebuildFromStorage` begins. -/
  | empties
  /-- The dispatch loop comes to another await, or to its end. -/
  | suspends (loop : LoopState)

namespace Dispatcher

/-- What a turn leaves of the memory. -/
def turn
    (dispatcher : Dispatcher) : DispatcherTurn → Dispatcher
  | .enters job => dispatcher.enqueueReady job
  | .drops jobId => dispatcher.dropFromReady jobId
  | .clears tenantId => dispatcher.clearTenant tenantId
  | .picks => dispatcher.takeNextReady.2
  | .starts job =>
      { dispatcher with
        running := OrderedMap.set dispatcher.running job.id job }
  | .settles jobId =>
      { dispatcher with
        running := OrderedMap.delete dispatcher.running jobId }
  | .configures config => { dispatcher with config := config }
  | .empties => dispatcher.clearReady
  | .suspends loop => { dispatcher with loop := loop }

/-- The job that a turn takes out of the ready set to dispatch it. -/
def pickedBy
    (dispatcher : Dispatcher) : DispatcherTurn → Option PersistedJob
  | .picks => dispatcher.takeNextReady.1
  | _ => none

/-- The memory after a list of turns. -/
def turns : Dispatcher → List DispatcherTurn → Dispatcher :=
  List.foldl turn

/-- The jobs that a list of turns picks, in the order of the picks. -/
def pickedJobs
    (dispatcher : Dispatcher) : List DispatcherTurn → List PersistedJob
  | [] => []
  | first :: rest =>
      (dispatcher.pickedBy first).toList ++
        (dispatcher.turn first).pickedJobs rest

/-- The bucket of a tenant, empty where it has none. -/
def bucket
    (dispatcher : Dispatcher)
    (tenantId : String) : List PersistedJob :=
  (OrderedMap.lookup dispatcher.ready tenantId).getD []

end Dispatcher

/-- The jobs that a list of turns puts into the ready set, in order. -/
def enteredJobs : List DispatcherTurn → List PersistedJob
  | [] => []
  | .enters job :: rest => job :: enteredJobs rest
  | _ :: rest => enteredJobs rest

namespace Dispatcher

@[simp]
theorem turns_nil (dispatcher : Dispatcher) : dispatcher.turns [] = dispatcher :=
  rfl

@[simp]
theorem turns_cons
    (dispatcher : Dispatcher)
    (first : DispatcherTurn)
    (rest : List DispatcherTurn) :
    dispatcher.turns (first :: rest) = (dispatcher.turn first).turns rest :=
  rfl

theorem turns_append
    (dispatcher : Dispatcher)
    (earlier later : List DispatcherTurn) :
    dispatcher.turns (earlier ++ later) =
      (dispatcher.turns earlier).turns later :=
  List.foldl_append

theorem turns_enters
    (dispatcher : Dispatcher)
    (jobs : List PersistedJob) :
    dispatcher.turns (jobs.map .enters) = jobs.foldl enqueueReady dispatcher :=
  List.foldl_map

/-! ## The tenant order -/

/-- Every turn keeps the invariant of the buckets. -/
theorem WellFormed.turn
    {dispatcher : Dispatcher}
    (wellFormed : dispatcher.WellFormed)
    (turn : DispatcherTurn) :
    (dispatcher.turn turn).WellFormed := by
  cases turn with
  | enters job => exact wellFormed.enqueueReady job
  | drops jobId => exact wellFormed.dropFromReady jobId
  | clears tenantId => exact wellFormed.removeTenant tenantId
  | picks => exact wellFormed.takeNextReadyFrom ..
  | starts job => exact wellFormed.congr rfl rfl
  | settles jobId => exact wellFormed.congr rfl rfl
  | configures config => exact wellFormed.congr rfl rfl
  | empties => exact .clearReady dispatcher
  | suspends loop => exact wellFormed.congr rfl rfl

/-- And so does every list of turns. -/
theorem WellFormed.turns
    {dispatcher : Dispatcher}
    (wellFormed : dispatcher.WellFormed)
    (turns : List DispatcherTurn) :
    (dispatcher.turns turns).WellFormed := by
  induction turns generalizing dispatcher with
  | nil =>
      exact wellFormed
  | cons first rest inductionHypothesis =>
      exact inductionHypothesis (wellFormed.turn first)

/-- The order lists the tenants with a ready job, each of them once. -/
structure OrderIsExact (dispatcher : Dispatcher) : Prop where
  nodup : dispatcher.tenantOrder.Nodup
  tenants :
    ∀ tenantId,
      tenantId ∈ dispatcher.tenantOrder ↔ dispatcher.bucket tenantId ≠ []

theorem WellFormed.orderIsExact
    {dispatcher : Dispatcher}
    (wellFormed : dispatcher.WellFormed) :
    dispatcher.OrderIsExact where
  nodup := wellFormed.orderNodup
  tenants tenantId := by
    rw [wellFormed.orderTenants, OrderedMap.mem_keys_iff, bucket]
    cases found : OrderedMap.lookup dispatcher.ready tenantId with
    | none => simp
    | some queue =>
        have nonempty := wellFormed.bucketsNonempty tenantId queue found
        simpa using nonempty

/-! ## What a turn does to the buckets -/

theorem bucket_enqueueReady
    (dispatcher : Dispatcher)
    (job : PersistedJob)
    (tenantId : String) :
    (dispatcher.enqueueReady job).bucket tenantId =
      if job.tenantId = tenantId then
        dispatcher.bucket tenantId ++ [job]
      else
        dispatcher.bucket tenantId := by
  unfold enqueueReady
  split
  next absent =>
    unfold bucket
    rw [OrderedMap.lookup_set]
    split
    next same =>
      subst same
      simp [absent]
    next =>
      rfl
  next queue found =>
    unfold bucket
    rw [OrderedMap.lookup_set]
    split
    next same =>
      subst same
      simp [found]
    next =>
      rfl

theorem bucket_removeTenant
    (dispatcher : Dispatcher)
    (removed tenantId : String) :
    (dispatcher.removeTenant removed).bucket tenantId =
      if removed = tenantId then [] else dispatcher.bucket tenantId := by
  unfold removeTenant bucket
  rw [OrderedMap.lookup_delete]
  split <;> rfl

theorem bucket_shrinkBucket
    (dispatcher : Dispatcher)
    (shrunk tenantId : String)
    (queue : List PersistedJob) :
    (dispatcher.shrinkBucket shrunk queue).bucket tenantId =
      if shrunk = tenantId then queue else dispatcher.bucket tenantId := by
  unfold shrinkBucket
  split
  next isEmpty =>
    rw [bucket_removeTenant, List.isEmpty_iff.mp isEmpty]
  next =>
    unfold bucket
    rw [OrderedMap.lookup_set]
    split <;> rfl

theorem bucket_withOrder
    (dispatcher : Dispatcher)
    (order : List String)
    (tenantId : String) :
    (dispatcher.withOrder order).bucket tenantId =
      dispatcher.bucket tenantId :=
  rfl

theorem bucket_dropFromReady
    (dispatcher : Dispatcher)
    (jobId tenantId : String) :
    ((dispatcher.dropFromReady jobId).bucket tenantId).Sublist
      (dispatcher.bucket tenantId) := by
  unfold dropFromReady
  split
  next =>
    exact .refl _
  next shrunk queue found =>
    have entry := OrderedMap.lookup_of_mem (List.mem_of_find?_eq_some found)
    rw [bucket_shrinkBucket]
    split
    next same =>
      subst same
      rw [bucket, entry, Option.getD_some]
      exact List.eraseP_sublist
    next =>
      exact .refl _

/-- The buckets before and after a pick: it takes the first job of one. -/
inductive PicksFirst (dispatcher next : Dispatcher) :
    Option PersistedJob → Prop where
  | nothing :
      (∀ tenantId, next.bucket tenantId = dispatcher.bucket tenantId) →
      PicksFirst dispatcher next none
  | first {tenantId : String} {job : PersistedJob}
      {queue : List PersistedJob} :
      dispatcher.bucket tenantId = job :: queue →
      next.bucket tenantId = queue →
      (∀ other,
        other ≠ tenantId → next.bucket other = dispatcher.bucket other) →
      PicksFirst dispatcher next (some job)

/-- Only the buckets count. -/
theorem PicksFirst.of_sameBuckets
    {dispatcher before next : Dispatcher}
    {taken : Option PersistedJob}
    (picks : before.PicksFirst next taken)
    (same :
      ∀ tenantId, before.bucket tenantId = dispatcher.bucket tenantId) :
    dispatcher.PicksFirst next taken := by
  cases picks with
  | nothing unchanged =>
      exact .nothing fun tenantId =>
        (unchanged tenantId).trans (same tenantId)
  | first found rest others =>
      exact .first ((same _).symm.trans found) rest
        fun other different => (others other different).trans (same other)

theorem picksFirst_takeNextReadyFrom
    (rounds i : Nat)
    (dispatcher : Dispatcher) :
    dispatcher.PicksFirst (takeNextReadyFrom rounds i dispatcher).2
      (takeNextReadyFrom rounds i dispatcher).1 := by
  induction rounds generalizing i dispatcher with
  | zero =>
      exact .nothing fun _ => rfl
  | succ rounds inductionHypothesis =>
      unfold takeNextReadyFrom
      split
      next =>
        split
        next =>
          exact .nothing fun _ => rfl
        next tenantId others order =>
          split
          next noJobs =>
            refine (inductionHypothesis (i + 1) _).of_sameBuckets
              fun other => ?_
            rw [bucket_removeTenant, bucket_withOrder]
            split
            next same =>
              subst same
              exact noJobs.symm
            next =>
              rfl
          next job queue found =>
            split
            next =>
              exact (inductionHypothesis (i + 1) _).of_sameBuckets
                fun _ => rfl
            next =>
              refine .first found ?_ fun other different => ?_
              · rw [bucket_shrinkBucket, if_pos rfl]
              · rw [bucket_shrinkBucket, if_neg (Ne.symm different),
                  bucket_withOrder]
      next =>
        exact .nothing fun _ => rfl

theorem picksFirst_takeNextReady (dispatcher : Dispatcher) :
    dispatcher.PicksFirst dispatcher.takeNextReady.2
      dispatcher.takeNextReady.1 :=
  picksFirst_takeNextReadyFrom ..

/-! ## First in, first out -/

/-- The jobs of a tenant, in the order of a list. -/
def jobsOf
    (tenantId : String)
    (jobs : List PersistedJob) : List PersistedJob :=
  jobs.filter (·.tenantId = tenantId)

/-- Picks that were made and the bucket that is left, against what entered. -/
def KeepsOrder
    (dispatcher : Dispatcher)
    (picked entered : List PersistedJob) : Prop :=
  ∀ tenantId,
    (jobsOf tenantId picked ++ dispatcher.bucket tenantId).Sublist
      (jobsOf tenantId entered)

/-- The bucket of a tenant holds jobs of that tenant only. -/
theorem KeepsOrder.tenant
    {dispatcher : Dispatcher}
    {picked entered : List PersistedJob}
    (keeps : dispatcher.KeepsOrder picked entered)
    {tenantId : String}
    {job : PersistedJob}
    (member : job ∈ dispatcher.bucket tenantId) :
    job.tenantId = tenantId := by
  have isEntered :=
    (keeps tenantId).mem (List.mem_append_right _ member)
  simpa using (List.mem_filter.mp isEntered).2

/-- A turn that only loses jobs keeps the order. -/
theorem KeepsOrder.of_sublist
    {dispatcher next : Dispatcher}
    {picked entered : List PersistedJob}
    (keeps : dispatcher.KeepsOrder picked entered)
    (fewer :
      ∀ tenantId,
        (next.bucket tenantId).Sublist (dispatcher.bucket tenantId)) :
    next.KeepsOrder picked entered :=
  fun tenantId =>
    ((List.Sublist.refl _).append (fewer tenantId)).trans (keeps tenantId)

theorem KeepsOrder.enqueueReady
    {dispatcher : Dispatcher}
    {picked entered : List PersistedJob}
    (keeps : dispatcher.KeepsOrder picked entered)
    (job : PersistedJob) :
    (dispatcher.enqueueReady job).KeepsOrder picked (entered ++ [job]) := by
  intro tenantId
  rw [bucket_enqueueReady, jobsOf, jobsOf, List.filter_append]
  split
  next same =>
    rw [← List.append_assoc]
    refine (keeps tenantId).append ?_
    simp [same]
  next =>
    exact (keeps tenantId).trans (List.sublist_append_left ..)

theorem KeepsOrder.picks
    {dispatcher next : Dispatcher}
    {picked entered : List PersistedJob}
    {taken : Option PersistedJob}
    (keeps : dispatcher.KeepsOrder picked entered)
    (picks : dispatcher.PicksFirst next taken) :
    next.KeepsOrder (picked ++ taken.toList) entered := by
  cases picks with
  | nothing unchanged =>
      rw [Option.toList_none, List.append_nil]
      exact keeps.of_sublist fun tenantId => unchanged tenantId ▸ .refl _
  | @first tenantId job queue found rest others =>
      have own : job.tenantId = tenantId :=
        keeps.tenant (found ▸ List.mem_cons_self)
      intro other
      rw [jobsOf, List.filter_append, Option.toList_some]
      by_cases same : other = tenantId
      · have before := keeps other
        rw [same, found] at before
        rw [same, rest]
        simpa [jobsOf, own] using before
      · have notOther : job.tenantId ≠ other := own ▸ Ne.symm same
        rw [others other same]
        simpa [jobsOf, notOther] using keeps other

/-- What a turn adds to the jobs that entered. -/
theorem enteredJobs_cons
    (first : DispatcherTurn)
    (rest : List DispatcherTurn) :
    enteredJobs (first :: rest) = enteredJobs [first] ++ enteredJobs rest := by
  cases first <;> rfl

/-- Every turn keeps the order. -/
theorem KeepsOrder.turn
    {dispatcher : Dispatcher}
    {picked entered : List PersistedJob}
    (keeps : dispatcher.KeepsOrder picked entered)
    (turn : DispatcherTurn) :
    (dispatcher.turn turn).KeepsOrder
      (picked ++ (dispatcher.pickedBy turn).toList)
      (entered ++ enteredJobs [turn]) := by
  have loses
      {next : Dispatcher}
      (fewer :
        ∀ tenantId,
          (next.bucket tenantId).Sublist (dispatcher.bucket tenantId)) :
      next.KeepsOrder (picked ++ []) (entered ++ []) := by
    simpa using keeps.of_sublist fewer
  cases turn with
  | enters job =>
      have entering := keeps.enqueueReady job
      rw [← List.append_nil picked] at entering
      exact entering
  | drops jobId =>
      exact loses (bucket_dropFromReady dispatcher jobId)
  | clears tenantId =>
      refine loses fun other => ?_
      change ((dispatcher.removeTenant tenantId).bucket other).Sublist _
      rw [bucket_removeTenant]
      split
      · exact List.nil_sublist _
      · exact .refl _
  | picks =>
      have picking := keeps.picks dispatcher.picksFirst_takeNextReady
      rw [← List.append_nil entered] at picking
      exact picking
  | starts job => exact loses fun _ => .refl _
  | settles jobId => exact loses fun _ => .refl _
  | configures config => exact loses fun _ => .refl _
  | empties => exact loses fun _ => List.nil_sublist _
  | suspends loop => exact loses fun _ => .refl _

/-- And so does every list of turns. -/
theorem KeepsOrder.turns
    {dispatcher : Dispatcher}
    {picked entered : List PersistedJob}
    (keeps : dispatcher.KeepsOrder picked entered)
    (turns : List DispatcherTurn) :
    (dispatcher.turns turns).KeepsOrder
      (picked ++ dispatcher.pickedJobs turns)
      (entered ++ enteredJobs turns) := by
  induction turns generalizing dispatcher picked entered with
  | nil =>
      simpa [pickedJobs, enteredJobs] using keeps
  | cons first rest inductionHypothesis =>
      rw [pickedJobs, enteredJobs_cons, ← List.append_assoc,
        ← List.append_assoc]
      exact inductionHypothesis (keeps.turn first)

/-! ## Bounded bypass -/

/-- A tenant with a ready job and fewer running jobs than its capacity. -/
def IsServable
    (dispatcher : Dispatcher)
    (tenantId : String) : Prop :=
  dispatcher.bucket tenantId ≠ [] ∧
    dispatcher.tenantInFlight tenantId <
      dispatcher.config.fairCapacityPerTenant

/-- The tenant is servable before each of the turns, and no rebuild begins. -/
def StaysServable
    (tenantId : String) : Dispatcher → List DispatcherTurn → Prop
  | _, [] => True
  | dispatcher, first :: rest =>
      dispatcher.IsServable tenantId ∧
        first ≠ .empties ∧
          StaysServable tenantId (dispatcher.turn first) rest

/-- The place of a tenant in the order. -/
def position
    (dispatcher : Dispatcher)
    (tenantId : String) : Nat :=
  dispatcher.tenantOrder.idxOf tenantId

theorem IsServable.mem_tenantOrder
    {dispatcher : Dispatcher}
    {tenantId : String}
    (servable : dispatcher.IsServable tenantId)
    (wellFormed : dispatcher.WellFormed) :
    tenantId ∈ dispatcher.tenantOrder :=
  (wellFormed.orderIsExact.tenants tenantId).mpr servable.1

/-- What stays of a list without repetition stands no later than before. -/
theorem idxOf_le_of_sublist
    {order longer : List String}
    {tenantId : String}
    (fewer : order.Sublist longer)
    (nodup : longer.Nodup)
    (member : tenantId ∈ order) :
    order.idxOf tenantId ≤ longer.idxOf tenantId := by
  induction fewer with
  | slnil =>
      cases member
  | cons first fewer inductionHypothesis =>
      have different : first ≠ tenantId := by
        rintro rfl
        exact (List.nodup_cons.mp nodup).1 (fewer.mem member)
      rw [List.idxOf_cons_ne _ different]
      exact Nat.le_succ_of_le
        (inductionHypothesis (List.nodup_cons.mp nodup).2 member)
  | cons_cons first fewer inductionHypothesis =>
      by_cases same : first = tenantId
      · subst same
        rw [List.idxOf_cons_self]
        exact Nat.zero_le _
      · rw [List.idxOf_cons_ne _ same, List.idxOf_cons_ne _ same]
        have inRest := (List.mem_cons.mp member).resolve_left (Ne.symm same)
        exact Nat.succ_le_succ
          (inductionHypothesis (List.nodup_cons.mp nodup).2 inRest)

/-- Losing tenants from the order moves nobody back. -/
theorem position_le_of_sublist
    {dispatcher next : Dispatcher}
    {tenantId : String}
    (wellFormed : dispatcher.WellFormed)
    (fewer : next.tenantOrder.Sublist dispatcher.tenantOrder)
    (member : tenantId ∈ next.tenantOrder) :
    next.position tenantId ≤ dispatcher.position tenantId :=
  idxOf_le_of_sublist fewer wellFormed.orderNodup member

theorem tenantOrder_shrinkBucket_sublist
    (dispatcher : Dispatcher)
    (tenantId : String)
    (queue : List PersistedJob) :
    (dispatcher.shrinkBucket tenantId queue).tenantOrder.Sublist
      dispatcher.tenantOrder := by
  unfold shrinkBucket
  split
  · exact List.erase_sublist
  · exact .refl _

/-- A turn that is no pick and begins no rebuild moves nobody back. -/
theorem position_turn_le
    {dispatcher : Dispatcher}
    {tenantId : String}
    {turn : DispatcherTurn}
    (wellFormed : dispatcher.WellFormed)
    (member : tenantId ∈ dispatcher.tenantOrder)
    (stays : tenantId ∈ (dispatcher.turn turn).tenantOrder)
    (notPick : turn ≠ .picks) :
    (dispatcher.turn turn).position tenantId ≤
      dispatcher.position tenantId := by
  cases turn with
  | enters job =>
      change (dispatcher.enqueueReady job).position tenantId ≤ _
      unfold enqueueReady position
      split
      · rw [List.idxOf_append_of_mem member]
      · exact Nat.le_refl _
  | drops jobId =>
      refine position_le_of_sublist wellFormed ?_ stays
      change (dispatcher.dropFromReady jobId).tenantOrder.Sublist _
      unfold dropFromReady
      split
      · exact .refl _
      · exact tenantOrder_shrinkBucket_sublist ..
  | clears cleared =>
      exact position_le_of_sublist wellFormed List.erase_sublist stays
  | picks => exact absurd rfl notPick
  | starts job => exact Nat.le_refl _
  | settles jobId => exact Nat.le_refl _
  | configures config => exact Nat.le_refl _
  | empties => cases stays
  | suspends loop => exact Nat.le_refl _

/--
A scan that reaches a servable tenant takes a job: one of the tenant, or one of
a tenant before it, and then the tenant moves up.
-/
theorem takeNextReadyFrom_reaches
    {tenantId : String}
    {picked entered : List PersistedJob}
    (rounds i : Nat)
    {dispatcher : Dispatcher}
    (wellFormed : dispatcher.WellFormed)
    (keeps : dispatcher.KeepsOrder picked entered)
    (servable : dispatcher.IsServable tenantId)
    (wholeOrder : i + rounds = dispatcher.tenantOrder.length)
    (reached : dispatcher.position tenantId < rounds) :
    ∃ job,
      (takeNextReadyFrom rounds i dispatcher).1 = some job ∧
        (job.tenantId ≠ tenantId →
          (takeNextReadyFrom rounds i dispatcher).2.position tenantId <
            dispatcher.position tenantId) := by
  induction rounds generalizing i dispatcher with
  | zero =>
      exact absurd reached (Nat.not_lt_zero _)
  | succ rounds inductionHypothesis =>
      obtain ⟨hasJobs, below⟩ := servable
      have within : i < dispatcher.tenantOrder.length := by omega
      unfold takeNextReadyFrom
      rw [if_pos within]
      split
      next noTenants =>
        rw [noTenants] at within
        exact absurd within (Nat.not_lt_zero _)
      next head others order =>
        have rotated := wellFormed.rotate order
        have headHasJobs : dispatcher.bucket head ≠ [] :=
          (wellFormed.orderIsExact.tenants head).mp
            (order ▸ List.mem_cons_self)
        -- A tenant behind the head moves up by one when the order is rotated.
        have movesUp (behind : head ≠ tenantId) :
            dispatcher.position tenantId =
              (dispatcher.withOrder (others ++ [head])).position tenantId +
                1 := by
          have member : tenantId ∈ others := by
            have listed :=
              IsServable.mem_tenantOrder ⟨hasJobs, below⟩ wellFormed
            rw [order, List.mem_cons] at listed
            exact listed.resolve_left (Ne.symm behind)
          have rotatedOrder :
              (dispatcher.withOrder (others ++ [head])).tenantOrder =
                others ++ [head] := rfl
          rw [position, position, rotatedOrder, order,
            List.idxOf_append_of_mem member, List.idxOf_cons_ne _ behind]
        split
        next noJobs =>
          exact absurd noJobs headHasJobs
        next job queue found =>
          split
          next full =>
            have behind : head ≠ tenantId := by
              rintro rfl
              exact absurd full (Int.not_le.mpr below)
            have closer := movesUp behind
            obtain ⟨taken, takes, moves⟩ :=
              @inductionHypothesis (i + 1)
                (dispatcher.withOrder (others ++ [head])) rotated keeps
                ⟨hasJobs, below⟩
                (by
                  change i + 1 + rounds = (others ++ [head]).length
                  rw [order] at wholeOrder
                  simp only [List.length_cons, List.length_append,
                    List.length_nil] at wholeOrder ⊢
                  omega)
                (by omega)
            refine ⟨taken, takes, fun other => ?_⟩
            have moved := moves other
            dsimp only
            omega
          next =>
            refine ⟨job, rfl, fun other => ?_⟩
            have firstOfHead : dispatcher.bucket head = job :: queue := found
            have own : job.tenantId = head :=
              keeps.tenant (firstOfHead ▸ List.mem_cons_self)
            have behind : head ≠ tenantId := own ▸ other
            have closer := movesUp behind
            have shrunk :
                ((dispatcher.withOrder (others ++ [head])).shrinkBucket head
                  queue).position tenantId ≤
                (dispatcher.withOrder (others ++ [head])).position
                  tenantId := by
              refine position_le_of_sublist rotated
                (tenantOrder_shrinkBucket_sublist ..) ?_
              have present : head ∈ OrderedMap.keys dispatcher.ready := by
                rw [← wellFormed.orderTenants, order]
                exact List.mem_cons_self
              have kept := rotated.shrinkBucket present queue
              rw [kept.orderIsExact.tenants, bucket_shrinkBucket,
                if_neg behind]
              exact hasJobs
            dsimp only
            omega

/-- Where a tenant is servable, a pick takes a job and moves the tenant up. -/
theorem takeNextReady_reaches
    {dispatcher : Dispatcher}
    {tenantId : String}
    {picked entered : List PersistedJob}
    (wellFormed : dispatcher.WellFormed)
    (keeps : dispatcher.KeepsOrder picked entered)
    (servable : dispatcher.IsServable tenantId) :
    ∃ job,
      dispatcher.takeNextReady.1 = some job ∧
        (job.tenantId ≠ tenantId →
          dispatcher.takeNextReady.2.position tenantId <
            dispatcher.position tenantId) :=
  takeNextReadyFrom_reaches _ 0 wellFormed keeps servable (Nat.zero_add _)
    (List.idxOf_lt_length_iff.mpr (servable.mem_tenantOrder wellFormed))

/-- A list of turns in which every pick finds a job. -/
def EveryPickTakes : Dispatcher → List DispatcherTurn → Prop
  | _, [] => True
  | dispatcher, first :: rest =>
      (first = .picks → ∃ job, dispatcher.takeNextReady.1 = some job) ∧
        EveryPickTakes (dispatcher.turn first) rest

/-- While a tenant is servable, no pick comes back without a job. -/
theorem StaysServable.everyPickTakes
    {dispatcher : Dispatcher}
    {tenantId : String}
    {picked entered : List PersistedJob}
    {turns : List DispatcherTurn}
    (stays : StaysServable tenantId dispatcher turns)
    (wellFormed : dispatcher.WellFormed)
    (keeps : dispatcher.KeepsOrder picked entered) :
    dispatcher.EveryPickTakes turns := by
  induction turns generalizing dispatcher picked entered with
  | nil =>
      trivial
  | cons first rest inductionHypothesis =>
      obtain ⟨servable, -, later⟩ := stays
      obtain ⟨job, takes, -⟩ :=
        takeNextReady_reaches wellFormed keeps servable
      exact ⟨fun _ => ⟨job, takes⟩,
        inductionHypothesis later (wellFormed.turn first) (keeps.turn first)⟩

/--
While a tenant is servable and is not picked, the picks of the others are no
more than the tenants before it.
-/
theorem StaysServable.length_pickedJobs_le
    {dispatcher : Dispatcher}
    {tenantId : String}
    {picked entered : List PersistedJob}
    {turns : List DispatcherTurn}
    (stays : StaysServable tenantId dispatcher turns)
    (wellFormed : dispatcher.WellFormed)
    (keeps : dispatcher.KeepsOrder picked entered)
    (passedOver :
      ∀ job ∈ dispatcher.pickedJobs turns, job.tenantId ≠ tenantId) :
    (dispatcher.pickedJobs turns).length ≤ dispatcher.position tenantId := by
  induction turns generalizing dispatcher picked entered with
  | nil =>
      exact Nat.zero_le _
  | cons first rest inductionHypothesis =>
      obtain ⟨servable, noRebuild, later⟩ := stays
      have keepsNext := keeps.turn first
      have wellFormedNext := wellFormed.turn first
      have bounded :=
        inductionHypothesis later wellFormedNext keepsNext fun job isPicked =>
          passedOver job (List.mem_append_right _ isPicked)
      by_cases isPick : first = .picks
      · subst isPick
        obtain ⟨job, takes, moves⟩ :=
          takeNextReady_reaches wellFormed keeps servable
        have isPicked :
            dispatcher.pickedJobs (.picks :: rest) =
              job :: (dispatcher.turn .picks).pickedJobs rest := by
          rw [pickedJobs, pickedBy, takes]
          rfl
        rw [isPicked] at passedOver ⊢
        have closer := moves (passedOver job List.mem_cons_self)
        rw [List.length_cons]
        exact Nat.lt_of_le_of_lt bounded closer
      · have unpicked : dispatcher.pickedBy first = none := by
          cases first with
          | picks => exact absurd rfl isPick
          | _ => rfl
        rw [pickedJobs, unpicked, Option.toList_none, List.nil_append]
        cases rest with
        | nil =>
            exact Nat.zero_le _
        | cons second rest =>
            have staysListed := later.1.mem_tenantOrder wellFormedNext
            exact bounded.trans
              (position_turn_le wellFormed
                (servable.mem_tenantOrder wellFormed) staysListed isPick)

end Dispatcher

end CloudflareParallel
