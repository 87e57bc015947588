import CloudflareParallel.JsNumerics
import CloudflareParallel.SchedulerObject

namespace CloudflareParallel

open KeyedTables

/-!
# The counters of the scheduler

`CfpSchedulerDO.stats` counts the rows of the table by their status, and
`Scheduler.stats` and `Scheduler.drain` read the counters by name.  The object
calls the leased jobs `running`; its client asks for `leased`.
-/

/-- The answer of `stats`, with its properties by name. -/
abbrev StatsReply := List (String × JsDouble)

namespace StatsReply

/-- `s.name`, which is `undefined` if there is no such property. -/
def get
    (reply : StatsReply)
    (name : String) : Option JsDouble :=
  reply.lookup name

end StatsReply

/-- The counters that the loop over the groups fills. -/
structure StatusCounts where
  queued : Nat := 0
  running : Nat := 0
  done : Nat := 0
  failed : Nat := 0
  cancelled : Nat := 0
  deriving Repr, DecidableEq

namespace StatusCounts

/-- The `switch` on the status of a group. -/
def read
    (out : StatusCounts)
    (group : JobStatus × Nat) : StatusCounts :=
  match group.1 with
  | .queued => { out with queued := group.2 }
  | .leased => { out with running := group.2 }
  | .done => { out with done := group.2 }
  | .failed => { out with failed := group.2 }
  | .cancelled => { out with cancelled := group.2 }
  | .running => out

end StatusCounts

namespace JobStore

/-- The number of rows with a status. -/
def countOf
    (store : JobStore)
    (status : JobStatus) : Nat :=
  store.jobs.rows.countP (·.status = status)

/--
An answer to `SELECT status, COUNT(*) AS n FROM jobs GROUP BY status`, whose
groups come in any order.
-/
structure Grouped
    (store : JobStore)
    (groups : List (JobStatus × Nat)) : Prop where
  once : (groups.map Prod.fst).Nodup
  counts :
    ∀ status n,
      (status, n) ∈ groups ↔ n = store.countOf status ∧ 0 < n

/-- `SELECT MIN(created_at) AS oldest FROM jobs WHERE status='queued'`. -/
def oldestQueued (store : JobStore) : Option Int :=
  ((store.jobs.rows.filter (·.status = .queued)).map (·.createdAt)).min?

end JobStore

/-- `Infinity`, or the number itself. -/
def QueueBound.toNumber : QueueBound → JsDouble
  | .finite limit => .finite limit
  | .infinity => .infinite false

/--
`CfpSchedulerDO.stats`, for the groups that the database answers with and a
clock reading.
-/
def SchedulerState.stats
    (state : SchedulerState)
    (groups : List (JobStatus × Nat))
    (now : Int) : StatsReply × SchedulerState :=
  let out := groups.foldl StatusCounts.read {}
  let oldestQueuedAgeMs : Int :=
    match state.store.oldestQueued with
    | none => 0
    | some oldest => if oldest = 0 then 0 else now - oldest
  let cfg := state.dispatcher.config
  ([("queued", .ofNat out.queued),
      ("running", .ofNat out.running),
      ("done", .ofNat out.done),
      ("failed", .ofNat out.failed),
      ("cancelled", .ofNat out.cancelled),
      ("oldestQueuedAgeMs", .finite oldestQueuedAgeMs),
      ("inFlightLimit", .finite cfg.inFlightLimit),
      ("maxQueueDepth", cfg.maxQueueDepth.toNumber)],
    state.withDispatcher state.dispatcher)

/-- `SchedulerStats`; a counter that is `undefined` is missing. -/
structure SchedulerStats where
  inFlight : Option JsDouble
  queued : Option JsDouble
  completed : Option JsDouble
  failed : Option JsDouble
  cancelled : Option JsDouble
  topology : String := "in-do"
  topologyDecisionAt : Nat := 0
  warmIsolatesEstimate : Nat := 0
  uniqueFnShapesToday : Nat := 0
  lruEvictionLast60sCount : Nat := 0
  treeDepth : Nat := 1
  fanOutPerLevel : List Nat := []
  byTenant : List (String × Nat × Nat) := []
  oldestQueuedAgeMs : Option JsDouble
  resultRetentionTtlMs : Int

def DEFAULT_RESULT_TTL : Int := 3600000

namespace StatsReply

/-- `Scheduler.stats`, with `resultRetention.ttlMs` of the client. -/
def schedulerStats
    (s : StatsReply)
    (ttlMs : Option Int) : SchedulerStats where
  inFlight := s.get "leased"
  queued := s.get "queued"
  completed := s.get "done"
  failed := s.get "failed"
  cancelled := s.get "cancelled"
  oldestQueuedAgeMs := s.get "oldestQueuedAgeMs"
  resultRetentionTtlMs := ttlMs.getD DEFAULT_RESULT_TTL

/-- The exit test of `Scheduler.drain`. -/
def isDrained (s : StatsReply) : Bool :=
  s.get "queued" = some (.finite 0) && s.get "leased" = some (.finite 0)

end StatsReply

/-- `Scheduler.drain`, over the answers that it gets; nothing while it polls. -/
def drain : List StatsReply → Option Unit
  | [] => none
  | s :: later => if s.isDrained then some () else drain later

/-- The counters agree with the table. -/
structure StatsAgree
    (store : JobStore)
    (reply : StatsReply)
    (ttlMs : Option Int) : Prop where
  inFlight :
    (reply.schedulerStats ttlMs).inFlight =
      some (.ofNat (store.countOf .leased))
  queued :
    (reply.schedulerStats ttlMs).queued =
      some (.ofNat (store.countOf .queued))
  drains :
    reply.isDrained = true ↔
      ∀ row ∈ store.jobs.rows, row.status ≠ .queued ∧ row.status ≠ .leased

/-! ## What the object counts -/

namespace StatusCounts

/-- The counter of a status. -/
def ofStatus (out : StatusCounts) : JobStatus → Nat
  | .queued => out.queued
  | .leased => out.running
  | .done => out.done
  | .failed => out.failed
  | .cancelled => out.cancelled
  | .running => 0

/-- A group sets the counter of its status. -/
theorem ofStatus_read
    (out : StatusCounts)
    (group : JobStatus × Nat)
    {status : JobStatus}
    (counted : status ≠ .running) :
    (out.read group).ofStatus status =
      if group.1 = status then group.2 else out.ofStatus status := by
  obtain ⟨grouped, n⟩ := group
  cases grouped <;> cases status <;>
    first
      | rfl
      | exact absurd rfl counted

/-- A status whose group does not come keeps its counter. -/
theorem ofStatus_foldl_of_not_mem
    (groups : List (JobStatus × Nat))
    (out : StatusCounts)
    {status : JobStatus}
    (counted : status ≠ .running)
    (absent : status ∉ groups.map Prod.fst) :
    (groups.foldl read out).ofStatus status = out.ofStatus status := by
  induction groups generalizing out with
  | nil => rfl
  | cons group rest inductionHypothesis =>
      rw [List.map_cons, List.mem_cons, not_or] at absent
      rw [List.foldl_cons, inductionHypothesis _ absent.2,
        ofStatus_read _ _ counted, if_neg (Ne.symm absent.1)]

/-- A status whose group comes once has its number. -/
theorem ofStatus_foldl_of_mem
    (groups : List (JobStatus × Nat))
    (out : StatusCounts)
    {status : JobStatus}
    {n : Nat}
    (counted : status ≠ .running)
    (once : (groups.map Prod.fst).Nodup)
    (member : (status, n) ∈ groups) :
    (groups.foldl read out).ofStatus status = n := by
  induction groups generalizing out with
  | nil => cases member
  | cons group rest inductionHypothesis =>
      rw [List.map_cons, List.nodup_cons] at once
      rw [List.foldl_cons]
      rcases List.mem_cons.mp member with rfl | later
      · rw [ofStatus_foldl_of_not_mem rest _ counted once.1,
          ofStatus_read _ _ counted, if_pos rfl]
      · exact inductionHypothesis _ once.2 later

/-- In whatever order the groups come, the counters are those of the table. -/
theorem ofStatus_of_grouped
    {store : JobStore}
    {groups : List (JobStatus × Nat)}
    (grouped : store.Grouped groups)
    {status : JobStatus}
    (counted : status ≠ .running) :
    (groups.foldl read {}).ofStatus status = store.countOf status := by
  rcases Nat.eq_zero_or_pos (store.countOf status) with zero | some_
  · rw [zero, ofStatus_foldl_of_not_mem groups _ counted]
    · cases status <;> rfl
    · intro member
      obtain ⟨⟨_, n⟩, inGroups, rfl⟩ := List.mem_map.mp member
      obtain ⟨same, positive⟩ := (grouped.counts _ _).mp inGroups
      exact absurd (same.trans zero) positive.ne'
  · exact
      ofStatus_foldl_of_mem groups _ counted grouped.once
        ((grouped.counts status _).mpr ⟨rfl, some_⟩)

end StatusCounts

namespace SchedulerState

variable (state : SchedulerState)
variable (groups : List (JobStatus × Nat))
variable (now : Int)

/-- The queued rows are counted under the name that the client reads. -/
theorem get_queued_stats
    (grouped : state.store.Grouped groups) :
    (state.stats groups now).1.get "queued" =
      some (.ofNat (state.store.countOf .queued)) := by
  rw [← StatusCounts.ofStatus_of_grouped grouped (by decide)]
  rfl

/-- The leased rows are counted as `running`. -/
theorem get_running_stats
    (grouped : state.store.Grouped groups) :
    (state.stats groups now).1.get "running" =
      some (.ofNat (state.store.countOf .leased)) := by
  rw [← StatusCounts.ofStatus_of_grouped grouped (by decide)]
  rfl

/-- There is no counter of the name `leased`. -/
theorem get_leased_stats :
    (state.stats groups now).1.get "leased" = none :=
  rfl

theorem isDrained_stats :
    (state.stats groups now).1.isDrained = false := by
  unfold StatsReply.isDrained
  rw [get_leased_stats]
  exact Bool.and_false _

end SchedulerState

/-- `drain` polls for ever: no answer of the object lets it return. -/
theorem drain_eq_none
    {replies : List StatsReply}
    (answered :
      ∀ reply ∈ replies,
        ∃ (state : SchedulerState) (groups : List (JobStatus × Nat))
          (now : Int),
          reply = (state.stats groups now).1) :
    drain replies = none := by
  induction replies with
  | nil => rfl
  | cons reply later inductionHypothesis =>
      obtain ⟨state, groups, now, rfl⟩ := answered reply List.mem_cons_self
      rw [drain, state.isDrained_stats groups now,
        inductionHypothesis fun other member =>
          answered other (List.mem_cons_of_mem _ member)]
      rfl

/-- For no content of the table do the counters agree with it. -/
theorem not_statsAgree
    (state : SchedulerState)
    (groups : List (JobStatus × Nat))
    (now : Int)
    (ttlMs : Option Int) :
    ¬ StatsAgree state.store (state.stats groups now).1 ttlMs := by
  intro agree
  have inFlight := agree.inFlight
  unfold StatsReply.schedulerStats at inFlight
  dsimp only at inFlight
  rw [state.get_leased_stats] at inFlight
  cases inFlight

/-- Without any job, `inFlight` is missing and `drain` goes on. -/
theorem not_statsAgree_empty :
    (({} : SchedulerState).stats [] 0).1.isDrained = false ∧
      ¬ StatsAgree {} (({} : SchedulerState).stats [] 0).1 none := by
  have goesOn := SchedulerState.isDrained_stats {} [] 0
  refine ⟨goesOn, fun agree => ?_⟩
  have drained :=
    agree.drains.mpr fun row member => absurd member List.not_mem_nil
  rw [goesOn] at drained
  cases drained

end CloudflareParallel
