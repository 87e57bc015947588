import CloudflareParallel.ErrorDecode
import CloudflareParallel.SchedulerStats
import CloudflareParallel.SchedulerStoreCalls

namespace CloudflareParallel

open KeyedTables

/-!
# Sweeping and reading

A result expires in two places: `result` refuses it once its time has passed,
and `sweepExpired` deletes its row.  A reader tells them apart, because the
store answers for a missing row with a name that the decoder does not know.
-/

/-! ## The handle of a job -/

/-- What a call of `JobHandle.result` has come to. -/
inductive JobReport where
  /-- It polls. -/
  | pending
  | value (value : Option JsValue)
  | threw (err : ErrorClass)

/-- The same value, or an error of the same class. -/
def JobReport.Alike : JobReport → JobReport → Prop
  | .pending, .pending => True
  | .value result, .value other => result = other
  | .threw err, .threw other => err.name = other.name
  | _, _ => False

/-- One round of the loop: the clock reading and the answer of the store. -/
structure JobPoll where
  now : Int
  answer : JobStore.JobResult

/-- What `enqueue` returns, with the options that `result` reads. -/
structure JobHandle where
  id : String
  deadlineEpochMs : Int
  /-- `resultRetention.ttlMs`. -/
  ttlMs : Option Int := none

namespace JobHandle

/-- `giveUpAfter` of a call that starts at a time. -/
def giveUpAfter
    (handle : JobHandle)
    (started : Int) : Int :=
  let ttl := handle.ttlMs.getD DEFAULT_RESULT_TTL
  started + max (handle.deadlineEpochMs - started + ttl) ttl

/-- What an answer makes `result` return or throw; nothing while it polls. -/
def report?
    (handle : JobHandle)
    (r : JobStore.JobResult) : Option JobReport :=
  match r.status with
  | .done => some (.value r.value)
  | .cancelled =>
      some
        (.threw
          (leafErrorToTypedError {
            name := "CancelledError"
            message := "Job cancelled"
          }))
  | .failed =>
      let e :=
        r.error.getD { name := "ExecutionError", message := "job failed" }
      if e.name = "ResultExpiredError" then
        some (.threw (.resultExpiredError handle.id))
      else
        some (.threw (leafErrorToTypedError e))
  | _ => none

/-- The loop of `result`. -/
def resultLoop
    (handle : JobHandle)
    (giveUpAfter : Int) : List JobPoll → JobReport
  | [] => .pending
  | poll :: later =>
      if giveUpAfter < poll.now then
        .threw (.resultExpiredError handle.id)
      else
        match handle.report? poll.answer with
        | some report => report
        | none => resultLoop handle giveUpAfter later

/-- `result`, of a call that starts at a time, over the rounds it makes. -/
def result
    (handle : JobHandle)
    (started : Int)
    (polls : List JobPoll) : JobReport :=
  handle.resultLoop (handle.giveUpAfter started) polls

end JobHandle

/-! ## The sweep between two reads -/

namespace JobStore

/-- The last row that a job had, from a store on. -/
def lastRowFrom?
    (jobId : String)
    (store : JobStore)
    (last : Option JobsRow) : List JobStoreCall → Option JobsRow
  | [] => last
  | call :: calls =>
      let next := (store.invoke call).1
      lastRowFrom? jobId next ((next.row? jobId).or last) calls

/-- The last row that a job had; it may be gone. -/
def lastRow?
    (calls : List JobStoreCall)
    (jobId : String) : Option JobsRow :=
  lastRowFrom? jobId {} none calls

/-- The job was done, and its result has expired. -/
def ResultExpired
    (calls : List JobStoreCall)
    (jobId : String)
    (now : Int) : Prop :=
  ∃ row ∈ lastRow? calls jobId, row.isSweepable now

end JobStore

/-- What a call reports whose round at a time reads a store. -/
def JobHandle.reportAt
    (handle : JobHandle)
    (started now : Int)
    (store : JobStore)
    (later : List JobPoll) : JobReport :=
  handle.result started
    ({ now := now, answer := store.result now handle.id } :: later)

/--
What a call reports is the same before and after a sweep, and for a result that
has expired it is a `ResultExpiredError`.
-/
structure SweepIsInvisible
    (calls : List JobStoreCall)
    (handle : JobHandle)
    (started now : Int) : Prop where
  alike :
    ∀ later,
      (handle.reportAt started now (JobStore.after {} calls) later).Alike
        (handle.reportAt started now
          ((JobStore.after {} calls).sweepExpired now) later)
  expired :
    JobStore.ResultExpired calls handle.id now →
      ∀ later,
        (handle.reportAt started now (JobStore.after {} calls) later).Alike
            (.threw (.resultExpiredError handle.id)) ∧
          (handle.reportAt started now
              ((JobStore.after {} calls).sweepExpired now) later).Alike
            (.threw (.resultExpiredError handle.id))

theorem JobReport.Alike.refl (report : JobReport) : report.Alike report := by
  cases report with
  | pending => trivial
  | value => exact Eq.refl _
  | threw => exact Eq.refl _

namespace JobStore

/-- A job's row is the last that it had. -/
theorem lastRowFrom?_of_row?
    {jobId : String}
    {calls : List JobStoreCall}
    {store : JobStore}
    {last : Option JobsRow}
    {row : JobsRow}
    (starts : ∀ row, store.row? jobId = some row → last = some row)
    (found : (store.after calls).row? jobId = some row) :
    lastRowFrom? jobId store last calls = some row := by
  induction calls generalizing store last with
  | nil => exact starts row found
  | cons call calls inductionHypothesis =>
      refine inductionHypothesis (fun row isRow => ?_) found
      rw [isRow]
      rfl

theorem lastRow?_of_row?
    {jobId : String}
    {calls : List JobStoreCall}
    {row : JobsRow}
    (found : (JobStore.after {} calls).row? jobId = some row) :
    lastRow? calls jobId = some row :=
  lastRowFrom?_of_row? (fun _ none => by cases none) found

/-- A row that cannot be swept is read as before. -/
theorem result_sweepExpired_of_kept
    {store : JobStore}
    {now : Int}
    {jobId : String}
    (kept : ∀ row ∈ store.row? jobId, row.isSweepable now = false) :
    (store.sweepExpired now).result now jobId = store.result now jobId := by
  have same : (store.sweepExpired now).row? jobId = store.row? jobId := by
    rw [row?_sweepExpired]
    cases found : store.row? jobId with
    | none => rfl
    | some row =>
        have unswept := kept row found
        unfold JobsRow.isSweepable at unswept
        rw [Option.filter_some, unswept]
        rfl
  unfold result
  rw [same]

/-- A row that can be swept is gone. -/
theorem row?_sweepExpired_of_isSweepable
    {store : JobStore}
    {now : Int}
    {jobId : String}
    {row : JobsRow}
    (found : store.row? jobId = some row)
    (sweepable : row.isSweepable now = true) :
    (store.sweepExpired now).row? jobId = none := by
  unfold JobsRow.isSweepable at sweepable
  rw [row?_sweepExpired, found, Option.filter_some, sweepable]
  rfl

end JobStore

namespace JobHandle

variable {handle : JobHandle}
variable {started now : Int}

/-- A call that has given up does not read. -/
theorem reportAt_of_givenUp
    (givenUp : handle.giveUpAfter started < now)
    (store : JobStore)
    (later : List JobPoll) :
    handle.reportAt started now store later =
      .threw (.resultExpiredError handle.id) :=
  if_pos givenUp

/-- A job without a row fails with an `ExecutionError`. -/
theorem reportAt_of_absent
    (goesOn : ¬ handle.giveUpAfter started < now)
    {store : JobStore}
    (absent : store.row? handle.id = none)
    (later : List JobPoll) :
    handle.reportAt started now store later =
      .threw
        (.executionError s!"Job {handle.id} not found (or result expired)"
          none (some "NotFoundError")) := by
  unfold reportAt result resultLoop
  rw [if_neg goesOn]
  unfold JobStore.result
  rw [absent]
  rfl

/-- The report follows the answer of the store. -/
theorem reportAt_congr
    {store other : JobStore}
    (same : other.result now handle.id = store.result now handle.id)
    (later : List JobPoll) :
    handle.reportAt started now other later =
      handle.reportAt started now store later := by
  unfold reportAt
  rw [same]

end JobHandle

/-- A job that is done at time ten, with a result that is kept until 100. -/
def sweptCalls : List JobStoreCall :=
  [ .enqueue 0
      { id := "job"
        tenantId := "default"
        fnHash := "0"
        fnSource := "() => null"
        args := []
        createdAt := 0
        deadlineEpochMs := 60000
        retry := { max := 3, backoff := .exponential, baseMs := 200 }
        retryCount := 0
        status := .queued },
    .claim 10 { workerId := "owner", max := 1, leaseMs := 60000 },
    .ack 10 "job" "owner" .null 100 ]

/--
The sweep cannot be told from its absence exactly if the call gives up without
a read, or the job has no result that has expired, be its row there or not.
-/
theorem sweepIsInvisible_iff
    (calls : List JobStoreCall)
    (handle : JobHandle)
    (started now : Int) :
    SweepIsInvisible calls handle started now ↔
      handle.giveUpAfter started < now ∨
        ∀ row ∈ JobStore.lastRow? calls handle.id,
          row.isSweepable now = false := by
  by_cases givenUp : handle.giveUpAfter started < now
  · refine iff_of_true ⟨fun later => ?_, fun _ later => ⟨?_, ?_⟩⟩
      (.inl givenUp) <;> simp only [JobHandle.reportAt_of_givenUp givenUp]
    all_goals exact .refl _
  rw [or_iff_right givenUp]
  constructor
  · intro invisible row last
    rw [Bool.eq_false_iff]
    intro sweepable
    -- the read after the sweep finds no row
    have absent :
        ((JobStore.after {} calls).sweepExpired now).row? handle.id =
          none := by
      cases found : (JobStore.after {} calls).row? handle.id with
      | none => rw [JobStore.row?_sweepExpired, found]; rfl
      | some other =>
          have same := JobStore.lastRow?_of_row? found
          rw [last] at same
          cases same
          exact JobStore.row?_sweepExpired_of_isSweepable found sweepable
    have missing := (invisible.expired ⟨row, last, sweepable⟩ []).2
    rw [JobHandle.reportAt_of_absent givenUp absent] at missing
    have sameClass : "ExecutionError" = "ResultExpiredError" := missing
    exact absurd sameClass (by decide)
  · intro kept
    refine ⟨fun later => ?_, fun ⟨row, last, sweepable⟩ => ?_⟩
    · have unswept :
          ∀ row ∈ (JobStore.after {} calls).row? handle.id,
            row.isSweepable now = false :=
        fun row found => kept row (JobStore.lastRow?_of_row? found)
      rw [JobHandle.reportAt_congr
        (JobStore.result_sweepExpired_of_kept unswept)]
      exact .refl _
    · rw [kept row last] at sweepable
      cases sweepable

/--
At time 200 the result has expired: before the sweep the handle throws a
`ResultExpiredError`, and after it an `ExecutionError`.
-/
theorem not_sweepIsInvisible_sweptCalls :
    let handle : JobHandle := { id := "job", deadlineEpochMs := 60000 }
    let store := JobStore.after {} sweptCalls
    handle.reportAt 200 200 store [] =
        .threw (.resultExpiredError "job") ∧
      handle.reportAt 200 200 (store.sweepExpired 200) [] =
          .threw
            (.executionError "Job job not found (or result expired)" none
              (some "NotFoundError")) ∧
        ¬ SweepIsInvisible sweptCalls handle 200 200 := by
  intro handle store
  have before :
      handle.reportAt 200 200 store [] =
        .threw (.resultExpiredError "job") :=
    rfl
  have swept :
      handle.reportAt 200 200 (store.sweepExpired 200) [] =
        .threw
          (.executionError "Job job not found (or result expired)" none
            (some "NotFoundError")) :=
    rfl
  refine ⟨before, swept, fun invisible => ?_⟩
  have alike := invisible.alike []
  rw [before, swept] at alike
  have sameClass : "ResultExpiredError" = "ExecutionError" := alike
  exact absurd sameClass (by decide)

end CloudflareParallel
