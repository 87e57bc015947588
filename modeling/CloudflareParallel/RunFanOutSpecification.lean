import Mathlib.Algebra.Order.BigOperators.Group.List
import Mathlib.Algebra.GroupWithZero.Nat
import Mathlib.Data.List.ReduceOption
import CloudflareParallel.RunFanOutLaw

namespace CloudflareParallel

open LabelledRuns

/-!
# The specification of `runFanOut`

What the caller gets, under every schedule: every schedule ends, the array of
records is complete then, and the result is read off it.  Except under
`throw-fast` the records are the outcomes of the items, whatever the order.
-/

/-! ## Reading the records -/

section Records

variable {Value : Type}

/-- An entry of a map by index is the reading of a record. -/
theorem mem_indexed
    {Part : Type}
    {part : Settled Value → Option Part}
    {settled : List (Settled Value)}
    {idx : Nat}
    {found : Part} :
    (idx, found) ∈ indexed part settled ↔
      ∃ record, settled[idx]? = some record ∧ part record = some found := by
  unfold indexed
  rw [List.mem_filterMap]
  constructor
  · rintro ⟨⟨record, at_⟩, member, read⟩
    obtain ⟨value, readValue, equal⟩ := Option.map_eq_some_iff.mp read
    cases equal
    exact ⟨record, List.mem_zipIdx_iff_getElem?.mp member, readValue⟩
  · rintro ⟨record, there, read⟩
    refine ⟨(record, idx), List.mem_zipIdx_iff_getElem?.mpr there, ?_⟩
    exact Option.map_eq_some_iff.mpr ⟨found, read, rfl⟩

/-- A map by index is empty if the reading of every record is. -/
theorem indexed_eq_nil
    {Part : Type}
    {part : Settled Value → Option Part}
    {settled : List (Settled Value)} :
    indexed part settled = [] ↔ ∀ record ∈ settled, part record = none := by
  rw [List.eq_nil_iff_forall_not_mem]
  constructor
  · intro empty record member
    obtain ⟨idx, there⟩ := List.mem_iff_getElem?.mp member
    cases read : part record with
    | none => rfl
    | some found =>
        exact absurd (mem_indexed.mpr ⟨record, there, read⟩) (empty (idx, found))
  · rintro blank ⟨idx, found⟩ member
    obtain ⟨record, there, read⟩ := mem_indexed.mp member
    rw [blank record (List.mem_of_getElem? there)] at read
    cases read

/-- The maps of errors and of values share out the indices. -/
theorem indexed_partition (settled : List (Settled Value)) :
    ((indexed Settled.error? settled).map Prod.fst ++
        (indexed Settled.value? settled).map Prod.fst).Perm
      (List.range settled.length) := by
  rw [List.range_eq_range']
  unfold indexed
  generalize 0 = start
  induction settled generalizing start with
  | nil =>
      exact .refl _
  | cons record rest inductionHypothesis =>
      have later := inductionHypothesis (start + 1)
      cases record with
      | ok value =>
          simp only [List.zipIdx_cons, List.filterMap_cons, Settled.error?,
            Settled.value?, Option.map_none, Option.map_some, List.map_cons,
            List.length_cons, List.range'_succ]
          exact List.perm_middle.trans (later.cons start)
      | failed error =>
          simp only [List.zipIdx_cons, List.filterMap_cons, Settled.error?,
            Settled.value?, Option.map_none, Option.map_some, List.map_cons,
            List.length_cons, List.range'_succ, List.cons_append]
          exact later.cons start

/-- Without errors the result is the values. -/
theorem conclude_of_values
    (onError : OnErrorStrategy)
    (values : List Value) :
    conclude onError (values.map Settled.ok) =
      .ok (values.map FanOutEntry.value) := by
  have blank :
      indexed Settled.error? (values.map Settled.ok) = [] :=
    indexed_eq_nil.mpr fun record member => by
      obtain ⟨value, -, rfl⟩ := List.mem_map.mp member
      rfl
  unfold conclude
  rw [blank]
  simp [Settled.entry, Function.comp_def]

/-- Records without an error are values. -/
theorem exists_values_of_no_error
    {settled : List (Settled Value)}
    (blank : indexed Settled.error? settled = []) :
    ∃ values : List Value, settled = values.map Settled.ok := by
  have each := indexed_eq_nil.mp blank
  clear blank
  induction settled with
  | nil =>
      exact ⟨[], rfl⟩
  | cons record rest inductionHypothesis =>
      obtain ⟨values, rfl⟩ :=
        inductionHypothesis fun other member =>
          each other (List.mem_cons_of_mem _ member)
      have first := each record (List.mem_cons_self ..)
      cases record with
      | ok value => exact ⟨value :: values, rfl⟩
      | failed error => cases first

/-- Under `null` the result has a null at every failure. -/
theorem conclude_null (settled : List (Settled Value)) :
    conclude .null settled = .ok (settled.map Settled.entryOrNull) := by
  cases blank : indexed Settled.error? settled with
  | nil =>
      obtain ⟨values, rfl⟩ := exists_values_of_no_error blank
      rw [conclude_of_values]
      simp [Settled.entryOrNull, Function.comp_def]
  | cons first others =>
      unfold conclude
      rw [blank]

/-- Under `skip` the result has the values alone. -/
theorem conclude_skip (settled : List (Settled Value)) :
    conclude .skip settled =
      .ok
        (settled.filterMap fun record =>
          record.value?.map FanOutEntry.value) := by
  cases blank : indexed Settled.error? settled with
  | nil =>
      obtain ⟨values, rfl⟩ := exists_values_of_no_error blank
      rw [conclude_of_values]
      simp [List.filterMap_map, Settled.value?]
  | cons first others =>
      unfold conclude
      rw [blank]

/-- A lone error without values is the one record. -/
theorem eq_singleton_of_lone
    {settled : List (Settled Value)}
    {idx : Nat}
    {error : ParallelError}
    (lone : indexed Settled.error? settled = [(idx, error)])
    (none : indexed Settled.value? settled = []) :
    settled = [.failed error] := by
  have lengths := (indexed_partition settled).length_eq
  rw [lone, none] at lengths
  have single : settled.length = 1 := by simpa using lengths.symm
  obtain ⟨record, rfl⟩ := List.length_eq_one_iff.mp single
  cases record with
  | ok value => cases lone
  | failed other =>
      cases lone
      rfl

end Records

namespace RunFanOutOptions

variable {Item Value : Type}
variable {opts : RunFanOutOptions Item Value}

/-! ## Every schedule ends -/

/-- A worker that goes on changes what is pending by its own part. -/
theorem pending_set
    {workers : List (FanOutWorker Item)}
    {worker : Nat}
    {old : FanOutWorker Item}
    (found : workers[worker]? = some old)
    (next : FanOutWorker Item) :
    ((workers.set worker next).map (·.pending)).sum + old.pending =
      (workers.map (·.pending)).sum + next.pending := by
  induction workers generalizing worker with
  | nil =>
      cases found
  | cons head rest inductionHypothesis =>
      cases worker with
      | zero =>
          cases found
          simp only [List.set_cons_zero, List.map_cons, List.sum_cons]
          omega
      | succ worker =>
          have later := inductionHypothesis found
          simp only [List.set_cons_succ, List.map_cons, List.sum_cons]
          omega

/-- The steps that are left: two for an item, and what is pending. -/
def rank
    (opts : RunFanOutOptions Item Value)
    (state : RunFanOutState Item Value) : Nat :=
  2 * (opts.items.length - state.cursor) +
    (state.workers.map (·.pending)).sum

/-- Every step lowers the rank. -/
theorem rank_lt_of_step
    {state next : RunFanOutState Item Value}
    {label : RunFanOutStep}
    (stepped : opts.step state label = some next) :
    opts.rank next < opts.rank state := by
  cases opts.moves_of_step stepped with
  | @returned worker ready none =>
      have changed :
          ((state.workers.set worker .returned).map (·.pending)).sum + 1 =
            (state.workers.map (·.pending)).sum + 0 :=
        pending_set ready .returned
      simp only [rank]
      omega
  | skipped ready inside _ =>
      simp only [rank]
      omega
  | @started worker item ready found _ =>
      obtain ⟨inside, -⟩ := List.getElem?_eq_some_iff.mp found
      have changed :
          ((state.workers.set worker (.running state.cursor item)).map
                (·.pending)).sum + 1 =
            (state.workers.map (·.pending)).sum + 2 :=
        pending_set ready (.running state.cursor item)
      simp only [rank]
      omega
  | @settled worker idx item running =>
      have changed :
          ((state.workers.set worker .ready).map (·.pending)).sum + 2 =
            (state.workers.map (·.pending)).sum + 1 :=
        pending_set running .ready
      simp only [rank, settle]
      omega

/-- The rank when the workers are created. -/
theorem rank_launch :
    opts.rank opts.launch =
      2 * opts.items.length + opts.workerCount.toNat := by
  simp [rank, launch, FanOutWorker.pending]

/-- There is a worker at least. -/
theorem workerCount_pos : 0 < opts.workerCount.toNat := by
  unfold workerCount
  omega

/-- While a worker is at work, one of them can go on. -/
theorem exists_step
    {state : RunFanOutState Item Value}
    (busy : state.allReturned = false) :
    ∃ label next, opts.step state label = some next := by
  obtain ⟨held, member, going⟩ := List.all_eq_false.mp busy
  obtain ⟨worker, found⟩ := List.mem_iff_getElem?.mp member
  cases held with
  | ready =>
      exact ⟨.takes worker, opts.takeNext state worker, by simp [step, found]⟩
  | running idx item =>
      exact ⟨.settles worker, opts.settle state worker idx item,
        by simp [step, found]⟩
  | returned =>
      exact absurd rfl going

/-- The workers return, if every run settles. -/
theorem exists_allReturned
    (opts : RunFanOutOptions Item Value) :
    ∃ steps final, opts.Reaches steps final ∧ final.allReturned = true := by
  suffices later :
      ∀ (bound : Nat) (state : RunFanOutState Item Value),
        opts.rank state ≤ bound →
        ∃ steps final,
          Run opts.step state steps final ∧ final.allReturned = true from
    later _ opts.launch (Nat.le_refl _)
  intro bound
  induction bound with
  | zero =>
      intro state low
      cases finished : state.allReturned with
      | true => exact ⟨[], state, .nil, finished⟩
      | false =>
          obtain ⟨label, next, stepped⟩ := @exists_step _ _ opts _ finished
          have lower := rank_lt_of_step stepped
          omega
  | succ bound inductionHypothesis =>
      intro state low
      cases finished : state.allReturned with
      | true => exact ⟨[], state, .nil, finished⟩
      | false =>
          obtain ⟨label, next, stepped⟩ := @exists_step _ _ opts _ finished
          have lower := rank_lt_of_step stepped
          obtain ⟨steps, final, run, done⟩ :=
            inductionHypothesis next (by omega)
          exact ⟨label :: steps, final, .cons trivial stepped run, done⟩

/-! ## The records when the workers have returned -/

/-- When the workers have returned, the cursor is past the items. -/
theorem Sound.cursor_past
    {state : RunFanOutState Item Value}
    (sound : opts.Sound state)
    (finished : state.allReturned = true) :
    opts.items.length ≤ state.cursor := by
  have present : 0 < state.workers.length :=
    sound.workersLength ▸ workerCount_pos
  have last := List.all_eq_true.mp finished _ (List.getElem_mem present)
  have found : state.workers[0]? = some state.workers[0] :=
    List.getElem?_eq_getElem present
  cases held : state.workers[0] with
  | ready =>
      rw [held] at last
      cases last
  | running idx item =>
      rw [held] at last
      cases last
  | returned =>
      exact sound.returned 0 (found.trans (congrArg some held))

/-- When the workers have returned, every item has a record. -/
theorem Sound.exists_record
    {state : RunFanOutState Item Value}
    (sound : opts.Sound state)
    (finished : state.allReturned = true)
    {idx : Nat}
    (inside : idx < opts.items.length) :
    ∃ record, state.settled[idx]? = some (some record) := by
  have past := sound.cursor_past finished
  rcases sound.covered idx inside (Nat.lt_of_lt_of_le inside past)
    with record | ⟨worker, item, running⟩
  · exact record
  · have last :=
      List.all_eq_true.mp finished _ (List.mem_of_getElem? running)
    cases last

/-- The records in a list without a hole. -/
theorem exists_map_some
    {Entry : Type}
    {entries : List (Option Entry)}
    (full :
      ∀ idx : Nat,
        idx < entries.length →
        ∃ entry, entries[idx]? = some (some entry)) :
    ∃ found : List Entry, entries = found.map some := by
  induction entries with
  | nil =>
      exact ⟨[], rfl⟩
  | cons head rest inductionHypothesis =>
      obtain ⟨entry, equal⟩ := full 0 (Nat.succ_pos _)
      cases equal
      obtain ⟨found, rfl⟩ :=
        inductionHypothesis fun idx inside =>
          full (idx + 1) (Nat.succ_lt_succ inside)
      exact ⟨entry :: found, rfl⟩

/-- Records that are all there are read back. -/
theorem reduceOption_map_some
    (records : List (Settled Value)) :
    (records.map some).reduceOption = records := by
  induction records with
  | nil => rfl
  | cons record rest inductionHypothesis =>
      rw [List.map_cons, List.reduceOption_cons_of_some, inductionHypothesis]

/-- When the workers have returned, the result is read off the records. -/
theorem Sound.result?_of_returned
    {state : RunFanOutState Item Value}
    (sound : opts.Sound state)
    (finished : state.allReturned = true) :
    ∃ records : List (Settled Value),
      state.settled = records.map some ∧
        records.length = opts.items.length ∧
          opts.result? state = some (conclude opts.onError records) := by
  obtain ⟨records, equal⟩ :=
    exists_map_some fun idx inside =>
      sound.exists_record finished (sound.settledLength ▸ inside)
  have length := sound.settledLength
  rw [equal, List.length_map] at length
  refine ⟨records, equal, length, ?_⟩
  unfold result?
  rw [finished, equal, reduceOption_map_some]
  simp

/-- A result is read off the records of a state whose workers have returned. -/
theorem of_result?
    {steps : List RunFanOutStep}
    {final : RunFanOutState Item Value}
    {result : Except (FanOutFailure Value) (List (FanOutEntry Value))}
    (reached : opts.Reaches steps final)
    (ended : opts.result? final = some result) :
    final.allReturned = true ∧
      ∃ records : List (Settled Value),
        final.settled = records.map some ∧
          records.length = opts.items.length ∧
            result = conclude opts.onError records := by
  have finished : final.allReturned = true := by
    unfold result? at ended
    split at ended
    next both => exact (Bool.and_eq_true_iff.mp both).1
    next => cases ended
  obtain ⟨records, equal, length, read⟩ :=
    (sound_of_reaches reached).result?_of_returned finished
  rw [ended] at read
  exact ⟨finished, records, equal, length, Option.some.inj read⟩

/-! ## The outcomes of the items -/

/-- The records of the items, if all of them are run. -/
def outcomes (opts : RunFanOutOptions Item Value) : List (Settled Value) :=
  opts.items.zipIdx.map fun (item, idx) => opts.settledOf (opts.run item idx)

/-- The outcome at an index. -/
theorem getElem?_outcomes (idx : Nat) :
    opts.outcomes[idx]? = opts.settledAt? idx := by
  unfold outcomes settledAt?
  rw [List.getElem?_map, List.getElem?_zipIdx]
  cases opts.items[idx]? with
  | none => rfl
  | some item => simp

/-- Without an abort every item is run and its outcome recorded. -/
theorem records_of_no_abort
    {steps : List RunFanOutStep}
    {final : RunFanOutState Item Value}
    (reached : opts.Reaches steps final)
    (never : final.aborted ≠ true)
    {records : List (Settled Value)}
    (equal : final.settled = records.map some) :
    records = opts.outcomes ∧
      final.started.Perm (List.range opts.items.length) := by
  have sound := sound_of_reaches reached
  have length := sound.settledLength
  rw [equal, List.length_map] at length
  have ran :
      ∀ idx record,
        records[idx]? = some record →
        idx ∈ final.started ∧ opts.settledAt? idx = some record := by
    intro idx record there
    have recorded : opts.Recorded final idx record :=
      sound.recorded idx record (by rw [equal, List.getElem?_map, there]; rfl)
    have started : idx ∈ final.started := by
      by_contra absent
      exact never (recorded.aborted absent).2
    exact ⟨started, recorded.ran started⟩
  constructor
  · refine List.ext_getElem? fun idx => ?_
    rw [getElem?_outcomes]
    cases there : records[idx]? with
    | some record =>
        exact (ran idx record there).2.symm
    | none =>
        have outside := List.getElem?_eq_none_iff.mp there
        unfold settledAt?
        rw [List.getElem?_eq_none (length ▸ outside)]
        rfl
  · refine (List.perm_ext_iff_of_nodup sound.nodup List.nodup_range).mpr
      fun idx => ?_
    rw [List.mem_range]
    constructor
    · intro started
      exact (sound.startedBelow idx started).2
    · intro inside
      have there : records[idx]? = some records[idx] :=
        List.getElem?_eq_getElem (length ▸ inside)
      exact (ran idx _ there).1

/-- Without an abort, the result is read off the outcomes. -/
theorem result_of_no_abort
    {steps : List RunFanOutStep}
    {final : RunFanOutState Item Value}
    {result : Except (FanOutFailure Value) (List (FanOutEntry Value))}
    (reached : opts.Reaches steps final)
    (ended : opts.result? final = some result)
    (never : final.aborted ≠ true) :
    result = conclude opts.onError opts.outcomes := by
  obtain ⟨-, records, equal, -, rfl⟩ := of_result? reached ended
  rw [(records_of_no_abort reached never equal).1]

/-- Unless the mode is `throw-fast`, the flag stays down. -/
theorem aborted_ne_of_mode
    {steps : List RunFanOutStep}
    {state : RunFanOutState Item Value}
    (reached : opts.Reaches steps state)
    (mode : opts.onError ≠ .throwFast) :
    state.aborted ≠ true :=
  fun aborted => mode ((sound_of_reaches reached).abortedBy aborted).1

/-- Where an abort cannot come, the outcomes decide the result. -/
theorem endsWith_iff
    (never :
      ∀ {steps final},
        opts.Reaches steps final →
        final.aborted ≠ true)
    (result : Except (FanOutFailure Value) (List (FanOutEntry Value))) :
    opts.EndsWith result ↔ result = conclude opts.onError opts.outcomes := by
  constructor
  · intro ended
    cases ended with
    | empty none =>
        unfold outcomes
        rw [none]
        rfl
    | finished nonempty reached ended =>
        exact result_of_no_abort reached ended (never reached)
  · rintro rfl
    by_cases none : opts.items = []
    · have ended : opts.EndsWith (.ok []) := .empty none
      have blank : conclude opts.onError opts.outcomes = .ok [] := by
        unfold outcomes
        rw [none]
        rfl
      exact blank ▸ ended
    · obtain ⟨steps, final, reached, returned⟩ := exists_allReturned opts
      obtain ⟨records, equal, -, read⟩ :=
        (sound_of_reaches reached).result?_of_returned returned
      have same := result_of_no_abort reached read (never reached)
      exact same ▸ .finished none reached read

/-- With the flag up, no run starts. -/
theorem started_of_aborted
    {steps : List RunFanOutStep}
    {state final : RunFanOutState Item Value}
    (aborted : state.aborted = true)
    (run : Run opts.step state steps final) :
    final.started = state.started := by
  induction run with
  | nil =>
      rfl
  | cons _ stepped _ inductionHypothesis =>
      cases opts.moves_of_step stepped with
      | returned => exact inductionHypothesis aborted
      | skipped => exact inductionHypothesis aborted
      | started _ _ going =>
          exact absurd aborted (Bool.eq_false_iff.mp going)
      | settled =>
          exact inductionHypothesis (aborted_settle.mpr (.inl aborted))

/-! ## The specification -/

/-- The result tells the caller the error of an index. -/
def Reports
    (result : Except (FanOutFailure Value) (List (FanOutEntry Value)))
    (idx : Nat)
    (error : ParallelError) : Prop :=
  ∃ errors partialResults,
    result = .error (.aggregateExecution errors partialResults) ∧
      (idx, error) ∈ errors

/-- Under `throw-fast` every item that is not run is reported as aborted. -/
def ReportsUnstarted (opts : RunFanOutOptions Item Value) : Prop :=
  opts.onError = .throwFast →
  ∀ {steps final result idx},
    opts.Reaches steps final →
    opts.result? final = some result →
    idx < opts.items.length →
    idx ∉ final.started →
    Reports result idx opts.abortedError

/-- What `runFanOut` promises. -/
structure MeetsSpecification (opts : RunFanOutOptions Item Value) : Prop where
  /-- Every schedule ends, and ends with a result. -/
  bounded :
    ∀ {steps state},
      opts.Reaches steps state →
      steps.length ≤ 2 * opts.items.length + opts.workerCount.toNat
  goesOn :
    ∀ {state},
      state.allReturned = false →
      ∃ label next, opts.step state label = some next
  returns :
    ∀ {steps final},
      opts.Reaches steps final →
      final.allReturned = true →
      ∃ result, opts.result? final = some result
  inFlight :
    ∀ {steps state},
      opts.Reaches steps state →
      (state.inFlight : Int) ≤ max 1 (min opts.concurrency opts.items.length)
  atMostOnce :
    ∀ {steps state},
      opts.Reaches steps state →
      state.started.Nodup ∧ ∀ idx ∈ state.started, idx < opts.items.length
  exactlyOnce :
    opts.onError ≠ .throwFast →
    ∀ {steps final},
      opts.Reaches steps final →
      final.allReturned = true →
      final.started.Perm (List.range opts.items.length)
  /-- When nothing fails the result is the values in item order. -/
  values :
    ∀ values : List Value,
      opts.outcomes = values.map .ok →
      ∀ result, opts.EndsWith result ↔ result = .ok (values.map .value)
  /-- The outcomes alone decide the result of the other modes. -/
  nullResult :
    opts.onError = .null →
    ∀ result,
      opts.EndsWith result ↔
        result = .ok (opts.outcomes.map Settled.entryOrNull)
  skipResult :
    opts.onError = .skip →
    ∀ result,
      opts.EndsWith result ↔
        result =
          .ok
            (opts.outcomes.filterMap fun record =>
              record.value?.map FanOutEntry.value)
  throwResult :
    opts.onError = .throw →
    ∀ result,
      opts.EndsWith result ↔ result = conclude .throw opts.outcomes
  throwsAggregate :
    ∀ {errors partialResults},
      opts.onError = .throw →
      opts.EndsWith (.error (.aggregateExecution errors partialResults)) →
      errors = indexed Settled.error? opts.outcomes ∧
        partialResults = indexed Settled.value? opts.outcomes
  throwsPlain :
    ∀ {error},
      opts.onError = .throw →
      opts.EndsWith (.error (.plain error)) →
      opts.outcomes = [.failed error]
  partition :
    ∀ {errors partialResults},
      opts.EndsWith (.error (.aggregateExecution errors partialResults)) →
      (errors.map Prod.fst ++ partialResults.map Prod.fst).Perm
        (List.range opts.items.length)
  /-- Once a failure is recorded, `throw-fast` starts no run. -/
  startsNoMore :
    opts.onError = .throwFast →
    ∀ {steps later state final} {idx : Nat} {error : ParallelError},
      opts.Reaches steps state →
      state.settled[idx]? = some (some (.failed error)) →
      Run opts.step state later final →
      final.started = state.started
  recordsUnstarted :
    opts.onError = .throwFast →
    ∀ {steps final} {idx : Nat},
      opts.Reaches steps final →
      final.allReturned = true →
      idx < opts.items.length →
      idx ∉ final.started →
      final.settled[idx]? = some (some (.failed opts.abortedError))
  reportsUnstarted :
    opts.onError = .throwFast →
    ∀ {steps final result idx} {succeeded : Nat} {value : Value},
      opts.Reaches steps final →
      opts.result? final = some result →
      final.settled[succeeded]? = some (some (.ok value)) →
      idx < opts.items.length →
      idx ∉ final.started →
      Reports result idx opts.abortedError
  /-- When no run has succeeded, the error of one of them is thrown alone. -/
  throwsAlone :
    opts.onError = .throwFast →
    opts.items ≠ [] →
    ∀ {steps final result},
      opts.Reaches steps final →
      opts.result? final = some result →
      (∀ (idx : Nat) (value : Value),
        final.settled[idx]? ≠ some (some (.ok value))) →
      ∃ idx ∈ final.started,
        ∃ error,
          result = .error (.plain error) ∧
            opts.settledAt? idx = some (.failed error)

/-- The runs in flight are runs of the workers. -/
theorem Sound.inFlight_le
    {state : RunFanOutState Item Value}
    (sound : opts.Sound state) :
    (state.inFlight : Int) ≤ max 1 (min opts.concurrency opts.items.length) := by
  have few : state.inFlight ≤ opts.workerCount.toNat :=
    Nat.le_trans List.countP_le_length (Nat.le_of_eq sound.workersLength)
  have positive : 0 ≤ opts.workerCount := by
    unfold workerCount
    omega
  calc
    (state.inFlight : Int) ≤ opts.workerCount.toNat := Int.ofNat_le.mpr few
    _ = opts.workerCount := Int.toNat_of_nonneg positive
    _ = max 1 (min opts.concurrency opts.items.length) := rfl

/-- With values for outcomes, no abort comes. -/
theorem aborted_ne_of_values
    {values : List Value}
    (all : opts.outcomes = values.map .ok)
    {steps : List RunFanOutStep}
    {state : RunFanOutState Item Value}
    (reached : opts.Reaches steps state) :
    state.aborted ≠ true := by
  intro aborted
  obtain ⟨-, idx, error, failed⟩ :=
    (sound_of_reaches reached).abortedBy aborted
  rw [← getElem?_outcomes, all, List.getElem?_map] at failed
  obtain ⟨value, -, equal⟩ := Option.map_eq_some_iff.mp failed
  cases equal

/-- What `throw` throws is read off the outcomes. -/
theorem conclude_throw_aggregate
    {settled : List (Settled Value)}
    {errors : List (Nat × ParallelError)}
    {partialResults : List (Nat × Value)}
    {onError : OnErrorStrategy}
    (thrown :
      Except.error (.aggregateExecution errors partialResults) =
        conclude onError settled) :
    errors = indexed Settled.error? settled ∧
      partialResults = indexed Settled.value? settled := by
  unfold conclude at thrown
  cases blank : indexed Settled.error? settled with
  | nil =>
      rw [blank] at thrown
      cases thrown
  | cons first others =>
      rw [blank] at thrown
      cases onError with
      | throw | throwFast =>
          simp only at thrown
          split at thrown
          · cases thrown
          · cases thrown
            exact ⟨rfl, rfl⟩
      | null | skip | settled => cases thrown

/-- The plain error is thrown if it is alone and nothing succeeded. -/
theorem conclude_throw_plain
    {settled : List (Settled Value)}
    {error : ParallelError}
    (thrown : Except.error (.plain error) = conclude .throw settled) :
    settled = [.failed error] := by
  unfold conclude at thrown
  cases blank : indexed Settled.error? settled with
  | nil =>
      rw [blank] at thrown
      cases thrown
  | cons first others =>
      rw [blank] at thrown
      simp only at thrown
      split at thrown
      next lone =>
          cases thrown
          obtain ⟨single, none⟩ := Bool.and_eq_true_iff.mp lone
          rw [List.isEmpty_iff] at single none
          subst single
          exact eq_singleton_of_lone blank none
      next => cases thrown

/-- With an error and a value, `throw-fast` throws both maps. -/
theorem conclude_throwFast_aggregate
    {settled : List (Settled Value)}
    {idx succeeded : Nat}
    {error : ParallelError}
    {value : Value}
    (failed : settled[idx]? = some (.failed error))
    (ran : settled[succeeded]? = some (.ok value)) :
    conclude .throwFast settled =
      .error
        (.aggregateExecution (indexed Settled.error? settled)
          (indexed Settled.value? settled)) := by
  have hasError : (idx, error) ∈ indexed Settled.error? settled :=
    mem_indexed.mpr ⟨_, failed, rfl⟩
  have hasValue : (succeeded, value) ∈ indexed Settled.value? settled :=
    mem_indexed.mpr ⟨_, ran, rfl⟩
  unfold conclude
  cases blank : indexed Settled.error? settled with
  | nil =>
      rw [blank] at hasError
      cases hasError
  | cons first others =>
      simp only
      rw [if_neg]
      intro none
      rw [List.isEmpty_iff.mp none] at hasValue
      cases hasValue

/-- Without a value, `throw-fast` throws the error of the first item. -/
theorem conclude_throwFast_plain
    {error : ParallelError}
    {others : List (Settled Value)}
    (none :
      ∀ (idx : Nat) (value : Value),
        (Settled.failed error :: others)[idx]? ≠ some (.ok value)) :
    conclude .throwFast (.failed error :: others) =
      .error (.plain error) := by
  have noValue :
      indexed Settled.value? (.failed error :: others) = [] := by
    rw [indexed_eq_nil]
    intro record member
    obtain ⟨idx, there⟩ := List.mem_iff_getElem?.mp member
    cases record with
    | ok value => exact absurd there (none idx value)
    | failed => rfl
  unfold conclude
  rw [noValue]
  rfl

/-- An item that was not run is recorded as aborted. -/
theorem Sound.unstarted_record
    {state : RunFanOutState Item Value}
    (sound : opts.Sound state)
    (finished : state.allReturned = true)
    {idx : Nat}
    (inside : idx < opts.items.length)
    (absent : idx ∉ state.started) :
    state.settled[idx]? = some (some (.failed opts.abortedError)) := by
  obtain ⟨record, there⟩ := sound.exists_record finished inside
  rw [there, ((sound.recorded idx record there).aborted absent).1]

/-- Beside a value, `throw-fast` reports the items that were not run. -/
theorem reports_unstarted
    {steps : List RunFanOutStep}
    {final : RunFanOutState Item Value}
    {result : Except (FanOutFailure Value) (List (FanOutEntry Value))}
    (mode : opts.onError = .throwFast)
    (reached : opts.Reaches steps final)
    (ended : opts.result? final = some result)
    {idx succeeded : Nat}
    {value : Value}
    (ran : final.settled[succeeded]? = some (some (.ok value)))
    (inside : idx < opts.items.length)
    (absent : idx ∉ final.started) :
    Reports result idx opts.abortedError := by
  obtain ⟨finished, records, equal, -, rfl⟩ := of_result? reached ended
  have skipped :=
    (sound_of_reaches reached).unstarted_record finished inside absent
  have entry :
      ∀ {at_ : Nat} {record : Settled Value},
        final.settled[at_]? = some (some record) →
        records[at_]? = some record := by
    intro at_ record there
    rw [equal, List.getElem?_map] at there
    obtain ⟨found, here, same⟩ := Option.map_eq_some_iff.mp there
    cases same
    exact here
  rw [mode, conclude_throwFast_aggregate (entry skipped) (entry ran)]
  exact ⟨_, _, rfl, mem_indexed.mpr ⟨_, entry skipped, rfl⟩⟩

/-- Without a value, `throw-fast` throws the error of the first run. -/
theorem throws_first
    {steps : List RunFanOutStep}
    {final : RunFanOutState Item Value}
    {result : Except (FanOutFailure Value) (List (FanOutEntry Value))}
    (mode : opts.onError = .throwFast)
    (nonempty : opts.items ≠ [])
    (reached : opts.Reaches steps final)
    (ended : opts.result? final = some result)
    (none :
      ∀ (idx : Nat) (value : Value),
        final.settled[idx]? ≠ some (some (.ok value))) :
    0 ∈ final.started ∧
      ∃ error,
        result = .error (.plain error) ∧
          opts.settledAt? 0 = some (.failed error) := by
  obtain ⟨finished, records, equal, length, rfl⟩ := of_result? reached ended
  have sound := sound_of_reaches reached
  have present : 0 < opts.items.length := List.length_pos_of_ne_nil nonempty
  have later : 0 < final.cursor :=
    Nat.lt_of_lt_of_le present (sound.cursor_past finished)
  have started := sound.startsFirst later nonempty
  rw [mode]
  cases records with
  | nil =>
      exact absurd length (Nat.ne_of_lt present)
  | cons record others =>
      have first : final.settled[0]? = some (some record) := by
        rw [equal]
        rfl
      cases record with
      | ok value => exact absurd first (none 0 value)
      | failed error =>
          refine ⟨started, error,
            conclude_throwFast_plain fun idx value there => ?_,
            (sound.recorded 0 _ first).ran started⟩
          refine none idx value ?_
          rw [equal, List.getElem?_map, there]
          rfl

/-- The maps of an aggregate share out the indices. -/
theorem EndsWith.partition
    {errors : List (Nat × ParallelError)}
    {partialResults : List (Nat × Value)}
    (ended :
      opts.EndsWith (.error (.aggregateExecution errors partialResults))) :
    (errors.map Prod.fst ++ partialResults.map Prod.fst).Perm
      (List.range opts.items.length) := by
  cases ended with
  | finished _ reached ended =>
      obtain ⟨-, records, -, length, thrown⟩ := of_result? reached ended
      obtain ⟨rfl, rfl⟩ := conclude_throw_aggregate thrown
      exact length ▸ indexed_partition records

/--
`runFanOut` meets its specification under every schedule.  Under `throw-fast`
an item that is not run is recorded as aborted, and reported so beside a value;
when nothing succeeded, the error of one run is thrown alone.
-/
theorem meetsSpecification
    (opts : RunFanOutOptions Item Value) : opts.MeetsSpecification := by
  have decides :
      opts.onError ≠ .throwFast →
      ∀ result,
        opts.EndsWith result ↔
          result = conclude opts.onError opts.outcomes :=
    fun mode =>
      endsWith_iff fun reached => aborted_ne_of_mode reached mode
  refine
    { bounded := fun reached => ?_
      goesOn := exists_step
      returns := fun reached finished => ?_
      inFlight := fun reached => (sound_of_reaches reached).inFlight_le
      atMostOnce := fun reached => ?_
      exactlyOnce := fun mode _ _ reached finished => ?_
      values := fun values all result => ?_
      nullResult := fun mode result => ?_
      skipResult := fun mode result => ?_
      throwResult := fun mode result => ?_
      throwsAggregate := fun mode ended => ?_
      throwsPlain := fun mode ended => ?_
      partition := fun ended => ended.partition
      startsNoMore := fun mode _ _ _ _ _ _ reached failed later => ?_
      recordsUnstarted := fun _ _ _ _ reached finished inside absent =>
        (sound_of_reaches reached).unstarted_record finished inside absent
      reportsUnstarted := fun mode _ _ _ _ _ _ reached ended =>
        reports_unstarted mode reached ended
      throwsAlone := fun mode nonempty _ _ _ reached ended none =>
        ⟨0, throws_first mode nonempty reached ended none⟩ }
  · have short :=
      reached.length_add_le opts.rank fun _ stepped => rank_lt_of_step stepped
    rw [rank_launch] at short
    omega
  · obtain ⟨records, -, -, read⟩ :=
      (sound_of_reaches reached).result?_of_returned finished
    exact ⟨_, read⟩
  · have sound := sound_of_reaches reached
    exact ⟨sound.nodup, fun idx started => (sound.startedBelow idx started).2⟩
  · obtain ⟨records, equal, -⟩ :=
      (sound_of_reaches reached).result?_of_returned finished
    exact
      (records_of_no_abort reached (aborted_ne_of_mode reached mode) equal).2
  · rw [endsWith_iff (aborted_ne_of_values all) result, all,
      conclude_of_values]
  · rw [decides (by simp [mode]), mode, conclude_null]
  · rw [decides (by simp [mode]), mode, conclude_skip]
  · rw [decides (by simp [mode]), mode]
  · exact conclude_throw_aggregate ((decides (by simp [mode]) _).mp ended)
  · have thrown := (decides (by simp [mode]) _).mp ended
    rw [mode] at thrown
    exact conclude_throw_plain thrown
  · exact
      started_of_aborted
        (((sound_of_reaches reached).recorded _ _ failed).fails mode _ rfl)
        later

/-- Two items, one after the other, of which the first fails. -/
def firstFails : RunFanOutOptions Nat Nat where
  items := [0, 1]
  concurrency := 1
  onError := .throwFast
  run item _ :=
    if item = 0 then .error (.other "first") else .ok item
  stackOf _ := none

/-- The first fails, the second is not run, and the caller sees the first. -/
theorem not_reportsUnstarted_firstFails :
    ¬ firstFails.ReportsUnstarted := by
  intro reports
  have reached :
      firstFails.Reaches [.takes 0, .settles 0, .takes 0, .takes 0] _ :=
    .of_foldlM rfl
  have inside : 1 < firstFails.items.length := by decide
  obtain ⟨errors, partialResults, equal, -⟩ :=
    reports rfl reached rfl inside (by decide)
  cases equal

end RunFanOutOptions

end CloudflareParallel
