import CloudflareParallel.ChunkLoops
import CloudflareParallel.ErrorDecode
import CloudflareParallel.PoolMap

namespace CloudflareParallel

/-!
# The records of the settled mode

Under `settled` the caller is promised one record for each item.  `runFanOut`
looks at the mode only once there is an error: when every item succeeds, it
returns the bare values, as in all the other modes.
-/

/-! ## Calls under `settled` -/

/-- What is recorded for an outcome. -/
def Settled.ofOutcome
    {Value : Type}
    (stackOf : String → Option String) :
    Except Rejection Value → Settled Value
  | .ok value => .ok value
  | .error err => .failed (err.asParallel stackOf)

/-- The value of an entry of an answer, or the typed error thrown for it. -/
def RunOneResult.outcome
    (stackOf : String → Option String) :
    RunOneResult → Except Rejection JsValue
  | .ok value => .ok value
  | .failed error =>
      .error
        (.error (.library (.ofClass stackOf (leafErrorToTypedError error))))

/--
A call whose `onError` is `settled`, with the outcomes of its items.  An answer
of the coordinator has an entry for each list of arguments.
-/
inductive SettledCall (Item Value : Type) where
  | runFanOut
      (opts : RunFanOutOptions Item Value)
      (mode : opts.onError = .settled)
  | loaderOnlyMap
      (items : List Item)
      (concurrency : Option Int)
      (stackOf : String → Option String)
      (runOnce : Item → (idx : Nat) → Except Rejection Value)
  | poolMap
      (items : List Item)
      (stackOf : String → Option String)
      (results : List (Except Rejection Value))
      (answered : results.length = items.length)
  | poolScatter
      (items : List Item)
      (chunks : JsDouble)
      (batches : List (List Item))
      (formed : (Pool.scatter items chunks).Forms batches)
      (stackOf : String → Option String)
      (results : List (Except Rejection Value))
      (answered : results.length = batches.length)

namespace SettledCall

variable {Item Value : Type}

/-- The call can resolve or reject so, under some order of completions. -/
def EndsWith
    (call : SettledCall Item Value)
    (result : Except (FanOutFailure Value) (List (FanOutEntry Value))) :
    Prop :=
  match call with
  | .runFanOut opts _ => opts.EndsWith result
  | .loaderOnlyMap items concurrency stackOf runOnce =>
      (LoaderOnlyPool.mapOptions items
        { concurrency := concurrency, onError := some .settled } runOnce
        stackOf).EndsWith result
  | .poolMap items stackOf results _
  | .poolScatter items _ _ _ stackOf results _ =>
      if items.length = 0 then
        result = .ok []
      else
        (Pool.fanOutOptions .settled stackOf results).EndsWith result

/-- The items of the fan-out: those of the call, or its batches. -/
def size : SettledCall Item Value → Nat
  | .runFanOut opts _ => opts.items.length
  | .loaderOnlyMap items _ _ _ => items.length
  | .poolMap items _ _ _ => items.length
  | .poolScatter _ _ batches _ _ _ _ => batches.length

/-- The records of the items, in their order. -/
def records : SettledCall Item Value → List (Settled Value)
  | .runFanOut opts _ => opts.outcomes
  | .loaderOnlyMap items _ stackOf runOnce =>
      items.zipIdx.map fun (item, idx) =>
        Settled.ofOutcome stackOf (runOnce item idx)
  | .poolMap _ stackOf results _
  | .poolScatter _ _ _ _ stackOf results _ =>
      results.map (Settled.ofOutcome stackOf)

/-- Whatever the order of completions, the call resolves to the records. -/
def ResolvesToRecords (call : SettledCall Item Value) : Prop :=
  ∀ result,
    call.EndsWith result ↔ result = .ok (call.records.map FanOutEntry.record)

end SettledCall

/-! ## The records of `#fanOut` -/

/-- The outcomes of a fan-out are the records of its entries. -/
theorem Pool.outcomes_of_results
    {Value : Type}
    (onError : OnErrorStrategy)
    (stackOf : String → Option String)
    (results : List (Except Rejection Value)) :
    (fanOutOptions onError stackOf results).outcomes =
      results.map (Settled.ofOutcome stackOf) := by
  apply List.ext_getElem?
  intro idx
  rw [RunFanOutOptions.getElem?_outcomes]
  unfold RunFanOutOptions.settledAt? fanOutOptions
  rcases Nat.lt_or_ge idx results.length with inside | outside
  · simp only [List.getElem?_range inside, List.getElem?_map,
      List.getElem?_eq_getElem inside, Option.map_some]
    cases results[idx] <;> rfl
  · simp [outside]

/-- A fan-out of the pool is answered with an entry for each item. -/
theorem MapCall.length_outcomes
    {call : MapCall}
    {platform : Platform}
    {response : FanOutResponse}
    (ran : call.fanOut.runMany platform = .ok response)
    (stackOf : String → Option String) :
    (response.results.map (·.outcome stackOf)).length = call.items.length := by
  rw [List.length_map, (response_aligned ran).length_eq]
  exact List.length_map ..

/-- The call of `Pool.map` with the answer of the coordinator. -/
def SettledCall.ofRunMany
    {call : MapCall}
    {platform : Platform}
    {response : FanOutResponse}
    (ran : call.fanOut.runMany platform = .ok response)
    (stackOf : String → Option String) : SettledCall JsValue JsValue :=
  .poolMap call.items stackOf (response.results.map (·.outcome stackOf))
    (call.length_outcomes ran stackOf)

/-! ## The shape of the result -/

section Shape

variable {Item Value : Type}

/-- Under `settled`, with an error the result is the records. -/
theorem conclude_settled_of_failed
    {records : List (Settled Value)}
    {error : ParallelError}
    (failed : .failed error ∈ records) :
    conclude .settled records = .ok (records.map FanOutEntry.record) := by
  unfold conclude
  cases errors : indexed Settled.error? records with
  | nil => cases indexed_eq_nil.mp errors _ failed
  | cons first others => rfl

/-- Under `settled`, without an error the result is the bare values. -/
theorem conclude_settled_of_no_failed
    {records : List (Settled Value)}
    (none : ∀ error, .failed error ∉ records) :
    conclude .settled records = .ok (records.map Settled.entry) := by
  have blank : indexed Settled.error? records = [] := by
    rw [indexed_eq_nil]
    intro record member
    cases record with
    | ok value => rfl
    | failed error => exact absurd member (none error)
  unfold conclude
  rw [blank]

/-- The result is the records if there are none, or one of a failure. -/
theorem conclude_settled_eq_records_iff
    (records : List (Settled Value)) :
    conclude .settled records = .ok (records.map FanOutEntry.record) ↔
      records = [] ∨ ∃ error, .failed error ∈ records := by
  by_cases some : ∃ error, .failed error ∈ records
  · obtain ⟨error, failed⟩ := some
    exact
      iff_of_true (conclude_settled_of_failed failed) (.inr ⟨error, failed⟩)
  · have none : ∀ error, .failed error ∉ records :=
      fun error failed => some ⟨error, failed⟩
    rw [conclude_settled_of_no_failed none, or_iff_left some]
    constructor
    · intro same
      cases records with
      | nil => rfl
      | cons record rest =>
          have first := (List.cons.inj (Except.ok.inj same)).1
          cases record with
          | ok value => cases first
          | failed error => cases first
    · rintro rfl
      rfl

/-- A call with one result has the result that it is compared with. -/
theorem forall_eq_iff
    {Result : Type}
    {Ends : Result → Prop}
    {made : Result}
    (only : ∀ result, Ends result ↔ result = made)
    (other : Result) :
    (∀ result, Ends result ↔ result = other) ↔ made = other := by
  constructor
  · intro same
    exact (same made).mp ((only made).mpr rfl)
  · rintro rfl
    exact only

/-- What `runFanOut` resolves to under `settled`. -/
theorem endsWith_settled_iff
    {opts : RunFanOutOptions Item Value}
    (mode : opts.onError = .settled)
    (result : Except (FanOutFailure Value) (List (FanOutEntry Value))) :
    opts.EndsWith result ↔ result = conclude .settled opts.outcomes := by
  rw [RunFanOutOptions.endsWith_iff fun reached =>
    RunFanOutOptions.aborted_ne_of_mode reached (by simp [mode]), mode]

end Shape

namespace SettledCall

variable {Item Value : Type}

/-- A fan-out of the pool ends as the records of its entries conclude. -/
theorem poolEndsWith_iff
    {items : List Item}
    {stackOf : String → Option String}
    {results : List (Except Rejection Value)}
    (answered : items.length = 0 → results = [])
    (result : Except (FanOutFailure Value) (List (FanOutEntry Value))) :
    (if items.length = 0 then
        result = .ok []
      else
        (Pool.fanOutOptions .settled stackOf results).EndsWith result) ↔
      result =
        conclude .settled (results.map (Settled.ofOutcome stackOf)) := by
  split
  next empty =>
      rw [answered empty]
      exact Iff.rfl
  next =>
      rw [endsWith_settled_iff rfl, Pool.outcomes_of_results]

/-- Every call ends as its records conclude. -/
theorem endsWith_iff
    (call : SettledCall Item Value)
    (result : Except (FanOutFailure Value) (List (FanOutEntry Value))) :
    call.EndsWith result ↔ result = conclude .settled call.records := by
  cases call with
  | runFanOut opts mode => exact endsWith_settled_iff mode result
  | loaderOnlyMap items concurrency stackOf runOnce =>
      exact endsWith_settled_iff rfl result
  | poolMap items stackOf results answered =>
      refine poolEndsWith_iff (fun empty => ?_) result
      exact List.length_eq_zero_iff.mp (answered.trans empty)
  | poolScatter items chunks batches formed stackOf results answered =>
      refine poolEndsWith_iff (fun empty => ?_) result
      obtain ⟨turns, formed⟩ := formed
      have none : items = [] := List.length_eq_zero_iff.mp empty
      subst none
      cases formed
      exact List.length_eq_zero_iff.mp answered

/-- There is a record for each item. -/
theorem length_records (call : SettledCall Item Value) :
    call.records.length = call.size := by
  cases call with
  | runFanOut opts mode => simp [records, size, RunFanOutOptions.outcomes]
  | loaderOnlyMap items concurrency stackOf runOnce => simp [records, size]
  | poolMap items stackOf results answered =>
      simp [records, size, answered]
  | poolScatter items chunks batches formed stackOf results answered =>
      simp [records, size, answered]

/--
The settled mode has one shape exactly when an item fails or there is none: the
call has a record for each item, and resolves to them in these cases only.
-/
theorem resolvesToRecords_iff
    (call : SettledCall Item Value) :
    call.records.length = call.size ∧
      (call.ResolvesToRecords ↔
        call.size = 0 ∨ ∃ error, .failed error ∈ call.records) := by
  refine ⟨call.length_records, ?_⟩
  unfold ResolvesToRecords
  rw [forall_eq_iff call.endsWith_iff, conclude_settled_eq_records_iff,
    ← call.length_records, List.length_eq_zero_iff]

/-- One item that succeeds. -/
def succeeds : SettledCall Nat Nat :=
  .runFanOut
    { items := [0]
      concurrency := 1
      onError := .settled
      run := fun item _ => .ok item
      stackOf := fun _ => none }
    rfl

/-- Where every item succeeds, the bare values are returned. -/
theorem not_resolvesToRecords_succeeds :
    ¬ ∀ call : SettledCall Nat Nat, call.ResolvesToRecords := by
  intro resolves
  have same :=
    ((resolves succeeds) _).mp ((succeeds.endsWith_iff _).mpr rfl)
  cases same

end SettledCall

end CloudflareParallel
