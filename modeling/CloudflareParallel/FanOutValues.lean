import CloudflareParallel.RunFanOutSpecification

namespace CloudflareParallel

/-!
# The values of a fan-out

`#fanOut` ends with a `runFanOut` over the entries of the answer: the run of an
index reads the entry there.  When every call has succeeded, every schedule of
it ends with the values in the order of the argument lists.
-/

namespace Pool

variable {Argument Value : Type}

/--
The `runFanOut` at the end of `#fanOut`.  An entry of `results` is the value of
the call, or the typed error that is thrown for it.
-/
def fanOutOptions
    (onError : OnErrorStrategy)
    (stackOf : String → Option String)
    (results : List (Except Rejection Value)) : RunFanOutOptions Nat Value where
  items := List.range results.length
  concurrency := results.length
  onError := onError
  run idx _ :=
    match results[idx]? with
    | some result => result
    | none =>
        let message := "Cannot read properties of undefined (reading 'ok')"
        .error
          (.error
            (.native
              { name := "TypeError"
                message := message
                stack := stackOf message }))
  stackOf := stackOf

/-- The entries of the answer when every call succeeds. -/
def succeededResults
    (call : Argument → Value)
    (argsList : List Argument) : List (Except Rejection Value) :=
  argsList.map fun args => .ok (call args)

/-- `#fanOut` resolves to these values, when every call succeeds. -/
def FanOutReturns
    (onError : OnErrorStrategy)
    (stackOf : String → Option String)
    (call : Argument → Value)
    (argsList : List Argument)
    (values : List Value) : Prop :=
  (fanOutOptions onError stackOf (succeededResults call argsList)).EndsWith
    (.ok (values.map .value))

/-- The records of the entries are their values. -/
theorem outcomes_fanOutOptions
    (onError : OnErrorStrategy)
    (stackOf : String → Option String)
    (call : Argument → Value)
    (argsList : List Argument) :
    (fanOutOptions onError stackOf
        (succeededResults call argsList)).outcomes =
      (argsList.map call).map .ok := by
  apply List.ext_getElem?
  intro idx
  rw [RunFanOutOptions.getElem?_outcomes]
  unfold RunFanOutOptions.settledAt? fanOutOptions succeededResults
  rcases Nat.lt_or_ge idx argsList.length with inside | outside
  · simp [inside, RunFanOutOptions.settledOf]
  · simp [outside]

/-- What `#fanOut` resolves to is the values in the order of the calls. -/
theorem fanOutReturns_iff
    (onError : OnErrorStrategy)
    (stackOf : String → Option String)
    (call : Argument → Value)
    (argsList : List Argument)
    (values : List Value) :
    FanOutReturns onError stackOf call argsList values ↔
      values = argsList.map call := by
  have all := outcomes_fanOutOptions onError stackOf call argsList
  unfold FanOutReturns
  rw [RunFanOutOptions.endsWith_iff
      (RunFanOutOptions.aborted_ne_of_values all), all, conclude_of_values]
  constructor
  · intro same
    have entries := Except.ok.inj same
    exact
      (List.map_injective_iff.mpr fun _ _ => FanOutEntry.value.inj) entries
  · rintro rfl
    rfl

/-- Every schedule of the workers at the end of `#fanOut` ends. -/
theorem fanOutOptions_bounded
    (onError : OnErrorStrategy)
    (stackOf : String → Option String)
    (results : List (Except Rejection Value))
    {steps : List RunFanOutStep}
    {state : RunFanOutState Nat Value}
    (reached : (fanOutOptions onError stackOf results).Reaches steps state) :
    steps.length ≤ 3 * results.length + 1 := by
  have short :=
    reached.length_add_le (fanOutOptions onError stackOf results).rank
      fun _ stepped => RunFanOutOptions.rank_lt_of_step stepped
  have items :
      (fanOutOptions onError stackOf results).items.length =
        results.length := by
    simp [fanOutOptions]
  have workers :
      (fanOutOptions onError stackOf results).workerCount ≤
        results.length + 1 := by
    simp only [RunFanOutOptions.workerCount, items]
    simp only [fanOutOptions]
    omega
  rw [RunFanOutOptions.rank_launch, items] at short
  omega

end Pool

end CloudflareParallel
