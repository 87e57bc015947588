import CloudflareParallel.Library.LabelledRuns
import CloudflareParallel.Rejections

namespace CloudflareParallel

open LabelledRuns

/-!
# The workers of `runFanOut`

The workers of one call share a cursor, a flag and the array of results.  A
worker runs without interruption from one `await` to the next, so a step is
either one turn of the loop of a worker or the end of a run that a worker
awaits.  The first turns are made while the workers are created; the model lets
them come later as well, which only adds schedules.
-/

/-- `OnErrorStrategy`. -/
inductive OnErrorStrategy where
  | throw
  | throwFast
  | null
  | skip
  | settled
  deriving Repr, DecidableEq

/--
`FanOutOptions`, with the outcome of the run of each item and with what the
runtime records as stacks.
-/
structure RunFanOutOptions (Item Value : Type) where
  items : List Item
  concurrency : Int
  onError : OnErrorStrategy
  run : Item → (idx : Nat) → Except Rejection Value
  stackOf : String → Option String

/-- `Settled`. -/
inductive Settled (Value : Type) where
  | ok (value : Value)
  | failed (error : ParallelError)

/-- Where a worker is: before a turn of its loop, in a run, or at its end. -/
inductive FanOutWorker (Item : Type) where
  | ready
  | running (idx : Nat) (item : Item)
  | returned
  deriving DecidableEq

namespace FanOutWorker

variable {Item : Type}

/-- The worker awaits a run. -/
def isRunning : FanOutWorker Item → Bool
  | .running _ _ => true
  | _ => false

/-- The promise of the worker is resolved. -/
def hasReturned : FanOutWorker Item → Bool
  | .returned => true
  | _ => false

/-- How many more steps a worker makes on what it has taken. -/
def pending : FanOutWorker Item → Nat
  | .returned => 0
  | .ready => 1
  | .running _ _ => 2

end FanOutWorker

/-- The variables of a call, with the indices that `run` was called for. -/
structure RunFanOutState (Item Value : Type) where
  settled : List (Option (Settled Value))
  cursor : Nat
  aborted : Bool
  workers : List (FanOutWorker Item)
  started : List Nat

namespace RunFanOutState

variable {Item Value : Type}

/-- The runs that have started and not settled. -/
def inFlight (state : RunFanOutState Item Value) : Nat :=
  state.workers.countP (·.isRunning)

/-- `Promise.all(workers)` is resolved. -/
def allReturned (state : RunFanOutState Item Value) : Bool :=
  state.workers.all (·.hasReturned)

end RunFanOutState

/-- A turn of a worker's loop, or the end of the run it awaits. -/
inductive RunFanOutStep where
  | takes (worker : Nat)
  | settles (worker : Nat)
  deriving DecidableEq

namespace RunFanOutOptions

variable {Item Value : Type}
variable (opts : RunFanOutOptions Item Value)

/-- `Math.max(1, Math.min(opts.concurrency, items.length))`. -/
def workerCount : Int :=
  max 1 (min opts.concurrency opts.items.length)

/-- The variables when the workers are created. -/
def launch : RunFanOutState Item Value where
  settled := List.replicate opts.items.length none
  cursor := 0
  aborted := false
  workers := List.replicate opts.workerCount.toNat .ready
  started := []

/-- The error of an item that is not run any more. -/
def abortedError : ParallelError :=
  .ofClass opts.stackOf (.cancelledError (some "aborted by sibling failure"))

/-- What is recorded for a run with an outcome. -/
def settledOf : Except Rejection Value → Settled Value
  | .ok value => .ok value
  | .error err => .failed (err.asParallel opts.stackOf)

/-- `runOne`, up to its `await`. -/
def runOne
    (state : RunFanOutState Item Value)
    (worker idx : Nat)
    (item : Item) : RunFanOutState Item Value :=
  if state.aborted then
    { state with
      settled := state.settled.set idx (some (.failed opts.abortedError)) }
  else
    { state with
      workers := state.workers.set worker (.running idx item)
      started := state.started ++ [idx] }

/-- One turn of the loop of a worker. -/
def takeNext
    (state : RunFanOutState Item Value)
    (worker : Nat) : RunFanOutState Item Value :=
  let idx := state.cursor
  let state := { state with cursor := idx + 1 }
  match opts.items[idx]? with
  | none =>
      { state with workers := state.workers.set worker .returned }
  | some item =>
      if state.aborted then
        { state with
          settled := state.settled.set idx (some (.failed opts.abortedError)) }
      else
        opts.runOne state worker idx item

/-- The rest of `runOne`, when the run has settled. -/
def settle
    (state : RunFanOutState Item Value)
    (worker idx : Nat)
    (item : Item) : RunFanOutState Item Value :=
  let outcome := opts.run item idx
  { state with
    settled := state.settled.set idx (some (opts.settledOf outcome))
    aborted :=
      match outcome with
      | .ok _ => state.aborted
      | .error _ => state.aborted || opts.onError = .throwFast
    workers := state.workers.set worker .ready }

/-- The step function of the workers. -/
def step
    (state : RunFanOutState Item Value) :
    RunFanOutStep → Option (RunFanOutState Item Value)
  | .takes worker =>
      match state.workers[worker]? with
      | some .ready => some (opts.takeNext state worker)
      | _ => none
  | .settles worker =>
      match state.workers[worker]? with
      | some (.running idx item) => some (opts.settle state worker idx item)
      | _ => none

end RunFanOutOptions

/-! ## The result -/

/-- An element of the array that `runFanOut` returns. -/
inductive FanOutEntry (Value : Type) where
  | value (value : Value)
  | null
  | undefined
  | record (settled : Settled Value)

/-- What `runFanOut` throws. -/
inductive FanOutFailure (Value : Type) where
  | plain (err : ParallelError)
  | aggregateExecution
      (errors : List (Nat × ParallelError))
      (partialResults : List (Nat × Value))

namespace Settled

variable {Value : Type}

/-- The error of a record. -/
def error? : Settled Value → Option ParallelError
  | .ok _ => none
  | .failed error => some error

/-- The value of a record. -/
def value? : Settled Value → Option Value
  | .ok value => some value
  | .failed _ => none

/-- `s.value`. -/
def entry : Settled Value → FanOutEntry Value
  | .ok value => .value value
  | .failed _ => .undefined

/-- `s.ok ? s.value : null`. -/
def entryOrNull : Settled Value → FanOutEntry Value
  | .ok value => .value value
  | .failed _ => .null

end Settled

section Result

variable {Value : Type}

/-- What a reading of the records gives, by index, in the order of a map. -/
def indexed
    {Part : Type}
    (part : Settled Value → Option Part)
    (settled : List (Settled Value)) : List (Nat × Part) :=
  settled.zipIdx.filterMap fun (record, idx) =>
    (part record).map fun found => (idx, found)

/--
The end of `runFanOut`, from the records.  The map of errors lists them by
index, so that of the lowest index is its first.
-/
def conclude
    (onError : OnErrorStrategy)
    (settled : List (Settled Value)) :
    Except (FanOutFailure Value) (List (FanOutEntry Value)) :=
  let errors := indexed Settled.error? settled
  let partialResults := indexed Settled.value? settled
  match errors with
  | [] => .ok (settled.map Settled.entry)
  | (_, first) :: others =>
      match onError with
      | .throw =>
          if others.isEmpty && partialResults.isEmpty then
            .error (.plain first)
          else
            .error (.aggregateExecution errors partialResults)
      | .throwFast =>
          if partialResults.isEmpty then
            .error (.plain first)
          else
            .error (.aggregateExecution errors partialResults)
      | .null => .ok (settled.map Settled.entryOrNull)
      | .skip =>
          .ok
            (settled.filterMap fun record => record.value?.map FanOutEntry.value)
      | .settled => .ok (settled.map FanOutEntry.record)

end Result

namespace RunFanOutOptions

variable {Item Value : Type}
variable (opts : RunFanOutOptions Item Value)

/--
What the call ends with in a state; nothing while a worker is at work.  A hole
in the array of records would be a `TypeError`.
-/
def result?
    (state : RunFanOutState Item Value) :
    Option (Except (FanOutFailure Value) (List (FanOutEntry Value))) :=
  if state.allReturned && state.settled.all Option.isSome then
    some (conclude opts.onError state.settled.reduceOption)
  else
    none

/-- A run of the workers from their creation. -/
abbrev Reaches
    (steps : List RunFanOutStep)
    (state : RunFanOutState Item Value) : Prop :=
  Run opts.step opts.launch steps state

/-- `runFanOut` can end so, under some order of its steps. -/
inductive EndsWith :
    Except (FanOutFailure Value) (List (FanOutEntry Value)) → Prop where
  | empty :
      opts.items = [] →
      EndsWith (.ok [])
  | finished
      {steps : List RunFanOutStep}
      {final : RunFanOutState Item Value}
      {result : Except (FanOutFailure Value) (List (FanOutEntry Value))} :
      opts.items ≠ [] →
      opts.Reaches steps final →
      opts.result? final = some result →
      EndsWith result

end RunFanOutOptions

end CloudflareParallel
