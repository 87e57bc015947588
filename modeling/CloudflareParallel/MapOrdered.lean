import CloudflareParallel.MapStream
import CloudflareParallel.RunFanOut

namespace CloudflareParallel

open LabelledRuns

/-!
# The generator of `mapOrdered`

The workers of `dispatch` are those of `runFanOut` but for the flag: they share
a cursor and resolve the slot of each index they have taken, while the generator
awaits one slot after the other.  The first turns of the workers are made while
they are created; the model lets them come later as well, which only adds
schedules.
-/

/-- Where the generator is. -/
inductive MapOrderedPhase where
  | created
  /-- At `await slots[i].promise`. -/
  | waiting (i : Nat)
  /-- At the `yield` for a slot. -/
  | suspended (i : Nat)
  /-- At `await Promise.all(workers)`. -/
  | finishing
  | ended
  deriving DecidableEq

/--
The variables of a generator, the calls of `next` that are not answered, what
was yielded, the indices whose task was started, and what was fulfilled.
-/
structure MapOrderedState (Item Value : Type) where
  slots : List (Option Value) := []
  cursor : Nat := 0
  workers : List (FanOutWorker Item) := []
  phase : MapOrderedPhase := .created
  requests : Nat := 0
  yielded : List Value := []
  started : List Nat := []
  fulfilled : List (Nat × Value) := []
  deriving DecidableEq

/-- What happens next to a generator and its workers. -/
inductive MapOrderedStep (Value : Type) where
  /-- The consumer calls `next`. -/
  | pulls
  /-- A worker makes a turn of its loop. -/
  | takes (worker : Nat)
  /-- The task of a worker succeeds. -/
  | fulfils (worker : Nat) (value : Value)
  /-- The generator goes on. -/
  | goesOn
  deriving DecidableEq

namespace MapOrderedState

variable {Item Value : Type}

/-- The tasks in flight. -/
def inFlight (state : MapOrderedState Item Value) : Nat :=
  state.workers.countP (·.isRunning)

/-- `Promise.all(workers)` is resolved. -/
def allReturned (state : MapOrderedState Item Value) : Bool :=
  state.workers.all (·.hasReturned)

end MapOrderedState

namespace StreamingMap

variable {Item Value : Type}
variable (call : StreamingMap Item)

/--
`Array.from({ length: Math.min(concurrency, items.length) }, ...)`, which is
empty for a length below zero.
-/
def workerCount : Nat :=
  (min call.concurrency call.items.length).toNat

/-- The generator from its start. -/
def launch
    (state : MapOrderedState Item Value) : MapOrderedState Item Value :=
  if call.items.length = 0 then
    { state with phase := .ended }
  else
    { state with
      slots := List.replicate call.items.length none
      workers := List.replicate call.workerCount .ready
      phase := .waiting 0 }

/-- A turn of the loop of a worker. -/
def dispatch
    (state : MapOrderedState Item Value)
    (worker : Nat) : MapOrderedState Item Value :=
  let idx := state.cursor
  match call.items[idx]? with
  | some item =>
      { state with
        cursor := idx + 1
        workers := state.workers.set worker (.running idx item)
        started := state.started ++ [idx] }
  | none =>
      { state with
        cursor := idx + 1
        workers := state.workers.set worker .returned }

/-- The task of a worker has succeeded: `slots[idx].resolve(value)`. -/
def resolve
    (state : MapOrderedState Item Value)
    (worker idx : Nat)
    (value : Value) : MapOrderedState Item Value :=
  { state with
    slots := state.slots.set idx (some value)
    workers := state.workers.set worker .ready
    fulfilled := state.fulfilled ++ [(idx, value)] }

/-- The generator goes on from where it is. -/
def orderedGoOn
    (state : MapOrderedState Item Value) :
    Option (MapOrderedState Item Value) :=
  match state.phase with
  | .created =>
      if 0 < state.requests then some (call.launch state) else none
  | .waiting i =>
      match state.slots[i]?.join with
      | some value =>
          some
            { state with
              phase := .suspended i
              requests := state.requests - 1
              yielded := state.yielded ++ [value] }
      | none => none
  | .suspended i =>
      if 0 < state.requests then
        if i + 1 < call.items.length then
          some { state with phase := .waiting (i + 1) }
        else
          some { state with phase := .finishing }
      else
        none
  | .finishing =>
      if state.allReturned then some { state with phase := .ended } else none
  | .ended => none

/-- The step function of a generator with its consumer and its workers. -/
def mapOrdered
    (state : MapOrderedState Item Value) :
    MapOrderedStep Value → Option (MapOrderedState Item Value)
  | .pulls => some { state with requests := state.requests + 1 }
  | .takes worker =>
      match state.workers[worker]? with
      | some .ready => some (call.dispatch state worker)
      | _ => none
  | .fulfils worker value =>
      match state.workers[worker]? with
      | some (.running idx _) => some (resolve state worker idx value)
      | _ => none
  | .goesOn => call.orderedGoOn state

end StreamingMap

end CloudflareParallel
