import CloudflareParallel.Library.LabelledRuns
import Mathlib.Data.List.Basic

namespace CloudflareParallel

open LabelledRuns

/-!
# The generator of `mapStream`

The generator runs without interruption from one `await` or `yield` to the next.
`Promise.race` takes its promises in the order of the slots: where some are
fulfilled when it is called, the first of them wins, and otherwise the first
that is fulfilled from then on.  The consumer calls `next` when it likes.
-/

/-- The items of a streaming map and `opts?.concurrency`. -/
structure StreamingMap (Item : Type) where
  items : List Item
  concurrencyOption : Option Int

/-- `opts?.concurrency ?? items.length`. -/
def StreamingMap.concurrency
    {Item : Type}
    (call : StreamingMap Item) : Int :=
  call.concurrencyOption.getD call.items.length

/-- `Slot`, with what its promise is fulfilled with. -/
structure StreamSlot (Item Value : Type) where
  idx : Nat
  item : Item
  value : Option Value := none
  deriving DecidableEq

/-- The index and the value of a slot whose promise is fulfilled. -/
def StreamSlot.result?
    {Item Value : Type}
    (slot : StreamSlot Item Value) : Option (Nat × Value) :=
  slot.value.map fun value => (slot.idx, value)

/-- Where the generator is. -/
inductive MapStreamPhase where
  | created
  /-- At the `await`, with the slot that has won the race. -/
  | racing (winner : Option Nat)
  /-- At the `yield` for a slot. -/
  | suspended (winner : Nat)
  | ended
  deriving DecidableEq

/--
The variables of a generator, the calls of `next` that are not answered, and in
order what was yielded and what was fulfilled.
-/
structure MapStreamState (Item Value : Type) where
  slots : List (StreamSlot Item Value) := []
  cursor : Nat := 0
  phase : MapStreamPhase := .created
  requests : Nat := 0
  yielded : List (Nat × Value) := []
  fulfilled : List (Nat × Value) := []
  deriving DecidableEq

/-- What happens next to a generator. -/
inductive MapStreamStep (Value : Type) where
  /-- The consumer calls `next`. -/
  | pulls
  /-- The task of a slot succeeds and the promise of the slot is fulfilled. -/
  | fulfils (position : Nat) (value : Value)
  /-- The generator goes on. -/
  | goesOn
  deriving DecidableEq

namespace MapStreamState

variable {Item Value : Type}

/-- The tasks in flight. -/
def inFlight (state : MapStreamState Item Value) : Nat :=
  state.slots.countP (·.value.isNone)

/-- The slots whose result is still to be yielded. -/
def live (state : MapStreamState Item Value) : List (StreamSlot Item Value) :=
  match state.phase with
  | .suspended winner => state.slots.eraseIdx winner
  | _ => state.slots

/-- The slot that the generator has decided for. -/
def decided (state : MapStreamState Item Value) : Option Nat :=
  match state.phase with
  | .racing winner => winner
  | .suspended winner => some winner
  | _ => none

end MapStreamState

namespace StreamingMap

variable {Item Value : Type}
variable (call : StreamingMap Item)

/-- `slots.push(...)` for the item at the cursor. -/
def push
    (state : MapStreamState Item Value) : MapStreamState Item Value :=
  match call.items[state.cursor]? with
  | some item =>
      { state with
        slots := state.slots ++ [{ idx := state.cursor, item := item }]
        cursor := state.cursor + 1 }
  | none => state

/-- The first loop, for a number of turns at most. -/
def fill :
    (turns : Nat) → MapStreamState Item Value → MapStreamState Item Value
  | 0, state => state
  | turns + 1, state =>
      if (state.slots.length : Int) < call.concurrency ∧
          state.cursor < call.items.length then
        fill turns (call.push state)
      else
        state

/-- The condition of the second loop, and the race of its next turn. -/
def race
    (state : MapStreamState Item Value) : MapStreamState Item Value :=
  if 0 < state.slots.length then
    { state with
      phase := .racing (state.slots.findIdx? (·.value.isSome)) }
  else
    { state with phase := .ended }

/-- The generator from its start. -/
def begin
    (state : MapStreamState Item Value) : MapStreamState Item Value :=
  if call.items.length = 0 then
    { state with phase := .ended }
  else
    race (call.fill call.items.length state)

/-- The generator behind its `yield` for a slot. -/
def afterYield
    (state : MapStreamState Item Value)
    (winner : Nat) : MapStreamState Item Value :=
  let state := { state with slots := state.slots.eraseIdx winner }
  if state.cursor < call.items.length then
    race (call.push state)
  else
    race state

/-- The promise of a slot is fulfilled, which may decide a race. -/
def fulfil
    (state : MapStreamState Item Value)
    (position : Nat)
    (slot : StreamSlot Item Value)
    (value : Value) : MapStreamState Item Value :=
  { state with
    slots := state.slots.set position { slot with value := some value }
    phase :=
      match state.phase with
      | .racing none => .racing (some position)
      | phase => phase
    fulfilled := state.fulfilled ++ [(slot.idx, value)] }

/-- The generator behind its `await`, up to the `yield`. -/
def yieldResult
    (state : MapStreamState Item Value)
    (winner : Nat)
    (result : Nat × Value) : MapStreamState Item Value :=
  { state with
    phase := .suspended winner
    requests := state.requests - 1
    yielded := state.yielded ++ [result] }

/-- The generator goes on from where it is. -/
def goOn
    (state : MapStreamState Item Value) :
    Option (MapStreamState Item Value) :=
  match state.phase with
  | .created =>
      if 0 < state.requests then some (call.begin state) else none
  | .racing none => none
  | .racing (some winner) =>
      match state.slots[winner]?.bind (·.result?) with
      | some result => some (yieldResult state winner result)
      | none => none
  | .suspended winner =>
      if 0 < state.requests then
        some (call.afterYield state winner)
      else
        none
  | .ended => none

/-- The step function of a generator with its consumer and its tasks. -/
def mapStream
    (state : MapStreamState Item Value) :
    MapStreamStep Value → Option (MapStreamState Item Value)
  | .pulls => some { state with requests := state.requests + 1 }
  | .fulfils position value =>
      match state.slots[position]? with
      | some slot =>
          if slot.value.isNone then
            some (fulfil state position slot value)
          else
            none
      | none => none
  | .goesOn => call.goOn state

end StreamingMap

end CloudflareParallel
