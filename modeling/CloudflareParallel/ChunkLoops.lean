import CloudflareParallel.FanOutValues
import CloudflareParallel.JsNumerics
import CloudflareParallel.Library.EqualSlices
import Mathlib.Data.Rat.Floor

namespace CloudflareParallel

/-!
# The batching loops of `scatter` and `pmap`

Six functions have the same loop: from zero, in steps of the rounded-up
quotient, push the slice up to the next step.  They differ in where the number
of chunks comes from and in the check for an empty list.
-/

namespace JsDouble

/--
`left / right`.  The quotient of two whole numbers is taken exactly: that of a
length is too far from the next whole number for its rounding to reach it.
-/
def dividedBy : JsDouble → JsDouble → JsDouble
  | .finite left, .finite right =>
      if right ≠ 0 then .finite (left / right)
      else if 0 < left then .infinite false
      else if left < 0 then .infinite true
      else .nan
  | .finite _, .infinite _ => .finite 0
  | .infinite negative, .finite right =>
      .infinite (negative != decide (right < 0))
  | .infinite _, .infinite _ => .nan
  | .nan, _ => .nan
  | _, .nan => .nan

/-- `Math.ceil(number)`. -/
def ceil : JsDouble → JsDouble
  | .finite value => .finite ⌈value⌉
  | number => number

/-- `left + right`, exact on whole numbers. -/
def plus : JsDouble → JsDouble → JsDouble
  | .finite left, .finite right => .finite (left + right)
  | .finite _, .infinite negative => .infinite negative
  | .infinite negative, .finite _ => .infinite negative
  | .infinite left, .infinite right =>
      if left = right then .infinite left else .nan
  | .nan, _ => .nan
  | _, .nan => .nan

/-- The position in an array that an argument of `slice` stands for. -/
def slicePosition (length : Nat) : JsDouble → Nat
  | .finite value =>
      let whole := if value < 0 then ⌈value⌉ else ⌊value⌋
      if whole < 0 then (length + whole).toNat else min whole.toNat length
  | .infinite negative => if negative then 0 else length
  | .nan => 0

/-- A whole number. -/
def ofInt (value : Int) : JsDouble :=
  .finite value

end JsDouble

/-- `items.slice(start, end)`. -/
def jsSlice {T : Type}
    (items : List T)
    (start stop : JsDouble) : List T :=
  let first := start.slicePosition items.length
  (items.drop first).take (stop.slicePosition items.length - first)

/-! ## The loop -/

/-- The variables of a batching loop. -/
structure BatchingLoop (T : Type) where
  i : JsDouble
  batches : List (List T)

/-- One call of a function that batches. -/
structure BatchingCall (T : Type) where
  items : List T
  chunks : JsDouble
  /-- `if (items.length === 0) return [];` stands before the loop. -/
  checksEmpty : Bool

namespace BatchingCall

variable {T : Type}
variable (call : BatchingCall T)

/-- `chunkSize`. -/
def chunkSize : JsDouble :=
  ((JsDouble.ofNat call.items.length).dividedBy call.chunks).ceil

/-- The body and the increment of the loop. -/
def turn (loop : BatchingLoop T) : BatchingLoop T where
  i := loop.i.plus call.chunkSize
  batches :=
    loop.batches ++
      [jsSlice call.items loop.i (loop.i.plus call.chunkSize)]

/-- The batches when the loop ends within a number of turns. -/
def loopWithin : (turns : Nat) → BatchingLoop T → Option (List (List T))
  | turns, loop =>
      if loop.i.lessThan (.ofNat call.items.length) then
        match turns with
        | 0 => none
        | turns + 1 => loopWithin turns (call.turn loop)
      else
        some loop.batches

/-- The batches that are dispatched, if that takes so many turns at most. -/
def formsWithin (turns : Nat) : Option (List (List T)) :=
  if call.checksEmpty && call.items.isEmpty then
    some []
  else
    call.loopWithin turns { i := .ofNat 0, batches := [] }

/-- The call dispatches the batches. -/
def Forms (batches : List (List T)) : Prop :=
  ∃ turns, call.formsWithin turns = some batches

/-- The loop ends. -/
def Terminates : Prop :=
  ∃ batches, call.Forms batches

end BatchingCall

/-! ## The functions -/

/-- `PmapOptions`. -/
structure PmapOptions where
  chunks : Option JsDouble

section Functions

variable {T : Type}

/-- `Pool.scatter`. -/
def Pool.scatter
    (items : List T)
    (chunks : JsDouble) : BatchingCall T where
  items := items
  chunks := chunks
  checksEmpty := true

/-- `Pool.pmap`. -/
def Pool.pmap
    (items : List T)
    (opts : Option PmapOptions) : BatchingCall T where
  items := items
  chunks := (opts.bind (·.chunks)).getD (.ofNat items.length)
  checksEmpty := true

/-- `LoaderOnlyPoolImpl.scatter`. -/
def LoaderOnlyPoolImpl.scatter
    (items : List T)
    (chunks : JsDouble) : BatchingCall T where
  items := items
  chunks := chunks
  checksEmpty := true

/-- `LoaderOnlyPoolImpl.pmap`. -/
def LoaderOnlyPoolImpl.pmap
    (items : List T)
    (opts : Option PmapOptions) : BatchingCall T where
  items := items
  chunks := (opts.bind (·.chunks)).getD (.ofNat items.length)
  checksEmpty := true

/-- `scatter` of the pool for tests. -/
def PoolFake.scatter
    (items : List T)
    (chunks : JsDouble) : BatchingCall T where
  items := items
  chunks := chunks
  checksEmpty := false

/-- `pmap` of the pool for tests. -/
def PoolFake.pmap
    (items : List T)
    (popts : Option PmapOptions) : BatchingCall T where
  items := items
  chunks := (popts.bind (·.chunks)).getD (.ofNat items.length)
  checksEmpty := false

/-- `pmap` of the pool resolves to the results, if every call succeeds. -/
def Pool.PmapReturns
    {R : Type}
    (stackOf : String → Option String)
    (fn : List T → List R)
    (items : List T)
    (opts : Option PmapOptions)
    (returned : List R) : Prop :=
  ∃ chunks batchResults,
    (Pool.pmap items opts).Forms chunks ∧
      Pool.FanOutReturns .throw stackOf fn chunks batchResults ∧
      returned = batchResults.flatten

/-- The same of `LoaderOnlyPoolImpl`, where `Promise.all` keeps the order. -/
def LoaderOnlyPoolImpl.PmapReturns
    {R : Type}
    (fn : List T → List R)
    (items : List T)
    (opts : Option PmapOptions)
    (returned : List R) : Prop :=
  ∃ chunks,
    (LoaderOnlyPoolImpl.pmap items opts).Forms chunks ∧
      returned = (chunks.map fn).flatten

end Functions

end CloudflareParallel
