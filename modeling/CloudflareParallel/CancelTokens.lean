import CloudflareParallel.ErrorHierarchy
import CloudflareParallel.Library.LabelledRuns
import CloudflareParallel.Library.ParentForests

namespace CloudflareParallel

open ParentForests

/-!
# Cancel tokens

A token has an abort controller, the reason it was cancelled with and the set of
its children.  Cancelling walks that set while the abort listeners of the
children take them out of it.  A token is named by its number in the order in
which the tokens are constructed.
-/

/-- A `Set` as its iterator sees it: a deleted value leaves its place empty. -/
abbrev SetPlaces := List (Option Nat)

namespace SetPlaces

/-- `add`. -/
def add
    (places : SetPlaces)
    (value : Nat) : SetPlaces :=
  if some value ∈ places then
    places
  else
    places ++ [some value]

/-- `delete`. -/
def delete
    (places : SetPlaces)
    (value : Nat) : SetPlaces :=
  places.map fun place => if place = some value then none else place

/-- `clear`. -/
def clear (places : SetPlaces) : SetPlaces :=
  places.map fun _ => none

end SetPlaces

/-- A listener on the `abort` event of a token. -/
inductive AbortListener where
  /-- `() => this.#children.delete(c)`. -/
  | dropsChild (parent child : Nat)
  /-- `() => hook(this.#rawReason)`. -/
  | callsHook (hook : Nat)
  deriving Repr, DecidableEq

/-- `CancelToken`. -/
structure CancelToken where
  /-- `signal.reason`, once the controller has aborted. -/
  signalReason : Option ErrorClass := none
  listeners : List AbortListener := []
  rawReason : Option String := none
  children : SetPlaces := []

/-- What `poll` returns. -/
structure TokenPoll where
  cancelled : Bool
  reason : Option String
  deriving Repr, DecidableEq

namespace CancelToken

/-- `isCancelled`. -/
def isCancelled (token : CancelToken) : Bool :=
  token.signalReason.isSome

/-- `poll`. -/
def poll (token : CancelToken) : TokenPoll where
  cancelled := token.isCancelled
  reason := token.rawReason

/-- `reasonOf`, of the signal of a token. -/
def reasonOf (token : CancelToken) : Option String :=
  token.signalReason.map ErrorClass.message

end CancelToken

/-- The tokens that exist, and the calls of their hooks. -/
structure TokenHeap where
  created : Nat := 0
  tokens : Nat → CancelToken := fun _ => {}
  hookCalls : List (Nat × Option String) := []

namespace TokenHeap

/-- An assignment to the fields of a token. -/
def update
    (heap : TokenHeap)
    (token : Nat)
    (change : CancelToken → CancelToken) : TokenHeap :=
  { heap with
    tokens := fun node =>
      if node = token then
        change (heap.tokens token)
      else
        heap.tokens node }

/-- `poll`, of a token of the heap. -/
def poll
    (heap : TokenHeap)
    (token : Nat) : TokenPoll :=
  (heap.tokens token).poll

/-- A listener on the signal of a token runs. -/
def runListener
    (token : Nat)
    (heap : TokenHeap) : AbortListener → TokenHeap
  | .dropsChild parent child =>
      heap.update parent fun fields =>
        { fields with children := fields.children.delete child }
  | .callsHook hook =>
      { heap with
        hookCalls :=
          heap.hookCalls ++ [(hook, (heap.tokens token).rawReason)] }

/-- `controller.abort(err)`, with listeners that run once. -/
def abort
    (heap : TokenHeap)
    (token : Nat)
    (err : ErrorClass) : TokenHeap :=
  (heap.tokens token).listeners.foldl (runListener token)
    (heap.update token fun fields =>
      { fields with signalReason := some err, listeners := [] })

/--
`for (const child of this.#children)`, from a place of the set on; the set has
no more places than the loop has turns.
-/
def forEachChild
    (cancelChild : TokenHeap → Nat → TokenHeap)
    (token : Nat)
    (heap : TokenHeap)
    (place : Nat) : Nat → TokenHeap
  | 0 => heap
  | turns + 1 =>
      match (heap.tokens token).children[place]? with
      | none => heap
      | some none =>
          forEachChild cancelChild token heap (place + 1) turns
      | some (some child) =>
          forEachChild cancelChild token (cancelChild heap child)
            (place + 1) turns

/-- `cancel`, for a tree of no more than the given depth. -/
def cancelWithin
    (reason : Option String) : Nat → TokenHeap → Nat → TokenHeap
  | 0, heap, _ => heap
  | depth + 1, heap, token =>
      if (heap.tokens token).isCancelled then
        heap
      else
        let reasoned :=
          heap.update token fun fields => { fields with rawReason := reason }
        let aborted := reasoned.abort token (.cancelledError reason)
        let walked :=
          forEachChild (cancelWithin reason depth) token aborted 0
            ((aborted.tokens token).children.length + 1)
        walked.update token fun fields =>
          { fields with children := fields.children.clear }

/-- `cancel`. -/
def cancel
    (heap : TokenHeap)
    (token : Nat)
    (reason : Option String) : TokenHeap :=
  cancelWithin reason heap.created heap token

/-- `new CancelToken()`. -/
def construct (heap : TokenHeap) : TokenHeap :=
  { heap with created := heap.created + 1 }

/-- `child`. -/
def child
    (heap : TokenHeap)
    (parent : Nat) : TokenHeap :=
  let c := heap.created
  let constructed := heap.construct
  if (heap.tokens parent).isCancelled then
    constructed.cancel c (heap.tokens parent).reasonOf
  else
    let added :=
      constructed.update parent fun fields =>
        { fields with children := fields.children.add c }
    added.update c fun fields =>
      { fields with listeners := fields.listeners ++ [.dropsChild parent c] }

/-- `onCancel`. -/
def onCancel
    (heap : TokenHeap)
    (token : Nat)
    (hook : Nat) : TokenHeap :=
  if (heap.tokens token).isCancelled then
    runListener token heap (.callsHook hook)
  else
    heap.update token fun fields =>
      { fields with listeners := fields.listeners ++ [.callsHook hook] }

end TokenHeap

/-- A call of the program on its tokens. -/
inductive TokenCall where
  | constructs
  | child (parent : Nat)
  | cancel (token : Nat) (reason : Option String)
  | onCancel (token : Nat) (hook : Nat)
  deriving Repr, DecidableEq

namespace TokenCall

/-- The parent of the token that the call makes. -/
def madeBelow : TokenCall → Option (Option Nat)
  | .constructs => some none
  | .child parent => some (some parent)
  | .cancel _ _ => none
  | .onCancel _ _ => none

/-- The forest that calls make. -/
def forestOf (calls : List TokenCall) : ParentForest :=
  calls.filterMap madeBelow

end TokenCall

/-- One call, on a token that exists. -/
def TokenHeap.step
    (heap : TokenHeap) : TokenCall → Option TokenHeap
  | .constructs => some heap.construct
  | .child parent =>
      if parent < heap.created then some (heap.child parent) else none
  | .cancel token reason =>
      if token < heap.created then some (heap.cancel token reason) else none
  | .onCancel token hook =>
      if token < heap.created then some (heap.onCancel token hook) else none

example :
    ([.constructs, .child 0, .child 1, .child 0, .cancel 0 (some "r")].foldlM
        TokenHeap.step {}).map
        (fun heap => (List.range 4).map heap.poll) =
      some (List.replicate 4 ⟨true, some "r"⟩) := by
  decide

end CloudflareParallel
