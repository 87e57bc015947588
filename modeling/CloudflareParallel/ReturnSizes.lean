import CloudflareParallel.Library.MarkedTraversals
import CloudflareParallel.SubmittedCode

namespace CloudflareParallel

open GraphUnfolding

/-!
# The size of a returned value

`validateReturn` rejects a value whose estimated size is above the limit of the
RPC layer.  `estimateBytes` walks the objects of the value and keeps those that
it has entered in `seen`, so that an object with several references is counted
once.  An `ArrayBuffer` is returned before `seen` is looked at, and is counted
at every reference.
-/

/-- A value to be returned, with objects by their identity. -/
inductive ReturnedValue (ObjectId : Type) where
  | null
  | undefined
  | bool (value : Bool)
  | number (value : JsNumber)
  | bigint
  | string (text : String)
  | symbol
  | function
  | reference (object : ObjectId)
  deriving DecidableEq

/--
An object, as the estimate tells them apart.  A hole of an array is read as
`undefined`.
-/
inductive ReturnedObject (ObjectId : Type) where
  | arrayBuffer (byteLength : Nat)
  | view (byteLength : Nat)
  | date
  | regExp
  | map (entries : List (ReturnedValue ObjectId × ReturnedValue ObjectId))
  | set (members : List (ReturnedValue ObjectId))
  | array (items : List (ReturnedValue ObjectId))
  | object (entries : List (String × ReturnedValue ObjectId))
  /-- A `ReadableStream`, which has no keys of its own. -/
  | readableStream

/-- All objects of a graph. -/
abbrev ReturnedHeap (ObjectId : Type) := ObjectId → ReturnedObject ObjectId

/-- `HARD_RPC_PAYLOAD_BYTES`. -/
def HARD_RPC_PAYLOAD_BYTES : Nat := 32 * 1024 * 1024

section Estimate

variable {ObjectId : Type}
variable [DecidableEq ObjectId]

/-- Code that reads and extends `seen`, and may run out of depth. -/
abbrev Estimate (ObjectId : Type) := StateT (Finset ObjectId) Option

/-- `if (seen.has(value)) return 0; seen.add(value);` before the rest. -/
def Estimate.once
    (object : ObjectId)
    (rest : Estimate ObjectId Nat) : Estimate ObjectId Nat := do
  if object ∈ (← get) then
    return 0
  modify (insert object)
  rest

/-- `let total = init; for (const item of items) total += bytes(item);`. -/
def Estimate.total
    {Item : Type}
    (init : Nat)
    (items : List Item)
    (bytes : Item → Estimate ObjectId Nat) : Estimate ObjectId Nat :=
  items.foldlM (fun total item => do return total + (← bytes item)) init

/-- `estimateBytes`, to some depth of recursion. -/
def estimateBytes
    (heap : ReturnedHeap ObjectId) :
    Nat → ReturnedValue ObjectId → Estimate ObjectId Nat
  | _, .null => pure 4
  | _, .undefined => pure 4
  | _, .bool _ => pure 4
  | _, .number _ => pure 8
  | _, .bigint => pure 16
  | _, .string text => pure (2 + utf16Length text * 2)
  | _, .symbol => pure 0
  | _, .function => pure 0
  | 0, .reference _ => fun _ => none
  | depth + 1, .reference object =>
      match heap object with
      | .arrayBuffer byteLength => pure byteLength
      | .view byteLength => pure byteLength
      | .date => pure 16
      | .regExp => pure 32
      | .map entries =>
          .once object <| .total 32 entries fun entry => do
            return (← estimateBytes heap depth entry.1) +
              (← estimateBytes heap depth entry.2)
      | .set members =>
          .once object <| .total 32 members (estimateBytes heap depth)
      | .array items =>
          .once object <| .total 16 items (estimateBytes heap depth)
      | .object entries =>
          .once object <| .total 16 entries fun entry => do
            return utf16Length entry.1 * 2 +
              (← estimateBytes heap depth entry.2)
      | .readableStream => .once object (pure 16)

/-- `validateReturn`, to some depth: the value, or the error thrown. -/
def validateReturn
    (heap : ReturnedHeap ObjectId)
    (depth : Nat)
    (value : ReturnedValue ObjectId) :
    Option (Except ErrorClass (ReturnedValue ObjectId)) :=
  match value with
  | .reference object =>
      match heap object with
      | .readableStream => some (.ok value)
      | _ => check value
  | _ => check value
where
  check (value : ReturnedValue ObjectId) :=
    ((estimateBytes heap depth value).run ∅).map fun (bytes, _) =>
      if HARD_RPC_PAYLOAD_BYTES < bytes then
        .error (.returnTooLargeError ⟨toString bytes⟩)
      else
        .ok value

end Estimate

/-! ## The sum over the distinct objects -/

/-- The size of a scalar; a reference has none of its own. -/
def ReturnedValue.scalarBytes {ObjectId : Type} : ReturnedValue ObjectId → Nat
  | .null | .undefined | .bool _ => 4
  | .number _ => 8
  | .bigint => 16
  | .string text => 2 + utf16Length text * 2
  | .symbol | .function | .reference _ => 0

/-- The object that a value refers to. -/
def ReturnedValue.references {ObjectId : Type} :
    ReturnedValue ObjectId → List ObjectId
  | .reference object => [object]
  | _ => []

namespace ReturnedObject

variable {ObjectId : Type}

/-- The values that an object holds, in the order of the estimate. -/
def values : ReturnedObject ObjectId → List (ReturnedValue ObjectId)
  | .map entries => entries.flatMap fun entry => [entry.1, entry.2]
  | .set members => members
  | .array items => items
  | .object entries => entries.map Prod.snd
  | _ => []

/-- The overhead of an object, with its keys. -/
def overhead : ReturnedObject ObjectId → Nat
  | .map _ | .set _ => 32
  | .array _ => 16
  | .object entries =>
      16 + (entries.map fun entry => utf16Length entry.1 * 2).sum
  | .readableStream => 16
  | _ => 0

/-- The size of an object that is not entered. -/
def leafBytes : ReturnedObject ObjectId → Nat
  | .arrayBuffer byteLength | .view byteLength => byteLength
  | .date => 16
  | .regExp => 32
  | _ => 0

/-- The objects that `seen` is not consulted for. -/
def IsLeaf : ReturnedObject ObjectId → Prop
  | .arrayBuffer _ | .view _ | .date | .regExp => True
  | _ => False

/--
The own size of an object: its overhead, its keys and the scalars it holds, or
its byte length.
-/
def ownSize (object : ReturnedObject ObjectId) : Nat :=
  object.overhead + (object.values.map ReturnedValue.scalarBytes).sum +
    object.leafBytes

/-- The objects that an object refers to, once for each reference. -/
def references (object : ReturnedObject ObjectId) : List ObjectId :=
  object.values.flatMap ReturnedValue.references

end ReturnedObject

namespace ReturnedHeap

variable {ObjectId : Type}
variable [Fintype ObjectId]
variable [DecidableEq ObjectId]

/-- The distinct objects that can be reached from a value. -/
noncomputable def reachable
    (heap : ReturnedHeap ObjectId)
    (value : ReturnedValue ObjectId) : Finset ObjectId :=
  open scoped Classical in
  Finset.univ.filter
    (Reaches (fun object => (heap object).references) value.references)

/-- The size of a value, with each object counted once. -/
noncomputable def distinctSize
    (heap : ReturnedHeap ObjectId)
    (value : ReturnedValue ObjectId) : Nat :=
  value.scalarBytes + ∑ object ∈ heap.reachable value, (heap object).ownSize

/-- How many references lead to an object: from the top, and from objects. -/
noncomputable def referenceCount
    (heap : ReturnedHeap ObjectId)
    (value : ReturnedValue ObjectId)
    (object : ObjectId) : Nat :=
  value.references.count object +
    ∑ holder ∈ heap.reachable value, (heap holder).references.count object

/-- At every depth beyond the number of objects the estimate ends, with this. -/
def EstimatesTo
    (heap : ReturnedHeap ObjectId)
    (value : ReturnedValue ObjectId)
    (bytes : Nat) : Prop :=
  ∀ depth,
    Fintype.card ObjectId < depth →
    ∃ seen, (estimateBytes heap depth value).run ∅ = some (bytes, seen)

/--
Each object is counted once: the estimate is the size of the distinct objects,
and a value is rejected only if that is above the limit.
-/
structure CountsOnce
    (heap : ReturnedHeap ObjectId)
    (value : ReturnedValue ObjectId) : Prop where
  estimates : heap.EstimatesTo value (heap.distinctSize value)
  rejects :
    ∀ depth error,
      Fintype.card ObjectId < depth →
      validateReturn heap depth value = some (.error error) →
      HARD_RPC_PAYLOAD_BYTES < heap.distinctSize value

/-- The condition: one reference leads to each buffer that has a size. -/
def SharesNoBuffer
    (heap : ReturnedHeap ObjectId)
    (value : ReturnedValue ObjectId) : Prop :=
  ∀ object ∈ heap.reachable value,
    (heap object).leafBytes ≠ 0 → heap.referenceCount value object = 1

end ReturnedHeap

/-! ## What an estimate counts -/

section Walks

variable {ObjectId : Type}
variable (heap : ReturnedHeap ObjectId)

/-- The bytes that a value is counted with wherever it is held. -/
def directBytes (value : ReturnedValue ObjectId) : Nat :=
  value.scalarBytes +
    (value.references.map fun object => (heap object).leafBytes).sum

/-- The bytes that are counted when an object is entered. -/
def enteredBytes (object : ObjectId) : Nat :=
  (heap object).overhead +
    ((heap object).values.map (directBytes heap)).sum

variable [DecidableEq ObjectId]

/--
From these marks an estimate counts some bytes of its own, the values that it
goes through, and each object that it enters on the way.
-/
def Walks
    (estimate : Estimate ObjectId Nat)
    (own : Nat)
    (values : List (ReturnedValue ObjectId))
    (seen : Finset ObjectId) : Prop :=
  ∃ after marked,
    estimate.run seen =
        some (own + (values.map (directBytes heap)).sum + marked, after) ∧
      Marks (fun object => (heap object).references)
        (fun object => (heap object).IsLeaf) (enteredBytes heap)
        (values.flatMap ReturnedValue.references) seen after marked

variable {heap}

/-- Some bytes are counted without any walk. -/
theorem walks_pure
    (own : Nat)
    (seen : Finset ObjectId) :
    Walks heap (pure own) own [] seen :=
  ⟨seen, 0, rfl, .skip nofun⟩

/-- After one estimate comes another, and both are counted. -/
theorem Walks.add
    {first second : Estimate ObjectId Nat}
    {ofFirst ofSecond : Nat}
    {earlier later : List (ReturnedValue ObjectId)}
    {seen : Finset ObjectId}
    (walks : Walks heap first ofFirst earlier seen)
    (goesOn :
      ∀ after, seen ⊆ after → Walks heap second ofSecond later after) :
    Walks heap (do return (← first) + (← second)) (ofFirst + ofSecond)
      (earlier ++ later) seen := by
  obtain ⟨between, marked, ran, marks⟩ := walks
  obtain ⟨after, moreMarked, ranOn, marksOn⟩ := goesOn between marks.keeps
  refine ⟨after, marked + moreMarked, ?_, ?_⟩
  · simp only [StateT.run_bind, ran, ranOn, Option.bind_eq_bind,
      Option.bind_some, StateT.run_pure, List.map_append, List.sum_append]
    congr 2
    omega
  · rw [List.flatMap_append]
    exact marks.append marksOn

/-- A loop counts its items one after the other. -/
theorem walks_total
    {Item : Type}
    {bytes : Item → Estimate ObjectId Nat}
    {own : Item → Nat}
    {values : Item → List (ReturnedValue ObjectId)}
    (init : Nat)
    (items : List Item)
    {seen : Finset ObjectId}
    (walks :
      ∀ item after, seen ⊆ after →
        Walks heap (bytes item) (own item) (values item) after) :
    Walks heap (.total init items bytes) (init + (items.map own).sum)
      (items.flatMap values) seen := by
  induction items generalizing init seen with
  | nil => exact walks_pure init seen
  | cons item rest inductionHypothesis =>
      obtain ⟨between, marked, ran, marks⟩ :=
        walks item seen (Finset.Subset.refl seen)
      obtain ⟨after, moreMarked, ranOn, marksOn⟩ :=
        inductionHypothesis
          (init + (own item + ((values item).map (directBytes heap)).sum +
            marked))
          fun other later grown =>
            walks other later (marks.keeps.trans grown)
      refine ⟨after, marked + moreMarked, ?_, ?_⟩
      · unfold Estimate.total at ranOn ⊢
        simp only [List.foldlM_cons, StateT.run_bind, ran,
          Option.bind_eq_bind, Option.bind_some, StateT.run_pure, ranOn,
          pure_bind]
        simp only [List.map_cons, List.sum_cons, List.flatMap_cons,
          List.map_append, List.sum_append]
        congr 2
        omega
      · rw [List.flatMap_cons, List.flatMap_append]
        exact marks.append marksOn

/-- An object is entered once, and counted with the values that it holds. -/
theorem walks_once
    {object : ObjectId}
    {rest : Estimate ObjectId Nat}
    {seen : Finset ObjectId}
    (inner : ¬ (heap object).IsLeaf)
    (walks :
      object ∉ seen →
      Walks heap rest (heap object).overhead (heap object).values
        (insert object seen)) :
    Walks heap (.once object rest) 0 [.reference object] seen := by
  have direct : directBytes heap (.reference object) = 0 := by
    unfold directBytes
    cases kind : heap object <;>
      simp_all [ReturnedObject.IsLeaf, ReturnedValue.scalarBytes,
        ReturnedValue.references, ReturnedObject.leafBytes]
  by_cases known : object ∈ seen
  · refine ⟨seen, 0, ?_, .skip fun root member _ => ?_⟩
    · simp [Estimate.once, known, direct]
    · cases List.mem_singleton.mp member
      exact known
  · obtain ⟨after, marked, ran, marks⟩ := walks known
    refine ⟨after, enteredBytes heap object + marked, ?_,
      .enter inner known marks⟩
    simp [Estimate.once, known, direct, ran, enteredBytes]

/-- A value that is no reference is counted without any walk. -/
theorem walks_scalar
    {depth : Nat}
    {value : ReturnedValue ObjectId}
    (scalar : value.references = [])
    (seen : Finset ObjectId) :
    Walks heap (estimateBytes heap depth value) 0 [value] seen := by
  have counted : estimateBytes heap depth value = pure value.scalarBytes := by
    cases value with
    | reference object => cases scalar
    | _ => cases depth <;> rfl
  rw [counted]
  exact ⟨seen, 0, by simp [directBytes, scalar], .skip (by simp [scalar])⟩

/-- An object that is not entered is counted at every reference. -/
theorem walks_leaf
    {object : ObjectId}
    (leaf : (heap object).IsLeaf)
    (seen : Finset ObjectId) :
    Walks heap (pure (heap object).leafBytes) 0 [.reference object] seen := by
  refine ⟨seen, 0, ?_, .skip fun root member inner => ?_⟩
  · simp [directBytes, ReturnedValue.references, ReturnedValue.scalarBytes]
  · cases List.mem_singleton.mp member
    exact absurd leaf inner

section Loops

variable {bytes : ReturnedValue ObjectId → Estimate ObjectId Nat}
variable {seen : Finset ObjectId}

/-- The loop of a `Set` or an array. -/
theorem walks_values
    (walks :
      ∀ value after, seen ⊆ after → Walks heap (bytes value) 0 [value] after)
    (init : Nat)
    (values : List (ReturnedValue ObjectId)) :
    Walks heap (.total init values bytes) init values seen := by
  have total :=
    @walks_total _ heap _ _ bytes (fun _ => 0) (fun value => [value]) init
      values seen walks
  simpa using total

/-- The loop of a `Map`. -/
theorem walks_entries
    (walks :
      ∀ value after, seen ⊆ after → Walks heap (bytes value) 0 [value] after)
    (init : Nat)
    (entries : List (ReturnedValue ObjectId × ReturnedValue ObjectId)) :
    Walks heap
      (.total init entries fun entry => do
        return (← bytes entry.1) + (← bytes entry.2))
      init (entries.flatMap fun entry => [entry.1, entry.2]) seen := by
  have total :=
    @walks_total _ heap _ _
      (fun entry : ReturnedValue ObjectId × ReturnedValue ObjectId => do
        return (← bytes entry.1) + (← bytes entry.2))
      (fun _ => 0 + 0) (fun entry => [entry.1] ++ [entry.2]) init entries seen
      fun entry after grown =>
        (walks entry.1 after grown).add fun later more =>
          walks entry.2 later (grown.trans more)
  simpa using total

/-- The loop of a plain object, with the bytes of its keys. -/
theorem walks_properties
    (walks :
      ∀ value after, seen ⊆ after → Walks heap (bytes value) 0 [value] after)
    (init : Nat)
    (entries : List (String × ReturnedValue ObjectId)) :
    Walks heap
      (.total init entries fun entry => do
        return utf16Length entry.1 * 2 + (← bytes entry.2))
      (init + (entries.map fun entry => utf16Length entry.1 * 2).sum)
      (entries.map Prod.snd) seen := by
  have total :=
    @walks_total _ heap _ _
      (fun entry : String × ReturnedValue ObjectId => do
        return (← pure (utf16Length entry.1 * 2)) + (← bytes entry.2))
      (fun entry => utf16Length entry.1 * 2 + 0)
      (fun entry => [] ++ [entry.2]) init entries seen
      fun entry after grown =>
        (walks_pure _ after).add fun later more =>
          walks entry.2 later (grown.trans more)
  simpa [List.map_eq_flatMap] using total

end Loops

variable [Fintype ObjectId]

/-- Each object that is entered leaves fewer that are not. -/
theorem card_compl_lt
    {object : ObjectId}
    {seen after : Finset ObjectId}
    (fresh : object ∉ seen)
    (grown : insert object seen ⊆ after) :
    afterᶜ.card < seenᶜ.card :=
  Finset.card_lt_card
    (Finset.compl_ssubset_compl.mpr
      ((Finset.ssubset_insert fresh).trans_subset grown))

/-- At a depth beyond the number of objects left, an estimate ends. -/
theorem estimateBytes_walks
    (depth : Nat)
    (value : ReturnedValue ObjectId)
    (seen : Finset ObjectId)
    (deep : seenᶜ.card < depth) :
    Walks heap (estimateBytes heap depth value) 0 [value] seen := by
  induction depth generalizing value seen with
  | zero => cases deep
  | succ depth inductionHypothesis =>
      cases value with
      | reference object =>
          have inside
              (fresh : object ∉ seen)
              (value : ReturnedValue ObjectId)
              (after : Finset ObjectId)
              (grown : insert object seen ⊆ after) :
              Walks heap (estimateBytes heap depth value) 0 [value] after := by
            refine inductionHypothesis value after ?_
            have fewer := card_compl_lt fresh grown
            omega
          unfold estimateBytes
          cases kind : heap object with
          | arrayBuffer | view | date | regExp =>
              have leaf : (heap object).IsLeaf := by
                rw [kind]
                trivial
              simpa [kind, ReturnedObject.leafBytes] using
                walks_leaf leaf seen
          | map entries =>
              refine walks_once (by rw [kind]; exact id) fun fresh => ?_
              rw [kind]
              exact walks_entries (inside fresh) 32 entries
          | set members =>
              refine walks_once (by rw [kind]; exact id) fun fresh => ?_
              rw [kind]
              exact walks_values (inside fresh) 32 members
          | array items =>
              refine walks_once (by rw [kind]; exact id) fun fresh => ?_
              rw [kind]
              exact walks_values (inside fresh) 16 items
          | object entries =>
              refine walks_once (by rw [kind]; exact id) fun fresh => ?_
              rw [kind]
              exact walks_properties (inside fresh) 16 entries
          | readableStream =>
              refine walks_once (by rw [kind]; exact id) fun fresh => ?_
              rw [kind]
              exact walks_pure 16 _
      | null | undefined | bool | number | bigint | string | symbol
      | function =>
          refine walks_scalar ?_ seen
          rfl

end Walks

/-! ## The sum of an estimate -/

namespace ReturnedHeap

variable {ObjectId : Type}
variable {heap : ReturnedHeap ObjectId}
variable {value : ReturnedValue ObjectId}

/-- An object that is not entered holds nothing. -/
theorem references_of_isLeaf
    {object : ReturnedObject ObjectId}
    (leaf : object.IsLeaf) :
    object.references = [] := by
  cases object with
  | arrayBuffer | view | date | regExp => rfl
  | map | set | array | object | readableStream => cases leaf

/-- An object that is not entered counts nothing on entering. -/
theorem enteredBytes_of_isLeaf
    {object : ObjectId}
    (leaf : (heap object).IsLeaf) :
    enteredBytes heap object = 0 := by
  unfold enteredBytes
  cases kind : heap object with
  | arrayBuffer | view | date | regExp => rfl
  | map | set | array | object | readableStream =>
      rw [kind] at leaf
      cases leaf

/-- What is counted on entering, apart from the objects that are not entered. -/
theorem enteredBytes_eq
    (object : ObjectId) :
    enteredBytes heap object =
      (heap object).overhead +
        ((heap object).values.map ReturnedValue.scalarBytes).sum +
          ((heap object).references.map
            fun held => (heap held).leafBytes).sum := by
  unfold enteredBytes ReturnedObject.references
  induction (heap object).values with
  | nil => rfl
  | cons held rest inductionHypothesis =>
      simp only [List.map_cons, List.sum_cons, List.flatMap_cons,
        List.map_append, List.sum_append, directBytes]
        at inductionHypothesis ⊢
      omega

/-- A value is rejected only if its estimate is above the limit. -/
theorem of_rejects
    [DecidableEq ObjectId]
    {depth bytes : Nat}
    {seen : Finset ObjectId}
    {error : ErrorClass}
    (estimated :
      (estimateBytes heap depth value).run ∅ = some (bytes, seen))
    (rejects : validateReturn heap depth value = some (.error error)) :
    HARD_RPC_PAYLOAD_BYTES < bytes ∧
      error = .returnTooLargeError ⟨toString bytes⟩ := by
  have checked :
      validateReturn.check heap depth value = some (.error error) := by
    unfold validateReturn at rejects
    split at rejects
    · split at rejects
      · cases rejects
      · exact rejects
    · exact rejects
  unfold validateReturn.check at checked
  rw [estimated, Option.map_some, Option.some_inj] at checked
  dsimp only at checked
  split at checked
  next above =>
    cases checked
    exact ⟨above, rfl⟩
  next => cases checked

variable [Fintype ObjectId]

/-- The objects that the references of a value lead to. -/
theorem mem_reachable_iff
    {object : ObjectId} :
    object ∈ heap.reachable value ↔
      Reaches (fun object => (heap object).references) value.references
        object := by
  simp [reachable]

variable [DecidableEq ObjectId]

/-- What the references of a list lead to, counted by the objects. -/
theorem sum_map_eq_sum_count
    (objects : List ObjectId)
    (bytes : ObjectId → Nat) :
    (objects.map bytes).sum =
      ∑ object, objects.count object * bytes object := by
  rw [Finset.sum_list_map_count]
  simp only [smul_eq_mul]
  refine Finset.sum_subset (Finset.subset_univ _) fun object _ outside => ?_
  rw [List.count_eq_zero.mpr fun member =>
    outside (List.mem_toFinset.mpr member), Nat.zero_mul]

/-- Only references lead to an object. -/
theorem referenceCount_pos_iff
    (object : ObjectId) :
    0 < heap.referenceCount value object ↔ object ∈ heap.reachable value := by
  unfold referenceCount
  rw [mem_reachable_iff, Nat.add_pos_iff_pos_or_pos, List.count_pos_iff,
    Finset.sum_pos_iff]
  constructor
  · rintro (root | ⟨holder, reached, holds⟩)
    · exact .root root
    · exact (mem_reachable_iff.mp reached).step (List.count_pos_iff.mp holds)
  · intro reached
    rcases reached.cases with root | ⟨holder, before, holds⟩
    · exact .inl root
    · exact
        .inr ⟨holder, mem_reachable_iff.mpr before,
          List.count_pos_iff.mpr holds⟩

variable (heap value)

/-- The sizes of what is not entered, once for each reference. -/
theorem sum_leafBytes :
    (value.references.map fun object => (heap object).leafBytes).sum +
        ∑ holder ∈ heap.reachable value,
          ((heap holder).references.map
            fun held => (heap held).leafBytes).sum =
      ∑ object ∈ heap.reachable value,
        heap.referenceCount value object * (heap object).leafBytes := by
  have everywhere :
      ∑ object ∈ heap.reachable value,
          heap.referenceCount value object * (heap object).leafBytes =
        ∑ object,
          heap.referenceCount value object * (heap object).leafBytes := by
    refine Finset.sum_subset (Finset.subset_univ _) fun object _ outside => ?_
    have none : heap.referenceCount value object = 0 :=
      Nat.eq_zero_of_not_pos fun some =>
        outside ((referenceCount_pos_iff object).mp some)
    rw [none, Nat.zero_mul]
  rw [everywhere]
  simp only [sum_map_eq_sum_count, referenceCount, Nat.add_mul,
    Finset.sum_add_distrib, Finset.sum_mul]
  rw [Finset.sum_comm]

/-- What the estimate comes to. -/
noncomputable def countedSize : Nat :=
  value.scalarBytes +
    ∑ object ∈ heap.reachable value,
      ((heap object).overhead +
        ((heap object).values.map ReturnedValue.scalarBytes).sum) +
      ∑ object ∈ heap.reachable value,
        heap.referenceCount value object * (heap object).leafBytes

/-- The estimate ends at every depth beyond the number of objects. -/
theorem estimateBytes_eq
    {depth : Nat}
    (deep : Fintype.card ObjectId < depth) :
    ∃ seen,
      (estimateBytes heap depth value).run ∅ =
        some (heap.countedSize value, seen) := by
  have within : (∅ : Finset ObjectId)ᶜ.card < depth := by
    simpa using deep
  obtain ⟨after, marked, ran, marks⟩ :=
    estimateBytes_walks depth value ∅ within
  refine ⟨after, ran.trans ?_⟩
  have entered :
      ∑ object ∈ after, enteredBytes heap object =
        ∑ object ∈ heap.reachable value, enteredBytes heap object := by
    have ends (object : ObjectId) (leaf : (heap object).IsLeaf) :
        (heap object).references = [] := references_of_isLeaf leaf
    rw [List.flatMap_singleton] at marks
    refine Finset.sum_subset (fun object member => ?_)
      fun object member outside => ?_
    · exact mem_reachable_iff.mpr ((marks.mem_iff ends object).mp member).1
    · by_contra inner
      have notLeaf : ¬ (heap object).IsLeaf := fun leaf =>
        inner (enteredBytes_of_isLeaf leaf)
      exact
        outside
          ((marks.mem_iff ends object).mpr
            ⟨mem_reachable_iff.mp member, notLeaf⟩)
  have total := marks.total
  rw [Finset.sdiff_empty, entered] at total
  simp only [enteredBytes_eq, Finset.sum_add_distrib] at total
  have leaves := heap.sum_leafBytes value
  simp only [List.map_singleton, List.sum_singleton, directBytes,
    countedSize, ← leaves, Finset.sum_add_distrib]
  congr 2
  omega

/--
The size is that of the distinct objects exactly if no buffer is shared.
-/
theorem countedSize_eq_iff :
    heap.countedSize value = heap.distinctSize value ↔
      heap.SharesNoBuffer value := by
  have le :
      ∀ object ∈ heap.reachable value,
        (heap object).leafBytes ≤
          heap.referenceCount value object * (heap object).leafBytes :=
    fun object member =>
      Nat.le_mul_of_pos_left _ ((referenceCount_pos_iff object).mpr member)
  have sums := Finset.sum_eq_sum_iff_of_le le
  have same :
      heap.countedSize value = heap.distinctSize value ↔
        ∑ object ∈ heap.reachable value, (heap object).leafBytes =
          ∑ object ∈ heap.reachable value,
            heap.referenceCount value object * (heap object).leafBytes := by
    simp only [countedSize, distinctSize, ReturnedObject.ownSize,
      Finset.sum_add_distrib]
    omega
  rw [same, sums]
  refine forall_congr' fun object => forall_congr' fun member => ?_
  rcases Nat.eq_zero_or_pos (heap object).leafBytes with none | some
  · simp [none]
  · rw [eq_comm, Nat.mul_eq_right (Nat.ne_of_gt some)]
    exact ⟨fun one _ => one, fun one => one (Nat.ne_of_gt some)⟩

/-- An estimate ends with one number of bytes. -/
theorem EstimatesTo.unique
    {heap : ReturnedHeap ObjectId}
    {value : ReturnedValue ObjectId}
    {first second : Nat}
    (estimates : heap.EstimatesTo value first)
    (again : heap.EstimatesTo value second) :
    first = second := by
  have deep := Nat.lt_succ_self (Fintype.card ObjectId)
  obtain ⟨seen, ended⟩ := estimates _ deep
  obtain ⟨others, endedAgain⟩ := again _ deep
  exact (Prod.mk.inj (Option.some.inj (ended.symm.trans endedAgain))).1

/--
The estimate always ends, with the size of what is not entered once for each
reference.  Each object is counted once exactly if no buffer is shared.
-/
theorem countsOnce_iff :
    heap.EstimatesTo value (heap.countedSize value) ∧
      (heap.CountsOnce value ↔ heap.SharesNoBuffer value) := by
  have estimates : heap.EstimatesTo value (heap.countedSize value) :=
    fun depth deep => heap.estimateBytes_eq value deep
  refine ⟨estimates, ?_⟩
  rw [← countedSize_eq_iff]
  constructor
  · intro once
    exact estimates.unique once.estimates
  · intro same
    rw [same] at estimates
    refine ⟨estimates, fun depth error deep rejects => ?_⟩
    obtain ⟨seen, counted⟩ := estimates depth deep
    exact (of_rejects counted rejects).1

end ReturnedHeap

/-- An array with two references to one buffer of 20 MiB. -/
def sharedBuffer : ReturnedHeap (Fin 2)
  | 0 => .array [.reference 1, .reference 1]
  | 1 => .arrayBuffer (20 * 1024 * 1024)

/-- The buffer is counted twice, and the value is rejected. -/
theorem not_countsOnce_sharedBuffer :
    ¬ ∀ (heap : ReturnedHeap (Fin 2)) (value : ReturnedValue (Fin 2)),
        heap.CountsOnce value := by
  intro counts
  have rejected :
      validateReturn sharedBuffer 3 (.reference 0) =
        some (.error (.returnTooLargeError ⟨"41943056"⟩)) := by
    decide
  have above :=
    (counts sharedBuffer (.reference 0)).rejects 3 _ (by decide) rejected
  have size :
      sharedBuffer.distinctSize (.reference 0) ≤
        ∑ object, (sharedBuffer object).ownSize := by
    unfold ReturnedHeap.distinctSize
    rw [ReturnedValue.scalarBytes, Nat.zero_add]
    exact Finset.sum_le_sum_of_subset (Finset.subset_univ _)
  have within :
      ∑ object, (sharedBuffer object).ownSize ≤ HARD_RPC_PAYLOAD_BYTES := by
    decide
  omega

end CloudflareParallel
