import CloudflareParallel.ChunkPartition

namespace CloudflareParallel

open EqualSlices

/-!
# Batching in the pools

What the batches are, when the loops end and when the requested number of
batches is dispatched, for every function that batches.
-/

/-- The functions that batch. -/
inductive BatchingFunction where
  | poolScatter
  | poolPmap
  | loaderOnlyScatter
  | loaderOnlyPmap
  | fakeScatter
  | fakePmap
  deriving DecidableEq

/-- The call of a function with a number of chunks. -/
def BatchingFunction.call
    {T : Type}
    (items : List T)
    (chunks : JsDouble) : BatchingFunction → BatchingCall T
  | .poolScatter => Pool.scatter items chunks
  | .poolPmap => Pool.pmap items (some { chunks := some chunks })
  | .loaderOnlyScatter => LoaderOnlyPoolImpl.scatter items chunks
  | .loaderOnlyPmap =>
      LoaderOnlyPoolImpl.pmap items (some { chunks := some chunks })
  | .fakeScatter => PoolFake.scatter items chunks
  | .fakePmap => PoolFake.pmap items (some { chunks := some chunks })

section Batches

variable {T : Type}

/-- Every function batches the items it is given. -/
@[simp] theorem BatchingFunction.items_call
    (items : List T)
    (chunks : JsDouble)
    (function : BatchingFunction) :
    (function.call items chunks).items = items := by
  cases function <;> rfl

/-- Every function uses the number of chunks it is given. -/
@[simp] theorem BatchingFunction.chunks_call
    (items : List T)
    (chunks : JsDouble)
    (function : BatchingFunction) :
    (function.call items chunks).chunks = chunks := by
  cases function <;> rfl

/-- The batches are a partition of the items into a number of parts at most. -/
structure BatchingCall.Partitions
    (call : BatchingCall T)
    (parts : Nat)
    (batches : List (List T)) : Prop where
  forms : call.Forms batches
  nonempty : ∀ batch ∈ batches, batch ≠ []
  few : batches.length ≤ parts
  flatten : batches.flatten = call.items

/-- A positive number of chunks gives a partition. -/
theorem BatchingCall.exists_partition
    {call : BatchingCall T}
    {parts : Nat}
    (positive : 0 < parts)
    (asked : call.chunks = .ofInt parts) :
    ∃ batches, call.Partitions parts batches := by
  by_cases noItems : call.items = []
  · exact
      ⟨[],
        { forms := BatchingCall.forms_nil noItems
          nonempty := fun _ member => absurd member List.not_mem_nil
          few := Nat.zero_le _
          flatten := noItems.symm }⟩
  · have some : 0 < call.items.length := List.length_pos_iff.mpr noItems
    have sizePositive : 0 < call.items.length ⌈/⌉ parts :=
      (lt_quotient_iff positive).mpr (by omega)
    exact
      ⟨cover (call.items.length ⌈/⌉ parts) call.items,
        { forms := BatchingCall.forms_cover positive asked some
          nonempty := fun _ member => ne_nil_of_mem_cover sizePositive member
          few := length_cover_quotient_le positive some
          flatten := flatten_cover sizePositive call.items }⟩

/-- Without `chunks` every item is a batch of its own, and that is a partition. -/
theorem Pool.exists_partition_pmap
    {items : List T}
    {opts : Option PmapOptions}
    {chunks : Int}
    (atLeastOne : 1 ≤ chunks)
    (asked :
      ∀ number, opts.bind (·.chunks) = some number → number = .ofInt chunks) :
    ∃ parts batches, (Pool.pmap items opts).Partitions parts batches := by
  cases given : opts.bind (·.chunks) with
  | some number =>
      obtain ⟨parts, rfl⟩ := Int.eq_ofNat_of_zero_le (by omega : 0 ≤ chunks)
      have number : (Pool.pmap items opts).chunks = .ofInt parts := by
        simp only [Pool.pmap, given, asked number given, Option.getD_some]
      exact ⟨parts, BatchingCall.exists_partition (by omega) number⟩
  | none =>
      by_cases noItems : items = []
      · exact
          ⟨0, [],
            { forms := BatchingCall.forms_nil noItems
              nonempty := fun _ member => absurd member List.not_mem_nil
              few := Nat.le_refl 0
              flatten := noItems.symm }⟩
      · have number : (Pool.pmap items opts).chunks = .ofInt items.length := by
          simp only [Pool.pmap, given, Option.getD_none]
          rfl
        exact
          ⟨items.length,
            BatchingCall.exists_partition (List.length_pos_iff.mpr noItems)
              number⟩

/-- What is mapped batch by batch is mapped item by item. -/
theorem flatten_map_batches
    {R : Type}
    (g : T → R)
    {items : List T}
    {batches : List (List T)}
    (whole : batches.flatten = items) :
    (batches.map fun batch => batch.map g).flatten = items.map g := by
  rw [← List.map_flatten, whole]

/--
Chunking is invisible.  Whatever number of chunks is asked for, every function
dispatches non-empty batches, no more than asked for, that are the item list
when put in a row; and `pmap` of a function that maps its batch is the map of
the items.
-/
theorem chunking_invisible
    {R : Type}
    (stackOf : String → Option String)
    (g : T → R)
    (items : List T)
    (chunks : Int)
    (atLeastOne : 1 ≤ chunks) :
    (∀ function : BatchingFunction,
      ∃ batches,
        (∀ formed,
          (function.call items (.ofInt chunks)).Forms formed ↔
            formed = batches) ∧
        (∀ batch ∈ batches, batch ≠ []) ∧
        (batches.length : Int) ≤ chunks ∧
        batches.flatten = items) ∧
    ∀ opts : Option PmapOptions,
      (∀ number, opts.bind (·.chunks) = some number → number = .ofInt chunks) →
      ∀ returned,
        (Pool.PmapReturns stackOf (fun batch => batch.map g) items opts
            returned ↔
          returned = items.map g) ∧
        (LoaderOnlyPoolImpl.PmapReturns (fun batch => batch.map g) items opts
            returned ↔
          returned = items.map g) := by
  refine ⟨?_, ?_⟩
  · intro function
    obtain ⟨parts, rfl⟩ := Int.eq_ofNat_of_zero_le (by omega : 0 ≤ chunks)
    obtain ⟨batches, partitions⟩ :=
      @BatchingCall.exists_partition _
        (function.call items (.ofInt parts)) parts (by omega)
        (function.chunks_call items _)
    refine
      ⟨batches, ?_, partitions.nonempty, Int.ofNat_le.mpr partitions.few, ?_⟩
    · intro formed
      constructor
      · intro forms
        exact BatchingCall.forms_unique forms partitions.forms
      · rintro rfl
        exact partitions.forms
    · rw [partitions.flatten, function.items_call]
  · intro opts asked returned
    obtain ⟨parts, batches, partitions⟩ :=
      Pool.exists_partition_pmap atLeastOne asked
    have mapped := flatten_map_batches g partitions.flatten
    refine ⟨⟨?_, ?_⟩, ⟨?_, ?_⟩⟩
    · rintro ⟨formed, results, forms, resolves, rfl⟩
      rw [Pool.fanOutReturns_iff] at resolves
      rw [resolves, BatchingCall.forms_unique forms partitions.forms]
      exact mapped
    · rintro rfl
      exact
        ⟨batches, _, partitions.forms,
          (Pool.fanOutReturns_iff _ _ _ _ _).mpr rfl, mapped.symm⟩
    · rintro ⟨formed, forms, rfl⟩
      rw [BatchingCall.forms_unique forms partitions.forms]
      exact mapped
    · rintro rfl
      exact ⟨batches, partitions.forms, mapped.symm⟩

/-- Four items in three chunks. -/
theorem chunking_invisible_four :
    LoaderOnlyPoolImpl.PmapReturns (fun batch => batch.map (· + 1))
      [1, 2, 3, 4] (some { chunks := some (.ofInt 3) }) [2, 3, 4, 5] := by
  have asked :
      ∀ number,
        (some (PmapOptions.mk (some (.ofInt 3)))).bind (·.chunks) =
            some number →
          number = .ofInt 3 :=
    fun number same => (Option.some.inj same).symm
  have invisible :=
    chunking_invisible (fun _ => none) (· + 1) [1, 2, 3, 4] 3 (by decide)
  exact ((invisible.2 _ asked _).2).mpr rfl

/-! ## The end of the loops -/

/--
The batching loops end just when the number of chunks is not negative: then the
step is positive or infinite, and otherwise it never leads ahead.
-/
theorem batchingLoops_terminate_iff
    (items : List T)
    (nonempty : items ≠ [])
    (chunks : Int)
    (function : BatchingFunction) :
    (function.call items (.ofInt chunks)).Terminates ↔ 0 ≤ chunks := by
  apply BatchingCall.terminates_iff (function.chunks_call items _)
  rw [function.items_call]
  exact List.length_pos_iff.mpr nonempty

/-- One item and no chunk. -/
theorem batchingLoops_terminate_none :
    (BatchingFunction.fakePmap.call ["a"] (.ofInt 0)).Terminates :=
  (batchingLoops_terminate_iff ["a"] (List.cons_ne_nil _ _) 0 .fakePmap).mpr
    (Int.le_refl 0)

/-- `pool.scatter(fn, ['a'], -1)` does not end its loop. -/
theorem scatter_minusOne_endless :
    ¬ ∀ (items : List String) (chunks : Int) (function : BatchingFunction),
        items ≠ [] →
        (function.call items (.ofInt chunks)).Terminates := by
  intro always
  have ends := always ["a"] (-1) .poolScatter (List.cons_ne_nil _ _)
  exact
    BatchingCall.not_terminates_of_neg (by decide : (-1 : Int) < 0) rfl
      (by decide) ends

/-! ## The requested number of batches -/

/--
The call dispatches as many batches as are requested, or one for every item if
these are fewer, and their sizes differ by one at most.
-/
def BatchingCall.DispatchesRequested
    (call : BatchingCall T)
    (chunks : Int) : Prop :=
  ∃ batches,
    call.Forms batches ∧
      (batches.length : Int) = min chunks call.items.length ∧
      ∀ first ∈ batches, ∀ second ∈ batches,
        first.length ≤ second.length + 1

/-- A request is met if the batches are balanced. -/
theorem BatchingCall.dispatchesRequested_iff_isBalanced
    {call : BatchingCall T}
    {parts : Nat}
    {batches : List (List T)}
    (forms : call.Forms batches) :
    call.DispatchesRequested parts ↔ IsBalanced parts call.items batches := by
  constructor
  · rintro ⟨formed, formsToo, count, near⟩
    cases BatchingCall.forms_unique forms formsToo
    exact ⟨by omega, near⟩
  · rintro ⟨count, near⟩
    exact ⟨batches, forms, by omega, near⟩

/--
The requested number of batches is dispatched, in nearly equal sizes, just when
every item gets a batch, or when the number of items or the next number is a
multiple of it: all batches but the last have the rounded-up size.
-/
theorem dispatchesRequested_iff
    (items : List T)
    (chunks : Int)
    (atLeastOne : 1 ≤ chunks)
    (function : BatchingFunction) :
    (function.call items (.ofInt chunks)).DispatchesRequested chunks ↔
      items.length ≤ chunks ∨
        chunks ∣ items.length ∨ chunks ∣ items.length + 1 := by
  obtain ⟨parts, rfl⟩ := Int.eq_ofNat_of_zero_le (by omega : 0 ≤ chunks)
  have positive : 0 < parts := by omega
  by_cases noItems : items = []
  · have none : (function.call items (.ofInt parts)).items = [] := by
      rw [function.items_call, noItems]
    rw [BatchingCall.dispatchesRequested_iff_isBalanced
      (BatchingCall.forms_nil none)]
    refine iff_of_true ⟨?_, ?_⟩ (.inl ?_)
    · rw [none]
      exact (Nat.min_zero parts).symm
    · intro first member
      cases member
    · simp [noItems]
  · have nonempty : 0 < items.length := List.length_pos_iff.mpr noItems
    have forms :=
      @BatchingCall.forms_cover _ (function.call items (.ofInt parts)) parts
        positive (function.chunks_call items _)
        (by rw [function.items_call]; exact nonempty)
    rw [BatchingCall.dispatchesRequested_iff_isBalanced forms]
    simp only [function.items_call]
    rw [isBalanced_iff positive nonempty, ← Int.natCast_dvd_natCast,
      ← Int.natCast_dvd_natCast, Nat.cast_add, Nat.cast_one, Nat.cast_le]

/-- Five items in three chunks, since six is a multiple. -/
theorem dispatchesRequested_five :
    (BatchingFunction.poolPmap.call [1, 2, 3, 4, 5]
      (.ofInt 3)).DispatchesRequested 3 :=
  (dispatchesRequested_iff [1, 2, 3, 4, 5] 3 (by decide) .poolPmap).mpr
    (.inr (.inr (by decide)))

/-- `pool.scatter(fn, [1, 2, 3, 4], 3)` dispatches two batches. -/
theorem scatter_four_twoBatches :
    ¬ ∀ (items : List Nat) (chunks : Int) (function : BatchingFunction),
        1 ≤ chunks →
        (function.call items (.ofInt chunks)).DispatchesRequested chunks := by
  intro always
  have met := always [1, 2, 3, 4] 3 .poolScatter (by decide)
  have forms :=
    @BatchingCall.forms_cover _ (Pool.scatter [1, 2, 3, 4] (.ofInt 3)) 3
      (by decide) rfl (by decide)
  have balanced :=
    (BatchingCall.dispatchesRequested_iff_isBalanced forms).mp met
  have two := balanced.1
  revert two
  decide

end Batches

end CloudflareParallel
