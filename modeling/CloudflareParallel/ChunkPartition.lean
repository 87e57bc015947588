import CloudflareParallel.ChunkLoops

namespace CloudflareParallel

open EqualSlices

/-!
# What the batching loops make of the items

With a positive number of chunks the loop makes the slices of the rounded-up
quotient and ends behind the last of them.  With zero chunks the quotient is
infinite and one batch takes all.  With a negative number the loop never gets
ahead.
-/

namespace JsDouble

/-- Whole numbers are compared as such. -/
theorem lessThan_iff
    {value : Int}
    {bound : Nat} :
    (ofInt value).lessThan (ofNat bound) = true ↔ value < bound := by
  simp only [ofInt, ofNat, lessThan, decide_eq_true_eq]
  exact_mod_cast Iff.rfl

/-- Whole numbers are added as such. -/
@[simp] theorem plus_ofInt (left right : Int) :
    (ofInt left).plus (ofInt right) = ofInt (left + right) := by
  simp [ofInt, plus]

/-- Zero as the start of a loop. -/
theorem ofNat_zero : ofNat 0 = ofInt 0 := rfl

/-- The position of a whole number that is not negative. -/
theorem slicePosition_ofInt_natCast (length position : Nat) :
    (ofInt position).slicePosition length = min position length := by
  simp [ofInt, slicePosition]

/-- The rounded-up quotient by a positive number. -/
theorem ceil_dividedBy_pos
    (total : Nat)
    {parts : Nat}
    (positive : 0 < parts) :
    ((ofNat total).dividedBy (ofInt parts)).ceil =
      ofInt ((total ⌈/⌉ parts : Nat) : Int) := by
  have above : (0 : Rat) < parts := Nat.cast_pos.mpr positive
  have reaches := length_le_quotient_mul positive total
  have least :
      (total ⌈/⌉ parts : Nat) * parts < total + parts := by
    rcases Nat.eq_zero_or_pos (total ⌈/⌉ parts) with none | some
    · rw [none, Nat.zero_mul]
      omega
    · have before := (lt_quotient_iff positive).mp (Nat.pred_lt_of_lt some)
      rw [Nat.pred_eq_sub_one, Nat.sub_mul, Nat.one_mul] at before
      omega
  have rounded :
      ⌈(total : Rat) / parts⌉ = ((total ⌈/⌉ parts : Nat) : Int) := by
    rw [Int.ceil_eq_iff, lt_div_iff₀ above, div_le_iff₀ above, sub_mul,
      one_mul]
    refine ⟨?_, ?_⟩
    · rw [sub_lt_iff_lt_add]
      exact_mod_cast least
    · exact_mod_cast reaches
  simp [ofNat, ofInt, dividedBy, ceil, positive.ne', rounded]

/-- The quotient of some items by no chunks. -/
theorem ceil_dividedBy_zero
    {total : Nat}
    (nonempty : 0 < total) :
    ((ofNat total).dividedBy (ofInt 0)).ceil = .infinite false := by
  simp [ofNat, ofInt, dividedBy, ceil, nonempty]

/-- The quotient by a negative number is no step ahead. -/
theorem ceil_dividedBy_neg
    (total : Nat)
    {parts : Int}
    (negative : parts < 0) :
    ∃ size : Int,
      size ≤ 0 ∧
        ((ofNat total).dividedBy (ofInt parts)).ceil = ofInt size := by
  have below : (parts : Rat) ≤ 0 := by
    exact_mod_cast negative.le
  refine ⟨⌈(total : Rat) / parts⌉, ?_, ?_⟩
  · rw [Int.ceil_le, Int.cast_zero]
    exact div_nonpos_of_nonneg_of_nonpos (Nat.cast_nonneg _) below
  · simp [ofNat, ofInt, dividedBy, ceil, negative.ne]

end JsDouble

/-- A slice of the loop is a slice of the size of its step. -/
theorem jsSlice_eq_slice {T : Type}
    (items : List T)
    (size position : Nat) :
    jsSlice items (.ofInt ((position * size : Nat) : Int))
        (.ofInt (((position + 1) * size : Nat) : Int)) =
      slice size items position := by
  unfold jsSlice slice
  simp only [JsDouble.slicePosition_ofInt_natCast, Nat.succ_mul]
  rcases Nat.le_total (position * size) items.length with inside | outside
  · rw [Nat.min_eq_left inside]
    apply List.take_eq_take_iff.mpr
    rw [List.length_drop]
    omega
  · rw [Nat.min_eq_right outside, List.drop_length,
      List.drop_of_length_le outside]
    simp

namespace BatchingCall

variable {T : Type}
variable {call : BatchingCall T}

/-- One turn with a step of a size. -/
theorem turn_slices
    {size : Nat}
    (steps : call.chunkSize = .ofInt size)
    (made : Nat) :
    call.turn
        { i := .ofInt ((made * size : Nat) : Int)
          batches := slices size call.items made } =
      { i := .ofInt (((made + 1) * size : Nat) : Int)
        batches := slices size call.items (made + 1) } := by
  have next :
      (JsDouble.ofInt ((made * size : Nat) : Int)).plus call.chunkSize =
        .ofInt (((made + 1) * size : Nat) : Int) := by
    rw [steps, JsDouble.plus_ofInt, Nat.succ_mul, Nat.cast_add]
  unfold turn
  rw [next, jsSlice_eq_slice, slices_succ]

/--
With steps of a positive size the loop makes the cover; by induction on the
turns, after which as many slices are made as the loop has turned.
-/
theorem loopWithin_cover
    {size : Nat}
    (positive : 0 < size)
    (steps : call.chunkSize = .ofInt size)
    {turns made : Nat}
    (enough : call.items.length ⌈/⌉ size ≤ made + turns)
    (inside : made ≤ call.items.length ⌈/⌉ size) :
    call.loopWithin turns
        { i := .ofInt ((made * size : Nat) : Int)
          batches := slices size call.items made } =
      some (cover size call.items) := by
  induction turns generalizing made with
  | zero =>
      have finished : made = call.items.length ⌈/⌉ size := by omega
      have passed : ¬ made * size < call.items.length := by
        rw [← lt_quotient_iff positive]
        omega
      unfold loopWithin
      rw [if_neg (JsDouble.lessThan_iff.not.mpr (by exact_mod_cast passed)),
        finished]
      rfl
  | succ turns inductionHypothesis =>
      unfold loopWithin
      by_cases more : made * size < call.items.length
      · have later := (lt_quotient_iff positive).mpr more
        rw [if_pos (JsDouble.lessThan_iff.mpr (by exact_mod_cast more)),
          turn_slices steps]
        exact inductionHypothesis (by omega) later
      · have finished : made = call.items.length ⌈/⌉ size := by
          rw [← lt_quotient_iff positive] at more
          omega
        rw [if_neg (JsDouble.lessThan_iff.not.mpr (by exact_mod_cast more)),
          finished]
        rfl

/-- More turns than the loop needs change nothing. -/
theorem loopWithin_of_le
    {turns more : Nat}
    (fewer : turns ≤ more)
    {loop : BatchingLoop T}
    {batches : List (List T)}
    (ended : call.loopWithin turns loop = some batches) :
    call.loopWithin more loop = some batches := by
  induction turns generalizing more loop with
  | zero =>
      unfold loopWithin at ended ⊢
      split at ended
      · cases ended
      next finished =>
        rw [if_neg finished]
        exact ended
  | succ turns inductionHypothesis =>
      obtain ⟨more, rfl⟩ : ∃ rest, more = rest + 1 :=
        ⟨more - 1, by omega⟩
      unfold loopWithin at ended ⊢
      split at ended
      next going =>
        rw [if_pos going]
        exact inductionHypothesis (Nat.le_of_succ_le_succ fewer) ended
      next finished =>
        rw [if_neg finished]
        exact ended

/-- Calls dispatch one list of batches at most. -/
theorem forms_unique
    {first second : List (List T)}
    (formsFirst : call.Forms first)
    (formsSecond : call.Forms second) :
    first = second := by
  obtain ⟨turns, ended⟩ := formsFirst
  obtain ⟨turns', ended'⟩ := formsSecond
  unfold formsWithin at ended ended'
  split at ended
  next early =>
    rw [if_pos early] at ended'
    exact (Option.some.inj ended).symm.trans (Option.some.inj ended')
  next late =>
    rw [if_neg late] at ended'
    have atEnd := loopWithin_of_le (Nat.le_max_left turns turns') ended
    have atEnd' := loopWithin_of_le (Nat.le_max_right turns turns') ended'
    exact Option.some.inj (atEnd.symm.trans atEnd')

/-- With a positive number of chunks the batches are the cover. -/
theorem forms_cover
    {parts : Nat}
    (positive : 0 < parts)
    (asked : call.chunks = .ofInt parts)
    (nonempty : 0 < call.items.length) :
    call.Forms (cover (call.items.length ⌈/⌉ parts) call.items) := by
  have sizePositive : 0 < call.items.length ⌈/⌉ parts :=
    (lt_quotient_iff positive).mpr (by omega)
  have steps :
      call.chunkSize = .ofInt ((call.items.length ⌈/⌉ parts : Nat) : Int) := by
    rw [chunkSize, asked, JsDouble.ceil_dividedBy_pos _ positive]
  have late : ¬ (call.checksEmpty && call.items.isEmpty) = true := by
    simp [List.length_pos_iff.mp nonempty]
  refine ⟨call.items.length ⌈/⌉ (call.items.length ⌈/⌉ parts), ?_⟩
  have made :=
    @loopWithin_cover _ call _ sizePositive steps
      (call.items.length ⌈/⌉ (call.items.length ⌈/⌉ parts)) 0
      (by omega) (by omega)
  rw [Nat.zero_mul] at made
  rw [formsWithin, if_neg late]
  exact made

/-- Without items no batch is dispatched, whatever the number of chunks. -/
theorem forms_nil
    (noItems : call.items = []) :
    call.Forms [] := by
  refine ⟨0, ?_⟩
  unfold formsWithin
  split
  · rfl
  · unfold loopWithin
    rw [noItems, JsDouble.ofNat_zero,
      if_neg (JsDouble.lessThan_iff.not.mpr (by simp))]

/-- With no chunks one batch has all items. -/
theorem forms_zero
    (asked : call.chunks = .ofInt 0)
    (nonempty : 0 < call.items.length) :
    call.Forms [call.items] := by
  have steps : call.chunkSize = .infinite false := by
    rw [chunkSize, asked, JsDouble.ceil_dividedBy_zero nonempty]
  have late : ¬ (call.checksEmpty && call.items.isEmpty) = true := by
    simp [List.length_pos_iff.mp nonempty]
  have whole :
      jsSlice call.items (.ofInt 0) (.infinite false) = call.items := by
    simp [jsSlice, JsDouble.slicePosition, JsDouble.ofInt]
  have next : (JsDouble.ofInt 0).plus call.chunkSize = .infinite false := by
    rw [steps]
    rfl
  refine ⟨1, ?_⟩
  rw [formsWithin, if_neg late, JsDouble.ofNat_zero]
  unfold loopWithin
  rw [if_pos (JsDouble.lessThan_iff.mpr (by exact_mod_cast nonempty))]
  unfold loopWithin turn
  simp [next, whole, JsDouble.lessThan, JsDouble.ofNat]

/-- A loop that does not get ahead is not at its end, whatever its turns. -/
theorem loopWithin_of_behind
    {size : Int}
    (backward : size ≤ 0)
    (steps : call.chunkSize = .ofInt size)
    (nonempty : 0 < call.items.length)
    (turns : Nat)
    {i : Int}
    (behind : i ≤ 0)
    (batches : List (List T)) :
    call.loopWithin turns { i := .ofInt i, batches := batches } = none := by
  have going : i < call.items.length := by omega
  induction turns generalizing i batches with
  | zero =>
      unfold loopWithin
      rw [if_pos (JsDouble.lessThan_iff.mpr going)]
  | succ turns inductionHypothesis =>
      unfold loopWithin turn
      rw [if_pos (JsDouble.lessThan_iff.mpr going)]
      simp only [steps, JsDouble.plus_ofInt]
      exact inductionHypothesis (by omega) _ (by omega)

/-- With a negative number of chunks the loop does not end. -/
theorem not_terminates_of_neg
    {parts : Int}
    (negative : parts < 0)
    (asked : call.chunks = .ofInt parts)
    (nonempty : 0 < call.items.length) :
    ¬ call.Terminates := by
  rintro ⟨batches, turns, ended⟩
  obtain ⟨size, backward, rounded⟩ :=
    JsDouble.ceil_dividedBy_neg call.items.length negative
  have steps : call.chunkSize = .ofInt size := by
    rw [chunkSize, asked, rounded]
  have late : ¬ (call.checksEmpty && call.items.isEmpty) = true := by
    simp [List.length_pos_iff.mp nonempty]
  rw [formsWithin, if_neg late, JsDouble.ofNat_zero,
    loopWithin_of_behind backward steps nonempty turns (Int.le_refl 0)] at ended
  cases ended

/-- The loop ends just if the number of chunks is not negative. -/
theorem terminates_iff
    {parts : Int}
    (asked : call.chunks = .ofInt parts)
    (nonempty : 0 < call.items.length) :
    call.Terminates ↔ 0 ≤ parts := by
  constructor
  · intro ends
    by_contra negative
    exact
      not_terminates_of_neg (Int.lt_of_not_ge negative) asked nonempty ends
  · intro notNegative
    rcases Int.lt_or_eq_of_le notNegative with positive | zero
    · obtain ⟨parts, rfl⟩ := Int.eq_ofNat_of_zero_le notNegative
      exact ⟨_, forms_cover (Int.natCast_pos.mp positive) asked nonempty⟩
    · exact ⟨_, forms_zero (zero ▸ asked) nonempty⟩

end BatchingCall

end CloudflareParallel
