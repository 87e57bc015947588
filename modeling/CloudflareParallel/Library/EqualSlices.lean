import Mathlib.Algebra.Order.Floor.Div
import Mathlib.Data.List.Basic

namespace EqualSlices

/-!
# Slices of one size

The slices of a size cover a list from its start, and only the last of them may
be shorter.  Asked for a number of parts, one slices by the rounded-up quotient;
`isBalanced_iff` says when that gives the parts that were asked for.
-/

variable {α : Type}

/-- The slice at a position. -/
def slice
    (size : Nat)
    (items : List α)
    (position : Nat) : List α :=
  (items.drop (position * size)).take size

/-- The slices at the first positions. -/
def slices
    (size : Nat)
    (items : List α)
    (count : Nat) : List (List α) :=
  (List.range count).map (slice size items)

/-- One slice for every position. -/
@[simp] theorem length_slices
    (size : Nat)
    (items : List α)
    (count : Nat) :
    (slices size items count).length = count := by
  simp [slices]

/-- The next slice comes after those before it. -/
theorem slices_succ
    (size : Nat)
    (items : List α)
    (count : Nat) :
    slices size items (count + 1) =
      slices size items count ++ [slice size items count] := by
  simp [slices, List.range_succ]

/-- A slice has the size, or what is left of the items. -/
theorem length_slice
    (size : Nat)
    (items : List α)
    (position : Nat) :
    (slice size items position).length =
      min size (items.length - position * size) := by
  simp [slice]

/-- The slices in a row are the start of the list. -/
theorem flatten_slices
    (size : Nat)
    (items : List α)
    (count : Nat) :
    (slices size items count).flatten = items.take (count * size) := by
  induction count with
  | zero =>
      simp [slices]
  | succ count inductionHypothesis =>
      rw [slices_succ, List.flatten_append, inductionHypothesis,
        List.flatten_singleton, Nat.succ_mul, List.take_add]
      rfl

/-! ## The rounded-up quotient -/

/-- As many slices as the quotient reach the end of the list. -/
theorem length_le_quotient_mul
    {size : Nat}
    (positive : 0 < size)
    (total : Nat) :
    total ≤ (total ⌈/⌉ size) * size := by
  rw [Nat.mul_comm]
  exact (ceilDiv_le_iff_le_mul positive).mp (Nat.le_refl _)

/-- A position is below the quotient when its slice starts inside. -/
theorem lt_quotient_iff
    {size : Nat}
    (positive : 0 < size)
    {position total : Nat} :
    position < total ⌈/⌉ size ↔ position * size < total := by
  rw [← not_le, ceilDiv_le_iff_le_mul positive, not_le, Nat.mul_comm]

/-- All slices of a size that have an item. -/
def cover
    (size : Nat)
    (items : List α) : List (List α) :=
  slices size items (items.length ⌈/⌉ size)

/-- The cover is the whole list. -/
theorem flatten_cover
    {size : Nat}
    (positive : 0 < size)
    (items : List α) :
    (cover size items).flatten = items := by
  rw [cover, flatten_slices]
  exact List.take_of_length_le (length_le_quotient_mul positive _)

/-- A slice of the cover, by its position. -/
theorem mem_cover
    {size : Nat}
    (positive : 0 < size)
    {items part : List α} :
    part ∈ cover size items ↔
      ∃ position,
        position * size < items.length ∧
          part = slice size items position := by
  simp only [cover, slices, List.mem_map, List.mem_range,
    lt_quotient_iff positive]
  constructor
  · rintro ⟨position, inside, rfl⟩
    exact ⟨position, inside, rfl⟩
  · rintro ⟨position, inside, rfl⟩
    exact ⟨position, inside, rfl⟩

/-- No slice of the cover is empty. -/
theorem ne_nil_of_mem_cover
    {size : Nat}
    (positive : 0 < size)
    {items part : List α}
    (member : part ∈ cover size items) :
    part ≠ [] := by
  obtain ⟨position, inside, rfl⟩ := (mem_cover positive).mp member
  apply List.ne_nil_of_length_pos
  rw [length_slice]
  omega

/-- Slicing by the quotient gives no more parts than were asked for. -/
theorem length_cover_quotient_le
    {parts : Nat}
    (positive : 0 < parts)
    {items : List α}
    (nonempty : 0 < items.length) :
    (cover (items.length ⌈/⌉ parts) items).length ≤ parts := by
  have sizePositive : 0 < items.length ⌈/⌉ parts :=
    (lt_quotient_iff positive).mpr (by omega)
  rw [cover, length_slices, ceilDiv_le_iff_le_mul sizePositive]
  exact length_le_quotient_mul positive _

/-! ## Parts of nearly one size -/

/-- As many parts as asked for, as far as the items last, of nearly one size. -/
def IsBalanced
    (parts : Nat)
    (items : List α)
    (division : List (List α)) : Prop :=
  division.length = min parts items.length ∧
    ∀ first ∈ division, ∀ second ∈ division,
      first.length ≤ second.length + 1

/-- The least multiple that reaches a number is next to it or is the number. -/
theorem quotient_mul_le_succ_iff
    {parts total : Nat}
    (positive : 0 < parts) :
    (total ⌈/⌉ parts) * parts ≤ total + 1 ↔
      parts ∣ total ∨ parts ∣ total + 1 := by
  have reaches := length_le_quotient_mul positive total
  constructor
  · intro close
    rcases Nat.lt_or_ge total ((total ⌈/⌉ parts) * parts) with above | below
    · have same : (total ⌈/⌉ parts) * parts = total + 1 := by omega
      exact .inr (Dvd.intro_left _ same)
    · have same : (total ⌈/⌉ parts) * parts = total := by omega
      exact .inl (Dvd.intro_left _ same)
  · have least :
        ∀ {factor : Nat},
          total ≤ parts * factor →
          (total ⌈/⌉ parts) * parts ≤ parts * factor := by
      intro factor enough
      rw [Nat.mul_comm]
      exact Nat.mul_le_mul_left _
        ((ceilDiv_le_iff_le_mul positive).mpr enough)
    rintro (⟨factor, same⟩ | ⟨factor, same⟩)
    · have low := least (Nat.le_of_eq same)
      omega
    · have enough : total ≤ parts * factor := by omega
      have low := least enough
      omega

/-- Every part of the cover has the size, or one item less. -/
theorem size_le_succ_of_close
    {size parts : Nat}
    {items part : List α}
    (positive : 0 < size)
    (few : (cover size items).length ≤ parts)
    (close : size * parts ≤ items.length + 1)
    (member : part ∈ cover size items) :
    size ≤ part.length + 1 := by
  obtain ⟨position, inside, rfl⟩ := (mem_cover positive).mp member
  rw [cover, length_slices] at few
  have before : position + 1 ≤ parts :=
    Nat.lt_of_lt_of_le ((lt_quotient_iff positive).mpr inside) few
  have covered : (position + 1) * size ≤ parts * size :=
    Nat.mul_le_mul_right size before
  rw [Nat.succ_mul, Nat.mul_comm parts] at covered
  rw [length_slice]
  omega

/-- No part of the cover is longer than the size. -/
theorem length_le_of_mem_cover
    {size : Nat}
    {items part : List α}
    (positive : 0 < size)
    (member : part ∈ cover size items) :
    part.length ≤ size := by
  obtain ⟨position, -, rfl⟩ := (mem_cover positive).mp member
  rw [length_slice]
  exact Nat.min_le_left _ _

/--
Slicing by the rounded-up quotient gives the parts that were asked for just if
there is an item for each of them at most, or if the next multiple of their
number is the number of items or the one after it.
-/
theorem isBalanced_iff
    {parts : Nat}
    (positive : 0 < parts)
    {items : List α}
    (nonempty : 0 < items.length) :
    IsBalanced parts items (cover (items.length ⌈/⌉ parts) items) ↔
      items.length ≤ parts ∨
        parts ∣ items.length ∨ parts ∣ items.length + 1 := by
  have sizePositive : 0 < items.length ⌈/⌉ parts :=
    (lt_quotient_iff positive).mpr (by omega)
  have few := length_cover_quotient_le positive nonempty
  by_cases enough : items.length ≤ parts
  · have single : items.length ⌈/⌉ parts = 1 := by
      apply Nat.le_antisymm _ sizePositive
      rw [ceilDiv_le_iff_le_mul positive, Nat.mul_one]
      exact enough
    refine iff_of_true ⟨?_, ?_⟩ (.inl enough)
    · rw [single, cover, length_slices, Nat.ceilDiv_eq_add_pred_div,
        Nat.div_one]
      omega
    · intro first firstMember second _
      have short := length_le_of_mem_cover sizePositive firstMember
      omega
  · have more : 1 < items.length ⌈/⌉ parts :=
      (lt_quotient_iff positive).mpr (by omega)
    have small : items.length ⌈/⌉ parts ≤ items.length :=
      (ceilDiv_le_iff_le_mul positive).mpr
        (Nat.le_mul_of_pos_left _ positive)
    rw [or_iff_right enough, ← quotient_mul_le_succ_iff positive]
    generalize items.length ⌈/⌉ parts = size at *
    have split : size * parts = (parts - 1) * size + size := by
      rw [← Nat.succ_mul, Nat.mul_comm]
      congr 1
      omega
    constructor
    · rintro ⟨count, near⟩
      rw [Nat.min_eq_left (Nat.le_of_not_le enough)] at count
      have lastInside : (parts - 1) * size < items.length := by
        rw [cover, length_slices] at count
        exact (lt_quotient_iff sizePositive).mp (by omega)
      have firstFull : slice size items 0 ∈ cover size items :=
        (mem_cover sizePositive).mpr ⟨0, by omega, rfl⟩
      have last : slice size items (parts - 1) ∈ cover size items :=
        (mem_cover sizePositive).mpr ⟨_, lastInside, rfl⟩
      have compared := near _ firstFull _ last
      rw [length_slice, length_slice] at compared
      omega
    · intro close
      refine ⟨?_, ?_⟩
      · have lastInside : (parts - 1) * size < items.length := by omega
        have last := (lt_quotient_iff sizePositive).mpr lastInside
        rw [cover, length_slices] at few ⊢
        omega
      · intro first firstMember second secondMember
        have short := length_le_of_mem_cover sizePositive firstMember
        have long := size_le_succ_of_close sizePositive few close secondMember
        omega

end EqualSlices
