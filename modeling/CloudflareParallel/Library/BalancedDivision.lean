import Mathlib.Algebra.Order.BigOperators.Group.List
import Mathlib.Algebra.Order.Floor.Div
import Mathlib.Data.Nat.Log

namespace BalancedDivision

/-!
# Dividing a total as evenly as possible

`parts total count` divides `total` over `count` slots: every slot receives
`total / count`, and the first `total % count` slots receive one more.  The
lemmas say what a recursive splitter needs: the slots add up to the total, two
slots differ by at most one, and no slot exceeds the ceiling of the quotient.
-/

/-- One slot of the division. -/
def part
    (total count index : Nat) : Nat :=
  total / count + if index < total % count then 1 else 0

/-- All slots of the division, first to last. -/
def parts
    (total count : Nat) : List Nat :=
  (List.range count).map (part total count)

@[simp] theorem length_parts
    (total count : Nat) :
    (parts total count).length = count := by
  simp [parts]

/-- The first `bound` slots hold the floor each, plus the extras among them. -/
private theorem sum_first_parts
    (total count bound : Nat) :
    ((List.range bound).map (part total count)).sum =
      bound * (total / count) + min (total % count) bound := by
  induction bound with
  | zero =>
      simp
  | succ bound inductionHypothesis =>
      rw [List.range_succ, List.map_append, List.sum_append,
        inductionHypothesis, Nat.succ_mul]
      simp only [List.map_cons, List.map_nil, List.sum_cons,
        List.sum_nil, part]
      split <;> omega

/-- The slots add up to the total. -/
theorem sum_parts
    {total count : Nat}
    (positive : 0 < count) :
    (parts total count).sum = total := by
  have remainderSmall : total % count ≤ count :=
    Nat.le_of_lt (Nat.mod_lt total positive)
  rw [parts, sum_first_parts, Nat.min_eq_left remainderSmall]
  exact Nat.div_add_mod total count

/-- Every slot holds at least the floor of the quotient. -/
theorem floor_le_of_mem_parts
    {total count value : Nat}
    (member : value ∈ parts total count) :
    total / count ≤ value := by
  obtain ⟨index, _, rfl⟩ := List.mem_map.mp member
  exact Nat.le_add_right _ _

/-- Every slot holds at most one more than the floor of the quotient. -/
theorem le_succ_floor_of_mem_parts
    {total count value : Nat}
    (member : value ∈ parts total count) :
    value ≤ total / count + 1 := by
  obtain ⟨index, _, rfl⟩ := List.mem_map.mp member
  unfold part
  split <;> omega

/-- Two slots differ by at most one. -/
theorem le_succ_of_mem_parts
    {total count first second : Nat}
    (firstMember : first ∈ parts total count)
    (secondMember : second ∈ parts total count) :
    first ≤ second + 1 :=
  (le_succ_floor_of_mem_parts firstMember).trans
    (Nat.succ_le_succ (floor_le_of_mem_parts secondMember))

/--
A slot never exceeds a bound that the whole total respects on average: this is
the step that lets a depth-`k` tree of capacity `bound` be filled level by
level.
-/
theorem le_of_mem_parts
    {total count bound value : Nat}
    (capacity : total ≤ bound * count)
    (member : value ∈ parts total count) :
    value ≤ bound := by
  obtain ⟨index, indexMember, rfl⟩ := List.mem_map.mp member
  have indexBound : index < count := List.mem_range.mp indexMember
  have divided := Nat.div_add_mod total count
  unfold part
  split
  next extra =>
    have strict : total / count < bound := by
      by_contra notBelow
      have atLeast : bound * count ≤ count * (total / count) := by
        rw [Nat.mul_comm]
        exact Nat.mul_le_mul_left count (Nat.le_of_not_lt notBelow)
      omega
    omega
  next =>
    exact Nat.div_le_of_le_mul (by rwa [Nat.mul_comm] at capacity)

/-- The used slots are the nonempty ones, in order. -/
def usedParts
    (total count : Nat) : List Nat :=
  (parts total count).filter (0 < ·)

/-- Dropping empty slots leaves the sum unchanged. -/
theorem sum_filter_pos
    (values : List Nat) :
    (values.filter (0 < ·)).sum = values.sum := by
  induction values with
  | nil =>
      rfl
  | cons value rest inductionHypothesis =>
      rw [List.filter_cons]
      split
      next =>
        simp [inductionHypothesis]
      next empty =>
        have valueZero : value = 0 := by
          simpa using empty
        simp [inductionHypothesis, valueZero]

/-- The used slots still add up to the total. -/
theorem sum_usedParts
    {total count : Nat}
    (positive : 0 < count) :
    (usedParts total count).sum = total := by
  rw [usedParts, sum_filter_pos, sum_parts positive]

theorem mem_parts_of_mem_usedParts
    {total count value : Nat}
    (member : value ∈ usedParts total count) :
    value ∈ parts total count :=
  (List.mem_filter.mp member).1

theorem pos_of_mem_usedParts
    {total count value : Nat}
    (member : value ∈ usedParts total count) :
    0 < value := by
  simpa using (List.mem_filter.mp member).2

/-- Something to divide uses some slot. -/
theorem exists_mem_usedParts
    {total count : Nat}
    (countPositive : 0 < count)
    (totalPositive : 0 < total) :
    ∃ value, value ∈ usedParts total count := by
  apply List.exists_mem_of_ne_nil
  intro noSlots
  have slotsSum : (usedParts total count).sum = total :=
    sum_usedParts countPositive
  rw [noSlots, List.sum_nil] at slotsSum
  omega

/-- The first slot holds something, when there is something. -/
theorem first_pos
    {total count : Nat}
    (countPositive : 0 < count)
    (totalPositive : 0 < total) :
    0 < part total count 0 := by
  unfold part
  split
  next =>
    exact Nat.succ_pos _
  next noExtra =>
    have divides : total % count = 0 := by omega
    have atLeast :=
      Nat.le_of_dvd totalPositive (Nat.dvd_of_mod_eq_zero divides)
    exact Nat.div_pos atLeast countPositive

/-- With more to divide than slots, the first slot holds at least two. -/
theorem two_le_first
    {total count : Nat}
    (countPositive : 0 < count)
    (many : count < total) :
    2 ≤ part total count 0 := by
  have notNone := Nat.div_pos (Nat.le_of_lt many) countPositive
  unfold part
  split
  next =>
    omega
  next noExtra =>
    have divides : total % count = 0 := by omega
    have whole := Nat.div_add_mod total count
    by_contra single
    have one : total / count = 1 := by omega
    rw [one, divides] at whole
    omega

/-- The first used slot is the first slot. -/
theorem usedParts_eq_cons
    {total count : Nat}
    (countPositive : 0 < count)
    (totalPositive : 0 < total) :
    ∃ rest, usedParts total count = part total count 0 :: rest := by
  obtain ⟨lower, rfl⟩ : ∃ lower, count = lower + 1 :=
    ⟨count - 1, by omega⟩
  have used := first_pos countPositive totalPositive
  refine
    ⟨(((List.range lower).map Nat.succ).map
      (part total (lower + 1))).filter (0 < ·), ?_⟩
  rw [usedParts, parts, List.range_succ_eq_map, List.map_cons,
    List.filter_cons_of_pos (by simpa using used)]

/-- No more slots are used than there are. -/
theorem length_usedParts_le
    (total count : Nat) :
    (usedParts total count).length ≤ count := by
  refine (List.length_filter_le _ _).trans ?_
  rw [length_parts]

/-- No more slots are used than there are units to divide. -/
theorem length_usedParts_le_total
    {total count : Nat}
    (positive : 0 < count) :
    (usedParts total count).length ≤ total := by
  calc
    (usedParts total count).length =
        (usedParts total count).length • 1 := by
      rw [smul_eq_mul, Nat.mul_one]
    _ ≤ (usedParts total count).sum :=
      List.card_nsmul_le_sum _ _ fun _ member =>
        pos_of_mem_usedParts member
    _ = total := sum_usedParts positive

/-- Bounding every used slot bounds the total by the number of slots. -/
theorem total_le_of_forall_usedParts
    {total count bound : Nat}
    (positive : 0 < count)
    (bounded : ∀ value ∈ usedParts total count, value ≤ bound) :
    total ≤ (usedParts total count).length * bound := by
  calc
    total = (usedParts total count).sum := (sum_usedParts positive).symm
    _ ≤ (usedParts total count).length • bound :=
      List.sum_le_card_nsmul _ _ bounded
    _ = (usedParts total count).length * bound := smul_eq_mul _ _

/-- Fewer used slots than units means that every slot is used. -/
theorem length_usedParts_of_lt
    {total count : Nat}
    (positive : 0 < count)
    (fewer : (usedParts total count).length < total) :
    (usedParts total count).length = count := by
  by_cases enough : count ≤ total
  · have allUsed : usedParts total count = parts total count := by
      refine List.filter_eq_self.mpr ?_
      intro value member
      have floorPositive : 0 < total / count :=
        Nat.div_pos enough positive
      have atLeast := floor_le_of_mem_parts member
      simp only [decide_eq_true_eq]
      omega
    rw [allUsed, length_parts]
  · -- With fewer units than slots every slot holds at most one unit.
    have single : ∀ value ∈ usedParts total count, value ≤ 1 := by
      intro value member
      exact le_of_mem_parts (by omega) (mem_parts_of_mem_usedParts member)
    have bounded := total_le_of_forall_usedParts positive single
    omega

end BalancedDivision
