import Mathlib.Algebra.GroupWithZero.Nat
import Mathlib.Data.Nat.Log

namespace DoubleIntegers

/-!
# Whole numbers in double precision

Up to `2 ^ 53` every whole number is a double.  Above it a sum is rounded to
the nearest one, a tie to the even one, and a counter that goes up by one stops
there.
-/

/-- The largest number that a counter reaches. -/
def limit : Nat := 2 ^ 53

/-- The double nearest to a whole number. -/
def round (n : Nat) : Nat :=
  let unit := 2 ^ (n.log2 - 52)
  let floor := n / unit
  let rest := n % unit
  if 2 * rest < unit ∨ 2 * rest = unit ∧ floor % 2 = 0 then
    floor * unit
  else
    (floor + 1) * unit

/-- The double nearest to an integer. -/
def roundInt : Int → Int
  | .ofNat n => round n
  | .negSucc n => -(round (n + 1) : Int)

/-- `n++`. -/
def next (n : Nat) : Nat :=
  round (n + 1)

/-- What is left off is never more than the unit. -/
theorem floor_le_round (n : Nat) :
    n / 2 ^ (n.log2 - 52) * 2 ^ (n.log2 - 52) ≤ round n := by
  unfold round
  dsimp only
  split
  · exact Nat.le_refl _
  · exact Nat.mul_le_mul_right _ (Nat.le_succ _)

/-- A whole number up to the limit is a double. -/
theorem round_of_le
    {n : Nat}
    (inside : n ≤ limit) :
    round n = n := by
  rcases Nat.lt_or_eq_of_le inside with below | rfl
  · have unit : n.log2 - 52 = 0 := by
      by_cases zero : n = 0
      · rw [zero]
        rfl
      · have log := (Nat.log2_lt zero).mpr below
        omega
    unfold round
    simp [unit, Nat.mod_one]
  · decide

theorem next_of_lt
    {n : Nat}
    (inside : n < limit) :
    next n = n + 1 :=
  round_of_le inside

/-- At the limit the counter stops. -/
theorem next_limit : next limit = limit := by
  decide

/-- Above the limit, a number and the limit are two doubles. -/
theorem limit_lt_round
    {n : Nat}
    (above : limit + 2 ≤ n) :
    limit < round n := by
  have nonzero : n ≠ 0 := by omega
  have logAbove : 53 ≤ n.log2 := by
    refine (Nat.le_log2 nonzero).mpr ?_
    unfold limit at above
    omega
  refine Nat.lt_of_lt_of_le ?_ (floor_le_round n)
  rcases Nat.lt_or_eq_of_le logAbove with far | near
  · -- the leading digit alone is above the limit
    have leading : 2 ^ 52 * 2 ^ (n.log2 - 52) = 2 ^ n.log2 := by
      rw [← Nat.pow_add]
      congr 1
      omega
    have floor : 2 ^ 52 ≤ n / 2 ^ (n.log2 - 52) := by
      rw [Nat.le_div_iff_mul_le (Nat.two_pow_pos _), leading]
      exact Nat.log2_self_le nonzero
    calc limit < 2 ^ 54 := by decide
      _ ≤ 2 ^ n.log2 := Nat.pow_le_pow_right (by decide) far
      _ = 2 ^ 52 * 2 ^ (n.log2 - 52) := leading.symm
      _ ≤ _ := Nat.mul_le_mul_right _ floor
  · rw [← near]
    omega

theorem roundInt_of_neg
    {n : Int}
    (negative : n ≤ 0) :
    roundInt n ≤ 0 := by
  cases n with
  | ofNat n =>
      have zero : n = 0 := by
        have bound : (n : Int) ≤ 0 := negative
        omega
      rw [zero]
      decide
  | negSucc n =>
      exact Int.neg_nonpos_of_nonneg (Int.natCast_nonneg (round (n + 1)))

theorem roundInt_of_le
    {n : Nat}
    (inside : n ≤ limit) :
    roundInt n = n :=
  congrArg Int.ofNat (round_of_le inside)

end DoubleIntegers
