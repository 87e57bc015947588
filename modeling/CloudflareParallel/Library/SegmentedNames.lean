import Mathlib.Data.List.Induction
import Std.Data.String.ToNat

namespace SegmentedNames

/-!
# Names extended by separated segments

A name grows to the right: each extension appends a separator and a segment
without one.  Whatever the first part of the name contains, the segments can be
read back from the right end, so equal names with equally many segments were
extended from equal names.
-/

/-- Append segments to a name, each behind a separator. -/
def extend
    (separator : α)
    (name : List α)
    (segments : List (List α)) : List α :=
  name ++ segments.flatMap fun segment => separator :: segment

/-- Segments that can be read back contain no separator. -/
def Separable
    (separator : α)
    (segments : List (List α)) : Prop :=
  ∀ segment ∈ segments, separator ∉ segment

/-- A name extended by nothing is the name. -/
@[simp] theorem extend_nil
    (separator : α)
    (name : List α) :
    extend separator name [] = name := by
  simp [extend]

/-- The last segment is appended last. -/
theorem extend_concat
    (separator : α)
    (name : List α)
    (segments : List (List α))
    (last : List α) :
    extend separator name (segments ++ [last]) =
      extend separator name segments ++ separator :: last := by
  simp [extend]

/-- The last separator splits a name. -/
theorem eq_and_eq_of_append_eq
    {separator : α}
    {first second firstLast secondLast : List α}
    (firstFree : separator ∉ firstLast)
    (secondFree : separator ∉ secondLast)
    (same :
      first ++ separator :: firstLast = second ++ separator :: secondLast) :
    first = second ∧ firstLast = secondLast := by
  rcases List.append_eq_append_iff.mp same with
    ⟨between, secondShape, tailShape⟩ | ⟨between, firstShape, tailShape⟩
  · cases between with
    | nil =>
        simp only [List.nil_append, List.cons.injEq, true_and] at tailShape
        exact ⟨by simpa using secondShape.symm, tailShape⟩
    | cons head rest =>
        simp only [List.cons_append, List.cons.injEq] at tailShape
        exact (firstFree (by simp [tailShape.2])).elim
  · cases between with
    | nil =>
        simp only [List.nil_append, List.cons.injEq, true_and] at tailShape
        exact ⟨by simpa using firstShape, tailShape.symm⟩
    | cons head rest =>
        simp only [List.cons_append, List.cons.injEq] at tailShape
        exact (secondFree (by simp [tailShape.2])).elim

/-- The first separator splits a text. -/
theorem eq_and_eq_of_free_append_eq
    {separator : α}
    {first second firstRest secondRest : List α}
    (firstFree : separator ∉ first)
    (secondFree : separator ∉ second)
    (same :
      first ++ separator :: firstRest = second ++ separator :: secondRest) :
    first = second ∧ firstRest = secondRest := by
  have reversed := congrArg List.reverse same
  simp only [List.reverse_append, List.reverse_cons, List.append_assoc,
    List.singleton_append] at reversed
  obtain ⟨rests, heads⟩ :=
    eq_and_eq_of_append_eq (List.mem_reverse.not.mpr firstFree)
      (List.mem_reverse.not.mpr secondFree) reversed
  exact ⟨List.reverse_inj.mp heads, List.reverse_inj.mp rests⟩

/-- Equally many segments are read back from the right, one by one. -/
theorem extend_inj
    {separator : α}
    {first second : List α}
    {firstSegments secondSegments : List (List α)}
    (firstSeparable : Separable separator firstSegments)
    (secondSeparable : Separable separator secondSegments)
    (sameLength : firstSegments.length = secondSegments.length)
    (same :
      extend separator first firstSegments =
        extend separator second secondSegments) :
    first = second ∧ firstSegments = secondSegments := by
  induction firstSegments using List.reverseRecOn generalizing
      secondSegments with
  | nil =>
      have noSegments : secondSegments = [] :=
        List.length_eq_zero_iff.mp sameLength.symm
      subst noSegments
      simpa using same
  | append_singleton firstInit firstLast inductionHypothesis =>
      rcases List.eq_nil_or_concat secondSegments with
        rfl | ⟨secondInit, secondLast, rfl⟩
      · simp at sameLength
      · rw [List.concat_eq_append] at secondSeparable sameLength same ⊢
        rw [extend_concat, extend_concat] at same
        obtain ⟨sameInit, sameLast⟩ :=
          eq_and_eq_of_append_eq
            (firstSeparable firstLast (by simp))
            (secondSeparable secondLast (by simp)) same
        obtain ⟨sameName, sameSegments⟩ :=
          inductionHypothesis
            (fun segment member => firstSeparable segment (by simp [member]))
            (fun segment member => secondSeparable segment (by simp [member]))
            (by simpa using sameLength) sameInit
        rw [sameName, sameSegments, sameLast]
        exact ⟨rfl, rfl⟩

/-- The decimal digits of a number, as a segment. -/
def number (n : Nat) : List Char :=
  (toString n).toList

/-- A separator that is no digit is in no number. -/
theorem notMem_number
    {separator : Char}
    (noDigit : separator.isDigit = false)
    (n : Nat) :
    separator ∉ number n := by
  intro member
  have digits : separator ∈ Nat.toDigits 10 n := by
    simpa [number] using member
  have isDigit : separator.isDigit :=
    Nat.isDigit_of_mem_toDigits (by decide) (by decide) digits
  rw [noDigit] at isDigit
  cases isDigit

/-- A number is determined by its segment. -/
theorem number_inj
    {first second : Nat} :
    number first = number second ↔ first = second := by
  rw [number, number, String.toList_inj]
  exact Nat.repr_inj

/-- Equal texts written as extended names have equal parts. -/
theorem parts_eq_of_texts_eq
    {separator : Char}
    {firstText secondText : String}
    {first second : List Char}
    {firstSegments secondSegments : List (List Char)}
    (firstReads : firstText.toList = extend separator first firstSegments)
    (secondReads : secondText.toList = extend separator second secondSegments)
    (firstSeparable : Separable separator firstSegments)
    (secondSeparable : Separable separator secondSegments)
    (sameLength : firstSegments.length = secondSegments.length)
    (same : firstText = secondText) :
    first = second ∧ firstSegments = secondSegments := by
  apply extend_inj firstSeparable secondSeparable sameLength
  rw [← firstReads, ← secondReads, same]

end SegmentedNames
