import CloudflareParallel.LoaderSerialize
import Mathlib.Data.List.Sort
import Mathlib.Data.List.Nodup
import Mathlib.Order.Defs.LinearOrder

namespace CloudflareParallel

/-!
# The order of keys

Two strings have the same code units only when they are equal, so that sorting
by code units puts the members of an object in one order, whatever order they
were given in.
-/

/-- A surrogate is no character. -/
theorem toNat_not_surrogate (c : Char) :
    c.toNat < 0xD800 ∨ 0xDFFF < c.toNat ∧ c.toNat < 0x110000 := by
  have valid := c.valid
  simpa [UInt32.isValidChar, Nat.isValidChar] using valid

/-- The code units of a text give back its first character and the rest. -/
theorem charCodeUnits_append_inj
    {first second : Char}
    {firstRest secondRest : List Nat}
    (same :
      charCodeUnits first ++ firstRest = charCodeUnits second ++ secondRest) :
    first = second ∧ firstRest = secondRest := by
  have firstRange := toNat_not_surrogate first
  have secondRange := toNat_not_surrogate second
  unfold charCodeUnits at same
  split at same <;> split at same <;>
    simp only [List.cons_append, List.nil_append, List.cons.injEq] at same
  · exact ⟨Char.toNat_inj.1 same.1, same.2⟩
  · omega
  · omega
  · refine ⟨Char.toNat_inj.1 ?_, same.2.2⟩
    omega

/-- A character has at least one code unit. -/
theorem charCodeUnits_ne_nil (c : Char) : charCodeUnits c ≠ [] := by
  unfold charCodeUnits
  split <;> simp

/-- Strings of the same code units are equal. -/
theorem codeUnits_injective
    {first second : String}
    (same : codeUnits first = codeUnits second) :
    first = second := by
  have characters :
      ∀ firstChars secondChars : List Char,
        firstChars.flatMap charCodeUnits = secondChars.flatMap charCodeUnits →
        firstChars = secondChars := by
    intro firstChars
    induction firstChars with
    | nil =>
        intro secondChars sameUnits
        cases secondChars with
        | nil =>
            rfl
        | cons c rest =>
            rw [List.flatMap_nil, List.flatMap_cons] at sameUnits
            exact absurd (List.append_eq_nil_iff.1 sameUnits.symm).1
              (charCodeUnits_ne_nil c)
    | cons c rest inductionHypothesis =>
        intro secondChars sameUnits
        cases secondChars with
        | nil =>
            rw [List.flatMap_nil, List.flatMap_cons] at sameUnits
            exact absurd (List.append_eq_nil_iff.1 sameUnits).1
              (charCodeUnits_ne_nil c)
        | cons d others =>
            rw [List.flatMap_cons, List.flatMap_cons] at sameUnits
            obtain ⟨rfl, sameRest⟩ := charCodeUnits_append_inj sameUnits
            rw [inductionHypothesis others sameRest]
  exact String.toList_inj.1 (characters _ _ same)

/-- Sorting by key only reorders. -/
theorem sortByKey_perm (members : List (String × α)) :
    (sortByKey members).Perm members :=
  List.perm_insertionSort _ members

/-- Sorting by key does not look at the values. -/
theorem sortByKey_map
    (entries : List (String × α))
    (convert : α → β) :
    sortByKey (entries.map fun entry => (entry.1, convert entry.2)) =
      (sortByKey entries).map fun entry => (entry.1, convert entry.2) := by
  unfold sortByKey
  symm
  apply List.map_insertionSort
  intro _ _ _ _
  exact Iff.rfl

/-- Sorted members are in the order of their keys. -/
theorem sortByKey_pairwise (members : List (String × α)) :
    (sortByKey members).Pairwise
      fun first second => codeUnits first.1 ≤ codeUnits second.1 := by
  have : Std.Total fun first second : String × α =>
      codeUnits first.1 ≤ codeUnits second.1 :=
    ⟨fun first second => le_total (codeUnits first.1) (codeUnits second.1)⟩
  have : IsTrans (String × α) fun first second =>
      codeUnits first.1 ≤ codeUnits second.1 :=
    ⟨fun _ _ _ below above => le_trans below above⟩
  exact List.pairwise_insertionSort _ members

/-- Members under distinct keys are sorted alike exactly when they are the same. -/
theorem sortByKey_eq_iff
    {first second : List (String × α)}
    (firstOnce : (first.map Prod.fst).Nodup)
    (secondOnce : (second.map Prod.fst).Nodup) :
    sortByKey first = sortByKey second ↔
      ∀ member, member ∈ first ↔ member ∈ second := by
  constructor
  · intro same member
    rw [← (sortByKey_perm first).mem_iff, same, (sortByKey_perm second).mem_iff]
  · intro sameMembers
    have perm : first.Perm second :=
      (List.perm_ext_iff_of_nodup firstOnce.of_map secondOnce.of_map).2
        sameMembers
    refine List.Perm.eq_of_pairwise ?_ (sortByKey_pairwise first)
      (sortByKey_pairwise second)
      ((sortByKey_perm first).trans (perm.trans (sortByKey_perm second).symm))
    intro member other isMember isOther below above
    have sameKey : member.1 = other.1 :=
      codeUnits_injective (le_antisymm below above)
    have inFirst := (sortByKey_perm first).mem_iff.1 isMember
    have otherInFirst :=
      (sameMembers other).2 ((sortByKey_perm second).mem_iff.1 isOther)
    exact List.inj_on_of_nodup_map firstOnce inFirst otherInFirst sameKey

end CloudflareParallel
