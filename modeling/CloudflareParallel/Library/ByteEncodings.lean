import Mathlib.Data.Fintype.Basic
import Mathlib.Data.LawfulXor.Basic

namespace ByteEncodings

/-!
# Texts of bytes

A sequence whose items are written as words of one width can be read back.
Base64 writes groups of three bytes, the last one padded; an exclusive or that
is collected over two sequences tells whether they are equal.
-/

/-! ## Words of one width -/

section Words

variable {Item Letter : Type}

/-- Items that are written as words of one width are written differently. -/
theorem flatMap_injective_of_width
    {word : Item → List Letter}
    {valid : Item → Prop}
    {width : Nat}
    (positive : 0 < width)
    (length : ∀ {item}, valid item → (word item).length = width)
    (injective :
      ∀ {first second},
        valid first →
        valid second →
        word first = word second →
        first = second)
    {first second : List Item}
    (validFirst : ∀ item ∈ first, valid item)
    (validSecond : ∀ item ∈ second, valid item)
    (same : first.flatMap word = second.flatMap word) :
    first = second := by
  -- no item is written as the empty word
  have notNil :
      ∀ {item} {rest : List Letter}, valid item → word item ++ rest ≠ [] := by
    intro item rest isValid empty
    have none := (List.append_eq_nil_iff.mp empty).1
    rw [← length isValid, none] at positive
    exact Nat.lt_irrefl 0 positive
  induction first generalizing second with
  | nil =>
      cases second with
      | nil => rfl
      | cons item rest =>
          rw [List.flatMap_nil, List.flatMap_cons] at same
          exact
            absurd same.symm (notNil (validSecond item List.mem_cons_self))
  | cons item rest inductionHypothesis =>
      rw [List.forall_mem_cons] at validFirst
      cases second with
      | nil =>
          rw [List.flatMap_nil, List.flatMap_cons] at same
          exact absurd same (notNil validFirst.1)
      | cons other others =>
          rw [List.forall_mem_cons] at validSecond
          rw [List.flatMap_cons, List.flatMap_cons] at same
          have widths : (word item).length = (word other).length :=
            (length validFirst.1).trans (length validSecond.1).symm
          obtain ⟨sameWord, sameRest⟩ := List.append_inj same widths
          rw [injective validFirst.1 validSecond.1 sameWord,
            inductionHypothesis validFirst.2 validSecond.2 sameRest]

end Words

/-! ## Base64 -/

/-- A digit of base 64. -/
def base64Digit (value : Nat) : Char :=
  if value < 26 then
    Char.ofNat (65 + value)
  else if value < 52 then
    Char.ofNat (71 + value)
  else if value < 62 then
    Char.ofNat (value - 4)
  else if value = 62 then
    '+'
  else
    '/'

/-- The value of a digit of base 64. -/
def base64Value (digit : Char) : Nat :=
  if digit = '+' then
    62
  else if digit = '/' then
    63
  else if digit.toNat < 58 then
    digit.toNat + 4
  else if digit.toNat < 91 then
    digit.toNat - 65
  else
    digit.toNat - 71

/-- Every digit has its value, and none is the padding. -/
theorem base64Value_digit :
    ∀ value : Fin 64,
      base64Value (base64Digit value) = value ∧ base64Digit value ≠ '=' := by
  decide

/-- Different digits have different values. -/
theorem base64Digit_injective
    {first second : Nat}
    (firstSmall : first < 64)
    (secondSmall : second < 64)
    (same : base64Digit first = base64Digit second) :
    first = second := by
  have valueFirst := (base64Value_digit ⟨first, firstSmall⟩).1
  have valueSecond := (base64Value_digit ⟨second, secondSmall⟩).1
  dsimp only at valueFirst valueSecond
  rw [← valueFirst, same, valueSecond]

/-- A digit is not the padding. -/
theorem base64Digit_ne_padding
    {value : Nat}
    (small : value < 64) :
    base64Digit value ≠ '=' :=
  (base64Value_digit ⟨value, small⟩).2

/-- The word of a group of up to three bytes. -/
def base64Word : List UInt8 → List Char
  | [first] =>
      [base64Digit (first.toNat / 4), base64Digit (first.toNat % 4 * 16), '=', '=']
  | [first, second] =>
      [base64Digit (first.toNat / 4),
        base64Digit (first.toNat % 4 * 16 + second.toNat / 16),
        base64Digit (second.toNat % 16 * 4), '=']
  | [first, second, third] =>
      [base64Digit (first.toNat / 4),
        base64Digit (first.toNat % 4 * 16 + second.toNat / 16),
        base64Digit (second.toNat % 16 * 4 + third.toNat / 64),
        base64Digit (third.toNat % 64)]
  | _ => []

/-- Groups of three bytes, and what is left over. -/
def groupsOfThree : List UInt8 → List (List UInt8)
  | [] => []
  | [first] => [[first]]
  | [first, second] => [[first, second]]
  | first :: second :: third :: rest =>
      [first, second, third] :: groupsOfThree rest

/-- The base64 text of a sequence of bytes. -/
def base64 (bytes : List UInt8) : String :=
  String.ofList ((groupsOfThree bytes).flatMap base64Word)

/-- A group has one, two or three bytes. -/
inductive IsGroup : List UInt8 → Prop where
  | one {first : UInt8} : IsGroup [first]
  | two {first second : UInt8} : IsGroup [first, second]
  | three {first second third : UInt8} : IsGroup [first, second, third]

/-- All groups of a sequence are such groups. -/
theorem isGroup_of_mem
    {bytes group : List UInt8}
    (member : group ∈ groupsOfThree bytes) :
    IsGroup group := by
  fun_induction groupsOfThree bytes with
  | case1 => cases member
  | case2 =>
      cases List.mem_singleton.mp member
      exact .one
  | case3 =>
      cases List.mem_singleton.mp member
      exact .two
  | case4 first second third rest inductionHypothesis =>
      rcases List.mem_cons.mp member with rfl | later
      · exact .three
      · exact inductionHypothesis later

/-- The groups are all the bytes. -/
theorem flatten_groupsOfThree (bytes : List UInt8) :
    (groupsOfThree bytes).flatten = bytes := by
  fun_induction groupsOfThree bytes with
  | case1 | case2 | case3 => rfl
  | case4 first second third rest inductionHypothesis =>
      rw [List.flatten_cons, inductionHypothesis]
      rfl

/-- The words of all groups have the same width. -/
theorem length_base64Word
    {group : List UInt8}
    (isGroup : IsGroup group) :
    (base64Word group).length = 4 := by
  cases isGroup <;> rfl

/-- The digits of a group's word are digits of base 64. -/
theorem digits_small
    (first second third : UInt8) :
    first.toNat / 4 < 64 ∧
      first.toNat % 4 * 16 < 64 ∧
        first.toNat % 4 * 16 + second.toNat / 16 < 64 ∧
          second.toNat % 16 * 4 < 64 ∧
            second.toNat % 16 * 4 + third.toNat / 64 < 64 ∧
              third.toNat % 64 < 64 := by
  have firstSmall := first.toNat_lt
  have secondSmall := second.toNat_lt
  have thirdSmall := third.toNat_lt
  omega

/-- Different groups have different words. -/
theorem base64Word_injective
    {first second : List UInt8}
    (firstGroup : IsGroup first)
    (secondGroup : IsGroup second)
    (same : base64Word first = base64Word second) :
    first = second := by
  -- the padding tells how many bytes there are
  cases firstGroup with
  | @one a =>
      obtain ⟨aHigh, aLow, -⟩ := digits_small a 0 0
      cases secondGroup with
      | @one x =>
          obtain ⟨xHigh, xLow, -⟩ := digits_small x 0 0
          simp only [base64Word, List.cons.injEq, and_true] at same
          have high := base64Digit_injective aHigh xHigh same.1
          have low := base64Digit_injective aLow xLow same.2
          have isA : a = x := UInt8.toNat_inj.mp (by omega)
          rw [isA]
      | @two x y =>
          obtain ⟨-, -, -, yLow, -⟩ := digits_small x y 0
          simp only [base64Word, List.cons.injEq, and_true] at same
          exact absurd same.2.2.symm (base64Digit_ne_padding yLow)
      | @three x y z =>
          obtain ⟨-, -, -, -, -, zLow⟩ := digits_small x y z
          simp only [base64Word, List.cons.injEq, and_true] at same
          exact absurd same.2.2.2.symm (base64Digit_ne_padding zLow)
  | @two a b =>
      obtain ⟨aHigh, -, aLow, bLow, -⟩ := digits_small a b 0
      cases secondGroup with
      | @one x =>
          simp only [base64Word, List.cons.injEq, and_true] at same
          exact absurd same.2.2 (base64Digit_ne_padding bLow)
      | @two x y =>
          obtain ⟨xHigh, -, xLow, yLow, -⟩ := digits_small x y 0
          simp only [base64Word, List.cons.injEq, and_true] at same
          have high := base64Digit_injective aHigh xHigh same.1
          have middle := base64Digit_injective aLow xLow same.2.1
          have low := base64Digit_injective bLow yLow same.2.2
          have bSmall := b.toNat_lt
          have ySmall := y.toNat_lt
          have isA : a = x := UInt8.toNat_inj.mp (by omega)
          have isB : b = y := UInt8.toNat_inj.mp (by omega)
          rw [isA, isB]
      | @three x y z =>
          obtain ⟨-, -, -, -, -, zLow⟩ := digits_small x y z
          simp only [base64Word, List.cons.injEq, and_true] at same
          exact absurd same.2.2.2.symm (base64Digit_ne_padding zLow)
  | @three a b c =>
      obtain ⟨aHigh, -, aLow, -, bLow, cLow⟩ := digits_small a b c
      cases secondGroup with
      | @one x | @two x y =>
          simp only [base64Word, List.cons.injEq, and_true] at same
          exact absurd same.2.2.2 (base64Digit_ne_padding cLow)
      | @three x y z =>
          obtain ⟨xHigh, -, xLow, -, yLow, zLow⟩ := digits_small x y z
          simp only [base64Word, List.cons.injEq, and_true] at same
          have high := base64Digit_injective aHigh xHigh same.1
          have middle := base64Digit_injective aLow xLow same.2.1
          have lower := base64Digit_injective bLow yLow same.2.2.1
          have low := base64Digit_injective cLow zLow same.2.2.2
          have bSmall := b.toNat_lt
          have ySmall := y.toNat_lt
          have cSmall := c.toNat_lt
          have zSmall := z.toNat_lt
          have isA : a = x := UInt8.toNat_inj.mp (by omega)
          have isB : b = y := UInt8.toNat_inj.mp (by omega)
          have isC : c = z := UInt8.toNat_inj.mp (by omega)
          rw [isA, isB, isC]

/-- Different bytes have different base64 texts. -/
theorem base64_injective
    {first second : List UInt8}
    (same : base64 first = base64 second) :
    first = second := by
  have words := String.ofList_injective same
  have groups :=
    flatMap_injective_of_width (by decide) length_base64Word
      base64Word_injective (fun _ => isGroup_of_mem) (fun _ => isGroup_of_mem)
      words
  rw [← flatten_groupsOfThree first, groups, flatten_groupsOfThree]

/-! ## Comparison without an early exit -/

/-- What is collected of two sequences of one length is zero if they agree. -/
theorem foldl_or_xor_eq_zero_iff
    (pairs : List (Nat × Nat))
    (mismatch : Nat) :
    pairs.foldl (fun mismatch pair => mismatch ||| (pair.1 ^^^ pair.2)) mismatch =
        0 ↔
      mismatch = 0 ∧ ∀ pair ∈ pairs, pair.1 = pair.2 := by
  induction pairs generalizing mismatch with
  | nil => simp
  | cons pair rest inductionHypothesis =>
      rw [List.foldl_cons, inductionHypothesis, Nat.or_eq_zero_iff,
        xor_eq_zero_iff, List.forall_mem_cons, and_assoc]

end ByteEncodings
