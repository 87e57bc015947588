import CloudflareParallel.LoaderSerialize
import CloudflareParallel.RunnerInput

namespace CloudflareParallel

/-!
# Loader cache keys

`buildCacheKey` writes the loader id of a submission.  `CacheKeyShape` is what
the id says, and the id determines its shape: its parts are separated by colons
and no part contains one.
-/

/-- The window of the opt-in `'auto'` strategy. -/
def AUTO_WINDOW_MS : Nat := 60000

def PREFIX : String := "cfp"

structure CacheKeyInput where
  fnSource : String
  contextHash : String
  strategy : CacheKeyStrategy
  forceFresh : Option Bool := none
  taskSlot : Option TaskSlot := none

/-- The combined hash of a submission. -/
def CacheKeyInput.combined (input : CacheKeyInput) : BitVec 32 :=
  djb2 (input.fnSource ++ ":" ++ input.contextHash)

/-- Whether the submission asks for an isolate of its own. -/
def CacheKeyInput.isFresh (input : CacheKeyInput) : Bool :=
  input.forceFresh.getD false || input.strategy == .fresh

/-- The slot that enters the key. -/
def CacheKeyInput.slot (input : CacheKeyInput) : Option Nat :=
  match input.taskSlot with
  | some (.index slot) => some slot
  | _ => none

/-- The window that enters the key. -/
def CacheKeyInput.window (input : CacheKeyInput) (now : Nat) : Option Nat :=
  if input.strategy = .auto then
    some (now / AUTO_WINDOW_MS)
  else
    none

/-- `:slot-<i>`, when there is a slot. -/
def slotSuffix : Option Nat → String
  | some slot => ":slot-" ++ toStringRadix 10 slot
  | none => ""

/-- Compute the loader id; the counter moves on with every fresh one. -/
def buildCacheKey
    (counter now : Nat)
    (input : CacheKeyInput) : String × Nat :=
  let combined := hashSource (input.fnSource ++ ":" ++ input.contextHash)
  if input.isFresh then
    (PREFIX ++ ":" ++ combined ++ ":" ++ toStringRadix 10 counter, counter + 1)
  else if input.strategy = .auto then
    let window := now / AUTO_WINDOW_MS
    (PREFIX ++ ":" ++ combined ++ ":w" ++ toStringRadix 10 window ++
        slotSuffix input.slot, counter)
  else
    (PREFIX ++ ":" ++ combined ++ slotSuffix input.slot, counter)

/-- What a loader id says after its hash. -/
inductive CacheKeyKind where
  | fresh (counter : Nat)
  | shared (window slot : Option Nat)
  deriving Repr, DecidableEq

/-- What a loader id says. -/
structure CacheKeyShape where
  hash : BitVec 32
  kind : CacheKeyKind
  deriving DecidableEq

/-- The shape of the key of a submission. -/
def CacheKeyInput.shape
    (input : CacheKeyInput)
    (counter now : Nat) : CacheKeyShape where
  hash := input.combined
  kind :=
    if input.isFresh then
      .fresh counter
    else
      .shared (input.window now) input.slot

/-- The parts of a loader id after its hash, without the colons. -/
def CacheKeyKind.parts : CacheKeyKind → List (List Char)
  | .fresh counter => [radixDigits 10 counter]
  | .shared window slot =>
      (window.toList.map fun w => 'w' :: radixDigits 10 w) ++
        (slot.toList.map fun s =>
          ['s', 'l', 'o', 't', '-'] ++ radixDigits 10 s)

/-- All parts of a loader id. -/
def CacheKeyShape.parts (shape : CacheKeyShape) : List (List Char) :=
  ['c', 'f', 'p'] :: radixDigits 36 shape.hash.toNat :: shape.kind.parts

/-- The loader id is the parts of its shape, joined by colons. -/
theorem toList_buildCacheKey
    (counter now : Nat)
    (input : CacheKeyInput) :
    (buildCacheKey counter now input).1.toList =
      [':'].intercalate (input.shape counter now).parts := by
  unfold buildCacheKey CacheKeyInput.shape CacheKeyShape.parts
    CacheKeyInput.window
  by_cases fresh : input.isFresh
  · simp [fresh, PREFIX, hashSource, toStringRadix, CacheKeyKind.parts,
      CacheKeyInput.combined]
  · by_cases auto : input.strategy = .auto
    · cases slot : input.slot <;>
        simp [fresh, auto, PREFIX, slotSuffix, hashSource, toStringRadix,
          CacheKeyKind.parts, CacheKeyInput.combined]
    · cases slot : input.slot <;>
        simp [fresh, auto, PREFIX, slotSuffix, hashSource, toStringRadix,
          CacheKeyKind.parts, CacheKeyInput.combined]

/-- The value of a digit character. -/
private def valueOfDigit (c : Char) : Nat :=
  if c.toNat < 58 then c.toNat - 48 else c.toNat - 87

/-- A digit character of a base up to 36 gives back its value. -/
private theorem valueOfDigit_digitOfValue :
    ∀ value < 36, valueOfDigit (digitOfValue value) = value := by
  decide

/-- No digit character is a colon. -/
private theorem digitOfValue_ne_colon :
    ∀ value < 36, digitOfValue value ≠ ':' := by
  decide

/-- A decimal digit character is no lower-case letter. -/
private theorem digitOfValue_not_letter :
    ∀ value < 10, ¬ 'a' ≤ digitOfValue value := by
  decide

/-- Every character of a rendered number is a digit of its base. -/
theorem exists_digit_of_mem_radixDigits
    {radix value : Nat}
    (radixLarge : 1 < radix)
    {c : Char}
    (member : c ∈ radixDigits radix value) :
    ∃ digit < radix, c = digitOfValue digit := by
  unfold radixDigits at member
  split at member
  · exact ⟨0, by omega, List.mem_singleton.mp member⟩
  · rw [List.mem_reverse] at member
    obtain ⟨digit, digitMember, rfl⟩ := List.mem_map.mp member
    exact ⟨digit, Nat.digits_lt_base radixLarge digitMember, rfl⟩

/-- A number is determined by its digits in a base up to 36. -/
theorem radixDigits_inj
    {radix first second : Nat}
    (radixLarge : 1 < radix)
    (radixSmall : radix ≤ 36)
    (same : radixDigits radix first = radixDigits radix second) :
    first = second := by
  -- Evaluating the digit characters reads a rendering back.
  have readBack :
      ∀ value,
        Nat.ofDigits radix
            ((radixDigits radix value).reverse.map valueOfDigit) =
          value := by
    intro value
    unfold radixDigits
    split
    next valueZero =>
      simp [valueZero, valueOfDigit]
    next =>
      have digitsBack :
          ((Nat.digits radix value).map digitOfValue).map valueOfDigit =
            Nat.digits radix value := by
        rw [List.map_map]
        conv_rhs => rw [← List.map_id (Nat.digits radix value)]
        apply List.map_congr_left
        intro digit member
        exact valueOfDigit_digitOfValue digit
          ((Nat.digits_lt_base radixLarge member).trans_le radixSmall)
      rw [List.reverse_reverse, digitsBack, Nat.ofDigits_digits]
  rw [← readBack first, same, readBack second]

/-- No part of a loader id contains a colon. -/
theorem colon_notMem_parts
    {shape : CacheKeyShape}
    {part : List Char}
    (member : part ∈ shape.parts) :
    ':' ∉ part := by
  have noColon :
      ∀ {radix value}, 1 < radix → radix ≤ 36 →
        ':' ∉ radixDigits radix value := by
    intro radix value radixLarge radixSmall colonMember
    obtain ⟨digit, digitSmall, isDigit⟩ :=
      exists_digit_of_mem_radixDigits radixLarge colonMember
    exact digitOfValue_ne_colon digit (digitSmall.trans_le radixSmall)
      isDigit.symm
  have noColonDecimal := fun value =>
    @noColon 10 value (by omega) (by omega)
  rcases shape with ⟨hash, kind⟩
  simp only [CacheKeyShape.parts, List.mem_cons] at member
  rcases member with rfl | rfl | member
  · decide
  · exact noColon (by omega) (by omega)
  · cases kind with
    | fresh counter =>
        rw [List.mem_singleton.mp member]
        exact noColonDecimal counter
    | shared window slot =>
        cases window <;> cases slot <;>
          simp [CacheKeyKind.parts] at member
        · rw [member]
          simp [noColonDecimal]
        · rw [member]
          simp [noColonDecimal]
        · rcases member with rfl | rfl <;> simp [noColonDecimal]

/-- A decimal rendering never starts with a lower-case letter. -/
theorem radixDigits_ne_letter_cons
    {value : Nat}
    {letter : Char}
    (isLetter : 'a' ≤ letter)
    {rest : List Char} :
    radixDigits 10 value ≠ letter :: rest := by
  intro same
  have member : letter ∈ radixDigits 10 value := by
    rw [same]
    exact List.mem_cons_self
  obtain ⟨digit, digitSmall, rfl⟩ :=
    exists_digit_of_mem_radixDigits (by omega) member
  exact digitOfValue_not_letter digit digitSmall isLetter

/-- The parts after the hash determine the kind. -/
theorem CacheKeyKind.parts_inj
    {first second : CacheKeyKind}
    (same : first.parts = second.parts) :
    first = second := by
  have decimalInj :
      ∀ {a b}, radixDigits 10 a = radixDigits 10 b → a = b :=
    radixDigits_inj (by omega) (by omega)
  cases first with
  | fresh firstCounter =>
      cases second with
      | fresh secondCounter =>
          simp only [CacheKeyKind.parts, List.cons.injEq, and_true] at same
          rw [decimalInj same]
      | shared window slot =>
          cases window <;> cases slot <;>
            simp [CacheKeyKind.parts] at same
          · exact (radixDigits_ne_letter_cons (by decide) same).elim
          · exact (radixDigits_ne_letter_cons (by decide) same).elim
  | shared window slot =>
      cases second with
      | fresh counter =>
          cases window <;> cases slot <;>
            simp [CacheKeyKind.parts] at same
          · exact (radixDigits_ne_letter_cons (by decide) same.symm).elim
          · exact (radixDigits_ne_letter_cons (by decide) same.symm).elim
      | shared secondWindow secondSlot =>
          cases window <;> cases slot <;> cases secondWindow <;>
            cases secondSlot <;>
              simp [CacheKeyKind.parts] at same ⊢
          all_goals grind

/-- A loader id determines its shape. -/
theorem CacheKeyShape.parts_inj
    {first second : CacheKeyShape}
    (same : first.parts = second.parts) :
    first = second := by
  rcases first with ⟨firstHash, firstKind⟩
  rcases second with ⟨secondHash, secondKind⟩
  simp only [CacheKeyShape.parts, List.cons.injEq, true_and] at same
  have sameHash : firstHash = secondHash :=
    BitVec.eq_of_toNat_eq (radixDigits_inj (by omega) (by omega) same.1)
  rw [sameHash, CacheKeyKind.parts_inj same.2]

/-- The loader id of a shape. -/
def CacheKeyShape.key (shape : CacheKeyShape) : String :=
  String.ofList ([':'].intercalate shape.parts)

/-- `buildCacheKey` writes the id of the submission's shape. -/
theorem buildCacheKey_eq_key
    (counter now : Nat)
    (input : CacheKeyInput) :
    (buildCacheKey counter now input).1 = (input.shape counter now).key := by
  rw [← String.toList_inj, toList_buildCacheKey, CacheKeyShape.key,
    String.toList_ofList]

/-- Different shapes have different ids. -/
theorem CacheKeyShape.key_inj
    {first second : CacheKeyShape} :
    first.key = second.key ↔ first = second := by
  constructor
  · intro same
    have splitBack :
        ∀ shape : CacheKeyShape,
          ([':'].intercalate shape.parts).splitOn ':' = shape.parts := by
      intro shape
      apply List.splitOn_intercalate
      · intro part member
        exact colon_notMem_parts member
      · simp [CacheKeyShape.parts]
    apply CacheKeyShape.parts_inj
    rw [← splitBack first, String.ofList_inj.mp same, splitBack]
  · intro same
    rw [same]

/-- Only a fresh submission moves the counter on. -/
theorem buildCacheKey_counter
    (counter now : Nat)
    (input : CacheKeyInput) :
    (buildCacheKey counter now input).2 =
      if input.isFresh then counter + 1 else counter := by
  unfold buildCacheKey
  split
  · rfl
  · split <;> rfl

end CloudflareParallel
