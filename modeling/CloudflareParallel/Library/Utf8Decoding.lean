import Mathlib.Data.List.Basic

namespace Utf8Decoding

/-!
# Decoding UTF-8

The decoder reads one byte at a time and keeps what it knows of the character
under way.  A byte that cannot continue the character ends it with a
replacement character, and is read once more as a first byte.
-/

/-- A character under way, and the bounds of its next byte. -/
structure Pending where
  codePoint : Nat
  needed : Nat
  lower : Nat
  upper : Nat

/-- What stands for bytes that encode nothing. -/
def replacement : Char := Char.ofNat 0xFFFD

/-- The byte order mark. -/
def byteOrderMark : Char := Char.ofNat 0xFEFF

/-- The first byte of a character. -/
def lead (byte : Nat) : List Char × Option Pending :=
  if byte ≤ 0x7F then
    ([Char.ofNat byte], none)
  else if 0xC2 ≤ byte ∧ byte ≤ 0xDF then
    ([], some ⟨byte - 0xC0, 1, 0x80, 0xBF⟩)
  else if 0xE0 ≤ byte ∧ byte ≤ 0xEF then
    -- Neither overlong sequences nor surrogates.
    ([], some ⟨byte - 0xE0, 2, if byte = 0xE0 then 0xA0 else 0x80,
      if byte = 0xED then 0x9F else 0xBF⟩)
  else if 0xF0 ≤ byte ∧ byte ≤ 0xF4 then
    ([], some ⟨byte - 0xF0, 3, if byte = 0xF0 then 0x90 else 0x80,
      if byte = 0xF4 then 0x8F else 0xBF⟩)
  else
    ([replacement], none)

/-- One byte: the characters that it completes, and the one under way. -/
def step : Option Pending → Nat → List Char × Option Pending
  | none, byte => lead byte
  | some pending, byte =>
      if pending.lower ≤ byte ∧ byte ≤ pending.upper then
        let codePoint := pending.codePoint * 64 + (byte - 0x80)
        if pending.needed ≤ 1 then
          ([Char.ofNat codePoint], none)
        else
          ([], some ⟨codePoint, pending.needed - 1, 0x80, 0xBF⟩)
      else
        (replacement :: (lead byte).1, (lead byte).2)

/-- The characters of a sequence of bytes. -/
def letters : Option Pending → List UInt8 → List Char
  | none, [] => []
  | some _, [] => [replacement]
  | pending, byte :: rest =>
      (step pending byte.toNat).1 ++
        letters (step pending byte.toNat).2 rest

/-- The text without a byte order mark. -/
def withoutMark : List Char → List Char
  | [] => []
  | letter :: rest =>
      if letter = byteOrderMark then
        rest
      else
        letter :: rest

/-- The text of a sequence of bytes. -/
def decode (bytes : List UInt8) : String :=
  String.ofList (withoutMark (letters none bytes))

/-- The bytes of a text. -/
def encode (text : String) : List UInt8 :=
  text.toList.flatMap String.utf8EncodeChar

/-- A byte that begins a character. -/
theorem letters_none_cons
    (byte : UInt8)
    (rest : List UInt8) :
    letters none (byte :: rest) =
      (lead byte.toNat).1 ++ letters (lead byte.toNat).2 rest :=
  rfl

/-- A byte that continues a character and does not complete it. -/
theorem letters_continues
    {pending : Pending}
    {byte : UInt8}
    (rest : List UInt8)
    (inBounds : pending.lower ≤ byte.toNat ∧ byte.toNat ≤ pending.upper)
    (needed : 1 < pending.needed) :
    letters (some pending) (byte :: rest) =
      letters
        (some ⟨pending.codePoint * 64 + (byte.toNat - 0x80),
          pending.needed - 1, 0x80, 0xBF⟩) rest := by
  simp only [letters, step, if_pos inBounds, if_neg (Nat.not_le.mpr needed),
    List.nil_append]

/-- A byte that completes a character. -/
theorem letters_completes
    {pending : Pending}
    {byte : UInt8}
    (rest : List UInt8)
    (inBounds : pending.lower ≤ byte.toNat ∧ byte.toNat ≤ pending.upper)
    (needed : pending.needed = 1) :
    letters (some pending) (byte :: rest) =
      Char.ofNat (pending.codePoint * 64 + (byte.toNat - 0x80)) ::
        letters none rest := by
  simp only [letters, step, if_pos inBounds, needed, Nat.le_refl, if_true,
    List.cons_append, List.nil_append]

/-- The code points of characters. -/
theorem codePoint_valid (letter : Char) :
    letter.toNat < 0xD800 ∨
      0xDFFF < letter.toNat ∧ letter.toNat < 0x110000 :=
  letter.valid

/-- The number of a byte. -/
theorem toNat_byte
    {number : Nat}
    (small : number < 256) :
    (UInt8.ofNat number).toNat = number := by
  rw [UInt8.toNat_ofNat', Nat.mod_eq_of_lt small]

/-- The first byte of a character of two bytes. -/
theorem lead_two
    {byte : Nat}
    (inBounds : 0xC2 ≤ byte ∧ byte ≤ 0xDF) :
    lead byte = ([], some ⟨byte - 0xC0, 1, 0x80, 0xBF⟩) := by
  unfold lead
  rw [if_neg (by omega), if_pos inBounds]

/-- The first byte of a character of three bytes. -/
theorem lead_three
    {byte : Nat}
    (inBounds : 0xE0 ≤ byte ∧ byte ≤ 0xEF) :
    lead byte =
      ([], some ⟨byte - 0xE0, 2, if byte = 0xE0 then 0xA0 else 0x80,
        if byte = 0xED then 0x9F else 0xBF⟩) := by
  unfold lead
  rw [if_neg (by omega), if_neg (by omega), if_pos inBounds]

/-- The first byte of a character of four bytes. -/
theorem lead_four
    {byte : Nat}
    (inBounds : 0xF0 ≤ byte ∧ byte ≤ 0xF4) :
    lead byte =
      ([], some ⟨byte - 0xF0, 3, if byte = 0xF0 then 0x90 else 0x80,
        if byte = 0xF4 then 0x8F else 0xBF⟩) := by
  unfold lead
  rw [if_neg (by omega), if_neg (by omega), if_neg (by omega),
    if_pos inBounds]

/-- The bytes of one character are read as it. -/
theorem letters_encoded
    (letter : Char)
    (rest : List UInt8) :
    letters none (String.utf8EncodeChar letter ++ rest) =
      letter :: letters none rest := by
  have valid := codePoint_valid letter
  have made (codePoint : Nat) (same : codePoint = letter.toNat) :
      Char.ofNat codePoint = letter := by
    rw [same, Char.ofNat_toNat]
  have sameVal : letter.val.toNat = letter.toNat := rfl
  unfold String.utf8EncodeChar
  simp only [sameVal]
  generalize letter.toNat = codePoint at valid made
  by_cases one : codePoint ≤ 0x7F
  · rw [if_pos one, List.cons_append, letters_none_cons,
      toNat_byte (by omega), lead, if_pos one, made _ rfl]
    rfl
  rw [if_neg one]
  by_cases two : codePoint ≤ 0x7FF
  · have first := @lead_two (codePoint / 64 % 0x20 + 0xC0) (by omega)
    rw [if_pos two, List.cons_append, letters_none_cons,
      toNat_byte (by omega), first]
    have last : (UInt8.ofNat (codePoint % 0x40 + 0x80)).toNat =
        codePoint % 0x40 + 0x80 := toNat_byte (by omega)
    dsimp only
    rw [List.nil_append, List.cons_append,
      letters_completes _ (by rw [last]; dsimp only; omega) rfl, last,
      made _ (by dsimp only; omega)]
    rfl
  rw [if_neg two]
  by_cases three : codePoint ≤ 0xFFFF
  · have first :=
      @lead_three (codePoint / 4096 % 0x10 + 0xE0) (by omega)
    have second : (UInt8.ofNat (codePoint / 64 % 0x40 + 0x80)).toNat =
        codePoint / 64 % 0x40 + 0x80 := toNat_byte (by omega)
    have last : (UInt8.ofNat (codePoint % 0x40 + 0x80)).toNat =
        codePoint % 0x40 + 0x80 := toNat_byte (by omega)
    rw [if_pos three, List.cons_append, letters_none_cons,
      toNat_byte (by omega), first]
    dsimp only
    rw [List.nil_append, List.cons_append,
      letters_continues _
        (by rw [second]; dsimp only; split <;> split <;> omega)
        (by dsimp only; omega),
      List.cons_append,
      letters_completes _ (by rw [last]; dsimp only; omega) rfl, last, second,
      made _ (by dsimp only; omega)]
    rfl
  · have first :=
      @lead_four (codePoint / 262144 % 0x08 + 0xF0) (by omega)
    have second : (UInt8.ofNat (codePoint / 4096 % 0x40 + 0x80)).toNat =
        codePoint / 4096 % 0x40 + 0x80 := toNat_byte (by omega)
    have third : (UInt8.ofNat (codePoint / 64 % 0x40 + 0x80)).toNat =
        codePoint / 64 % 0x40 + 0x80 := toNat_byte (by omega)
    have last : (UInt8.ofNat (codePoint % 0x40 + 0x80)).toNat =
        codePoint % 0x40 + 0x80 := toNat_byte (by omega)
    rw [if_neg three, List.cons_append, letters_none_cons,
      toNat_byte (by omega), first]
    dsimp only
    rw [List.nil_append, List.cons_append,
      letters_continues _
        (by rw [second]; dsimp only; split <;> split <;> omega)
        (by dsimp only; omega),
      List.cons_append,
      letters_continues _ (by rw [third]; dsimp only; omega)
        (by dsimp only; omega),
      List.cons_append,
      letters_completes _ (by rw [last]; dsimp only; omega) rfl, last, third,
      second, made _ (by dsimp only; omega)]
    rfl

/-- The bytes of a text are read as its letters. -/
theorem letters_encode (text : String) :
    letters none (encode text) = text.toList := by
  unfold encode
  generalize text.toList = list
  induction list with
  | nil => rfl
  | cons letter rest inductionHypothesis =>
      rw [List.flatMap_cons, letters_encoded, inductionHypothesis]

/-- The bytes of a text without a byte order mark are read as the text. -/
theorem decode_encode
    {text : String}
    (unmarked : text.toList.head? ≠ some byteOrderMark) :
    decode (encode text) = text := by
  have kept : withoutMark text.toList = text.toList := by
    cases list : text.toList with
    | nil => rfl
    | cons letter rest =>
        rw [list] at unmarked
        exact if_neg fun mark => unmarked (congrArg some mark)
  rw [decode, letters_encode, kept, String.ofList_toList]

end Utf8Decoding
