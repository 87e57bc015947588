import Mathlib.Data.List.Forall2
import Mathlib.Data.List.TakeDrop

namespace TextReaders

/-!
# Readers of delimited text

A reader takes a value off the front of a text and gives the rest.  A text
reads as a value when the reader finds that value before any rest that does not
go on with the last token.  Sequences of such texts, separated and closed by
characters that belong to no token, read as the list of their values.
-/

/-- A reader takes a value off the front of a text. -/
abbrev Reader (α : Type) := List Char → Option (α × List Char)

/-- The text does not go on with a token. -/
def EndsToken (inToken : Char → Bool) (rest : List Char) : Prop :=
  ∀ c ∈ rest.head?, inToken c = false

/-- The reader finds the value in the text, whatever follows its last token. -/
def Reads
    (inToken : Char → Bool)
    (reader : Reader α)
    (text : List Char)
    (value : α) : Prop :=
  ∀ rest, EndsToken inToken rest → reader (text ++ rest) = some (value, rest)

/-- One item or more, up to the closing character. -/
def readItems
    (readItem : Reader α)
    (separator close : Char) : Nat → Reader (List α)
  | 0, _ => none
  | fuel + 1, text =>
      match readItem text with
      | none => none
      | some (_, []) => none
      | some (item, next :: rest) =>
          if next = separator then
            (readItems readItem separator close fuel rest).map fun found =>
              (item :: found.1, found.2)
          else if next = close then
            some ([item], rest)
          else
            none

/-- Any number of items, up to the closing character. -/
def readSequence
    (readItem : Reader α)
    (separator close : Char) : Reader (List α)
  | [] => none
  | next :: rest =>
      if next = close then
        some ([], rest)
      else
        readItems readItem separator close (next :: rest).length (next :: rest)

variable {inToken : Char → Bool} {readItem : Reader α}
variable {separator close : Char}

/-- A character outside of tokens ends one. -/
theorem endsToken_cons
    {c : Char}
    (outside : inToken c = false)
    (rest : List Char) :
    EndsToken inToken (c :: rest) := by
  intro first found
  cases found
  exact outside

/-- The longest token is found before a rest that does not go on with it. -/
theorem span_token
    {token rest : List Char}
    (isToken : ∀ c ∈ token, inToken c = true)
    (ends : EndsToken inToken rest) :
    (token ++ rest).span inToken = (token, rest) := by
  rw [List.span_eq_takeWhile_dropWhile, List.takeWhile_append_of_pos isToken,
    List.dropWhile_append_of_pos isToken]
  cases rest with
  | nil =>
      simp
  | cons c rest =>
      have outside := ends c rfl
      rw [List.takeWhile_cons_of_neg (by simp [outside]),
        List.dropWhile_cons_of_neg (by simp [outside]), List.append_nil]

/-- Separated items read one by one. -/
theorem readItems_intercalate
    (separatorOutside : inToken separator = false)
    (closeOutside : inToken close = false)
    (distinct : close ≠ separator)
    {texts : List (List Char)}
    {values : List α}
    (each : List.Forall₂ (Reads inToken readItem) texts values)
    (nonempty : texts ≠ [])
    {fuel : Nat}
    (enough : texts.length ≤ fuel)
    (rest : List Char) :
    readItems readItem separator close fuel
        ([separator].intercalate texts ++ close :: rest) =
      some (values, rest) := by
  induction each generalizing fuel with
  | nil =>
      exact absurd rfl nonempty
  | @cons text value texts values first later inductionHypothesis =>
      obtain ⟨fuel, rfl⟩ : ∃ less, fuel = less + 1 :=
        ⟨fuel - 1, by simp at enough; omega⟩
      cases later with
      | nil =>
          rw [List.intercalate_singleton, readItems,
            first _ (endsToken_cons closeOutside rest)]
          simp [distinct]
      | cons second others =>
          rw [List.intercalate_cons_cons, List.append_assoc, List.append_assoc,
            List.singleton_append, readItems,
            first _ (endsToken_cons separatorOutside _)]
          simp only [if_true]
          rw [inductionHypothesis (List.cons_ne_nil _ _)
            (by simpa using enough)]
          rfl

/-- A separated list is at least as long as it has items. -/
theorem length_le_length_intercalate
    {texts : List (List Char)}
    (nonempty : ∀ text ∈ texts, text ≠ []) :
    texts.length ≤ ([separator].intercalate texts).length := by
  induction texts with
  | nil =>
      simp
  | cons text rest inductionHypothesis =>
      obtain ⟨first, later⟩ := List.forall_mem_cons.1 nonempty
      have positive := List.length_pos_iff.2 first
      have bound := inductionHypothesis later
      cases rest with
      | nil =>
          rw [List.intercalate_singleton]
          exact positive
      | cons second others =>
          rw [List.intercalate_cons_cons]
          simp only [List.length_append, List.length_cons] at bound ⊢
          omega

/-- An item is at most as long as the list. -/
theorem length_le_of_mem
    {texts : List (List Char)}
    {text : List Char}
    (member : text ∈ texts) :
    text.length ≤ ([separator].intercalate texts).length := by
  induction texts with
  | nil =>
      cases member
  | cons first rest inductionHypothesis =>
      cases rest with
      | nil =>
          obtain rfl := List.mem_singleton.1 member
          simp
      | cons second others =>
          rw [List.intercalate_cons_cons]
          simp only [List.length_append]
          obtain rfl | later := List.mem_cons.1 member
          · omega
          · have bound := inductionHypothesis later
            omega

/-- A closed sequence reads as the list of what its items read as. -/
theorem readSequence_intercalate
    (separatorOutside : inToken separator = false)
    (closeOutside : inToken close = false)
    (distinct : close ≠ separator)
    {texts : List (List Char)}
    {values : List α}
    (each : List.Forall₂ (Reads inToken readItem) texts values)
    (starts :
      ∀ text ∈ texts, ∃ first tail, text = first :: tail ∧ first ≠ close)
    (rest : List Char) :
    readSequence readItem separator close
        ([separator].intercalate texts ++ close :: rest) =
      some (values, rest) := by
  cases texts with
  | nil =>
      cases each
      simp [readSequence]
  | cons text texts =>
      obtain ⟨first, tail, shape, notClose⟩ :=
        starts text (List.mem_cons_self ..)
      have nonempty : ∀ text' ∈ text :: texts, text' ≠ [] := by
        intro text' member
        obtain ⟨_, _, rfl, _⟩ := starts text' member
        exact List.cons_ne_nil _ _
      have bound :=
        @length_le_length_intercalate separator (text :: texts) nonempty
      obtain ⟨more, starts⟩ :
          ∃ more, [separator].intercalate (text :: texts) = first :: more := by
        subst shape
        cases texts with
        | nil =>
            exact ⟨tail, List.intercalate_singleton⟩
        | cons second others =>
            exact ⟨_, List.intercalate_cons_cons ..⟩
      have enough :
          (text :: texts).length ≤ (first :: more ++ close :: rest).length := by
        rw [starts] at bound
        rw [List.length_append]
        omega
      have read :=
        readItems_intercalate separatorOutside closeOutside distinct each
          (List.cons_ne_nil _ _) enough rest
      rw [starts, List.cons_append] at read ⊢
      rw [readSequence, if_neg notClose]
      exact read

end TextReaders
