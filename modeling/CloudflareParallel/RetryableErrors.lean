import CloudflareParallel.Library.SegmentedNames
import CloudflareParallel.ResilientDispatch

namespace CloudflareParallel

open JsonValues

/-!
# Which errors are retried

An error that is sorted by its text is retryable only if the text has one of
nine markers.  The errors that the race itself makes have none of them, so it
is always the outcome of the task, or the token, that makes the loop go on.
-/

/-! ## Letters of a text -/

/-- A text that includes a pattern has all of its letters. -/
theorem mem_of_includes
    {text pattern : String}
    (found : includes text pattern = true)
    {letter : Char}
    (member : letter ∈ pattern.toList) :
    letter ∈ text.toList := by
  unfold includes at found
  obtain ⟨tail, isTail, starts⟩ := List.any_eq_true.mp found
  have inTail := (List.isPrefixOf_iff_prefix.mp starts).subset member
  exact ((List.mem_tails _ _).mp isTail).subset inTail

/-- A letter becomes another one only from its capital. -/
theorem eq_of_toLower_eq
    {letter small : Char}
    (same : letter.toLower = small) :
    letter = small ∨ letter.val + 32 = small.val := by
  unfold Char.toLower at same
  split at same
  · right
    rw [← same]
    rfl
  · exact .inl same

/-- A plain letter of a text in lower case was that letter or its capital. -/
theorem mem_of_mem_toLowerCase
    {text : String}
    {small : Char}
    (capital : Char)
    (pair : capital.val + 32 = small.val)
    (plain : small ≠ 'k' ∧ small ≠ 'i' ∧ small ≠ '\u0307')
    (member : small ∈ (toLowerCase text).toList) :
    small ∈ text.toList ∨ capital ∈ text.toList := by
  unfold toLowerCase at member
  rw [String.toList_ofList] at member
  obtain ⟨letter, letterMember, lowered⟩ := List.mem_flatMap.mp member
  unfold lowerCaseOf at lowered
  split at lowered
  · simp [plain] at lowered
  · split at lowered
    · simp [plain] at lowered
    · rw [List.mem_singleton] at lowered
      rcases eq_of_toLower_eq lowered.symm with same | shifted
      · exact .inl (same ▸ letterMember)
      · have same : letter = capital := by
          rw [← pair] at shifted
          exact Char.ext (by grind)
        exact .inr (same ▸ letterMember)

/-! ## The markers of retryable errors -/

/-- The markers in lower case that stand for a retryable class. -/
def RETRYABLE_MARKERS : List String :=
  [ "owner quota", "rate limit", "overloaded", "too many requests",
    "disconnected", "worker terminated", "isolate is no longer running",
    "worker reset" ]

/-- A class that a text is sorted into is retryable by a marker only. -/
theorem marker_of_isRetryable
    {globals : MarshalGlobals}
    {name msg : String}
    {stack : Option String}
    (retryable :
      ((markedClass globals name msg stack).isBackpressureError ||
          (markedClass globals name msg stack).isDisconnectedError) =
        true) :
    name = "Disconnected" ∨
      includes msg "Too many concurrent dynamic workers" = true ∨
      ∃ marker ∈ RETRYABLE_MARKERS,
        includes (toLowerCase msg) marker = true := by
  by_contra unmarked
  push Not at unmarked
  obtain ⟨otherName, notFull, quiet⟩ := unmarked
  simp only [RETRYABLE_MARKERS, List.forall_mem_cons, ne_eq,
    Bool.not_eq_true] at quiet notFull
  obtain ⟨quota, rate, load, requests, gone, ended, idle, reset, -⟩ := quiet
  -- Only the first two and the disconnect markers stand for retryable classes.
  unfold markedClass at retryable
  simp only [notFull, quota, rate, load, requests, gone, ended, idle, reset,
    otherName, decide_false, Bool.or_false, Bool.false_eq_true,
    if_false] at retryable
  repeat' split at retryable
  all_goals cases retryable

/-- A text without markers is not taken for a retryable error. -/
theorem isRetryable_marked_of_quiet
    {globals : MarshalGlobals}
    {name msg : String}
    {stack : Option String}
    (otherName : name ≠ "Disconnected")
    (notFull : includes msg "Too many concurrent dynamic workers" = false)
    (quiet :
      ∀ marker ∈ RETRYABLE_MARKERS,
        includes (toLowerCase msg) marker = false) :
    (ParallelError.ofClass globals.stackOf
        (markedClass globals name msg stack)).isRetryable =
      false := by
  rw [Bool.eq_false_iff]
  intro retryable
  rcases marker_of_isRetryable retryable with
    disconnected | full | ⟨marker, member, found⟩
  · exact otherName disconnected
  · rw [notFull] at full
    cases full
  · rw [quiet marker member] at found
    cases found

/-! ## The errors of the race -/

/-- An error of the language without markers is not retryable. -/
theorem isRetryable_nativeError
    (runtime : DispatchRuntime)
    {name message : String}
    (otherName : name ≠ "Disconnected")
    (notFull : includes message "Too many concurrent dynamic workers" = false)
    (quiet :
      ∀ marker ∈ RETRYABLE_MARKERS,
        includes (toLowerCase message) marker = false) :
    (marshalError runtime.globals
        (AttemptReading.nativeError runtime name message)).isRetryable =
      false :=
  isRetryable_marked_of_quiet otherName notFull quiet

/-- The error of a value that no number can be made of is not retryable. -/
theorem isRetryable_typeError (runtime : DispatchRuntime) :
    (marshalError runtime.globals
        (AttemptReading.typeError runtime)).isRetryable =
      false :=
  isRetryable_nativeError runtime (by decide) (by decide +kernel)
    (by decide +kernel)

/-- The error of a deadline that is no date is not retryable. -/
theorem isRetryable_rangeError (runtime : DispatchRuntime) :
    (marshalError runtime.globals
        (AttemptReading.rangeError runtime)).isRetryable =
      false :=
  isRetryable_nativeError runtime (by decide) (by decide +kernel)
    (by decide +kernel)

/-- The error of the timeout is not retryable. -/
theorem isRetryable_timeoutError
    (runtime : DispatchRuntime)
    (opts : DispatchOptions) :
    (marshalError runtime.globals
        (.error
          (.library (AttemptReading.timeoutError runtime opts)))).isRetryable =
      false :=
  rfl

/-- The letters of a decimal are digits. -/
theorem isDigit_of_mem_padStart
    {width value : Nat}
    {letter : Char}
    (member : letter ∈ (padStart width value).toList) :
    letter.isDigit = true := by
  unfold padStart at member
  simp only [String.toList_append, String.toList_ofList, List.mem_append,
    List.mem_replicate] at member
  rcases member with ⟨_, rfl⟩ | inNumber
  · rfl
  · by_contra notDigit
    exact
      SegmentedNames.notMem_number (Bool.eq_false_iff.mpr notDigit) value
        inNumber

/-- A letter that no date is written with. -/
structure NotInDates (letter : Char) : Prop where
  noDigit : letter.isDigit = false
  noSign : letter ∉ ['-', '+', ':', '.', 'T', 'Z']

/-- A decimal is written with digits. -/
theorem NotInDates.notMem_padStart
    {letter : Char}
    (foreign : NotInDates letter)
    (width value : Nat) :
    letter ∉ (padStart width value).toList := by
  intro member
  have digit := isDigit_of_mem_padStart member
  rw [foreign.noDigit] at digit
  cases digit

/-- The signs between the parts of a date add no other letter. -/
theorem NotInDates.notMem_layout
    {letter : Char}
    (foreign : NotInDates letter)
    {year month day hours minutes seconds ms : String}
    (noPart :
      ∀ part ∈ [year, month, day, hours, minutes, seconds, ms],
        letter ∉ part.toList) :
    letter ∉
      (s!"{year}-{month}-{day}T" ++ s!"{hours}:{minutes}:" ++
        s!"{seconds}.{ms}Z").toList := by
  have noSign := foreign.noSign
  have asText (text : String) : toString text = text := rfl
  simp only [List.mem_cons, List.not_mem_nil, or_false, not_or] at noSign
  simp only [List.forall_mem_cons] at noPart
  simp [asText, noSign, noPart]

/-- A date is written with digits and a few signs. -/
theorem NotInDates.notMem_dateToISOString
    {letter : Char}
    (foreign : NotInDates letter)
    (time : Int) :
    letter ∉ (dateToISOString time).toList := by
  have noDecimal := foreign.notMem_padStart
  have signed :
      ∀ sign ∈ ["+", "-"], ∀ width value,
        letter ∉ (sign ++ padStart width value).toList := by
    have noSign := foreign.noSign
    intro sign member width value
    simp only [List.mem_cons, List.not_mem_nil, or_false, not_or] at noSign
    simp only [List.mem_cons, List.not_mem_nil, or_false] at member
    rcases member with rfl | rfl <;> simp [noSign, noDecimal]
  unfold dateToISOString toISOString
  split
  · apply foreign.notMem_layout
    simp only [List.forall_mem_cons, List.not_mem_nil, false_implies,
      implies_true, and_true, noDecimal, not_false_eq_true]
    split
    · exact noDecimal _ _
    · exact signed _ (by decide) _ _
  · apply foreign.notMem_layout
    simp only [List.forall_mem_cons, List.not_mem_nil, false_implies,
      implies_true, and_true, noDecimal, not_false_eq_true]
    split
    · exact noDecimal _ _
    · exact signed _ (by decide) _ _

/-- A letter that is in no message about a deadline. -/
theorem notMem_deadlineMessage
    (deadline : DateNumber)
    {letter : Char}
    (marking : letter ∈ ['o', 'O', 'm', 'M']) :
    letter ∉ (ErrorClass.deadlineExceededError deadline).message.toList := by
  have foreign :
      ∀ letter ∈ ['o', 'O', 'm', 'M'],
        letter.isDigit = false ∧
          letter ∉ ['-', '+', ':', '.', 'T', 'Z'] ∧
          letter ∉ "Deadline exceeded (target=".toList ∧ letter ≠ ')' := by
    simp
  obtain ⟨noDigit, noSign, noText, noEnd⟩ := foreign letter marking
  have noDate :=
    NotInDates.notMem_dateToISOString ⟨noDigit, noSign⟩
      ((timeValue? deadline.1).get deadline.2)
  have asText (text : String) : toString text = text := rfl
  change
    letter ∉
      (s!"Deadline exceeded (target={DateNumber.toISOString deadline})").toList
  rw [DateNumber.toISOString]
  generalize
    dateToISOString ((timeValue? deadline.1).get deadline.2) = date at *
  simp only [asText, String.toList_append, List.mem_append, not_or]
  refine ⟨⟨noText, noDate⟩, ?_⟩
  simpa using noEnd

/-- The error of a deadline that has passed is not retryable. -/
theorem isRetryable_deadlineError
    (runtime : DispatchRuntime)
    (deadline : DateNumber) :
    (marshalError runtime.globals
        (.error
          (.library
            (AttemptReading.deadlineError runtime deadline)))).isRetryable =
      false := by
  let msg := (ErrorClass.deadlineExceededError deadline).message
  have absent : ∀ letter ∈ ['o', 'O', 'm', 'M'], letter ∉ msg.toList :=
    fun _ => notMem_deadlineMessage deadline
  have noO : 'o' ∉ (toLowerCase msg).toList := by
    intro member
    rcases mem_of_mem_toLowerCase 'O' rfl (by decide) member with
      small | capital
    · exact absent 'o' (by decide) small
    · exact absent 'O' (by decide) capital
  have noM : 'm' ∉ (toLowerCase msg).toList := by
    intro member
    rcases mem_of_mem_toLowerCase 'M' rfl (by decide) member with
      small | capital
    · exact absent 'm' (by decide) small
    · exact absent 'M' (by decide) capital
  -- Every marker has one of the two letters.
  have marking :
      ∀ marker ∈ RETRYABLE_MARKERS,
        'o' ∈ marker.toList ∨ 'm' ∈ marker.toList := by
    decide +kernel
  have otherName : "DeadlineExceededError" ≠ "Disconnected" := by decide
  refine isRetryable_marked_of_quiet otherName ?_ ?_
  · refine Bool.eq_false_iff.mpr fun found => ?_
    exact absent 'o' (by decide) (mem_of_includes found (by decide))
  · intro marker member
    refine Bool.eq_false_iff.mpr fun found => ?_
    rcases marking marker member with letter | letter
    · exact noO (mem_of_includes found letter)
    · exact noM (mem_of_includes found letter)

end CloudflareParallel
