import CloudflareParallel.CoordinatorProtocol

namespace CloudflareParallel

/-!
# Transient platform errors and the retry loop

The matchers of `transient.ts` and the loop that every hop of a fan-out runs
around its RPC: retry while the call rejects with a transient error or answers
with a transient failure, at most `MAX_TRANSIENT_RETRIES` times.
-/

/-- Maximum retries on transient platform errors. -/
def MAX_TRANSIENT_RETRIES : Nat := 4

/-- The texts that mark a platform error as transient. -/
def TRANSIENT_LEAF_RETRY_PATTERNS : List String :=
  [ "caused object to be reset",
    "durable object reset",
    "durable object storage",
    "network connection lost",
    "the script will never generate a response" ]

/-- A case-insensitive match of a lower-case pattern anywhere in a text. -/
def testPattern (pattern text : String) : Bool :=
  text.toLower.toList.tails.any fun tail =>
    pattern.toList.isPrefixOf tail

/-- Whether a message carries one of the transient texts. -/
def isTransientMessage (message : String) : Bool :=
  TRANSIENT_LEAF_RETRY_PATTERNS.any fun pattern =>
    testPattern pattern message

/-- The message of a thrown value, when it has one. -/
def errorMessage : Thrown → Option String
  | .error _ message _ _ => some message
  | .string value => some value
  | .object message _ => message

def isTransientLeafError (err : Thrown) : Bool :=
  match errorMessage err with
  | none => false
  | some message => isTransientMessage message

/-- Some result is a failure whose message is transient. -/
def hasTransientRunFailure (results : List RunOneResult) : Bool :=
  results.any fun
    | .ok _ => false
    | .failed error => isTransientMessage error.message

/-- One transient failure makes a transient failure of the results. -/
theorem hasTransientRunFailure_of_mem
    {results : List RunOneResult}
    {result : RunOneResult}
    (transient : hasTransientRunFailure [result])
    (member : result ∈ results) :
    hasTransientRunFailure results := by
  unfold hasTransientRunFailure at transient ⊢
  rw [List.any_cons, List.any_nil, Bool.or_false] at transient
  exact List.any_eq_true.mpr ⟨result, member, transient⟩

/-- What one attempt of an RPC comes back with. -/
abbrev RpcOutcome := Except Thrown (List RunOneResult)

/-- Whether the loop tries again after an outcome. -/
def RpcOutcome.isTransient : RpcOutcome → Bool
  | .ok results => hasTransientRunFailure results
  | .error err => isTransientLeafError err

/--
The retry loop.  `call attempt` is one attempt with a record of it; the result
is the last outcome with the records of all attempts made.  `remaining` counts
the retries left.
-/
def retryTransient
    (call : (attempt : Nat) → RpcOutcome × ρ) :
    (remaining attempt : Nat) → RpcOutcome × List ρ
  | 0, attempt =>
      ((call attempt).1, [(call attempt).2])
  | remaining + 1, attempt =>
      if (call attempt).1.isTransient then
        let later := retryTransient call remaining (attempt + 1)
        (later.1, (call attempt).2 :: later.2)
      else
        ((call attempt).1, [(call attempt).2])

/-- The attempts before the last one came back transient. -/
theorem retryTransient_split
    (call : Nat → RpcOutcome × ρ)
    (remaining attempt : Nat) :
    ∃ (earlier : List Nat) (last : Nat),
      (retryTransient call remaining attempt).2 =
          (earlier.map fun made => (call made).2) ++ [(call last).2] ∧
        (retryTransient call remaining attempt).1 = (call last).1 ∧
        ∀ made ∈ earlier, (call made).1.isTransient := by
  induction remaining generalizing attempt with
  | zero =>
      exact ⟨[], attempt, rfl, rfl, nofun⟩
  | succ remaining inductionHypothesis =>
      unfold retryTransient
      split
      next transient =>
        obtain ⟨earlier, last, records, outcome, before⟩ :=
          inductionHypothesis (attempt + 1)
        refine ⟨attempt :: earlier, last, ?_, outcome, ?_⟩
        · change (call attempt).2 :: _ = _
          rw [records]
          rfl
        · rw [List.forall_mem_cons]
          exact ⟨transient, before⟩
      next =>
        exact ⟨[], attempt, rfl, rfl, nofun⟩

/-- The final outcome is that of a recorded attempt. -/
theorem retryTransient_final
    (call : Nat → RpcOutcome × ρ)
    (remaining attempt : Nat) :
    ∃ last,
      (retryTransient call remaining attempt).1 = (call last).1 ∧
        (call last).2 ∈ (retryTransient call remaining attempt).2 := by
  obtain ⟨earlier, last, records, outcome, _⟩ :=
    retryTransient_split call remaining attempt
  refine ⟨last, outcome, ?_⟩
  rw [records]
  simp

/-- Every record is the record of some attempt. -/
theorem mem_retryTransient
    {call : Nat → RpcOutcome × ρ}
    {remaining attempt : Nat}
    {record : ρ}
    (member : record ∈ (retryTransient call remaining attempt).2) :
    ∃ made, record = (call made).2 := by
  obtain ⟨earlier, last, records, _, _⟩ :=
    retryTransient_split call remaining attempt
  rw [records, List.mem_append, List.mem_map, List.mem_singleton] at member
  rcases member with ⟨made, _, same⟩ | isLast
  · exact ⟨made, same.symm⟩
  · exact ⟨last, isLast⟩

/-- The first attempt is always made. -/
theorem first_mem_retryTransient
    (call : Nat → RpcOutcome × ρ)
    (remaining attempt : Nat) :
    (call attempt).2 ∈ (retryTransient call remaining attempt).2 := by
  cases remaining with
  | zero =>
      exact List.mem_singleton.mpr rfl
  | succ remaining =>
      unfold retryTransient
      split
      · exact List.mem_cons_self ..
      · exact List.mem_singleton.mpr rfl

/-- The loop makes at most one attempt more than its retry budget. -/
theorem length_retryTransient_le
    (call : Nat → RpcOutcome × ρ)
    (remaining attempt : Nat) :
    (retryTransient call remaining attempt).2.length ≤ remaining + 1 := by
  induction remaining generalizing attempt with
  | zero =>
      simp [retryTransient]
  | succ remaining inductionHypothesis =>
      unfold retryTransient
      split
      · exact Nat.succ_le_succ (inductionHypothesis (attempt + 1))
      · simp

/-- A call that always fails transiently is made as often as allowed. -/
theorem length_retryTransient_of_transient
    {call : Nat → RpcOutcome × ρ}
    (fails : ∀ made, (call made).1.isTransient)
    (remaining attempt : Nat) :
    (retryTransient call remaining attempt).2.length = remaining + 1 := by
  induction remaining generalizing attempt with
  | zero =>
      rfl
  | succ remaining inductionHypothesis =>
      simp [retryTransient, fails attempt, inductionHypothesis]

end CloudflareParallel
