namespace CallMachines

/-!
# Machines that answer calls

A machine maps a state and a call to its next state and an answer.  Two
machines are in step on a sequence of calls when they give the same answers and
stay related.  Where one call keeps two related machines in step exactly under
a condition on the first, a sequence does so exactly if it meets the condition
all along the run of the first.
-/

variable {Call State Other Answer OtherAnswer : Type}

/-- Two machines give the same answers to the calls and stay related. -/
def InStep
    (invoke : State → Call → State × Answer)
    (otherInvoke : Other → Call → Other × OtherAnswer)
    (same : Answer → OtherAnswer → Prop)
    (related : State → Other → Prop) :
    State → Other → List Call → Prop
  | _, _, [] => True
  | state, other, call :: rest =>
      (same (invoke state call).2 (otherInvoke other call).2 ∧
        related (invoke state call).1 (otherInvoke other call).1) ∧
          InStep invoke otherInvoke same related (invoke state call).1
            (otherInvoke other call).1 rest

/-- Every call of a sequence meets a condition in the state it is made in. -/
def Along
    (invoke : State → Call → State × Answer)
    (condition : State → Call → Prop) :
    State → List Call → Prop
  | _, [] => True
  | state, call :: rest =>
      condition state call ∧
        Along invoke condition (invoke state call).1 rest

/-- Machines in step for one call are in step for a sequence. -/
theorem inStep_iff_along
    {invoke : State → Call → State × Answer}
    {otherInvoke : Other → Call → Other × OtherAnswer}
    {same : Answer → OtherAnswer → Prop}
    {related : State → Other → Prop}
    {condition : State → Call → Prop}
    (exact :
      ∀ state other call,
        related state other →
        (same (invoke state call).2 (otherInvoke other call).2 ∧
            related (invoke state call).1 (otherInvoke other call).1 ↔
          condition state call))
    {state : State}
    {other : Other}
    (start : related state other)
    (calls : List Call) :
    InStep invoke otherInvoke same related state other calls ↔
      Along invoke condition state calls := by
  induction calls generalizing state other with
  | nil =>
      exact Iff.rfl
  | cons call rest inductionHypothesis =>
      constructor
      · rintro ⟨stepped, later⟩
        exact ⟨(exact state other call start).mp stepped,
          (inductionHypothesis stepped.2).mp later⟩
      · rintro ⟨met, later⟩
        have stepped := (exact state other call start).mpr met
        exact ⟨stepped, (inductionHypothesis stepped.2).mpr later⟩

instance decidableAlong
    {invoke : State → Call → State × Answer}
    {condition : State → Call → Prop}
    [∀ state call, Decidable (condition state call)] :
    (state : State) → (calls : List Call) →
      Decidable (Along invoke condition state calls)
  | _, [] => inferInstanceAs (Decidable True)
  | state, call :: rest =>
      have : Decidable (Along invoke condition (invoke state call).1 rest) :=
        decidableAlong _ rest
      inferInstanceAs (Decidable (_ ∧ _))

end CallMachines
