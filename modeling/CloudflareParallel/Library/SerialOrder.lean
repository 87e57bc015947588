import Mathlib.Data.List.Perm.Basic

namespace SerialOrder

/-!
# Serial orders of completed calls

A call transforms a state into a new state and a value, or fails.  A history of
completed calls is serializable when some order of them, run one after the
other, gives every call its value and ends in the final state.
-/

variable {State Call Value Err : Type}

/-- Running the calls one after the other gives their values. -/
inductive SerialRun
    (run : Call → State → Except Err (State × Value)) :
    State → List (Call × Value) → State → Prop where
  | nil {state : State} :
      SerialRun run state [] state
  | cons {state next final : State}
      {call : Call} {value : Value} {rest : List (Call × Value)} :
      run call state = .ok (next, value) →
      SerialRun run next rest final →
      SerialRun run state ((call, value) :: rest) final

/-- One more call at the end of a serial run. -/
theorem SerialRun.snoc
    {run : Call → State → Except Err (State × Value)}
    {start current next : State}
    {completed : List (Call × Value)}
    {call : Call}
    {value : Value}
    (serial : SerialRun run start completed current)
    (succeeded : run call current = .ok (next, value)) :
    SerialRun run start (completed ++ [(call, value)]) next := by
  induction serial with
  | nil =>
      exact .cons succeeded .nil
  | cons headSucceeded _ inductionHypothesis =>
      exact .cons headSucceeded (inductionHypothesis succeeded)

/-- The completed calls have a serial order. -/
def Serializable
    (run : Call → State → Except Err (State × Value))
    (start : State)
    (completed : List (Call × Value))
    (final : State) : Prop :=
  ∃ order,
    order.Perm completed ∧ SerialRun run start order final

/-- Calls that completed in a serial order are serializable. -/
theorem SerialRun.serializable
    {run : Call → State → Except Err (State × Value)}
    {start final : State}
    {completed : List (Call × Value)}
    (serial : SerialRun run start completed final) :
    Serializable run start completed final :=
  ⟨completed, .refl _, serial⟩

end SerialOrder
