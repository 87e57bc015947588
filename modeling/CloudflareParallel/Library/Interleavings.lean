import Mathlib.Data.List.Basic

namespace Interleavings

/-!
# What two activities do side by side

`Beside first second events` says that the events of two activities happen in
this order: each keeps its own order, and nothing else is fixed.  The rules put
activities beside each other and one after the other.
-/

variable {α : Type}

/-- The events of two activities that run side by side. -/
inductive Beside : List α → List α → List α → Prop where
  | done : Beside [] [] []
  | byFirst {event : α} {first second events : List α} :
      Beside first second events →
      Beside (event :: first) second (event :: events)
  | bySecond {event : α} {first second events : List α} :
      Beside first second events →
      Beside first (event :: second) (event :: events)

namespace Beside

variable {first second events : List α}

/-- The first activity may be over before the second one starts. -/
theorem concat (first second : List α) :
    Beside first second (first ++ second) := by
  induction first with
  | nil =>
      induction second with
      | nil => exact .done
      | cons event rest inductionHypothesis => exact .bySecond inductionHypothesis
  | cons event rest inductionHypothesis =>
      exact .byFirst inductionHypothesis

/-- The first activity alone. -/
theorem alone (first : List α) : Beside first [] first := by
  have whole := concat first ([] : List α)
  rwa [List.append_nil] at whole

/-- Beside nothing the second activity is alone. -/
theorem eq_of_nil (beside : Beside [] second events) : events = second := by
  induction second generalizing events with
  | nil =>
      cases beside
      rfl
  | cons event rest inductionHypothesis =>
      cases beside with
      | bySecond beside => rw [inductionHypothesis beside]

/-- What goes on beside one another, and then on. -/
theorem append
    {laterFirst laterSecond later : List α}
    (start : Beside first second events)
    (rest : Beside laterFirst laterSecond later) :
    Beside (first ++ laterFirst) (second ++ laterSecond) (events ++ later) := by
  induction start with
  | done => exact rest
  | byFirst _ inductionHypothesis => exact .byFirst inductionHypothesis
  | bySecond _ inductionHypothesis => exact .bySecond inductionHypothesis

/-- Two activities of two phases each may go through them together. -/
theorem phases (first laterFirst second laterSecond : List α) :
    Beside (first ++ laterFirst) (second ++ laterSecond)
      ((first ++ second) ++ (laterFirst ++ laterSecond)) :=
  (concat first second).append (concat laterFirst laterSecond)

/-- Of three activities, the first is beside the other two. -/
theorem assoc
    {third both all : List α}
    (inner : Beside first second both)
    (outer : Beside both third all) :
    ∃ others, Beside second third others ∧ Beside first others all := by
  induction outer generalizing first second with
  | done =>
      cases inner
      exact ⟨[], .done, .done⟩
  | byFirst _ inductionHypothesis =>
      cases inner with
      | byFirst inner =>
          obtain ⟨others, beside, whole⟩ := inductionHypothesis inner
          exact ⟨others, beside, .byFirst whole⟩
      | bySecond inner =>
          obtain ⟨others, beside, whole⟩ := inductionHypothesis inner
          exact ⟨_, .byFirst beside, .bySecond whole⟩
  | bySecond _ inductionHypothesis =>
      obtain ⟨others, beside, whole⟩ := inductionHypothesis inner
      exact ⟨_, .bySecond beside, .bySecond whole⟩

end Beside

end Interleavings
