import CloudflareParallel.Library.LabelledRuns

namespace DrainBarriers

open LabelledRuns

/-!
# Barriers of a system that comes to rest

Callers wait until a system is idle.  The first one that has to wait creates a
barrier, the others share it, and some steps of the system end with a check
that opens it.  When the test for being idle is right and every step that brings the
system to rest makes the check, a caller has been let through exactly if the
system has been at rest at a moment since the call.
-/

variable {State Label Waiter : Type}

/-- A barrier that may exist, and the callers that are let through. -/
structure Barrier (Waiter : Type) where
  waiting : Option (List Waiter) := none
  released : List Waiter := []
  deriving DecidableEq

namespace Barrier

/-- A caller is let through at once, or waits at the barrier. -/
def drain
    (barrier : Barrier Waiter)
    (idle : Bool)
    (waiter : Waiter) : Barrier Waiter :=
  if idle then
    { barrier with released := barrier.released ++ [waiter] }
  else
    { barrier with waiting := some (barrier.waiting.getD [] ++ [waiter]) }

/-- The check opens a barrier that exists if the system is idle. -/
def check
    (barrier : Barrier Waiter)
    (idle : Bool) : Barrier Waiter :=
  match barrier.waiting with
  | none => barrier
  | some waiters =>
      if idle then
        { waiting := none, released := barrier.released ++ waiters }
      else
        barrier

end Barrier

/-- A step of the system, or a caller that wants it to be idle. -/
inductive BarrierEvent (Label Waiter : Type) where
  | work (label : Label)
  | drain (waiter : Waiter)

/-- The callers so far, each with whether the system has been idle since. -/
abbrev CallHistory (Waiter : Type) : Type :=
  List (Waiter × Bool)

section System

variable (step : State → Label → Option State)
variable (idle rests : State → Bool)
variable (checks : Label → Bool)

/-- A step of the system with its barrier. -/
def stepWith
    (current : State × Barrier Waiter) :
    BarrierEvent Label Waiter → Option (State × Barrier Waiter)
  | .work label =>
      (step current.1 label).map fun next =>
        (next,
          if checks label then
            current.2.check (idle next)
          else
            current.2)
  | .drain waiter =>
      some (current.1, current.2.drain (idle current.1) waiter)

/-- What a step means for the callers, by when the system rests. -/
def observe
    (current : State × Barrier Waiter)
    (event : BarrierEvent Label Waiter)
    (history : CallHistory Waiter) : CallHistory Waiter :=
  match event with
  | .work label =>
      match step current.1 label with
      | none => history
      | some next =>
          history.map fun call => (call.1, call.2 || rests next)
  | .drain waiter => history ++ [(waiter, rests current.1)]

end System

/-- The callers that have seen the system at rest, or have not. -/
def CallHistory.callers
    (history : CallHistory Waiter)
    (seen : Bool) : List Waiter :=
  (history.filter (·.2 = seen)).map (·.1)

/-- Exactly the callers that have not seen the system at rest wait. -/
structure Serves
    (rests : State → Bool)
    (state : State)
    (barrier : Barrier Waiter)
    (history : CallHistory Waiter) : Prop where
  busy : barrier.waiting.isSome → rests state = false
  waiting : barrier.waiting.getD [] = history.callers false
  released : barrier.released.Perm (history.callers true)

namespace CallHistory

theorem callers_append
    (history later : CallHistory Waiter)
    (seen : Bool) :
    callers (history ++ later) seen =
      history.callers seen ++ later.callers seen := by
  simp [callers]

/-- After a moment at rest, every caller has seen one. -/
theorem callers_idle (history : CallHistory Waiter) :
    callers (history.map fun call => (call.1, true)) true =
        history.map (·.1) ∧
      callers (history.map fun call => (call.1, true)) false = [] := by
  induction history with
  | nil => exact ⟨rfl, rfl⟩
  | cons call rest inductionHypothesis =>
      simp_all [callers]

/-- A caller has seen the system at rest or waits. -/
theorem perm_callers (history : CallHistory Waiter) :
    (history.callers true ++ history.callers false).Perm
      (history.map (·.1)) := by
  unfold callers
  rw [← List.map_append]
  refine List.Perm.map _ ?_
  have split := List.filter_append_perm (fun call : Waiter × Bool => call.2) history
  simpa using split

end CallHistory

variable {step : State → Label → Option State}
variable {idle rests : State → Bool}
variable {checks : Label → Bool}
variable {state next : State}
variable {barrier : Barrier Waiter}
variable {history : CallHistory Waiter}

/-- A caller is served as it arrives. -/
theorem Serves.drain
    (serves : Serves rests state barrier history)
    (waiter : Waiter) :
    Serves rests state (barrier.drain (rests state) waiter)
      (history ++ [(waiter, rests state)]) := by
  cases atRest : rests state with
  | true =>
      refine ⟨serves.busy, ?_, ?_⟩
      · rw [CallHistory.callers_append]
        simpa [CallHistory.callers, Barrier.drain] using serves.waiting
      · rw [CallHistory.callers_append]
        simpa [CallHistory.callers, Barrier.drain] using
          serves.released.append_right [waiter]
  | false =>
      refine ⟨fun _ => atRest, ?_, ?_⟩
      · rw [CallHistory.callers_append, ← serves.waiting]
        simp [CallHistory.callers, Barrier.drain]
      · rw [CallHistory.callers_append]
        simpa [CallHistory.callers, Barrier.drain] using serves.released

/-- A step to rest lets every caller through if it makes the check. -/
theorem Serves.work
    (serves : Serves rests state barrier history)
    (checked : Bool)
    (wakes : rests state = false → rests next = true → checked = true) :
    Serves rests next
      (if checked then barrier.check (rests next) else barrier)
      (history.map fun call => (call.1, call.2 || rests next)) := by
  cases atRest : rests next with
  | false =>
      have unchanged :
          (if checked then barrier.check false else barrier) = barrier := by
        unfold Barrier.check
        split
        · split <;> rfl
        · rfl
      rw [unchanged]
      simp only [Bool.or_false, List.map_id']
      exact ⟨fun _ => atRest, serves.waiting, serves.released⟩
  | true =>
      simp only [Bool.or_true]
      obtain ⟨allSeen, noneWaits⟩ := CallHistory.callers_idle history
      have everyone :
          (barrier.released ++ barrier.waiting.getD []).Perm
            (history.map (·.1)) := by
        rw [serves.waiting]
        exact (serves.released.append_right _).trans history.perm_callers
      cases waits : barrier.waiting with
      | none =>
          have unchanged :
              (if checked then barrier.check true else barrier) = barrier := by
            unfold Barrier.check
            rw [waits, ite_self]
          rw [unchanged]
          refine ⟨by simp [waits], by rw [waits, noneWaits]; rfl, ?_⟩
          rw [allSeen]
          simpa [waits] using everyone
      | some waiters =>
          -- The system was busy, so this step makes the check.
          have busy := serves.busy (by rw [waits]; rfl)
          rw [wakes busy atRest, if_pos rfl]
          unfold Barrier.check
          rw [waits]
          refine ⟨nofun, noneWaits.symm, ?_⟩
          rw [allSeen]
          simpa [waits] using everyone

/--
In every run of a system whose test for being idle is right in the states it
reaches, and in which every step to rest makes the check, a caller has been let
through exactly if the system has been at rest since the call.
-/
theorem serves_of_run
    (reachable : State → Prop)
    (preserved :
      ∀ {state next label},
        step state label = some next →
        reachable state →
        reachable next)
    (agrees : ∀ {state}, reachable state → idle state = rests state)
    (wakes :
      ∀ {state next label},
        step state label = some next →
        reachable state →
        rests state = false →
        rests next = true →
        checks label = true)
    {start final : State}
    {last : Barrier Waiter}
    {events : List (BarrierEvent Label Waiter)}
    (initially : reachable start)
    (run :
      Run
        (recording (stepWith step idle checks) (observe step rests))
        ((start, {}), []) events ((final, last), history)) :
    reachable final ∧ Serves rests final last history := by
  refine @GuardedRun.invariant _ _ _ _
    (fun (current : (State × Barrier Waiter) × CallHistory Waiter) =>
      reachable current.1.1 ∧
        Serves rests current.1.1 current.1.2 current.2)
    ?_ _ _ _ run ⟨initially, ⟨nofun, rfl, .refl _⟩⟩
  rintro ⟨⟨state, barrier⟩, history⟩ event next - recorded
    ⟨isReachable, serves⟩
  obtain ⟨after, stepped, rfl⟩ := Option.map_eq_some_iff.mp recorded
  cases event with
  | work label =>
      obtain ⟨moved, taken, rfl⟩ := Option.map_eq_some_iff.mp stepped
      have stays := preserved taken isReachable
      refine ⟨stays, ?_⟩
      simp only [observe, taken, agrees stays]
      exact serves.work (checks label) (wakes taken isReachable)
  | drain waiter =>
      cases stepped
      simp only [observe, agrees isReachable]
      exact ⟨isReachable, serves.drain waiter⟩

end DrainBarriers
