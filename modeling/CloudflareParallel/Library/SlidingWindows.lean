import Mathlib.Data.List.Basic
import Mathlib.Order.Lattice

namespace SlidingWindows

/-!
# Sliding windows over a log of times

Times are appended to a list and its front is trimmed up to a bound whenever it
is read.  As long as times and bounds do not go backwards, the trimmed list is
the part of the whole log that is not before the last bound.
-/

variable {Time : Type} [LinearOrder Time]

/-- The times at the front that are before a bound are dropped. -/
def trim (bound : Time) : List Time → List Time
  | [] => []
  | time :: later =>
      if time < bound then
        trim bound later
      else
        time :: later

/-- Of a log in order, the trimmed part is what is not before the bound. -/
theorem trim_eq_filter
    {bound : Time}
    {log : List Time}
    (ordered : log.Pairwise (· ≤ ·)) :
    trim bound log = log.filter (bound ≤ ·) := by
  induction log with
  | nil => rfl
  | cons time later inductionHypothesis =>
      obtain ⟨first, rest⟩ := List.pairwise_cons.mp ordered
      unfold trim
      split
      next before =>
        rw [inductionHypothesis rest, List.filter_cons_of_neg]
        simpa using before
      next notBefore =>
        have all : ∀ other ∈ time :: later, decide (bound ≤ other) = true := by
          intro other member
          have reached := not_lt.mp notBefore
          rcases List.mem_cons.mp member with rfl | isLater
          · exact decide_eq_true reached
          · exact decide_eq_true (reached.trans (first other isLater))
        rw [List.filter_eq_self.mpr all]

/-- A window shows the part of a log in order that is not before a bound. -/
structure Shows
    (window log : List Time)
    (bound latest : Time) : Prop where
  window : window = log.filter (bound ≤ ·)
  ordered : log.Pairwise (· ≤ ·)
  upTo : ∀ time ∈ log, time ≤ latest

namespace Shows

variable {window log : List Time}
variable {bound latest : Time}

/-- The clock goes on. -/
theorem mono
    (shown : Shows window log bound latest)
    {now : Time}
    (later : latest ≤ now) :
    Shows window log bound now :=
  ⟨shown.window, shown.ordered,
    fun time member => (shown.upTo time member).trans later⟩

/-- A time that is appended is shown. -/
theorem push
    (shown : Shows window log bound latest)
    {now : Time}
    (later : latest ≤ now)
    (inWindow : bound ≤ now) :
    Shows (window ++ [now]) (log ++ [now]) bound now where
  window := by
    rw [List.filter_append, ← shown.window]
    simp [inWindow]
  ordered := by
    refine List.pairwise_append.mpr
      ⟨shown.ordered, List.pairwise_singleton _ _, ?_⟩
    intro time member other isNow
    rw [List.mem_singleton.mp isNow]
    exact (shown.upTo time member).trans later
  upTo time member := by
    rcases List.mem_append.mp member with before | isNow
    · exact (shown.upTo time before).trans later
    · exact (List.mem_singleton.mp isNow).le

/-- A window that is trimmed further shows the part from the later bound. -/
theorem trim
    (shown : Shows window log bound latest)
    {next : Time}
    (later : bound ≤ next) :
    Shows (SlidingWindows.trim next window) log next latest where
  window := by
    have ordered : window.Pairwise (· ≤ ·) := by
      rw [shown.window]
      exact shown.ordered.filter _
    rw [trim_eq_filter ordered, shown.window, List.filter_filter]
    refine List.filter_congr fun time _ => ?_
    rw [← Bool.decide_and]
    exact decide_eq_decide.mpr
      ⟨And.left, fun reached => ⟨reached, later.trans reached⟩⟩
  ordered := shown.ordered
  upTo := shown.upTo

end Shows

end SlidingWindows
