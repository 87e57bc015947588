import CloudflareParallel.Library.DrainBarriers
import CloudflareParallel.SchedulerJobStore

namespace CloudflareParallel

open LabelledRuns DrainBarriers

/-!
# `schedulerFake`

The in-process scheduler for tests runs a job as it is enqueued.  A `cancel`
overwrites whatever status the entry has, and so does the job's function when it
settles; both of them look at the barrier of `drain`.
-/

/-- An entry of `jobs`. -/
structure FakeEntry where
  id : String
  status : JobStatus
  value : Option JsValue := none
  error : Option RunOneResult := none
  /-- `settle` has been resolved. -/
  settled : Bool := false
  /-- The job's function has not settled. -/
  runs : Bool := true
  /-- The handle's `cancel` has been called. -/
  cancels : Bool := false

namespace FakeEntry

/-- The end of the run, as the `try` gives it; a clone that fails throws. -/
def settle
    (entry : FakeEntry) :
    Except Thrown JsValue → FakeEntry
  | .ok value =>
      { entry with
        status := .done
        value := some value
        settled := true
        runs := false }
  | .error err =>
      { entry with
        status := .failed
        error := some (errorToFailedResult err)
        settled := true
        runs := false }

/-- The handle's `cancel`. -/
def cancel (entry : FakeEntry) : FakeEntry :=
  { entry with status := .cancelled, settled := true, cancels := true }

/-- `e.status === 'queued' || e.status === 'running'`. -/
def isOpen (entry : FakeEntry) : Bool :=
  entry.status = .queued || entry.status = .running

/-- The status that `result` waits on. -/
def isAwaited (entry : FakeEntry) : Bool :=
  entry.status = .queued || entry.status = .running || entry.status = .leased

end FakeEntry

/-- The fake between two turns of the event loop. -/
structure SchedulerFake where
  jobs : List FakeEntry := []
  counter : Nat := 0

/-- What can happen to the fake. -/
inductive FakeEvent where
  /-- `enqueue`, with what the function throws before it gives a promise. -/
  | enqueue (throws : Option Thrown)
  /-- The function of a job settles. -/
  | settle (index : Nat) (outcome : Except Thrown JsValue)
  /-- The handle of a job is cancelled. -/
  | cancel (index : Nat)

/-- The counters that `stats` goes through the entries for. -/
structure FakeStats where
  queued : Nat := 0
  running : Nat := 0
  done : Nat := 0
  failed : Nat := 0
  cancelled : Nat := 0
  deriving DecidableEq

/-- One entry of `stats`. -/
def FakeStats.count
    (stats : FakeStats)
    (entry : FakeEntry) : FakeStats :=
  match entry.status with
  | .queued => { stats with queued := stats.queued + 1 }
  | .running | .leased => { stats with running := stats.running + 1 }
  | .done => { stats with done := stats.done + 1 }
  | .failed => { stats with failed := stats.failed + 1 }
  | .cancelled => { stats with cancelled := stats.cancelled + 1 }

namespace SchedulerFake

/-- `enqueue`. -/
def enqueue
    (fake : SchedulerFake)
    (throws : Option Thrown) : SchedulerFake :=
  let entry : FakeEntry := { id := s!"j-{fake.counter}", status := .running }
  let entry :=
    match throws with
    | none => entry
    | some err => entry.settle (.error err)
  { jobs := fake.jobs ++ [entry], counter := fake.counter + 1 }

/-- One turn of the event loop. -/
def step (fake : SchedulerFake) : FakeEvent → Option SchedulerFake
  | .enqueue throws => some (fake.enqueue throws)
  | .settle index outcome =>
      match fake.jobs[index]? with
      | none => none
      | some entry =>
          if entry.runs then
            some
              { fake with jobs := fake.jobs.set index (entry.settle outcome) }
          else
            none
  | .cancel index =>
      match fake.jobs[index]? with
      | none => none
      | some entry =>
          some { fake with jobs := fake.jobs.set index entry.cancel }

/-- `stats`. -/
def stats (fake : SchedulerFake) : FakeStats :=
  fake.jobs.foldl FakeStats.count {}

/-- The test of `drain` and `checkDrain`. -/
def isIdle (fake : SchedulerFake) : Bool :=
  !fake.jobs.any FakeEntry.isOpen

/-- Every job has settled or been cancelled. -/
def isAtRest (fake : SchedulerFake) : Bool :=
  fake.jobs.all fun entry => !entry.runs || entry.cancels

/-- The turns in which `checkDrain` is called. -/
def checks : FakeEvent → Bool
  | .enqueue throws => throws.isSome
  | .settle _ _ => true
  | .cancel _ => true

/-- The fake with the callers of its `drain`, by a number for each call. -/
def drainStep :
    SchedulerFake × Barrier Nat →
    BarrierEvent FakeEvent Nat →
    Option (SchedulerFake × Barrier Nat) :=
  stepWith step isIdle checks

/-- The calls of `drain`, each with whether the fake has been at rest since. -/
def observeDrains :
    SchedulerFake × Barrier Nat →
    BarrierEvent FakeEvent Nat →
    CallHistory Nat →
    CallHistory Nat :=
  observe step isAtRest

end SchedulerFake

/-! ## Entries -/

/-- What the status of an entry says about its run. -/
structure FakeEntry.Sound (entry : FakeEntry) : Prop where
  visible : entry.status ≠ .queued ∧ entry.status ≠ .leased
  running :
    entry.status = .running ↔ entry.runs = true ∧ entry.cancels = false
  settled : entry.settled = true ↔ entry.status ≠ .running
  done : entry.status = .done → entry.value.isSome
  failed : entry.status = .failed → entry.error.isSome

namespace FakeEntry

/-- The entry of a job that has been started. -/
theorem sound_running (id : String) :
    ({ id := id, status := .running } : FakeEntry).Sound where
  visible := ⟨nofun, nofun⟩
  running := ⟨fun _ => ⟨rfl, rfl⟩, fun _ => rfl⟩
  settled := ⟨nofun, fun other => absurd rfl other⟩
  done := nofun
  failed := nofun

/-- Whatever an entry was, it is sound when its function has settled. -/
theorem sound_settle
    (entry : FakeEntry)
    (outcome : Except Thrown JsValue) :
    (entry.settle outcome).Sound := by
  cases outcome with
  | ok value =>
      exact {
        visible := ⟨nofun, nofun⟩
        running := ⟨nofun, fun runs => nomatch runs.1⟩
        settled := ⟨fun _ => nofun, fun _ => rfl⟩
        done := fun _ => rfl
        failed := nofun
      }
  | error err =>
      exact {
        visible := ⟨nofun, nofun⟩
        running := ⟨nofun, fun runs => nomatch runs.1⟩
        settled := ⟨fun _ => nofun, fun _ => rfl⟩
        done := nofun
        failed := fun _ => rfl
      }

/-- Whatever an entry was, it is sound when it has been cancelled. -/
theorem sound_cancel (entry : FakeEntry) : entry.cancel.Sound where
  visible := ⟨nofun, nofun⟩
  running := ⟨nofun, fun runs => nomatch runs.2⟩
  settled := ⟨fun _ => nofun, fun _ => rfl⟩
  done := nofun
  failed := nofun

/-- An entry is open while its function runs and it is not cancelled. -/
theorem Sound.isOpen_eq
    {entry : FakeEntry}
    (sound : entry.Sound) :
    entry.isOpen = (entry.runs && !entry.cancels) := by
  rw [Bool.eq_iff_iff, isOpen, Bool.or_eq_true, decide_eq_true_eq,
    decide_eq_true_eq, Bool.and_eq_true, Bool.not_eq_true', ← sound.running]
  exact ⟨fun status => status.resolve_left sound.visible.1, .inr⟩

/-- A call of `result` waits exactly while the entry is open. -/
theorem Sound.isAwaited_eq
    {entry : FakeEntry}
    (sound : entry.Sound) :
    entry.isAwaited = !entry.settled := by
  rw [Bool.eq_iff_iff, isAwaited, Bool.or_eq_true, Bool.or_eq_true,
    decide_eq_true_eq, decide_eq_true_eq, decide_eq_true_eq, Bool.not_eq_true',
    ← Bool.not_eq_true, sound.settled, not_not]
  constructor
  · rintro ((queued | running) | leased)
    · exact absurd queued sound.visible.1
    · exact running
    · exact absurd leased sound.visible.2
  · exact fun running => .inl (.inr running)

end FakeEntry

/-! ## Runs of the fake -/

namespace SchedulerFake

/-- Every entry is sound, and the counter counts them. -/
structure Sound (fake : SchedulerFake) : Prop where
  entries : ∀ entry ∈ fake.jobs, entry.Sound
  counter : fake.counter = fake.jobs.length

theorem sound_initial : ({} : SchedulerFake).Sound where
  entries _ member := by cases member
  counter := rfl

/-- A turn of the event loop keeps the entries sound. -/
theorem sound_step
    {fake next : SchedulerFake}
    {event : FakeEvent}
    (stepped : fake.step event = some next)
    (sound : fake.Sound) :
    next.Sound := by
  have replaced
      {index : Nat}
      {entry : FakeEntry}
      (isSound : entry.Sound) :
      Sound { fake with jobs := fake.jobs.set index entry } := by
    refine ⟨fun other member => ?_, by simp [sound.counter]⟩
    rcases List.mem_or_eq_of_mem_set member with before | rfl
    · exact sound.entries other before
    · exact isSound
  cases event with
  | enqueue throws =>
      cases stepped
      refine ⟨fun entry member => ?_, by simp [enqueue, sound.counter]⟩
      rcases List.mem_append.mp member with before | isNew
      · exact sound.entries entry before
      · rw [List.mem_singleton.mp isNew]
        cases throws with
        | none => exact FakeEntry.sound_running _
        | some err => exact FakeEntry.sound_settle _ _
  | settle index outcome =>
      unfold step at stepped
      dsimp only at stepped
      split at stepped
      next => cases stepped
      next entry found =>
        split at stepped
        next =>
          cases stepped
          exact replaced (entry.sound_settle outcome)
        next => cases stepped
  | cancel index =>
      unfold step at stepped
      dsimp only at stepped
      split at stepped
      next => cases stepped
      next entry found =>
        cases stepped
        exact replaced entry.sound_cancel

/-- The test of `drain` tells whether the fake is at rest. -/
theorem isIdle_eq
    {fake : SchedulerFake}
    (sound : fake.Sound) :
    fake.isIdle = fake.isAtRest := by
  rw [isIdle, isAtRest, List.not_any_eq_all_not, Bool.eq_iff_iff,
    List.all_eq_true, List.all_eq_true]
  refine forall₂_congr fun entry member => ?_
  rw [(sound.entries entry member).isOpen_eq, Bool.not_and, Bool.not_not]

/-- A job that is enqueued does not bring the fake to rest. -/
theorem checks_of_wakes
    {fake next : SchedulerFake}
    {event : FakeEvent}
    (stepped : fake.step event = some next)
    (busy : fake.isAtRest = false)
    (atRest : next.isAtRest = true) :
    checks event = true := by
  cases event with
  | settle | cancel => rfl
  | enqueue throws =>
      cases stepped
      unfold isAtRest enqueue at *
      rw [List.all_append, Bool.and_eq_true] at atRest
      rw [atRest.1] at busy
      cases busy

/-- Every entry is counted once. -/
theorem total_stats (fake : SchedulerFake) :
    fake.stats.queued + fake.stats.running + fake.stats.done +
        fake.stats.failed + fake.stats.cancelled =
      fake.jobs.length := by
  have counted
      (entries : List FakeEntry)
      (stats : FakeStats) :
      (entries.foldl FakeStats.count stats).queued +
            (entries.foldl FakeStats.count stats).running +
            (entries.foldl FakeStats.count stats).done +
            (entries.foldl FakeStats.count stats).failed +
            (entries.foldl FakeStats.count stats).cancelled =
        stats.queued + stats.running + stats.done + stats.failed +
          stats.cancelled + entries.length := by
    induction entries generalizing stats with
    | nil => rfl
    | cons entry rest inductionHypothesis =>
        rw [List.foldl_cons, inductionHypothesis, List.length_cons]
        unfold FakeStats.count
        split <;> dsimp only <;> omega
  simpa [stats] using counted fake.jobs {}

/-- The open entries are those that `stats` counts as running. -/
theorem running_stats
    {fake : SchedulerFake}
    (sound : fake.Sound) :
    fake.stats.queued = 0 ∧
      fake.stats.running =
        fake.jobs.countP fun entry => entry.runs && !entry.cancels := by
  have counted
      (entries : List FakeEntry)
      (stats : FakeStats)
      (isSound : ∀ entry ∈ entries, entry.Sound) :
      (entries.foldl FakeStats.count stats).queued = stats.queued ∧
        (entries.foldl FakeStats.count stats).running =
          stats.running +
            entries.countP fun entry => entry.runs && !entry.cancels := by
    induction entries generalizing stats with
    | nil => exact ⟨rfl, rfl⟩
    | cons entry rest inductionHypothesis =>
        obtain ⟨first, others⟩ := List.forall_mem_cons.mp isSound
        obtain ⟨queued, running⟩ :=
          inductionHypothesis (stats.count entry) others
        rw [List.foldl_cons, queued, running, List.countP_cons,
          ← first.isOpen_eq]
        have visible := first.visible
        unfold FakeStats.count FakeEntry.isOpen
        split
        next status => exact absurd status visible.1
        next status => simp [status]; omega
        next status => exact absurd status visible.2
        all_goals simp [*]
  simpa [stats] using counted fake.jobs {} sound.entries

/--
In every run of the fake, a call of `drain` has resolved exactly if at some
moment since the call each job had settled or been cancelled; the counters of
`stats` add up to the jobs enqueued, and a job counts as running exactly while
its function has not settled and it has not been cancelled; and a call of
`result` waits only on a `settle` that is still to be resolved.
-/
theorem schedulerFake_drains
    {events : List (BarrierEvent FakeEvent Nat)}
    {final : SchedulerFake}
    {barrier : Barrier Nat}
    {history : CallHistory Nat}
    (run :
      Run (recording drainStep observeDrains) (({}, {}), []) events
        ((final, barrier), history)) :
    barrier.released.Perm (history.callers true) ∧
      barrier.waiting.getD [] = history.callers false ∧
        final.stats.queued = 0 ∧
          final.stats.running =
            final.jobs.countP (fun entry => entry.runs && !entry.cancels) ∧
            final.stats.running + final.stats.done + final.stats.failed +
                  final.stats.cancelled =
                final.counter ∧
              ∀ entry ∈ final.jobs, entry.isAwaited = !entry.settled := by
  have served : final.Sound ∧ Serves isAtRest final barrier history :=
    @serves_of_run _ _ _ step isIdle isAtRest checks history Sound
      sound_step isIdle_eq (fun stepped _ => checks_of_wakes stepped)
      _ _ _ _ sound_initial run
  obtain ⟨sound, serves⟩ := served
  obtain ⟨queued, running⟩ := running_stats sound
  refine ⟨serves.released, serves.waiting, queued, running, ?_,
    fun entry member => (sound.entries entry member).isAwaited_eq⟩
  have total := final.total_stats
  rw [queued] at total
  rw [sound.counter]
  omega

/-- Two jobs, one of which is cancelled before the other settles. -/
def drainsBoth : List (BarrierEvent FakeEvent Nat) :=
  [ .work (.enqueue none),
    .work (.enqueue none),
    .drain 0,
    .work (.cancel 0),
    .work (.settle 1 (.ok .null)),
    .work (.settle 0 (.ok .null)) ]

/-- The call has resolved, and the job that was cancelled is done. -/
theorem schedulerFake_drains_drainsBoth :
    ∃ (final : SchedulerFake) (history : CallHistory Nat),
      Run (recording drainStep observeDrains) (({}, {}), []) drainsBoth
          ((final, { released := [0] }), history) ∧
        history = [(0, true)] ∧
          final.jobs.map (·.status) = [.done, .done] ∧
            [0].Perm (history.callers true) := by
  have run :
      Run (recording drainStep observeDrains) (({}, {}), []) drainsBoth
        (({ jobs :=
              [ { id := "j-0", status := .done, value := some .null,
                  settled := true, runs := false, cancels := true },
                { id := "j-1", status := .done, value := some .null,
                  settled := true, runs := false } ]
            counter := 2 },
            { released := [0] }), [(0, true)]) :=
    .of_foldlM rfl
  exact ⟨_, _, run, rfl, rfl, (schedulerFake_drains run).1⟩

end SchedulerFake

end CloudflareParallel
