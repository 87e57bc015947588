import CloudflareParallel.FanOutLaws
import CloudflareParallel.Library.Interleavings

namespace CloudflareParallel

open Interleavings

/-!
# When the jobs of a fan-out are executed

The log of a run says what was done and not when.  A coordinator starts all its
calls in one turn and awaits them together, so the calls of one log run side by
side; a call is made again when its last attempt is over.  A target whose answer
was lost goes on beside the next attempt.  Each job has a leaf of its own, whose
semaphore lets it start at once.
-/

/-- An execution of the job of a slot begins, or ends. -/
inductive ExecutionEvent where
  | begins (slot : Option TaskSlot)
  | ends (slot : Option TaskSlot)
  deriving Repr, DecidableEq

/-- The event is a beginning. -/
def ExecutionEvent.isBeginning : ExecutionEvent → Bool
  | .begins _ => true
  | .ends _ => false

/-- How many of the first jobs have an execution that goes on. -/
def executing (jobs : Nat) (events : List ExecutionEvent) : Nat :=
  (List.range jobs).countP fun slot =>
    events.count (.ends (some (.index slot))) <
      events.count (.begins (some (.index slot)))

/-- No more jobs are executed at a time than there are. -/
theorem executing_le
    (jobs : Nat)
    (events : List ExecutionEvent) :
    executing jobs events ≤ jobs :=
  List.countP_le_length.trans (Nat.le_of_eq List.length_range)

/-- Before anything has begun nothing is executed. -/
theorem executing_nil (jobs : Nat) : executing jobs [] = 0 :=
  List.countP_eq_zero.mpr fun slot _ => by simp

/-- While no job has ended, all that have begun are executed. -/
theorem executing_eq_of_begun
    {jobs : Nat}
    {events : List ExecutionEvent}
    (beginnings : ∀ event ∈ events, event.isBeginning = true)
    (begun :
      ∀ slot, slot < jobs → .begins (some (.index slot)) ∈ events) :
    executing jobs events = jobs := by
  have all :
      executing jobs events = (List.range jobs).length := by
    refine List.countP_eq_length.mpr fun slot member => ?_
    have noEnd : events.count (.ends (some (.index slot))) = 0 := by
      refine List.count_eq_zero.mpr fun ended => ?_
      cases beginnings _ ended
    have someBeginning :=
      List.count_pos_iff.mpr (begun slot (List.mem_range.mp member))
    rw [decide_eq_true_eq, noEnd]
    exact someBeginning
  rw [all, List.length_range]

mutual

/-- The events of one entry of a log, in an order they may happen in. -/
inductive EntrySchedule
    (platform : Platform) : Activity → List ExecutionEvent → Prop where
  | execute (path : Path) (call : RunnerCall) :
      EntrySchedule platform (.execute path call)
        [.begins call.input.taskSlot, .ends call.input.taskSlot]
  | runBatch {leafName : String}
      {attempts : List (Attempt RunBatchRequest Activity)}
      {events : List ExecutionEvent} :
      AttemptsSchedule platform
        (attempts.map fun attempt => (attempt.path, attempt.reached))
        events →
      EntrySchedule platform (.runBatch leafName attempts) events
  | dispatch {subName : String}
      {attempts : List (Attempt DispatchTreeRequest Activity)}
      {events : List ExecutionEvent} :
      AttemptsSchedule platform
        (attempts.map fun attempt => (attempt.path, attempt.reached))
        events →
      EntrySchedule platform (.dispatch subName attempts) events

/-- The events of the attempts of one call. -/
inductive AttemptsSchedule
    (platform : Platform) :
    List (Path × Option (List Activity)) → List ExecutionEvent → Prop where
  | nil : AttemptsSchedule platform [] []
  | lost {path : Path}
      {rest : List (Path × Option (List Activity))}
      {events : List ExecutionEvent} :
      AttemptsSchedule platform rest events →
      AttemptsSchedule platform ((path, none) :: rest) events
  | answered {path : Path} {inner : List Activity}
      {rest : List (Path × Option (List Activity))}
      {events later : List ExecutionEvent} :
      platform.transport path = .delivered →
      LogSchedule platform inner events →
      AttemptsSchedule platform rest later →
      AttemptsSchedule platform ((path, some inner) :: rest)
        (events ++ later)
  | answerLost {path : Path} {inner : List Activity}
      {rest : List (Path × Option (List Activity))}
      {err : Thrown}
      {events others all : List ExecutionEvent} :
      platform.transport path = .answerLost err →
      LogSchedule platform inner events →
      AttemptsSchedule platform rest others →
      Beside events others all →
      AttemptsSchedule platform ((path, some inner) :: rest) all

/-- The events of a log, whose entries run side by side. -/
inductive LogSchedule
    (platform : Platform) : List Activity → List ExecutionEvent → Prop where
  | nil : LogSchedule platform [] []
  | cons {entry : Activity} {rest : List Activity}
      {events others all : List ExecutionEvent} :
      EntrySchedule platform entry events →
      LogSchedule platform rest others →
      Beside events others all →
      LogSchedule platform (entry :: rest) all

end

section Schedules

variable {platform : Platform}

/-- An entry alone. -/
theorem LogSchedule.single
    {entry : Activity}
    {events : List ExecutionEvent}
    (schedule : EntrySchedule platform entry events) :
    LogSchedule platform [entry] events :=
  .cons schedule .nil (.alone events)

/-- Two logs side by side are one. -/
theorem LogSchedule.append
    {first second : List Activity}
    {events others all : List ExecutionEvent}
    (schedule : LogSchedule platform first events)
    (other : LogSchedule platform second others)
    (beside : Beside events others all) :
    LogSchedule platform (first ++ second) all := by
  induction first generalizing events all with
  | nil =>
      cases schedule
      exact beside.eq_of_nil ▸ other
  | cons entry rest inductionHypothesis =>
      cases schedule with
      | cons ofEntry ofRest inner =>
          obtain ⟨later, besideLater, whole⟩ := inner.assoc beside
          exact .cons ofEntry (inductionHypothesis ofRest besideLater) whole

/-- At one moment of a run every job of a part is executed. -/
def AllAtOnce
    (platform : Platform)
    (base size : Nat)
    (log : List Activity) : Prop :=
  ∃ started later,
    LogSchedule platform log (started ++ later) ∧
      (∀ event ∈ started, event.isBeginning = true) ∧
      ∀ slot,
        base ≤ slot →
        slot < base + size →
        .begins (some (.index slot)) ∈ started

/-- Nothing done is at once what no jobs need. -/
theorem allAtOnce_nil (base : Nat) : AllAtOnce platform base 0 [] := by
  refine
    ⟨[], [], .nil, fun event member => ?_, fun slot notBefore before => ?_⟩
  · cases member
  · omega

/-- Two parts start together and end together. -/
theorem AllAtOnce.append
    {base size rest : Nat}
    {first second : List Activity}
    (head : AllAtOnce platform base size first)
    (tail : AllAtOnce platform (base + size) rest second) :
    AllAtOnce platform base (size + rest) (first ++ second) := by
  obtain ⟨started, later, schedule, beginnings, begun⟩ := head
  obtain ⟨others, othersLater, otherSchedule, otherBeginnings, otherBegun⟩ :=
    tail
  refine
    ⟨started ++ others, later ++ othersLater,
      schedule.append otherSchedule (.phases started later others othersLater),
      fun event member => ?_, fun slot notBefore before => ?_⟩
  · rcases List.mem_append.mp member with inFirst | inSecond
    · exact beginnings event inFirst
    · exact otherBeginnings event inSecond
  · by_cases inHead : slot < base + size
    · exact List.mem_append_left _ (begun slot notBefore inHead)
    · exact
        List.mem_append_right _ (otherBegun slot (by omega) (by omega))

/-- The execution of the job of a slot. -/
theorem allAtOnce_execute
    {path : Path}
    {call : RunnerCall}
    {slot : Nat}
    (ofSlot : call.input.taskSlot = some (.index slot)) :
    AllAtOnce platform slot 1 [.execute path call] := by
  refine
    ⟨[.begins call.input.taskSlot], [.ends call.input.taskSlot],
      .single (.execute path call), fun event member => ?_,
      fun other notBefore before => ?_⟩
  · rw [List.mem_singleton.mp member]
    rfl
  · have same : other = slot := by omega
    rw [ofSlot, same]
    exact List.mem_singleton.mpr rfl

/--
The attempts of a call that always arrives: while its target works on the first
of them, all its jobs are executed; by induction on the retries left.
-/
theorem allAtOnce_retried
    (reliable : platform.Reliable)
    {Request : Type}
    {base size : Nat}
    {path : Nat → Path}
    {request : Nat → Request}
    {run : Nat → Dispatched}
    (each : ∀ made, AllAtOnce platform base size (run made).activity)
    (remaining attempt : Nat) :
    ∃ started later,
      AttemptsSchedule platform
          ((retryTransient
            (fun made => platform.call (path made) (request made) (run made))
            remaining attempt).2.map fun record =>
              (record.path, record.reached))
          (started ++ later) ∧
        (∀ event ∈ started, event.isBeginning = true) ∧
        ∀ slot,
          base ≤ slot →
          slot < base + size →
          .begins (some (.index slot)) ∈ started := by
  have delivered (made : Nat) : platform.transport (path made) = .delivered :=
    reliable (path made)
  have record (made : Nat) :
      ((platform.call (path made) (request made) (run made)).2.path,
        (platform.call (path made) (request made) (run made)).2.reached) =
        (path made, some (run made).activity) := by
    rw [platform.call_path, platform.call_delivered _ _ _ (delivered made)]
  obtain ⟨started, later, schedule, beginnings, begun⟩ := each attempt
  induction remaining generalizing attempt started later with
  | zero =>
      refine ⟨started, later ++ [], ?_, beginnings, begun⟩
      rw [← List.append_assoc]
      simp only [retryTransient, List.map_cons, List.map_nil, record]
      exact .answered (delivered attempt) schedule .nil
  | succ remaining inductionHypothesis =>
      unfold retryTransient
      split
      next =>
        obtain ⟨next, nextLater, nextSchedule, nextBeginnings, nextBegun⟩ :=
          each (attempt + 1)
        obtain ⟨others, othersLater, rest, -, -⟩ :=
          inductionHypothesis (attempt + 1) next nextLater nextSchedule
            nextBeginnings nextBegun
        refine
          ⟨started, later ++ (others ++ othersLater), ?_, beginnings, begun⟩
        rw [← List.append_assoc]
        simp only [List.map_cons, record]
        exact .answered (delivered attempt) schedule rest
      next =>
        refine ⟨started, later ++ [], ?_, beginnings, begun⟩
        rw [← List.append_assoc]
        simp only [List.map_cons, List.map_nil, record]
        exact .answered (delivered attempt) schedule .nil

/-- On a reliable platform all jobs of a fan-out are executed at once. -/
theorem tierLaw_allAtOnce
    (reliable : platform.Reliable) :
    TierLaw platform fun _ => AllAtOnce platform where
  parts _ :=
    { nil := allAtOnce_nil
      append := AllAtOnce.append }
  inDo _ _ _ := allAtOnce_execute rfl
  leafCall path leafName buildBatch stream slot args sameBase sameJobs := by
    have atLeaf :
        ∀ hop env sent,
          AllAtOnce platform slot 1
            (runBatchOnEnv platform hop env (buildBatch sent)).activity := by
      intro hop env sent
      rw [runBatchOnEnv_single (sameJobs sent)]
      refine allAtOnce_execute ?_
      rw [leafRunnerCall, sameBase]
      rfl
    obtain ⟨started, later, schedule, beginnings, begun⟩ :=
      allAtOnce_retried reliable (fun _ => atLeaf _ _ _) MAX_TRANSIENT_RETRIES 0
    exact ⟨started, later, .single (.runBatch schedule), beginnings, begun⟩
  dispatch tier base jobs subName path request run _ _ _ each := by
    obtain ⟨started, later, schedule, beginnings, begun⟩ :=
      allAtOnce_retried reliable each MAX_TRANSIENT_RETRIES 0
    exact ⟨started, later, .single (.dispatch schedule), beginnings, begun⟩

end Schedules

end CloudflareParallel
