import CloudflareParallel.JsNumerics
import CloudflareParallel.Library.LabelledRuns
import Mathlib.Data.Rat.Floor

namespace CloudflareParallel

open LabelledRuns

/-!
# The loader semaphore

A call of `run` acquires without interruption, goes on in a later turn and calls
its task, and releases in the turn after the task has settled.  A permit that is
released is handed to the first waiter, which goes on later; so between two
steps there are calls that hold a permit and do not run yet.
-/

/-- `LoaderSemaphore`; a waiter is the call that its promise belongs to. -/
structure LoaderSemaphore where
  cap : Int
  inFlight : Int := 0
  waiters : List Nat := []
  deriving Repr, DecidableEq

namespace LoaderSemaphore

/-- The constructor, with the message of its `RangeError`. -/
def new
    (numerics : JsNumerics)
    (cap : JsDouble) : Except String LoaderSemaphore :=
  match cap with
  | .finite value =>
      if value < 1 then
        .error s!"LoaderSemaphore cap must be >= 1, got {numerics.textOf cap}"
      else
        .ok { cap := ⌊value⌋ }
  | _ =>
      .error s!"LoaderSemaphore cap must be >= 1, got {numerics.textOf cap}"

/-- `queueDepth`. -/
def queueDepth (sem : LoaderSemaphore) : Nat :=
  sem.waiters.length

/-- `#acquire` of a call: whether its promise is resolved at once. -/
def acquire
    (sem : LoaderSemaphore)
    (call : Nat) : LoaderSemaphore × Bool :=
  if sem.inFlight < sem.cap then
    ({ sem with inFlight := sem.inFlight + 1 }, true)
  else
    ({ sem with waiters := sem.waiters ++ [call] }, false)

/-- `#release`, and the waiter whose promise it resolves. -/
def release (sem : LoaderSemaphore) : LoaderSemaphore × Option Nat :=
  match sem.waiters with
  | next :: rest => ({ sem with waiters := rest }, some next)
  | [] => ({ sem with inFlight := sem.inFlight - 1 }, none)

end LoaderSemaphore

/--
The calls of `run` on a semaphore: those whose `#acquire` is resolved and that
have not gone on, those whose task runs, and in order all that were admitted and
all that have released.
-/
structure SemaphoreCalls where
  sem : LoaderSemaphore
  arrived : Nat := 0
  resumable : List Nat := []
  running : List Nat := []
  admissions : List Nat := []
  releases : List Nat := []
  deriving Repr, DecidableEq

/-- What happens next to a call of `run`. -/
inductive SemaphoreStep where
  /-- `run` is called. -/
  | arrives
  /-- It goes on behind `await this.#acquire()`, and the task gives a promise. -/
  | resumes (call : Nat)
  /-- It goes on, and the task throws at once. -/
  | throws (call : Nat)
  /-- The promise of the task is fulfilled or rejected. -/
  | settles (call : Nat)
  deriving DecidableEq

namespace SemaphoreCalls

/-- The calls that hold a permit. -/
def holders (calls : SemaphoreCalls) : List Nat :=
  calls.resumable ++ calls.running

/-- `run`, up to its first `await`. -/
def arrive (calls : SemaphoreCalls) : SemaphoreCalls :=
  let call := calls.arrived
  let acquired := calls.sem.acquire call
  if acquired.2 then
    { calls with
      sem := acquired.1
      arrived := call + 1
      resumable := calls.resumable ++ [call]
      admissions := calls.admissions ++ [call] }
  else
    { calls with
      sem := acquired.1
      arrived := call + 1 }

/-- The `finally` of a call. -/
def finish
    (calls : SemaphoreCalls)
    (call : Nat) : SemaphoreCalls :=
  let released := calls.sem.release
  { calls with
    sem := released.1
    resumable := calls.resumable ++ released.2.toList
    admissions := calls.admissions ++ released.2.toList
    releases := calls.releases ++ [call] }

/-- The step function of the calls. -/
def step
    (calls : SemaphoreCalls) :
    SemaphoreStep → Option SemaphoreCalls
  | .arrives => some calls.arrive
  | .resumes call =>
      if call ∈ calls.resumable then
        some
          { calls with
            resumable := calls.resumable.erase call
            running := calls.running ++ [call] }
      else
        none
  | .throws call =>
      if call ∈ calls.resumable then
        some
          (finish { calls with resumable := calls.resumable.erase call } call)
      else
        none
  | .settles call =>
      if call ∈ calls.running then
        some (finish { calls with running := calls.running.erase call } call)
      else
        none

/-! ## The invariant -/

/--
What holds between any two steps, with the calls that are taken out of their
list and hold their permit yet.
-/
structure FairWith
    (leaving : List Nat)
    (calls : SemaphoreCalls) : Prop where
  inFlight : calls.sem.inFlight = (leaving ++ calls.holders).length
  withinCap : calls.sem.inFlight ≤ calls.sem.cap
  full : calls.sem.waiters ≠ [] → calls.sem.inFlight = calls.sem.cap
  inOrder :
    calls.admissions ++ calls.sem.waiters = List.range calls.arrived
  once :
    (leaving ++ calls.holders ++ calls.releases).Perm calls.admissions

/-- The invariant holds of a new semaphore. -/
theorem fair_new
    {sem : LoaderSemaphore}
    (capPositive : 0 ≤ sem.cap)
    (unused : sem.inFlight = 0)
    (noWaiter : sem.waiters = []) :
    FairWith [] { sem := sem } where
  inFlight := unused
  withinCap := unused ▸ capPositive
  full waiting := absurd noWaiter waiting
  inOrder := noWaiter
  once := .refl []

/-- A call that arrives holds a permit or waits behind the others. -/
theorem FairWith.arrive
    {calls : SemaphoreCalls}
    (fair : FairWith [] calls) :
    FairWith [] calls.arrive := by
  unfold SemaphoreCalls.arrive LoaderSemaphore.acquire
  by_cases free : calls.sem.inFlight < calls.sem.cap
  · have noWaiter : calls.sem.waiters = [] := by
      by_contra waiting
      have atCap := fair.full waiting
      omega
    have order := fair.inOrder
    rw [noWaiter, List.append_nil] at order
    have held := fair.inFlight
    simp only [List.nil_append] at held
    simp only [free, ↓reduceIte]
    refine
      { inFlight := ?_
        withinCap := ?_
        full := fun waiting => absurd noWaiter waiting
        inOrder := ?_
        once := ?_ }
    · simp only [holders, List.nil_append, List.length_append,
        List.length_singleton] at held ⊢
      omega
    · simp only
      omega
    · simp only [noWaiter, List.append_nil, order, List.range_succ]
    · have before := fair.once
      simp only [holders, List.nil_append, List.append_assoc] at before ⊢
      exact
        (List.perm_middle.trans (before.cons calls.arrived)).trans
          (List.perm_append_singleton _ _).symm
  · have order := fair.inOrder
    have atCap : calls.sem.inFlight = calls.sem.cap :=
      Int.le_antisymm fair.withinCap (Int.not_lt.mp free)
    simp only [free, ↓reduceIte, Bool.false_eq_true]
    refine
      { inFlight := fair.inFlight
        withinCap := fair.withinCap
        full := fun _ => atCap
        inOrder := ?_
        once := fair.once }
    simp only [← List.append_assoc, order, List.range_succ]

/-- A call that goes on leaves the list it was in. -/
theorem FairWith.leaves_resumable
    {calls : SemaphoreCalls}
    {call : Nat}
    (fair : FairWith [] calls)
    (member : call ∈ calls.resumable) :
    FairWith [call]
      { calls with resumable := calls.resumable.erase call } := by
  have moved :
      (call :: (calls.resumable.erase call ++ calls.running)).Perm
        (calls.resumable ++ calls.running) :=
    (List.perm_cons_erase member).symm.append_right calls.running
  refine
    { inFlight := ?_
      withinCap := fair.withinCap
      full := fair.full
      inOrder := fair.inOrder
      once := ?_ }
  · exact fair.inFlight.trans (congrArg Nat.cast moved.length_eq.symm)
  · exact (moved.append_right calls.releases).trans fair.once

/-- A call whose task has settled leaves the list it was in. -/
theorem FairWith.leaves_running
    {calls : SemaphoreCalls}
    {call : Nat}
    (fair : FairWith [] calls)
    (member : call ∈ calls.running) :
    FairWith [call]
      { calls with running := calls.running.erase call } := by
  have moved :
      (call :: (calls.resumable ++ calls.running.erase call)).Perm
        (calls.resumable ++ calls.running) :=
    List.perm_middle.symm.trans
      ((List.perm_cons_erase member).symm.append_left calls.resumable)
  refine
    { inFlight := ?_
      withinCap := fair.withinCap
      full := fair.full
      inOrder := fair.inOrder
      once := ?_ }
  · exact fair.inFlight.trans (congrArg Nat.cast moved.length_eq.symm)
  · exact (moved.append_right calls.releases).trans fair.once

/-- A call that goes on with its task runs. -/
theorem FairWith.runs
    {calls : SemaphoreCalls}
    {call : Nat}
    (fair : FairWith [call] calls) :
    FairWith [] { calls with running := calls.running ++ [call] } := by
  have moved :
      (calls.resumable ++ (calls.running ++ [call])).Perm
        (call :: (calls.resumable ++ calls.running)) := by
    rw [← List.append_assoc]
    exact List.perm_append_singleton _ _
  refine
    { inFlight := ?_
      withinCap := fair.withinCap
      full := fair.full
      inOrder := fair.inOrder
      once := ?_ }
  · exact fair.inFlight.trans (congrArg Nat.cast moved.length_eq.symm)
  · exact (moved.append_right calls.releases).trans fair.once

/-- A call that releases hands its permit on, or gives it back. -/
theorem FairWith.finish
    {calls : SemaphoreCalls}
    {call : Nat}
    (fair : FairWith [call] calls) :
    FairWith [] (calls.finish call) := by
  have held := fair.inFlight
  have once := fair.once
  simp only [holders, List.length_cons, List.length_append,
    List.cons_append, List.nil_append, List.append_assoc] at held once
  unfold SemaphoreCalls.finish LoaderSemaphore.release
  cases waiting : calls.sem.waiters with
  | nil =>
      have order := fair.inOrder
      rw [waiting] at order
      refine
        { inFlight := ?_
          withinCap := ?_
          full := fun some => absurd rfl some
          inOrder := ?_
          once := ?_ }
      · simp only [holders, Option.toList_none, List.append_nil,
          List.nil_append, List.length_append]
        omega
      · have within := fair.withinCap
        simp only
        omega
      · simpa [waiting] using order
      · simp only [holders, Option.toList_none, List.append_nil,
          List.nil_append, List.append_assoc]
        refine List.Perm.trans ?_ once
        simp only [← List.append_assoc]
        exact List.perm_append_singleton _ _
  | cons next rest =>
      have order := fair.inOrder
      rw [waiting] at order
      have atCap : calls.sem.inFlight = calls.sem.cap :=
        fair.full (by simp [waiting])
      refine
        { inFlight := ?_
          withinCap := fair.withinCap
          full := fun _ => atCap
          inOrder := ?_
          once := ?_ }
      · simp only [holders, Option.toList_some, List.nil_append,
          List.length_append, List.length_singleton]
        omega
      · simpa using order
      · simp only [holders, Option.toList_some, List.nil_append,
          List.append_assoc, List.singleton_append]
        have handed :
            (calls.resumable ++
                  next :: (calls.running ++ (calls.releases ++ [call]))).Perm
              (next :: call ::
                (calls.resumable ++ (calls.running ++ calls.releases))) := by
          refine List.perm_middle.trans (List.Perm.cons next ?_)
          simp only [← List.append_assoc]
          exact List.perm_append_singleton _ _
        exact
          handed.trans
            ((once.cons next).trans
              (List.perm_append_singleton _ _).symm)

/-- Every step keeps the invariant. -/
theorem fair_of_step
    {calls next : SemaphoreCalls}
    {label : SemaphoreStep}
    (stepped : calls.step label = some next)
    (fair : FairWith [] calls) :
    FairWith [] next := by
  cases label with
  | arrives =>
      cases stepped
      exact fair.arrive
  | resumes call =>
      simp only [step] at stepped
      split at stepped
      next member =>
        cases stepped
        exact (fair.leaves_resumable member).runs
      next => cases stepped
  | throws call =>
      simp only [step] at stepped
      split at stepped
      next member =>
        cases stepped
        exact (fair.leaves_resumable member).finish
      next => cases stepped
  | settles call =>
      simp only [step] at stepped
      split at stepped
      next member =>
        cases stepped
        exact (fair.leaves_running member).finish
      next => cases stepped

/-- The invariant holds in every run from a new semaphore. -/
theorem fair_of_run
    {start calls : SemaphoreCalls}
    {steps : List SemaphoreStep}
    (ran : Run step start steps calls)
    (fair : FairWith [] start) :
    FairWith [] calls :=
  ran.invariant (fun _ stepped before => fair_of_step stepped before) fair

/-- A step brings a call along or none. -/
theorem arrived_of_step
    {calls next : SemaphoreCalls}
    {label : SemaphoreStep}
    (stepped : calls.step label = some next) :
    next.arrived = calls.arrived + [label].count .arrives := by
  have finishKeeps (calls : SemaphoreCalls) (call : Nat) :
      (calls.finish call).arrived = calls.arrived := by
    unfold SemaphoreCalls.finish LoaderSemaphore.release
    split <;> rfl
  cases label with
  | arrives =>
      cases stepped
      unfold arrive
      dsimp only
      split <;> rfl
  | resumes call =>
      simp only [step] at stepped
      split at stepped
      · cases stepped
        rfl
      · cases stepped
  | throws call | settles call =>
      simp only [step] at stepped
      split at stepped
      · cases stepped
        exact finishKeeps _ call
      · cases stepped

/-- The calls are those of the steps. -/
theorem arrived_of_run
    {start calls : SemaphoreCalls}
    {steps : List SemaphoreStep}
    (ran : Run step start steps calls) :
    calls.arrived = start.arrived + steps.count .arrives := by
  induction ran with
  | nil => rfl
  | @cons _ next _ label rest _ stepped _ inductionHypothesis =>
      rw [inductionHypothesis, arrived_of_step stepped, Nat.add_assoc,
        ← List.count_append, List.singleton_append]

/-- The cap stays what it is. -/
theorem cap_of_run
    {start calls : SemaphoreCalls}
    {steps : List SemaphoreStep}
    (ran : Run step start steps calls) :
    calls.sem.cap = start.sem.cap := by
  have finishKeeps :
      ∀ (calls : SemaphoreCalls) (call : Nat),
        (calls.finish call).sem.cap = calls.sem.cap := by
    intro calls call
    unfold SemaphoreCalls.finish LoaderSemaphore.release
    split <;> rfl
  refine
    @GuardedRun.invariant _ _ _ _
      (fun reached => reached.sem.cap = start.sem.cap) ?_ _ _ _ ran rfl
  intro calls label next _ stepped same
  cases label with
  | arrives =>
      cases stepped
      unfold arrive LoaderSemaphore.acquire
      split <;> exact same
  | resumes call =>
      simp only [step] at stepped
      split at stepped
      · cases stepped
        exact same
      · cases stepped
  | throws call =>
      simp only [step] at stepped
      split at stepped
      · cases stepped
        exact (finishKeeps _ call).trans same
      · cases stepped
  | settles call =>
      simp only [step] at stepped
      split at stepped
      · cases stepped
        exact (finishKeeps _ call).trans same
      · cases stepped

end SemaphoreCalls

/-- A finite cap of one at least makes a semaphore with the cap rounded down. -/
theorem LoaderSemaphore.new_eq_ok
    (numerics : JsNumerics)
    {cap : Rat}
    (atLeastOne : 1 ≤ cap) :
    LoaderSemaphore.new numerics (.finite cap) = .ok { cap := ⌊cap⌋ } :=
  if_neg (not_lt.mpr atLeastOne)

/-- A new semaphore has a finite cap of one at least, rounded down. -/
theorem LoaderSemaphore.of_new_eq_ok
    {numerics : JsNumerics}
    {cap : JsDouble}
    {sem : LoaderSemaphore}
    (made : LoaderSemaphore.new numerics cap = .ok sem) :
    ∃ value, cap = .finite value ∧ 1 ≤ value ∧ sem = { cap := ⌊value⌋ } := by
  cases cap with
  | finite value =>
      simp only [LoaderSemaphore.new] at made
      split at made
      next => cases made
      next atLeastOne =>
        cases made
        exact ⟨value, rfl, not_lt.mp atLeastOne, rfl⟩
  | infinite negative => cases made
  | nan => cases made

/--
The loader semaphore is a fair counting semaphore, under every interleaving of
its calls.  The counter is the number of calls that hold a permit and stays
within the cap; a call waits only while the counter is at the cap rounded down;
calls are admitted in the order they arrived in; each admitted call holds its
permit or has released it, once; and nothing is left in flight when all calls
have ended, nor does a call wait when no permit is held.
-/
theorem loaderSemaphore_isFair
    (numerics : JsNumerics)
    (cap : Rat)
    (atLeastOne : 1 ≤ cap) :
    ∃ sem,
      LoaderSemaphore.new numerics (.finite cap) = .ok sem ∧
        ∀ steps calls,
          Run SemaphoreCalls.step { sem := sem } steps calls →
          (calls.sem.inFlight = calls.holders.length ∧
            (calls.sem.inFlight : Rat) ≤ cap) ∧
          (calls.sem.waiters ≠ [] → calls.sem.inFlight = ⌊cap⌋) ∧
          calls.admissions ++ calls.sem.waiters = List.range calls.arrived ∧
          (calls.holders ++ calls.releases).Perm calls.admissions ∧
          calls.admissions.Nodup ∧
          calls.arrived = steps.count .arrives ∧
          ((∀ call, call < calls.arrived → call ∈ calls.releases) →
            calls.sem.inFlight = 0) ∧
          (calls.holders = [] →
            ∀ call, call < calls.arrived → call ∈ calls.releases) := by
  refine ⟨_, LoaderSemaphore.new_eq_ok numerics atLeastOne, ?_⟩
  intro steps calls ran
  have capPositive : 1 ≤ ⌊cap⌋ := Int.le_floor.mpr (by simpa using atLeastOne)
  have fair :=
    SemaphoreCalls.fair_of_run ran
      (SemaphoreCalls.fair_new (Int.le_trans (by decide) capPositive) rfl rfl)
  have sameCap : calls.sem.cap = ⌊cap⌋ := SemaphoreCalls.cap_of_run ran
  have within := fair.withinCap
  have once : (calls.holders ++ calls.releases).Perm calls.admissions :=
    fair.once
  have noDuplicates : calls.admissions.Nodup :=
    (List.nodup_append.mp (fair.inOrder ▸ List.nodup_range)).1
  rw [sameCap] at within
  refine ⟨⟨fair.inFlight, Int.le_floor.mp within⟩, ?_, fair.inOrder, once,
    noDuplicates,
    (SemaphoreCalls.arrived_of_run ran).trans (Nat.zero_add _), ?_, ?_⟩
  · intro waiting
    rw [fair.full waiting, sameCap]
  · intro ended
    have unheld : calls.holders = [] := by
      apply List.eq_nil_iff_forall_not_mem.mpr
      intro call held
      have admitted : call ∈ calls.admissions :=
        once.subset (List.mem_append_left _ held)
      have arrived : call ∈ List.range calls.arrived :=
        fair.inOrder ▸ List.mem_append_left _ admitted
      have apart := List.nodup_append.mp (once.nodup_iff.mpr noDuplicates)
      exact
        apart.2.2 call held call (ended call (List.mem_range.mp arrived)) rfl
    rw [fair.inFlight, unheld]
    rfl
  · intro unheld call inside
    have unused : calls.sem.inFlight = 0 := by
      rw [fair.inFlight, unheld]
      rfl
    have noWaiter : calls.sem.waiters = [] := by
      by_contra waiting
      have atCap := fair.full waiting
      omega
    have order := fair.inOrder
    rw [noWaiter, List.append_nil] at order
    rw [unheld, List.nil_append] at once
    exact once.symm.subset (order ▸ List.mem_range.mpr inside)

/-- Four calls, of which the first settles and the second throws. -/
def handsOver : List SemaphoreStep :=
  [.arrives, .arrives, .resumes 0, .arrives, .settles 0, .arrives, .throws 1]

/-- With a cap of one the permit is handed to the third; the last one waits. -/
theorem loaderSemaphore_isFair_handsOver :
    ∃ sem calls,
      LoaderSemaphore.new ⟨fun _ => .nan, .finite, fun _ => "1"⟩ (.finite 1) =
          .ok sem ∧
        Run SemaphoreCalls.step { sem := sem } handsOver calls ∧
          calls.sem.waiters = [3] ∧
            calls.admissions = [0, 1, 2] ∧
              (calls.sem.inFlight : Rat) ≤ 1 ∧
                calls.arrived = handsOver.count .arrives := by
  obtain ⟨sem, made, fair⟩ :=
    loaderSemaphore_isFair ⟨fun _ => .nan, .finite, fun _ => "1"⟩ 1
      (le_refl 1)
  have ran :
      Run SemaphoreCalls.step { sem := sem } handsOver
        { sem := { cap := 1, inFlight := 1, waiters := [3] }
          arrived := 4
          resumable := [2]
          admissions := [0, 1, 2]
          releases := [0, 1] } := by
    have isNew := made
    rw [LoaderSemaphore.new_eq_ok _ (le_refl 1), Int.floor_one] at isNew
    cases isNew
    exact .of_foldlM rfl
  have law := fair _ _ ran
  exact ⟨sem, _, made, ran, rfl, rfl, law.1.2, law.2.2.2.2.2.1⟩

end CloudflareParallel
