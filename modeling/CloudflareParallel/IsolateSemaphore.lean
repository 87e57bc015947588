import CloudflareParallel.LoaderSemaphore
import CloudflareParallel.RunnerInput

namespace CloudflareParallel

open LabelledRuns

/-!
# The semaphore of an isolate

All runners of an isolate run their executions on one semaphore, which the first
of them makes with the cap of its own call site.  Whether the caps of both call
sites hold therefore depends on who comes first.
-/

/-- `defaultCapFor`. -/
def defaultCapFor : CallSiteKind → JsDouble
  | .doMethod => .ofNat 4
  | .fetchHandler => .ofNat 3

/-- The measured cap of the globals is a positive number. -/
def capIsMeasured (measured : Option JsDouble) : Bool :=
  measured.any (·.isPositive)

/-- `getMeasuredCap`; a cap that is no number counts as missing. -/
def getMeasuredCap
    (measured : Option JsDouble)
    (kind : CallSiteKind) : JsDouble :=
  match measured with
  | some cap => if cap.isPositive then cap else defaultCapFor kind
  | none => defaultCapFor kind

/--
The globals of an isolate: the semaphore with the calls of `run` on it, and the
call sites of these calls in the order they arrived in.
-/
structure LoaderIsolate where
  cfpLoaderSem : Option SemaphoreCalls := none
  kinds : List CallSiteKind := []
  deriving DecidableEq

/-- What happens next in an isolate. -/
inductive IsolateStep where
  /-- A runner of the call site calls `isolateSemaphore(kind).run(...)`. -/
  | uses (kind : CallSiteKind)
  | resumes (call : Nat)
  | throws (call : Nat)
  | settles (call : Nat)
  deriving DecidableEq

namespace LoaderIsolate

/-- `isolateSemaphore`; the semaphore it makes is stored when it is used. -/
def isolateSemaphore
    (numerics : JsNumerics)
    (measured : Option JsDouble)
    (isolate : LoaderIsolate)
    (kind : CallSiteKind) : Except String SemaphoreCalls :=
  match isolate.cfpLoaderSem with
  | some existing => .ok existing
  | none =>
      match LoaderSemaphore.new numerics (getMeasuredCap measured kind) with
      | .ok sem => .ok { sem := sem }
      | .error message => .error message

/-- A step of the calls on the semaphore. -/
def advance
    (isolate : LoaderIsolate)
    (label : SemaphoreStep) : Option LoaderIsolate :=
  match isolate.cfpLoaderSem with
  | some calls =>
      (calls.step label).map fun next =>
        { isolate with cfpLoaderSem := some next }
  | none => none

/-- The step function of an isolate. -/
def step
    (numerics : JsNumerics)
    (measured : Option JsDouble)
    (isolate : LoaderIsolate) :
    IsolateStep → Option LoaderIsolate
  | .uses kind =>
      match isolateSemaphore numerics measured isolate kind with
      | .ok calls =>
          some
            { cfpLoaderSem := some calls.arrive
              kinds := isolate.kinds ++ [kind] }
      -- The runner throws, and nothing is executed.
      | .error _ => some isolate
  | .resumes call => isolate.advance (.resumes call)
  | .throws call => isolate.advance (.throws call)
  | .settles call => isolate.advance (.settles call)

/-- The executions in flight that were started from a call site. -/
def executing
    (isolate : LoaderIsolate)
    (kind : CallSiteKind) : Nat :=
  match isolate.cfpLoaderSem with
  | some calls =>
      calls.running.countP fun call => isolate.kinds[call]? == some kind
  | none => 0

/-- No call site has more executions in flight than its cap. -/
def RespectsCaps
    (measured : Option JsDouble)
    (isolate : LoaderIsolate) : Prop :=
  ∀ kind,
    (getMeasuredCap measured kind).lessThan
      (.ofNat (isolate.executing kind)) = false

/-! ## The invariant -/

/--
The semaphore of the isolate is fair and its cap fits every call site; while
there is none, the call sites have the same cap.
-/
structure Fits
    (measured : Option JsDouble)
    (isolate : LoaderIsolate) : Prop where
  fair :
    ∀ calls,
      isolate.cfpLoaderSem = some calls →
      SemaphoreCalls.FairWith [] calls
  fits :
    ∀ calls,
      isolate.cfpLoaderSem = some calls →
      ∀ kind,
        (getMeasuredCap measured kind).lessThan
          (.finite calls.sem.cap) = false
  unmade : isolate.cfpLoaderSem = none → capIsMeasured measured = true

end LoaderIsolate

/-- A number that is not below another is not below a smaller one. -/
theorem JsDouble.lessThan_finite_mono
    {number : JsDouble}
    {bound smaller : Rat}
    (notBelow : number.lessThan (.finite bound) = false)
    (le : smaller ≤ bound) :
    number.lessThan (.finite smaller) = false := by
  cases number with
  | finite value =>
      simp only [JsDouble.lessThan, decide_eq_false_iff_not, not_lt]
        at notBelow ⊢
      exact le.trans notBelow
  | infinite negative => exact notBelow
  | nan => rfl

/-- No cap is below zero. -/
theorem getMeasuredCap_notNegative
    (measured : Option JsDouble)
    (kind : CallSiteKind) :
    (getMeasuredCap measured kind).lessThan (.finite 0) = false := by
  have defaultPositive : (defaultCapFor kind).lessThan (.finite 0) = false := by
    cases kind <;> decide
  unfold getMeasuredCap
  cases measured with
  | none => exact defaultPositive
  | some cap =>
      simp only
      split
      next positive =>
        cases cap with
        | finite value =>
            simp only [JsDouble.isPositive, JsDouble.lessThan,
              decide_eq_true_eq] at positive
            simp only [JsDouble.lessThan, decide_eq_false_iff_not, not_lt]
            exact positive.le
        | infinite negative =>
            cases negative with
            | false => rfl
            | true => cases positive
        | nan => rfl
      next => exact defaultPositive

/-- A measured cap is the cap of every call site. -/
theorem getMeasuredCap_of_measured
    {measured : Option JsDouble}
    (isMeasured : capIsMeasured measured = true)
    (kind other : CallSiteKind) :
    getMeasuredCap measured kind = getMeasuredCap measured other := by
  cases measured with
  | none => cases isMeasured
  | some cap =>
      have positive : cap.isPositive = true := isMeasured
      simp only [getMeasuredCap, positive, ↓reduceIte]

/-- Without a measured cap the call sites have their defaults. -/
theorem getMeasuredCap_of_unmeasured
    {measured : Option JsDouble}
    (unmeasured : capIsMeasured measured ≠ true)
    (kind : CallSiteKind) :
    getMeasuredCap measured kind = defaultCapFor kind := by
  cases measured with
  | none => rfl
  | some cap =>
      have notPositive : ¬ cap.isPositive = true := unmeasured
      simp only [getMeasuredCap, notPositive, Bool.false_eq_true, ↓reduceIte]

namespace LoaderIsolate

/-- A fitting semaphore keeps the executions of every call site in its cap. -/
theorem Fits.respectsCaps
    {measured : Option JsDouble}
    {isolate : LoaderIsolate}
    (fits : Fits measured isolate) :
    isolate.RespectsCaps measured := by
  intro kind
  unfold executing
  cases made : isolate.cfpLoaderSem with
  | none =>
      simpa [JsDouble.ofNat] using getMeasuredCap_notNegative measured kind
  | some calls =>
      have fair := fits.fair calls made
      have few :
          calls.running.countP
              (fun call => isolate.kinds[call]? == some kind) ≤
            calls.running.length :=
        List.countP_le_length
      have within := fair.withinCap
      rw [fair.inFlight, List.nil_append, SemaphoreCalls.holders,
        List.length_append] at within
      apply JsDouble.lessThan_finite_mono (fits.fits calls made kind)
      have bounded :
          ((calls.running.countP
              fun call => isolate.kinds[call]? == some kind : Nat) : Int) ≤
            calls.sem.cap := by
        omega
      exact_mod_cast bounded

/-- A semaphore that is made with a cap fits the call sites of that cap. -/
theorem lessThan_cap_of_new
    {numerics : JsNumerics}
    {cap : JsDouble}
    {sem : LoaderSemaphore}
    (made : LoaderSemaphore.new numerics cap = .ok sem) :
    cap.lessThan (.finite sem.cap) = false := by
  obtain ⟨value, rfl, -, rfl⟩ := LoaderSemaphore.of_new_eq_ok made
  simp only [JsDouble.lessThan, decide_eq_false_iff_not, not_lt]
  exact Int.floor_le value

/-- A new semaphore is fair. -/
theorem fair_of_new
    {numerics : JsNumerics}
    {cap : JsDouble}
    {sem : LoaderSemaphore}
    (made : LoaderSemaphore.new numerics cap = .ok sem) :
    SemaphoreCalls.FairWith [] { sem := sem } := by
  obtain ⟨value, -, atLeastOne, rfl⟩ := LoaderSemaphore.of_new_eq_ok made
  have positive : 1 ≤ ⌊value⌋ := Int.le_floor.mpr (by simpa using atLeastOne)
  exact SemaphoreCalls.fair_new (Int.le_trans (by decide) positive) rfl rfl

/-- A fitting semaphore fits after a step of its calls. -/
theorem Fits.of_semaphoreStep
    {measured : Option JsDouble}
    {kinds kinds' : List CallSiteKind}
    {calls next : SemaphoreCalls}
    (label : SemaphoreStep)
    (fits : Fits measured { cfpLoaderSem := some calls, kinds := kinds })
    (stepped : calls.step label = some next) :
    Fits measured { cfpLoaderSem := some next, kinds := kinds' } where
  fair _ same := by
    cases same
    exact SemaphoreCalls.fair_of_step stepped (fits.fair calls rfl)
  fits _ same kind := by
    cases same
    have sameCap : next.sem.cap = calls.sem.cap :=
      SemaphoreCalls.cap_of_run (.cons trivial stepped .nil)
    rw [sameCap]
    exact fits.fits calls rfl kind
  unmade none := by cases none

/-- A call of a runner keeps the semaphore fitting, if it has a fitting one. -/
theorem Fits.of_isolateSemaphore
    {numerics : JsNumerics}
    {measured : Option JsDouble}
    {isolate : LoaderIsolate}
    {kind : CallSiteKind}
    {calls : SemaphoreCalls}
    (fits : Fits measured isolate)
    (found :
      isolateSemaphore numerics measured isolate kind = .ok calls) :
    Fits measured
      { cfpLoaderSem := some calls, kinds := isolate.kinds } := by
  unfold isolateSemaphore at found
  split at found
  next existing there =>
    cases found
    exact
      { fair := fun other same => fits.fair other (there.trans same)
        fits := fun other same => fits.fits other (there.trans same)
        unmade := fun none => by cases none }
  next missing =>
    split at found
    next sem made =>
      cases found
      refine
        { fair := fun other same => ?_
          fits := fun other same anyKind => ?_
          unmade := fun none => by cases none }
      · cases same
        exact fair_of_new made
      · cases same
        rw [getMeasuredCap_of_measured (fits.unmade missing) anyKind kind]
        exact lessThan_cap_of_new made
    next => cases found

/-- Every step of an isolate keeps its semaphore fitting. -/
theorem fits_of_step
    {numerics : JsNumerics}
    {measured : Option JsDouble}
    {isolate next : LoaderIsolate}
    {label : IsolateStep}
    (stepped : isolate.step numerics measured label = some next)
    (fits : Fits measured isolate) :
    Fits measured next := by
  have advanced :
      ∀ {label : SemaphoreStep},
        isolate.advance label = some next → Fits measured next := by
    intro label advanced
    obtain ⟨sem, kinds⟩ := isolate
    unfold advance at advanced
    cases sem with
    | none => cases advanced
    | some calls =>
        obtain ⟨after, moved, rfl⟩ := Option.map_eq_some_iff.mp advanced
        exact fits.of_semaphoreStep _ moved
  cases label with
  | uses kind =>
      simp only [step] at stepped
      split at stepped
      next calls found =>
        cases stepped
        exact (fits.of_isolateSemaphore found).of_semaphoreStep .arrives rfl
      next =>
        cases stepped
        exact fits
  | resumes call => exact advanced stepped
  | throws call => exact advanced stepped
  | settles call => exact advanced stepped

/-- An isolate that nobody has used, with a measured cap. -/
theorem fits_unused
    {measured : Option JsDouble}
    (isMeasured : capIsMeasured measured = true) :
    Fits measured {} where
  fair _ same := by cases same
  fits _ same := by cases same
  unmade _ := isMeasured

/-- A fetch handler makes a semaphore that fits both default caps. -/
theorem fits_of_fetchHandler
    {numerics : JsNumerics}
    {measured : Option JsDouble}
    (unmeasured : capIsMeasured measured ≠ true)
    {next : LoaderIsolate}
    (stepped :
      step numerics measured {} (.uses .fetchHandler) = some next) :
    Fits measured next := by
  have cap := getMeasuredCap_of_unmeasured unmeasured
  have made :
      LoaderSemaphore.new numerics (getMeasuredCap measured .fetchHandler) =
        .ok { cap := 3 } := by
    rw [cap]
    exact LoaderSemaphore.new_eq_ok numerics (by decide)
  simp only [step, isolateSemaphore, made] at stepped
  cases stepped
  have first : Fits measured
      { cfpLoaderSem := some { sem := { cap := 3 } }, kinds := [] } := by
    refine
      { fair := fun other same => ?_
        fits := fun other same kind => ?_
        unmade := fun none => by cases none }
    · cases same
      exact fair_of_new made
    · cases same
      rw [cap]
      cases kind <;> decide
  exact first.of_semaphoreStep .arrives rfl

/--
After a call from a durable object four calls from fetch handlers run on its
semaphore.
-/
def fourFetches : List IsolateStep :=
  [.resumes 0, .settles 0, .uses .fetchHandler, .uses .fetchHandler,
    .uses .fetchHandler, .uses .fetchHandler, .resumes 1, .resumes 2,
    .resumes 3, .resumes 4]

/-- A semaphore made by a durable object lets four fetch handlers execute. -/
theorem not_respectsCaps_of_doMethod
    (numerics : JsNumerics)
    {measured : Option JsDouble}
    (unmeasured : capIsMeasured measured ≠ true) :
    ∃ isolate,
      Run (step numerics measured) {} (.uses .doMethod :: fourFetches)
          isolate ∧
        ¬ isolate.RespectsCaps measured := by
  have cap := getMeasuredCap_of_unmeasured unmeasured
  have made :
      LoaderSemaphore.new numerics (getMeasuredCap measured .doMethod) =
        .ok { cap := 4 } := by
    rw [cap]
    exact LoaderSemaphore.new_eq_ok numerics (by decide)
  have first :
      step numerics measured {} (.uses .doMethod) =
        some
          { cfpLoaderSem :=
              some
                { sem := { cap := 4, inFlight := 1 }
                  arrived := 1
                  resumable := [0]
                  admissions := [0] }
            kinds := [.doMethod] } := by
    simp only [step, isolateSemaphore, made]
    rfl
  have executed :
      (IsolateStep.uses .doMethod :: fourFetches).foldlM
          (step numerics measured) {} =
        some
          { cfpLoaderSem :=
              some
                { sem := { cap := 4, inFlight := 4 }
                  arrived := 5
                  running := [1, 2, 3, 4]
                  admissions := [0, 1, 2, 3, 4]
                  releases := [0] }
            kinds :=
              [.doMethod, .fetchHandler, .fetchHandler, .fetchHandler,
                .fetchHandler] } := by
    rw [List.foldlM_cons, first]
    rfl
  refine ⟨_, GuardedRun.of_foldlM executed, ?_⟩
  intro respected
  have fetches := respected .fetchHandler
  rw [cap] at fetches
  revert fetches
  decide

/--
The caps of both call sites hold in every run that a call site begins just when
a cap was measured, which is the same for both, or when the first runner is that
of a fetch handler, whose default is the smaller.
-/
theorem callSiteCaps_hold_iff
    (numerics : JsNumerics)
    (measured : Option JsDouble)
    (first : CallSiteKind) :
    (∀ steps isolate,
      Run (step numerics measured) {} (.uses first :: steps) isolate →
      isolate.RespectsCaps measured) ↔
      capIsMeasured measured = true ∨ first = .fetchHandler := by
  constructor
  · intro respected
    by_contra neither
    obtain ⟨unmeasured, other⟩ := not_or.mp neither
    cases first with
    | fetchHandler => exact other rfl
    | doMethod =>
        obtain ⟨isolate, ran, exceeded⟩ :=
          not_respectsCaps_of_doMethod numerics unmeasured
        exact exceeded (respected fourFetches isolate ran)
  · intro condition steps isolate ran
    cases ran with
    | @cons _ next _ _ _ _ stepped rest =>
        have fits : Fits measured next := by
          by_cases isMeasured : capIsMeasured measured = true
          · exact fits_of_step stepped (fits_unused isMeasured)
          · cases condition.resolve_left isMeasured
            exact fits_of_fetchHandler isMeasured stepped
        have later :=
          rest.invariant (fun _ moved before => fits_of_step moved before) fits
        exact later.respectsCaps

/-- With default caps four executions of fetch handlers are in flight. -/
theorem callSiteCaps_exceeded :
    ¬ ∀ (measured : Option JsDouble) (first : CallSiteKind) steps isolate,
        Run (step ⟨fun _ => .nan, .finite, fun _ => ""⟩ measured) {}
          (.uses first :: steps) isolate →
        isolate.RespectsCaps measured := by
  intro respected
  obtain ⟨isolate, ran, exceeded⟩ :=
    not_respectsCaps_of_doMethod ⟨fun _ => .nan, .finite, fun _ => ""⟩
      (by decide : capIsMeasured none ≠ true)
  exact exceeded (respected none .doMethod fourFetches isolate ran)

end LoaderIsolate

end CloudflareParallel
