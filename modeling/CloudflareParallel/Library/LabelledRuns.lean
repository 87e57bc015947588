namespace LabelledRuns

/-!
# Runs of a labelled step function

A system is a partial step function on states and labels.  A guarded run takes
only steps whose guard holds in the state they start from; with the guard that
is always true it is any run.  The one rule is the invariant rule.
-/

variable {State Label History : Type}

/-- A run from one state to another whose steps all meet the guard. -/
inductive GuardedRun
    (step : State → Label → Option State)
    (guard : State → Label → Prop) :
    State → List Label → State → Prop where
  | nil {state : State} :
      GuardedRun step guard state [] state
  | cons {state next final : State}
      {label : Label} {labels : List Label} :
      guard state label →
      step state label = some next →
      GuardedRun step guard next labels final →
      GuardedRun step guard state (label :: labels) final

/-- A run without any guard. -/
abbrev Run (step : State → Label → Option State) :
    State → List Label → State → Prop :=
  GuardedRun step fun _ _ => True

/-- A step function that records a history beside the state. -/
def recording
    (step : State → Label → Option State)
    (record : State → Label → History → History)
    (current : State × History)
    (label : Label) : Option (State × History) :=
  (step current.1 label).map fun next =>
    (next, record current.1 label current.2)

namespace GuardedRun

variable {step : State → Label → Option State}
variable {guard : State → Label → Prop}

/-- What every guarded step preserves holds at the end of every guarded run. -/
theorem invariant
    {holds : State → Prop}
    (preserved :
      ∀ {state label next},
        guard state label →
        step state label = some next →
        holds state →
        holds next)
    {start final : State}
    {labels : List Label}
    (run : GuardedRun step guard start labels final)
    (initially : holds start) :
    holds final := by
  induction run with
  | nil =>
      exact initially
  | cons met stepped _ inductionHypothesis =>
      exact inductionHypothesis (preserved met stepped initially)

/-- An invariant holds in the states a run takes its steps from. -/
theorem strengthen
    {holds : State → Prop}
    (preserved :
      ∀ {state label next},
        guard state label →
        step state label = some next →
        holds state →
        holds next)
    {start final : State}
    {labels : List Label}
    (run : GuardedRun step guard start labels final)
    (initially : holds start) :
    GuardedRun step (fun state label => guard state label ∧ holds state)
      start labels final := by
  induction run with
  | nil =>
      exact .nil
  | cons met stepped _ inductionHypothesis =>
      exact
        .cons ⟨met, initially⟩ stepped
          (inductionHypothesis (preserved met stepped initially))

/--
Where no step raises a rank and every counted step lowers it, a run has no more
counted steps than what it lowers.
-/
theorem countP_add_le
    (counted : Label → Bool)
    (rank : State → Nat)
    (kept :
      ∀ {state label next},
        guard state label →
        step state label = some next →
        rank next ≤ rank state)
    (lowers :
      ∀ {state label next},
        guard state label →
        counted label = true →
        step state label = some next →
        rank next < rank state)
    {start final : State}
    {labels : List Label}
    (run : GuardedRun step guard start labels final) :
    labels.countP counted + rank final ≤ rank start := by
  induction run with
  | nil =>
      exact Nat.le_of_eq (Nat.zero_add _)
  | @cons _ _ _ label _ met stepped _ inductionHypothesis =>
      by_cases counts : counted label = true
      · have lower := lowers met counts stepped
        rw [List.countP_cons_of_pos counts]
        omega
      · have notHigher := kept met stepped
        rw [List.countP_cons_of_neg counts]
        omega

/-- Where every step lowers a rank, a run is no longer than what it lowers. -/
theorem length_add_le
    (rank : State → Nat)
    (lowers :
      ∀ {state label next},
        guard state label →
        step state label = some next →
        rank next < rank state)
    {start final : State}
    {labels : List Label}
    (run : GuardedRun step guard start labels final) :
    labels.length + rank final ≤ rank start := by
  have counted :=
    run.countP_add_le (fun _ => true) rank
      (fun met stepped => Nat.le_of_lt (lowers met stepped))
      (fun met _ stepped => lowers met stepped)
  rwa [List.countP_true] at counted

/-- A run of two parts goes through the state between them. -/
theorem of_append
    {start final : State}
    {first second : List Label}
    (run : GuardedRun step guard start (first ++ second) final) :
    ∃ middle,
      GuardedRun step guard start first middle ∧
        GuardedRun step guard middle second final := by
  induction first generalizing start with
  | nil => exact ⟨start, .nil, run⟩
  | cons label rest inductionHypothesis =>
      cases run with
      | cons met stepped later =>
          obtain ⟨middle, before, after⟩ := inductionHypothesis later
          exact ⟨middle, .cons met stepped before, after⟩

/-- What begins to hold in a run begins to hold in one of its steps. -/
theorem exists_first
    {holds : State → Prop}
    {start final : State}
    {labels : List Label}
    (run : GuardedRun step guard start labels final)
    (initially : ¬ holds start)
    (finally_ : holds final) :
    ∃ before label later middle next,
      labels = before ++ label :: later ∧
        GuardedRun step guard start before middle ∧
          ¬ holds middle ∧
            step middle label = some next ∧
              holds next := by
  induction run with
  | nil => exact absurd finally_ initially
  | @cons state next _ label rest met stepped _ inductionHypothesis =>
      by_cases already : holds next
      · exact ⟨[], label, rest, state, next, rfl, .nil, initially, stepped,
          already⟩
      · obtain ⟨before, first, later, middle, after, split, reached,
          others⟩ := inductionHypothesis already finally_
        exact
          ⟨label :: before, first, later, middle, after,
            congrArg (label :: ·) split, .cons met stepped reached, others⟩

/-- A step function that shows a view of another one, where something holds. -/
structure IsView
    {View : Type}
    (step : State → Label → Option State)
    (viewStep : View → Label → Option View)
    (holds : State → Prop)
    (view : State → View) : Prop where
  stepped :
    ∀ {state} label,
      holds state →
      viewStep (view state) label = (step state label).map view
  kept :
    ∀ {state label next},
      step state label = some next →
      holds state →
      holds next

/-- The runs of a view are the views of the runs. -/
theorem run_view_iff
    {View : Type}
    {viewStep : View → Label → Option View}
    {holds : State → Prop}
    {view : State → View}
    (isView : IsView step viewStep holds view)
    (start : State)
    {labels : List Label}
    {seen : View}
    (initially : holds start) :
    Run viewStep (view start) labels seen ↔
      ∃ final, Run step start labels final ∧ view final = seen := by
  constructor
  · intro run
    generalize viewed : view start = shown at run
    induction run generalizing start with
    | nil => exact ⟨start, .nil, viewed⟩
    | cons _ stepped _ inductionHypothesis =>
        rw [← viewed, isView.stepped _ initially] at stepped
        obtain ⟨next, took, viewedNext⟩ := Option.map_eq_some_iff.mp stepped
        obtain ⟨final, later, seenFinal⟩ :=
          inductionHypothesis _ (isView.kept took initially) viewedNext
        exact ⟨final, .cons trivial took later, seenFinal⟩
  · rintro ⟨final, run, rfl⟩
    induction run with
    | nil => exact .nil
    | cons _ stepped _ inductionHypothesis =>
        refine
          .cons trivial ?_
            (inductionHypothesis (isView.kept stepped initially))
        rw [isView.stepped _ initially, stepped]
        rfl

/-- A run is executed label by label. -/
theorem of_foldlM
    {start final : State}
    {labels : List Label}
    (executed : labels.foldlM step start = some final) :
    Run step start labels final := by
  induction labels generalizing start with
  | nil =>
      cases executed
      exact .nil
  | cons label rest inductionHypothesis =>
      rw [List.foldlM_cons] at executed
      obtain ⟨next, stepped, later⟩ :=
        Option.bind_eq_some_iff.mp executed
      exact .cons trivial stepped (inductionHypothesis later)

/-- A guard on the labels alone is checked label by label. -/
theorem of_labels
    {allowed : Label → Prop}
    {start final : State}
    {labels : List Label}
    (all : ∀ label ∈ labels, allowed label)
    (run : Run step start labels final) :
    GuardedRun step (fun _ label => allowed label) start labels final := by
  induction run with
  | nil =>
      exact .nil
  | cons _ stepped _ inductionHypothesis =>
      rw [List.forall_mem_cons] at all
      exact .cons all.1 stepped (inductionHypothesis all.2)

/-- A guarded run is executed label by label, with its guard checked. -/
theorem of_checked
    [∀ state label, Decidable (guard state label)]
    {start final : State}
    {labels : List Label}
    (executed :
      labels.foldlM
          (fun state label =>
            if guard state label then step state label else none) start =
        some final) :
    GuardedRun step guard start labels final := by
  induction labels generalizing start with
  | nil =>
      cases executed
      exact .nil
  | cons label rest inductionHypothesis =>
      rw [List.foldlM_cons] at executed
      obtain ⟨next, stepped, later⟩ :=
        Option.bind_eq_some_iff.mp executed
      split at stepped
      next met =>
        exact .cons met stepped (inductionHypothesis later)
      next =>
        cases stepped

end GuardedRun

end LabelledRuns
