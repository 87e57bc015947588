import CloudflareParallel.TopologyPlan
import Mathlib.Analysis.SpecialFunctions.Log.Base

namespace CloudflareParallel

/-!
# Topology selection

`selectTopology` validates the options and builds the plan.  JavaScript numbers
that the selector treats as integers are `Int`, so that its range checks have
something to reject.

The tree depth is `Math.max(1, Math.ceil(Math.log(size / maxFanOut) /
Math.log(F)))`.  `Math.log` is only approximated by the runtime, and the
quotient of two approximations may exceed an exact integer logarithm
(`Math.log(125) / Math.log(5)` does), so one level more than needed can come
out.  `TreeDepth` abstracts the rounding by what the plan relies on: the depth
is never too small for the work.  `TreeDepth.exact` is the exact ceiling.
-/

/-- Pool topologies a caller may request. -/
inductive Topology where
  | auto
  | inDo
  | hybrid
  | tree
  deriving Repr, DecidableEq

/-- Selector knobs; absent fields fall back to the defaults. -/
structure SelectorOptions where
  topology : Option Topology := none
  maxFanOut : Option Int := none
  branchingFactor : Option Int := none
  treeThreshold : Option Int := none
  deriving Repr, DecidableEq

/-- `TopologyError`, carried by its message. -/
structure TopologyError where
  message : String
  deriving Repr, DecidableEq

def DEFAULT_MAX_FAN_OUT : Int := 32

def DEFAULT_BRANCHING_FACTOR : Int := 8

/-- The depth formula of `buildTreePlan`, up to how its logarithms are rounded. -/
structure TreeDepth where
  depth : (size maxFanOut branchingFactor : Nat) → Nat
  one_le :
    ∀ size maxFanOut branchingFactor,
      1 ≤ depth size maxFanOut branchingFactor
  covers :
    ∀ {size maxFanOut branchingFactor},
      1 ≤ maxFanOut →
      2 ≤ branchingFactor →
      size ≤
        maxFanOut *
          branchingFactor ^ depth size maxFanOut branchingFactor

namespace TreeDepth

/-- The exact ceiling of the logarithm, at least one. -/
def exact : TreeDepth where
  depth size maxFanOut branchingFactor :=
    max 1 (Nat.clog branchingFactor (size ⌈/⌉ max 1 maxFanOut))
  one_le _ _ _ := Nat.le_max_left _ _
  covers := by
    intro size maxFanOut branchingFactor fanOutPositive baseLarge
    rw [Nat.max_eq_right fanOutPositive]
    have quotientFits :
        size ⌈/⌉ maxFanOut ≤
          branchingFactor ^
            Nat.clog branchingFactor (size ⌈/⌉ maxFanOut) :=
      Nat.le_pow_clog (by omega) _
    have grows :
        branchingFactor ^
            Nat.clog branchingFactor (size ⌈/⌉ maxFanOut) ≤
          branchingFactor ^
            max 1 (Nat.clog branchingFactor (size ⌈/⌉ maxFanOut)) :=
      Nat.pow_le_pow_right (by omega) (Nat.le_max_right _ _)
    have sizeFits : size ≤ maxFanOut * (size ⌈/⌉ maxFanOut) :=
      (ceilDiv_le_iff_le_mul fanOutPositive).mp le_rfl
    exact sizeFits.trans
      (Nat.mul_le_mul_left maxFanOut (quotientFits.trans grows))

/-- `exact` is the formula of the source read over the real numbers. -/
theorem exact_depth_eq_ceil_logb
    (size maxFanOut branchingFactor : Nat) :
    (exact.depth size maxFanOut branchingFactor : ℤ) =
      max 1
        ⌈Real.logb branchingFactor
          ((size : ℝ) / (max 1 maxFanOut : ℕ))⌉ := by
  have fanOutPositive : 0 < max 1 maxFanOut := by omega
  change
    ((max 1 (Nat.clog branchingFactor (size ⌈/⌉ max 1 maxFanOut)) : ℕ) : ℤ) =
      _
  generalize max 1 maxFanOut = fanOut at *
  rw [Real.ceil_logb_natCast (by positivity)]
  have ceilQuotient :
      ⌈(size : ℝ) / fanOut⌉₊ = size ⌈/⌉ fanOut := by
    apply eq_of_forall_ge_iff
    intro bound
    rw [Nat.ceil_le, ceilDiv_le_iff_le_mul fanOutPositive,
      div_le_iff₀ (by exact_mod_cast fanOutPositive),
      Nat.mul_comm fanOut bound]
    exact_mod_cast Iff.rfl
  rcases le_or_gt 1 ((size : ℝ) / fanOut) with large | small
  · rw [Int.clog_of_one_le_right _ large, ceilQuotient]
    push_cast
    rfl
  · -- A quotient below one has no positive logarithm on either side.
    have ceilSmall : size ⌈/⌉ fanOut ≤ 1 := by
      rw [← ceilQuotient]
      exact Nat.ceil_le.mpr (by exact_mod_cast small.le)
    rw [Int.clog_of_right_le_one _ small.le,
      Nat.clog_of_right_le_one ceilSmall]
    simp

/-- One level suffices exactly for what one level can hold. -/
theorem exact_depth_le_one_iff
    {size maxFanOut branchingFactor : Nat}
    (fanOutPositive : 1 ≤ maxFanOut)
    (branchingLarge : 2 ≤ branchingFactor) :
    exact.depth size maxFanOut branchingFactor ≤ 1 ↔
      size ≤ maxFanOut * branchingFactor := by
  simp only [exact, Nat.max_eq_right fanOutPositive]
  rw [max_le_iff, Nat.clog_le_iff_le_pow (by omega), Nat.pow_one,
    ceilDiv_le_iff_le_mul fanOutPositive]
  exact ⟨fun bounds => bounds.2, fun fits => ⟨le_rfl, fits⟩⟩

/-- The exact depth is never more than the work needs. -/
theorem exact_depth_minimal
    {size maxFanOut branchingFactor : Nat}
    (fanOutPositive : 1 ≤ maxFanOut)
    (deep : 2 ≤ exact.depth size maxFanOut branchingFactor) :
    maxFanOut *
        branchingFactor ^
          (exact.depth size maxFanOut branchingFactor - 1) <
      size := by
  simp only [exact, Nat.max_eq_right fanOutPositive] at deep ⊢
  have isLog :
      max 1 (Nat.clog branchingFactor (size ⌈/⌉ maxFanOut)) =
        Nat.clog branchingFactor (size ⌈/⌉ maxFanOut) := by
    omega
  rw [isLog] at deep ⊢
  by_contra notBelow
  have fits :
      size ⌈/⌉ maxFanOut ≤
        branchingFactor ^
          (Nat.clog branchingFactor (size ⌈/⌉ maxFanOut) - 1) :=
    (ceilDiv_le_iff_le_mul fanOutPositive).mpr (Nat.le_of_not_lt notBelow)
  have shallower := Nat.clog_le_of_le_pow fits
  omega

end TreeDepth

/-- One job per leaf DO. -/
def buildHybridPlan (size : Nat) : HybridPlan where
  size := size
  leafShape := List.replicate size 1

/--
`buildTreePlan` with its depth `K` decided.  At `K <= 1` the children are
hybrid leaves clamped to `maxFanOut`; above, each child is a tree of depth
`K - 1`.
-/
def buildTreePlanAt
    (branchingFactor maxFanOut : Nat) :
    (K size : Nat) → FanOutPlan
  | 0, size =>
      .tree size branchingFactor 0
        (((balancedFill size branchingFactor).filter (0 < ·)).map
          fun slice => .hybrid (buildHybridPlan (min slice maxFanOut)))
  | K + 1, size =>
      .tree size branchingFactor (K + 1)
        (((balancedFill size branchingFactor).filter (0 < ·)).map
          fun slice =>
            if K + 1 ≤ 1 then
              .hybrid (buildHybridPlan (min slice maxFanOut))
            else
              buildTreePlanAt branchingFactor maxFanOut K slice)

/-- `buildTreePlan` at the root, where no depth is forced. -/
def buildTreePlan
    (treeDepth : TreeDepth)
    (size branchingFactor maxFanOut : Nat) : FanOutPlan :=
  buildTreePlanAt branchingFactor maxFanOut
    (treeDepth.depth size maxFanOut branchingFactor) size

/-- A pinned topology; a size it cannot carry is a `TopologyError`. -/
def buildPinnedPlan
    (treeDepth : TreeDepth)
    (size : Nat)
    (requested : Topology)
    (branchingFactor maxFanOut : Nat) :
    Except TopologyError TopologyPlan :=
  match requested with
  | .inDo =>
      if size > 1 then
        .error {
          message :=
            s!"topology: 'in-do' supports size <= 1 (single-shot loaded isolate); got {size}. " ++
              "Use 'auto' or 'hybrid' for larger fan-outs — each leaf DO is a separate workerd " ++
              "process with its own V8 scheduler thread, which is where CPU parallelism comes from."
        }
      else
        .ok (.inDo size)
  | .hybrid =>
      if size > maxFanOut then
        .error {
          message :=
            s!"topology: 'hybrid' with maxFanOut={maxFanOut} supports size <= {maxFanOut}; " ++
              s!"got {size}. Use 'tree' or raise maxFanOut."
        }
      else
        .ok (.fanOut (.hybrid (buildHybridPlan size)))
  | .tree | .auto =>
      .ok (.fanOut (buildTreePlan treeDepth size branchingFactor maxFanOut))

/-- Decide the topology and build the dispatch plan. -/
def selectTopology
    (treeDepth : TreeDepth)
    (size : Int)
    (opts : SelectorOptions) :
    Except TopologyError TopologyPlan :=
  if size < 0 then
    .error { message := s!"size must be a non-negative integer, got {size}" }
  else
    let requested := opts.topology.getD .auto
    let branchingFactor := opts.branchingFactor.getD DEFAULT_BRANCHING_FACTOR
    let maxFanOut := opts.maxFanOut.getD DEFAULT_MAX_FAN_OUT
    let treeThreshold := opts.treeThreshold.getD maxFanOut
    if branchingFactor < 4 ∨ branchingFactor > 16 then
      .error {
        message := s!"branchingFactor must be in [4,16], got {branchingFactor}"
      }
    else if maxFanOut < 1 ∨ maxFanOut > 256 then
      .error { message := s!"maxFanOut must be in [1,256], got {maxFanOut}" }
    else if size = 0 then
      .ok (.inDo 0)
    else if requested ≠ .auto then
      buildPinnedPlan treeDepth size.toNat requested
        branchingFactor.toNat maxFanOut.toNat
    else if size = 1 then
      .ok (.inDo 1)
    else if size ≤ treeThreshold then
      .ok (.fanOut (.hybrid (buildHybridPlan size.toNat)))
    else
      .ok (.fanOut
        (buildTreePlan treeDepth size.toNat
          branchingFactor.toNat maxFanOut.toNat))

namespace SelectorOptions

/-- The branching factor in force once the range check has passed. -/
def branching (opts : SelectorOptions) : Nat :=
  (opts.branchingFactor.getD DEFAULT_BRANCHING_FACTOR).toNat

/-- The fan-out cap in force once the range check has passed. -/
def fanOutCap (opts : SelectorOptions) : Nat :=
  (opts.maxFanOut.getD DEFAULT_MAX_FAN_OUT).toNat

/-- The requests for which a tree is built: pinned, or above the threshold. -/
def selectsTree (opts : SelectorOptions) (size : Nat) : Prop :=
  0 < size ∧
    (opts.topology = some .tree ∨
      (opts.topology.getD .auto = .auto ∧
        1 < size ∧
        opts.treeThreshold.getD
            (opts.maxFanOut.getD DEFAULT_MAX_FAN_OUT) < size))

instance (opts : SelectorOptions) (size : Nat) :
    Decidable (opts.selectsTree size) :=
  inferInstanceAs (Decidable (_ ∧ _))

end SelectorOptions

/--
Everything a successful selection can have returned: the options were in
range, and the plan is one of the three shapes with the requested size.
-/
theorem selectTopology_cases
    {treeDepth : TreeDepth}
    {size : Nat}
    {opts : SelectorOptions}
    {plan : TopologyPlan}
    (selected : selectTopology treeDepth size opts = .ok plan) :
    (4 ≤ opts.branching ∧ opts.branching ≤ 16) ∧
      (1 ≤ opts.fanOutCap ∧ opts.fanOutCap ≤ 256) ∧
      ((¬ opts.selectsTree size ∧ plan = .inDo size ∧ size ≤ 1) ∨
        (¬ opts.selectsTree size ∧
          plan = .fanOut (.hybrid (buildHybridPlan size))) ∨
        (opts.selectsTree size ∧
          plan =
            .fanOut
              (buildTreePlan treeDepth size
                opts.branching opts.fanOutCap))) := by
  have notNegative : ¬ (size : Int) < 0 := by omega
  simp only [selectTopology, notNegative, ↓reduceIte] at selected
  split at selected
  · cases selected
  next branchingInRange =>
    split at selected
    · cases selected
    next fanOutInRange =>
      refine ⟨?_, ?_, ?_⟩
      · unfold SelectorOptions.branching
        omega
      · unfold SelectorOptions.fanOutCap
        omega
      · unfold SelectorOptions.selectsTree
        split at selected
        next sizeZero =>
          cases selected
          exact .inl ⟨by omega, by congr 1; omega, by omega⟩
        next sizeNotZero =>
          have sizePositive : 0 < size := by omega
          split at selected
          next pinned =>
            simp only [Int.toNat_natCast] at selected
            unfold buildPinnedPlan at selected
            cases requested : opts.topology with
            | none =>
                simp [requested] at pinned
            | some topology =>
                simp only [requested, Option.getD_some] at pinned selected
                cases topology with
                | auto =>
                    exact (pinned rfl).elim
                | inDo =>
                    simp only at selected
                    split at selected
                    · cases selected
                    next small =>
                      cases selected
                      exact .inl ⟨by simp, rfl, by omega⟩
                | hybrid =>
                    simp only at selected
                    split at selected
                    · cases selected
                    · cases selected
                      exact .inr (.inl ⟨by simp, rfl⟩)
                | tree =>
                    cases selected
                    exact .inr (.inr ⟨⟨sizePositive, .inl rfl⟩, rfl⟩)
          next automatic =>
            have notPinned : opts.topology ≠ some .tree := by
              intro pinned
              simp [pinned] at automatic
            split at selected
            next sizeOne =>
              cases selected
              exact .inl
                ⟨by simp [notPinned]; omega, by congr 1; omega, by omega⟩
            next sizeNotOne =>
              simp only [Int.toNat_natCast] at selected
              split at selected
              next belowThreshold =>
                cases selected
                exact .inr (.inl ⟨by simp [notPinned]; omega, rfl⟩)
              next aboveThreshold =>
                cases selected
                refine .inr (.inr ⟨⟨sizePositive, .inr ⟨?_, ?_, ?_⟩⟩, rfl⟩)
                · simpa using automatic
                · omega
                · omega

end CloudflareParallel
