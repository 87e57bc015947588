import CloudflareParallel.FanOutValues
import CloudflareParallel.Library.PairingRounds

namespace CloudflareParallel

open PairingRounds

/-!
# Parallel reduce

The pools reduce in rounds.  `Pool` reduces the pairs of a round in a fan-out
and puts the carried element back by its index; `LoaderOnlyPoolImpl` keeps it in
its place as a resolved promise, and the pool for tests goes pair by pair.  Each
round is the round of pairs of the library, so all three evaluate one tree.
-/

variable {T : Type}

/-- `while (current.length > 1)`, and `current[0]` at its end. -/
inductive ReduceLoop
    (reduceRound : List T → List T → Prop) : List T → T → Prop where
  | done {current : List T} {value : T} :
      ¬ 1 < current.length →
      current[0]? = some value →
      ReduceLoop reduceRound current value
  | again {current next : List T} {value : T} :
      1 < current.length →
      reduceRound current next →
      ReduceLoop reduceRound next value →
      ReduceLoop reduceRound current value

/-- No sequence of rounds of the loop goes on for ever. -/
def ReduceLoopEnds
    (reduceRound : List T → List T → Prop)
    (current : List T) : Prop :=
  Acc (fun next current => 1 < current.length ∧ reduceRound current next)
    current

namespace Pool

/-- An element of `carry`. -/
structure CarriedValue (T : Type) where
  idx : Nat
  value : T

/-- What the first loop of a round of `Pool.reduce` makes. -/
structure PairedRound (T : Type) where
  pairs : List (List T)
  carry : List (CarriedValue T)

/-- The first loop of a round, from an even index on. -/
def pairUp (made : PairedRound T) : List T → PairedRound T
  | first :: second :: rest =>
      pairUp { made with pairs := made.pairs ++ [[first, second]] } rest
  | [last] =>
      { pairs := made.pairs ++ [[last]]
        carry := made.carry ++ [{ idx := made.pairs.length, value := last }] }
  | [] => made

/-- The entries of length two, as the arguments of the reducer. -/
def PairedRound.validPairs (made : PairedRound T) : List (T × T) :=
  made.pairs.filterMap fun
    | [first, second] => some (first, second)
    | _ => none

/-- The second loop of a round; nothing where it reads past `reduced`. -/
def mergeFrom
    (carry : List (CarriedValue T))
    (reduced : List T) :
    (indices : List Nat) → (reducedIdx : Nat) → Option (List T)
  | [], _ => some []
  | i :: rest, reducedIdx =>
      match carry.find? (fun carried => carried.idx == i) with
      | some carried =>
          (mergeFrom carry reduced rest reducedIdx).map (carried.value :: ·)
      | none =>
          match reduced[reducedIdx]? with
          | some value =>
              (mergeFrom carry reduced rest (reducedIdx + 1)).map (value :: ·)
          | none => none

/-- `next` at the end of a round. -/
def PairedRound.merge
    (made : PairedRound T)
    (reduced : List T) : Option (List T) :=
  mergeFrom made.carry reduced (List.range made.pairs.length) 0

/-- One round of `Pool.reduce`. -/
def ReduceRound
    (stackOf : String → Option String)
    (fn : T → T → T)
    (current next : List T) : Prop :=
  let made := pairUp { pairs := [], carry := [] } current
  ∃ reduced,
    FanOutReturns .throw stackOf (fun pair => fn pair.1 pair.2)
      made.validPairs reduced ∧
      made.merge reduced = some next

/-- `Pool.reduce` resolves to the value. -/
def Reduces
    (stackOf : String → Option String)
    (fn : T → T → T)
    (items : List T)
    (initial value : T) : Prop :=
  if items = [] then
    value = initial
  else
    ReduceLoop (ReduceRound stackOf fn) (initial :: items) value

end Pool

namespace LoaderOnlyPoolImpl

/-- An element of `round`. -/
inductive RoundPromise (T : Type) where
  | runOnce (first second : T) (taskSlot : Nat)
  | resolved (value : T)

/-- What the promise resolves to, when the call succeeds. -/
def RoundPromise.value (fn : T → T → T) : RoundPromise T → T
  | .runOnce first second _ => fn first second
  | .resolved value => value

/-- The loop of a round of `LoaderOnlyPoolImpl.reduce`. -/
def startRound : (slot : Nat) → List T → List (RoundPromise T)
  | slot, first :: second :: rest =>
      .runOnce first second slot :: startRound (slot + 1) rest
  | _, [last] => [.resolved last]
  | _, [] => []

/-- One round: `Promise.all` gives the values by position. -/
def reduceRound
    (fn : T → T → T)
    (current : List T) : List T :=
  (startRound 0 current).map (RoundPromise.value fn)

/-- `LoaderOnlyPoolImpl.reduce` resolves to the value. -/
def Reduces
    (fn : T → T → T)
    (items : List T)
    (initial value : T) : Prop :=
  if items = [] then
    value = initial
  else
    ReduceLoop (fun current next => next = reduceRound fn current)
      (initial :: items) value

end LoaderOnlyPoolImpl

namespace PoolFake

/-- One round of `reduce` of the pool for tests, with what it has pushed. -/
def reduceRound
    (fn : T → T → T)
    (next : List T) : List T → List T
  | first :: second :: rest =>
      reduceRound fn (next ++ [fn first second]) rest
  | [last] => next ++ [last]
  | [] => next

/-- `reduce` of the pool for tests resolves to the value. -/
def Reduces
    (fn : T → T → T)
    (items : List T)
    (initial value : T) : Prop :=
  ReduceLoop (fun current next => next = reduceRound fn [] current)
    (initial :: items) value

end PoolFake

/-! ## The rounds -/

namespace LoaderOnlyPoolImpl

/-- The promises of a round resolve to the round of pairs. -/
theorem map_value_startRound
    (fn : T → T → T)
    (slot : Nat)
    (current : List T) :
    (startRound slot current).map (RoundPromise.value fn) =
      pairRound fn current := by
  induction current using pairRound.induct generalizing slot with
  | case1 first second rest inductionHypothesis =>
      simp only [startRound, pairRound, List.map_cons, RoundPromise.value,
        inductionHypothesis]
  | case2 last => rfl
  | case3 => rfl

/-- A round of `LoaderOnlyPoolImpl.reduce` is the round of pairs. -/
theorem reduceRound_eq
    (fn : T → T → T)
    (current : List T) :
    reduceRound fn current = pairRound fn current :=
  map_value_startRound fn 0 current

end LoaderOnlyPoolImpl

namespace PoolFake

/-- A round pushes the round of pairs. -/
theorem reduceRound_eq
    (fn : T → T → T)
    (next current : List T) :
    reduceRound fn next current = next ++ pairRound fn current := by
  induction current using pairRound.induct generalizing next with
  | case1 first second rest inductionHypothesis =>
      simp only [reduceRound, pairRound, inductionHypothesis, List.append_assoc,
        List.singleton_append]
  | case2 last => rfl
  | case3 => simp [reduceRound, pairRound]

end PoolFake

namespace Pool

/-- The pairs of a list, with the placeholder of an odd last element. -/
def couples : List T → List (List T)
  | first :: second :: rest => [first, second] :: couples rest
  | [last] => [[last]]
  | [] => []

/-- What is carried of a list whose first pair gets an index. -/
def carriedFrom (idx : Nat) : List T → List (CarriedValue T)
  | _ :: _ :: rest => carriedFrom (idx + 1) rest
  | [last] => [{ idx := idx, value := last }]
  | [] => []

/-- The first loop adds the pairs and what is carried. -/
theorem pairUp_eq
    (made : PairedRound T)
    (current : List T) :
    pairUp made current =
      { pairs := made.pairs ++ couples current
        carry := made.carry ++ carriedFrom made.pairs.length current } := by
  induction current using pairRound.induct generalizing made with
  | case1 first second rest inductionHypothesis =>
      rw [pairUp, inductionHypothesis]
      simp [couples, carriedFrom]
  | case2 last => rfl
  | case3 => simp [pairUp, couples, carriedFrom]

/-- What is carried has the index of a pair that is still to come. -/
theorem le_idx_of_mem_carriedFrom
    {idx : Nat}
    {current : List T}
    {carried : CarriedValue T}
    (member : carried ∈ carriedFrom idx current) :
    idx ≤ carried.idx := by
  induction current using pairRound.induct generalizing idx with
  | case1 first second rest inductionHypothesis =>
      have later : idx + 1 ≤ carried.idx := inductionHypothesis member
      omega
  | case2 last =>
      cases List.mem_singleton.mp member
      exact Nat.le_refl _
  | case3 => cases member

/-- The arguments of the calls for the pairs of a list. -/
def arguments (current : List T) : List (T × T) :=
  PairedRound.validPairs { pairs := couples current, carry := [] }

/--
The second loop puts the results and the carried element in their places; by
induction on the list, with the results before it and the index of its first
pair as parameters.
-/
theorem mergeFrom_carriedFrom
    (fn : T → T → T)
    (current : List T)
    (idx : Nat)
    (before : List T) :
    mergeFrom (carriedFrom idx current)
        (before ++ (arguments current).map fun pair => fn pair.1 pair.2)
        (List.range' idx (couples current).length) before.length =
      some (pairRound fn current) := by
  induction current using pairRound.induct generalizing idx before with
  | case1 first second rest inductionHypothesis =>
      have noneHere :
          (carriedFrom (idx + 1) rest).find?
              (fun carried => carried.idx == idx) = none := by
        apply List.find?_eq_none.mpr
        intro carried member
        have later := le_idx_of_mem_carriedFrom member
        simp only [beq_iff_eq]
        omega
      have after := inductionHypothesis (idx + 1) (before ++ [fn first second])
      have split :
          before ++
              (arguments (first :: second :: rest)).map
                (fun pair => fn pair.1 pair.2) =
            before ++ [fn first second] ++
              (arguments rest).map fun pair => fn pair.1 pair.2 := by
        simp [arguments, PairedRound.validPairs, couples]
      have here :
          (before ++ [fn first second] ++
                (arguments rest).map fun pair =>
                  fn pair.1 pair.2)[before.length]? =
            some (fn first second) := by
        simp
      rw [List.length_append, List.length_singleton] at after
      rw [split]
      simp only [couples, carriedFrom, List.length_cons, List.range'_succ,
        mergeFrom, noneHere, here, after, pairRound, Option.map_some]
  | case2 last =>
      simp [couples, carriedFrom, mergeFrom, pairRound]
  | case3 => rfl

/-- A round of `Pool.reduce` is the round of pairs. -/
theorem reduceRound_iff
    (stackOf : String → Option String)
    (fn : T → T → T)
    (current next : List T) :
    ReduceRound stackOf fn current next ↔ next = pairRound fn current := by
  have made := pairUp_eq { pairs := [], carry := [] } current
  simp only [List.nil_append, List.length_nil] at made
  have merged := mergeFrom_carriedFrom fn current 0 []
  rw [List.nil_append, ← List.range_eq_range'] at merged
  unfold ReduceRound
  simp only [made, fanOutReturns_iff, exists_eq_left]
  unfold PairedRound.merge
  unfold arguments PairedRound.validPairs at merged
  unfold PairedRound.validPairs
  simp only [List.length_nil] at merged
  rw [merged]
  exact ⟨fun same => (Option.some.inj same).symm, fun same => same ▸ rfl⟩

end Pool

/-! ## The loop -/

section Loop

variable {fn : T → T → T}
variable {reduceRound : List T → List T → Prop}

/-- With one element left the loop gives it. -/
theorem reduceLoop_single
    (only value : T) :
    ReduceLoop reduceRound [only] value ↔ [only] = [value] := by
  constructor
  · intro loop
    cases loop with
    | done _ first =>
        cases first
        rfl
    | again more => exact absurd more (Nat.lt_irrefl 1)
  · intro same
    cases same
    exact .done (Nat.lt_irrefl 1) rfl

/-- With more elements the loop makes a round. -/
theorem reduceLoop_more
    (pairs :
      ∀ current next, reduceRound current next ↔ next = pairRound fn current)
    {current : List T}
    (more : 1 < current.length)
    (value : T) :
    ReduceLoop reduceRound current value ↔
      ReduceLoop reduceRound (pairRound fn current) value := by
  constructor
  · intro loop
    cases loop with
    | done single => exact absurd more single
    | again _ made rest =>
        rw [pairs] at made
        exact made ▸ rest
  · exact .again more ((pairs _ _).mpr rfl)

/-- A loop over rounds of pairs gives what enough rounds leave. -/
theorem reduceLoop_iff_pairRounds
    (pairs :
      ∀ current next, reduceRound current next ↔ next = pairRound fn current)
    {count : Nat}
    {current : List T}
    (nonempty : 0 < current.length)
    (enough : current.length ≤ count + 1)
    (value : T) :
    ReduceLoop reduceRound current value ↔
      pairRounds fn count current = [value] := by
  induction count generalizing current with
  | zero =>
      have single : current.length = 1 := by omega
      obtain ⟨only, rfl⟩ := List.length_eq_one_iff.mp single
      exact reduceLoop_single only value
  | succ count inductionHypothesis =>
      unfold pairRounds
      split
      next more =>
        have halved := length_pairRound fn current
        have left : 0 < (pairRound fn current).length := by omega
        rw [reduceLoop_more pairs more]
        exact inductionHypothesis left (by omega)
      next few =>
        have single : current.length = 1 := by omega
        obtain ⟨only, rfl⟩ := List.length_eq_one_iff.mp single
        exact reduceLoop_single only value

/-- A loop over rounds of pairs evaluates the tree of the rounds. -/
theorem reduceLoop_iff
    (pairs :
      ∀ current next, reduceRound current next ↔ next = pairRound fn current)
    (initial : T)
    (items : List T)
    (value : T) :
    ReduceLoop reduceRound (initial :: items) value ↔
      value = (pairingTree initial items).evaluate fn := by
  rw [@reduceLoop_iff_pairRounds _ fn _ pairs items.length (initial :: items)
      (by simp) (by simp), pairRounds_eq_evaluate, List.singleton_inj]
  exact eq_comm

/-- A round of pairs makes the list shorter, so the loop ends. -/
theorem reduceLoopEnds
    (pairs :
      ∀ current next, reduceRound current next ↔ next = pairRound fn current)
    (current : List T) :
    ReduceLoopEnds reduceRound current := by
  have shorter :
      ∀ {next current : List T},
        1 < current.length ∧ reduceRound current next →
        next.length < current.length := by
    rintro next current ⟨more, made⟩
    have halved := length_pairRound fn current
    rw [(pairs current next).mp made]
    omega
  exact
    (Subrelation.wf shorter (measure List.length).wf).apply current

end Loop

/--
Parallel reduce is a fold.  In both pools, and in the pool for tests, the loop
over the rounds ends, every fan-out of a round ends under every schedule, and
the value is that of one tree, which is built from the order of the elements
alone: its leaves are the initial value and the items in order.  An associative
reducer makes it the fold from the left.
-/
theorem reduce_isFold
    (stackOf : String → Option String)
    (fn : T → T → T)
    (items : List T)
    (initial : T) :
    (ReduceLoopEnds (Pool.ReduceRound stackOf fn) (initial :: items) ∧
      ReduceLoopEnds
        (fun current next =>
          next = LoaderOnlyPoolImpl.reduceRound fn current)
        (initial :: items) ∧
      ∀ (results : List (Except Rejection T)) (steps : List RunFanOutStep)
        (state : RunFanOutState Nat T),
        (Pool.fanOutOptions .throw stackOf results).Reaches steps state →
        steps.length ≤ 3 * results.length + 1) ∧
    (pairingTree initial items).leaves = initial :: items ∧
    (∀ value,
      (Pool.Reduces stackOf fn items initial value ↔
        value = (pairingTree initial items).evaluate fn) ∧
      (LoaderOnlyPoolImpl.Reduces fn items initial value ↔
        value = (pairingTree initial items).evaluate fn) ∧
      (PoolFake.Reduces fn items initial value ↔
        value = (pairingTree initial items).evaluate fn)) ∧
    ((∀ first second third,
        fn (fn first second) third = fn first (fn second third)) →
      (pairingTree initial items).evaluate fn = items.foldl fn initial) := by
  have poolRounds := Pool.reduceRound_iff stackOf fn
  have loaderRounds :
      ∀ current next : List T,
        next = LoaderOnlyPoolImpl.reduceRound fn current ↔
          next = pairRound fn current := by
    intro current next
    rw [LoaderOnlyPoolImpl.reduceRound_eq]
  have fakeRounds :
      ∀ current next : List T,
        next = PoolFake.reduceRound fn [] current ↔
          next = pairRound fn current := by
    intro current next
    rw [PoolFake.reduceRound_eq, List.nil_append]
  have leaves := leaves_pairingTree initial items
  have none :
      items = [] → (pairingTree initial items).evaluate fn = initial := by
    rintro rfl
    rfl
  refine ⟨⟨?_, ?_, ?_⟩, leaves, ?_, ?_⟩
  · exact reduceLoopEnds poolRounds _
  · exact reduceLoopEnds loaderRounds _
  · intro results steps state reached
    exact Pool.fanOutOptions_bounded .throw stackOf results reached
  · intro value
    refine ⟨?_, ?_, ?_⟩
    · unfold Pool.Reduces
      split
      next empty => rw [none empty]
      next => exact reduceLoop_iff poolRounds initial items value
    · unfold LoaderOnlyPoolImpl.Reduces
      split
      next empty => rw [none empty]
      next => exact reduceLoop_iff loaderRounds initial items value
    · exact reduceLoop_iff fakeRounds initial items value
  · intro associative
    exact PairingTree.evaluate_eq_foldl associative leaves

/-- Six is the sum of three items and zero. -/
theorem reduce_isFold_sum :
    Pool.Reduces (fun _ => none) (· + ·) [1, 2, 3] 0 6 :=
  ((reduce_isFold (fun _ => none) (· + ·) [1, 2, 3] 0).2.2.1 6).1.mpr rfl

end CloudflareParallel
