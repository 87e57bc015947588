import CloudflareParallel.Coordinator
import CloudflareParallel.Library.SegmentedNames

namespace CloudflareParallel

open ListSlices SegmentedNames

/-!
# Where a fan-out puts its jobs

A leaf is named after the way to it: the sub-coordinators on the way, each by
its index under the one before, and its own place under the last one.
`LeafAddress` is that way, `leafName` writes it, and no two ways are written
alike, because Durable Object ids are told apart by their names.  `jobAddress`
gives every position of a plan its address, and no two positions the same one.
-/

/-- The way from a sub-coordinator to a leaf below it. -/
@[ext]
structure TierAddress where
  subs : List Nat
  sliceIdx : Nat
  jobIdx : Nat
  deriving Repr, DecidableEq

/-- The way from the coordinator to a leaf. -/
inductive LeafAddress where
  | hybrid (leafIdx : Nat)
  | tree (subIdx : Nat) (below : TierAddress)
  deriving Repr, DecidableEq

/-- The id of the sub-coordinator at the end of a way. -/
def subCoordId
    (idFromName : String → String)
    (ownerId : String) : List Nat → String
  | [] => ownerId
  | i :: rest =>
      subCoordId idFromName
        (idFromName s!"{ownerId}-r{reqIdx}-sub-{i}") rest

/-- The name of a leaf below a sub-coordinator. -/
def TierAddress.leafName
    (idFromName : String → String)
    (ownerId : String)
    (address : TierAddress) : String :=
  let lastId := subCoordId idFromName ownerId address.subs
  s!"{lastId}-r{reqIdx}-leaf-{address.sliceIdx}-{address.jobIdx}"

/-- The name of a leaf. -/
def LeafAddress.leafName
    (idFromName : String → String)
    (coordId : String) : LeafAddress → String
  | .hybrid leafIdx => s!"{coordId}-{requestId}-leaf-{leafIdx}"
  | .tree subIdx below =>
      below.leafName idFromName
        (idFromName s!"{coordId}-{requestId}-sub-{subIdx}")

/--
The address of a position below a sub-coordinator that has a number of deeper
levels: the slice it falls into, and the way on from there.
-/
def tierAddress
    (branchingFactor : Nat) :
    (levels : Nat) → (childSizes : List Nat) → (position : Nat) →
      Option TierAddress
  | 0, childSizes, position =>
      (locate childSizes position).map fun place =>
        { subs := [], sliceIdx := place.1, jobIdx := place.2 }
  | levels + 1, childSizes, position =>
      (locate childSizes position).bind fun place =>
        childSizes[place.1]?.bind fun size =>
          (tierAddress branchingFactor levels
              (balancedFill size branchingFactor) place.2).map
            fun below => { below with subs := place.1 :: below.subs }

/-- The address of a position of a fan-out plan. -/
def FanOutPlan.jobAddress : FanOutPlan → Nat → Option LeafAddress
  | .hybrid plan, position =>
      (locate plan.leafShape position).map fun place => .hybrid place.1
  | .tree _ branchingFactor depth children, position =>
      (locate (children.map FanOutPlan.size) position).bind fun place =>
        children[place.1]?.bind fun child =>
          (tierAddress branchingFactor (depth - 1 - 1)
              (planSliceChildSizes child) place.2).map (.tree place.1)

/-- The address of a position of a plan; `in-do` runs where the plan is. -/
def TopologyPlan.jobAddress : TopologyPlan → Nat → Option LeafAddress
  | .inDo _, _ => none
  | .fanOut plan, position => plan.jobAddress position

section Names

/-- Interpolating a string inserts it as it is. -/
@[simp] private theorem toString_string
    (text : String) :
    toString text = text :=
  rfl

/-- The name of a sub-coordinator of the coordinator. -/
theorem toList_subName
    (coordId : String)
    (subIdx : Nat) :
    s!"{coordId}-{requestId}-sub-{subIdx}".toList =
      extend '-' coordId.toList
        [[], ['s', 'u', 'b'], number subIdx] := by
  simp [extend, number, requestId]

/-- The name of a hybrid leaf. -/
theorem toList_hybridLeafName
    (coordId : String)
    (leafIdx : Nat) :
    s!"{coordId}-{requestId}-leaf-{leafIdx}".toList =
      extend '-' coordId.toList
        [[], ['l', 'e', 'a', 'f'], number leafIdx] := by
  simp [extend, number, requestId]

/-- The name of a sub-coordinator of another one. -/
theorem toList_subId
    (ownerId : String)
    (i : Nat) :
    s!"{ownerId}-r{reqIdx}-sub-{i}".toList =
      extend '-' ownerId.toList
        [['r', '0'], ['s', 'u', 'b'], number i] := by
  simp [extend, number, reqIdx]

/-- The name of a leaf of a sub-coordinator. -/
theorem toList_tierLeafName
    (ownerId : String)
    (sliceIdx jobIdx : Nat) :
    s!"{ownerId}-r{reqIdx}-leaf-{sliceIdx}-{jobIdx}".toList =
      extend '-' ownerId.toList
        [['r', '0'], ['l', 'e', 'a', 'f'], number sliceIdx,
          number jobIdx] := by
  simp [extend, number, reqIdx]

/-- No dash occurs in a number. -/
@[simp] private theorem dash_notMem_number
    (n : Nat) :
    '-' ∉ number n :=
  notMem_number rfl n

/-- The sub-coordinators of the coordinator are told apart by their index. -/
theorem subName_inj
    {coordId : String}
    {first second : Nat}
    (same :
      s!"{coordId}-{requestId}-sub-{first}" =
        s!"{coordId}-{requestId}-sub-{second}") :
    first = second := by
  obtain ⟨_, sameSegments⟩ :=
    parts_eq_of_texts_eq (toList_subName coordId first)
      (toList_subName coordId second) (by simp [Separable])
      (by simp [Separable]) rfl same
  simpa [number_inj] using sameSegments

/-- Sub-coordinators of others are told apart by the other and their index. -/
theorem subId_inj
    {firstOwner secondOwner : String}
    {first second : Nat}
    (same :
      s!"{firstOwner}-r{reqIdx}-sub-{first}" =
        s!"{secondOwner}-r{reqIdx}-sub-{second}") :
    firstOwner = secondOwner ∧ first = second := by
  obtain ⟨sameOwner, sameSegments⟩ :=
    parts_eq_of_texts_eq (toList_subId firstOwner first)
      (toList_subId secondOwner second) (by simp [Separable])
      (by simp [Separable]) rfl same
  exact ⟨String.toList_inj.mp sameOwner,
    by simpa [number_inj] using sameSegments⟩

/-- The first tier of sub-coordinators is told apart from all others. -/
theorem subName_ne_subId
    (coordId ownerId : String)
    (subIdx i : Nat) :
    s!"{coordId}-{requestId}-sub-{subIdx}" ≠
      s!"{ownerId}-r{reqIdx}-sub-{i}" := by
  intro same
  obtain ⟨_, sameSegments⟩ :=
    parts_eq_of_texts_eq (toList_subName coordId subIdx)
      (toList_subId ownerId i) (by simp [Separable])
      (by simp [Separable]) rfl same
  simp at sameSegments

/-- Hybrid leaves are told apart by their index. -/
theorem hybridLeafName_inj
    {coordId : String}
    {first second : Nat}
    (same :
      s!"{coordId}-{requestId}-leaf-{first}" =
        s!"{coordId}-{requestId}-leaf-{second}") :
    first = second := by
  obtain ⟨_, sameSegments⟩ :=
    parts_eq_of_texts_eq (toList_hybridLeafName coordId first)
      (toList_hybridLeafName coordId second) (by simp [Separable])
      (by simp [Separable]) rfl same
  simpa [number_inj] using sameSegments

/-- Leaves of sub-coordinators are told apart by owner, slice and job. -/
theorem tierLeafName_inj
    {firstOwner secondOwner : String}
    {firstSlice secondSlice firstJob secondJob : Nat}
    (same :
      s!"{firstOwner}-r{reqIdx}-leaf-{firstSlice}-{firstJob}" =
        s!"{secondOwner}-r{reqIdx}-leaf-{secondSlice}-{secondJob}") :
    firstOwner = secondOwner ∧
      firstSlice = secondSlice ∧ firstJob = secondJob := by
  obtain ⟨sameOwner, sameSegments⟩ :=
    parts_eq_of_texts_eq
      (toList_tierLeafName firstOwner firstSlice firstJob)
      (toList_tierLeafName secondOwner secondSlice secondJob)
      (by simp [Separable]) (by simp [Separable]) rfl same
  exact ⟨String.toList_inj.mp sameOwner,
    by simpa [number_inj] using sameSegments⟩

/-- Hybrid leaves are told apart from the leaves of sub-coordinators. -/
theorem hybridLeafName_ne_tierLeafName
    (coordId ownerId : String)
    (leafIdx sliceIdx jobIdx : Nat) :
    s!"{coordId}-{requestId}-leaf-{leafIdx}" ≠
      s!"{ownerId}-r{reqIdx}-leaf-{sliceIdx}-{jobIdx}" := by
  intro same
  -- Read back from the right, only the second name has its `r0` in front.
  have tierReads :
      s!"{ownerId}-r{reqIdx}-leaf-{sliceIdx}-{jobIdx}".toList =
        extend '-' (ownerId.toList ++ ['-', 'r', '0'])
          [['l', 'e', 'a', 'f'], number sliceIdx, number jobIdx] := by
    rw [toList_tierLeafName]
    simp [extend]
  obtain ⟨_, sameSegments⟩ :=
    parts_eq_of_texts_eq (toList_hybridLeafName coordId leafIdx) tierReads
      (by simp [Separable]) (by simp [Separable]) rfl same
  simp at sameSegments

end Names

section Injectivity

variable {idFromName : String → String}

/-- The last step of a way is taken last. -/
theorem subCoordId_concat
    (ownerId : String)
    (subs : List Nat)
    (last : Nat) :
    subCoordId idFromName ownerId (subs ++ [last]) =
      idFromName
        s!"{subCoordId idFromName ownerId subs}-r{reqIdx}-sub-{last}" := by
  induction subs generalizing ownerId with
  | nil =>
      rfl
  | cons first rest inductionHypothesis =>
      exact inductionHypothesis _

/--
Different ways lead to different sub-coordinators: read from the last step
back, until one of them is in the first tier.
-/
theorem subCoordId_inj
    (injective : Function.Injective idFromName)
    {coordId : String}
    {first second : Nat}
    {firstSubs secondSubs : List Nat}
    (same :
      subCoordId idFromName
          (idFromName s!"{coordId}-{requestId}-sub-{first}") firstSubs =
        subCoordId idFromName
          (idFromName s!"{coordId}-{requestId}-sub-{second}") secondSubs) :
    first = second ∧ firstSubs = secondSubs := by
  induction firstSubs using List.reverseRecOn generalizing secondSubs with
  | nil =>
      rcases List.eq_nil_or_concat secondSubs with
        rfl | ⟨secondInit, secondLast, rfl⟩
      · exact ⟨subName_inj (injective same), rfl⟩
      · rw [List.concat_eq_append, subCoordId_concat] at same
        exact (subName_ne_subId _ _ _ _ (injective same)).elim
  | append_singleton firstInit firstLast inductionHypothesis =>
      rcases List.eq_nil_or_concat secondSubs with
        rfl | ⟨secondInit, secondLast, rfl⟩
      · rw [subCoordId_concat] at same
        exact (subName_ne_subId _ _ _ _ (injective same).symm).elim
      · rw [List.concat_eq_append, subCoordId_concat,
          subCoordId_concat] at same
        obtain ⟨sameOwner, sameLast⟩ := subId_inj (injective same)
        obtain ⟨sameFirst, sameInit⟩ := inductionHypothesis sameOwner
        rw [List.concat_eq_append, sameInit, sameLast]
        exact ⟨sameFirst, rfl⟩

/-- Different addresses have different leaf names. -/
theorem LeafAddress.leafName_inj
    (injective : Function.Injective idFromName)
    {coordId : String}
    {first second : LeafAddress}
    (same :
      first.leafName idFromName coordId =
        second.leafName idFromName coordId) :
    first = second := by
  cases first with
  | hybrid firstIdx =>
      cases second with
      | hybrid secondIdx =>
          rw [hybridLeafName_inj same]
      | tree subIdx below =>
          exact (hybridLeafName_ne_tierLeafName _ _ _ _ _ same).elim
  | tree firstSub firstBelow =>
      cases second with
      | hybrid secondIdx =>
          exact (hybridLeafName_ne_tierLeafName _ _ _ _ _ same.symm).elim
      | tree secondSub secondBelow =>
          obtain ⟨sameOwner, sameSlice, sameJob⟩ := tierLeafName_inj same
          obtain ⟨sameSub, sameSubs⟩ := subCoordId_inj injective sameOwner
          rw [sameSub, TierAddress.ext sameSubs sameSlice sameJob]

end Injectivity

section Positions

/-- No two positions below a sub-coordinator have one address. -/
theorem tierAddress_inj
    {branchingFactor levels : Nat}
    {childSizes : List Nat}
    {first second : Nat}
    {address : TierAddress}
    (firstAt :
      tierAddress branchingFactor levels childSizes first = some address)
    (secondAt :
      tierAddress branchingFactor levels childSizes second = some address) :
    first = second := by
  induction levels generalizing childSizes first second address with
  | zero =>
      simp only [tierAddress, Option.map_eq_some_iff] at firstAt secondAt
      obtain ⟨place, firstPlace, rfl⟩ := firstAt
      obtain ⟨other, secondPlace, same⟩ := secondAt
      have samePlace : other = place :=
        Prod.ext (congrArg TierAddress.sliceIdx same)
          (congrArg TierAddress.jobIdx same)
      rw [samePlace] at secondPlace
      exact locate_inj firstPlace secondPlace
  | succ levels inductionHypothesis =>
      simp only [tierAddress, Option.bind_eq_some_iff,
        Option.map_eq_some_iff] at firstAt secondAt
      obtain ⟨⟨i, within⟩, firstPlace, size, sizeAt, below, firstBelow, rfl⟩ :=
        firstAt
      obtain ⟨⟨j, other⟩, secondPlace, size', sizeAt', below', secondBelow,
        same⟩ := secondAt
      obtain ⟨sameSubs, sameSlice, sameJob⟩ := TierAddress.mk.inj same
      obtain ⟨rfl, sameRest⟩ := List.cons.inj sameSubs
      obtain rfl : size' = size :=
        Option.some.inj (sizeAt'.symm.trans sizeAt)
      have sameBelow : below' = below :=
        TierAddress.ext sameRest sameSlice sameJob
      rw [sameBelow] at secondBelow
      obtain rfl : within = other :=
        inductionHypothesis firstBelow secondBelow
      exact locate_inj firstPlace secondPlace

/-- No two positions of a plan with one job per leaf have one address. -/
theorem FanOutPlan.jobAddress_inj
    {plan : FanOutPlan}
    (oneJobPerLeaf :
      ∀ hybrid, plan = .hybrid hybrid → ∀ size ∈ hybrid.leafShape, size = 1)
    {first second : Nat}
    {address : LeafAddress}
    (firstAt : plan.jobAddress first = some address)
    (secondAt : plan.jobAddress second = some address) :
    first = second := by
  cases plan with
  | hybrid hybrid =>
      -- A leaf of size one holds no position but its first.
      have onlyFirst :
          ∀ {position index within},
            locate hybrid.leafShape position = some (index, within) →
            within = 0 := by
        intro position index within located
        obtain ⟨size, sizeAt, inside⟩ := inside_of_locate located
        have sizeOne :=
          oneJobPerLeaf hybrid rfl size (List.mem_of_getElem? sizeAt)
        omega
      simp only [FanOutPlan.jobAddress, Option.map_eq_some_iff]
        at firstAt secondAt
      obtain ⟨⟨i, within⟩, firstPlace, rfl⟩ := firstAt
      obtain ⟨⟨j, other⟩, secondPlace, same⟩ := secondAt
      obtain rfl := LeafAddress.hybrid.inj same
      obtain rfl := onlyFirst firstPlace
      obtain rfl := onlyFirst secondPlace
      exact locate_inj firstPlace secondPlace
  | tree size branchingFactor depth children =>
      simp only [FanOutPlan.jobAddress, Option.bind_eq_some_iff,
        Option.map_eq_some_iff] at firstAt secondAt
      obtain ⟨⟨i, within⟩, firstPlace, child, childAt, below, firstBelow,
        rfl⟩ := firstAt
      obtain ⟨⟨j, other⟩, secondPlace, child', childAt', below', secondBelow,
        same⟩ := secondAt
      obtain ⟨rfl, rfl⟩ := LeafAddress.tree.inj same
      obtain rfl : child' = child :=
        Option.some.inj (childAt'.symm.trans childAt)
      obtain rfl : within = other :=
        tierAddress_inj firstBelow secondBelow
      exact locate_inj firstPlace secondPlace

end Positions

end CloudflareParallel
