import Mathlib.Algebra.BigOperators.Group.List.Basic
import Mathlib.Algebra.GroupWithZero.Nat
import Mathlib.Data.Finite.Prod
import Mathlib.Data.Fintype.Card
import Mathlib.Data.List.Nodup
import Mathlib.Data.List.Pairwise
import Mathlib.Data.List.Perm.Basic
import Mathlib.Logic.Relation

namespace GraphUnfolding

open scoped List

/-!
# Unfolding a graph into a tree

A graph gives for each node the nodes it refers to, in order.  Its unfolding
from some roots visits every root followed by everything below it, and visits a
node again wherever it is met again.  An unfolding exists exactly when no node
reached from the roots reaches itself, and it visits no node twice exactly when
no node is referred to twice.
-/

variable {Node : Type}

/-- The parent refers to the child. -/
def RefersTo
    (references : Node → List Node)
    (parent child : Node) : Prop :=
  child ∈ references parent

/-- The nodes met by unfolding a list of roots, in order. -/
inductive Unfolds (references : Node → List Node) :
    List Node → List Node → Prop where
  | nil :
      Unfolds references [] []
  | cons {node : Node} {roots below after : List Node} :
      Unfolds references (references node) below →
      Unfolds references roots after →
      Unfolds references (node :: roots) (node :: (below ++ after))

/-- A path leads from one of the roots to the node. -/
def Reaches
    (references : Node → List Node)
    (roots : List Node)
    (node : Node) : Prop :=
  ∃ root ∈ roots,
    Relation.ReflTransGen (RefersTo references) root node

/-- Some node reached from the roots reaches itself. -/
def Cyclic
    (references : Node → List Node)
    (roots : List Node) : Prop :=
  ∃ node, Reaches references roots node ∧
    Relation.TransGen (RefersTo references) node node

/-- No node is referred to twice by the nodes reached from the roots. -/
structure Unshared
    (references : Node → List Node)
    (roots : List Node) : Prop where
  withinNode :
    ∀ node, Reaches references roots node → (references node).Nodup
  acrossNodes :
    ∀ first second,
      Reaches references roots first →
      Reaches references roots second →
      first ≠ second →
      List.Disjoint (references first) (references second)

variable {references : Node → List Node}

/-- A root is reached. -/
theorem Reaches.root
    {roots : List Node}
    {root : Node}
    (member : root ∈ roots) :
    Reaches references roots root :=
  ⟨root, member, .refl⟩

/-- What a reached node refers to is reached. -/
theorem Reaches.step
    {roots : List Node}
    {parent child : Node}
    (reached : Reaches references roots parent)
    (refers : child ∈ references parent) :
    Reaches references roots child := by
  obtain ⟨root, member, path⟩ := reached
  exact ⟨root, member, path.tail refers⟩

namespace Unfolds

/-- Roots have one unfolding at most. -/
theorem unique
    {roots first second : List Node}
    (unfolds : Unfolds references roots first)
    (again : Unfolds references roots second) :
    first = second := by
  induction unfolds generalizing second with
  | nil =>
      cases again
      rfl
  | cons _ _ belowHypothesis afterHypothesis =>
      cases again with
      | cons below after =>
          rw [belowHypothesis below, afterHypothesis after]

/-- Unfolding more roots visits more nodes after the ones before. -/
theorem append
    {first second firstVisits secondVisits : List Node}
    (unfoldsFirst : Unfolds references first firstVisits)
    (unfoldsSecond : Unfolds references second secondVisits) :
    Unfolds references (first ++ second) (firstVisits ++ secondVisits) := by
  induction unfoldsFirst with
  | nil =>
      exact unfoldsSecond
  | cons below _ _ afterHypothesis =>
      rw [List.cons_append, List.cons_append, List.append_assoc]
      exact .cons below afterHypothesis

/-- The visits of two lists of roots are those of the first, then the second. -/
theorem of_append
    {first second visits : List Node}
    (unfolds : Unfolds references (first ++ second) visits) :
    ∃ firstVisits secondVisits,
      visits = firstVisits ++ secondVisits ∧
        Unfolds references first firstVisits ∧
        Unfolds references second secondVisits := by
  induction first generalizing visits with
  | nil =>
      exact ⟨[], visits, rfl, .nil, unfolds⟩
  | cons root rest inductionHypothesis =>
      cases unfolds with
      | @cons _ _ below _ unfoldsBelow unfoldsAfter =>
          obtain ⟨firstVisits, secondVisits, rfl, unfoldsFirst, unfoldsSecond⟩ :=
            inductionHypothesis unfoldsAfter
          refine ⟨root :: (below ++ firstVisits), secondVisits, ?_,
            .cons unfoldsBelow unfoldsFirst, unfoldsSecond⟩
          rw [List.cons_append, List.append_assoc]

/-- The visited nodes are the roots and the references of visited nodes. -/
theorem perm
    {roots visits : List Node}
    (unfolds : Unfolds references roots visits) :
    visits.Perm (roots ++ visits.flatMap references) := by
  induction unfolds with
  | nil =>
      exact .nil
  | @cons node roots below after _ _ belowHypothesis afterHypothesis =>
      rw [List.flatMap_cons, List.flatMap_append, List.cons_append]
      refine .cons node ?_
      calc below ++ after
        _ ~ (references node ++ below.flatMap references) ++
              (roots ++ after.flatMap references) :=
            belowHypothesis.append afterHypothesis
        _ ~ references node ++
              (roots ++ (below.flatMap references ++ after.flatMap references)) := by
            rw [List.append_assoc]
            exact (List.perm_append_comm_assoc ..).append_left _
        _ ~ roots ++ (references node ++
              (below.flatMap references ++ after.flatMap references)) :=
            List.perm_append_comm_assoc ..

/-- The visited nodes are the reached ones. -/
theorem mem_iff
    {roots visits : List Node}
    (unfolds : Unfolds references roots visits)
    {node : Node} :
    node ∈ visits ↔ Reaches references roots node := by
  constructor
  · intro visited
    induction unfolds with
    | nil =>
        cases visited
    | @cons parent roots below after _ _ belowHypothesis afterHypothesis =>
        rw [List.mem_cons, List.mem_append] at visited
        obtain rfl | inBelow | inAfter := visited
        · exact .root (List.mem_cons_self ..)
        · obtain ⟨child, refers, path⟩ := belowHypothesis inBelow
          exact ⟨parent, List.mem_cons_self .., path.head refers⟩
        · obtain ⟨root, member, path⟩ := afterHypothesis inAfter
          exact ⟨root, List.mem_cons_of_mem _ member, path⟩
  · rintro ⟨root, member, path⟩
    induction path with
    | refl =>
        exact unfolds.perm.mem_iff.2 (List.mem_append_left _ member)
    | tail _ refers inductionHypothesis =>
        exact unfolds.perm.mem_iff.2 (List.mem_append_right _
          (List.mem_flatMap_of_mem inductionHypothesis refers))

/-- Going from parents to children ends, below an unfolded root. -/
theorem acc_root
    {roots visits : List Node}
    (unfolds : Unfolds references roots visits) :
    ∀ root ∈ roots,
      Acc (fun child parent => RefersTo references parent child) root := by
  induction unfolds with
  | nil =>
      intro root member
      cases member
  | cons _ _ belowHypothesis afterHypothesis =>
      intro root member
      obtain rfl | later := List.mem_cons.1 member
      · exact .intro root fun child refers => belowHypothesis child refers
      · exact afterHypothesis root later

end Unfolds

/-- A node does not reach itself when all paths below it end. -/
theorem not_transGen_self_of_acc
    {node : Node}
    (ends : Acc (fun child parent => RefersTo references parent child) node) :
    ¬ Relation.TransGen (RefersTo references) node node := by
  intro loop
  have transEnds := ends.transGen
  clear ends
  induction transEnds with
  | intro node _ inductionHypothesis =>
      exact inductionHypothesis node (Relation.transGen_swap.2 loop) loop

/-- What is unfolded has no cycle. -/
theorem Unfolds.not_cyclic
    {roots visits : List Node}
    (unfolds : Unfolds references roots visits) :
    ¬ Cyclic references roots := by
  rintro ⟨node, ⟨root, member, path⟩, loop⟩
  refine not_transGen_self_of_acc ?_ loop
  clear loop
  induction path with
  | refl =>
      exact unfolds.acc_root root member
  | tail _ refers inductionHypothesis =>
      exact inductionHypothesis.inv refers

/-- Roots that can be unfolded one by one can be unfolded together. -/
theorem exists_unfolds_of_each
    {roots : List Node}
    (each :
      ∀ root ∈ roots, ∃ below, Unfolds references (references root) below) :
    ∃ visits, Unfolds references roots visits := by
  induction roots with
  | nil =>
      exact ⟨[], .nil⟩
  | cons root rest inductionHypothesis =>
      obtain ⟨eachRoot, eachRest⟩ := List.forall_mem_cons.1 each
      obtain ⟨below, unfoldsBelow⟩ := eachRoot
      obtain ⟨after, unfoldsAfter⟩ := inductionHypothesis eachRest
      exact ⟨_, .cons unfoldsBelow unfoldsAfter⟩

/-- A finite graph without a cycle can be unfolded. -/
theorem exists_unfolds
    [Finite Node]
    {roots : List Node}
    (acyclic : ¬ Cyclic references roots) :
    ∃ visits, Unfolds references roots visits := by
  let Below (child parent : { node // Reaches references roots node }) :=
    Relation.TransGen (RefersTo references) parent.1 child.1
  have : IsTrans _ Below :=
    ⟨fun _ _ _ first second => second.trans first⟩
  have : Std.Irrefl Below :=
    ⟨fun node loop => acyclic ⟨node.1, node.2, loop⟩⟩
  have : Finite { node // Reaches references roots node } :=
    Subtype.finite
  have ends : WellFounded Below :=
    Finite.wellFounded_of_trans_of_irrefl Below
  refine exists_unfolds_of_each fun root member => ?_
  refine ends.induction
    (C := fun node => ∃ below, Unfolds references (references node.1) below)
    ⟨root, .root member⟩ ?_
  intro node inductionHypothesis
  refine exists_unfolds_of_each fun child refers => ?_
  exact inductionHypothesis ⟨child, node.2.step refers⟩ (.single refers)

/-- A sum over a list that only one kind of item adds to, and at most one. -/
theorem sum_map_le_count
    [DecidableEq Node]
    {weight : Node → Nat}
    {heavy : Node}
    (bound : weight heavy ≤ 1)
    {nodes : List Node}
    (others : ∀ node ∈ nodes, node ≠ heavy → weight node = 0) :
    (nodes.map weight).sum ≤ nodes.count heavy := by
  induction nodes with
  | nil =>
      simp
  | cons node rest inductionHypothesis =>
      obtain ⟨first, later⟩ := List.forall_mem_cons.1 others
      have restBound := inductionHypothesis later
      rw [List.map_cons, List.sum_cons, List.count_cons]
      by_cases same : node = heavy
      · subst same
        simp only [beq_self_eq_true, if_true]
        omega
      · have weightless := first same
        omega

/-- An unfolding that meets no node twice comes from a graph without sharing. -/
theorem Unfolds.unshared_of_nodup
    {roots visits : List Node}
    (unfolds : Unfolds references roots visits)
    (once : visits.Nodup) :
    Unshared references roots := by
  have referencesOnce : (visits.flatMap references).Nodup :=
    (unfolds.perm.nodup_iff.1 once).of_append_right
  obtain ⟨within, across⟩ := List.nodup_flatMap.1 referencesOnce
  refine { withinNode := ?_, acrossNodes := ?_ }
  · intro node reached
    exact within node (unfolds.mem_iff.2 reached)
  · intro first second firstReached secondReached distinct
    have : Std.Symm (Function.onFun List.Disjoint references) :=
      ⟨fun _ _ apart => apart.symm⟩
    exact across.forall
      (unfolds.mem_iff.2 firstReached) (unfolds.mem_iff.2 secondReached)
      distinct

/-- Without a cycle and without sharing an unfolding meets no node twice. -/
theorem Unfolds.nodup_of_unshared
    [DecidableEq Node]
    {root : Node}
    {visits : List Node}
    (unfolds : Unfolds references [root] visits)
    (unshared : Unshared references [root]) :
    visits.Nodup := by
  have acyclic := unfolds.not_cyclic
  have rootReached : Reaches references [root] root :=
    .root (List.mem_singleton_self root)
  refine List.nodup_iff_count_le_one.2 fun node => ?_
  by_cases visited : node ∈ visits
  case neg =>
    rw [List.count_eq_zero.2 visited]
    omega
  obtain ⟨start, member, path⟩ := unfolds.mem_iff.1 visited
  rw [List.mem_singleton.1 member] at path
  clear visited
  -- a node is met as often as its only parent, by induction on a path to it
  induction path with
  | refl =>
      have noParent :
          ∀ parent ∈ visits, (references parent).count root = 0 := by
        intro parent met
        refine List.count_eq_zero.2 fun refers => acyclic ?_
        obtain ⟨start, member, path⟩ := unfolds.mem_iff.1 met
        rw [List.mem_singleton.1 member] at path
        exact ⟨root, rootReached, .tail' path refers⟩
      rw [unfolds.perm.count_eq, List.count_append, List.count_flatMap]
      have weightless : (visits.map (List.count root ∘ references)).sum = 0 :=
        List.sum_eq_zero (by simpa using noParent)
      rw [weightless, List.count_singleton_self]
  | @tail parent child path refers inductionHypothesis =>
      have parentReached : Reaches references [root] parent :=
        ⟨root, List.mem_singleton_self root, path⟩
      have notRoot : child ≠ root := by
        rintro rfl
        exact acyclic ⟨child, rootReached, .tail' path refers⟩
      have onlyParent :
          ∀ other ∈ visits, other ≠ parent →
            (references other).count child = 0 := by
        intro other met distinct
        have apart :=
          unshared.acrossNodes other parent (unfolds.mem_iff.1 met)
            parentReached distinct
        exact List.count_eq_zero.2 fun also => apart also refers
      have onceThere : (references parent).count child ≤ 1 :=
        List.nodup_iff_count_le_one.1
          (unshared.withinNode parent parentReached) child
      have weighed :
          (visits.map (List.count child ∘ references)).sum ≤
            visits.count parent :=
        @sum_map_le_count Node _ (List.count child ∘ references) parent
          onceThere visits onlyParent
      have rootOnly : [root].count child = 0 :=
        List.count_eq_zero.2 (by simpa using notRoot)
      rw [unfolds.perm.count_eq, List.count_append, List.count_flatMap,
        rootOnly]
      omega

end GraphUnfolding
