import Mathlib.Data.List.Basic
import Mathlib.Data.List.Forall2
import Mathlib.Algebra.GroupWithZero.Nat

namespace ListSlices

/-!
# Slicing a list and reassembling per-slice results

`cut` walks a list of slice sizes with a running cursor and returns every
slice with the offset of its first element.  `Aligned` says that a result list
answers an item list position by position, where the relation also sees the
global position.  The two meet in `Aligned.flatten_mapIdx_cut`: answering every
slice at its own offset and concatenating the answers answers the whole list.
-/

/-- A contiguous part of a list and the position of its first element. -/
structure Slice (α : Type) where
  items : List α
  offset : Nat
  deriving Repr, DecidableEq

/-- Cut consecutive slices of the given sizes, starting at `cursor`. -/
def cut
    (items : List α) :
    Nat → List Nat → List (Slice α)
  | _, [] => []
  | cursor, size :: rest =>
      { items := (items.drop cursor).take size, offset := cursor } ::
        cut items (cursor + size) rest

/-- One slice is cut for every requested size. -/
@[simp] theorem length_cut
    (items : List α)
    (cursor : Nat)
    (sizes : List Nat) :
    (cut items cursor sizes).length = sizes.length := by
  induction sizes generalizing cursor with
  | nil =>
      rfl
  | cons size rest inductionHypothesis =>
      simp [cut, inductionHypothesis]

/-- A slice holds its requested number of items when the list is long enough. -/
theorem map_length_cut
    {items : List α}
    {cursor : Nat}
    {sizes : List Nat}
    (enough : cursor + sizes.sum ≤ items.length) :
    (cut items cursor sizes).map (fun slice => slice.items.length) =
      sizes := by
  induction sizes generalizing cursor with
  | nil =>
      rfl
  | cons size rest inductionHypothesis =>
      simp only [List.sum_cons] at enough
      have headLength :
          ((items.drop cursor).take size).length = size := by
        rw [List.length_take, List.length_drop]
        omega
      simp only [cut, List.map_cons, headLength]
      rw [inductionHypothesis (by omega)]

/-- The size requested for a slice is the number of its items. -/
theorem getElem?_sizes_of_cut
    {items : List α}
    {cursor : Nat}
    {sizes : List Nat}
    (enough : cursor + sizes.sum ≤ items.length)
    {index : Nat}
    {slice : Slice α}
    (found : (cut items cursor sizes)[index]? = some slice) :
    sizes[index]? = some slice.items.length := by
  rw [← map_length_cut enough, List.getElem?_map, found]
  rfl

/-- The items of a slice are items of the list, at their global position. -/
theorem getElem?_of_cut
    {items : List α}
    {cursor : Nat}
    {sizes : List Nat}
    {index within : Nat}
    {slice : Slice α}
    {item : α}
    (found : (cut items cursor sizes)[index]? = some slice)
    (holds : slice.items[within]? = some item) :
    items[slice.offset + within]? = some item := by
  induction sizes generalizing cursor index with
  | nil =>
      simp [cut] at found
  | cons size rest inductionHypothesis =>
      cases index with
      | zero =>
          simp only [cut, List.getElem?_cons_zero, Option.some.injEq] at found
          subst found
          rw [List.getElem?_take] at holds
          split at holds
          · rwa [List.getElem?_drop] at holds
          · cases holds
      | succ index =>
          exact inductionHypothesis found

/-- The slice that a position falls into, and the position inside it. -/
def locate : (sizes : List Nat) → (position : Nat) → Option (Nat × Nat)
  | [], _ => none
  | size :: rest, position =>
      if position < size then
        some (0, position)
      else
        (locate rest (position - size)).map fun found =>
          (found.1 + 1, found.2)

/-- A position is the sizes of the slices before its own, and its place there. -/
theorem eq_of_locate
    {sizes : List Nat}
    {position index within : Nat}
    (located : locate sizes position = some (index, within)) :
    position = (sizes.take index).sum + within := by
  induction sizes generalizing position index with
  | nil =>
      cases located
  | cons size rest inductionHypothesis =>
      unfold locate at located
      split at located
      next inside =>
        obtain ⟨rfl, rfl⟩ := Prod.mk.inj (Option.some.inj located)
        simp
      next beyond =>
        obtain ⟨⟨earlier, inSlice⟩, found, place⟩ :=
          Option.map_eq_some_iff.mp located
        obtain ⟨rfl, rfl⟩ := Prod.mk.inj place
        have inRest := inductionHypothesis found
        simp only [List.take_succ_cons, List.sum_cons]
        omega

/-- A located position is inside its slice. -/
theorem inside_of_locate
    {sizes : List Nat}
    {position index within : Nat}
    (located : locate sizes position = some (index, within)) :
    ∃ size, sizes[index]? = some size ∧ within < size := by
  induction sizes generalizing position index with
  | nil =>
      cases located
  | cons size rest inductionHypothesis =>
      unfold locate at located
      split at located
      next inside =>
        obtain ⟨rfl, rfl⟩ := Prod.mk.inj (Option.some.inj located)
        exact ⟨size, rfl, inside⟩
      next beyond =>
        obtain ⟨⟨earlier, inSlice⟩, found, place⟩ :=
          Option.map_eq_some_iff.mp located
        obtain ⟨rfl, rfl⟩ := Prod.mk.inj place
        exact inductionHypothesis found

/-- A place belongs to one position only. -/
theorem locate_inj
    {sizes : List Nat}
    {first second : Nat}
    {place : Nat × Nat}
    (firstPlace : locate sizes first = some place)
    (secondPlace : locate sizes second = some place) :
    first = second :=
  (eq_of_locate firstPlace).trans (eq_of_locate secondPlace).symm

/-- A position inside a cut slice is located there. -/
theorem locate_of_cut
    {items : List α}
    {cursor : Nat}
    {sizes : List Nat}
    (enough : cursor + sizes.sum ≤ items.length)
    {index within : Nat}
    {slice : Slice α}
    (found : (cut items cursor sizes)[index]? = some slice)
    (inside : within < slice.items.length) :
    ∃ lead,
      slice.offset = cursor + lead ∧
        locate sizes (lead + within) = some (index, within) := by
  induction sizes generalizing cursor index with
  | nil =>
      simp [cut] at found
  | cons size rest inductionHypothesis =>
      rw [List.sum_cons] at enough
      cases index with
      | zero =>
          simp only [cut, List.getElem?_cons_zero, Option.some.injEq] at found
          subst found
          have inSize : within < size := by
            rw [List.length_take] at inside
            omega
          exact ⟨0, rfl, by simp [locate, inSize]⟩
      | succ index =>
          obtain ⟨lead, offsetIs, located⟩ :=
            inductionHypothesis (by omega) found
          refine ⟨size + lead, by omega, ?_⟩
          have beyond : ¬ size + lead + within < size := by omega
          have shifted : size + lead + within - size = lead + within := by
            omega
          rw [locate, if_neg beyond, shifted, located]
          rfl

/-- Mapping over an indexed map is one indexed map. -/
theorem map_mapIdx
    (items : List α)
    (run : Nat → α → β)
    (project : β → γ) :
    (items.mapIdx run).map project =
      items.mapIdx fun index item => project (run index item) := by
  apply List.ext_getElem?
  intro index
  simp [Function.comp_def]

/-- An indexed map records what it ran at every position. -/
theorem mem_mapIdx_of_getElem?
    {items : List α}
    {index : Nat}
    {item : α}
    (run : Nat → α → β)
    (found : items[index]? = some item) :
    run index item ∈ items.mapIdx run :=
  List.mem_iff_getElem?.mpr
    ⟨index, by rw [List.getElem?_mapIdx, found]; rfl⟩

/-- Slices of a list that is used up hold nothing. -/
theorem mapIdx_cut_nil
    {items : List α}
    {cursor : Nat}
    {sizes : List Nat}
    {run : Nat → Slice α → β}
    {skip : β}
    (skipped : ∀ index slice, slice.items = [] → run index slice = skip)
    (usedUp : items.length ≤ cursor) :
    (cut items cursor sizes).mapIdx run = List.replicate sizes.length skip := by
  induction sizes generalizing cursor run with
  | nil =>
      rfl
  | cons size rest inductionHypothesis =>
      have nothing : (items.drop cursor).take size = [] := by
        rw [List.drop_eq_nil_of_le usedUp, List.take_nil]
      rw [cut, List.mapIdx_cons, skipped _ _ nothing,
        inductionHypothesis (fun _ _ => skipped _ _) (by omega)]
      rfl

/-- Of the slices of one last item, one holds it and the others nothing. -/
theorem mapIdx_cut_single
    {items : List α}
    {item : α}
    {cursor : Nat}
    {sizes : List Nat}
    {run : Nat → Slice α → β}
    {skip : β}
    (skipped : ∀ index slice, slice.items = [] → run index slice = skip)
    (last : items.drop cursor = [item])
    (one : sizes.sum = 1) :
    ∃ before after index,
      (cut items cursor sizes).mapIdx run =
        List.replicate before skip ++
          run index { items := [item], offset := cursor } ::
            List.replicate after skip := by
  induction sizes generalizing run with
  | nil =>
      cases one
  | cons size rest inductionHypothesis =>
      rw [List.sum_cons] at one
      have oneLeft := congrArg List.length last
      rw [List.length_drop, List.length_singleton] at oneLeft
      rcases Nat.eq_zero_or_pos size with rfl | someItem
      · obtain ⟨before, after, index, shape⟩ :=
          @inductionHypothesis (fun index => run (index + 1))
            (fun _ _ => skipped _ _) (by omega)
        refine ⟨before + 1, after, index + 1, ?_⟩
        rw [cut, List.mapIdx_cons, List.take_zero, skipped _ _ rfl,
          Nat.add_zero, shape, List.replicate_succ, List.cons_append]
      · obtain rfl : size = 1 := by omega
        refine ⟨0, rest.length, 0, ?_⟩
        rw [cut, List.mapIdx_cons, last,
          mapIdx_cut_nil (fun _ _ => skipped _ _) (by omega)]
        rfl

/-- A member on the right of two matched lists has its partner on the left. -/
theorem exists_left_of_mem
    {related : α → β → Prop}
    {items : List α}
    {results : List β}
    (matched : List.Forall₂ related items results)
    {result : β}
    (member : result ∈ results) :
    ∃ item ∈ items, related item result := by
  induction matched with
  | nil =>
      cases member
  | cons headRelated _ inductionHypothesis =>
      rcases List.mem_cons.mp member with isHead | isLater
      · exact ⟨_, List.mem_cons_self, isHead ▸ headRelated⟩
      · obtain ⟨item, itemMember, itemRelated⟩ :=
          inductionHypothesis isLater
        exact ⟨item, List.mem_cons_of_mem _ itemMember, itemRelated⟩

/-- A member on the left of two matched lists has its partner on the right. -/
theorem exists_right_of_mem
    {related : α → β → Prop}
    {items : List α}
    {results : List β}
    (matched : List.Forall₂ related items results)
    {item : α}
    (member : item ∈ items) :
    ∃ result ∈ results, related item result :=
  exists_left_of_mem matched.flip member

/--
When what is done for a slice depends on its size only, the concatenation is
what the sizes prescribe, in order.
-/
theorem forall₂_flatten_mapIdx_cut
    {related : γ → β → Prop}
    {shape : Nat → List γ}
    {items : List α}
    {cursor : Nat}
    {sizes : List Nat}
    {run : Nat → Slice α → List β}
    (shaped :
      ∀ index slice,
        (cut items cursor sizes)[index]? = some slice →
        List.Forall₂ related (shape slice.items.length) (run index slice))
    (enough : cursor + sizes.sum ≤ items.length) :
    List.Forall₂ related (sizes.flatMap shape)
      ((cut items cursor sizes).mapIdx run).flatten := by
  induction sizes generalizing cursor run with
  | nil =>
      exact .nil
  | cons size rest inductionHypothesis =>
      simp only [List.sum_cons] at enough
      simp only [cut, List.mapIdx_cons, List.flatten_cons,
        List.flatMap_cons]
      have headLength :
          ((items.drop cursor).take size).length = size := by
        rw [List.length_take, List.length_drop]
        omega
      have headShaped := shaped 0 _ rfl
      simp only [headLength] at headShaped
      refine List.rel_append headShaped ?_
      exact inductionHypothesis
        (fun index slice found =>
          shaped (index + 1) slice (by simpa [cut] using found))
        (by omega)

/-- When every item contributes one entry, there are as many as items. -/
theorem forall₂_flatten_mapIdx_replicate
    {related : γ → β → Prop}
    {entry : γ}
    {items : List α}
    {run : Nat → α → List β}
    (single :
      ∀ index item, List.Forall₂ related [entry] (run index item)) :
    List.Forall₂ related (List.replicate items.length entry)
      (items.mapIdx run).flatten := by
  induction items generalizing run with
  | nil =>
      exact .nil
  | cons item rest inductionHypothesis =>
      rw [List.mapIdx_cons, List.flatten_cons, List.length_cons,
        List.replicate_succ]
      exact List.rel_append (single 0 item)
        (inductionHypothesis fun index later => single (index + 1) later)

/-- One entry for every nonempty slice. -/
theorem flatMap_nonempty
    (sizes : List Nat)
    (build : Nat → γ) :
    (sizes.flatMap fun size => if size = 0 then [] else [build size]) =
      (sizes.filter (0 < ·)).map build := by
  induction sizes with
  | nil =>
      rfl
  | cons size rest inductionHypothesis =>
      rw [List.flatMap_cons, inductionHypothesis, List.filter_cons]
      by_cases empty : size = 0
      · simp [empty]
      · simp [empty, Nat.pos_of_ne_zero empty]

/-- One entry for every item. -/
theorem flatMap_replicate
    (sizes : List Nat)
    (entry : γ) :
    (sizes.flatMap fun size => List.replicate size entry) =
      List.replicate sizes.sum entry := by
  induction sizes with
  | nil =>
      rfl
  | cons size rest inductionHypothesis =>
      rw [List.flatMap_cons, inductionHypothesis, List.sum_cons,
        List.replicate_append_replicate]

/--
The results answer the items one for one, where the relation sees the position
of each item counted from `base`.
-/
inductive Aligned
    (related : Nat → α → β → Prop) :
    Nat → List α → List β → Prop where
  | nil {base : Nat} :
      Aligned related base [] []
  | cons {base : Nat} {item : α} {result : β}
      {items : List α} {results : List β} :
      related base item result →
      Aligned related (base + 1) items results →
      Aligned related base (item :: items) (result :: results)

namespace Aligned

variable {related : Nat → α → β → Prop}

/-- Aligned lists have the same length. -/
theorem length_eq
    {base : Nat}
    {items : List α}
    {results : List β}
    (aligned : Aligned related base items results) :
    results.length = items.length := by
  induction aligned with
  | nil =>
      rfl
  | cons _ _ inductionHypothesis =>
      simp [inductionHypothesis]

/-- Answers that are a function of their items are its images. -/
theorem eq_map
    {base : Nat}
    {items : List α}
    {results : List β}
    (aligned : Aligned related base items results)
    {answer : α → β}
    (determined :
      ∀ {index item result},
        related index item result →
        result = answer item) :
    results = items.map answer := by
  induction aligned with
  | nil =>
      rfl
  | cons related _ inductionHypothesis =>
      rw [List.map_cons, determined related, inductionHypothesis]

/-- The entry at a position answers the item at that position. -/
theorem getElem?
    {base : Nat}
    {items : List α}
    {results : List β}
    (aligned : Aligned related base items results)
    {index : Nat}
    {item : α}
    (found : items[index]? = some item) :
    ∃ result,
      results[index]? = some result ∧
        related (base + index) item result := by
  induction aligned generalizing index with
  | nil =>
      simp at found
  | @cons base head result items results headRelated _ inductionHypothesis =>
      cases index with
      | zero =>
          simp only [List.getElem?_cons_zero, Option.some.injEq] at found
          subst found
          exact ⟨result, rfl, headRelated⟩
      | succ index =>
          rw [List.getElem?_cons_succ] at found
          obtain ⟨later, laterFound, laterRelated⟩ :=
            inductionHypothesis found
          refine ⟨later, by simpa using laterFound, ?_⟩
          have shift : base + (index + 1) = base + 1 + index := by
            omega
          rw [shift]
          exact laterRelated

/-- Answers to two consecutive parts concatenate. -/
theorem append
    {base : Nat}
    {first second : List α}
    {firstResults secondResults : List β}
    (firstAligned : Aligned related base first firstResults)
    (secondAligned :
      Aligned related (base + first.length) second secondResults) :
    Aligned related base
      (first ++ second) (firstResults ++ secondResults) := by
  induction firstAligned with
  | nil =>
      simpa using secondAligned
  | @cons base item result items results headRelated _ inductionHypothesis =>
      refine .cons headRelated (inductionHypothesis ?_)
      have shift :
          base + (item :: items).length = base + 1 + items.length := by
        simp only [List.length_cons]
        omega
      rw [shift] at secondAligned
      exact secondAligned

/-- One answer repeated for every item, as when a whole slice fails. -/
theorem map_const
    {base : Nat}
    {items : List α}
    {result : β}
    (everywhere :
      ∀ {index item},
        items[index]? = some item →
        related (base + index) item result) :
    Aligned related base items (items.map fun _ => result) := by
  induction items generalizing base with
  | nil =>
      exact .nil
  | cons item rest inductionHypothesis =>
      have headFound : (item :: rest)[0]? = some item := rfl
      refine .cons (everywhere headFound) (inductionHypothesis ?_)
      intro index later found
      have shift : base + 1 + index = base + (index + 1) := by
        omega
      rw [shift]
      exact everywhere (by simpa using found)

/-- A weaker relation keeps the alignment. -/
theorem mono
    {weaker : Nat → α → β → Prop}
    {base : Nat}
    {items : List α}
    {results : List β}
    (aligned : Aligned related base items results)
    (implies :
      ∀ {index item result},
        items[index]? = some item →
        related (base + index) item result →
        weaker (base + index) item result) :
    Aligned weaker base items results := by
  induction aligned with
  | nil =>
      exact .nil
  | @cons base item result items results headRelated _ inductionHypothesis =>
      have headFound : (item :: items)[0]? = some item := rfl
      refine .cons (implies headFound headRelated)
        (inductionHypothesis ?_)
      intro index later result found laterRelated
      have shift : base + 1 + index = base + (index + 1) := by
        omega
      rw [shift] at laterRelated ⊢
      exact implies (by simpa using found) laterRelated

/-- Answering every item by itself and concatenating answers the list. -/
theorem flatten_mapIdx
    {items : List α}
    {base : Nat}
    {run : Nat → α → List β}
    (answers :
      ∀ index item,
        items[index]? = some item →
        Aligned related (base + index) [item] (run index item)) :
    Aligned related base items (items.mapIdx run).flatten := by
  induction items generalizing base run with
  | nil =>
      exact .nil
  | cons item rest inductionHypothesis =>
      rw [List.mapIdx_cons, List.flatten_cons]
      change Aligned related base ([item] ++ rest) _
      refine .append (answers 0 item rfl) (inductionHypothesis ?_)
      intro index later found
      have shift :
          base + [item].length + index = base + (index + 1) := by
        simp only [List.length_singleton]
        omega
      rw [shift]
      exact answers (index + 1) later (by simpa using found)

/--
Answering every slice at its own offset and concatenating the answers in order
answers the covered part of the list.
-/
theorem flatten_mapIdx_cut
    {items : List α}
    {base cursor : Nat}
    {sizes : List Nat}
    {run : Nat → Slice α → List β}
    (answers :
      ∀ index slice,
        (cut items cursor sizes)[index]? = some slice →
        Aligned related (base + slice.offset) slice.items
          (run index slice))
    (enough : cursor + sizes.sum ≤ items.length) :
    Aligned related (base + cursor)
      ((items.drop cursor).take sizes.sum)
      ((cut items cursor sizes).mapIdx run).flatten := by
  induction sizes generalizing cursor run with
  | nil =>
      simpa [cut] using Aligned.nil
  | cons size rest inductionHypothesis =>
      simp only [List.sum_cons] at enough
      simp only [cut, List.mapIdx_cons, List.flatten_cons,
        List.sum_cons, List.take_add, List.drop_drop]
      refine .append (answers 0 _ rfl) ?_
      have headLength :
          ((items.drop cursor).take size).length = size := by
        rw [List.length_take, List.length_drop]
        omega
      rw [headLength, Nat.add_assoc]
      exact inductionHypothesis
        (fun index slice found =>
          answers (index + 1) slice (by simpa [cut] using found))
        (by omega)

end Aligned

end ListSlices
