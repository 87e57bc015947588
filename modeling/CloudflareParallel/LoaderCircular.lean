import CloudflareParallel.Library.GraphUnfolding
import CloudflareParallel.LoaderKeyOrder
import Mathlib.Data.Finset.Card
import Mathlib.Data.Fintype.Basic
import Mathlib.Data.Fintype.Card

namespace CloudflareParallel

/-!
# Contexts whose objects have identities

`canonicalizeContext` walks an object graph and remembers the objects it has
entered in `seen`.  Here arrays and objects live in a heap and values refer to
them, so that sharing and cycles can be told apart.  The traversal is the one
of the source; `unsharedCopy` gives the tree that a graph stands for.
-/

/-- A value as the traversal meets it: arrays and objects are references. -/
inductive GraphValue (ObjectId : Type) where
  | undefined
  | null
  | bool (value : Bool)
  | number (value : JsNumber)
  | string (value : String)
  | exotic (kind : JsExotic)
  | reference (object : ObjectId)
  deriving Repr, DecidableEq

/-- What is stored at one identity. -/
inductive HeapObject (ObjectId : Type) where
  | array (items : List (GraphValue ObjectId))
  | object (entries : List (String × GraphValue ObjectId))
  deriving Repr

/-- All arrays and objects of a graph. -/
abbrev ObjectHeap (ObjectId : Type) := ObjectId → HeapObject ObjectId

/-- The error for an object that was entered before. -/
def circularError : SerializationError :=
  { message := "context values cannot contain circular references" }

namespace ObjectGraph

open GraphUnfolding

variable {ObjectId : Type}

/-- The objects a value refers to: itself, when it is one. -/
def references : GraphValue ObjectId → List ObjectId
  | .reference object => [object]
  | _ => []

/-- The values an object holds, in the order of the traversal. -/
def values : HeapObject ObjectId → List (GraphValue ObjectId)
  | .array items => items
  | .object entries => (sortByKey entries).map Prod.snd

/-- The objects an object refers to, in the order of the traversal. -/
def referencesOf
    (heap : ObjectHeap ObjectId)
    (object : ObjectId) : List ObjectId :=
  (values (heap object)).flatMap references

/-- `Object.keys` of an array or an object. -/
def ownKeys : HeapObject ObjectId → List String
  | .array items => (List.range items.length).map toString
  | .object entries => entries.map Prod.fst

/-- Code that reads and extends `seen`, and may throw or run out of depth. -/
abbrev Traversal (ObjectId : Type) :=
  StateT (Finset ObjectId) (ExceptT SerializationError Option)

/-- What a traversal gives after some objects have been entered. -/
abbrev outcome
    (traversal : Traversal ObjectId α)
    (seen : Finset ObjectId) :
    Option (Except SerializationError (α × Finset ObjectId)) :=
  (traversal.run seen).run

/-- `seen.has(val)` and `seen.add(val)`: an object is entered once. -/
def enter
    [DecidableEq ObjectId]
    (object : ObjectId) : Traversal ObjectId Unit := do
  if object ∈ (← get) then
    throw circularError
  modify (insert object)

/-- One member of an object literal. -/
def memberText (key text : String) : String :=
  jsonString key ++ ":" ++ text

/-- The literal of an array or object, from the texts of its values. -/
def literal (object : HeapObject ObjectId) (texts : List String) : String :=
  match object with
  | .array _ => "[" ++ String.intercalate "," texts ++ "]"
  | .object entries =>
      "\x7b" ++
        String.intercalate ","
          (List.zipWith memberText ((sortByKey entries).map Prod.fst) texts) ++
        "\x7d"

/-- `stringify` inside `canonicalizeContext`, to some depth of recursion. -/
def stringify
    [DecidableEq ObjectId]
    (heap : ObjectHeap ObjectId) :
    Nat → GraphValue ObjectId → Traversal ObjectId String
  | _, .undefined => pure "null"
  | _, .null => pure "null"
  | _, .bool value => pure (if value then "true" else "false")
  | _, .number value => pure (jsonNumber value)
  | _, .string value => pure (jsonString value)
  | _, .exotic kind => throw (exoticError kind)
  | 0, .reference _ => fun _ => (none : Option _)
  | depth + 1, .reference object => do
      enter object
      match heap object with
      | .array items => do
          let texts ← items.mapM (stringify heap depth)
          return "[" ++ String.intercalate "," texts ++ "]"
      | .object entries => do
          let members ← (sortByKey entries).mapM fun entry => do
            let text ← stringify heap depth entry.2
            return memberText entry.1 text
          return "\x7b" ++ String.intercalate "," members ++ "\x7d"

/--
`canonicalizeContext` on an object of a finite heap.  `none` would be a
traversal deeper than there are objects.
-/
def canonicalizeContext
    [Fintype ObjectId]
    [DecidableEq ObjectId]
    (heap : ObjectHeap ObjectId)
    (ctx : ObjectId) : Option (Except SerializationError String) :=
  match (ownKeys (heap ctx)).forM assertValidContextKey with
  | .error err => some (.error err)
  | .ok () =>
      (outcome
        (stringify heap (Fintype.card ObjectId + 1) (.reference ctx)) ∅).map
          (Except.map Prod.fst)

/-- The tree a value stands for, to some depth. -/
def unsharedCopy
    (heap : ObjectHeap ObjectId) :
    Nat → GraphValue ObjectId → Option JsValue
  | _, .undefined => some .undefined
  | _, .null => some .null
  | _, .bool value => some (.bool value)
  | _, .number value => some (.number value)
  | _, .string value => some (.string value)
  | _, .exotic kind => some (.exotic kind)
  | 0, .reference _ => none
  | depth + 1, .reference object =>
      match heap object with
      | .array items =>
          (items.mapM (unsharedCopy heap depth)).map .array
      | .object entries =>
          (entries.mapM fun entry =>
            (unsharedCopy heap depth entry.2).map (Prod.mk entry.1)).map .object

/-- Members are rendered from the texts of their values. -/
theorem mapM_members
    {m : Type → Type}
    [Monad m]
    [LawfulMonad m]
    (entries : List (String × GraphValue ObjectId))
    (render : GraphValue ObjectId → m String) :
    (entries.mapM fun entry => do
        let text ← render entry.2
        return memberText entry.1 text) =
      (do
        let texts ← (entries.map Prod.snd).mapM render
        return List.zipWith memberText (entries.map Prod.fst) texts) := by
  induction entries with
  | nil =>
      simp
  | cons entry rest inductionHypothesis =>
      simp only [List.mapM_cons, List.map_cons, inductionHypothesis, bind_assoc,
        pure_bind, List.zipWith_cons_cons]

variable {heap : ObjectHeap ObjectId}

/-- After a result the traversal goes on. -/
theorem outcome_bind_of_ok
    {first : Traversal ObjectId α}
    {next : α → Traversal ObjectId β}
    {seen after : Finset ObjectId}
    {result : α}
    (succeeds : outcome first seen = some (.ok (result, after))) :
    outcome (first >>= next) seen = outcome (next result) after := by
  simp [outcome, ExceptT.run_bind, succeeds]

/-- After an error nothing more is traversed. -/
theorem outcome_bind_of_error
    {first : Traversal ObjectId α}
    {next : α → Traversal ObjectId β}
    {seen : Finset ObjectId}
    {err : SerializationError}
    (fails : outcome first seen = some (.error err)) :
    outcome (first >>= next) seen = some (.error err) := by
  simp [outcome, ExceptT.run_bind, fails]

@[simp] theorem outcome_pure
    (result : α)
    (seen : Finset ObjectId) :
    outcome (pure result) seen = some (.ok (result, seen)) := by
  rfl

/-- A list of one value settles as the value does. -/
theorem outcome_singleton
    (render : α → Traversal ObjectId β)
    (value : α)
    (seen : Finset ObjectId) :
    outcome ([value].mapM render) seen =
      (outcome (render value) seen).map
        (Except.map fun found => ([found.1], found.2)) := by
  rw [List.mapM_cons]
  cases settled : outcome (render value) seen with
  | none =>
      simp [outcome, settled]
  | some found =>
      cases found with
      | error err =>
          rw [outcome_bind_of_error settled]
          rfl
      | ok found =>
          rw [outcome_bind_of_ok settled, List.mapM_nil, pure_bind,
            outcome_pure]
          rfl

/-- The text is the one of the tree that the value stands for. -/
def CopiedAs
    (heap : ObjectHeap ObjectId)
    (depth : Nat)
    (value : GraphValue ObjectId)
    (text : String) : Prop :=
  ∃ copy, unsharedCopy heap depth value = some copy ∧
    CloudflareParallel.stringify copy = .ok text

/-- The copy of a value that has one at this depth. -/
def copyOf
    (heap : ObjectHeap ObjectId)
    (depth : Nat)
    (value : GraphValue ObjectId) : JsValue :=
  (unsharedCopy heap depth value).getD .undefined

/-- What is copied with a text is copied, and the copy has that text. -/
theorem CopiedAs.copyOf
    {depth : Nat}
    {value : GraphValue ObjectId}
    {text : String}
    (copied : CopiedAs heap depth value text) :
    unsharedCopy heap depth value =
        pure (ObjectGraph.copyOf heap depth value) ∧
      CloudflareParallel.stringify (ObjectGraph.copyOf heap depth value) =
        pure text := by
  obtain ⟨copy, copies, renders⟩ := copied
  unfold ObjectGraph.copyOf
  rw [copies]
  exact ⟨rfl, renders⟩

/-- Values that are copied with texts have copies, one by one. -/
theorem copies_of_copied
    {depth : Nat}
    {items : List (GraphValue ObjectId)}
    {texts : List String}
    (copied : List.Forall₂ (CopiedAs heap depth) items texts) :
    ∀ item ∈ items,
      unsharedCopy heap depth item = pure (copyOf heap depth item) := by
  induction copied with
  | nil =>
      simp
  | cons first _ inductionHypothesis =>
      exact List.forall_mem_cons.2 ⟨first.copyOf.1, inductionHypothesis⟩

/-- The items of an array are copied one by one. -/
theorem copiedAs_array
    {depth : Nat}
    {object : ObjectId}
    {items : List (GraphValue ObjectId)}
    {texts : List String}
    (stored : heap object = .array items)
    (copied : List.Forall₂ (CopiedAs heap depth) items texts) :
    CopiedAs heap (depth + 1) (.reference object)
      ("[" ++ String.intercalate "," texts ++ "]") := by
  have copies :
      items.mapM (unsharedCopy heap depth) =
        pure (items.map (copyOf heap depth)) :=
    mapM_eq_pure (List.forall₂_map_right_iff.2
      (List.forall₂_same.2 (copies_of_copied copied)))
  have rendered :
      (items.map (copyOf heap depth)).mapM CloudflareParallel.stringify =
        pure texts :=
    mapM_eq_pure (List.forall₂_map_left_iff.2
      (copied.imp fun _ _ each => each.copyOf.2))
  refine ⟨.array (items.map (copyOf heap depth)), ?_, ?_⟩
  · simp only [unsharedCopy, stored, copies]
    rfl
  · rw [CloudflareParallel.stringify, stringifyItems_eq_map, List.mapM_map]
    exact congrArg (· >>= _) rendered

/-- Members are rendered with the texts of their values. -/
theorem stringifyMember_each
    {depth : Nat}
    {entries : List (String × GraphValue ObjectId)}
    {texts : List String}
    (copied : List.Forall₂ (CopiedAs heap depth) (entries.map Prod.snd) texts) :
    List.Forall₂
      (fun entry member =>
        stringifyMember
            (entry.1, CloudflareParallel.stringify (copyOf heap depth entry.2)) =
          pure member)
      entries (List.zipWith memberText (entries.map Prod.fst) texts) := by
  induction entries generalizing texts with
  | nil =>
      cases copied
      exact .nil
  | cons entry rest inductionHypothesis =>
      cases copied with
      | cons first later =>
          refine .cons ?_ (inductionHypothesis later)
          rw [first.copyOf.2]
          rfl

/-- The members of an object are copied in place and rendered in order. -/
theorem copiedAs_object
    {depth : Nat}
    {object : ObjectId}
    {entries : List (String × GraphValue ObjectId)}
    {texts : List String}
    (stored : heap object = .object entries)
    (copied :
      List.Forall₂ (CopiedAs heap depth)
        ((sortByKey entries).map Prod.snd) texts) :
    CopiedAs heap (depth + 1) (.reference object)
      ("\x7b" ++
        String.intercalate ","
          (List.zipWith memberText ((sortByKey entries).map Prod.fst) texts) ++
        "\x7d") := by
  have copies :
      (entries.mapM fun entry =>
          (unsharedCopy heap depth entry.2).map (Prod.mk entry.1)) =
        pure (entries.map fun entry =>
          (entry.1, copyOf heap depth entry.2)) := by
    refine mapM_eq_pure (List.forall₂_map_right_iff.2
      (List.forall₂_same.2 fun entry member => ?_))
    have sorted : entry ∈ sortByKey entries :=
      (List.mem_insertionSort _).2 member
    rw [copies_of_copied copied entry.2 (List.mem_map_of_mem sorted)]
    rfl
  refine ⟨.object (entries.map fun entry =>
    (entry.1, copyOf heap depth entry.2)), ?_, ?_⟩
  · simp only [unsharedCopy, stored, copies]
    rfl
  · rw [CloudflareParallel.stringify, stringifyEntries_eq_map, List.map_map]
    have sorted :
        sortByKey (entries.map fun entry =>
            (entry.1,
              CloudflareParallel.stringify (copyOf heap depth entry.2))) =
          (sortByKey entries).map fun entry =>
            (entry.1,
              CloudflareParallel.stringify (copyOf heap depth entry.2)) :=
      sortByKey_map entries fun value =>
        CloudflareParallel.stringify (copyOf heap depth value)
    have rendered := mapM_eq_pure (stringifyMember_each copied)
    simp only [Function.comp_def, sorted, List.mapM_map]
    exact congrArg (· >>= _) rendered

variable [DecidableEq ObjectId]

/-- A new object is entered, and its values are visited in order. -/
theorem stringify_reference
    (depth : Nat)
    (object : ObjectId) :
    stringify heap (depth + 1) (.reference object) = do
      enter object
      let texts ← (values (heap object)).mapM (stringify heap depth)
      return literal (heap object) texts := by
  rw [stringify]
  unfold values literal
  cases heap object with
  | array items =>
      rfl
  | object entries =>
      simp only [mapM_members, bind_assoc, pure_bind]

/-- An object that was entered before is reported. -/
theorem outcome_enter_of_seen
    {object : ObjectId}
    {seen : Finset ObjectId}
    (entered : object ∈ seen) :
    outcome (enter object) seen = some (.error circularError) := by
  simp [outcome, enter, entered]

/-- A new object is remembered. -/
theorem outcome_enter_of_new
    {object : ObjectId}
    {seen : Finset ObjectId}
    (unseen : object ∉ seen) :
    outcome (enter object) seen =
      some (.ok ((), insert object seen)) := by
  simp [outcome, enter, unseen]

/-- Visits that meet every object once, and none that was entered before. -/
def Fresh (seen : Finset ObjectId) (visits : List ObjectId) : Prop :=
  visits.Nodup ∧ ∀ object ∈ visits, object ∉ seen

/-- Values are rendered, after entering exactly the objects below them. -/
structure Accepts
    (heap : ObjectHeap ObjectId)
    (depth : Nat)
    (seen : Finset ObjectId)
    (items : List (GraphValue ObjectId))
    (texts : List String)
    (visits : List ObjectId) : Prop where
  outcome_eq :
    outcome (items.mapM (stringify heap depth)) seen =
      some (.ok (texts, seen ∪ visits.toFinset))
  unfolds :
    Unfolds (referencesOf heap) (items.flatMap references) visits
  fresh : Fresh seen visits
  copied : List.Forall₂ (CopiedAs heap depth) items texts

/-- A circular reference is reported, and some object is met again. -/
structure Rejects
    (heap : ObjectHeap ObjectId)
    (depth : Nat)
    (seen : Finset ObjectId)
    (items : List (GraphValue ObjectId)) : Prop where
  outcome_eq :
    outcome (items.mapM (stringify heap depth)) seen =
      some (.error circularError)
  notFresh :
    ∀ visits,
      Unfolds (referencesOf heap) (items.flatMap references) visits →
      ¬ Fresh seen visits

/-- A later part is fresh after an earlier one. -/
theorem fresh_append
    {seen : Finset ObjectId}
    {first second : List ObjectId} :
    Fresh seen (first ++ second) ↔
      Fresh seen first ∧ Fresh (seen ∪ first.toFinset) second := by
  simp only [Fresh, List.nodup_append, Finset.mem_union, List.mem_toFinset,
    List.mem_append]
  grind

/-- Values that are accepted one after the other are accepted together. -/
theorem Accepts.append
    {depth : Nat}
    {seen : Finset ObjectId}
    {first second : List (GraphValue ObjectId)}
    {firstTexts secondTexts : List String}
    {firstVisits secondVisits : List ObjectId}
    (acceptsFirst : Accepts heap depth seen first firstTexts firstVisits)
    (acceptsSecond :
      Accepts heap depth (seen ∪ firstVisits.toFinset)
        second secondTexts secondVisits) :
    Accepts heap depth seen (first ++ second)
      (firstTexts ++ secondTexts) (firstVisits ++ secondVisits) := by
  refine {
    outcome_eq := ?_
    unfolds := ?_
    fresh := fresh_append.2 ⟨acceptsFirst.fresh, acceptsSecond.fresh⟩
    copied := List.rel_append acceptsFirst.copied acceptsSecond.copied
  }
  · rw [List.mapM_append, outcome_bind_of_ok acceptsFirst.outcome_eq,
      outcome_bind_of_ok acceptsSecond.outcome_eq, outcome_pure,
      List.toFinset_append, Finset.union_assoc]
  · rw [List.flatMap_append]
    exact acceptsFirst.unfolds.append acceptsSecond.unfolds

/-- Nothing after a rejected value is looked at. -/
theorem Rejects.append
    {depth : Nat}
    {seen : Finset ObjectId}
    {first : List (GraphValue ObjectId)}
    (rejects : Rejects heap depth seen first)
    (second : List (GraphValue ObjectId)) :
    Rejects heap depth seen (first ++ second) := by
  refine { outcome_eq := ?_, notFresh := ?_ }
  · rw [List.mapM_append, outcome_bind_of_error rejects.outcome_eq]
  · intro visits unfolds fresh
    rw [List.flatMap_append] at unfolds
    obtain ⟨firstVisits, secondVisits, rfl, unfoldsFirst, _⟩ :=
      unfolds.of_append
    exact rejects.notFresh firstVisits unfoldsFirst (fresh_append.1 fresh).1

/-- A value may be rejected for an object that an accepted one has entered. -/
theorem Accepts.append_rejects
    {depth : Nat}
    {seen : Finset ObjectId}
    {first second : List (GraphValue ObjectId)}
    {texts : List String}
    {visits : List ObjectId}
    (accepts : Accepts heap depth seen first texts visits)
    (rejects : Rejects heap depth (seen ∪ visits.toFinset) second) :
    Rejects heap depth seen (first ++ second) := by
  refine { outcome_eq := ?_, notFresh := ?_ }
  · rw [List.mapM_append, outcome_bind_of_ok accepts.outcome_eq,
      outcome_bind_of_error rejects.outcome_eq]
  · intro allVisits unfolds fresh
    rw [List.flatMap_append] at unfolds
    obtain ⟨firstVisits, secondVisits, rfl, unfoldsFirst, unfoldsSecond⟩ :=
      unfolds.of_append
    obtain rfl := accepts.unfolds.unique unfoldsFirst
    exact rejects.notFresh secondVisits unfoldsSecond
      (fresh_append.1 fresh).2

/-- A single value is accepted as its own traversal is. -/
theorem accepts_singleton
    {depth : Nat}
    {seen : Finset ObjectId}
    {value : GraphValue ObjectId}
    {text : String}
    {visits : List ObjectId}
    (outcome_eq :
      outcome (stringify heap depth value) seen =
        some (.ok (text, seen ∪ visits.toFinset)))
    (unfolds : Unfolds (referencesOf heap) (references value) visits)
    (fresh : Fresh seen visits)
    (copied : CopiedAs heap depth value text) :
    Accepts heap depth seen [value] [text] visits := by
  refine {
    outcome_eq := ?_
    unfolds := by simpa using unfolds
    fresh := fresh
    copied := .cons copied .nil
  }
  rw [List.mapM_cons, outcome_bind_of_ok outcome_eq, List.mapM_nil, pure_bind,
    outcome_pure]

/-- A new object is accepted with the values it holds. -/
theorem Accepts.reference
    {depth : Nat}
    {seen : Finset ObjectId}
    {object : ObjectId}
    {texts : List String}
    {visits : List ObjectId}
    (unseen : object ∉ seen)
    (accepts :
      Accepts heap depth (insert object seen)
        (values (heap object)) texts visits) :
    Accepts heap (depth + 1) seen [.reference object]
      [literal (heap object) texts] (object :: visits) := by
  refine accepts_singleton ?_ ?_ ?_ ?_
  · rw [stringify_reference, outcome_bind_of_ok (outcome_enter_of_new unseen),
      outcome_bind_of_ok accepts.outcome_eq, outcome_pure, List.toFinset_cons,
      Finset.insert_union, Finset.union_insert]
  · have unfolds := Unfolds.cons accepts.unfolds .nil
    rwa [List.append_nil] at unfolds
  · obtain ⟨once, apart⟩ := accepts.fresh
    refine ⟨List.nodup_cons.2 ⟨?_, once⟩, List.forall_mem_cons.2 ⟨unseen, ?_⟩⟩
    · exact fun again => apart object again (Finset.mem_insert_self object seen)
    · exact fun other met entered =>
        apart other met (Finset.mem_insert_of_mem entered)
  · have copied := accepts.copied
    cases stored : heap object with
    | array items =>
        rw [stored] at copied
        exact copiedAs_array stored copied
    | object entries =>
        rw [stored] at copied
        exact copiedAs_object stored copied

/-- A new object is rejected with the values it holds. -/
theorem Rejects.reference
    {depth : Nat}
    {seen : Finset ObjectId}
    {object : ObjectId}
    (unseen : object ∉ seen)
    (rejects :
      Rejects heap depth (insert object seen) (values (heap object))) :
    Rejects heap (depth + 1) seen [.reference object] := by
  refine { outcome_eq := ?_, notFresh := ?_ }
  · rw [List.mapM_cons, outcome_bind_of_error]
    rw [stringify_reference, outcome_bind_of_ok (outcome_enter_of_new unseen),
      outcome_bind_of_error rejects.outcome_eq]
  · intro visits unfolds fresh
    cases unfolds with
    | @cons _ _ below after unfoldsBelow unfoldsAfter =>
        cases unfoldsAfter
        rw [List.append_nil] at fresh
        obtain ⟨first, once⟩ := List.nodup_cons.1 fresh.1
        refine rejects.notFresh below unfoldsBelow ⟨once, ?_⟩
        intro other met entered
        obtain rfl | earlier := Finset.mem_insert.1 entered
        · exact first met
        · exact fresh.2 other (List.mem_cons_of_mem object met) earlier

/-- An object that was entered before is rejected. -/
theorem Rejects.again
    {depth : Nat}
    {seen : Finset ObjectId}
    {object : ObjectId}
    (entered : object ∈ seen) :
    Rejects heap (depth + 1) seen [.reference object] := by
  refine { outcome_eq := ?_, notFresh := ?_ }
  · rw [List.mapM_cons, outcome_bind_of_error]
    rw [stringify_reference,
      outcome_bind_of_error (outcome_enter_of_seen entered)]
  · intro visits unfolds fresh
    cases unfolds with
    | cons _ _ =>
        exact fresh.2 object (List.mem_cons_self ..) entered

/-- The value is none of the kinds that `canonicalizeContext` reports. -/
def IsAccepted (value : GraphValue ObjectId) : Prop :=
  ∀ kind, value ≠ .exotic kind

/-- The traversal either renders the values or meets some object again. -/
def Settles
    (heap : ObjectHeap ObjectId)
    (depth : Nat)
    (seen : Finset ObjectId)
    (items : List (GraphValue ObjectId)) : Prop :=
  (∃ texts visits, Accepts heap depth seen items texts visits) ∨
    Rejects heap depth seen items

/-- A scalar is rendered without entering anything. -/
theorem settles_scalar
    {depth : Nat}
    {seen : Finset ObjectId}
    {value : GraphValue ObjectId}
    {copy : JsValue}
    {text : String}
    (rendered : stringify heap depth value = pure text)
    (noReference : references value = [])
    (copied : unsharedCopy heap depth value = some copy)
    (copyRendered : CloudflareParallel.stringify copy = .ok text) :
    Settles heap depth seen [value] := by
  refine .inl ⟨[text], [], accepts_singleton ?_ ?_ ⟨.nil, ?_⟩ ?_⟩
  · rw [rendered, outcome_pure, List.toFinset_nil, Finset.union_empty]
  · rw [noReference]
    exact .nil
  · simp
  · exact ⟨copy, copied, copyRendered⟩

variable [Fintype ObjectId]

/-- Values settle when each of them does, whatever was entered before. -/
theorem settles_of_each
    {depth : Nat}
    (each :
      ∀ (seen : Finset ObjectId) (value : GraphValue ObjectId),
        IsAccepted value → seenᶜ.card < depth →
          Settles heap depth seen [value])
    {items : List (GraphValue ObjectId)}
    (accepted : ∀ item ∈ items, IsAccepted item)
    {seen : Finset ObjectId}
    (deepEnough : seenᶜ.card < depth) :
    Settles heap depth seen items := by
  induction items generalizing seen with
  | nil =>
      refine .inl ⟨[], [], {
        outcome_eq := ?_
        unfolds := .nil
        fresh := ⟨.nil, by simp⟩
        copied := .nil
      }⟩
      rw [List.mapM_nil, outcome_pure, List.toFinset_nil, Finset.union_empty]
  | cons item rest inductionHypothesis =>
      obtain ⟨itemAccepted, restAccepted⟩ := List.forall_mem_cons.1 accepted
      rcases each seen item itemAccepted deepEnough with
        ⟨texts, visits, accepts⟩ | rejects
      · have stillDeepEnough : (seen ∪ visits.toFinset)ᶜ.card < depth := by
          refine lt_of_le_of_lt (Finset.card_le_card ?_) deepEnough
          exact Finset.compl_subset_compl.2 Finset.subset_union_left
        rcases inductionHypothesis restAccepted stillDeepEnough with
          ⟨laterTexts, laterVisits, later⟩ | laterRejects
        · exact .inl ⟨_, _, accepts.append later⟩
        · exact .inr (accepts.append_rejects laterRejects)
      · exact .inr (rejects.append rest)

/--
The traversal of a finite graph settles: it never goes deeper than there are
objects left to enter.
-/
theorem settles
    (accepted : ∀ object, ∀ value ∈ values (heap object), IsAccepted value)
    {depth : Nat}
    (seen : Finset ObjectId)
    (value : GraphValue ObjectId)
    (valueAccepted : IsAccepted value)
    (deepEnough : seenᶜ.card < depth) :
    Settles heap depth seen [value] := by
  induction depth generalizing seen value with
  | zero =>
      omega
  | succ depth inductionHypothesis =>
      cases value with
      | undefined =>
          exact settles_scalar rfl rfl rfl rfl
      | null =>
          exact settles_scalar rfl rfl rfl rfl
      | bool value =>
          exact settles_scalar rfl rfl rfl rfl
      | number value =>
          exact settles_scalar rfl rfl rfl rfl
      | string value =>
          exact settles_scalar rfl rfl rfl rfl
      | exotic kind =>
          exact absurd rfl (valueAccepted kind)
      | reference object =>
          by_cases entered : object ∈ seen
          case pos =>
            exact .inr (.again entered)
          have fewer : (insert object seen)ᶜ.card < depth := by
            have smaller : (insert object seen)ᶜ ⊂ seenᶜ :=
              Finset.compl_ssubset_compl.2 (Finset.ssubset_insert entered)
            have := Finset.card_lt_card smaller
            omega
          rcases settles_of_each inductionHypothesis (accepted object) fewer with
            ⟨texts, visits, accepts⟩ | rejects
          · exact .inl ⟨_, _, accepts.reference entered⟩
          · exact .inr (rejects.reference entered)

end ObjectGraph

/--
A context as an object graph: its root is a plain object whose keys pass the
check, and every value in it is a scalar, an array or a plain object.
-/
structure ContextGraph (ObjectId : Type) where
  heap : ObjectHeap ObjectId
  root : ObjectId
  rootEntries : List (String × GraphValue ObjectId)
  heap_root : heap root = .object rootEntries
  keysAccepted :
    ∀ entry ∈ rootEntries, assertValidContextKey entry.1 = .ok ()
  valuesAccepted :
    ∀ object, ∀ value ∈ ObjectGraph.values (heap object),
      ObjectGraph.IsAccepted value

namespace ContextGraph

open GraphUnfolding ObjectGraph

variable {ObjectId : Type}

/-- Some object of the context is reachable from itself. -/
def Cyclic (graph : ContextGraph ObjectId) : Prop :=
  GraphUnfolding.Cyclic (referencesOf graph.heap) [graph.root]

/-- No object of the context is held in two places. -/
def Unshared (graph : ContextGraph ObjectId) : Prop :=
  GraphUnfolding.Unshared (referencesOf graph.heap) [graph.root]

/-- The record is the context with every shared object written out. -/
def IsUnsharedCopy
    (graph : ContextGraph ObjectId)
    (copy : JsRecord) : Prop :=
  ∃ depth,
    unsharedCopy graph.heap depth (.reference graph.root) =
      some (.object copy)

/-- Copying an object keeps its keys. -/
theorem keys_of_copied
    {entries : List (String × GraphValue ObjectId)}
    {copy : GraphValue ObjectId → Option JsValue}
    {copies : JsRecord}
    (copied :
      (entries.mapM fun entry => (copy entry.2).map (Prod.mk entry.1)) =
        some copies) :
    copies.map Prod.fst = entries.map Prod.fst := by
  induction entries generalizing copies with
  | nil =>
      cases copied
      rfl
  | cons entry rest inductionHypothesis =>
      rw [List.mapM_cons] at copied
      simp only [Option.bind_eq_bind, Option.bind_eq_some_iff,
        Option.map_eq_some_iff] at copied
      obtain ⟨_, ⟨_, _, rfl⟩, later, laterCopied, same⟩ := copied
      cases same
      rw [List.map_cons, List.map_cons, inductionHypothesis laterCopied]

/-- The copy of a context passes the check of its keys. -/
theorem keysAccepted_of_copy
    {graph : ContextGraph ObjectId}
    {depth : Nat}
    {copy : JsValue}
    (copied :
      unsharedCopy graph.heap (depth + 1) (.reference graph.root) =
        some copy) :
    ∃ record, copy = .object record ∧
      (record.forM fun entry => assertValidContextKey entry.1) = .ok () := by
  simp only [unsharedCopy, graph.heap_root, Option.map_eq_some_iff] at copied
  obtain ⟨record, entriesCopied, rfl⟩ := copied
  refine ⟨record, rfl, forM_ok_iff.2 fun entry member => ?_⟩
  have key : entry.1 ∈ graph.rootEntries.map Prod.fst :=
    keys_of_copied entriesCopied ▸ List.mem_map_of_mem member
  obtain ⟨original, originalMember, same⟩ := List.mem_map.1 key
  exact same ▸ graph.keysAccepted original originalMember

variable [Fintype ObjectId] [DecidableEq ObjectId]

/-- `canonicalizeContext` on the root of the graph. -/
def canonicalize
    (graph : ContextGraph ObjectId) :
    Option (Except SerializationError String) :=
  ObjectGraph.canonicalizeContext graph.heap graph.root

/-- Only the traversal decides, since the keys pass their check. -/
theorem canonicalize_eq
    (graph : ContextGraph ObjectId) :
    graph.canonicalize =
      (outcome
        (ObjectGraph.stringify graph.heap (Fintype.card ObjectId + 1)
          (.reference graph.root))
        ∅).map (Except.map Prod.fst) := by
  have checked :
      (ownKeys (graph.heap graph.root)).forM assertValidContextKey = .ok () := by
    rw [graph.heap_root]
    refine forM_ok_iff.2 fun key member => ?_
    obtain ⟨entry, entryMember, rfl⟩ := List.mem_map.1 member
    exact graph.keysAccepted entry entryMember
  unfold canonicalize ObjectGraph.canonicalizeContext
  rw [checked]

/-- The context is rendered like its copy, and no object is met twice. -/
structure Renders
    (graph : ContextGraph ObjectId)
    (text : String)
    (visits : List ObjectId) : Prop where
  canonicalized : graph.canonicalize = some (.ok text)
  copied :
    ∃ copy, graph.IsUnsharedCopy copy ∧
      CloudflareParallel.canonicalizeContext copy = .ok text
  unfolds : Unfolds (referencesOf graph.heap) [graph.root] visits
  once : visits.Nodup

/-- The context is reported as circular, and some object is met twice. -/
structure Reports (graph : ContextGraph ObjectId) : Prop where
  canonicalized : graph.canonicalize = some (.error circularError)
  notOnce :
    ∀ visits,
      Unfolds (referencesOf graph.heap) [graph.root] visits → ¬ visits.Nodup

/-- A context is either rendered or reported as circular. -/
theorem renders_or_reports
    (graph : ContextGraph ObjectId) :
    (∃ text visits, graph.Renders text visits) ∨ graph.Reports := by
  have deepEnough :
      (∅ : Finset ObjectId)ᶜ.card < Fintype.card ObjectId + 1 := by
    rw [Finset.compl_empty, Finset.card_univ]
    omega
  rcases settles graph.valuesAccepted ∅ (.reference graph.root)
      (by intro kind; simp) deepEnough with
    ⟨texts, visits, accepts⟩ | rejects
  · have settled := accepts.outcome_eq
    rw [outcome_singleton, Option.map_eq_some_iff] at settled
    obtain ⟨_ | ⟨text, after⟩, found, same⟩ := settled
    · cases same
    cases same
    obtain ⟨copy, copied, rendered⟩ := (List.forall₂_cons.1 accepts.copied).1
    obtain ⟨record, rfl, checked⟩ := keysAccepted_of_copy copied
    refine .inl ⟨text, visits, {
      canonicalized := ?_
      copied := ⟨record, ⟨_, copied⟩, ?_⟩
      unfolds := accepts.unfolds
      once := accepts.fresh.1
    }⟩
    · rw [canonicalize_eq, found]
      rfl
    · rw [CloudflareParallel.canonicalizeContext, checked]
      exact rendered
  · have settled := rejects.outcome_eq
    rw [outcome_singleton, Option.map_eq_some_iff] at settled
    obtain ⟨err | _, found, same⟩ := settled
    case ok =>
      cases same
    cases same
    refine .inr { canonicalized := ?_, notOnce := ?_ }
    · rw [canonicalize_eq, found]
      rfl
    · intro visits unfolds once
      exact rejects.notFresh visits unfolds ⟨once, by simp⟩

/--
Exactly the cyclic contexts are reported as circular, and any other context
gives the text of its unshared copy.
-/
structure RejectsExactlyCycles (graph : ContextGraph ObjectId) : Prop where
  throws_iff :
    graph.canonicalize = some (.error circularError) ↔ graph.Cyclic
  accepts :
    ¬ graph.Cyclic →
      ∃ copy text,
        graph.IsUnsharedCopy copy ∧
          CloudflareParallel.canonicalizeContext copy = .ok text ∧
          graph.canonicalize = some (.ok text)

/-- Cycles are told from other contexts exactly where nothing is shared. -/
theorem rejectsExactlyCycles_iff
    (graph : ContextGraph ObjectId) :
    graph.RejectsExactlyCycles ↔ graph.Cyclic ∨ graph.Unshared := by
  rcases graph.renders_or_reports with ⟨text, visits, renders⟩ | reports
  · have acyclic : ¬ graph.Cyclic := renders.unfolds.not_cyclic
    obtain ⟨copy, isCopy, copyRendered⟩ := renders.copied
    refine ⟨fun _ => .inr (renders.unfolds.unshared_of_nodup renders.once),
      fun _ => ?_⟩
    refine {
      throws_iff := ⟨fun throws => ?_, fun cyclic => absurd cyclic acyclic⟩
      accepts := fun _ => ⟨copy, text, isCopy, copyRendered, renders.canonicalized⟩
    }
    rw [renders.canonicalized] at throws
    cases throws
  · have cyclic_of : graph.Cyclic ∨ graph.Unshared → graph.Cyclic := by
      intro condition
      by_contra acyclic
      obtain ⟨visits, unfolds⟩ := exists_unfolds acyclic
      exact reports.notOnce visits unfolds
        (unfolds.nodup_of_unshared (condition.resolve_left acyclic))
    refine ⟨fun property =>
      .inl (property.throws_iff.1 reports.canonicalized), fun condition => ?_⟩
    have cyclic := cyclic_of condition
    exact {
      throws_iff := ⟨fun _ => cyclic, fun _ => reports.canonicalized⟩
      accepts := fun acyclic => absurd cyclic acyclic
    }

/-- Two keys of a context hold one empty object: `{ a: shared, b: shared }`. -/
def sharedTwice : ContextGraph Bool where
  heap object :=
    if object then
      .object [("a", .reference false), ("b", .reference false)]
    else
      .object []
  root := true
  rootEntries := [("a", .reference false), ("b", .reference false)]
  heap_root := rfl
  keysAccepted := by decide
  valuesAccepted := by
    intro object value member kind same
    subst same
    cases object <;> revert member <;> cases kind <;> decide

/-- The context without a cycle is reported as circular. -/
theorem sharedTwice_reported :
    ¬ sharedTwice.RejectsExactlyCycles := by
  intro property
  have throws : sharedTwice.canonicalize = some (.error circularError) := by
    rfl
  have leaf : Unfolds (referencesOf sharedTwice.heap) [false] [false] :=
    @Unfolds.cons Bool (referencesOf sharedTwice.heap) false [] [] [] .nil .nil
  have unfolds :=
    @Unfolds.cons Bool (referencesOf sharedTwice.heap) true [] _ _
      (leaf.append leaf) .nil
  exact unfolds.not_cyclic (property.throws_iff.1 throws)

end ContextGraph

end CloudflareParallel
