import CloudflareParallel.LoaderEmbedding

namespace CloudflareParallel

/-!
# Faithful and canonical embedding

When the literal of a context value evaluates to that value, and when the
canonical texts of two contexts tell them apart.  Two things are lost: an own
key `__proto__`, which an object literal takes as the prototype, and the sign of
a zero, which JSON does not write.
-/

/-- No own key is `__proto__`, and no number is `-0`. -/
inductive Embeddable : JsValue → Prop where
  | null :
      Embeddable .null
  | bool (value : Bool) :
      Embeddable (.bool value)
  | number {value : JsNumber} :
      value ≠ .negativeZero →
      Embeddable (.number value)
  | string (value : String) :
      Embeddable (.string value)
  | array {items : List JsValue} :
      (∀ item ∈ items, Embeddable item) →
      Embeddable (.array items)
  | object {entries : List (String × JsValue)} :
      "__proto__" ∉ entries.map Prod.fst →
      (∀ entry ∈ entries, Embeddable entry.2) →
      Embeddable (.object entries)

/-- A number is written and read back without the sign of a zero. -/
theorem evaluate_numberLiteral
    {value : JsNumber}
    (finite : value.IsFinite) :
    (numberLiteral value).evaluate = .number (unsignedZero value) := by
  cases value with
  | finite text =>
      rw [numberLiteral]
      split
      next negative =>
        have notZero : text ≠ "-0" := by
          rcases finite with numeral | ⟨_, _, notZero⟩
          · obtain ⟨_, first, tail, shape, digit⟩ := isNumeral_spec numeral
            rw [shape] at negative
            cases negative
            exact absurd digit (by decide)
          · exact notZero
        obtain ⟨tail, shape⟩ := List.head?_eq_some_iff.1 negative
        have signed : "-" ++ String.ofList tail = text := by
          refine String.toList_inj.1 ?_
          rw [String.toList_append, String.toList_ofList,
            String.toList_ofList, shape]
          rfl
        rw [shape, List.tail_cons, Literal.evaluate, if_neg]
        · rw [signed]
          rfl
        · intro zero
          rw [zero] at signed
          exact notZero signed.symm
      next =>
        rfl
  | negativeZero =>
      rfl
  | nonFinite =>
      exact finite.elim

/-- Numbers have one literal exactly when they differ in the sign of a zero only. -/
theorem numberLiteral_eq_iff
    {value other : JsNumber}
    (finite : value.IsFinite)
    (otherFinite : other.IsFinite) :
    numberLiteral value = numberLiteral other ↔
      unsignedZero value = unsignedZero other := by
  constructor
  · intro same
    have values := congrArg Literal.evaluate same
    rw [evaluate_numberLiteral finite,
      evaluate_numberLiteral otherFinite] at values
    exact JsValue.number.inj values
  · have unsigned :
        ∀ value, numberLiteral (unsignedZero value) = numberLiteral value := by
      intro value
      cases value <;> rfl
    intro same
    rw [← unsigned value, same, unsigned other]

/-- Two lists are mapped alike exactly when they are so at every place. -/
theorem map_eq_map_iff_zip
    {items others : List α}
    {convert : α → β} :
    items.map convert = others.map convert ↔
      items.length = others.length ∧
        ∀ pair ∈ items.zip others, convert pair.1 = convert pair.2 := by
  induction items generalizing others with
  | nil =>
      cases others <;> simp
  | cons item rest inductionHypothesis =>
      cases others with
      | nil =>
          simp
      | cons other otherRest =>
          rw [List.map_cons, List.map_cons, List.cons.injEq,
            inductionHypothesis, List.zip_cons_cons, List.forall_mem_cons,
            List.length_cons, List.length_cons, Nat.add_right_cancel_iff]
          exact and_left_comm

/-- Members are the same when the keys and the value under each key are. -/
theorem members_eq_iff
    {entries others : List (String × JsValue)}
    (otherOnce : (others.map Prod.fst).Nodup)
    (convert : JsValue → α) :
    (∀ member,
        member ∈ entries.map (fun entry => (entry.1, convert entry.2)) ↔
          member ∈ others.map (fun entry => (entry.1, convert entry.2))) ↔
      (∀ key, key ∈ entries.map Prod.fst ↔ key ∈ others.map Prod.fst) ∧
        ∀ entry ∈ entries, ∀ other ∈ others, entry.1 = other.1 →
          convert entry.2 = convert other.2 := by
  constructor
  · intro same
    refine ⟨fun key => ⟨?_, ?_⟩, ?_⟩
    · intro isKey
      obtain ⟨entry, isEntry, rfl⟩ := List.mem_map.1 isKey
      obtain ⟨other, isOther, sameMember⟩ :=
        List.mem_map.1 ((same _).1 (List.mem_map_of_mem isEntry))
      exact List.mem_map.2 ⟨other, isOther, (Prod.mk.inj sameMember).1⟩
    · intro isKey
      obtain ⟨other, isOther, rfl⟩ := List.mem_map.1 isKey
      obtain ⟨entry, isEntry, sameMember⟩ :=
        List.mem_map.1 ((same _).2 (List.mem_map_of_mem isOther))
      exact List.mem_map.2 ⟨entry, isEntry, (Prod.mk.inj sameMember).1⟩
    · intro entry isEntry other isOther sameKey
      obtain ⟨found, isFound, sameMember⟩ :=
        List.mem_map.1 ((same _).1 (List.mem_map_of_mem isEntry))
      obtain ⟨foundKey, foundValue⟩ := Prod.mk.inj sameMember
      have : found = other :=
        List.inj_on_of_nodup_map otherOnce isFound isOther
          (foundKey.trans sameKey)
      rw [← foundValue, this]
  · rintro ⟨sameKeys, sameValues⟩ member
    constructor
    · intro isMember
      obtain ⟨entry, isEntry, rfl⟩ := List.mem_map.1 isMember
      obtain ⟨other, isOther, sameKey⟩ :=
        List.mem_map.1 ((sameKeys _).1 (List.mem_map_of_mem isEntry))
      refine List.mem_map.2 ⟨other, isOther, ?_⟩
      rw [sameValues entry isEntry other isOther sameKey.symm, sameKey]
    · intro isMember
      obtain ⟨other, isOther, rfl⟩ := List.mem_map.1 isMember
      obtain ⟨entry, isEntry, sameKey⟩ :=
        List.mem_map.1 ((sameKeys _).2 (List.mem_map_of_mem isOther))
      refine List.mem_map.2 ⟨entry, isEntry, ?_⟩
      rw [sameValues entry isEntry other isOther sameKey, sameKey]

/-- Only a number is written as a number. -/
theorem literalOf_number_ne
    {value : JsNumber}
    {other : JsValue}
    (finite : value.IsFinite)
    (notNumber : ∀ number, (literalOf other).evaluate ≠ .number number) :
    literalOf other ≠ literalOf (.number value) := by
  intro same
  have evaluated := evaluate_numberLiteral finite
  rw [literalOf] at same
  rw [← same] at evaluated
  exact notNumber _ evaluated

/-- Plain data of one literal differs in key order and signs of zeros only. -/
theorem IsPlainData.same_of_literalOf_eq
    {value other : JsValue}
    (plain : IsPlainData value)
    (otherPlain : IsPlainData other)
    (same : literalOf value = literalOf other) :
    SameUpToZeroSign value other := by
  induction plain generalizing other with
  | null =>
      cases otherPlain with
      | null =>
          exact .null
      | number finite =>
          exact absurd same (literalOf_number_ne finite (by
            simp [literalOf, Literal.evaluate]))
      | _ => cases same
  | bool value =>
      cases otherPlain with
      | bool other =>
          cases same
          exact .bool value
      | number finite =>
          exact absurd same (literalOf_number_ne finite (by
            simp [literalOf, Literal.evaluate]))
      | _ => cases same
  | number finite =>
      cases otherPlain with
      | number otherFinite =>
          exact .number ((numberLiteral_eq_iff finite otherFinite).1 same)
      | _ =>
          exact absurd same.symm (literalOf_number_ne finite (by
            simp [literalOf, Literal.evaluate]))
  | string value =>
      cases otherPlain with
      | string other =>
          cases same
          exact .string value
      | number finite =>
          exact absurd same (literalOf_number_ne finite (by
            simp [literalOf, Literal.evaluate]))
      | _ => cases same
  | @array items _ inductionHypothesis =>
      cases otherPlain with
      | @array others otherItems =>
          rw [literalOf, literalOf, literalItems_eq_map, literalItems_eq_map,
            Literal.array.injEq, map_eq_map_iff_zip] at same
          obtain ⟨sameLength, samePairs⟩ := same
          refine .array sameLength fun pair isPair => ?_
          obtain ⟨isItem, isOther⟩ := List.of_mem_zip isPair
          exact inductionHypothesis pair.1 isItem (otherItems pair.2 isOther)
            (samePairs pair isPair)
      | number finite =>
          exact absurd same (literalOf_number_ne finite (by
            simp [literalOf, Literal.evaluate]))
      | _ => cases same
  | @object entries once _ inductionHypothesis =>
      cases otherPlain with
      | @object others otherOnce otherEntries =>
          rw [literalOf, literalOf, literalEntries_eq_map,
            literalEntries_eq_map, Literal.object.injEq,
            sortByKey_eq_iff (by rwa [List.map_map])
              (by rwa [List.map_map]), members_eq_iff otherOnce] at same
          obtain ⟨sameKeys, sameValues⟩ := same
          refine .object sameKeys ?_
          intro entry isEntry other isOther sameKey
          exact inductionHypothesis entry isEntry (otherEntries other isOther)
            (sameValues entry isEntry other isOther sameKey)
      | number finite =>
          exact absurd same (literalOf_number_ne finite (by
            simp [literalOf, Literal.evaluate]))
      | _ => cases same

/-- Plain data that differs in key order and signs of zeros has one literal. -/
theorem IsPlainData.literalOf_eq_of_same
    {value other : JsValue}
    (plain : IsPlainData value)
    (otherPlain : IsPlainData other)
    (same : SameUpToZeroSign value other) :
    literalOf value = literalOf other := by
  induction plain generalizing other with
  | null =>
      cases same
      rfl
  | bool _ =>
      cases same
      rfl
  | number finite =>
      cases same with
      | number sameNumber =>
          cases otherPlain with
          | number otherFinite =>
              exact (numberLiteral_eq_iff finite otherFinite).2 sameNumber
  | string _ =>
      cases same
      rfl
  | array _ inductionHypothesis =>
      cases same with
      | array sameLength samePairs =>
          cases otherPlain with
          | array otherItems =>
              rw [literalOf, literalOf, literalItems_eq_map,
                literalItems_eq_map, Literal.array.injEq, map_eq_map_iff_zip]
              refine ⟨sameLength, fun pair isPair => ?_⟩
              obtain ⟨isItem, isOther⟩ := List.of_mem_zip isPair
              exact inductionHypothesis pair.1 isItem
                (otherItems pair.2 isOther) (samePairs pair isPair)
  | object once _ inductionHypothesis =>
      cases same with
      | object sameKeys sameValues =>
          cases otherPlain with
          | object otherOnce otherEntries =>
              rw [literalOf, literalOf, literalEntries_eq_map,
                literalEntries_eq_map, Literal.object.injEq,
                sortByKey_eq_iff (by rwa [List.map_map])
                  (by rwa [List.map_map]), members_eq_iff otherOnce]
              refine ⟨sameKeys, ?_⟩
              intro entry isEntry other isOther sameKey
              exact inductionHypothesis entry isEntry
                (otherEntries other isOther)
                (sameValues entry isEntry other isOther sameKey)

theorem evaluateItems_eq_map (items : List Literal) :
    evaluateItems items = items.map Literal.evaluate := by
  induction items with
  | nil =>
      rfl
  | cons item rest inductionHypothesis =>
      rw [evaluateItems, inductionHypothesis, List.map_cons]

theorem evaluateMembers_eq_map (members : List (String × Literal)) :
    evaluateMembers members =
      members.map fun member => (member.1, member.2.evaluate) := by
  induction members with
  | nil =>
      rfl
  | cons member rest inductionHypothesis =>
      rw [evaluateMembers, inductionHypothesis, List.map_cons]

/-- Members under new and distinct names become own properties, but for one. -/
theorem foldl_defineMember
    {members entries : List (String × JsValue)}
    (once : ((entries ++ members).map Prod.fst).Nodup) :
    members.foldl defineMember entries =
      entries ++ members.filter fun member => member.1 ≠ "__proto__" := by
  induction members generalizing entries with
  | nil =>
      simp
  | cons member rest inductionHypothesis =>
      rw [List.foldl_cons, defineMember]
      split
      next isProto =>
        have restOnce : ((entries ++ rest).map Prod.fst).Nodup :=
          once.sublist (((List.sublist_cons_self member rest).append_left
            entries).map Prod.fst)
        rw [inductionHypothesis restOnce, List.filter_cons_of_neg]
        simpa using isProto
      next notProto =>
        have isNew : member.1 ∉ entries.map Prod.fst := by
          rw [List.map_append, List.map_cons, List.nodup_middle,
            List.nodup_cons] at once
          exact fun isOld => once.1 (List.mem_append_left _ isOld)
        rw [createDataProperty, if_neg isNew, inductionHypothesis,
          List.filter_cons_of_pos (by simpa using notProto),
          List.append_assoc]
        · rfl
        · rw [List.append_assoc]
          exact once

/-- An object literal evaluates to its members without the prototype. -/
theorem evaluate_literalOf_object
    {entries : List (String × JsValue)}
    (once : (entries.map Prod.fst).Nodup) :
    (literalOf (.object entries)).evaluate =
      .object (((sortByKey entries).map fun entry =>
          (entry.1, (literalOf entry.2).evaluate)).filter
            fun member => member.1 ≠ "__proto__") := by
  have sortedOnce :
      (((sortByKey entries).map fun entry =>
        (entry.1, (literalOf entry.2).evaluate)).map Prod.fst).Nodup := by
    rw [List.map_map]
    exact ((sortByKey_perm entries).map Prod.fst).nodup_iff.2 once
  rw [literalOf, literalEntries_eq_map, sortByKey_map, Literal.evaluate,
    evaluateMembers_eq_map, List.map_map]
  exact congrArg JsValue.object (foldl_defineMember sortedOnce)

/-- A pair of equal lists has equal components at every place. -/
theorem forall_mem_zip_self
    {items : List α}
    {holds : α → α → Prop} :
    (∀ pair ∈ items.zip items, holds pair.1 pair.2) ↔
      ∀ item ∈ items, holds item item := by
  induction items with
  | nil =>
      simp
  | cons item rest inductionHypothesis =>
      rw [List.zip_cons_cons, List.forall_mem_cons, List.forall_mem_cons,
        inductionHypothesis]

/-- Objects under distinct keys lose `__proto__`, and nothing else. -/
theorem sameValue_object_iff
    {entries : List (String × JsValue)}
    (once : (entries.map Prod.fst).Nodup)
    (convert : JsValue → JsValue) :
    SameValue
        (.object (((sortByKey entries).map fun entry =>
          (entry.1, convert entry.2)).filter
            fun member => member.1 ≠ "__proto__"))
        (.object entries) ↔
      "__proto__" ∉ entries.map Prod.fst ∧
        ∀ entry ∈ entries, SameValue (convert entry.2) entry.2 := by
  have mem_iff :
      ∀ member,
        member ∈ ((sortByKey entries).map fun entry =>
            (entry.1, convert entry.2)).filter
              (fun member => member.1 ≠ "__proto__") ↔
          (∃ entry ∈ entries, (entry.1, convert entry.2) = member) ∧
            member.1 ≠ "__proto__" := by
    intro member
    rw [List.mem_filter, List.mem_map]
    simp only [(sortByKey_perm entries).mem_iff, decide_eq_true_eq]
  constructor
  · intro same
    cases same with
    | object sameKeys sameValues =>
        have noProto : "__proto__" ∉ entries.map Prod.fst := by
          intro isKey
          obtain ⟨member, isMember, isProto⟩ :=
            List.mem_map.1 ((sameKeys _).2 isKey)
          exact ((mem_iff member).1 isMember).2 isProto
        refine ⟨noProto, fun entry isEntry => ?_⟩
        have notProto : entry.1 ≠ "__proto__" := by
          intro isProto
          exact noProto (isProto ▸ List.mem_map_of_mem isEntry)
        exact sameValues _ ((mem_iff _).2 ⟨⟨entry, isEntry, rfl⟩, notProto⟩)
          entry isEntry rfl
  · rintro ⟨noProto, each⟩
    refine .object (fun key => ⟨?_, ?_⟩) ?_
    · intro isKey
      obtain ⟨member, isMember, rfl⟩ := List.mem_map.1 isKey
      obtain ⟨⟨entry, isEntry, rfl⟩, _⟩ := (mem_iff member).1 isMember
      exact List.mem_map.2 ⟨entry, isEntry, rfl⟩
    · intro isKey
      have notProto : key ≠ "__proto__" := fun isProto =>
        noProto (isProto ▸ isKey)
      obtain ⟨entry, isEntry, rfl⟩ := List.mem_map.1 isKey
      exact List.mem_map.2
        ⟨_, (mem_iff _).2 ⟨⟨entry, isEntry, rfl⟩, notProto⟩, rfl⟩
    · intro member isMember other isOther sameKey
      obtain ⟨⟨entry, isEntry, rfl⟩, _⟩ := (mem_iff member).1 isMember
      obtain rfl :=
        List.inj_on_of_nodup_map once isEntry isOther sameKey
      exact each entry isEntry

/-- The literal of plain data evaluates to it, but for what is not embeddable. -/
theorem IsPlainData.evaluate_same_iff
    {value : JsValue}
    (plain : IsPlainData value) :
    SameValue (literalOf value).evaluate value ↔ Embeddable value := by
  induction plain with
  | null =>
      exact ⟨fun _ => .null, fun _ => .null⟩
  | bool value =>
      exact ⟨fun _ => .bool value, fun _ => .bool value⟩
  | @number value finite =>
      rw [literalOf, evaluate_numberLiteral finite]
      constructor
      · intro same
        cases same with
        | number sameNumber =>
            refine .number ?_
            rintro rfl
            cases sameNumber
      · intro embeddable
        cases embeddable with
        | number notNegativeZero =>
            refine .number ?_
            cases value with
            | negativeZero =>
                exact absurd rfl notNegativeZero
            | _ => rfl
  | string value =>
      exact ⟨fun _ => .string value, fun _ => .string value⟩
  | @array items _ inductionHypothesis =>
      rw [literalOf, literalItems_eq_map, Literal.evaluate,
        evaluateItems_eq_map, List.map_map]
      have pairs :
          (∀ pair ∈ (items.map (Literal.evaluate ∘ literalOf)).zip items,
              SameValue pair.1 pair.2) ↔
            ∀ item ∈ items, Embeddable item := by
        rw [List.zip_map_left, List.forall_mem_map,
          ← forall₂_congr inductionHypothesis]
        exact @forall_mem_zip_self _ items fun item other =>
          SameValue (literalOf item).evaluate other
      constructor
      · intro same
        cases same with
        | array _ samePairs =>
            exact .array (pairs.1 samePairs)
      · intro embeddable
        cases embeddable with
        | array each =>
            exact .array (List.length_map ..) (pairs.2 each)
  | @object entries once _ inductionHypothesis =>
      rw [evaluate_literalOf_object once,
        sameValue_object_iff once fun value => (literalOf value).evaluate,
        forall₂_congr inductionHypothesis]
      constructor
      · rintro ⟨noProto, each⟩
        exact .object noProto each
      · intro embeddable
        cases embeddable with
        | object noProto each =>
            exact ⟨noProto, each⟩

/-- A context of plain data whose own keys pass their check. -/
structure PlainContext where
  ctx : JsRecord
  keysAccepted : ∀ entry ∈ ctx, assertValidContextKey entry.1 = .ok ()
  plain : IsPlainData (.object ctx)

namespace PlainContext

/-- The values of a context of plain data are plain data. -/
theorem plain_value
    (context : PlainContext)
    {entry : String × JsValue}
    (member : entry ∈ context.ctx) :
    IsPlainData entry.2 := by
  cases context.plain with
  | object _ each =>
      exact each entry member

/-- The canonical text of a context is the text of its literal. -/
theorem canonicalizeContext_eq (context : PlainContext) :
    canonicalizeContext context.ctx =
      .ok (String.ofList (literalOf (.object context.ctx)).text) := by
  rw [canonicalizeContext, forM_ok_iff.2 context.keysAccepted]
  exact context.plain.stringify

/-- Canonical texts tell contexts apart but for the signs of zeros. -/
theorem canonicalizeContext_eq_iff (first second : PlainContext) :
    canonicalizeContext first.ctx = canonicalizeContext second.ctx ↔
      SameUpToZeroSign (.object first.ctx) (.object second.ctx) := by
  rw [first.canonicalizeContext_eq, second.canonicalizeContext_eq]
  constructor
  · intro same
    have sameText := String.ofList_inj.1 (Except.ok.inj same)
    exact first.plain.same_of_literalOf_eq second.plain
      (first.plain.legal.eq_of_text_eq second.plain.legal sameText)
  · intro same
    rw [first.plain.literalOf_eq_of_same second.plain same]

/-- The values differ, but only in the sign of a zero. -/
def DifferInZeroSigns (value other : JsValue) : Prop :=
  ¬ SameValue value other ∧ SameUpToZeroSign value other

/--
Every declaration of the first context holds the value it was given, and the
canonical text is the one of the second exactly when the contexts are equal up
to key order.
-/
structure EmbedsFaithfully (first second : PlainContext) : Prop where
  evaluates :
    ∀ entry ∈ first.ctx,
      ∃ literal value,
        contextLine entry = .ok s!"const {entry.1} = {literal};" ∧
          evaluateLiteral literal = some value ∧
          SameValue value entry.2
  accepted : ∃ text, canonicalizeContext first.ctx = .ok text
  sameText :
    SameValue (.object first.ctx) (.object second.ctx) →
      canonicalizeContext first.ctx = canonicalizeContext second.ctx
  otherText :
    ¬ SameValue (.object first.ctx) (.object second.ctx) →
      canonicalizeContext first.ctx ≠ canonicalizeContext second.ctx

/-- A declaration holds the value of the literal of its entry. -/
theorem contextLine_eq
    (context : PlainContext)
    {entry : String × JsValue}
    (member : entry ∈ context.ctx) :
    contextLine entry =
      .ok s!"const {entry.1} = {String.ofList (literalOf entry.2).text};" := by
  rw [contextLine, context.keysAccepted entry member,
    (context.plain_value member).contextLiteral]
  rfl

/-- Equal values are equal up to the signs of zeros. -/
theorem sameUpToZeroSign_of_sameValue
    {value other : JsValue}
    (same : SameValue value other) :
    SameUpToZeroSign value other := by
  induction same with
  | undefined => exact .undefined
  | null => exact .null
  | bool value => exact .bool value
  | number sameNumber => exact .number (congrArg unsignedZero sameNumber)
  | string value => exact .string value
  | exotic kind => exact .exotic kind
  | array sameLength _ inductionHypothesis =>
      exact .array sameLength inductionHypothesis
  | object sameKeys _ inductionHypothesis =>
      exact .object sameKeys inductionHypothesis

/-- What a declaration holds is the value of the literal of its entry. -/
theorem value_of_evaluates
    {context : PlainContext}
    {entry : String × JsValue}
    (member : entry ∈ context.ctx)
    {literal : String}
    {value : JsValue}
    (emitted : contextLine entry = .ok s!"const {entry.1} = {literal};")
    (evaluated : evaluateLiteral literal = some value) :
    value = (literalOf entry.2).evaluate := by
  have line := emitted.symm.trans (context.contextLine_eq member)
  have isLiteral :
      toString literal =
        toString (String.ofList (literalOf entry.2).text) := by
    simpa using line
  change literal = String.ofList (literalOf entry.2).text at isLiteral
  rw [isLiteral, (context.plain_value member).legal.evaluateLiteral,
    Option.some.injEq] at evaluated
  exact evaluated.symm

/--
Embedding is faithful exactly for contexts without an own key `__proto__` in
their values and without `-0`, and canonical exactly for contexts that do not
differ in the signs of zeros only.
-/
theorem embedsFaithfully_iff (first second : PlainContext) :
    EmbedsFaithfully first second ↔
      (∀ entry ∈ first.ctx, Embeddable entry.2) ∧
        ¬ DifferInZeroSigns (.object first.ctx) (.object second.ctx) := by
  constructor
  · intro faithful
    refine ⟨fun entry member => ?_, fun differ => ?_⟩
    · obtain ⟨literal, value, emitted, evaluated, same⟩ :=
        faithful.evaluates entry member
      rw [value_of_evaluates member emitted evaluated] at same
      exact (first.plain_value member).evaluate_same_iff.1 same
    · exact faithful.otherText differ.1
        ((canonicalizeContext_eq_iff first second).2 differ.2)
  · rintro ⟨embeddable, notZeros⟩
    refine {
      evaluates := fun entry member => ?_
      accepted := ⟨_, first.canonicalizeContext_eq⟩
      sameText := fun same => ?_
      otherText := fun notSame sameText => ?_
    }
    · have plain := first.plain_value member
      exact ⟨_, _, first.contextLine_eq member, plain.legal.evaluateLiteral,
        plain.evaluate_same_iff.2 (embeddable entry member)⟩
    · exact (canonicalizeContext_eq_iff first second).2
        (sameUpToZeroSign_of_sameValue same)
    · exact notZeros
        ⟨notSame, (canonicalizeContext_eq_iff first second).1 sameText⟩

/-- A value with an own key `__proto__`, as `JSON.parse` gives it. -/
def protoValue : JsValue :=
  .object [("__proto__", .bool true)]

/-- A context that holds it. -/
def protoContext : PlainContext where
  ctx := [("v", protoValue)]
  keysAccepted := by
    have valid : assertValidContextKey "v" = .ok () := by decide
    exact List.forall_mem_singleton.2 valid
  plain := by
    refine .object (by simp) (List.forall_mem_singleton.2 ?_)
    exact .object (by simp) (List.forall_mem_singleton.2 (.bool true))

/-- The own key `__proto__` is gone from the declared value. -/
theorem protoContext_not_embedsFaithfully :
    ¬ EmbedsFaithfully protoContext protoContext := by
  intro faithful
  have member := List.mem_singleton_self ("v", protoValue)
  obtain ⟨literal, value, emitted, evaluated, same⟩ :=
    faithful.evaluates _ member
  have empty : value = .object [] :=
    @value_of_evaluates protoContext _ member _ _ emitted evaluated
  rw [empty] at same
  cases same with
  | object sameKeys _ =>
      have absent := (sameKeys "__proto__").2 (List.mem_singleton_self _)
      cases absent

end PlainContext

end CloudflareParallel
