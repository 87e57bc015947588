import CloudflareParallel.LoaderCodegen
import CloudflareParallel.LoaderKeyOrder
import CloudflareParallel.LoaderLiterals

namespace CloudflareParallel

/-!
# Embedding a context in the generated module

Every key of a context becomes `const KEY = LITERAL;`.  A value of plain data
has one literal, in which the members of objects are sorted; its text is what
`canonicalizeContext` writes.  The literal is compared with the value by what it
evaluates to, and with other literals by its text.
-/

/-- The number is finite, and its text is the canonical one. -/
def JsNumber.IsFinite : JsNumber → Prop
  | .finite text =>
      isNumeral text.toList = true ∨
        text.toList.head? = some '-' ∧ isNumeral text.toList.tail = true ∧
          text ≠ "-0"
  | .negativeZero => True
  | .nonFinite => False

/-- Null, booleans, finite numbers, strings, arrays and plain objects. -/
inductive IsPlainData : JsValue → Prop where
  | null :
      IsPlainData .null
  | bool (value : Bool) :
      IsPlainData (.bool value)
  | number {value : JsNumber} :
      value.IsFinite →
      IsPlainData (.number value)
  | string (value : String) :
      IsPlainData (.string value)
  | array {items : List JsValue} :
      (∀ item ∈ items, IsPlainData item) →
      IsPlainData (.array items)
  | object {entries : List (String × JsValue)} :
      (entries.map Prod.fst).Nodup →
      (∀ entry ∈ entries, IsPlainData entry.2) →
      IsPlainData (.object entries)

/--
Values of the same structure: the same own keys, in any order, hold values of
the same structure.  How numbers are compared is a parameter.
-/
inductive SameStructure (sameNumber : JsNumber → JsNumber → Prop) :
    JsValue → JsValue → Prop where
  | undefined :
      SameStructure sameNumber .undefined .undefined
  | null :
      SameStructure sameNumber .null .null
  | bool (value : Bool) :
      SameStructure sameNumber (.bool value) (.bool value)
  | number {value other : JsNumber} :
      sameNumber value other →
      SameStructure sameNumber (.number value) (.number other)
  | string (value : String) :
      SameStructure sameNumber (.string value) (.string value)
  | exotic (kind : JsExotic) :
      SameStructure sameNumber (.exotic kind) (.exotic kind)
  | array {items others : List JsValue} :
      items.length = others.length →
      (∀ pair ∈ items.zip others, SameStructure sameNumber pair.1 pair.2) →
      SameStructure sameNumber (.array items) (.array others)
  | object {entries others : List (String × JsValue)} :
      (∀ key, key ∈ entries.map Prod.fst ↔ key ∈ others.map Prod.fst) →
      (∀ entry ∈ entries, ∀ other ∈ others, entry.1 = other.1 →
        SameStructure sameNumber entry.2 other.2) →
      SameStructure sameNumber (.object entries) (.object others)

/-- Structural equality up to key order. -/
abbrev SameValue : JsValue → JsValue → Prop :=
  SameStructure fun value other => value = other

/-- A number without the sign of a zero. -/
def unsignedZero : JsNumber → JsNumber
  | .negativeZero => .finite "0"
  | value => value

/-- Structural equality that does not look at the sign of a zero. -/
abbrev SameUpToZeroSign : JsValue → JsValue → Prop :=
  SameStructure fun value other => unsignedZero value = unsignedZero other

/-- The literal that a number is written as. -/
def numberLiteral : JsNumber → Literal
  | .finite text =>
      if text.toList.head? = some '-' then
        .negated (String.ofList text.toList.tail)
      else
        .numeral text
  | .negativeZero => .numeral "0"
  | .nonFinite => .null

mutual

/-- The literal that a value is written as. -/
def literalOf : JsValue → Literal
  | .undefined => .null
  | .null => .null
  | .bool value => .boolean value
  | .number value => numberLiteral value
  | .string value => .string value
  | .exotic _ => .null
  | .array items => .array (literalItems items)
  | .object entries => .object (sortByKey (literalEntries entries))

/-- The literals of array items. -/
def literalItems : List JsValue → List Literal
  | [] => []
  | item :: rest => literalOf item :: literalItems rest

/-- The literals of object members, in property order. -/
def literalEntries :
    List (String × JsValue) → List (String × Literal)
  | [] => []
  | (key, value) :: rest => (key, literalOf value) :: literalEntries rest

end

theorem literalItems_eq_map (items : List JsValue) :
    literalItems items = items.map literalOf := by
  induction items with
  | nil =>
      rfl
  | cons item rest inductionHypothesis =>
      rw [literalItems, inductionHypothesis, List.map_cons]

theorem literalEntries_eq_map (entries : List (String × JsValue)) :
    literalEntries entries =
      entries.map fun entry => (entry.1, literalOf entry.2) := by
  induction entries with
  | nil =>
      rfl
  | cons entry rest inductionHypothesis =>
      rw [literalEntries, inductionHypothesis, List.map_cons]

/-- Sorted members have the keys of the object. -/
theorem sorted_entries_nodup
    {entries : List (String × JsValue)}
    (once : (entries.map Prod.fst).Nodup)
    (convert : JsValue → α) :
    ((sortByKey (entries.map fun entry =>
      (entry.1, convert entry.2))).map Prod.fst).Nodup := by
  refine ((sortByKey_perm _).map Prod.fst).nodup_iff.2 ?_
  rw [List.map_map]
  exact once

/-- Plain data is written as a legal literal. -/
theorem IsPlainData.legal
    {value : JsValue}
    (plain : IsPlainData value) :
    (literalOf value).Legal := by
  induction plain with
  | null =>
      exact .null
  | bool value =>
      exact .boolean value
  | @number value finite =>
      cases value with
      | finite text =>
          rw [literalOf, numberLiteral]
          split
          next negative =>
            refine .negated ?_
            rw [String.toList_ofList]
            rcases finite with numeral | ⟨_, numeral, _⟩
            · obtain ⟨_, first, tail, shape, digit⟩ := isNumeral_spec numeral
              rw [shape] at negative
              cases negative
              exact absurd digit (by decide)
            · exact numeral
          next notNegative =>
            refine .numeral ?_
            exact finite.resolve_right fun negative => notNegative negative.1
      | negativeZero =>
          exact .numeral (by decide)
      | nonFinite =>
          exact finite.elim
  | string value =>
      exact .string value
  | array _ inductionHypothesis =>
      rw [literalOf, literalItems_eq_map]
      exact .array (List.forall_mem_map.2 inductionHypothesis)
  | object once _ inductionHypothesis =>
      rw [literalOf, literalEntries_eq_map]
      refine .object (sorted_entries_nodup once literalOf) ?_
      intro member isMember
      have unsorted := (sortByKey_perm _).mem_iff.1 isMember
      obtain ⟨entry, isEntry, rfl⟩ := List.mem_map.1 unsorted
      exact inductionHypothesis entry isEntry

/-- Texts are joined and bracketed alike as strings and as lists. -/
theorem bracketed_eq
    {left right : String}
    {opening closing : Char}
    (isLeft : left.toList = [opening])
    (isRight : right.toList = [closing])
    (texts : List (List Char)) :
    left ++ String.intercalate "," (texts.map String.ofList) ++ right =
      String.ofList
        (opening :: ([','].intercalate texts ++ [closing])) := by
  have unwrapped : (texts.map String.ofList).map String.toList = texts := by
    rw [List.map_map]
    simp [Function.comp_def]
  refine String.toList_inj.1 ?_
  rw [String.toList_append, String.toList_append, String.toList_intercalate,
    unwrapped, isLeft, isRight, String.toList_ofList, String.toList_ofList]
  rfl

/-- The text of a number is the text of its literal. -/
theorem jsonNumber_eq
    {value : JsNumber}
    (finite : value.IsFinite) :
    jsonNumber value = String.ofList (numberLiteral value).text := by
  cases value with
  | finite text =>
      rw [jsonNumber, numberLiteral]
      split
      next negative =>
        rw [Literal.text, String.toList_ofList]
        obtain ⟨tail, shape⟩ := List.head?_eq_some_iff.1 negative
        rw [shape, List.tail_cons, ← shape, String.ofList_toList]
      next =>
        rw [Literal.text, String.ofList_toList]
  | negativeZero =>
      rfl
  | nonFinite =>
      exact finite.elim

/-- `canonicalizeContext` writes a value of plain data as its literal. -/
theorem IsPlainData.stringify
    {value : JsValue}
    (plain : IsPlainData value) :
    CloudflareParallel.stringify value =
      .ok (String.ofList (literalOf value).text) := by
  induction plain with
  | null =>
      rfl
  | bool value =>
      cases value <;> rfl
  | number finite =>
      rw [CloudflareParallel.stringify, jsonNumber_eq finite, literalOf]
  | string value =>
      rw [CloudflareParallel.stringify, literalOf, Literal.text,
        String.ofList_toList]
  | @array items _ inductionHypothesis =>
      have rendered :
          items.mapM CloudflareParallel.stringify =
            pure ((items.map fun item => (literalOf item).text).map
              String.ofList) := by
        refine mapM_eq_pure ?_
        rw [List.map_map, List.forall₂_map_right_iff, List.forall₂_same]
        exact inductionHypothesis
      rw [CloudflareParallel.stringify, stringifyItems_eq_map, List.mapM_map,
        literalOf, literalItems_eq_map, Literal.text, itemTexts_eq_map,
        List.map_map, ← @bracketed_eq "[" "]" '[' ']' rfl rfl]
      exact congrArg (· >>= _) rendered
  | @object entries once _ inductionHypothesis =>
      have rendered :
          (sortByKey (entries.map fun entry =>
              (entry.1, CloudflareParallel.stringify entry.2))).mapM
                stringifyMember =
            pure (((sortByKey (entries.map fun entry =>
              (entry.1, literalOf entry.2))).map memberLiteralText).map
                String.ofList) := by
        refine mapM_eq_pure ?_
        rw [sortByKey_map, sortByKey_map, List.map_map, List.map_map,
          List.forall₂_map_left_iff, List.forall₂_map_right_iff,
          List.forall₂_same]
        intro entry member
        have rendered :=
          inductionHypothesis entry ((sortByKey_perm _).mem_iff.1 member)
        have written :
            jsonString entry.1 ++ ":" ++ String.ofList (literalOf entry.2).text =
              String.ofList
                (memberLiteralText (entry.1, literalOf entry.2)) := by
          refine String.toList_inj.1 ?_
          simp [memberLiteralText]
        rw [stringifyMember, rendered, Function.comp_apply,
          Function.comp_apply, ← written]
        rfl
      rw [CloudflareParallel.stringify, stringifyEntries_eq_map,
        literalOf, literalEntries_eq_map, Literal.text, memberTexts_eq_map,
        ← @bracketed_eq "\x7b" "\x7d" '\x7b' '\x7d' rfl rfl, rendered]
      rfl

/-- A context value of plain data is declared as its literal. -/
theorem IsPlainData.contextLiteral
    {value : JsValue}
    (plain : IsPlainData value) :
    CloudflareParallel.contextLiteral value =
      .ok (String.ofList (literalOf value).text) := by
  rw [contextLiteral_eq, plain.stringify]

end CloudflareParallel
