import Mathlib.Data.List.Basic

namespace JsonValues

/-!
# JSON values

A value as `JSON.parse` gives it, and an object as `JSON.stringify` writes it:
a property without a value is left out.  The lemmas evaluate property reads on
such objects and bound the size of what is read.
-/

/-- A number that JSON can carry, by its canonical decimal text. -/
structure JsonNumber where
  text : String
  deriving Repr, DecidableEq

/-- A JSON value. -/
inductive Json where
  | null
  | bool (value : Bool)
  | number (value : JsonNumber)
  | string (value : String)
  | array (items : List Json)
  | object (properties : List (String × Json))
  deriving Repr

namespace Json

/-- A property of an object; no other value has any. -/
def get? : Json → String → Option Json
  | .object properties, key => properties.lookup key
  | _, _ => none

/-- An object, without the properties that have no value. -/
def record (properties : List (String × Option Json)) : Json :=
  .object (properties.filterMap fun property => property.2.map (property.1, ·))

/-- `value as string`. -/
def asString? : Json → Option String
  | .string value => some value
  | _ => none

/-- `value as number`. -/
def asNumber? : Json → Option JsonNumber
  | .number value => some value
  | _ => none

/-- `value as Array`. -/
def asArray? : Json → Option (List Json)
  | .array items => some items
  | _ => none

/-- `value ?? fallback`. -/
def orElse
    (value : Option Json)
    (fallback : Json) : Json :=
  match value with
  | none | some .null => fallback
  | some present => present

/-- `(value as string) ?? fallback`. -/
def stringOr
    (value : Option Json)
    (fallback : String) : Option String :=
  (orElse value (.string fallback)).asString?

/-- `(value as number) ?? fallback`. -/
def numberOr
    (value : Option Json)
    (fallback : JsonNumber) : Option JsonNumber :=
  (orElse value (.number fallback)).asNumber?

@[simp]
theorem get?_record_nil
    (key : String) :
    (record []).get? key = none :=
  rfl

@[simp]
theorem get?_record_cons
    (name : String)
    (value : Option Json)
    (rest : List (String × Option Json))
    (key : String) :
    (record ((name, value) :: rest)).get? key =
      if key = name then
        value.or ((record rest).get? key)
      else
        (record rest).get? key := by
  cases value with
  | none =>
      simp [record, get?]
  | some present =>
      by_cases same : key = name
      · simp [record, get?, same]
      · have different : (key == name) = false := beq_false_of_ne same
        simp [record, get?, same, List.lookup_cons, different]

@[simp]
theorem stringOr_string
    (value fallback : String) :
    stringOr (some (.string value)) fallback = some value :=
  rfl

@[simp]
theorem stringOr_none (fallback : String) :
    stringOr none fallback = some fallback :=
  rfl

@[simp]
theorem numberOr_number
    (value fallback : JsonNumber) :
    numberOr (some (.number value)) fallback = some value :=
  rfl

/-- A property is smaller than its object. -/
theorem sizeOf_get?
    {value found : Json}
    {key : String}
    (isFound : value.get? key = some found) :
    sizeOf found < sizeOf value := by
  cases value with
  | object properties =>
      obtain ⟨before, after, rfl, -⟩ := List.lookup_eq_some_iff.mp isFound
      have member : (key, found) ∈ before ++ (key, found) :: after :=
        List.mem_append_right _ List.mem_cons_self
      have smaller := List.sizeOf_lt_of_mem member
      rw [Prod.mk.sizeOf_spec] at smaller
      rw [object.sizeOf_spec]
      omega
  | _ =>
      cases isFound

/-- An item is smaller than its array. -/
theorem sizeOf_item
    {value item : Json}
    {items : List Json}
    (isArray : value.asArray? = some items)
    (member : item ∈ items) :
    sizeOf item < sizeOf value := by
  cases value with
  | array all =>
      cases isArray
      have smaller := List.sizeOf_lt_of_mem member
      rw [array.sizeOf_spec]
      omega
  | _ =>
      cases isArray

end Json

/-! ## Reading lists -/

variable {Item Result : Type} {read : Item → Option Result}

/-- What is read from a list is read from one of its items. -/
theorem exists_of_mapM
    {items : List Item}
    {results : List Result}
    (isRead : items.mapM read = some results)
    {result : Result}
    (member : result ∈ results) :
    ∃ item ∈ items, read item = some result := by
  induction items generalizing results with
  | nil =>
      cases isRead
      cases member
  | cons first rest inductionHypothesis =>
      rw [List.mapM_cons] at isRead
      obtain ⟨head, firstRead, later⟩ := Option.bind_eq_some_iff.mp isRead
      obtain ⟨tail, restRead, isResult⟩ := Option.bind_eq_some_iff.mp later
      cases isResult
      rcases List.mem_cons.mp member with rfl | inTail
      · exact ⟨first, List.mem_cons_self, firstRead⟩
      · obtain ⟨item, isItem, itemRead⟩ :=
          inductionHypothesis restRead inTail
        exact ⟨item, List.mem_cons_of_mem _ isItem, itemRead⟩

/-- A list of written items is read back. -/
theorem mapM_map_of_reads
    {Source : Type}
    {items : List Source}
    {write : Source → Item}
    {result : Source → Result}
    (reads : ∀ item ∈ items, read (write item) = some (result item)) :
    (items.map write).mapM read = some (items.map result) := by
  induction items with
  | nil =>
      rfl
  | cons first rest inductionHypothesis =>
      have restReads :=
        inductionHypothesis fun item member =>
          reads item (List.mem_cons_of_mem _ member)
      rw [List.map_cons, List.mapM_cons, reads first List.mem_cons_self,
        restReads]
      rfl

end JsonValues
