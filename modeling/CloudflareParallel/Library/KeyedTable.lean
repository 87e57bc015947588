import Mathlib.Data.List.Nodup

namespace KeyedTables

/-!
# Tables with a unique key

A table is a list of rows no two of which have the same key.  The four
operations are those of a database: look a row up, insert a row with a fresh
key, update the rows that meet a condition, delete the rows that meet one.
-/

/-- Rows with pairwise different keys, oldest first. -/
structure KeyedTable
    {Row Key : Type}
    (keyOf : Row → Key) where
  rows : List Row
  unique : (rows.map keyOf).Nodup

namespace KeyedTable

variable {Row Key : Type} {keyOf : Row → Key}

/-- The table without rows. -/
def empty : KeyedTable keyOf where
  rows := []
  unique := .nil

/-- Adding a row whose key is not in the table. -/
def insert
    (table : KeyedTable keyOf)
    (row : Row)
    (fresh : keyOf row ∉ table.rows.map keyOf) : KeyedTable keyOf where
  rows := table.rows ++ [row]
  unique := by
    rw [List.map_append, List.nodup_append]
    refine ⟨table.unique, by simp, ?_⟩
    intro key member other isRow same
    rw [List.map_singleton, List.mem_singleton] at isRow
    exact fresh (isRow ▸ same ▸ member)

/-- An update of the rows that meet a condition does not move keys. -/
theorem map_key_update
    {condition : Row → Bool}
    {change : Row → Row}
    (keepsKey : ∀ row, keyOf (change row) = keyOf row)
    (rows : List Row) :
    (rows.map fun row => if condition row then change row else row).map
        keyOf =
      rows.map keyOf := by
  rw [List.map_map]
  apply List.map_congr_left
  intro row _
  simp only [Function.comp_apply]
  split
  · exact keepsKey row
  · rfl

/-- Changing the rows that meet a condition, without touching their keys. -/
def updateWhere
    (table : KeyedTable keyOf)
    (condition : Row → Bool)
    (change : Row → Row)
    (keepsKey : ∀ row, keyOf (change row) = keyOf row) :
    KeyedTable keyOf where
  rows := table.rows.map fun row => if condition row then change row else row
  unique := by
    rw [map_key_update keepsKey]
    exact table.unique

/-- Deleting the rows that meet a condition. -/
def deleteWhere
    (table : KeyedTable keyOf)
    (condition : Row → Bool) : KeyedTable keyOf where
  rows := table.rows.filter fun row => !condition row
  unique := (List.filter_sublist.map keyOf).nodup table.unique

@[simp]
theorem rows_insert
    (table : KeyedTable keyOf)
    (row : Row)
    (fresh : keyOf row ∉ table.rows.map keyOf) :
    (table.insert row fresh).rows = table.rows ++ [row] :=
  rfl

/-- Tables with the same rows are the same table. -/
@[ext]
theorem ext
    {table other : KeyedTable keyOf}
    (sameRows : table.rows = other.rows) :
    table = other := by
  cases table
  cases other
  cases sameRows
  rfl

/-- An update that no row meets changes nothing. -/
theorem updateWhere_of_unmet
    (table : KeyedTable keyOf)
    {condition : Row → Bool}
    (change : Row → Row)
    (keepsKey : ∀ row, keyOf (change row) = keyOf row)
    (unmet : ∀ row ∈ table.rows, ¬ condition row) :
    table.updateWhere condition change keepsKey = table := by
  ext1
  change table.rows.map _ = table.rows
  rw [List.map_congr_left fun row member => if_neg (unmet row member)]
  exact List.map_id _

/-- Two rows with one key are the same row. -/
theorem eq_of_sameKey
    (table : KeyedTable keyOf)
    {row other : Row}
    (member : row ∈ table.rows)
    (otherMember : other ∈ table.rows)
    (sameKey : keyOf row = keyOf other) :
    row = other :=
  List.inj_on_of_nodup_map table.unique member otherMember sameKey

variable [DecidableEq Key]

/-- The row with a key. -/
def get?
    (table : KeyedTable keyOf)
    (key : Key) : Option Row :=
  table.rows.find? fun row => keyOf row = key

theorem get?_eq_some_iff
    (table : KeyedTable keyOf)
    {key : Key}
    {row : Row} :
    table.get? key = some row ↔ row ∈ table.rows ∧ keyOf row = key := by
  constructor
  · intro found
    exact ⟨List.mem_of_find?_eq_some found, by simpa using List.find?_some found⟩
  · rintro ⟨member, sameKey⟩
    cases found : table.get? key with
    | none =>
        have absent := List.find?_eq_none.mp found row member
        simp [sameKey] at absent
    | some other =>
        have otherKey : keyOf other = key := by
          simpa using List.find?_some found
        rw [table.eq_of_sameKey (List.mem_of_find?_eq_some found) member
          (otherKey.trans sameKey.symm)]

theorem get?_eq_none_iff
    (table : KeyedTable keyOf)
    {key : Key} :
    table.get? key = none ↔ key ∉ table.rows.map keyOf := by
  simp [get?, List.find?_eq_none]

/-- The row that was looked up has the key. -/
theorem key_of_get?
    {table : KeyedTable keyOf}
    {key : Key}
    {row : Row}
    (found : table.get? key = some row) :
    keyOf row = key :=
  (table.get?_eq_some_iff.mp found).2

/-- A row of the table is found under its key. -/
theorem get?_of_mem
    {table : KeyedTable keyOf}
    {row : Row}
    (member : row ∈ table.rows) :
    table.get? (keyOf row) = some row :=
  table.get?_eq_some_iff.mpr ⟨member, rfl⟩

/-- An inserted row is found, and every other lookup is as before. -/
theorem get?_insert
    (table : KeyedTable keyOf)
    {row : Row}
    (fresh : keyOf row ∉ table.rows.map keyOf)
    (key : Key) :
    (table.insert row fresh).get? key =
      if keyOf row = key then some row else table.get? key := by
  rw [get?, rows_insert, List.find?_append]
  split
  next sameKey =>
    have absent := table.get?_eq_none_iff.mpr fresh
    rw [get?, sameKey] at absent
    rw [absent]
    simp [sameKey]
  next otherKey =>
    simp [get?, otherKey]

/-- A lookup after an update sees the updated row. -/
theorem get?_updateWhere
    (table : KeyedTable keyOf)
    (condition : Row → Bool)
    (change : Row → Row)
    (keepsKey : ∀ row, keyOf (change row) = keyOf row)
    (key : Key) :
    (table.updateWhere condition change keepsKey).get? key =
      (table.get? key).map fun row =>
        if condition row then change row else row := by
  rw [get?, get?, updateWhere, List.find?_map]
  congr 2
  funext row
  simp only [Function.comp_apply]
  split
  · rw [keepsKey]
  · rfl

/-- A lookup after a deletion sees the rows that were not deleted. -/
theorem get?_deleteWhere
    (table : KeyedTable keyOf)
    (condition : Row → Bool)
    (key : Key) :
    (table.deleteWhere condition).get? key =
      (table.get? key).filter fun row => !condition row := by
  cases found : table.get? key with
  | none =>
      rw [Option.filter_none, get?_eq_none_iff]
      intro member
      exact table.get?_eq_none_iff.mp found
        ((List.filter_sublist.map keyOf).subset member)
  | some row =>
      obtain ⟨member, sameKey⟩ := table.get?_eq_some_iff.mp found
      cases deleted : condition row with
      | false =>
          simp only [Option.filter, deleted, Bool.not_false, if_true]
          rw [get?_eq_some_iff]
          exact ⟨List.mem_filter.mpr ⟨member, by simp [deleted]⟩, sameKey⟩
      | true =>
          simp only [Option.filter, deleted, Bool.not_true,
            Bool.false_eq_true, if_false]
          rw [get?_eq_none_iff]
          intro stays
          obtain ⟨other, kept, otherKey⟩ := List.mem_map.mp stays
          obtain ⟨otherMember, notDeleted⟩ := List.mem_filter.mp kept
          rw [table.eq_of_sameKey otherMember member
            (otherKey.trans sameKey.symm), deleted] at notDeleted
          cases notDeleted

end KeyedTable

end KeyedTables
