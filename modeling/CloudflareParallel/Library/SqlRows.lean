import CloudflareParallel.Library.JsonValues

namespace SqlRows

open JsonValues

/-!
# Rows of an SQL table

A row gives every column a value.  An INSERT lists columns and values in the
same order, an UPDATE sets some columns of the rows that meet its condition,
and a condition on NULL is neither true nor false.  A JSON text is held by the
value that it denotes.
-/

/-- A value in a column. -/
inductive SqlValue where
  | null
  | integer (value : Int)
  | text (value : String)
  /-- A text that is a JSON text. -/
  | json (document : Json)
  /-- The bytes of a JSON text. -/
  | blob (document : Json)

namespace SqlValue

/-- A value that may be missing. -/
def ofOption
    {α : Type}
    (ofValue : α → SqlValue)
    (value : Option α) : SqlValue :=
  (value.map ofValue).getD .null

/-- A text. -/
def text? : SqlValue → Option String
  | .text value => some value
  | _ => none

/-- An integer. -/
def integer? : SqlValue → Option Int
  | .integer value => some value
  | _ => none

/-- The document of a JSON text. -/
def json? : SqlValue → Option Json
  | .json document => some document
  | _ => none

/-- The document of the bytes of a JSON text. -/
def blob? : SqlValue → Option Json
  | .blob document => some document
  | _ => none

/-- `value = ?`, of texts and of integers. -/
def equals : SqlValue → SqlValue → Option Bool
  | .text value, .text other => some (value = other)
  | .integer value, .integer other => some (value = other)
  | _, _ => none

/-- `value < ?`, of texts and of integers. -/
def lessThan : SqlValue → SqlValue → Option Bool
  | .text value, .text other => some (value < other)
  | .integer value, .integer other => some (value < other)
  | _, _ => none

/-- `value >= ?`, of integers. -/
def atLeast : SqlValue → SqlValue → Option Bool
  | .integer value, .integer other => some (other ≤ value)
  | _, _ => none

/-- `value + 1`. -/
def plusOne : SqlValue → SqlValue
  | .integer value => .integer (value + 1)
  | _ => .null

/-- `value IS NOT NULL`. -/
def isNotNull : SqlValue → Option Bool
  | .null => some false
  | _ => some true

end SqlValue

/-- `AND`. -/
def both : Option Bool → Option Bool → Option Bool
  | some false, _ => some false
  | _, some false => some false
  | some true, some true => some true
  | _, _ => none

/-- `OR`. -/
def either : Option Bool → Option Bool → Option Bool
  | some true, _ => some true
  | _, some true => some true
  | some false, some false => some false
  | _, _ => none

variable {Column : Type}

/-- A row of a table. -/
abbrev SqlRow (Column : Type) := Column → SqlValue

/-- A condition on a row. -/
abbrev SqlCondition (Column : Type) := SqlRow Column → Option Bool

/-- `SELECT … WHERE`. -/
def select
    (condition : SqlCondition Column)
    (rows : List (SqlRow Column)) : List (SqlRow Column) :=
  rows.filter fun row => condition row = some true

/-- `DELETE … WHERE`. -/
def deleteWhere
    (condition : SqlCondition Column)
    (rows : List (SqlRow Column)) : List (SqlRow Column) :=
  rows.filter fun row => ¬ condition row = some true

/-- `UPDATE … SET … WHERE`; what is set may depend on the row. -/
structure SqlUpdate (Column : Type) where
  assignments : SqlRow Column → List (Column × SqlValue)
  condition : SqlCondition Column

section Rows

variable [DecidableEq Column]

/-- The row that an INSERT makes; a column that is not listed is NULL. -/
def insertedRow
    (columns : List Column)
    (values : List SqlValue) : SqlRow Column :=
  fun column => ((columns.zip values).lookup column).getD .null

/-- A row with some of its columns set. -/
def SqlRow.set
    (row : SqlRow Column)
    (assignments : List (Column × SqlValue)) : SqlRow Column :=
  fun column => (assignments.lookup column).getD (row column)

namespace SqlUpdate

/-- The table after an UPDATE. -/
def run
    (update : SqlUpdate Column)
    (rows : List (SqlRow Column)) : List (SqlRow Column) :=
  rows.map fun row =>
    if update.condition row = some true then
      row.set (update.assignments row)
    else
      row

/-- The rows that an UPDATE changes, as they are afterwards. -/
def returning
    (update : SqlUpdate Column)
    (rows : List (SqlRow Column)) : List (SqlRow Column) :=
  (select update.condition rows).map fun row =>
    row.set (update.assignments row)

end SqlUpdate

end Rows

/-! ## Conditions -/

@[simp]
theorem both_eq_true
    (first second : Option Bool) :
    both first second = some true ↔
      first = some true ∧ second = some true := by
  rcases first with _ | _ | _ <;> rcases second with _ | _ | _ <;> decide

@[simp]
theorem either_eq_true
    (first second : Option Bool) :
    either first second = some true ↔
      first = some true ∨ second = some true := by
  rcases first with _ | _ | _ <;> rcases second with _ | _ | _ <;> decide

namespace SqlValue

@[simp]
theorem equals_text
    (value other : String) :
    (SqlValue.text value).equals (.text other) = some true ↔
      value = other := by
  simp [equals]

@[simp]
theorem lessThan_text
    (value other : String) :
    (SqlValue.text value).lessThan (.text other) = some true ↔
      value < other := by
  simp [lessThan]

@[simp]
theorem lessThan_integer
    (value other : Int) :
    (SqlValue.integer value).lessThan (.integer other) = some true ↔
      value < other := by
  simp [lessThan]

/-- A value that may be missing is equal to a text if it is there and is. -/
@[simp]
theorem equals_ofOption_text
    (value : Option String)
    (other : String) :
    (ofOption .text value).equals (.text other) = some true ↔
      value = some other := by
  cases value with
  | none => simp [ofOption, equals]
  | some value => simp [ofOption]

/-- A value that may be missing is below an integer if it is there and is. -/
@[simp]
theorem lessThan_ofOption_integer
    (value : Option Int)
    (other : Int) :
    (ofOption .integer value).lessThan (.integer other) = some true ↔
      value.any (· < other) = true := by
  cases value with
  | none => simp [ofOption, lessThan]
  | some value => simp [ofOption]

end SqlValue

/-! ## Tables -/

section Tables

variable [DecidableEq Column]

/-- A column that is not assigned keeps its value. -/
theorem SqlRow.set_of_not_mem
    {row : SqlRow Column}
    {assignments : List (Column × SqlValue)}
    {column : Column}
    (unassigned : column ∉ assignments.map Prod.fst) :
    row.set assignments column = row column := by
  have missing : assignments.lookup column = none := by
    rw [List.lookup_eq_none_iff]
    intro assignment member
    rw [bne_iff_ne]
    rintro rfl
    exact unassigned (List.mem_map_of_mem member)
  unfold SqlRow.set
  rw [missing]
  rfl

/-- What an UPDATE keeps of every row it keeps of the table. -/
theorem SqlUpdate.forall_run
    {update : SqlUpdate Column}
    {keeps : SqlRow Column → Prop}
    {rows : List (SqlRow Column)}
    (kept : ∀ row ∈ rows, keeps row)
    (changed :
      ∀ row,
        keeps row →
        update.condition row = some true →
        keeps (row.set (update.assignments row))) :
    ∀ row ∈ update.run rows, keeps row := by
  intro row member
  obtain ⟨old, isOld, rfl⟩ := List.mem_map.mp member
  split
  next met => exact changed old (kept old isOld) met
  next => exact kept old isOld

end Tables

end SqlRows
