import CloudflareParallel.Library.JsonValues
import Mathlib.Data.Rat.Defs
import Mathlib.Algebra.Order.Ring.Rat
import Mathlib.Data.Nat.Cast.Order.Ring

namespace CloudflareParallel

open JsonValues

/-!
# Numbers out of unchecked values

An option that nothing has checked may be any JSON value, and `>` or `+` turn it
into a number or a text first.  The value of a numeric text, the rounding of a
sum and the text of a number are the language's own and are parameters.
-/

/-- A number of the language. -/
inductive JsDouble where
  | finite (value : Rat)
  | infinite (negative : Bool)
  | nan
  deriving DecidableEq

namespace JsDouble

/-- `<` on numbers. -/
def lessThan : JsDouble → JsDouble → Bool
  | .finite left, .finite right => left < right
  | .finite _, .infinite negative => !negative
  | .infinite negative, .finite _ => negative
  | .infinite left, .infinite right => left && !right
  | .nan, _ => false
  | _, .nan => false

/-- The number is greater than zero. -/
def isPositive (number : JsDouble) : Bool :=
  (JsDouble.finite 0).lessThan number

/-- A whole number. -/
def ofNat (value : Nat) : JsDouble :=
  .finite value

/-- No number is below itself. -/
theorem lessThan_self (number : JsDouble) :
    number.lessThan number = false := by
  cases number with
  | finite value => simp [lessThan]
  | infinite negative => cases negative <;> rfl
  | nan => rfl

/-- What is below a whole number is below every larger one. -/
theorem lessThan_ofNat_mono
    {number : JsDouble}
    {count more : Nat}
    (below : number.lessThan (.ofNat count) = true)
    (larger : count ≤ more) :
    number.lessThan (.ofNat more) = true := by
  cases number with
  | finite value =>
      simp only [ofNat, lessThan, decide_eq_true_eq] at below ⊢
      exact lt_of_lt_of_le below (Nat.cast_le.mpr larger)
  | infinite negative => exact below
  | nan => cases below

end JsDouble

/-- The number conversions of the language. -/
structure JsNumerics where
  /-- `Number(text)`; also the value that a JSON number with this text has. -/
  numberOf : String → JsDouble
  /-- The number nearest to a sum. -/
  round : Rat → JsDouble
  /-- `String(number)`. -/
  textOf : JsDouble → String

/-- The value of an option: a number, or JSON that nothing has checked. -/
inductive OptionValue where
  | typed (value : JsDouble)
  | unchecked (value : Json)

/-- `value ?? fallback`, where both may be missing. -/
def nullish
    (value fallback : Option OptionValue) : Option OptionValue :=
  match value with
  | none | some (.unchecked .null) => fallback
  | some present => some present

/-- A value goes before its fallback, unless it is nullish. -/
theorem nullish_cases (value fallback : Option OptionValue) :
    (nullish value none = none ∧ nullish value fallback = fallback) ∨
      ∃ present,
        value = some present ∧
          nullish value none = some present ∧
            nullish value fallback = some present := by
  cases value with
  | none => exact .inl ⟨rfl, rfl⟩
  | some present =>
      cases present with
      | typed => exact .inr ⟨_, rfl, rfl, rfl⟩
      | unchecked json =>
          cases json with
          | null => exact .inl ⟨rfl, rfl⟩
          | _ => exact .inr ⟨_, rfl, rfl, rfl⟩

namespace JsNumerics

mutual

/--
`String` of a JSON value; a `TypeError` for an object whose own `toString`
hides the inherited one.
-/
def jsText : Json → Option String
  | .null => some "null"
  | .bool value => some (if value then "true" else "false")
  | .number value => some value.text
  | .string value => some value
  | .array items => (itemTexts items).map (String.intercalate ",")
  | .object properties =>
      if (properties.lookup "toString").isSome then
        none
      else
        some "[object Object]"

/-- The texts of the items of an array; that of `null` is empty. -/
def itemTexts : List Json → Option (List String)
  | [] => some []
  | item :: rest =>
      match itemText item, itemTexts rest with
      | some text, some texts => some (text :: texts)
      | _, _ => none

/-- The text of an item of an array. -/
def itemText : Json → Option String
  | .null => some ""
  | .bool value => some (if value then "true" else "false")
  | .number value => some value.text
  | .string value => some value
  | .array items => (itemTexts items).map (String.intercalate ",")
  | .object properties =>
      if (properties.lookup "toString").isSome then
        none
      else
        some "[object Object]"

end

variable (numerics : JsNumerics)

/-- `sum + number`, for a finite summand. -/
def plus
    (sum : Rat) : JsDouble → JsDouble
  | .finite number => numerics.round (sum + number)
  | other => other

/-- The number that JSON has without going through a text. -/
def ownNumber : Json → Option JsDouble
  | .null => some (.finite 0)
  | .bool value => some (.finite (if value then 1 else 0))
  | .number value => some (numerics.numberOf value.text)
  | _ => none

/-- `Number(value)`, or a `TypeError`. -/
def toNumber : OptionValue → Option JsDouble
  | .typed value => some value
  | .unchecked value =>
      match numerics.ownNumber value with
      | some number => some number
      | none => (jsText value).map numerics.numberOf

/-- `Boolean(number)`. -/
def truthyNumber : JsDouble → Bool
  | .finite number => number ≠ 0
  | .infinite _ => true
  | .nan => false

/-- `Boolean(value)`. -/
def truthy : OptionValue → Bool
  | .typed value => truthyNumber value
  | .unchecked .null => false
  | .unchecked (.bool value) => value
  | .unchecked (.number value) => truthyNumber (numerics.numberOf value.text)
  | .unchecked (.string value) => value ≠ ""
  | .unchecked (.array _) => true
  | .unchecked (.object _) => true

/-- `value && value > 0`, as a condition; nothing if it throws. -/
def truthyPositive : Option OptionValue → Option Bool
  | none => some false
  | some value =>
      if numerics.truthy value then
        (numerics.toNumber value).map (·.isPositive)
      else
        some false

/-- What passes the condition is a positive number. -/
theorem isPositive_of_truthyPositive
    {value : OptionValue}
    {number : JsDouble}
    (passes : numerics.truthyPositive (some value) = some true)
    (read : numerics.toNumber value = some number) :
    number.isPositive = true := by
  unfold truthyPositive at passes
  dsimp only at passes
  split at passes
  · rw [read] at passes
    exact Option.some.inj passes
  · cases passes

/-- A positive number passes the condition. -/
theorem truthyPositive_typed
    {number : JsDouble}
    (positive : number.isPositive = true) :
    numerics.truthyPositive (some (.typed number)) = some true := by
  have truthy : truthyNumber number = true := by
    cases number with
    | finite value =>
        simp only [JsDouble.isPositive, JsDouble.lessThan, decide_eq_true_eq]
          at positive
        exact decide_eq_true (ne_of_gt positive)
    | infinite => rfl
    | nan => cases positive
  exact (if_pos truthy).trans (congrArg some positive)

/-- `number + value`: a sum of numbers, or the joined texts. -/
def add
    (number : Rat) : OptionValue → Option OptionValue
  | .typed value => some (.typed (numerics.plus number value))
  | .unchecked value =>
      match numerics.ownNumber value with
      | some own => some (.typed (numerics.plus number own))
      | none =>
          (jsText value).map fun text =>
            .unchecked (.string (numerics.textOf (.finite number) ++ text))

/-- `String(value)`. -/
def optionText : OptionValue → Option String
  | .typed value => some (numerics.textOf value)
  | .unchecked value => jsText value

end JsNumerics

end CloudflareParallel
