import CloudflareParallel.Library.JsonValues

namespace CloudflareParallel

open JsonValues

/-!
# Dates in messages

`new Date(ms).toISOString()`, as the messages of deadline errors use it.  A
number makes a valid date if it is in range; only the milliseconds count.
-/

/-- A decimal with leading zeros. -/
def padStart
    (width : Nat)
    (value : Nat) : String :=
  let digits := toString value
  String.ofList (List.replicate (width - digits.length) '0') ++ digits

/-- The year, month and day of a day number of the epoch. -/
def civilFromDays (days : Nat) : Nat × Nat × Nat :=
  let shifted := days + 719468
  let era := shifted / 146097
  let dayOfEra := shifted % 146097
  let yearOfEra :=
    (dayOfEra - dayOfEra / 1460 + dayOfEra / 36524 - dayOfEra / 146096) / 365
  let dayOfYear :=
    dayOfEra - (365 * yearOfEra + yearOfEra / 4 - yearOfEra / 100)
  let shiftedMonth := (5 * dayOfYear + 2) / 153
  let day := dayOfYear - (153 * shiftedMonth + 2) / 5 + 1
  let month :=
    if shiftedMonth < 10 then shiftedMonth + 3 else shiftedMonth - 9
  let year := yearOfEra + era * 400
  (if month ≤ 2 then year + 1 else year, month, day)

/-- `new Date(ms).toISOString()` for a time after the epoch. -/
def toISOString (ms : Nat) : String :=
  let date := civilFromDays (ms / 86400000)
  let time := ms % 86400000
  let year :=
    if date.1 ≤ 9999 then padStart 4 date.1 else "+" ++ padStart 6 date.1
  s!"{year}-{padStart 2 date.2.1}-{padStart 2 date.2.2}T" ++
    s!"{padStart 2 (time / 3600000)}:{padStart 2 (time / 60000 % 60)}:" ++
    s!"{padStart 2 (time / 1000 % 60)}.{padStart 3 (time % 1000)}Z"

example : toISOString 1709210096789 = "2024-02-29T12:34:56.789Z" := by
  decide +kernel

/-- The milliseconds of 400 years, after which the calendar repeats. -/
def MS_PER_ERA : Int := 146097 * 86400000

/-- `toISOString` of any time value; years are given six digits if needed. -/
def dateToISOString (time : Int) : String :=
  if 0 ≤ time then
    toISOString time.toNat
  else
    let withinEra := (time % MS_PER_ERA).toNat
    let date := civilFromDays (withinEra / 86400000)
    let ms := withinEra % 86400000
    let year : Int := date.1 + 400 * (time / MS_PER_ERA)
    let yearText :=
      if 0 ≤ year then
        padStart 4 year.toNat
      else
        "-" ++ padStart 6 (-year).toNat
    s!"{yearText}-{padStart 2 date.2.1}-{padStart 2 date.2.2}T" ++
      s!"{padStart 2 (ms / 3600000)}:{padStart 2 (ms / 60000 % 60)}:" ++
      s!"{padStart 2 (ms / 1000 % 60)}.{padStart 3 (ms % 1000)}Z"

example : dateToISOString (-1) = "1969-12-31T23:59:59.999Z" := by
  decide +kernel

/-- The largest time value of a valid date. -/
def MAX_TIME_VALUE : Nat := 8640000000000000

/-- A decimal without sign, point and exponent. -/
def digitsValue (digits : List Char) : Nat :=
  digits.foldl (fun value digit => 10 * value + (digit.toNat - '0'.toNat)) 0

/--
The time value of a date that is made from a number, unless it is out of range.
A canonical text has an exponent only if the number is below a millionth or out
of range.
-/
def timeValue? (ms : JsonNumber) : Option Int :=
  let negative := ms.text.startsWith "-"
  let decimal := ms.text.toList.filter (· ≠ '-')
  if decimal.contains '+' then
    none
  else
    let whole :=
      if decimal.contains 'e' then
        0
      else
        digitsValue (decimal.takeWhile Char.isDigit)
    if whole ≤ MAX_TIME_VALUE then
      some (if negative then -whole else whole)
    else
      none

example : timeValue? ⟨"-12.75"⟩ = some (-12) := by
  decide +kernel

end CloudflareParallel
