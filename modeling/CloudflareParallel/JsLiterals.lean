import CloudflareParallel.JsValue
import CloudflareParallel.Library.TextReaders
import Mathlib.Data.Char

namespace CloudflareParallel

open TextReaders

/-!
# Literals of the generated module

The loaded isolate reads a context value as an ECMAScript expression, not as
JSON.  This is the part of the expression grammar that such texts use: keywords,
numeric literals and their negation, double-quoted strings, array literals and
object literals with quoted keys.  A numeric literal is read when it is the
canonical text of a number, which then identifies the number.
-/

/-- A literal expression. -/
inductive Literal where
  | null
  | boolean (value : Bool)
  | numeral (text : String)
  | negated (text : String)
  | string (value : String)
  | array (items : List Literal)
  | object (members : List (String × Literal))
  deriving Repr

/-- A character that goes on with a word or a number. -/
def isTokenChar (c : Char) : Bool :=
  c.isAlphanum || c == '_' || c == '$' || c == '.' || c == '+' || c == '-'

/-- `0`, or digits that do not start with `0`. -/
def isWholePart (text : List Char) : Bool :=
  text == ['0'] || (text.all Char.isDigit && text.head?.any (· != '0'))

/-- Nothing, or a point and digits that do not end with `0`. -/
def isFraction : List Char → Bool
  | [] => true
  | point :: digits =>
      point == '.' && digits.all Char.isDigit &&
        digits.getLast?.any (· != '0')

/-- Nothing, or a signed exponent. -/
def isExponent : List Char → Bool
  | [] => true
  | [_] => false
  | letter :: sign :: digits =>
      letter == 'e' && (sign == '+' || sign == '-') &&
        digits.all Char.isDigit && digits.head?.any (· != '0')

/-- The text of a number without a sign, as `String(number)` gives it. -/
def isNumeral (text : List Char) : Bool :=
  text.all isTokenChar && text.head?.any Char.isDigit &&
    isWholePart (text.takeWhile fun c => c != '.' && c != 'e') &&
    isFraction ((text.takeWhile (· != 'e')).dropWhile (· != '.')) &&
    isExponent (text.dropWhile (· != 'e'))

example : isNumeral "1.5e-7".toList = true := by decide

example : isNumeral "01".toList = false := by decide

/-- The literal that a word or a number is. -/
def tokenLiteral (token : List Char) : Option Literal :=
  if token = ['n', 'u', 'l', 'l'] then
    some .null
  else if token = ['t', 'r', 'u', 'e'] then
    some (.boolean true)
  else if token = ['f', 'a', 'l', 's', 'e'] then
    some (.boolean false)
  else if isNumeral token then
    some (.numeral (String.ofList token))
  else if token.head? = some '-' ∧ isNumeral token.tail then
    some (.negated (String.ofList token.tail))
  else
    none

/-- The value of a hexadecimal digit. -/
def hexDigitValue (c : Char) : Option Nat :=
  if '0' ≤ c ∧ c ≤ '9' then
    some (c.toNat - 48)
  else if 'a' ≤ c ∧ c ≤ 'f' then
    some (c.toNat - 87)
  else if 'A' ≤ c ∧ c ≤ 'F' then
    some (c.toNat - 55)
  else
    none

/-- The character of a `\u` escape; a surrogate is none by itself. -/
def hexCharacter (first second third fourth : Char) : Option Char := do
  let a ← hexDigitValue first
  let b ← hexDigitValue second
  let c ← hexDigitValue third
  let d ← hexDigitValue fourth
  let code := ((a * 16 + b) * 16 + c) * 16 + d
  if code.isValidChar then
    some (Char.ofNat code)
  else
    none

/-- A line terminator of the language. -/
def isLineTerminator (c : Char) : Bool :=
  c.toNat == 10 || c.toNat == 13 || c.toNat == 0x2028 || c.toNat == 0x2029

/-- The character of a one-letter escape. -/
def escapedCharacter (c : Char) : Option Char :=
  if c = 'b' then
    some (Char.ofNat 8)
  else if c = 't' then
    some (Char.ofNat 9)
  else if c = 'n' then
    some (Char.ofNat 10)
  else if c = 'v' then
    some (Char.ofNat 11)
  else if c = 'f' then
    some (Char.ofNat 12)
  else if c = 'r' then
    some (Char.ofNat 13)
  else if c.isDigit || c == 'x' || c == 'u' || isLineTerminator c then
    none
  else
    some c

/-- The rest of a double-quoted string, after its opening quote. -/
def readString : Reader (List Char)
  | [] => none
  | c :: rest =>
      if c = '"' then
        some ([], rest)
      else if c = '\\' then
        match rest with
        | 'u' :: first :: second :: third :: fourth :: after =>
            (hexCharacter first second third fourth).bind fun character =>
              (readString after).map fun found =>
                (character :: found.1, found.2)
        | letter :: after =>
            (escapedCharacter letter).bind fun character =>
              (readString after).map fun found =>
                (character :: found.1, found.2)
        | [] => none
      else if c = '\n' ∨ c = '\r' then
        none
      else
        (readString rest).map fun found => (c :: found.1, found.2)

/-- A quoted key, a colon and a value. -/
def readMember (readValue : Reader Literal) : Reader (String × Literal)
  | '"' :: rest =>
      match readString rest with
      | some (key, ':' :: after) =>
          (readValue after).map fun found =>
            ((String.ofList key, found.1), found.2)
      | _ => none
  | _ => none

/--
A literal, to some depth of nesting.  An object literal that sets its prototype
twice is a syntax error.
-/
def readLiteral : Nat → Reader Literal
  | 0, _ => none
  | _, [] => none
  | depth + 1, first :: rest =>
      if first = '"' then
        (readString rest).map fun found =>
          (.string (String.ofList found.1), found.2)
      else if first = '[' then
        (readSequence (readLiteral depth) ',' ']' rest).map fun found =>
          (.array found.1, found.2)
      else if first = '\x7b' then
        (readSequence (readMember (readLiteral depth)) ',' '\x7d' rest).bind
          fun found =>
            if found.1.countP (fun member => member.1 == "__proto__") ≤ 1 then
              some (.object found.1, found.2)
            else
              none
      else
        let token := (first :: rest).span isTokenChar
        (tokenLiteral token.1).map fun literal => (literal, token.2)

/-- A new own property, or a new value of an existing one. -/
def createDataProperty
    (entries : List (String × JsValue))
    (key : String)
    (value : JsValue) : List (String × JsValue) :=
  if key ∈ entries.map Prod.fst then
    entries.map fun entry => if entry.1 = key then (key, value) else entry
  else
    entries ++ [(key, value)]

/--
One member of an object literal: `__proto__: value` sets the prototype, or does
nothing, and creates no own property.
-/
def defineMember
    (entries : List (String × JsValue))
    (member : String × JsValue) : List (String × JsValue) :=
  if member.1 = "__proto__" then
    entries
  else
    createDataProperty entries member.1 member.2

mutual

/-- The value of a literal, by its own properties. -/
def Literal.evaluate : Literal → JsValue
  | .null => .null
  | .boolean value => .bool value
  | .numeral text => .number (.finite text)
  | .negated text =>
      if text = "0" then
        .number .negativeZero
      else
        .number (.finite ("-" ++ text))
  | .string value => .string value
  | .array items => .array (evaluateItems items)
  | .object members =>
      .object ((evaluateMembers members).foldl defineMember [])

/-- The values of array elements. -/
def evaluateItems : List Literal → List JsValue
  | [] => []
  | item :: rest => item.evaluate :: evaluateItems rest

/-- The values of object members. -/
def evaluateMembers :
    List (String × Literal) → List (String × JsValue)
  | [] => []
  | (key, value) :: rest => (key, value.evaluate) :: evaluateMembers rest

end

/-- The value of a whole text as an expression. -/
def evaluateLiteral (text : String) : Option JsValue :=
  match readLiteral (text.toList.length + 1) text.toList with
  | some (literal, []) => some literal.evaluate
  | _ => none

end CloudflareParallel
