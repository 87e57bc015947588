import CloudflareParallel.JsValue
import Mathlib.Data.Nat.Digits.Defs
import Mathlib.Data.List.Forall2
import Mathlib.Data.List.Lex
import Mathlib.Data.List.Sort

namespace CloudflareParallel

/-!
# Source hashing and context canonicalization

`hashSource` and `canonicalizeContext` of the loader.  Both read a string as
its UTF-16 code units: the hash sums them and the key sort compares them.
-/

/-- The UTF-16 code units of a character. -/
def charCodeUnits (c : Char) : List Nat :=
  if c.toNat < 0x10000 then
    [c.toNat]
  else
    [0xD800 + (c.toNat - 0x10000) / 0x400,
      0xDC00 + (c.toNat - 0x10000) % 0x400]

/-- The UTF-16 code units of a string, as `charCodeAt` reads them. -/
def codeUnits (source : String) : List Nat :=
  source.toList.flatMap charCodeUnits

/-- A digit of `Number.prototype.toString(radix)`. -/
def digitOfValue (value : Nat) : Char :=
  if value < 10 then
    Char.ofNat (48 + value)
  else
    Char.ofNat (87 + value)

/-- The digits of `Number.prototype.toString(radix)` for a natural number. -/
def radixDigits (radix value : Nat) : List Char :=
  if value = 0 then
    ['0']
  else
    ((Nat.digits radix value).map digitOfValue).reverse

/-- `Number.prototype.toString(radix)` for a natural number. -/
def toStringRadix (radix value : Nat) : String :=
  String.ofList (radixDigits radix value)

example : toStringRadix 36 1296 = "100" := by decide

/-- One round of djb2: `((hash << 5) + hash + code) | 0`. -/
def hashRound (hash : BitVec 32) (code : Nat) : BitVec 32 :=
  (hash <<< 5) + hash + BitVec.ofNat 32 code

/-- The 32-bit djb2 hash of a source. -/
def djb2 (source : String) : BitVec 32 :=
  (codeUnits source).foldl hashRound 5381#32

/-- djb2 in base 36, unsigned. -/
def hashSource (source : String) : String :=
  toStringRadix 36 (djb2 source).toNat

/-- `SerializationError`, carried by its message. -/
structure SerializationError where
  message : String
  deriving Repr, DecidableEq

def isAsciiLetter (c : Char) : Bool :=
  ('a' ≤ c ∧ c ≤ 'z') ∨ ('A' ≤ c ∧ c ≤ 'Z')

/-- `VALID_IDENTIFIER`: `^[A-Za-z_$][A-Za-z0-9_$]*$`. -/
def isValidIdentifier (key : String) : Bool :=
  match key.toList with
  | [] => false
  | first :: rest =>
      (isAsciiLetter first || first == '_' || first == '$') &&
        rest.all fun c =>
          isAsciiLetter c || ('0' ≤ c && c ≤ '9') || c == '_' || c == '$'

def RESERVED_WORDS : List String :=
  [ "break", "case", "catch", "class", "const", "continue", "debugger",
    "default", "delete", "do", "else", "export", "extends", "finally",
    "for", "function", "if", "import", "in", "instanceof", "let", "new",
    "return", "super", "switch", "this", "throw", "try", "typeof", "var",
    "void", "while", "with", "yield", "enum", "await", "async", "true",
    "false", "null", "undefined" ]

/-- A string starts with a prefix. -/
def startsWith (key start : String) : Bool :=
  start.toList.isPrefixOf key.toList

def assertValidContextKey (key : String) :
    Except SerializationError Unit :=
  if ¬ isValidIdentifier key then
    .error {
      message := s!"context key \"{key}\" is not a valid JavaScript identifier"
    }
  else if key ∈ RESERVED_WORDS then
    .error { message := s!"context key \"{key}\" is a reserved word" }
  else if startsWith key "Cfp" || startsWith key "cfp" then
    .error {
      message := s!"context key \"{key}\" uses the reserved Cfp* / cfp* prefix"
    }
  else
    .ok ()

/-- A lower-case hexadecimal escape of a control character. -/
def unicodeEscape (code : Nat) : List Char :=
  ['\\', 'u', '0', '0', digitOfValue (code / 16), digitOfValue (code % 16)]

/-- One character inside a JSON string. -/
def jsonEscape (c : Char) : List Char :=
  if c = '"' then
    ['\\', '"']
  else if c = '\\' then
    ['\\', '\\']
  else if c.toNat = 8 then
    ['\\', 'b']
  else if c.toNat = 9 then
    ['\\', 't']
  else if c.toNat = 10 then
    ['\\', 'n']
  else if c.toNat = 12 then
    ['\\', 'f']
  else if c.toNat = 13 then
    ['\\', 'r']
  else if c.toNat < 32 then
    unicodeEscape c.toNat
  else
    [c]

/-- `JSON.stringify` of a string. -/
def jsonString (value : String) : String :=
  String.ofList (['"'] ++ value.toList.flatMap jsonEscape ++ ['"'])

/-- `JSON.stringify` of a number. -/
def jsonNumber : JsNumber → String
  | .finite text => text
  | .negativeZero => "0"
  | .nonFinite => "null"

/-- The error for a value that has no JSON form. -/
def exoticError : JsExotic → SerializationError
  | .function => { message := "context values cannot be functions" }
  | .symbol => { message := "context values cannot be symbol" }
  | .bigint => { message := "context values cannot be bigint" }
  | .date =>
      { message :=
          "context values cannot be Date — use timestamp number" }
  | .regExp =>
      { message :=
          "context values cannot be RegExp — use source string" }
  | .mapOrSet =>
      { message :=
          "context values cannot be Map/Set — use plain object/array" }

/-- Members of an object in the order of `Array.prototype.sort` on their keys. -/
def sortByKey (members : List (String × α)) : List (String × α) :=
  members.insertionSort fun first second =>
    codeUnits first.1 ≤ codeUnits second.1

/-- One member of an object literal, or the error of its value. -/
def stringifyMember
    (member : String × Except SerializationError String) :
    Except SerializationError String :=
  member.2.map fun text => jsonString member.1 ++ ":" ++ text

mutual

/-- `stringify` inside `canonicalizeContext`. -/
def stringify : JsValue → Except SerializationError String
  | .undefined => .ok "null"
  | .null => .ok "null"
  | .bool value => .ok (if value then "true" else "false")
  | .number value => .ok (jsonNumber value)
  | .string value => .ok (jsonString value)
  | .exotic kind => .error (exoticError kind)
  | .array items => do
      let texts ← (stringifyItems items).mapM id
      return "[" ++ String.intercalate "," texts ++ "]"
  | .object entries => do
      let texts ← (sortByKey (stringifyEntries entries)).mapM stringifyMember
      return "\x7b" ++ String.intercalate "," texts ++ "\x7d"

/-- The texts of array items, in order. -/
def stringifyItems :
    List JsValue → List (Except SerializationError String)
  | [] => []
  | item :: rest => stringify item :: stringifyItems rest

/-- The texts of object members, in property order. -/
def stringifyEntries :
    List (String × JsValue) →
      List (String × Except SerializationError String)
  | [] => []
  | (key, value) :: rest => (key, stringify value) :: stringifyEntries rest

end

/-- Canonical JSON of a context, after checking its own keys. -/
def canonicalizeContext
    (ctx : JsRecord) : Except SerializationError String := do
  ctx.forM fun entry => assertValidContextKey entry.1
  stringify (.object ctx)

example :
    canonicalizeContext
        [("b", .array [.null, .bool true]), ("a", .string "x\n")] =
      .ok "\x7b\"a\":\"x\\n\",\"b\":[null,true]\x7d" := by
  rfl

/-- A traversal succeeds exactly when it succeeds at every item. -/
theorem mapM_ok_iff
    {items : List α}
    {step : α → Except ε β} :
    (∃ results, items.mapM step = .ok results) ↔
      ∀ item ∈ items, ∃ result, step item = .ok result := by
  induction items with
  | nil =>
      simp [pure, Except.pure]
  | cons item rest inductionHypothesis =>
      rw [List.mapM_cons, List.forall_mem_cons, ← inductionHypothesis]
      cases step item with
      | error err =>
          simp [bind, Except.bind]
      | ok result =>
          cases rest.mapM step <;>
            simp [bind, Except.bind, pure, Except.pure]

/-- A traversal whose steps all succeed collects their results. -/
theorem mapM_eq_pure
    {m : Type → Type}
    [Monad m]
    [LawfulMonad m]
    {step : α → m β}
    {items : List α}
    {results : List β}
    (each :
      List.Forall₂ (fun item result => step item = pure result)
        items results) :
    items.mapM step = pure results := by
  induction each with
  | nil =>
      rw [List.mapM_nil]
  | cons first _ inductionHypothesis =>
      rw [List.mapM_cons, first, inductionHypothesis, pure_bind, pure_bind]

/-- The results that a traversal collects are those of its steps. -/
theorem forall₂_of_mapM_ok
    {items : List α}
    {step : α → Except ε β}
    {results : List β}
    (made : items.mapM step = .ok results) :
    List.Forall₂ (fun item result => step item = .ok result)
      items results := by
  induction items generalizing results with
  | nil =>
      cases made
      exact .nil
  | cons item rest inductionHypothesis =>
      rw [List.mapM_cons] at made
      cases first : step item with
      | error err =>
          rw [first] at made
          cases made
      | ok result =>
          cases others : rest.mapM step with
          | error err =>
              rw [first, others] at made
              cases made
          | ok tail =>
              rw [first, others] at made
              cases made
              exact .cons first (inductionHypothesis others)

/-- A sequence of checks passes exactly when every check does. -/
theorem forM_ok_iff
    {items : List α}
    {check : α → Except ε Unit} :
    items.forM check = .ok () ↔ ∀ item ∈ items, check item = .ok () := by
  induction items with
  | nil =>
      simp [pure, Except.pure]
  | cons item rest inductionHypothesis =>
      rw [List.forM, List.forall_mem_cons, ← inductionHypothesis]
      cases check item <;> simp [bind, Except.bind]

/-- Items are rendered one by one. -/
theorem stringifyItems_eq_map
    (items : List JsValue) :
    stringifyItems items = items.map stringify := by
  induction items with
  | nil =>
      rfl
  | cons item rest inductionHypothesis =>
      rw [stringifyItems, inductionHypothesis, List.map_cons]

/-- Members are rendered one by one. -/
theorem stringifyEntries_eq_map
    (entries : List (String × JsValue)) :
    stringifyEntries entries =
      entries.map fun entry => (entry.1, stringify entry.2) := by
  induction entries with
  | nil =>
      rfl
  | cons entry rest inductionHypothesis =>
      rw [stringifyEntries, inductionHypothesis, List.map_cons]

/-- An object is serializable exactly when all its values are. -/
theorem stringify_object_ok_iff
    {entries : List (String × JsValue)} :
    (∃ text, stringify (.object entries) = .ok text) ↔
      ∀ entry ∈ entries, ∃ text, stringify entry.2 = .ok text := by
  have texts :
      (∃ text, stringify (.object entries) = .ok text) ↔
        ∃ texts,
          (sortByKey (stringifyEntries entries)).mapM stringifyMember =
            .ok texts := by
    rw [stringify]
    cases (sortByKey (stringifyEntries entries)).mapM stringifyMember <;>
      simp [bind, Except.bind, pure, Except.pure]
  rw [texts, mapM_ok_iff, stringifyEntries_eq_map]
  simp only [sortByKey, List.mem_insertionSort, List.forall_mem_map,
    stringifyMember]
  apply forall₂_congr
  intro entry _
  cases stringify entry.2 <;> simp [Except.map]

/-- A context is accepted exactly when its keys and its values are. -/
theorem canonicalizeContext_ok_iff
    {ctx : JsRecord} :
    (∃ text, canonicalizeContext ctx = .ok text) ↔
      ∀ entry ∈ ctx,
        assertValidContextKey entry.1 = .ok () ∧
          ∃ text, stringify entry.2 = .ok text := by
  rw [forall₂_and, ← stringify_object_ok_iff, ← forM_ok_iff]
  unfold canonicalizeContext
  cases ctx.forM fun entry => assertValidContextKey entry.1 <;>
    simp [bind, Except.bind]

end CloudflareParallel
