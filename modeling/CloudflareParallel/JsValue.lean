namespace CloudflareParallel

/-!
# Values of the host language

The wire carries `unknown` values.  `JsValue` has the cases that the code
itself tells apart, with own properties in insertion order.  A finite number is
identified by its canonical decimal text, which is how the code ever looks at
one; negative zero and the non-finite numbers are kept apart because
`JSON.stringify` treats them specially.
-/

/-- A JavaScript number, as far as the code distinguishes numbers. -/
inductive JsNumber where
  | finite (text : String)
  | negativeZero
  | nonFinite
  deriving Repr, DecidableEq

/-- Values with no JSON counterpart, by the kind the serializer reports. -/
inductive JsExotic where
  | function
  | symbol
  | bigint
  | date
  | regExp
  | mapOrSet
  deriving Repr, DecidableEq

/-- A JavaScript value without sharing or cycles. -/
inductive JsValue where
  | undefined
  | null
  | bool (value : Bool)
  | number (value : JsNumber)
  | string (value : String)
  | array (items : List JsValue)
  | object (entries : List (String × JsValue))
  | exotic (kind : JsExotic)
  deriving Repr

/-- `JSON.stringify` gives `undefined` instead of a text. -/
def JsValue.stringifiesToUndefined : JsValue → Bool
  | .undefined => true
  | .exotic .function => true
  | .exotic .symbol => true
  | _ => false

/-- A plain record such as the module-scope context. -/
abbrev JsRecord := List (String × JsValue)

/--
A binding of a Worker's environment: an opaque capability, of which the code
only asks whether it has a `fetch` method.
-/
structure Binding where
  id : Nat
  hasFetch : Bool
  deriving Repr, DecidableEq

/-- A Worker's environment, in the enumeration order of its keys. -/
abbrev Env := List (String × Binding)

namespace Env

/-- The binding stored under a key. -/
def get? (env : Env) (key : String) : Option Binding :=
  (env.find? fun entry => entry.1 == key).map Prod.snd

/-- The keys of an environment, in order. -/
def keys (env : Env) : List String :=
  env.map Prod.fst

end Env

/-- A thrown value: an `Error`, a string, or any other object. -/
inductive Thrown where
  | error
      (name message : String)
      (stack originalName : Option String)
  | string (value : String)
  | object (message : Option String) (asText : String)
  deriving Repr, DecidableEq

end CloudflareParallel
