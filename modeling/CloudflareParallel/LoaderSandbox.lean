import CloudflareParallel.CoordinatorProtocol
import CloudflareParallel.LoaderSerialize

namespace CloudflareParallel

/-!
# The environment that crosses the loader boundary

Library-internal bindings and the loader binding itself never reach a loaded
isolate; an allow-list narrows the rest.
-/

/-- `NON_CLONEABLE_BINDINGS`. -/
def NON_CLONEABLE_BINDINGS : List String := ["LOADER"]

/-- `^Cfp[A-Z]` or `^cfp`. -/
def isLibraryInternalKey (key : String) : Bool :=
  (match key.toList with
    | 'C' :: 'f' :: 'p' :: next :: _ => decide ('A' ≤ next ∧ next ≤ 'Z')
    | _ => false) ||
    startsWith key "cfp"

def isUnforwardableBindingKey (key : String) : Bool :=
  isLibraryInternalKey key || NON_CLONEABLE_BINDINGS.contains key

/-- Whether an allow-list lets a key pass; without a list every key does. -/
def admits (allowList : Option (List String)) (key : String) : Bool :=
  match allowList with
  | none => true
  | some allow => allow.contains key

/-- The bindings that may cross the loader boundary. -/
def sanitizeBindings
    (bindings : Option Env)
    (allowList : Option (List String)) : Env :=
  (bindings.getD []).filter fun entry =>
    !isUnforwardableBindingKey entry.1 && admits allowList entry.1

/-- A sanitized key is forwardable and admitted. -/
theorem mem_sanitizeBindings
    {bindings : Option Env}
    {allowList : Option (List String)}
    {entry : String × Binding} :
    entry ∈ sanitizeBindings bindings allowList ↔
      entry ∈ bindings.getD [] ∧
        isUnforwardableBindingKey entry.1 = false ∧
          admits allowList entry.1 = true := by
  simp [sanitizeBindings]

/-- What an entry of a loaded isolate's environment holds. -/
inductive EnvValue where
  | binding (value : Binding)
  | cancelStream (stream : CancelStream)
  | abortSignal
  deriving Repr, DecidableEq

/-- The environment of a loaded isolate, in property order. -/
abbrev LoaderEnv := List (String × EnvValue)

/-- Assign a property: in place when it exists, else at the end. -/
def assignKey
    (env : LoaderEnv)
    (key : String)
    (value : EnvValue) : LoaderEnv :=
  if env.any fun entry => entry.1 == key then
    env.map fun entry => if entry.1 == key then (key, value) else entry
  else
    env ++ [(key, value)]

/-- Delete a property. -/
def deleteKey (env : LoaderEnv) (key : String) : LoaderEnv :=
  env.filter fun entry => entry.1 != key

/-- The environment handed to the loader: bindings and the cancel stream. -/
def loaderEnv
    (sanitized : Env)
    (cancelStream : Option CancelStream) : LoaderEnv :=
  let forwarded := sanitized.map fun entry => (entry.1, EnvValue.binding entry.2)
  match cancelStream with
  | none => forwarded
  | some stream => assignKey forwarded "cancelStream" (.cancelStream stream)

end CloudflareParallel
