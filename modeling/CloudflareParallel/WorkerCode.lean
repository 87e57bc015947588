import CloudflareParallel.CoordinatorProtocol

namespace CloudflareParallel

/-!
# Worker options on the receiving side

`wireToWorkerOptions` re-hydrates the structured-clone-safe options with the
receiving object's environment.  The loader later tells an absent
`globalOutbound` key from one that is explicitly `undefined`, so the field has
a case for each.
-/

/-- The states of the optional `globalOutbound` key. -/
inductive GlobalOutbound where
  /-- The key is absent. -/
  | absent
  /-- The key is present and `undefined`: inherit the parent's network. -/
  | inherit
  /-- `null`: block all outbound traffic. -/
  | blocked
  /-- Redirect outbound traffic through a service stub. -/
  | redirect (stub : Binding)
  deriving Repr, DecidableEq

/-- `InternalWorkerCodeOptions`, without the `env` that the runner adds. -/
structure InternalWorkerCodeOptions where
  compatibilityDate : Option String := none
  compatibilityFlags : Option (List String) := none
  globalOutbound : GlobalOutbound := .absent
  tails : Option (List Binding) := none
  limits : Option WorkerCodeLimits := none
  deriving Repr, DecidableEq

/-- Outbound policy of the wire: sandboxed unless it says `inherit`. -/
def outboundOfWire : Option WireOutbound → GlobalOutbound
  | some .sandboxed => .blocked
  | some .inherit => .inherit
  | none => .blocked

/-- Resolve the tail binding by name; only a stub with `fetch` is used. -/
def tailsOfWire
    (tailBindingName : Option String)
    (env : Env) : Option (List Binding) :=
  match tailBindingName with
  | none => none
  | some name =>
      if name = "" then
        none
      else
        match env.get? name with
        | some stub => if stub.hasFetch then some [stub] else none
        | none => none

/-- Re-hydrate wire-shape worker options against the receiving environment. -/
def wireToWorkerOptions
    (wire : Option WireWorkerOptions)
    (env : Env) : Option InternalWorkerCodeOptions :=
  wire.map fun options =>
    { compatibilityDate := options.compatibilityDate
      compatibilityFlags := options.compatibilityFlags
      globalOutbound := outboundOfWire options.globalOutbound
      tails := tailsOfWire options.tailBindingName env
      limits := options.limits }

end CloudflareParallel
