import CloudflareParallel.ErrorHierarchy
import CloudflareParallel.LoaderSandbox

namespace CloudflareParallel

/-!
# The bindings that a pool declares

`pickBindings`, `bindingAllowList` and the guard of the pool's constructor.  Of
a declaration only the keys matter: the receiving object resolves them from its
own environment.
-/

/-- The names that `in` finds on every plain object. -/
def OBJECT_PROTOTYPE_KEYS : List String :=
  [ "constructor", "__defineGetter__", "__defineSetter__", "hasOwnProperty",
    "__lookupGetter__", "__lookupSetter__", "isPrototypeOf",
    "propertyIsEnumerable", "toString", "valueOf", "__proto__",
    "toLocaleString" ]

/-- A plain object under `bindings`; `__proto__` in a literal is no own key. -/
structure BindingDeclaration where
  keys : List String
  noOwnProto : "__proto__" ∉ keys

namespace BindingDeclaration

/-- `{}`. -/
def empty : BindingDeclaration where
  keys := []
  noOwnProto := List.not_mem_nil

/-- `key in src`, which also finds inherited names. -/
def has (src : BindingDeclaration) (key : String) : Bool :=
  src.keys.contains key || OBJECT_PROTOTYPE_KEYS.contains key

end BindingDeclaration

/--
`pickBindings`.  Assigning `__proto__` sets the prototype to what it was, and
assigning a key again keeps its place.
-/
def pickBindings
    (src : BindingDeclaration)
    (keys : List String) : BindingDeclaration where
  keys :=
    (keys.filter fun key => src.has key && key != "__proto__").eraseDups
  noOwnProto := by simp

/-- `bindingAllowList`: without a declaration there is no list. -/
def bindingAllowList
    (bindings : Option BindingDeclaration) : Option (List String) :=
  bindings.map BindingDeclaration.keys

/-- The message for a declared key of the library. -/
def libraryInternalMessage (key : String) : String :=
  s!"Binding '{key}' is library-internal and cannot be forwarded to " ++
    "a dynamic worker. Remove it from \x60bindings:\x60."

/-- `assertNoLibraryInternalBindings`; the error is a `BindingError`. -/
def assertNoLibraryInternalBindings
    (bindings : Option BindingDeclaration) : Except ErrorClass Unit :=
  match bindings with
  | none => .ok ()
  | some declared =>
      declared.keys.forM fun key =>
        if isLibraryInternalKey key then
          .error (.bindingError (libraryInternalMessage key))
        else
          .ok ()

/-- A picked key is listed, and the source has it by itself or from `Object`. -/
theorem mem_pickBindings
    {src : BindingDeclaration}
    {keys : List String}
    {key : String} :
    key ∈ (pickBindings src keys).keys ↔
      key ∈ keys ∧
        key ≠ "__proto__" ∧
          (key ∈ src.keys ∨ key ∈ OBJECT_PROTOTYPE_KEYS) := by
  simp only [pickBindings, BindingDeclaration.has, List.mem_eraseDups,
    List.mem_filter, Bool.and_eq_true, Bool.or_eq_true, bne_iff_ne,
    List.contains_iff_mem]
  tauto

/-- The guard passes exactly the declarations without a key of the library. -/
theorem assertNoLibraryInternalBindings_ok_iff
    {declared : BindingDeclaration} :
    assertNoLibraryInternalBindings (some declared) = .ok () ↔
      ∀ key ∈ declared.keys, isLibraryInternalKey key = false := by
  unfold assertNoLibraryInternalBindings
  rw [forM_ok_iff]
  apply forall₂_congr
  intro key _
  cases isLibraryInternalKey key <;> simp

/-- What every plain object inherits could be forwarded. -/
theorem forwardable_of_mem_objectPrototype
    {key : String}
    (inherited : key ∈ OBJECT_PROTOTYPE_KEYS) :
    isUnforwardableBindingKey key = false := by
  have every :
      ∀ name ∈ OBJECT_PROTOTYPE_KEYS,
        isUnforwardableBindingKey name = false := by
    decide
  exact every key inherited

/-- A narrowed declaration passes the guard when its source does. -/
theorem assertNoLibraryInternalBindings_pickBindings
    {src : BindingDeclaration}
    (accepted : assertNoLibraryInternalBindings (some src) = .ok ())
    (keys : List String) :
    assertNoLibraryInternalBindings (some (pickBindings src keys)) =
      .ok () := by
  rw [assertNoLibraryInternalBindings_ok_iff] at accepted ⊢
  intro key member
  obtain ⟨_, _, own | inherited⟩ := mem_pickBindings.mp member
  · exact accepted key own
  · have forwardable := forwardable_of_mem_objectPrototype inherited
    rw [isUnforwardableBindingKey, Bool.or_eq_false_iff] at forwardable
    exact forwardable.1

end CloudflareParallel
