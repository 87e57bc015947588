import CloudflareParallel.LoaderCodegen

namespace CloudflareParallel

/-!
# The module scope of generated code

Context keys, the generated declarations and every global that the generated
code refers to share one scope.  `ModuleItem` cuts the module text into its
items with the names each one declares and uses, and `GeneratedModule.Sound`
says that the context keys leave the generated code its meaning.
-/

/-! ## Names of strict module code -/

/-- The reserved words of ECMAScript, in module code. -/
def reservedWords : List String :=
  [ "await", "break", "case", "catch", "class", "const", "continue",
    "debugger", "default", "delete", "do", "else", "enum", "export",
    "extends", "false", "finally", "for", "function", "if", "import", "in",
    "instanceof", "new", "null", "return", "super", "switch", "this",
    "throw", "true", "try", "typeof", "var", "void", "while", "with",
    "yield", "let" ]

/-- The names that strict code reserves or does not let anyone bind. -/
def strictWords : List String :=
  [ "implements", "interface", "package", "private", "protected", "public",
    "static", "eval", "arguments" ]

/-- Whether strict module code may bind this name, when it is ASCII. -/
def isStrictBindingIdentifier (name : String) : Bool :=
  isValidIdentifier name && name ∉ reservedWords && name ∉ strictWords

/-! ## Items -/

/-- One item of a generated module. -/
inductive ModuleItem where
  | workerImport
  | context (constants : List (String × String))
  | sealGlobals
  | cancelSignal
  | validateReturn
  | userFunction (fnSource : String)
  | entrypoint (mode : CodegenMode) (injectCancelSignal passEnv : Bool)

namespace ModuleItem

/-- The lines of an item. -/
def lines : ModuleItem → List String
  | .workerImport => headerLines
  | .context [] => []
  | .context constants =>
      constants.map (fun constant => s!"const {constant.1} = {constant.2};") ++
        [""]
  | .sealGlobals => sealLines
  | .cancelSignal => cancelSignalLines
  | .validateReturn => validateReturnLines
  | .userFunction fnSource => [s!"const __fn__ = {fnSource};", ""]
  | .entrypoint mode injectCancelSignal passEnv =>
      entrypointClassLines {
        mode := mode
        injectCancelSignal := injectCancelSignal
        passEnv := passEnv
        sealGlobals := false
      }

/-- The names that the lines of an item declare in the module scope. -/
def declares : ModuleItem → List String
  | .workerImport => ["WorkerEntrypoint"]
  | .context constants => constants.map (·.1)
  | .sealGlobals => []
  | .cancelSignal => ["cfpMakeAbortSignal"]
  | .validateReturn => ["cfpValidateReturn"]
  | .userFunction _ => ["__fn__"]
  | .entrypoint .. => []

/-- The module-scope and global names that generated code refers to. -/
def uses : ModuleItem → List String
  | .workerImport => []
  | .context _ => []
  | .sealGlobals => ["Object", "Error", "caches"]
  | .cancelSignal =>
      ["AbortController", "Object", "Error", "queueMicrotask", "TextDecoder"]
  | .validateReturn => ["ReadableStream", "Object", "Error"]
  | .userFunction _ => []
  | .entrypoint _ injectCancelSignal _ =>
      ["WorkerEntrypoint", "__fn__", "cfpValidateReturn"] ++
        if injectCancelSignal then ["cfpMakeAbortSignal", "Object"] else []

end ModuleItem

/-- The declaration of one context entry, as its name and its literal. -/
def contextConstant
    (entry : String × JsValue) :
    Except SerializationError (String × String) := do
  assertValidContextKey entry.1
  let literal ← contextLiteral entry.2
  return (entry.1, literal)

/-- The user function and its entrypoint; without a source there is none. -/
def functionItems
    (fnSource : String)
    (opts : GenerateSourceOptions) : List ModuleItem :=
  if fnSource = "" then
    []
  else
    [.userFunction fnSource,
      .entrypoint opts.mode opts.injectCancelSignal opts.passEnv]

/-- The items of a module with these constants, in order. -/
def itemsAround
    (constants : List (String × String))
    (fnSource : String)
    (opts : GenerateSourceOptions) : List ModuleItem :=
  .workerImport :: .context constants ::
    ((if opts.sealGlobals then [.sealGlobals] else []) ++
      (if opts.injectCancelSignal then [.cancelSignal] else []) ++
      .validateReturn :: functionItems fnSource opts)

/-- The items of the generated module. -/
def moduleItems
    (fnSource : Option String)
    (opts : GenerateSourceOptions) :
    Except SerializationError (List ModuleItem) := do
  let constants ← (opts.context.getD []).mapM contextConstant
  return itemsAround constants (fnSource.getD "") opts

/-- A mapped traversal is the traversal of the mapped step. -/
theorem map_mapM
    {items : List α}
    {step : α → Except ε β}
    {later : α → Except ε γ}
    {rest : β → γ}
    (same : ∀ item, later item = (step item).map rest) :
    items.mapM later = (items.mapM step).map (List.map rest) := by
  induction items with
  | nil =>
      rfl
  | cons item tail inductionHypothesis =>
      rw [List.mapM_cons, List.mapM_cons, same, inductionHypothesis]
      cases step item with
      | error err => rfl
      | ok first =>
          cases tail.mapM step <;> rfl

/-- One context line is the declaration of its constant. -/
theorem contextLine_eq
    (entry : String × JsValue) :
    contextLine entry =
      (contextConstant entry).map fun constant =>
        s!"const {constant.1} = {constant.2};" := by
  unfold contextLine contextConstant
  cases assertValidContextKey entry.1 with
  | error err => rfl
  | ok accepted =>
      cases contextLiteral entry.2 <;> rfl

/-- A constant has the key of its entry, which was checked. -/
theorem of_contextConstant
    {entry : String × JsValue}
    {constant : String × String}
    (made : contextConstant entry = .ok constant) :
    constant.1 = entry.1 ∧ assertValidContextKey entry.1 = .ok () := by
  unfold contextConstant at made
  cases accepted : assertValidContextKey entry.1 with
  | error err =>
      rw [accepted] at made
      cases made
  | ok checked =>
      rw [accepted] at made
      cases literal : contextLiteral entry.2 with
      | error err =>
          rw [literal] at made
          cases made
      | ok text =>
          rw [literal] at made
          cases made
          exact ⟨rfl, rfl⟩

/-- The constants of a context have its keys, which were all checked. -/
theorem of_mapM_contextConstant
    {entries : JsRecord}
    {constants : List (String × String)}
    (made : entries.mapM contextConstant = .ok constants) :
    constants.map (·.1) = entries.map (·.1) ∧
      ∀ key ∈ entries.map (·.1), assertValidContextKey key = .ok () := by
  induction entries generalizing constants with
  | nil =>
      cases made
      exact ⟨rfl, nofun⟩
  | cons entry rest inductionHypothesis =>
      rw [List.mapM_cons] at made
      cases first : contextConstant entry with
      | error err =>
          rw [first] at made
          cases made
      | ok constant =>
          cases others : rest.mapM contextConstant with
          | error err =>
              rw [first, others] at made
              cases made
          | ok tail =>
              rw [first, others] at made
              cases made
              obtain ⟨sameKey, accepted⟩ := of_contextConstant first
              obtain ⟨sameKeys, allAccepted⟩ := inductionHypothesis others
              refine ⟨by simp [sameKey, sameKeys], ?_⟩
              rw [List.map_cons, List.forall_mem_cons]
              exact ⟨accepted, allAccepted⟩

/-- The context lines are the lines of its item. -/
theorem contextLines_eq
    (context : Option JsRecord) :
    contextLines context =
      ((context.getD []).mapM contextConstant).map fun constants =>
        (ModuleItem.context constants).lines := by
  match context with
  | none => rfl
  | some [] => rfl
  | some (entry :: rest) =>
      have declarations :=
        @map_mapM _ _ _ _ (entry :: rest) _ _ _ contextLine_eq
      rw [contextLines, declarations, Option.getD_some, List.mapM_cons]
      · cases contextConstant entry with
        | error err => rfl
        | ok constant =>
            cases rest.mapM contextConstant <;> rfl
      · nofun

/-- The generated module is its items, one after the other. -/
theorem generateWorkerLines_eq
    (fnSource : Option String)
    (opts : GenerateSourceOptions) :
    generateWorkerLines fnSource opts =
      (moduleItems fnSource opts).map fun items =>
        items.flatMap ModuleItem.lines := by
  unfold generateWorkerLines moduleItems
  rw [contextLines_eq]
  cases (opts.context.getD []).mapM contextConstant with
  | error err => rfl
  | ok constants =>
      have setup :
          entrypointClassLines opts =
            (ModuleItem.entrypoint opts.mode opts.injectCancelSignal
              opts.passEnv).lines := rfl
      simp only [Except.map, bind, Except.bind, pure, Except.pure,
        preambleLines, entrypointLines, itemsAround, functionItems, setup,
        Except.ok.injEq]
      cases opts.sealGlobals <;> cases opts.injectCancelSignal <;>
        by_cases empty : fnSource.getD "" = "" <;>
          simp [empty, ModuleItem.lines]

/-! ## Sound modules -/

/--
A module that `generateWorkerSource` produced.  A context is an object, so its
keys are distinct.
-/
structure GeneratedModule where
  fnSource : Option String
  opts : GenerateSourceOptions
  items : List ModuleItem
  distinctKeys : ((opts.context.getD []).map (·.1)).Nodup
  generated : moduleItems fnSource opts = .ok items

namespace GeneratedModule

/-- The keys of the context. -/
def contextKeys (generated : GeneratedModule) : List String :=
  (generated.opts.context.getD []).map (·.1)

/-- Whether the module has a user function and its entrypoint. -/
def hasFunction (generated : GeneratedModule) : Bool :=
  generated.fnSource.getD "" != ""

/-- The module text is that of its items. -/
theorem generateWorkerSource_eq
    (generated : GeneratedModule) :
    generateWorkerSource generated.fnSource generated.opts =
      .ok ("\n".intercalate (generated.items.flatMap ModuleItem.lines)) := by
  rw [generateWorkerSource, generateWorkerLines_eq, generated.generated]
  rfl

/-- The context leaves the generated code its meaning. -/
structure Sound (generated : GeneratedModule) : Prop where
  declaredOnce : (generated.items.flatMap ModuleItem.declares).Nodup
  legal :
    ∀ name ∈ generated.items.flatMap ModuleItem.declares,
      isStrictBindingIdentifier name = true
  unshadowed :
    ∀ key ∈ generated.contextKeys,
      key ∉ generated.items.flatMap ModuleItem.uses

/--
The names that a context key may have and should not: those that strict code
does not bind, and those that the generated code declares or uses.
-/
def unguardedNames (generated : GeneratedModule) : List String :=
  strictWords ++ ["WorkerEntrypoint", "ReadableStream", "Object", "Error"] ++
    (if generated.hasFunction then ["__fn__"] else []) ++
    (if generated.opts.injectCancelSignal then
      ["AbortController", "queueMicrotask", "TextDecoder"]
    else
      []) ++
    (if generated.opts.sealGlobals then ["caches"] else [])

/-- The items of a module, with the keys of its context. -/
theorem exists_constants
    (generated : GeneratedModule) :
    ∃ constants,
      constants.map (·.1) = generated.contextKeys ∧
        generated.items =
          itemsAround constants (generated.fnSource.getD "")
            generated.opts := by
  have made := generated.generated
  unfold moduleItems at made
  cases found : (generated.opts.context.getD []).mapM contextConstant with
  | error err =>
      rw [found] at made
      cases made
  | ok constants =>
      rw [found] at made
      exact ⟨constants, (of_mapM_contextConstant found).1,
        (Except.ok.inj made).symm⟩

/-- The keys of the context were all checked. -/
theorem accepted
    (generated : GeneratedModule)
    {key : String}
    (member : key ∈ generated.contextKeys) :
    assertValidContextKey key = .ok () := by
  have made := generated.generated
  unfold moduleItems at made
  cases found : (generated.opts.context.getD []).mapM contextConstant with
  | error err =>
      rw [found] at made
      cases made
  | ok constants =>
      exact (of_mapM_contextConstant found).2 key member

/-- What the check of context keys rules out. -/
theorem guarded_of_accepted
    {key : String}
    (accepted : assertValidContextKey key = .ok ()) :
    isValidIdentifier key = true ∧
      key ∉ RESERVED_WORDS ∧ startsWith key "cfp" = false := by
  unfold assertValidContextKey at accepted
  split at accepted
  · cases accepted
  next valid =>
    split at accepted
    · cases accepted
    next unreserved =>
      split at accepted
      · cases accepted
      next unprefixed =>
        simp only [Bool.or_eq_true, not_or, Bool.not_eq_true] at unprefixed
        exact ⟨by simpa using valid, unreserved, unprefixed.2⟩

/-- An accepted key is legal, if strict code does not reserve it. -/
theorem legal_iff_of_accepted
    {key : String}
    (accepted : assertValidContextKey key = .ok ()) :
    isStrictBindingIdentifier key = true ↔ key ∉ strictWords := by
  obtain ⟨valid, unreserved, _⟩ := guarded_of_accepted accepted
  have checked : ∀ word ∈ reservedWords, word ∈ RESERVED_WORDS := by
    decide +kernel
  have notReserved : key ∉ reservedWords :=
    fun member => unreserved (checked key member)
  simp [isStrictBindingIdentifier, valid, notReserved]

/-- No checked key has the prefix of the generated functions. -/
theorem ne_of_accepted
    {key name : String}
    (accepted : assertValidContextKey key = .ok ())
    (prefixed : startsWith name "cfp" = true) :
    key ≠ name := by
  rintro rfl
  have unprefixed := (guarded_of_accepted accepted).2.2
  rw [prefixed] at unprefixed
  cases unprefixed

/-- No checked key is the name of the signal builder. -/
theorem ne_signal_of_accepted
    {key : String}
    (accepted : assertValidContextKey key = .ok ()) :
    key ≠ "cfpMakeAbortSignal" :=
  ne_of_accepted accepted (by simp [startsWith])

/-- No checked key is the name of the return validator. -/
theorem ne_validate_of_accepted
    {key : String}
    (accepted : assertValidContextKey key = .ok ()) :
    key ≠ "cfpValidateReturn" :=
  ne_of_accepted accepted (by simp [startsWith])

/-- The names that the generated code declares after the context. -/
def generatedNames (generated : GeneratedModule) : List String :=
  (if generated.opts.injectCancelSignal then
      ["cfpMakeAbortSignal"]
    else
      []) ++
    "cfpValidateReturn" ::
      (if generated.hasFunction then ["__fn__"] else [])

/-- The module declares its import, the context keys and the other names. -/
theorem declares_eq
    (generated : GeneratedModule) :
    generated.items.flatMap ModuleItem.declares =
      "WorkerEntrypoint" ::
        (generated.contextKeys ++ generated.generatedNames) := by
  obtain ⟨constants, keys, items⟩ := generated.exists_constants
  rw [items, ← keys]
  unfold itemsAround functionItems generatedNames hasFunction
  cases generated.opts.sealGlobals <;>
    cases generated.opts.injectCancelSignal <;>
      by_cases empty : generated.fnSource.getD "" = "" <;>
        simp [empty, ModuleItem.declares]

/-- The names that the generated code uses. -/
theorem uses_eq
    (generated : GeneratedModule) :
    generated.items.flatMap ModuleItem.uses =
      (if generated.opts.sealGlobals then
          ModuleItem.sealGlobals.uses
        else
          []) ++
        (if generated.opts.injectCancelSignal then
          ModuleItem.cancelSignal.uses
        else
          []) ++
        ModuleItem.validateReturn.uses ++
        (if generated.hasFunction then
          (ModuleItem.entrypoint generated.opts.mode
            generated.opts.injectCancelSignal generated.opts.passEnv).uses
        else
          []) := by
  obtain ⟨constants, keys, items⟩ := generated.exists_constants
  rw [items]
  unfold itemsAround functionItems hasFunction
  cases generated.opts.sealGlobals <;>
    cases generated.opts.injectCancelSignal <;>
      by_cases empty : generated.fnSource.getD "" = "" <;>
        simp [empty, ModuleItem.uses]

/-- Nothing is declared twice, if no key is another declared name. -/
theorem nodup_declares_iff
    (generated : GeneratedModule) :
    (generated.items.flatMap ModuleItem.declares).Nodup ↔
      ∀ key ∈ generated.contextKeys,
        key ≠ "WorkerEntrypoint" ∧
          (generated.hasFunction = true → key ≠ "__fn__") := by
  have others :
      generated.generatedNames.Nodup ∧
        "WorkerEntrypoint" ∉ generated.generatedNames := by
    unfold generatedNames
    cases generated.opts.injectCancelSignal <;>
      cases generated.hasFunction <;> simp
  have apart :
      ∀ key ∈ generated.contextKeys,
        key ∉ generated.generatedNames ↔
          (generated.hasFunction = true → key ≠ "__fn__") := by
    intro key member
    have accepted := generated.accepted member
    unfold generatedNames
    cases generated.opts.injectCancelSignal <;>
      cases generated.hasFunction <;>
        simp [ne_signal_of_accepted accepted, ne_validate_of_accepted accepted]
  rw [declares_eq, List.nodup_cons, List.mem_append, List.nodup_append']
  constructor
  · rintro ⟨notImport, _, _, disjoint⟩ key member
    refine ⟨?_, (apart key member).mp (disjoint member)⟩
    rintro rfl
    exact notImport (.inl member)
  · intro distinct
    refine ⟨?_, generated.distinctKeys, others.1, ?_⟩
    · rintro (member | member)
      · exact (distinct _ member).1 rfl
      · exact others.2 member
    · intro key member
      exact (apart key member).mpr (distinct key member).2

/-- Every declared name is legal, if every key is. -/
theorem legal_declares_iff
    (generated : GeneratedModule) :
    (∀ name ∈ generated.items.flatMap ModuleItem.declares,
        isStrictBindingIdentifier name = true) ↔
      ∀ key ∈ generated.contextKeys, key ∉ strictWords := by
  rw [declares_eq, List.forall_mem_cons, List.forall_mem_append]
  have ownLegal :
      isStrictBindingIdentifier "WorkerEntrypoint" = true ∧
        ∀ name ∈ generated.generatedNames,
          isStrictBindingIdentifier name = true := by
    unfold generatedNames
    cases generated.opts.injectCancelSignal <;>
      cases generated.hasFunction <;> decide +kernel
  rw [and_iff_right ownLegal.1, and_iff_left ownLegal.2]
  exact forall₂_congr fun key member =>
    legal_iff_of_accepted (generated.accepted member)

/-- A key shadows nothing, if it is none of the names that are used. -/
theorem unshadowed_iff
    (generated : GeneratedModule)
    {key : String}
    (member : key ∈ generated.contextKeys) :
    key ∉ generated.items.flatMap ModuleItem.uses ↔
      key ∉ ["ReadableStream", "Object", "Error"] ∧
        (generated.opts.injectCancelSignal = true →
          key ∉ ["AbortController", "queueMicrotask", "TextDecoder"]) ∧
        (generated.opts.sealGlobals = true → key ≠ "caches") ∧
        (generated.hasFunction = true →
          key ≠ "WorkerEntrypoint" ∧ key ≠ "__fn__") := by
  have accepted := generated.accepted member
  have notSignal := ne_signal_of_accepted accepted
  have notValidate := ne_validate_of_accepted accepted
  rw [uses_eq]
  cases generated.opts.sealGlobals <;>
    cases generated.opts.injectCancelSignal <;>
      cases generated.hasFunction <;>
        simp [ModuleItem.uses, notSignal, notValidate] <;> grind

/--
A generated module, whose text is that of its items, is sound exactly when no
context key is one of the names that the check of context keys forgets.
-/
theorem sound_iff
    (generated : GeneratedModule) :
    generateWorkerSource generated.fnSource generated.opts =
        .ok ("\n".intercalate (generated.items.flatMap ModuleItem.lines)) ∧
      (generated.Sound ↔
        ∀ key ∈ generated.contextKeys, key ∉ generated.unguardedNames) := by
  have pointwise :
      ∀ key,
        key ∉ generated.unguardedNames ↔
          (key ≠ "WorkerEntrypoint" ∧
              (generated.hasFunction = true → key ≠ "__fn__")) ∧
            key ∉ strictWords ∧
              key ∉ ["ReadableStream", "Object", "Error"] ∧
                (generated.opts.injectCancelSignal = true →
                  key ∉ ["AbortController", "queueMicrotask",
                    "TextDecoder"]) ∧
                  (generated.opts.sealGlobals = true → key ≠ "caches") := by
    intro key
    unfold unguardedNames
    cases generated.opts.sealGlobals <;>
      cases generated.opts.injectCancelSignal <;>
        cases generated.hasFunction <;>
          simp <;> grind
  refine ⟨generated.generateWorkerSource_eq, ?_, ?_⟩
  · rintro ⟨once, legal, unshadowed⟩ key member
    obtain ⟨always, signal, caches, _⟩ :=
      (generated.unshadowed_iff member).mp (unshadowed key member)
    exact (pointwise key).mpr
      ⟨generated.nodup_declares_iff.mp once key member,
        generated.legal_declares_iff.mp legal key member, always, signal,
        caches⟩
  · intro guarded
    refine
      { declaredOnce := generated.nodup_declares_iff.mpr fun key member => ?_
        legal := generated.legal_declares_iff.mpr fun key member => ?_
        unshadowed := fun key member => ?_ }
    · exact ((pointwise key).mp (guarded key member)).1
    · exact ((pointwise key).mp (guarded key member)).2.1
    · obtain ⟨⟨notImport, notFunction⟩, _, always, signal, caches⟩ :=
        (pointwise key).mp (guarded key member)
      exact (generated.unshadowed_iff member).mpr
        ⟨always, signal, caches, fun has => ⟨notImport, notFunction has⟩⟩

/-- A context that names `caches` takes the seal away. -/
theorem not_sound_caches :
    ¬ ∀ generated : GeneratedModule, generated.Sound := by
  intro always
  have sound :=
    (always {
      fnSource := some "() => 1"
      opts := {
        mode := .poolFn
        context := some [("caches", .object [])]
        injectCancelSignal := true
        passEnv := true
        sealGlobals := true
      }
      items := _
      distinctKeys := by decide +kernel
      generated := rfl
    }).unshadowed
  exact sound "caches" (List.mem_singleton_self _) (by decide +kernel)

end GeneratedModule

end CloudflareParallel
