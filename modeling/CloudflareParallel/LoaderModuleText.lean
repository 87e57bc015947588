import CloudflareParallel.LoaderEmbedding
import CloudflareParallel.LoaderScope
import CloudflareParallel.Library.SegmentedNames

namespace CloudflareParallel

/-!
# Reading a generated module back

A generated module is its items, line after line.  Every declaration of a
context is one line, and no other item starts like one, so the text determines
the constants, whether globals are sealed, the user function and the mode.
-/

/-! ## Texts without a line break -/

/-- The text is on one line. -/
def OneLine (text : String) : Prop := '\n' ∉ text.toList

instance (text : String) : Decidable (OneLine text) :=
  inferInstanceAs (Decidable (_ ∉ _))

/-- A finite number has its canonical text, as every number of the host does. -/
def JsNumber.IsCanonical : JsNumber → Prop
  | .finite text => (JsNumber.finite text).IsFinite
  | .negativeZero => True
  | .nonFinite => True

/-- Every number inside the value has its canonical text. -/
inductive HasCanonicalNumbers : JsValue → Prop where
  | undefined :
      HasCanonicalNumbers .undefined
  | null :
      HasCanonicalNumbers .null
  | bool (value : Bool) :
      HasCanonicalNumbers (.bool value)
  | number {value : JsNumber} :
      value.IsCanonical →
      HasCanonicalNumbers (.number value)
  | string (value : String) :
      HasCanonicalNumbers (.string value)
  | array {items : List JsValue} :
      (∀ item ∈ items, HasCanonicalNumbers item) →
      HasCanonicalNumbers (.array items)
  | object {entries : List (String × JsValue)} :
      (∀ entry ∈ entries, HasCanonicalNumbers entry.2) →
      HasCanonicalNumbers (.object entries)
  | exotic (kind : JsExotic) :
      HasCanonicalNumbers (.exotic kind)

theorem oneLine_append
    {first second : String}
    (firstFree : OneLine first)
    (secondFree : OneLine second) :
    OneLine (first ++ second) := by
  unfold OneLine at *
  rw [String.toList_append, List.mem_append, not_or]
  exact ⟨firstFree, secondFree⟩

/-- Texts joined by something on one line are on one line. -/
theorem oneLine_intercalate
    {separator : String}
    {texts : List String}
    (separatorFree : OneLine separator)
    (free : ∀ text ∈ texts, OneLine text) :
    OneLine (String.intercalate separator texts) := by
  induction texts with
  | nil =>
      simp [OneLine]
  | cons text rest inductionHypothesis =>
      rw [List.forall_mem_cons] at free
      cases rest with
      | nil =>
          simpa using free.1
      | cons next others =>
          have restFree := inductionHypothesis free.2
          rw [String.intercalate_cons_of_ne_nil (List.cons_ne_nil _ _)]
          exact oneLine_append (oneLine_append free.1 separatorFree) restFree

/-- No escape of a character is a line break. -/
theorem lineBreak_notMem_jsonEscape (c : Char) :
    '\n' ∉ jsonEscape c := by
  have hexDigits :
      ∀ code < 32, '\n' ∉ unicodeEscape code := by
    decide
  unfold jsonEscape
  repeat' split
  all_goals try decide
  next control => exact hexDigits _ control
  next notLineBreak _ _ _ =>
    rw [List.mem_singleton]
    rintro rfl
    exact notLineBreak rfl

/-- A JSON string is on one line. -/
theorem oneLine_jsonString (value : String) : OneLine (jsonString value) := by
  unfold OneLine
  rw [toList_jsonString]
  simp [lineBreak_notMem_jsonEscape]

/-- The text of a number is on one line. -/
theorem JsNumber.IsCanonical.oneLine
    {value : JsNumber}
    (canonical : value.IsCanonical) :
    OneLine (jsonNumber value) := by
  have tokens :
      ∀ text : List Char,
        isNumeral text = true →
        '\n' ∉ text := by
    intro text numeral member
    have token := (isNumeral_spec numeral).1 _ member
    revert token
    decide
  cases value with
  | finite text =>
      rcases canonical with numeral | ⟨negative, numeral, _⟩
      · exact tokens _ numeral
      · obtain ⟨tail, shape⟩ := List.head?_eq_some_iff.1 negative
        rw [shape, List.tail_cons] at numeral
        unfold OneLine
        rw [jsonNumber, shape, List.mem_cons, not_or]
        exact ⟨by decide, tokens _ numeral⟩
  | negativeZero =>
      simp [OneLine, jsonNumber]
  | nonFinite =>
      simp [OneLine, jsonNumber]

/-- A computation that ends in `return` has a result to return it for. -/
theorem of_bind_pure
    {made : Except ε α}
    {finish : α → β}
    {result : β}
    (finished : (do return finish (← made)) = (.ok result : Except ε β)) :
    ∃ value, made = .ok value ∧ finish value = result := by
  cases made with
  | error err =>
      cases finished
  | ok value =>
      cases finished
      exact ⟨value, rfl, rfl⟩

/-- What every step of a traversal ensures holds of all its results. -/
theorem forall_of_mapM_ok
    {items : List α}
    {step : α → Except ε β}
    {results : List β}
    (made : items.mapM step = .ok results)
    {property : β → Prop}
    (each :
      ∀ item ∈ items, ∀ result, step item = .ok result → property result) :
    ∀ result ∈ results, property result := by
  have collected := forall₂_of_mapM_ok made
  clear made
  induction collected with
  | nil =>
      nofun
  | @cons item result _ _ first _ inductionHypothesis =>
      rw [List.forall_mem_cons] at each ⊢
      exact ⟨each.1 result first, inductionHypothesis each.2⟩

/-- The canonical text of a value is on one line. -/
theorem HasCanonicalNumbers.oneLine
    {value : JsValue}
    (canonical : HasCanonicalNumbers value)
    {text : String}
    (rendered : stringify value = .ok text) :
    OneLine text := by
  induction canonical generalizing text with
  | undefined =>
      cases rendered
      decide
  | null =>
      cases rendered
      decide
  | bool value =>
      cases rendered
      cases value <;> decide
  | number canonical =>
      cases rendered
      exact canonical.oneLine
  | string value =>
      cases rendered
      exact oneLine_jsonString value
  | exotic kind =>
      cases rendered
  | array _ inductionHypothesis =>
      rw [stringify, stringifyItems_eq_map, List.mapM_map] at rendered
      obtain ⟨texts, made, rfl⟩ := of_bind_pure rendered
      refine oneLine_append (oneLine_append (by decide) ?_) (by decide)
      exact
        oneLine_intercalate (by decide)
          (forall_of_mapM_ok made fun item member _ => inductionHypothesis item member)
  | object _ inductionHypothesis =>
      rw [stringify, stringifyEntries_eq_map] at rendered
      obtain ⟨texts, made, rfl⟩ := of_bind_pure rendered
      refine oneLine_append (oneLine_append (by decide) ?_) (by decide)
      refine oneLine_intercalate (by decide) (forall_of_mapM_ok made ?_)
      intro member isMember text written
      obtain ⟨entry, isEntry, rfl⟩ :=
        List.mem_map.1 ((sortByKey_perm _).mem_iff.1 isMember)
      unfold stringifyMember at written
      cases value : stringify entry.2 with
      | error err =>
          rw [value] at written
          cases written
      | ok valueText =>
          rw [value] at written
          cases written
          exact
            oneLine_append
              (oneLine_append (oneLine_jsonString entry.1) (by decide))
              (inductionHypothesis entry isEntry value)

/-! ## Lines -/

/-- The characters of some lines, each with its line break. -/
def linesText (lines : List String) : List Char :=
  lines.flatMap fun line => line.toList ++ ['\n']

@[simp] theorem linesText_nil : linesText [] = [] := rfl

@[simp] theorem linesText_cons
    (line : String)
    (rest : List String) :
    linesText (line :: rest) = line.toList ++ '\n' :: linesText rest := by
  simp [linesText]

@[simp] theorem linesText_append (first second : List String) :
    linesText (first ++ second) = linesText first ++ linesText second :=
  List.flatMap_append

/-- Joined lines and a last line break are the text of the lines. -/
theorem toList_joinLines
    {lines : List String}
    (some : lines ≠ []) :
    (String.intercalate "\n" lines).toList ++ ['\n'] = linesText lines := by
  induction lines with
  | nil =>
      exact absurd rfl some
  | cons line rest inductionHypothesis =>
      cases rest with
      | nil =>
          simp
      | cons next others =>
          rw [String.intercalate_cons_of_ne_nil (List.cons_ne_nil _ _),
            linesText_cons, ← inductionHypothesis (List.cons_ne_nil _ _)]
          simp

/-- A line and what follows it are read back from the text. -/
theorem line_inj
    {first second : String}
    {firstRest secondRest : List Char}
    (firstFree : OneLine first)
    (secondFree : OneLine second)
    (same :
      first.toList ++ '\n' :: firstRest =
        second.toList ++ '\n' :: secondRest) :
    first = second ∧ firstRest = secondRest := by
  obtain ⟨sameLine, sameRest⟩ :=
    SegmentedNames.eq_and_eq_of_free_append_eq firstFree secondFree same
  exact ⟨String.toList_inj.1 sameLine, sameRest⟩

/-! ## The declarations of a context -/

/-- The line of a constant. -/
def declaration (constant : String × String) : String :=
  s!"const {constant.1} = {constant.2};"

/-- The name has no blank, and name and literal are on one line. -/
structure IsReadable (constant : String × String) : Prop where
  name : ' ' ∉ constant.1.toList
  nameLine : OneLine constant.1
  literalLine : OneLine constant.2

/-- The characters of a declaration. -/
theorem toList_declaration (constant : String × String) :
    (declaration constant).toList =
      "const ".toList ++
        (constant.1.toList ++
          ' ' :: ("= ".toList ++ (constant.2.toList ++ [';']))) := by
  simp [declaration, toString]

/-- A declaration says its name and its literal. -/
theorem declaration_inj
    {first second : String × String}
    (firstReadable : IsReadable first)
    (secondReadable : IsReadable second)
    (same : declaration first = declaration second) :
    first = second := by
  rw [← String.toList_inj, toList_declaration, toList_declaration,
    List.append_right_inj] at same
  obtain ⟨sameName, sameRest⟩ :=
    SegmentedNames.eq_and_eq_of_free_append_eq firstReadable.name
      secondReadable.name same
  rw [List.append_right_inj, List.append_left_inj] at sameRest
  exact Prod.ext (String.toList_inj.1 sameName) (String.toList_inj.1 sameRest)

/-- The declaration of a readable constant is on one line. -/
theorem IsReadable.oneLine
    {constant : String × String}
    (readable : IsReadable constant) :
    OneLine (declaration constant) := by
  have nameFree := readable.nameLine
  have literalFree := readable.literalLine
  unfold OneLine at *
  rw [toList_declaration]
  simp [nameFree, literalFree]

/--
Declarations are read back up to the first character that starts none; each
of them starts with `c`.
-/
theorem declarations_inj
    {first second : List (String × String)}
    {firstRest secondRest : List Char}
    (firstReadable : ∀ constant ∈ first, IsReadable constant)
    (secondReadable : ∀ constant ∈ second, IsReadable constant)
    (firstEnds : firstRest.head? ≠ some 'c')
    (secondEnds : secondRest.head? ≠ some 'c')
    (same :
      linesText (first.map declaration) ++ firstRest =
        linesText (second.map declaration) ++ secondRest) :
    first = second ∧ firstRest = secondRest := by
  have starts :
      ∀ constant rest,
        ((declaration constant).toList ++ rest).head? = some 'c' := by
    intro constant rest
    rw [toList_declaration]
    rfl
  induction first generalizing second with
  | nil =>
      cases second with
      | nil =>
          exact ⟨rfl, same⟩
      | cons constant others =>
          simp only [List.map_nil, linesText_nil, List.nil_append,
            List.map_cons, linesText_cons, List.append_assoc] at same
          rw [same, starts] at firstEnds
          exact absurd rfl firstEnds
  | cons constant rest inductionHypothesis =>
      simp only [List.map_cons, linesText_cons, List.append_assoc] at same
      cases second with
      | nil =>
          simp only [List.map_nil, linesText_nil, List.nil_append] at same
          rw [← same, starts] at secondEnds
          exact absurd rfl secondEnds
      | cons other others =>
          rw [List.forall_mem_cons] at firstReadable secondReadable
          simp only [List.map_cons, linesText_cons, List.append_assoc,
            List.cons_append] at same
          obtain ⟨sameLine, sameRest⟩ :=
            line_inj firstReadable.1.oneLine secondReadable.1.oneLine same
          obtain ⟨sameOthers, sameEnd⟩ :=
            inductionHypothesis firstReadable.2 secondReadable.2 sameRest
          rw [declaration_inj firstReadable.1 secondReadable.1 sameLine,
            sameOthers]
          exact ⟨rfl, sameEnd⟩

/-- The item of a context is read back from the text before the other items. -/
theorem contextItem_inj
    {first second : List (String × String)}
    {firstRest secondRest : List Char}
    (firstReadable : ∀ constant ∈ first, IsReadable constant)
    (secondReadable : ∀ constant ∈ second, IsReadable constant)
    (firstEnds : firstRest.head? ≠ some 'c')
    (secondEnds : secondRest.head? ≠ some 'c')
    (same :
      linesText (ModuleItem.context first).lines ++ firstRest =
        linesText (ModuleItem.context second).lines ++ secondRest) :
    first = second ∧ firstRest = secondRest := by
  -- An empty context leaves no blank line behind.
  have shape :
      ∀ constants rest,
        rest.head? ≠ some 'c' →
        ∃ ending,
          linesText (ModuleItem.context constants).lines ++ rest =
              linesText (constants.map declaration) ++ ending ∧
            ending.head? ≠ some 'c' ∧
              ending = (if constants = [] then [] else ['\n']) ++ rest := by
    intro constants rest ends
    cases constants with
    | nil =>
        exact ⟨rest, rfl, ends, rfl⟩
    | cons constant others =>
        refine ⟨'\n' :: rest, ?_, by simp, rfl⟩
        simp [ModuleItem.lines, declaration]
        rfl
  obtain ⟨_, firstShape, firstEnding, rfl⟩ := shape first firstRest firstEnds
  obtain ⟨_, secondShape, secondEnding, rfl⟩ :=
    shape second secondRest secondEnds
  rw [firstShape, secondShape] at same
  obtain ⟨rfl, sameEnding⟩ :=
    declarations_inj firstReadable secondReadable firstEnding secondEnding same
  exact ⟨rfl, List.append_cancel_left sameEnding⟩

/-! ## The function and its entrypoint -/

/-- The text after a user function. -/
def entrypointText (mode : CodegenMode) : List Char :=
  ';' :: '\n' :: linesText ("" :: (ModuleItem.entrypoint mode true true).lines)

/-- The character before the end of an entrypoint. -/
def modeCharacter : CodegenMode → Char
  | .poolFn => ')'
  | .actorClass => '\x7d'

/-- The entrypoints of the two modes end differently. -/
theorem exists_entrypointText (mode : CodegenMode) :
    ∃ before,
      entrypointText mode =
        before ++
          modeCharacter mode :: ';' :: '\n' :: linesText ["  \x7d", "\x7d"] := by
  cases mode with
  | poolFn =>
      have returned :
          "    return cfpValidateReturn(__result__);".toList =
            "    return cfpValidateReturn(__result__".toList ++
              [')', ';'] := by
        decide
      refine ⟨';' :: '\n' ::
        (linesText
            ("" :: (executeHeadLines ++ signalEnvLines ++
              ["    const __result__ = await __fn__(...args, __env__);"])) ++
          "    return cfpValidateReturn(__result__".toList), ?_⟩
      simp [entrypointText, ModuleItem.lines, entrypointClassLines,
        envSetupLines, returned, modeCharacter]
  | actorClass =>
      have returned :
          "    return \x7b state, value: cfpValidateReturn(result) \x7d;".toList =
            "    return \x7b state, value: cfpValidateReturn(result) ".toList ++
              ['\x7d', ';'] := by
        decide
      obtain ⟨start, tail⟩ :
          ∃ start,
            submitTailLines =
              start ++
                [ "    return \x7b state, value: cfpValidateReturn(result) \x7d;",
                  "  \x7d", "\x7d" ] :=
        ⟨submitTailLines.take 4, rfl⟩
      refine ⟨';' :: '\n' ::
        (linesText
            ("" :: (submitHeadLines ++ signalEnvLines ++ start)) ++
          "    return \x7b state, value: cfpValidateReturn(result) ".toList), ?_⟩
      rw [entrypointText, ModuleItem.lines, entrypointClassLines, tail]
      simp [envSetupLines, returned, modeCharacter]

/-- A user function and the mode are read back from the end of the text. -/
theorem entrypointText_append_inj
    {first second : List Char}
    {firstMode secondMode : CodegenMode}
    (same :
      first ++ entrypointText firstMode =
        second ++ entrypointText secondMode) :
    first = second ∧ firstMode = secondMode := by
  obtain ⟨firstBefore, firstShape⟩ := exists_entrypointText firstMode
  obtain ⟨secondBefore, secondShape⟩ := exists_entrypointText secondMode
  have sameCharacter : modeCharacter firstMode = modeCharacter secondMode := by
    rw [firstShape, secondShape, ← List.append_assoc,
      ← List.append_assoc] at same
    have sameEnding := List.append_inj_right' same rfl
    rw [List.cons.injEq] at sameEnding
    exact sameEnding.1
  have sameMode : firstMode = secondMode := by
    revert sameCharacter
    cases firstMode <;> cases secondMode <;> decide
  subst sameMode
  exact ⟨List.append_cancel_right same, rfl⟩

/-- The options of a loader dispatch, which all inject a signal. -/
structure IsRunnerSource (opts : GenerateSourceOptions) : Prop where
  injectCancelSignal : opts.injectCancelSignal = true
  passEnv : opts.passEnv = true

/-- The text of a user function and its entrypoint. -/
theorem linesText_functionItems
    {fnSource : String}
    {opts : GenerateSourceOptions}
    (runner : IsRunnerSource opts) :
    linesText ((functionItems fnSource opts).flatMap ModuleItem.lines) =
      if fnSource = "" then
        []
      else
        "const __fn__ = ".toList ++
          (fnSource.toList ++ entrypointText opts.mode) := by
  unfold functionItems
  split
  · rfl
  · rw [runner.injectCancelSignal, runner.passEnv]
    simp [ModuleItem.lines, entrypointText, toString]

/-- A user function and its mode are read back; there may be none. -/
theorem functionItems_inj
    {first second : String}
    {firstOpts secondOpts : GenerateSourceOptions}
    (firstRunner : IsRunnerSource firstOpts)
    (secondRunner : IsRunnerSource secondOpts)
    (same :
      linesText ((functionItems first firstOpts).flatMap ModuleItem.lines) =
        linesText
          ((functionItems second secondOpts).flatMap ModuleItem.lines)) :
    first = second ∧ (first ≠ "" → firstOpts.mode = secondOpts.mode) := by
  rw [linesText_functionItems firstRunner,
    linesText_functionItems secondRunner] at same
  by_cases firstEmpty : first = ""
  · by_cases secondEmpty : second = ""
    · rw [firstEmpty, secondEmpty]
      exact ⟨rfl, fun some => absurd rfl some⟩
    · rw [if_pos firstEmpty, if_neg secondEmpty] at same
      cases same
  · by_cases secondEmpty : second = ""
    · rw [if_neg firstEmpty, if_pos secondEmpty] at same
      cases same
    · rw [if_neg firstEmpty, if_neg secondEmpty,
        List.append_right_inj] at same
      obtain ⟨sameSource, sameMode⟩ := entrypointText_append_inj same
      exact ⟨String.toList_inj.1 sameSource, fun _ => sameMode⟩

/-! ## The module -/

/-- The text of a module after its context. -/
def bodyText
    (fnSource : String)
    (opts : GenerateSourceOptions) : List Char :=
  (if opts.sealGlobals then linesText sealLines else []) ++
    (linesText cancelSignalLines ++
      (linesText validateReturnLines ++
        linesText ((functionItems fnSource opts).flatMap ModuleItem.lines)))

/-- The text of the items: the header, the context and the body. -/
theorem linesText_itemsAround
    {constants : List (String × String)}
    {fnSource : String}
    {opts : GenerateSourceOptions}
    (runner : IsRunnerSource opts) :
    linesText
        ((itemsAround constants fnSource opts).flatMap ModuleItem.lines) =
      linesText headerLines ++
        (linesText (ModuleItem.context constants).lines ++
          bodyText fnSource opts) := by
  unfold itemsAround bodyText
  rw [runner.injectCancelSignal]
  cases opts.sealGlobals <;> simp [ModuleItem.lines]

/-- The body of a module starts no declaration. -/
theorem head_bodyText
    (fnSource : String)
    (opts : GenerateSourceOptions) :
    (bodyText fnSource opts).head? =
      some (if opts.sealGlobals then '(' else 'f') := by
  unfold bodyText
  cases opts.sealGlobals <;> rfl

/-- The body of a module says whether it seals globals, and its function. -/
theorem bodyText_inj
    {first second : String}
    {firstOpts secondOpts : GenerateSourceOptions}
    (firstRunner : IsRunnerSource firstOpts)
    (secondRunner : IsRunnerSource secondOpts)
    (same : bodyText first firstOpts = bodyText second secondOpts) :
    firstOpts.sealGlobals = secondOpts.sealGlobals ∧
      first = second ∧ (first ≠ "" → firstOpts.mode = secondOpts.mode) := by
  have sameSealing : firstOpts.sealGlobals = secondOpts.sealGlobals := by
    have sameHead := congrArg List.head? same
    rw [head_bodyText, head_bodyText, Option.some.injEq] at sameHead
    revert sameHead
    cases firstOpts.sealGlobals <;> cases secondOpts.sealGlobals <;> decide
  refine ⟨sameSealing, functionItems_inj firstRunner secondRunner ?_⟩
  unfold bodyText at same
  rw [sameSealing] at same
  simpa using same

/--
A module of readable constants determines them, its sealing, its function and,
if there is one, its mode.
-/
theorem itemsAround_inj
    {firstConstants secondConstants : List (String × String)}
    {first second : String}
    {firstOpts secondOpts : GenerateSourceOptions}
    (firstReadable : ∀ constant ∈ firstConstants, IsReadable constant)
    (secondReadable : ∀ constant ∈ secondConstants, IsReadable constant)
    (firstRunner : IsRunnerSource firstOpts)
    (secondRunner : IsRunnerSource secondOpts)
    (same :
      linesText ((itemsAround firstConstants first firstOpts).flatMap
          ModuleItem.lines) =
        linesText ((itemsAround secondConstants second secondOpts).flatMap
          ModuleItem.lines)) :
    firstConstants = secondConstants ∧
      firstOpts.sealGlobals = secondOpts.sealGlobals ∧
        first = second ∧
          (first ≠ "" → firstOpts.mode = secondOpts.mode) := by
  have ends :
      ∀ (fnSource : String) (opts : GenerateSourceOptions),
        (bodyText fnSource opts).head? ≠ some 'c' := by
    intro fnSource opts
    rw [head_bodyText]
    cases opts.sealGlobals <;> decide
  rw [linesText_itemsAround firstRunner, linesText_itemsAround secondRunner,
    List.append_right_inj] at same
  obtain ⟨sameConstants, sameBody⟩ :=
    contextItem_inj firstReadable secondReadable (ends _ _) (ends _ _) same
  exact ⟨sameConstants, bodyText_inj firstRunner secondRunner sameBody⟩

/-- An accepted key has no blank and no line break. -/
theorem notMem_of_isValidIdentifier
    {key : String}
    (valid : isValidIdentifier key = true) :
    ' ' ∉ key.toList ∧ '\n' ∉ key.toList := by
  unfold isValidIdentifier at valid
  split at valid
  · cases valid
  next first rest shape =>
    rw [shape]
    simp only [Bool.and_eq_true, List.all_eq_true] at valid
    refine ⟨?_, ?_⟩ <;> rw [List.mem_cons, not_or]
    · refine ⟨?_, fun member => absurd (valid.2 _ member) (by decide)⟩
      rintro rfl
      exact absurd valid.1 (by decide)
    · refine ⟨?_, fun member => absurd (valid.2 _ member) (by decide)⟩
      rintro rfl
      exact absurd valid.1 (by decide)

/-- The constant of an entry with canonical numbers is readable. -/
theorem isReadable_of_contextConstant
    {entry : String × JsValue}
    {constant : String × String}
    (canonical : HasCanonicalNumbers entry.2)
    (made : contextConstant entry = .ok constant) :
    IsReadable constant := by
  obtain ⟨sameKey, accepted⟩ := of_contextConstant made
  obtain ⟨noBlank, noLineBreak⟩ :=
    notMem_of_isValidIdentifier
      (GeneratedModule.guarded_of_accepted accepted).1
  rw [contextConstant, accepted, contextLiteral_eq] at made
  obtain ⟨literal, rendered, rfl⟩ := of_bind_pure made
  exact ⟨noBlank, noLineBreak, canonical.oneLine rendered⟩

/-- The entries have the same key and the same canonical text. -/
def SameConstant (first second : String × JsValue) : Prop :=
  first.1 = second.1 ∧ stringify first.2 = stringify second.2

/-- Entries of one constant agree in key and canonical text. -/
theorem sameConstant_of_contextConstant
    {first second : String × JsValue}
    {constant : String × String}
    (firstMade : contextConstant first = .ok constant)
    (secondMade : contextConstant second = .ok constant) :
    SameConstant first second := by
  obtain ⟨_, firstAccepted⟩ := of_contextConstant firstMade
  obtain ⟨_, secondAccepted⟩ := of_contextConstant secondMade
  rw [contextConstant, firstAccepted, contextLiteral_eq] at firstMade
  rw [contextConstant, secondAccepted, contextLiteral_eq] at secondMade
  obtain ⟨firstText, firstRendered, rfl⟩ := of_bind_pure firstMade
  obtain ⟨secondText, secondRendered, sameText⟩ := of_bind_pure secondMade
  rw [Prod.mk.injEq] at sameText
  obtain ⟨sameKey, rfl⟩ := sameText
  exact ⟨sameKey.symm, firstRendered.trans secondRendered.symm⟩

/-- Contexts declare the same constants exactly when their entries agree. -/
theorem mapM_contextConstant_eq
    {first second : JsRecord}
    (same : List.Forall₂ SameConstant first second) :
    first.mapM contextConstant = second.mapM contextConstant := by
  induction same with
  | nil =>
      rfl
  | cons sameHead _ inductionHypothesis =>
      rw [List.mapM_cons, List.mapM_cons, inductionHypothesis,
        contextConstant, contextConstant, contextLiteral_eq,
        contextLiteral_eq, sameHead.1, sameHead.2]

/-- Contexts of the same constants agree entry by entry. -/
theorem forall₂_sameConstant
    {first second : JsRecord}
    {constants : List (String × String)}
    (firstMade : first.mapM contextConstant = .ok constants)
    (secondMade : second.mapM contextConstant = .ok constants) :
    List.Forall₂ SameConstant first second := by
  have firstEach := forall₂_of_mapM_ok firstMade
  have secondEach := forall₂_of_mapM_ok secondMade
  clear firstMade secondMade
  induction firstEach generalizing second with
  | nil =>
      cases secondEach
      exact .nil
  | cons made _ inductionHypothesis =>
      cases secondEach with
      | cons otherMade others =>
          exact
            .cons (sameConstant_of_contextConstant made otherMade)
              (inductionHypothesis others)

/-- What makes two modules of the loader the same program. -/
structure SameModule
    (first second : String)
    (firstOpts secondOpts : GenerateSourceOptions) : Prop where
  source : first = second
  context :
    List.Forall₂ SameConstant (firstOpts.context.getD [])
      (secondOpts.context.getD [])
  sealing : firstOpts.sealGlobals = secondOpts.sealGlobals
  mode : first ≠ "" → firstOpts.mode = secondOpts.mode

theorem SameModule.refl
    (fnSource : String)
    (opts : GenerateSourceOptions) :
    SameModule fnSource fnSource opts opts :=
  ⟨rfl, List.forall₂_same.2 fun _ _ => ⟨rfl, rfl⟩, rfl, fun _ => rfl⟩

/-- The text of a module of a runner is that of its items. -/
theorem exists_constants_of_generateWorkerSource
    {fnSource text : String}
    {opts : GenerateSourceOptions}
    (canonical :
      ∀ entry ∈ opts.context.getD [], HasCanonicalNumbers entry.2)
    (generated : generateWorkerSource (some fnSource) opts = .ok text) :
    ∃ constants,
      (opts.context.getD []).mapM contextConstant = .ok constants ∧
        (∀ constant ∈ constants, IsReadable constant) ∧
          text.toList ++ ['\n'] =
            linesText
              ((itemsAround constants fnSource opts).flatMap
                ModuleItem.lines) := by
  rw [generateWorkerSource, generateWorkerLines_eq, moduleItems] at generated
  cases made : (opts.context.getD []).mapM contextConstant with
  | error err =>
      rw [made] at generated
      cases generated
  | ok constants =>
      rw [made] at generated
      cases generated
      refine ⟨constants, rfl, ?_, toList_joinLines ?_⟩
      · exact
          forall_of_mapM_ok made fun entry member _ =>
            isReadable_of_contextConstant (canonical entry member)
      · simp [itemsAround, ModuleItem.lines, headerLines]

/-- Modules of one text are the same program. -/
theorem sameModule_of_generateWorkerSource
    {first second text : String}
    {firstOpts secondOpts : GenerateSourceOptions}
    (firstRunner : IsRunnerSource firstOpts)
    (secondRunner : IsRunnerSource secondOpts)
    (firstCanonical :
      ∀ entry ∈ firstOpts.context.getD [], HasCanonicalNumbers entry.2)
    (secondCanonical :
      ∀ entry ∈ secondOpts.context.getD [], HasCanonicalNumbers entry.2)
    (firstText : generateWorkerSource (some first) firstOpts = .ok text)
    (secondText : generateWorkerSource (some second) secondOpts = .ok text) :
    SameModule first second firstOpts secondOpts := by
  obtain ⟨firstConstants, firstMade, firstReadable, firstShape⟩ :=
    exists_constants_of_generateWorkerSource firstCanonical firstText
  obtain ⟨secondConstants, secondMade, secondReadable, secondShape⟩ :=
    exists_constants_of_generateWorkerSource secondCanonical secondText
  obtain ⟨rfl, sealing, source, mode⟩ :=
    itemsAround_inj firstReadable secondReadable firstRunner secondRunner
      (firstShape.symm.trans secondShape)
  exact ⟨source, forall₂_sameConstant firstMade secondMade, sealing, mode⟩

/-- The same program has one text. -/
theorem SameModule.generateWorkerSource_eq
    {first second : String}
    {firstOpts secondOpts : GenerateSourceOptions}
    (firstRunner : IsRunnerSource firstOpts)
    (secondRunner : IsRunnerSource secondOpts)
    (same : SameModule first second firstOpts secondOpts) :
    generateWorkerSource (some first) firstOpts =
      generateWorkerSource (some second) secondOpts := by
  obtain ⟨rfl, context, sealing, mode⟩ := same
  rw [generateWorkerSource, generateWorkerSource, generateWorkerLines_eq,
    generateWorkerLines_eq, moduleItems, moduleItems,
    mapM_contextConstant_eq context]
  have sameFunction :
      functionItems first firstOpts = functionItems first secondOpts := by
    unfold functionItems
    split
    · rfl
    next some =>
      rw [mode some, firstRunner.injectCancelSignal, firstRunner.passEnv,
        secondRunner.injectCancelSignal, secondRunner.passEnv]
  simp only [itemsAround, Option.getD_some, sealing, sameFunction,
    firstRunner.injectCancelSignal, secondRunner.injectCancelSignal]

end CloudflareParallel
