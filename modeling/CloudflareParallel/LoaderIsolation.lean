import CloudflareParallel.LoaderProgram

namespace CloudflareParallel

/-!
# Whose capabilities a cached isolate holds

The loader id says nothing about bindings, outbound access or limits, so a
dispatch runs with those of the first dispatch that used its id.
`WithinPolicy` asks that they are what the dispatch itself allows.
-/

/-- The worker options of a dispatch, with their defaults. -/
def LoaderDispatch.effectiveOptions
    (dispatch : LoaderDispatch) : InternalWorkerCodeOptions :=
  dispatch.options.workerOptions.getD {}

/-- The user code of the dispatch, on this worker, is within its policy. -/
structure WithinPolicy
    (dispatch : LoaderDispatch)
    (code : WorkerCode) : Prop where
  onlyAdmitted :
    ∀ entry ∈ userEnv (code.env.getD []),
      entry ≠ ("signal", .abortSignal) →
      admits dispatch.options.allowList entry.1
  nothingInternal :
    ∀ entry ∈ userEnv (code.env.getD []),
      isUnforwardableBindingKey entry.1 = false
  ownOutbound :
    code.globalOutbound =
      outboundAccess dispatch.effectiveOptions.globalOutbound
  ownLimits : code.limits = dispatch.effectiveOptions.limits

/-- The binding keys that a dispatch forwards and user code can see. -/
def LoaderDispatch.forwards
    (dispatch : LoaderDispatch)
    (key : String) : Prop :=
  key ≠ "signal" ∧
    key ≠ "cancelStream" ∧
      ∃ binding,
        (key, binding) ∈
          sanitizeBindings dispatch.input.bindings
            dispatch.options.allowList

/-- The second dispatch may run on the worker of the first. -/
structure MayReuse (first second : LoaderDispatch) : Prop where
  admitted :
    ∀ key,
      first.forwards key →
      admits second.options.allowList key
  outbound :
    outboundAccess first.effectiveOptions.globalOutbound =
      outboundAccess second.effectiveOptions.globalOutbound
  limits :
    first.effectiveOptions.limits = second.effectiveOptions.limits

/-- Other properties are not touched by an assignment. -/
theorem mem_assignKey_of_ne
    {env : LoaderEnv}
    {key : String}
    {value : EnvValue}
    {entry : String × EnvValue}
    (different : entry.1 ≠ key) :
    entry ∈ assignKey env key value ↔ entry ∈ env := by
  unfold assignKey
  split
  · simp only [List.mem_map]
    constructor
    · rintro ⟨old, oldMember, rfl⟩
      split at different
      · exact (different rfl).elim
      next kept =>
        rw [if_neg kept]
        exact oldMember
    · intro member
      exact ⟨entry, member, by simp [different]⟩
  · simp only [List.mem_append, List.mem_singleton, or_iff_left_iff_imp]
    rintro rfl
    exact (different rfl).elim

/-- The assigned property holds the assigned value. -/
theorem eq_of_mem_assignKey
    {env : LoaderEnv}
    {value : EnvValue}
    {entry : String × EnvValue}
    (member : entry ∈ assignKey env entry.1 value) :
    entry.2 = value := by
  unfold assignKey at member
  split at member
  next =>
    obtain ⟨old, _, shape⟩ := List.mem_map.mp member
    split at shape
    · exact (congrArg Prod.snd shape).symm
    next otherKey =>
      rw [shape] at otherKey
      simp at otherKey
  next absent =>
    rcases List.mem_append.mp member with old | new
    · exfalso
      apply absent
      rw [List.any_eq_true]
      exact ⟨entry, old, by simp⟩
    · exact congrArg Prod.snd (List.mem_singleton.mp new)

/-- User code sees the signal and the forwarded bindings, nothing else. -/
theorem mem_userEnv_loaderEnv
    {sanitized : Env}
    {cancelStream : Option CancelStream}
    {entry : String × EnvValue}
    (notSignal : entry ≠ ("signal", .abortSignal)) :
    entry ∈ userEnv (loaderEnv sanitized cancelStream) ↔
      entry.1 ≠ "signal" ∧
        entry.1 ≠ "cancelStream" ∧
          entry.1 ≠ "cfpSql" ∧
            ∃ binding,
              (entry.1, binding) ∈ sanitized ∧
                entry.2 = .binding binding := by
  have forwarded :
      entry.1 ≠ "cancelStream" →
      (entry ∈ loaderEnv sanitized cancelStream ↔
        ∃ binding,
          (entry.1, binding) ∈ sanitized ∧ entry.2 = .binding binding) := by
    intro notStream
    have bindingEntry :
        (entry ∈ sanitized.map fun e => (e.1, EnvValue.binding e.2)) ↔
          ∃ binding,
            (entry.1, binding) ∈ sanitized ∧
              entry.2 = .binding binding := by
      rcases entry with ⟨key, value⟩
      simp only [List.mem_map, Prod.mk.injEq, Prod.exists]
      constructor
      · rintro ⟨_, binding, member, rfl, rfl⟩
        exact ⟨binding, member, rfl⟩
      · rintro ⟨binding, member, rfl⟩
        exact ⟨key, binding, member, rfl, rfl⟩
    unfold loaderEnv
    cases cancelStream with
    | none =>
        exact bindingEntry
    | some stream =>
        exact (mem_assignKey_of_ne notStream).trans bindingEntry
  simp only [userEnv, deleteKey, List.mem_filter, bne_iff_ne]
  constructor
  · rintro ⟨⟨member, notStream⟩, notSql⟩
    by_cases isSignal : entry.1 = "signal"
    · rw [← isSignal] at member
      have value := eq_of_mem_assignKey member
      exact (notSignal (Prod.ext isSignal value)).elim
    · rw [mem_assignKey_of_ne isSignal, forwarded notStream] at member
      exact ⟨isSignal, notStream, notSql, member⟩
  · rintro ⟨isSignal, notStream, notSql, member⟩
    rw [mem_assignKey_of_ne isSignal, forwarded notStream]
    exact ⟨⟨member, notStream⟩, notSql⟩

/-- What a dispatch's own worker holds. -/
theorem fields_of_ownCode
    {dispatch : LoaderDispatch}
    {code : WorkerCode}
    (own : dispatch.ownCode = .ok code) :
    code.env =
        some
          (loaderEnv
            (sanitizeBindings dispatch.input.bindings
              dispatch.options.allowList)
            dispatch.input.cancelStream) ∧
      code.globalOutbound =
          outboundAccess dispatch.effectiveOptions.globalOutbound ∧
        code.limits = dispatch.effectiveOptions.limits := by
  simp only [LoaderDispatch.ownCode, buildWorkerCode] at own
  cases source :
      generateWorkerSource (some dispatch.input.fnSource)
        dispatch.sourceOptions with
  | error err =>
      simp [source, bind, Except.bind] at own
  | ok text =>
      simp only [source, bind, Except.bind, pure, Except.pure,
        Except.ok.injEq] at own
      subst own
      exact ⟨rfl, rfl, rfl⟩

/-- A dispatch is within its policy on another's worker when it may reuse it. -/
theorem withinPolicy_iff_mayReuse
    {first second : LoaderDispatch}
    {code : WorkerCode}
    (own : first.ownCode = .ok code) :
    WithinPolicy second code ↔ MayReuse first second := by
  obtain ⟨env, outbound, limits⟩ := fields_of_ownCode own
  constructor
  · intro within
    refine {
      admitted := ?_
      outbound := outbound.symm.trans within.ownOutbound
      limits := limits.symm.trans within.ownLimits
    }
    rintro key ⟨notSignal, notStream, binding, member⟩
    have notSql : key ≠ "cfpSql" := by
      rintro rfl
      have internal : isUnforwardableBindingKey "cfpSql" = true := by decide
      have forwardable := (mem_sanitizeBindings.mp member).2.1
      rw [internal] at forwardable
      cases forwardable
    have visible :
        (key, EnvValue.binding binding) ∈ userEnv (code.env.getD []) := by
      rw [env]
      exact (mem_userEnv_loaderEnv (by simp)).mpr
        ⟨notSignal, notStream, notSql, binding, member, rfl⟩
    exact within.onlyAdmitted _ visible (by simp)
  · intro reuse
    refine {
      onlyAdmitted := ?_
      nothingInternal := ?_
      ownOutbound := outbound.trans reuse.outbound
      ownLimits := limits.trans reuse.limits
    }
    · intro entry member notSignal
      rw [env] at member
      obtain ⟨isOther, notStream, _, binding, sanitized, _⟩ :=
        (mem_userEnv_loaderEnv notSignal).mp member
      exact reuse.admitted entry.1 ⟨isOther, notStream, binding, sanitized⟩
    · intro entry member
      by_cases isSignal : entry = ("signal", .abortSignal)
      · rw [isSignal]
        decide
      · rw [env] at member
        obtain ⟨_, _, _, binding, sanitized, _⟩ :=
          (mem_userEnv_loaderEnv isSignal).mp member
        exact (mem_sanitizeBindings.mp sanitized).2.1

/-- A dispatch may always run on its own worker. -/
theorem MayReuse.refl (dispatch : LoaderDispatch) :
    MayReuse dispatch dispatch where
  admitted := by
    rintro key ⟨_, _, binding, member⟩
    exact (mem_sanitizeBindings.mp member).2.2
  outbound := rfl
  limits := rfl

/-- The first user of a dispatch's id is one whose worker it may reuse. -/
theorem mayReuse_of_withinPolicy
    {dispatches : List LoaderDispatch}
    (everyWithin :
      ∀ dispatch run,
        (dispatch, run) ∈ runDispatches {} dispatches →
        WithinPolicy dispatch run.code)
    {dispatch first : LoaderDispatch}
    {id : SharedId}
    (member : dispatch ∈ dispatches)
    (shared : dispatch.sharedId = some id)
    (isFirst : firstUse dispatches id = some first) :
    MayReuse first dispatch := by
  obtain ⟨run, ran⟩ := exists_run_of_sharedId member shared {}
  obtain ⟨_, runs⟩ := loaded_nil.runDispatches ran
  obtain ⟨user, isUser, own⟩ := runs.first id shared
  rw [List.nil_append, isFirst] at isUser
  cases isUser
  exact (withinPolicy_iff_mayReuse own).mp (everyWithin dispatch run ran)

/--
Every dispatch of a sequence runs within its own policy exactly when the first
dispatch that used its id, where the id is a shared one, forwards no key that
it does not admit and has the same outbound access and limits.
-/
theorem runDispatches_withinPolicy_iff
    (dispatches : List LoaderDispatch) :
    (∀ dispatch run,
        (dispatch, run) ∈ runDispatches {} dispatches →
        WithinPolicy dispatch run.code) ↔
      ∀ dispatch ∈ dispatches, ∀ id first,
        dispatch.sharedId = some id →
        firstUse dispatches id = some first →
        MayReuse first dispatch := by
  constructor
  · intro everyWithin dispatch member id first
    exact mayReuse_of_withinPolicy everyWithin member
  · intro reusable dispatch run ran
    obtain ⟨member, runs⟩ := loaded_nil.runDispatches ran
    cases shared : dispatch.sharedId with
    | none =>
        exact (withinPolicy_iff_mayReuse (runs.own shared)).mpr (.refl _)
    | some id =>
        obtain ⟨first, isFirst, own⟩ := runs.first id shared
        exact (withinPolicy_iff_mayReuse own).mpr
          (reusable dispatch member id first shared isFirst)

/-- A dispatch of the same function with a database binding, or without. -/
def LoaderDispatch.withAllowList
    (allowList : Option (List String)) : LoaderDispatch :=
  let plain := LoaderDispatch.stable "(x, env) => env.DB"
  { plain with
    options := { plain.options with allowList := allowList }
    input := {
      plain.input with
      bindings := some [("DB", { id := 0, hasFetch := false })]
    } }

/--
A dispatch that admits no binding at all finds the database that an earlier
dispatch of the same function was given.
-/
theorem runDispatches_leaks_binding :
    ¬ ∀ dispatch run,
        (dispatch, run) ∈
            runDispatches {} [.withAllowList none, .withAllowList (some [])] →
        WithinPolicy dispatch run.code := by
  intro everyWithin
  obtain ⟨id, shared⟩ :
      ∃ id, (LoaderDispatch.withAllowList (some [])).sharedId = some id :=
    Option.isSome_iff_exists.mp (by decide)
  have firstShared :
      (LoaderDispatch.withAllowList none).sharedId = some id := by
    rw [← shared]
    decide
  have isFirst :
      firstUse [.withAllowList none, .withAllowList (some [])] id =
        some (.withAllowList none) := by
    simp [firstUse, firstShared]
  have reuse :=
    mayReuse_of_withinPolicy everyWithin (by simp) shared isFirst
  have admitted :=
    reuse.admitted "DB"
      ⟨by decide, by decide, { id := 0, hasFetch := false }, by decide⟩
  revert admitted
  decide

end CloudflareParallel
