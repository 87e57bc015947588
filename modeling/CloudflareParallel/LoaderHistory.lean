import CloudflareParallel.LoaderRunner

namespace CloudflareParallel

/-!
# What a loader holds after a history of dispatches

A shared id always leads to the worker of the first dispatch that used it, and
a fresh id to a worker of its own.  One step preserves this (`Loaded.step`), so
every run of a sequence is on the worker of the first user of its id.
-/

/-- A loader id that several dispatches can have. -/
structure SharedId where
  hash : BitVec 32
  window : Option Nat
  slot : Option Nat
  deriving DecidableEq

/-- The shape of a shared id. -/
def SharedId.shape (id : SharedId) : CacheKeyShape where
  hash := id.hash
  kind := .shared id.window id.slot

/-- The shared id of a dispatch; a fresh one, or one without id, has none. -/
def LoaderDispatch.sharedId (dispatch : LoaderDispatch) : Option SharedId :=
  match dispatch.cacheKeyInput with
  | .error _ => none
  | .ok keyInput =>
      if keyInput.isFresh then
        none
      else
        some {
          hash := keyInput.combined
          window := keyInput.window dispatch.now
          slot := keyInput.slot
        }

/-- The first dispatch of a history with a shared id. -/
def firstUse
    (history : List LoaderDispatch)
    (id : SharedId) : Option LoaderDispatch :=
  history.find? fun dispatch => dispatch.sharedId = some id

/-- Two shared ids with the same key are the same. -/
theorem SharedId.key_inj
    {first second : SharedId}
    (same : first.shape.key = second.shape.key) :
    first = second := by
  have sameShape := CacheKeyShape.key_inj.mp same
  cases first
  cases second
  cases sameShape
  rfl

/-- A dispatch with a shared id has code of its own. -/
theorem ownCode_ok_of_sharedId
    {dispatch : LoaderDispatch}
    {id : SharedId}
    (shared : dispatch.sharedId = some id) :
    ∃ code, dispatch.ownCode = .ok code := by
  unfold LoaderDispatch.sharedId at shared
  split at shared
  · cases shared
  next keyed =>
    exact ownCode_ok keyed

/-- A later dispatch is the first user of an id that had none. -/
theorem firstUse_append
    (past : List LoaderDispatch)
    (dispatch : LoaderDispatch)
    (id : SharedId) :
    firstUse (past ++ [dispatch]) id =
      (firstUse past id).or
        (if dispatch.sharedId = some id then some dispatch else none) := by
  simp only [firstUse, List.find?_append, List.find?_singleton,
    decide_eq_true_eq]

/-- A first user stays the first user. -/
theorem firstUse_append_of_some
    {past : List LoaderDispatch}
    {id : SharedId}
    {first : LoaderDispatch}
    (found : firstUse past id = some first)
    (later : List LoaderDispatch) :
    firstUse (past ++ later) id = some first := by
  unfold firstUse at found ⊢
  rw [List.find?_append, found]
  rfl

/-- What a loader holds after the dispatches of `past`. -/
structure Loaded
    (past : List LoaderDispatch)
    (state : LoaderState) : Prop where
  shared :
    ∀ id,
      state.loaded.lookup id.shape.key =
        (firstUse past id).bind fun first => first.ownCode.toOption
  fresh :
    ∀ hash counter,
      state.counter ≤ counter →
      state.loaded.lookup
          (CacheKeyShape.mk hash (.fresh counter)).key = none

/-- A new loader holds nothing. -/
theorem loaded_nil : Loaded [] {} where
  shared _ := rfl
  fresh _ _ _ := rfl

/-- The run of a dispatch is on the worker of the first user of its id. -/
structure RunsFirst
    (history : List LoaderDispatch)
    (dispatch : LoaderDispatch)
    (code : WorkerCode) : Prop where
  own : dispatch.sharedId = none → dispatch.ownCode = .ok code
  first :
    ∀ id,
      dispatch.sharedId = some id →
      ∃ user, firstUse history id = some user ∧ user.ownCode = .ok code

/-- A longer history has the same first users. -/
theorem RunsFirst.append
    {past : List LoaderDispatch}
    {dispatch : LoaderDispatch}
    {code : WorkerCode}
    (runs : RunsFirst past dispatch code)
    (later : List LoaderDispatch) :
    RunsFirst (past ++ later) dispatch code where
  own := runs.own
  first id shared := by
    obtain ⟨user, found, same⟩ := runs.first id shared
    exact ⟨user, firstUse_append_of_some found later, same⟩

/-- A dispatch without shared id changes no shared entry of a longer history. -/
theorem firstUse_append_of_none
    {dispatch : LoaderDispatch}
    (unshared : dispatch.sharedId = none)
    (past : List LoaderDispatch)
    (id : SharedId) :
    firstUse (past ++ [dispatch]) id = firstUse past id := by
  rw [firstUse_append, unshared]
  simp

/-- An id already used keeps its first user. -/
theorem firstUse_append_of_used
    {past : List LoaderDispatch}
    {dispatch first : LoaderDispatch}
    {id : SharedId}
    (shared : dispatch.sharedId = some id)
    (found : firstUse past id = some first)
    (other : SharedId) :
    firstUse (past ++ [dispatch]) other = firstUse past other := by
  rw [firstUse_append, shared]
  by_cases same : other = id
  · subst same
    rw [found]
    rfl
  · rw [if_neg (fun isSame => same (Option.some.inj isSame).symm)]
    exact Option.or_none

/-- Adding one entry under another key changes no lookup. -/
theorem lookup_append_of_ne
    {loaded : List (String × WorkerCode)}
    {key other : String}
    {code : WorkerCode}
    (different : other ≠ key) :
    (loaded ++ [(key, code)]).lookup other = loaded.lookup other := by
  simp [List.lookup_append, List.lookup_cons, beq_false_of_ne different]

/-- An entry added under a new key is found there. -/
theorem lookup_append_self
    {loaded : List (String × WorkerCode)}
    {key : String}
    (code : WorkerCode)
    (absent : loaded.lookup key = none) :
    (loaded ++ [(key, code)]).lookup key = some code := by
  simp [List.lookup_append, absent]

/-- Everything one dispatch can do to the loader. -/
theorem runWithMode_cases
    (state : LoaderState)
    (dispatch : LoaderDispatch) :
    (∃ err,
      dispatch.cacheKeyInput = .error err ∧
        runWithMode state dispatch = (.error err, state)) ∨
    (∃ keyInput key counter code,
      dispatch.cacheKeyInput = .ok keyInput ∧
        key = (keyInput.shape state.counter dispatch.now).key ∧
        counter =
          (if keyInput.isFresh then state.counter + 1 else state.counter) ∧
        ((state.loaded.lookup key = some code ∧
            runWithMode state dispatch =
              (.ok { code := code, call := dispatch.entrypointCall },
                { state with counter := counter })) ∨
          (state.loaded.lookup key = none ∧
            dispatch.ownCode = .ok code ∧
            runWithMode state dispatch =
              (.ok { code := code, call := dispatch.entrypointCall },
                { counter := counter
                  loaded := state.loaded ++ [(key, code)] })))) := by
  cases keyed : dispatch.cacheKeyInput with
  | error err =>
      exact .inl ⟨err, rfl, by simp [runWithMode, keyed]⟩
  | ok keyInput =>
      right
      have isKey :=
        buildCacheKey_eq_key state.counter dispatch.now keyInput
      have isCounter :=
        buildCacheKey_counter state.counter dispatch.now keyInput
      cases found :
          state.loaded.lookup
            (keyInput.shape state.counter dispatch.now).key with
      | some code =>
          refine ⟨keyInput, _, _, code, rfl, rfl, rfl, .inl ⟨found, ?_⟩⟩
          simp [runWithMode, keyed, isKey, isCounter, found]
      | none =>
          obtain ⟨code, own⟩ := ownCode_ok keyed
          refine ⟨keyInput, _, _, code, rfl, rfl, rfl,
            .inr ⟨found, own, ?_⟩⟩
          simp [runWithMode, keyed, isKey, isCounter, found, own]

/-- A fresh dispatch has no shared id and a key with the current counter. -/
theorem sharedId_of_fresh
    {dispatch : LoaderDispatch}
    {keyInput : CacheKeyInput}
    (keyed : dispatch.cacheKeyInput = .ok keyInput)
    (fresh : keyInput.isFresh) :
    dispatch.sharedId = none ∧
      ∀ counter,
        keyInput.shape counter dispatch.now =
          { hash := keyInput.combined, kind := .fresh counter } := by
  simp [LoaderDispatch.sharedId, CacheKeyInput.shape, keyed, fresh]

/-- Any other dispatch with a key has a shared id, whatever the counter. -/
theorem sharedId_of_not_fresh
    {dispatch : LoaderDispatch}
    {keyInput : CacheKeyInput}
    (keyed : dispatch.cacheKeyInput = .ok keyInput)
    (notFresh : keyInput.isFresh = false) :
    ∃ id,
      dispatch.sharedId = some id ∧
        ∀ counter, keyInput.shape counter dispatch.now = id.shape := by
  simp [LoaderDispatch.sharedId, CacheKeyInput.shape, SharedId.shape, keyed,
    notFresh]

/-- Without a key there is no shared id either. -/
theorem sharedId_of_error
    {dispatch : LoaderDispatch}
    {err : SerializationError}
    (keyed : dispatch.cacheKeyInput = .error err) :
    dispatch.sharedId = none := by
  simp [LoaderDispatch.sharedId, keyed]

/-- Loading under a fresh key keeps the invariant. -/
theorem Loaded.load_fresh
    {past : List LoaderDispatch}
    {state : LoaderState}
    (loaded : Loaded past state)
    {dispatch : LoaderDispatch}
    (unshared : dispatch.sharedId = none)
    (hash : BitVec 32)
    (code : WorkerCode) :
    Loaded (past ++ [dispatch])
      { counter := state.counter + 1
        loaded :=
          state.loaded ++
            [((CacheKeyShape.mk hash (.fresh state.counter)).key, code)] } where
  shared id := by
    rw [firstUse_append_of_none unshared, ← loaded.shared id]
    apply lookup_append_of_ne
    intro same
    have sameShape := CacheKeyShape.key_inj.mp same
    cases sameShape
  fresh other counter later := by
    have past_counter : state.counter + 1 ≤ counter := later
    rw [← loaded.fresh other counter (by omega)]
    apply lookup_append_of_ne
    intro same
    have sameShape := CacheKeyShape.key_inj.mp same
    simp only [CacheKeyShape.mk.injEq, CacheKeyKind.fresh.injEq] at sameShape
    omega

/-- Loading the first user of a shared id keeps the invariant. -/
theorem Loaded.load_shared
    {past : List LoaderDispatch}
    {state : LoaderState}
    (loaded : Loaded past state)
    {dispatch : LoaderDispatch}
    {id : SharedId}
    {code : WorkerCode}
    (shared : dispatch.sharedId = some id)
    (unused : firstUse past id = none)
    (own : dispatch.ownCode = .ok code) :
    Loaded (past ++ [dispatch])
      { state with loaded := state.loaded ++ [(id.shape.key, code)] } where
  shared other := by
    rw [firstUse_append, shared]
    by_cases same : other = id
    · subst same
      have absent : state.loaded.lookup other.shape.key = none := by
        rw [loaded.shared, unused]
        rfl
      rw [lookup_append_self code absent, unused]
      simp [own, Except.toOption]
    · rw [if_neg (fun isSame => same (Option.some.inj isSame).symm),
        Option.or_none, ← loaded.shared other]
      apply lookup_append_of_ne
      exact fun sameKey => same (SharedId.key_inj sameKey)
  fresh hash counter later := by
    rw [← loaded.fresh hash counter later]
    apply lookup_append_of_ne
    intro same
    have sameShape := CacheKeyShape.key_inj.mp same
    cases sameShape

/-- An id is held exactly when some earlier dispatch used it. -/
theorem Loaded.lookup_shared
    {past : List LoaderDispatch}
    {state : LoaderState}
    (loaded : Loaded past state)
    {id : SharedId}
    {code : WorkerCode}
    (found : state.loaded.lookup id.shape.key = some code) :
    ∃ first, firstUse past id = some first ∧ first.ownCode = .ok code := by
  rw [loaded.shared] at found
  obtain ⟨first, isFirst, own⟩ := Option.bind_eq_some_iff.mp found
  refine ⟨first, isFirst, ?_⟩
  cases result : first.ownCode with
  | error err =>
      rw [result] at own
      cases own
  | ok code =>
      rw [result] at own
      cases own
      rfl

/-- An id that is not held was used by no earlier dispatch. -/
theorem Loaded.firstUse_eq_none
    {past : List LoaderDispatch}
    {state : LoaderState}
    (loaded : Loaded past state)
    {id : SharedId}
    (absent : state.loaded.lookup id.shape.key = none) :
    firstUse past id = none := by
  cases isFirst : firstUse past id with
  | none =>
      rfl
  | some first =>
      have shared : first.sharedId = some id := by
        have holds := List.find?_some isFirst
        simpa using holds
      obtain ⟨code, own⟩ := ownCode_ok_of_sharedId shared
      rw [loaded.shared, isFirst] at absent
      simp [own, Except.toOption] at absent

/--
One dispatch: what the loader holds afterwards is right for the longer
history, and a run is on the worker of the first user of its id.
-/
theorem Loaded.step
    {past : List LoaderDispatch}
    {state : LoaderState}
    (loaded : Loaded past state)
    (dispatch : LoaderDispatch) :
    Loaded (past ++ [dispatch]) (runWithMode state dispatch).2 ∧
      ∀ run,
        (runWithMode state dispatch).1 = .ok run →
        RunsFirst (past ++ [dispatch]) dispatch run.code := by
  rcases runWithMode_cases state dispatch with
    ⟨err, keyed, ran⟩ | ⟨keyInput, key, counter, code, keyed, isKey,
      isCounter, outcome⟩
  · have unshared := sharedId_of_error keyed
    rw [ran]
    refine ⟨⟨fun id => ?_, loaded.fresh⟩, fun run impossible => nomatch impossible⟩
    rw [firstUse_append_of_none unshared]
    exact loaded.shared id
  · cases fresh : keyInput.isFresh with
    | true =>
        obtain ⟨unshared, shape⟩ := sharedId_of_fresh keyed fresh
        rw [shape] at isKey
        have absent : state.loaded.lookup key = none := by
          rw [isKey]
          exact loaded.fresh _ _ le_rfl
        simp only [fresh, ↓reduceIte] at isCounter
        rcases outcome with ⟨held, _⟩ | ⟨_, own, ran⟩
        · rw [absent] at held
          cases held
        · rw [ran, isKey, isCounter]
          refine ⟨loaded.load_fresh unshared _ _, ?_⟩
          intro run isRun
          cases isRun
          exact ⟨fun _ => own, fun id shared => by
            rw [unshared] at shared
            cases shared⟩
    | false =>
        obtain ⟨id, shared, shape⟩ := sharedId_of_not_fresh keyed fresh
        rw [shape] at isKey
        subst isKey
        simp only [fresh, Bool.false_eq_true, ↓reduceIte] at isCounter
        subst isCounter
        have runsFirst :
            ∀ first,
              firstUse (past ++ [dispatch]) id = some first →
              first.ownCode = .ok code →
              RunsFirst (past ++ [dispatch]) dispatch code := by
          intro first isFirst own
          refine ⟨fun unshared => ?_, fun other isOther => ?_⟩
          · rw [shared] at unshared
            cases unshared
          · rw [shared] at isOther
            cases isOther
            exact ⟨first, isFirst, own⟩
        rcases outcome with ⟨held, ran⟩ | ⟨absent, own, ran⟩
        · obtain ⟨first, isFirst, own⟩ := loaded.lookup_shared held
          rw [ran]
          refine ⟨⟨fun other => ?_, loaded.fresh⟩, ?_⟩
          · rw [firstUse_append_of_used shared isFirst]
            exact loaded.shared other
          · intro run isRun
            cases isRun
            exact runsFirst first (firstUse_append_of_some isFirst _) own
        · have unused := loaded.firstUse_eq_none absent
          rw [ran]
          refine ⟨loaded.load_shared shared unused own, ?_⟩
          intro run isRun
          cases isRun
          refine runsFirst dispatch ?_ own
          rw [firstUse_append, unused, shared]
          simp

/-- Every run of a sequence is on the worker of the first user of its id. -/
theorem Loaded.runDispatches
    {past : List LoaderDispatch}
    {state : LoaderState}
    (loaded : Loaded past state)
    {dispatches : List LoaderDispatch}
    {dispatch : LoaderDispatch}
    {run : LoaderRun}
    (member : (dispatch, run) ∈ runDispatches state dispatches) :
    dispatch ∈ dispatches ∧
      RunsFirst (past ++ dispatches) dispatch run.code := by
  induction dispatches generalizing past state with
  | nil =>
      cases member
  | cons head rest inductionHypothesis =>
      obtain ⟨nextLoaded, headRuns⟩ := loaded.step head
      have laterRuns :
          (dispatch, run) ∈
              CloudflareParallel.runDispatches
                (runWithMode state head).2 rest →
            dispatch ∈ head :: rest ∧
              RunsFirst (past ++ head :: rest) dispatch run.code := by
        intro isLater
        obtain ⟨inRest, runs⟩ := inductionHypothesis nextLoaded isLater
        rw [List.append_assoc] at runs
        exact ⟨List.mem_cons_of_mem _ inRest, runs⟩
      rw [CloudflareParallel.runDispatches] at member
      split at member
      next headRun next ran =>
        rw [ran] at laterRuns headRuns
        rcases List.mem_cons.mp member with isHead | isLater
        · cases isHead
          have runs := (headRuns _ rfl).append rest
          rw [List.append_assoc] at runs
          exact ⟨List.mem_cons_self, runs⟩
        · exact laterRuns isLater
      next err next ran =>
        rw [ran] at laterRuns
        exact laterRuns member

/-- Every dispatch of a sequence with a shared id is run. -/
theorem exists_run_of_sharedId
    {dispatches : List LoaderDispatch}
    {dispatch : LoaderDispatch}
    {id : SharedId}
    (member : dispatch ∈ dispatches)
    (shared : dispatch.sharedId = some id)
    (state : LoaderState) :
    ∃ run, (dispatch, run) ∈ runDispatches state dispatches := by
  induction dispatches generalizing state with
  | nil =>
      cases member
  | cons head rest inductionHypothesis =>
      rw [runDispatches]
      rcases List.mem_cons.mp member with rfl | inRest
      · rcases runWithMode_cases state dispatch with
          ⟨err, keyed, _⟩ | ⟨_, _, _, _, _, _, _, ⟨_, ran⟩ | ⟨_, _, ran⟩⟩
        · rw [sharedId_of_error keyed] at shared
          cases shared
        · rw [ran]
          exact ⟨_, List.mem_cons_self⟩
        · rw [ran]
          exact ⟨_, List.mem_cons_self⟩
      · obtain ⟨run, isLater⟩ :=
          inductionHypothesis inRest (runWithMode state head).2
        refine ⟨run, ?_⟩
        split
        next ran =>
          rw [ran] at isLater
          exact List.mem_cons_of_mem _ isLater
        next ran =>
          rw [ran] at isLater
          exact isLater

/-- The first user of an id is one of the dispatches, and has that id. -/
theorem mem_of_firstUse
    {history : List LoaderDispatch}
    {id : SharedId}
    {first : LoaderDispatch}
    (isFirst : firstUse history id = some first) :
    first ∈ history ∧ first.sharedId = some id := by
  refine ⟨List.mem_of_find?_eq_some isFirst, ?_⟩
  have holds := List.find?_some isFirst
  simpa using holds

end CloudflareParallel
