import Mathlib.Data.List.Find
import CloudflareParallel.LoaderCancel

namespace CloudflareParallel

/-!
# Which signal a token trips

The worker of an id holds the stream of the first dispatch that used it
(`Loads`), and the reader of a stream is the first execution to enter that
worker (`Listens`).  A firing therefore reaches the signal of its own dispatch
exactly when that dispatch used its id first and entered first.
-/

namespace CancelWorld

/-- The id of an execution. -/
def key (world : CancelWorld) (n : Nat) : Option String :=
  world.executions[n]?.map (·.key)

/-- The first execution that entered a worker with this stream. -/
def firstReader (world : CancelWorld) (source : CancelStream) : Option Nat :=
  world.entries.find? fun n => world.reads n = some source

/-- No execution before this one has its id. -/
def UsesKeyFirst (world : CancelWorld) (n : Nat) : Prop :=
  ∀ m < n, world.key m ≠ world.key n

/-- Of the executions with its id, this one was the first to enter. -/
def EntersFirst (world : CancelWorld) (n : Nat) : Prop :=
  world.entries.find? (fun m => world.key m = world.key n) = some n

/-! ## Workers and ids -/

/-- What the loader holds, seen from the executions. -/
structure Loads (world : CancelWorld) : Prop where
  own :
    ∀ n source, world.ownStream n = some source → source = .source n
  held :
    ∀ execution ∈ world.executions,
      world.loaded.lookup execution.key = some execution.code
  loader :
    ∀ key code,
      world.loaded.lookup key = some code →
      ∃ n,
        world.key n = some key ∧
          world.UsesKeyFirst n ∧
            code.cancelStream = world.ownStream n

/-- An assigned property is found. -/
theorem lookup_assignKey
    (env : LoaderEnv)
    (key : String)
    (value : EnvValue) :
    (assignKey env key value).lookup key = some value := by
  unfold assignKey
  split
  next present =>
    induction env with
    | nil =>
        cases present
    | cons entry rest inductionHypothesis =>
        obtain ⟨name, held⟩ := entry
        by_cases same : name = key
        · simp [same]
        · have later : (rest.any fun entry => entry.1 == key) = true := by
            simpa [same] using present
          have different : (key == name) = false :=
            beq_false_of_ne (Ne.symm same)
          simpa [same, List.lookup_cons, different] using
            inductionHypothesis later
  next absent =>
    have notFound : env.lookup key = none := by
      rw [List.lookup_eq_none_iff]
      intro entry member
      simp only [Bool.not_eq_true, List.any_eq_false, beq_iff_eq] at absent
      exact bne_iff_ne.mpr (Ne.symm (absent entry member))
    simp [List.lookup_append, notFound]

/-- The environment of a worker holds the stream it was loaded with. -/
theorem cancelStream_of_ownCode
    {dispatch : LoaderDispatch}
    {code : WorkerCode}
    (own : dispatch.ownCode = .ok code) :
    code.cancelStream = dispatch.input.cancelStream := by
  have env :
      code.env =
        some
          (loaderEnv
            (sanitizeBindings dispatch.input.bindings
              dispatch.options.allowList)
            dispatch.input.cancelStream) := by
    unfold LoaderDispatch.ownCode buildWorkerCode at own
    simp only [bind, Except.bind] at own
    split at own
    · cases own
    · cases own
      rfl
  unfold WorkerCode.cancelStream
  rw [env, Option.getD_some]
  cases stream : dispatch.input.cancelStream with
  | some source =>
      simp only [loaderEnv, lookup_assignKey]
  | none =>
      -- Without a stream only bindings can be found under the name.
      split
      next found =>
        obtain ⟨first, last, split, _⟩ := List.lookup_eq_some_iff.mp found
        have member : ("cancelStream", EnvValue.cancelStream _) ∈ _ :=
          split ▸ List.mem_append_right first List.mem_cons_self
        obtain ⟨binding, _, shape⟩ := List.mem_map.mp member
        exact nomatch congrArg Prod.snd shape
      next => rfl

/-- What a dispatch that got its worker does to the world. -/
structure Starts
    (world : CancelWorld)
    (execution : Execution)
    (next : CancelWorld) : Prop where
  executions : next.executions = world.executions ++ [execution]
  own :
    execution.dispatch.input.cancelStream = none ∨
      execution.dispatch.input.cancelStream =
        some (.source world.executions.length)
  loader :
    (next.loaded = world.loaded ∧
        world.loaded.lookup execution.key = some execution.code) ∨
      (next.loaded =
          world.loaded ++ [(execution.key, execution.code)] ∧
        world.loaded.lookup execution.key = none ∧
          execution.code.cancelStream =
            execution.dispatch.input.cancelStream)
  streams :
    next.streams =
      Function.update world.streams (.source world.executions.length)
        (if execution.dispatch.input.envelope.signal.cancelled then
          (OneShotStream.cancel {}
            execution.dispatch.input.envelope.signal.reason).1
        else
          {})
  signals : next.signals = world.signals
  entries : next.entries = world.entries

/-- A dispatch whose context can be canonicalized gets a worker. -/
theorem dispatches_cases
    (world : CancelWorld)
    (counter : Nat)
    (dispatch : LoaderDispatch)
    (token : Bool) :
    ((∃ err, dispatch.cacheKeyInput = .error err) ∧
      world.dispatches counter dispatch token = world) ∨
    (∃ keyInput execution,
      dispatch.cacheKeyInput = .ok keyInput ∧
        execution.key = (buildCacheKey counter dispatch.now keyInput).1 ∧
          execution.dispatch =
              dispatch.withStream
                (if token then
                  some (.source world.executions.length)
                else
                  none) ∧
            world.Starts execution
              (world.dispatches counter dispatch token)) := by
  cases keyed : dispatch.cacheKeyInput with
  | error err =>
      left
      refine ⟨⟨err, rfl⟩, ?_⟩
      have keyed' :
          ∀ stream,
            (dispatch.withStream stream).cacheKeyInput = .error err :=
        fun _ => keyed
      simp [dispatches, keyed']
  | ok keyInput =>
      right
      generalize isDispatch :
        dispatch.withStream
            (if token then some (.source world.executions.length) else none) =
          withStream
      have keyed' : withStream.cacheKeyInput = .ok keyInput := by
        rw [← isDispatch]
        exact keyed
      have own :
          withStream.input.cancelStream = none ∨
            withStream.input.cancelStream =
              some (.source world.executions.length) := by
        rw [← isDispatch]
        cases token
        · exact .inl rfl
        · exact .inr rfl
      have sameNow : withStream.now = dispatch.now := by
        rw [← isDispatch]
        rfl
      have isKey := buildCacheKey_eq_key counter dispatch.now keyInput
      rcases runWithMode_cases
          { counter := counter, loaded := world.loaded } withStream with
        ⟨err, failed, _⟩ | ⟨input, key, _, code, found, keyIs, _, outcome⟩
      · rw [keyed'] at failed
        cases failed
      · rw [keyed'] at found
        cases found
        rw [sameNow, ← isKey] at keyIs
        subst keyIs
        refine ⟨keyInput, ⟨_, withStream, code⟩, rfl, rfl, rfl, ?_⟩
        rcases outcome with ⟨held, ran⟩ | ⟨absent, filled, ran⟩
        · refine
            { executions := ?_
              own := own
              loader := .inl ⟨?_, held⟩
              streams := ?_
              signals := ?_
              entries := ?_ }
          all_goals simp [dispatches, isDispatch, keyed', ran, sameNow]
        · refine
            { executions := ?_
              own := own
              loader :=
                .inr ⟨?_, absent, cancelStream_of_ownCode filled⟩
              streams := ?_
              signals := ?_
              entries := ?_ }
          all_goals simp [dispatches, isDispatch, keyed', ran, sameNow]

section Starts

variable {world next : CancelWorld}
variable {execution : Execution}

/-- The executions before a dispatch stay where they are. -/
theorem Starts.executions_of_lt
    (starts : world.Starts execution next)
    {n : Nat}
    (inside : n < world.executions.length) :
    next.executions[n]? = world.executions[n]? := by
  rw [starts.executions, List.getElem?_append_left inside]

/-- The new execution is the last. -/
theorem Starts.executions_last
    (starts : world.Starts execution next) :
    next.executions[world.executions.length]? = some execution := by
  rw [starts.executions]
  simp

/-- An execution of the next world is an earlier one or the last. -/
theorem Starts.executions_cases
    (starts : world.Starts execution next)
    {n : Nat}
    {other : Execution}
    (found : next.executions[n]? = some other) :
    world.executions[n]? = some other ∨
      (n = world.executions.length ∧ other = execution) := by
  obtain ⟨inside, -⟩ := List.getElem?_eq_some_iff.mp found
  rw [starts.executions, List.length_append, List.length_singleton] at inside
  rcases Nat.lt_succ_iff_lt_or_eq.mp inside with earlier | rfl
  · rw [starts.executions_of_lt earlier] at found
    exact .inl found
  · rw [starts.executions_last] at found
    cases found
    exact .inr ⟨rfl, rfl⟩

/-- The earlier ids are kept. -/
theorem Starts.key_of_lt
    (starts : world.Starts execution next)
    {n : Nat}
    (inside : n < world.executions.length) :
    next.key n = world.key n := by
  rw [key, starts.executions_of_lt inside, key]

/-- The id of the new execution. -/
theorem Starts.key_last
    (starts : world.Starts execution next) :
    next.key world.executions.length = some execution.key := by
  rw [key, starts.executions_last]
  rfl

/-- The earlier token streams are kept. -/
theorem Starts.ownStream_of_lt
    (starts : world.Starts execution next)
    {n : Nat}
    (inside : n < world.executions.length) :
    next.ownStream n = world.ownStream n := by
  rw [ownStream, starts.executions_of_lt inside, ownStream]

/-- The streams read by earlier executions are kept. -/
theorem Starts.reads_of_lt
    (starts : world.Starts execution next)
    {n : Nat}
    (inside : n < world.executions.length) :
    next.reads n = world.reads n := by
  rw [reads, starts.executions_of_lt inside, reads]

end Starts

/-- An id belongs to an execution. -/
theorem exists_of_key
    {world : CancelWorld}
    {n : Nat}
    {key : String}
    (isKey : world.key n = some key) :
    n < world.executions.length ∧
      ∃ execution ∈ world.executions, execution.key = key := by
  obtain ⟨execution, found, same⟩ := Option.map_eq_some_iff.mp isKey
  obtain ⟨inside, -⟩ := List.getElem?_eq_some_iff.mp found
  exact ⟨inside, execution, List.mem_of_getElem? found, same⟩

/-- A dispatch keeps what the loader holds. -/
theorem Loads.start
    {world next : CancelWorld}
    {execution : Execution}
    (loads : world.Loads)
    (starts : world.Starts execution next) :
    next.Loads where
  own n source isOwn := by
    obtain ⟨other, found, stream⟩ := Option.bind_eq_some_iff.mp isOwn
    rcases starts.executions_cases found with earlier | ⟨rfl, rfl⟩
    · apply loads.own n source
      rw [ownStream, earlier]
      exact stream
    · rcases starts.own with none | some
      · rw [none] at stream
        cases stream
      · rw [some] at stream
        exact (Option.some.inj stream).symm
  held other member := by
    rw [starts.executions, List.mem_append, List.mem_singleton] at member
    rcases starts.loader with ⟨same, held⟩ | ⟨grown, absent, _⟩
    · rw [same]
      rcases member with earlier | rfl
      · exact loads.held other earlier
      · exact held
    · rw [grown]
      rcases member with earlier | rfl
      · have held := loads.held other earlier
        simp [List.lookup_append, held]
      · exact lookup_append_self _ absent
  loader key code found := by
    have keepFirst :
        (∃ n,
          world.key n = some key ∧
            world.UsesKeyFirst n ∧
              code.cancelStream = world.ownStream n) →
        ∃ n,
          next.key n = some key ∧
            next.UsesKeyFirst n ∧
              code.cancelStream = next.ownStream n := by
      rintro ⟨n, isKey, first, stream⟩
      obtain ⟨inside, -⟩ := exists_of_key isKey
      refine ⟨n, ?_, fun m before => ?_, ?_⟩
      · rw [starts.key_of_lt inside]
        exact isKey
      · rw [starts.key_of_lt inside, starts.key_of_lt (before.trans inside)]
        exact first m before
      · rw [starts.ownStream_of_lt inside]
        exact stream
    rcases starts.loader with ⟨same, _⟩ | ⟨grown, absent, filled⟩
    · rw [same] at found
      exact keepFirst (loads.loader key code found)
    · rw [grown] at found
      by_cases sameKey : key = execution.key
      · subst sameKey
        rw [lookup_append_self _ absent] at found
        cases found
        refine ⟨world.executions.length, ?_, fun m before => ?_, ?_⟩
        · exact starts.key_last
        · -- An earlier execution with the id would have been held.
          intro sameKey
          rw [starts.key_of_lt before, starts.key_last] at sameKey
          obtain ⟨_, other, member, isKey⟩ := exists_of_key sameKey
          have held := loads.held other member
          rw [isKey, absent] at held
          cases held
        · rw [filled, ownStream, starts.executions_last]
          rfl
      · rw [lookup_append_of_ne sameKey] at found
        exact keepFirst (loads.loader key code found)

/-- An execution reads the stream of the first execution with its id. -/
theorem Loads.reads_eq
    {world : CancelWorld}
    (loads : world.Loads)
    {n : Nat}
    (inside : n < world.executions.length) :
    ∃ m,
      world.key m = world.key n ∧
        world.UsesKeyFirst m ∧ world.reads n = world.ownStream m := by
  have found := List.getElem?_eq_getElem inside
  obtain ⟨m, isKey, first, stream⟩ :=
    loads.loader _ _ (loads.held _ (List.getElem_mem inside))
  refine ⟨m, ?_, first, ?_⟩
  · rw [isKey, key, found]
    rfl
  · rw [← stream, reads, found]
    rfl

/-- Only executions have streams to be read. -/
theorem lt_of_reads
    {world : CancelWorld}
    {n : Nat}
    {source : CancelStream}
    (reading : world.reads n = some source) :
    n < world.executions.length := by
  obtain ⟨_, found, _⟩ := Option.bind_eq_some_iff.mp reading
  exact (List.getElem?_eq_some_iff.mp found).1

/-- Two first users of one id are the same. -/
theorem UsesKeyFirst.unique
    {world : CancelWorld}
    {n m : Nat}
    (first : world.UsesKeyFirst n)
    (second : world.UsesKeyFirst m)
    (same : world.key n = world.key m) :
    n = m := by
  rcases Nat.lt_trichotomy n m with before | equal | behind
  · exact absurd same (second n before)
  · exact equal
  · exact absurd same.symm (first m behind)

/--
The stream of a token is read by the executions with its id, if its dispatch
used the id first, and else by nobody.
-/
theorem Loads.reads_own_iff
    {world : CancelWorld}
    (loads : world.Loads)
    {n m : Nat}
    {source : CancelStream}
    (own : world.ownStream n = some source)
    (inside : m < world.executions.length) :
    world.reads m = some source ↔
      world.UsesKeyFirst n ∧ world.key m = world.key n := by
  obtain ⟨user, sameKey, first, reading⟩ := loads.reads_eq inside
  rw [reading]
  constructor
  · intro ofUser
    have same : user = n := by
      have bySource :=
        (loads.own user source ofUser).symm.trans (loads.own n source own)
      exact CancelStream.source.inj bySource
    subst same
    exact ⟨first, sameKey.symm⟩
  · rintro ⟨ownFirst, same⟩
    rw [first.unique ownFirst (sameKey.trans same)]
    exact own

/-! ## Streams and their readers -/

/-- Who listens to which stream, and what the signals were tripped by. -/
structure Listens (world : CancelWorld) : Prop where
  entered : ∀ n ∈ world.entries, n < world.executions.length
  openStream :
    ∀ source,
      (world.streams source).settled = false →
      (world.streams source).reader = world.firstReader source ∧
        (world.streams source).chunk = none
  settledStream :
    ∀ source,
      (world.streams source).settled = true →
      (world.streams source).reader = none ∧
        ((world.streams source).chunk ≠ none →
          world.firstReader source = none)
  snapshot :
    ∀ n execution source,
      world.executions[n]? = some execution →
      execution.dispatch.input.envelope.signal.cancelled = true →
      world.ownStream n = some source →
      (world.streams source).settled = true
  envelopes :
    ∀ n reason,
      world.signals n = some (.envelope reason) →
      ∃ execution,
        world.executions[n]? = some execution ∧
          execution.dispatch.input.envelope.signal.cancelled = true
  tripped :
    ∀ n source reason,
      world.signals n = some (.stream source reason) →
      (world.streams source).settled = true ∧
        world.firstReader source = some n

/-- A signal that an own live token has not tripped is not tripped at all. -/
theorem Listens.signal_ne_of_live
    {world : CancelWorld}
    (listens : world.Listens)
    {n : Nat}
    {source : CancelStream}
    (own : world.ownStream n = some source)
    (unsettled : (world.streams source).settled = false) :
    ∀ reason,
      world.signals n ≠ some (.envelope reason) ∧
        world.signals n ≠ some (.stream source reason) := by
  intro reason
  constructor
  · intro byEnvelope
    obtain ⟨execution, found, cancelled⟩ := listens.envelopes n reason byEnvelope
    have settled := listens.snapshot n execution source found cancelled own
    rw [unsettled] at settled
    cases settled
  · intro byStream
    have settled := (listens.tripped n source reason byStream).1
    rw [unsettled] at settled
    cases settled

/-- A stream may be replaced by one that fits its readers. -/
theorem Listens.setStream
    {world : CancelWorld}
    (listens : world.Listens)
    {source : CancelStream}
    {stream : OneShotStream}
    (staysSettled :
      (world.streams source).settled = true → stream.settled = true)
    (whenOpen :
      stream.settled = false →
      stream.reader = world.firstReader source ∧ stream.chunk = none)
    (whenSettled :
      stream.settled = true →
      stream.reader = none ∧
        (stream.chunk ≠ none → world.firstReader source = none)) :
    (world.setStream source stream).Listens where
  entered := listens.entered
  openStream other isOpen := by
    by_cases same : other = source
    · subst same
      simp only [CancelWorld.setStream, Function.update_self] at isOpen ⊢
      exact whenOpen isOpen
    · simp only [CancelWorld.setStream, Function.update_of_ne same] at isOpen ⊢
      exact listens.openStream other isOpen
  settledStream other isSettled := by
    by_cases same : other = source
    · subst same
      simp only [CancelWorld.setStream, Function.update_self] at isSettled ⊢
      exact whenSettled isSettled
    · simp only [CancelWorld.setStream, Function.update_of_ne same]
        at isSettled ⊢
      exact listens.settledStream other isSettled
  snapshot n execution other found cancelled own := by
    have settled := listens.snapshot n execution other found cancelled own
    by_cases same : other = source
    · subst same
      simp only [CancelWorld.setStream, Function.update_self]
      exact staysSettled settled
    · simp only [CancelWorld.setStream, Function.update_of_ne same]
      exact settled
  envelopes := listens.envelopes
  tripped n other reason byStream := by
    obtain ⟨settled, first⟩ := listens.tripped n other reason byStream
    refine ⟨?_, first⟩
    by_cases same : other = source
    · subst same
      simp only [CancelWorld.setStream, Function.update_self]
      exact staysSettled settled
    · simp only [CancelWorld.setStream, Function.update_of_ne same]
      exact settled

/-- A settled stream may trip the signal of its first reader. -/
theorem Listens.trip
    {world : CancelWorld}
    (listens : world.Listens)
    {n : Nat}
    {source : CancelStream}
    (settled : (world.streams source).settled = true)
    (first : world.firstReader source = some n)
    (reason : String) :
    (world.trip n (.stream source reason)).Listens where
  entered := listens.entered
  openStream := listens.openStream
  settledStream := listens.settledStream
  snapshot := listens.snapshot
  envelopes m text byEnvelope := by
    apply listens.envelopes m text
    by_cases same : m = n
    · subst same
      simp only [CancelWorld.trip, Function.update_self] at byEnvelope
      cases before : world.signals m with
      | none =>
          rw [before] at byEnvelope
          cases byEnvelope
      | some earlier =>
          rw [before] at byEnvelope
          exact byEnvelope
    · simpa [CancelWorld.trip, Function.update_of_ne same] using byEnvelope
  tripped m other text byStream := by
    by_cases same : m = n
    · subst same
      simp only [CancelWorld.trip, Function.update_self] at byStream
      cases before : world.signals m with
      | none =>
          rw [before] at byStream
          cases byStream
          exact ⟨settled, first⟩
      | some earlier =>
          rw [before] at byStream
          exact listens.tripped m other text (before.trans byStream)
    · simp only [CancelWorld.trip, Function.update_of_ne same] at byStream
      exact listens.tripped m other text byStream

/-- A dispatch keeps the readers. -/
theorem Listens.firstReader_of_starts
    {world next : CancelWorld}
    {execution : Execution}
    (listens : world.Listens)
    (starts : world.Starts execution next)
    (source : CancelStream) :
    next.firstReader source = world.firstReader source := by
  unfold firstReader
  rw [starts.entries]
  apply List.find?_congr
  intro n member
  rw [starts.reads_of_lt (listens.entered n member)]

/-- Nobody reads the stream of a dispatch to come. -/
theorem Loads.firstReader_new
    {world : CancelWorld}
    (loads : world.Loads) :
    world.firstReader (.source world.executions.length) = none := by
  apply List.find?_eq_none.mpr
  intro n _ reading
  have reads := of_decide_eq_true reading
  obtain ⟨m, _, _, ofUser⟩ := loads.reads_eq (lt_of_reads reads)
  rw [reads] at ofUser
  have sameIndex :=
    CancelStream.source.inj (loads.own m _ ofUser.symm)
  obtain ⟨_, found, _⟩ := Option.bind_eq_some_iff.mp ofUser.symm
  exact absurd (List.getElem?_eq_some_iff.mp found).1
    (by rw [sameIndex]; exact Nat.lt_irrefl m)

/-- A dispatch keeps who listens to what. -/
theorem Listens.start
    {world next : CancelWorld}
    {execution : Execution}
    (listens : world.Listens)
    (loads : world.Loads)
    (starts : world.Starts execution next) :
    next.Listens := by
  have keepsReader := listens.firstReader_of_starts starts
  have others :
      ∀ source,
        source ≠ .source world.executions.length →
        next.streams source = world.streams source := by
    intro source different
    rw [starts.streams, Function.update_of_ne different]
  have new := congrFun starts.streams (.source world.executions.length)
  rw [Function.update_self] at new
  refine
    { entered := fun n member => ?_
      openStream := fun source isOpen => ?_
      settledStream := fun source settled => ?_
      snapshot := fun n other source found cancelled own => ?_
      envelopes := fun n reason byEnvelope => ?_
      tripped := fun n source reason byStream => ?_ }
  · rw [starts.executions, List.length_append]
    rw [starts.entries] at member
    exact Nat.lt_add_right _ (listens.entered n member)
  · rw [keepsReader]
    by_cases same : source = .source world.executions.length
    · subst same
      rw [new] at isOpen ⊢
      rw [loads.firstReader_new]
      split at isOpen
      · simp at isOpen
      next live =>
        rw [if_neg live]
        exact ⟨rfl, rfl⟩
    · rw [others source same] at isOpen ⊢
      exact listens.openStream source isOpen
  · rw [keepsReader]
    by_cases same : source = .source world.executions.length
    · subst same
      rw [new] at settled ⊢
      refine ⟨?_, fun _ => loads.firstReader_new⟩
      split <;> rfl
    · rw [others source same] at settled ⊢
      exact listens.settledStream source settled
  · rcases starts.executions_cases found with earlier | ⟨rfl, rfl⟩
    · have inside := (List.getElem?_eq_some_iff.mp earlier).1
      rw [starts.ownStream_of_lt inside] at own
      have different : source ≠ .source world.executions.length := by
        rw [loads.own n source own]
        intro same
        exact Nat.ne_of_lt inside (CancelStream.source.inj same)
      rw [others source different]
      exact listens.snapshot n other source earlier cancelled own
    · rw [(loads.start starts).own _ source own, new, if_pos cancelled]
      simp
  · rw [starts.signals] at byEnvelope
    obtain ⟨other, found, cancelled⟩ := listens.envelopes n reason byEnvelope
    refine ⟨other, ?_, cancelled⟩
    rw [starts.executions_of_lt (List.getElem?_eq_some_iff.mp found).1]
    exact found
  · rw [starts.signals] at byStream
    obtain ⟨settled, first⟩ := listens.tripped n source reason byStream
    have different : source ≠ .source world.executions.length := by
      rintro rfl
      rw [loads.firstReader_new] at first
      cases first
    rw [others source different, keepsReader]
    exact ⟨settled, first⟩

/-- A firing keeps who listens to what. -/
theorem Listens.fire
    {world : CancelWorld}
    (listens : world.Listens)
    (n : Nat)
    (reason : Option String) :
    (world.fires n reason).Listens := by
  unfold fires
  split
  · exact listens
  next source own =>
    cases settled : (world.streams source).settled with
    | true =>
        have unchanged :
            (world.streams source).cancel reason =
              (world.streams source, none) := by
          rw [OneShotStream.cancel, if_pos settled]
        simp only [unchanged]
        exact listens.setStream id (listens.openStream source)
          (listens.settledStream source)
    | false =>
        obtain ⟨isReader, noChunk⟩ := listens.openStream source settled
        cases reader : world.firstReader source with
        | none =>
            have queued :
                (world.streams source).cancel reason =
                  ({ world.streams source with
                      settled := true, chunk := some (chunkText reason) },
                    none) := by
              simp [OneShotStream.cancel, settled, isReader, reader]
            simp only [queued]
            exact listens.setStream (fun _ => rfl) nofun
              fun _ => ⟨isReader.trans reader, fun _ => reader⟩
        | some first =>
            have delivered :
                (world.streams source).cancel reason =
                  ({ world.streams source with
                      settled := true, reader := none },
                    some (first, decodeChunk (chunkText reason))) := by
              simp [OneShotStream.cancel, settled, isReader, reader]
            have read :
                (world.setStream source
                  { world.streams source with
                    settled := true, reader := none }).Listens :=
              listens.setStream (fun _ => rfl) nofun fun _ =>
                ⟨rfl, fun queued => absurd noChunk queued⟩
            simp only [delivered]
            apply read.trip _ reader
            simp [CancelWorld.setStream]

/-- Closing a writer keeps who listens to what. -/
theorem Listens.close
    {world : CancelWorld}
    (listens : world.Listens)
    (source : CancelStream) :
    (world.setStream source (world.streams source).close).Listens := by
  cases settled : (world.streams source).settled with
  | true =>
      have unchanged :
          (world.streams source).close = world.streams source := by
        rw [OneShotStream.close, if_pos settled]
      rw [unchanged]
      exact listens.setStream id (listens.openStream source)
        (listens.settledStream source)
  | false =>
      obtain ⟨_, noChunk⟩ := listens.openStream source settled
      have closed :
          (world.streams source).close =
            { world.streams source with settled := true, reader := none } := by
        simp [OneShotStream.close, settled]
      rw [closed]
      exact listens.setStream (fun _ => rfl) nofun fun _ =>
        ⟨rfl, fun queued => absurd noChunk queued⟩

/-- The call of an execution has entered, and its signal is the envelope's. -/
def enter
    (world : CancelWorld)
    (n : Nat)
    (execution : Execution) : CancelWorld :=
  { world with
    entries := world.entries ++ [n]
    signals := Function.update world.signals n execution.envelopeTrip }

/-- The first readers after an entry. -/
theorem firstReader_enter
    (world : CancelWorld)
    (n : Nat)
    (execution : Execution)
    (source : CancelStream) :
    (world.enter n execution).firstReader source =
      (world.firstReader source).or
        (if world.reads n = some source then some n else none) := by
  have entries : (world.enter n execution).entries = world.entries ++ [n] := rfl
  have reads : (world.enter n execution).reads = world.reads := rfl
  rw [firstReader, entries, reads, List.find?_append, List.find?_singleton]
  simp only [decide_eq_true_eq, firstReader]

/--
An entry keeps who listens to what, if the stream it reads is replaced by one
that fits the first reader it has then.
-/
theorem Listens.enter
    {world : CancelWorld}
    (listens : world.Listens)
    {n : Nat}
    {execution : Execution}
    (found : world.executions[n]? = some execution)
    (new : n ∉ world.entries)
    {streams : CancelStream → OneShotStream}
    (others :
      ∀ source,
        world.reads n ≠ some source → streams source = world.streams source)
    (staysSettled :
      ∀ source, (streams source).settled = (world.streams source).settled)
    (whenOpen :
      ∀ source,
        world.reads n = some source →
        (streams source).settled = false →
        (streams source).reader = (world.firstReader source).or (some n) ∧
          (streams source).chunk = none)
    (whenSettled :
      ∀ source,
        world.reads n = some source →
        (streams source).settled = true →
        (streams source).reader = none ∧ (streams source).chunk = none) :
    ({ world.enter n execution with streams := streams }).Listens := by
  have reader :
      ∀ source,
        ({ world.enter n execution with streams := streams }).firstReader
            source =
          (world.firstReader source).or
            (if world.reads n = some source then some n else none) :=
    fun source => world.firstReader_enter n execution source
  have neverFirst : ∀ source, world.firstReader source ≠ some n :=
    fun source first => new (List.mem_of_find?_eq_some first)
  refine
    { entered := fun m member => ?_
      openStream := fun source isOpen => ?_
      settledStream := fun source settled => ?_
      snapshot := fun m other source isOther cancelled own => ?_
      envelopes := fun m reason byEnvelope => ?_
      tripped := fun m source reason byStream => ?_ }
  · rcases List.mem_append.mp member with earlier | last
    · exact listens.entered m earlier
    · rw [List.mem_singleton.mp last]
      exact (List.getElem?_eq_some_iff.mp found).1
  · rw [reader]
    by_cases reading : world.reads n = some source
    · rw [if_pos reading]
      exact whenOpen source reading isOpen
    · rw [if_neg reading, Option.or_none]
      simp only [others source reading] at isOpen ⊢
      exact listens.openStream source isOpen
  · rw [reader]
    by_cases reading : world.reads n = some source
    · obtain ⟨unlocked, noChunk⟩ := whenSettled source reading settled
      exact ⟨unlocked, fun queued => absurd noChunk queued⟩
    · rw [if_neg reading, Option.or_none]
      simp only [others source reading] at settled ⊢
      exact listens.settledStream source settled
  · rw [staysSettled]
    exact listens.snapshot m other source isOther cancelled own
  · by_cases same : m = n
    · subst same
      simp only [CancelWorld.enter, Function.update_self,
        Execution.envelopeTrip] at byEnvelope
      split at byEnvelope
      next cancelled => exact ⟨execution, found, cancelled⟩
      · cases byEnvelope
    · simp only [CancelWorld.enter, Function.update_of_ne same] at byEnvelope
      exact listens.envelopes m reason byEnvelope
  · by_cases same : m = n
    · subst same
      simp only [CancelWorld.enter, Function.update_self,
        Execution.envelopeTrip] at byStream
      split at byStream <;> cases byStream
    · simp only [CancelWorld.enter, Function.update_of_ne same] at byStream
      obtain ⟨settled, first⟩ := listens.tripped m source reason byStream
      rw [staysSettled, reader, first]
      exact ⟨settled, rfl⟩

/-- Entering keeps who listens to what. -/
theorem Listens.enters
    {world : CancelWorld}
    (listens : world.Listens)
    (n : Nat) :
    (world.enters n).Listens := by
  unfold CancelWorld.enters
  split
  · exact listens
  next execution found =>
    split
    · exact listens
    next new =>
      have reading : world.reads n = execution.code.cancelStream := by
        rw [reads, found]
        rfl
      split
      next noStream =>
        apply listens.enter found new (fun _ _ => rfl) (fun _ => rfl)
        · intro source isSource
          rw [reading, noStream] at isSource
          cases isSource
        · intro source isSource
          rw [reading, noStream] at isSource
          cases isSource
      next source isSource =>
        rw [isSource] at reading
        have others :
            ∀ stream other,
              world.reads n ≠ some other →
              Function.update world.streams source stream other =
                world.streams other := by
          intro stream other notRead
          apply Function.update_of_ne
          rintro rfl
          exact notRead reading
        cases settled : (world.streams source).settled with
        | false =>
            obtain ⟨isReader, noChunk⟩ := listens.openStream source settled
            rw [OneShotStream.read_of_open settled noChunk]
            refine listens.enter found new (others _) (fun other => ?_)
              (fun other isOther _ => ?_) (fun other isOther closed => ?_)
            · by_cases same : other = source
              · subst same
                rw [Function.update_self]
              · rw [Function.update_of_ne same]
            · rw [reading] at isOther
              cases isOther
              rw [Function.update_self, isReader]
              exact ⟨rfl, noChunk⟩
            · rw [reading] at isOther
              cases isOther
              rw [Function.update_self] at closed
              exact absurd (settled.symm.trans closed) nofun
        | true =>
            obtain ⟨unlocked, queued⟩ := listens.settledStream source settled
            rw [OneShotStream.read_of_settled settled unlocked]
            have read :
                ({ world.enter n execution with
                  streams :=
                    Function.update world.streams source
                      { world.streams source with
                        chunk := none } }).Listens := by
              refine listens.enter found new (others _) (fun other => ?_)
                (fun other isOther isOpen => ?_) (fun other isOther _ => ?_)
              · by_cases same : other = source
                · subst same
                  rw [Function.update_self]
                · rw [Function.update_of_ne same]
              · rw [reading] at isOther
                cases isOther
                rw [Function.update_self] at isOpen
                exact absurd (settled.symm.trans isOpen) nofun
              · rw [reading] at isOther
                cases isOther
                rw [Function.update_self]
                exact ⟨unlocked, rfl⟩
            cases chunk : (world.streams source).chunk with
            | none =>
                exact read
            | some text =>
                have noReader := queued (by rw [chunk]; nofun)
                apply read.trip
                · simp [settled]
                · refine (world.firstReader_enter n execution source).trans ?_
                  rw [noReader, if_pos reading]
                  rfl

end CancelWorld

end CloudflareParallel
