import CloudflareParallel.LoaderCancelLaw

namespace CloudflareParallel

/-!
# When live cancel works

Over every history, a token that fires while its dispatch runs trips exactly
its own signal, if the dispatch was the first to use its id and the first to
enter its worker; a reused worker never hears of it.
-/

namespace CancelWorld

/-! ## Every history is wired -/

/-- The workers and the streams of a world are as its executions say. -/
structure Wired (world : CancelWorld) : Prop where
  loads : world.Loads
  listens : world.Listens

/-- Nothing was dispatched yet. -/
theorem wired_nil : ({} : CancelWorld).Wired where
  loads := {
    own := fun _ _ own => nomatch own
    held := fun _ member => nomatch member
    loader := fun _ _ found => nomatch found
  }
  listens := {
    entered := fun _ member => nomatch member
    openStream := fun _ _ => ⟨rfl, rfl⟩
    settledStream := fun _ settled => nomatch settled
    snapshot := fun _ _ _ found => nomatch found
    envelopes := fun _ _ byEnvelope => nomatch byEnvelope
    tripped := fun _ _ _ byStream => nomatch byStream
  }

/-- What the loader holds does not depend on the rest of the world. -/
theorem Loads.congr
    {world next : CancelWorld}
    (loads : world.Loads)
    (loaded : next.loaded = world.loaded)
    (executions : next.executions = world.executions) :
    next.Loads := by
  obtain ⟨_, _, _, _, _, _⟩ := world
  obtain ⟨_, _, _, _, _, _⟩ := next
  cases loaded
  cases executions
  exact ⟨loads.own, loads.held, loads.loader⟩

/-- Entering changes no worker. -/
theorem executions_enters
    (world : CancelWorld)
    (n : Nat) :
    (world.enters n).executions = world.executions ∧
      (world.enters n).loaded = world.loaded := by
  unfold enters
  split
  · exact ⟨rfl, rfl⟩
  · split
    · exact ⟨rfl, rfl⟩
    · dsimp only
      split
      · exact ⟨rfl, rfl⟩
      · split <;> exact ⟨rfl, rfl⟩

/-- Firing changes no worker and no entry. -/
theorem executions_fires
    (world : CancelWorld)
    (n : Nat)
    (reason : Option String) :
    (world.fires n reason).executions = world.executions ∧
      (world.fires n reason).loaded = world.loaded ∧
        (world.fires n reason).entries = world.entries := by
  unfold fires
  split
  · exact ⟨rfl, rfl, rfl⟩
  · split <;> exact ⟨rfl, rfl, rfl⟩

/-- Every event keeps the world wired. -/
theorem Wired.step
    {world : CancelWorld}
    (wired : world.Wired)
    (event : CancelEvent) :
    (world.step event).Wired := by
  obtain ⟨loads, listens⟩ := wired
  cases event with
  | dispatches counter dispatch token =>
      rcases world.dispatches_cases counter dispatch token with
        ⟨_, unchanged⟩ | ⟨_, _, _, _, _, starts⟩
      · rw [CancelWorld.step, unchanged]
        exact ⟨loads, listens⟩
      · exact ⟨loads.start starts, listens.start loads starts⟩
  | enters n =>
      obtain ⟨executions, loaded⟩ := world.executions_enters n
      exact ⟨loads.congr loaded executions, listens.enters n⟩
  | fires n reason =>
      obtain ⟨executions, loaded, _⟩ := world.executions_fires n reason
      exact ⟨loads.congr loaded executions, listens.fire n reason⟩
  | returns n =>
      simp only [CancelWorld.step]
      split
      · exact ⟨loads.congr rfl rfl,
          ⟨listens.entered, listens.openStream, listens.settledStream,
            listens.snapshot, listens.envelopes, listens.tripped⟩⟩
      · exact ⟨loads, listens⟩
  | closes n =>
      simp only [CancelWorld.step]
      split
      · exact ⟨loads, listens⟩
      · exact ⟨loads.congr rfl rfl, listens.close _⟩

/-- The world goes on from where an earlier part of the history left it. -/
theorem after_append
    (past later : List CancelEvent) :
    after (past ++ later) = later.foldl step (after past) := by
  rw [after, List.foldl_append, after]

/-- Every history leaves the world wired. -/
theorem wired_after
    (history : List CancelEvent) :
    (after history).Wired := by
  induction history using List.reverseRecOn with
  | nil =>
      exact wired_nil
  | append_singleton past event inductionHypothesis =>
      rw [after_append]
      exact inductionHypothesis.step event

/-! ## First readers -/

/-- The first reader of a stream stays its first reader. -/
theorem Wired.firstReader_step
    {world : CancelWorld}
    (wired : world.Wired)
    {source : CancelStream}
    {n : Nat}
    (first : world.firstReader source = some n)
    (event : CancelEvent) :
    (world.step event).firstReader source = some n := by
  cases event with
  | dispatches counter dispatch token =>
      rcases world.dispatches_cases counter dispatch token with
        ⟨_, unchanged⟩ | ⟨_, _, _, _, _, starts⟩
      · rw [CancelWorld.step, unchanged]
        exact first
      · exact (wired.listens.firstReader_of_starts starts source).trans first
  | enters m =>
      have grows :
          ∀ execution,
            (world.enter m execution).firstReader source = some n := by
        intro execution
        rw [firstReader_enter, first]
        rfl
      simp only [CancelWorld.step, enters]
      split
      · exact first
      next execution _ =>
        split
        · exact first
        · split
          · exact grows execution
          · split <;> exact grows execution
  | fires m reason =>
      obtain ⟨executions, _, entries⟩ := world.executions_fires m reason
      rw [← first, CancelWorld.step, firstReader, entries, firstReader]
      unfold reads
      rw [executions]
  | returns m =>
      simp only [CancelWorld.step]
      split <;> exact first
  | closes m =>
      simp only [CancelWorld.step]
      split <;> exact first

/-- The first reader of a stream stays its first reader in a longer history. -/
theorem firstReader_after
    {past : List CancelEvent}
    {source : CancelStream}
    {n : Nat}
    (first : (after past).firstReader source = some n)
    (later : List CancelEvent) :
    (after (past ++ later)).firstReader source = some n := by
  induction later using List.reverseRecOn with
  | nil =>
      rw [List.append_nil]
      exact first
  | append_singleton later event inductionHypothesis =>
      rw [← List.append_assoc, after_append]
      exact (wired_after _).firstReader_step inductionHypothesis event

/-- The first reader of a stream reads it. -/
theorem reads_of_firstReader
    {world : CancelWorld}
    {source : CancelStream}
    {n : Nat}
    (first : world.firstReader source = some n) :
    world.reads n = some source := by
  have reading := List.find?_some first
  exact of_decide_eq_true reading

/--
An execution is the first reader of its own stream, if it used its id first
and entered first.
-/
theorem Wired.firstReader_own_iff
    {world : CancelWorld}
    (wired : world.Wired)
    {n : Nat}
    {source : CancelStream}
    (own : world.ownStream n = some source) :
    world.firstReader source = some n ↔
      world.UsesKeyFirst n ∧ world.EntersFirst n := by
  have sameReaders :
      world.UsesKeyFirst n →
      world.firstReader source =
        world.entries.find? fun m => world.key m = world.key n := by
    intro usesFirst
    apply List.find?_congr
    intro m member
    have inside := wired.listens.entered m member
    rw [decide_eq_decide, wired.loads.reads_own_iff own inside]
    exact and_iff_right usesFirst
  constructor
  · intro first
    have reading := reads_of_firstReader first
    have usesFirst :=
      ((wired.loads.reads_own_iff own (lt_of_reads reading)).mp reading).1
    exact ⟨usesFirst, (sameReaders usesFirst).symm.trans first⟩
  · rintro ⟨usesFirst, entersFirst⟩
    exact (sameReaders usesFirst).trans entersFirst

/-! ## Firings -/

/-- What a live firing does to the signal of its own dispatch. -/
theorem Wired.signal_fires_iff
    {world : CancelWorld}
    (wired : world.Wired)
    {n : Nat}
    {source : CancelStream}
    (own : world.ownStream n = some source)
    (unsettled : (world.streams source).settled = false)
    (reason : Option String) :
    (world.fires n reason).signals n =
        some (.stream source (chunkText reason)) ↔
      world.firstReader source = some n ∧
        decodeChunk (chunkText reason) = chunkText reason := by
  have untouched := wired.listens.signal_ne_of_live own unsettled
  obtain ⟨isReader, noChunk⟩ := wired.listens.openStream source unsettled
  cases first : world.firstReader source with
  | none =>
      have queued : (world.fires n reason).signals = world.signals := by
        simp [fires, own, OneShotStream.cancel, unsettled, isReader, first,
          setStream]
      rw [queued]
      constructor
      · intro tripped
        exact absurd tripped (untouched _).2
      · rintro ⟨nobody, _⟩
        cases nobody
  | some reader =>
      have delivered :
          (world.fires n reason).signals =
            Function.update world.signals reader
              ((world.signals reader).or
                (some (.stream source (decodeChunk (chunkText reason))))) := by
        simp [fires, own, OneShotStream.cancel, unsettled, isReader, first,
          setStream, trip]
      rw [delivered]
      by_cases same : reader = n
      · subst same
        have silent : world.signals reader = none := by
          cases signal : world.signals reader with
          | none => rfl
          | some tripped =>
              cases tripped with
              | envelope text => exact absurd signal (untouched text).1
              | stream other text =>
                  -- The execution reads one stream, which is its own.
                  have reading :=
                    reads_of_firstReader
                      (wired.listens.tripped reader other text signal).2
                  rw [reads_of_firstReader first] at reading
                  cases reading
                  exact absurd signal (untouched text).2
        rw [Function.update_self, silent]
        simp
      · rw [Function.update_of_ne (Ne.symm same)]
        refine ⟨fun tripped => absurd tripped (untouched _).2, ?_⟩
        rintro ⟨isFirst, _⟩
        exact absurd (Option.some.inj isFirst) same

/-- A live dispatch has the stream of its own index. -/
theorem Wired.live_iff
    {world : CancelWorld}
    (wired : world.Wired)
    {n : Nat} :
    world.Live n ↔
      world.ownStream n = some (.source n) ∧
        (world.streams (.source n)).settled = false := by
  constructor
  · rintro ⟨source, own, unsettled⟩
    cases wired.loads.own n source own
    exact ⟨own, unsettled⟩
  · rintro ⟨own, unsettled⟩
    exact ⟨_, own, unsettled⟩

/-- A firing of a history whose dispatch is running and whose token is live. -/
structure FiresRunning
    (history past : List CancelEvent)
    (n : Nat)
    (reason : Option String) : Prop where
  firing : ∃ later, history = past ++ .fires n reason :: later
  running : (after past).Running n
  live : (after past).Live n

/--
Every token that fires while its dispatch runs trips the signal of that
dispatch, with its reason, and no other signal at any later time.
-/
structure LiveCancelWorks (history : List CancelEvent) : Prop where
  own :
    ∀ past n reason,
      FiresRunning history past n reason →
      ((after past).fires n reason).signals n =
        some (.stream (.source n) (chunkText reason))
  others :
    ∀ past n reason,
      FiresRunning history past n reason →
      ∀ other text,
        (after history).signals other = some (.stream (.source n) text) →
        other = n

/--
Every token that fires while its dispatch runs is that of the dispatch that
used its id first and entered first, with a reason that decodes to itself.
-/
def FiringsAreFirst (history : List CancelEvent) : Prop :=
  ∀ past n reason,
    FiresRunning history past n reason →
    (after past).UsesKeyFirst n ∧
      (after past).EntersFirst n ∧
        (chunkText reason).toList.head? ≠ some '\uFEFF'

/-- Live cancel works in exactly the histories whose firings are first. -/
theorem liveCancelWorks_iff
    (history : List CancelEvent) :
    LiveCancelWorks history ↔ FiringsAreFirst history := by
  constructor
  · intro works past n reason fires
    have wired := wired_after past
    obtain ⟨own, unsettled⟩ := wired.live_iff.mp fires.live
    obtain ⟨first, decodes⟩ :=
      (wired.signal_fires_iff own unsettled reason).mp
        (works.own past n reason fires)
    obtain ⟨usesFirst, entersFirst⟩ := (wired.firstReader_own_iff own).mp first
    exact ⟨usesFirst, entersFirst, decodeChunk_eq_self_iff.mp decodes⟩
  · intro areFirst
    refine ⟨fun past n reason fires => ?_, fun past n reason fires => ?_⟩
    · have wired := wired_after past
      obtain ⟨own, unsettled⟩ := wired.live_iff.mp fires.live
      obtain ⟨usesFirst, entersFirst, unmarked⟩ :=
        areFirst past n reason fires
      exact (wired.signal_fires_iff own unsettled reason).mpr
        ⟨(wired.firstReader_own_iff own).mpr ⟨usesFirst, entersFirst⟩,
          decodeChunk_eq_self_iff.mpr unmarked⟩
    · intro other text tripped
      have wired := wired_after past
      obtain ⟨own, _⟩ := wired.live_iff.mp fires.live
      obtain ⟨usesFirst, entersFirst, _⟩ := areFirst past n reason fires
      have first :=
        (wired.firstReader_own_iff own).mpr ⟨usesFirst, entersFirst⟩
      obtain ⟨later, split⟩ := fires.firing
      have firstAfter := firstReader_after first (.fires n reason :: later)
      rw [← split] at firstAfter
      have firstOther :=
        ((wired_after history).listens.tripped other _ text tripped).2
      exact Option.some.inj (firstOther.symm.trans firstAfter)

/-- Two dispatches of one stable function, the second on a warm isolate. -/
def warmHistory : List CancelEvent :=
  [ .dispatches 0 (.stable "() => 1") true,
    .dispatches 0 (.stable "() => 1") true,
    .enters 0,
    .enters 1,
    .fires 1 (some "stop") ]

/-- The token of the second dispatch does not reach it. -/
theorem not_liveCancelWorks_warm :
    ¬ ∀ history, LiveCancelWorks history := by
  intro always
  have fires : FiresRunning warmHistory (warmHistory.take 4) 1 (some "stop") :=
    { firing := ⟨[], rfl⟩
      running := ⟨by decide +kernel, by decide +kernel⟩
      live := ⟨.source 1, by decide +kernel, by decide +kernel⟩ }
  have tripped := (always warmHistory).own _ _ _ fires
  have silent :
      ((after (warmHistory.take 4)).fires 1 (some "stop")).signals 1 =
        none := by
    decide +kernel
  rw [silent] at tripped
  cases tripped

end CancelWorld

end CloudflareParallel
