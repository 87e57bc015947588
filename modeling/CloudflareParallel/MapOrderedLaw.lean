import CloudflareParallel.Library.SlotLists
import CloudflareParallel.MapOrdered

namespace CloudflareParallel

open LabelledRuns
open SlotLists

/-!
# The invariants of `mapOrdered`

The workers and what was fulfilled share out the indices that were taken; a slot
is resolved with what was fulfilled for it; and what was yielded is what the
first slots are resolved with.
-/

/-- The index that a worker has taken. -/
def FanOutWorker.taken?
    {Item : Type} : FanOutWorker Item → Option Nat
  | .running idx _ => some idx
  | _ => none

namespace StreamingMap

variable {Item Value : Type}
variable {call : StreamingMap Item}

/-- What holds where the generator is. -/
def OrderedPhaseSound
    (call : StreamingMap Item)
    (state : MapOrderedState Item Value) : Prop :=
  match state.phase with
  | .created =>
      state.slots = [] ∧ state.workers = [] ∧ state.cursor = 0 ∧
        state.yielded = []
  | .waiting i =>
      state.yielded.length = i ∧ i < call.items.length
  | .suspended i =>
      state.yielded.length = i + 1 ∧ i < call.items.length
  | .finishing => state.yielded.length = call.items.length
  | .ended => state.yielded.length = call.items.length

/-- The invariant of a generator and its workers. -/
structure OrderedSound
    (call : StreamingMap Item)
    (state : MapOrderedState Item Value) : Prop where
  indices :
    (state.workers.filterMap (·.taken?) ++
          state.fulfilled.map Prod.fst).Perm
      (List.range (min state.cursor call.items.length))
  started : state.started = List.range (min state.cursor call.items.length)
  launched :
    state.phase ≠ .created →
    state.slots.length = call.items.length ∧
      state.workers.length = call.workerCount
  resolved :
    ∀ (idx : Nat) (value : Value),
      state.slots[idx]? = some (some value) ↔ (idx, value) ∈ state.fulfilled
  returnedPast :
    .returned ∈ state.workers → call.items.length ≤ state.cursor
  runningItem :
    ∀ (idx : Nat) (item : Item),
      .running idx item ∈ state.workers → call.items[idx]? = some item
  yielded :
    ∀ (idx : Nat) (value : Value),
      state.yielded[idx]? = some value →
      state.slots[idx]? = some (some value)
  phase : OrderedPhaseSound call state

/-- The generator starts with nothing. -/
theorem orderedSound_created
    (call : StreamingMap Item) :
    OrderedSound call ({} : MapOrderedState Item Value) where
  indices := by simp
  started := by simp
  launched notCreated := absurd rfl notCreated
  resolved idx value := by simp
  returnedPast member := absurd member List.not_mem_nil
  runningItem _ _ member := absurd member List.not_mem_nil
  yielded idx value found := by simp at found
  phase := ⟨rfl, rfl, rfl, rfl⟩

/-- A worker that takes an index or gives one back keeps its place. -/
theorem taken_set_running
    {workers : List (FanOutWorker Item)}
    {worker idx : Nat}
    {item : Item}
    (there : workers[worker]? = some .ready) :
    ((workers.set worker (.running idx item)).filterMap (·.taken?)).Perm
      (idx :: workers.filterMap (·.taken?)) :=
  filterMap_set_perm there rfl rfl

/-- A worker that has no index after a turn had one before, or had none. -/
theorem taken_set_idle
    {workers : List (FanOutWorker Item)}
    {worker : Nat}
    {old next : FanOutWorker Item}
    (there : workers[worker]? = some old)
    (idle : next.taken? = none) :
    (old.taken?.toList ++
          (workers.set worker next).filterMap (·.taken?)).Perm
      (workers.filterMap (·.taken?)) := by
  have changed := (set_perm there next).filterMap (·.taken?)
  have others := (cons_eraseIdx_perm there).filterMap (·.taken?)
  rw [List.filterMap_cons_none idle] at changed
  refine ((changed.append_left _).trans ?_).trans others
  cases holds : old.taken? with
  | none => rw [List.filterMap_cons_none holds]; rfl
  | some idx => rw [List.filterMap_cons_some holds]; rfl

/-- The start of the generator. -/
theorem OrderedSound.launch
    {state : MapOrderedState Item Value}
    (sound : OrderedSound call state)
    (created : state.phase = .created) :
    OrderedSound call (call.launch state) := by
  have fresh := sound.phase
  simp only [OrderedPhaseSound, created] at fresh
  obtain ⟨noSlots, noWorkers, atStart, noYield⟩ := fresh
  have indices := sound.indices
  have noResult : state.fulfilled = [] := by
    rw [noWorkers, atStart] at indices
    simpa using indices
  unfold StreamingMap.launch
  split
  next none =>
    refine
      { indices := indices
        started := sound.started
        launched := fun _ => ⟨?_, ?_⟩
        resolved := sound.resolved
        returnedPast := sound.returnedPast
        runningItem := sound.runningItem
        yielded := sound.yielded
        phase := ?_ }
    · simp only [noSlots, none, List.length_nil]
    · simp only [noWorkers, workerCount, List.length_nil]
      omega
    · simp only [OrderedPhaseSound, noYield, none, List.length_nil]
  next some =>
    refine
      { indices := ?_
        started := sound.started
        launched := fun _ => by simp
        resolved := ?_
        returnedPast := ?_
        runningItem := ?_
        yielded := ?_
        phase := ?_ }
    · simp only [noResult, atStart]
      simp [FanOutWorker.taken?]
    · intro idx value
      simp only [noResult, List.not_mem_nil, iff_false]
      rw [List.getElem?_replicate]
      split <;> simp
    · intro member
      cases List.eq_of_mem_replicate member
    · intro idx item member
      cases List.eq_of_mem_replicate member
    · intro idx value found
      simp [noYield] at found
    · simp only [OrderedPhaseSound, noYield, List.length_nil, true_and]
      omega

/-- A worker at work finds the generator started. -/
theorem OrderedSound.not_created
    {state : MapOrderedState Item Value}
    {worker : Nat}
    {held : FanOutWorker Item}
    (sound : OrderedSound call state)
    (there : state.workers[worker]? = some held) :
    state.phase ≠ .created := by
  intro created
  have fresh := sound.phase
  simp only [OrderedPhaseSound, created] at fresh
  rw [fresh.2.1] at there
  cases there

/-- Behind the start a phase looks at what was yielded only. -/
theorem OrderedPhaseSound.of_same
    {state next : MapOrderedState Item Value}
    (held : OrderedPhaseSound call state)
    (notCreated : state.phase ≠ .created)
    (same : next.phase = state.phase)
    (sameYielded : next.yielded = state.yielded) :
    OrderedPhaseSound call next := by
  unfold OrderedPhaseSound at held ⊢
  rw [same, sameYielded]
  cases at_ : state.phase with
  | created => exact absurd at_ notCreated
  | waiting i => simpa only [at_] using held
  | suspended i => simpa only [at_] using held
  | finishing => simpa only [at_] using held
  | ended => simpa only [at_] using held

/-- The generator gets to another phase. -/
theorem OrderedSound.enters
    {state : MapOrderedState Item Value}
    {phase : MapOrderedPhase}
    (sound : OrderedSound call state)
    (notCreated : state.phase ≠ .created)
    (here : OrderedPhaseSound call { state with phase := phase }) :
    OrderedSound call { state with phase := phase } where
  indices := sound.indices
  started := sound.started
  launched _ := sound.launched notCreated
  resolved := sound.resolved
  returnedPast := sound.returnedPast
  runningItem := sound.runningItem
  yielded := sound.yielded
  phase := here

/-- A turn of a worker. -/
theorem OrderedSound.dispatch
    {state : MapOrderedState Item Value}
    {worker : Nat}
    (sound : OrderedSound call state)
    (there : state.workers[worker]? = some .ready) :
    OrderedSound call (call.dispatch state worker) := by
  have notCreated := sound.not_created there
  have launched := sound.launched notCreated
  unfold StreamingMap.dispatch
  simp only
  split
  next item found =>
    obtain ⟨inside, -⟩ := List.getElem?_eq_some_iff.mp found
    have before : min state.cursor call.items.length = state.cursor := by
      omega
    have after :
        min (state.cursor + 1) call.items.length = state.cursor + 1 := by
      omega
    have indices := sound.indices
    have started := sound.started
    rw [before] at indices started
    refine
      { indices := ?_
        started := ?_
        launched := fun _ => by simpa using launched
        resolved := sound.resolved
        returnedPast := ?_
        runningItem := ?_
        yielded := sound.yielded
        phase := sound.phase.of_same notCreated rfl rfl }
    · simp only [after, List.range_succ]
      exact
        (((taken_set_running there).append_right _).trans
          (indices.cons state.cursor)).trans
            (List.perm_append_singleton _ _).symm
    · simp only [after, List.range_succ, started]
    · intro member
      rcases List.mem_or_eq_of_mem_set member with old | new
      · exact Nat.le_succ_of_le (sound.returnedPast old)
      · cases new
    · intro idx other member
      rcases List.mem_or_eq_of_mem_set member with old | new
      · exact sound.runningItem idx other old
      · cases new
        exact found
  next past =>
    have outside := List.getElem?_eq_none_iff.mp past
    have before :
        min state.cursor call.items.length = call.items.length := by omega
    have after :
        min (state.cursor + 1) call.items.length = call.items.length := by
      omega
    have indices := sound.indices
    have started := sound.started
    rw [before] at indices started
    refine
      { indices := ?_
        started := ?_
        launched := fun _ => by simpa using launched
        resolved := sound.resolved
        returnedPast := fun _ => Nat.le_succ_of_le outside
        runningItem := ?_
        yielded := sound.yielded
        phase := sound.phase.of_same notCreated rfl rfl }
    · simp only [after]
      exact ((taken_set_idle there rfl).append_right _).trans indices
    · simp only [after, started]
    · intro idx other member
      rcases List.mem_or_eq_of_mem_set member with old | new
      · exact sound.runningItem idx other old
      · cases new

/-- A worker whose task has succeeded. -/
theorem OrderedSound.resolve
    {state : MapOrderedState Item Value}
    {worker idx : Nat}
    {item : Item}
    (sound : OrderedSound call state)
    (there : state.workers[worker]? = some (.running idx item))
    (value : Value) :
    OrderedSound call (resolve state worker idx value) := by
  have notCreated := sound.not_created there
  have launched := sound.launched notCreated
  have member : idx ∈ state.workers.filterMap (·.taken?) :=
    List.mem_filterMap.mpr ⟨_, List.mem_of_getElem? there, rfl⟩
  have inRange :=
    List.mem_range.mp (sound.indices.subset (List.mem_append_left _ member))
  have fresh : ∀ other, (idx, other) ∉ state.fulfilled := by
    intro other already
    have apart :=
      List.nodup_append.mp (sound.indices.nodup_iff.mpr List.nodup_range)
    exact
      apart.2.2 idx member idx
        (List.mem_map_of_mem (f := Prod.fst) already) rfl
  have unresolved : ∀ other, state.slots[idx]? ≠ some (some other) :=
    fun other found => fresh other ((sound.resolved idx other).mp found)
  refine
    { indices := ?_
      started := sound.started
      launched := fun _ => by simpa [StreamingMap.resolve] using launched
      resolved := ?_
      returnedPast := ?_
      runningItem := ?_
      yielded := ?_
      phase := sound.phase.of_same notCreated rfl rfl }
  · simp only [StreamingMap.resolve, List.map_append, List.map_singleton]
    refine List.Perm.trans ?_ sound.indices
    have given := @taken_set_idle _ _ _ _ .ready there rfl
    refine List.Perm.trans ?_ (given.append_right _)
    rw [← List.append_assoc]
    exact List.perm_append_singleton _ _
  · intro at_ other
    simp only [StreamingMap.resolve, List.mem_append, List.mem_singleton,
      Prod.mk.injEq]
    rw [List.getElem?_set]
    split
    next here =>
      subst at_
      have inside : idx < state.slots.length := by omega
      simp [inside, fresh, eq_comm]
    next elsewhere =>
      rw [sound.resolved]
      simp [Ne.symm elsewhere]
  · intro member
    rcases List.mem_or_eq_of_mem_set member with old | new
    · exact sound.returnedPast old
    · cases new
  · intro at_ other member
    rcases List.mem_or_eq_of_mem_set member with old | new
    · exact sound.runningItem at_ other old
    · cases new
  · intro at_ other found
    have before := sound.yielded at_ other found
    have apart : idx ≠ at_ := by
      rintro rfl
      exact unresolved other before
    simp only [StreamingMap.resolve]
    rw [List.getElem?_set_ne apart]
    exact before

/-- The generator goes on. -/
theorem OrderedSound.orderedGoOn
    {state next : MapOrderedState Item Value}
    (sound : OrderedSound call state)
    (went : call.orderedGoOn state = some next) :
    OrderedSound call next := by
  have held := sound.phase
  unfold StreamingMap.orderedGoOn at went
  cases at_ : state.phase with
  | created =>
      simp only [at_] at went
      split at went
      · cases went
        exact sound.launch at_
      · cases went
  | waiting i =>
      simp only [at_] at went
      simp only [OrderedPhaseSound, at_] at held
      split at went
      next value found =>
        cases went
        have there : state.slots[i]? = some (some value) :=
          Option.join_eq_some_iff.mp found
        refine
          { indices := sound.indices
            started := sound.started
            launched := fun _ => sound.launched (by simp [at_])
            resolved := sound.resolved
            returnedPast := sound.returnedPast
            runningItem := sound.runningItem
            yielded := ?_
            phase := ?_ }
        · intro idx other read
          rw [List.getElem?_append] at read
          split at read
          next => exact sound.yielded idx other read
          next past =>
            have here : idx - state.yielded.length = 0 := by
              by_contra beyond
              obtain ⟨rest, more⟩ := Nat.exists_eq_succ_of_ne_zero beyond
              rw [more] at read
              cases read
            rw [here] at read
            cases read
            have same : idx = i := by omega
            rw [same]
            exact there
        · simp only [OrderedPhaseSound, List.length_append,
            List.length_singleton]
          omega
      next => cases went
  | suspended i =>
      simp only [at_] at went
      simp only [OrderedPhaseSound, at_] at held
      have notCreated : state.phase ≠ .created := by simp [at_]
      split at went
      · split at went
        next more =>
          cases went
          exact sound.enters notCreated ⟨held.1, more⟩
        next last =>
          cases went
          refine sound.enters notCreated ?_
          simp only [OrderedPhaseSound]
          omega
      · cases went
  | finishing =>
      simp only [at_] at went
      simp only [OrderedPhaseSound, at_] at held
      split at went
      · cases went
        exact sound.enters (by simp [at_]) held
      · cases went
  | ended =>
      simp only [at_] at went
      cases went

/-- Every step keeps the invariant. -/
theorem orderedSound_of_step
    {state next : MapOrderedState Item Value}
    {label : MapOrderedStep Value}
    (stepped : call.mapOrdered state label = some next)
    (sound : OrderedSound call state) :
    OrderedSound call next := by
  cases label with
  | pulls =>
      cases stepped
      exact
        { indices := sound.indices
          started := sound.started
          launched := sound.launched
          resolved := sound.resolved
          returnedPast := sound.returnedPast
          runningItem := sound.runningItem
          yielded := sound.yielded
          phase := sound.phase }
  | takes worker =>
      simp only [mapOrdered] at stepped
      split at stepped
      next there =>
        cases stepped
        exact sound.dispatch there
      next => cases stepped
  | fulfils worker value =>
      simp only [mapOrdered] at stepped
      split at stepped
      next idx item there =>
        cases stepped
        exact sound.resolve there value
      next => cases stepped
  | goesOn => exact sound.orderedGoOn stepped

/-- The invariant holds in every run of a generator. -/
theorem orderedSound_of_run
    {steps : List (MapOrderedStep Value)}
    {state : MapOrderedState Item Value}
    (ran : Run call.mapOrdered {} steps state) :
    OrderedSound call state :=
  ran.invariant (fun _ stepped before => orderedSound_of_step stepped before)
    (orderedSound_created call)

/-! ## What the consumer sees -/

/-- The tasks in flight are tasks of the workers. -/
theorem OrderedSound.inFlight_le
    {state : MapOrderedState Item Value}
    (sound : OrderedSound call state) :
    (state.inFlight : Int) ≤ max 0 call.concurrency := by
  have few : state.inFlight ≤ state.workers.length := List.countP_le_length
  by_cases created : state.phase = .created
  · have fresh := sound.phase
    simp only [OrderedPhaseSound, created] at fresh
    rw [fresh.2.1, List.length_nil] at few
    omega
  · have count := (sound.launched created).2
    unfold workerCount at count
    omega

/-- Every index is fulfilled once at most. -/
theorem OrderedSound.fulfilled_nodup
    {state : MapOrderedState Item Value}
    (sound : OrderedSound call state) :
    (state.fulfilled.map Prod.fst).Nodup :=
  (List.nodup_append.mp
    (sound.indices.nodup_iff.mpr List.nodup_range)).2.1

/-- At a position stands what was fulfilled for the index. -/
theorem OrderedSound.of_yielded
    {state : MapOrderedState Item Value}
    (sound : OrderedSound call state)
    {idx : Nat}
    {value : Value}
    (found : state.yielded[idx]? = some value) :
    (idx, value) ∈ state.fulfilled :=
  (sound.resolved idx value).mp (sound.yielded idx value found)

/-- At its end every index is yielded. -/
theorem OrderedSound.length_yielded
    {state : MapOrderedState Item Value}
    (sound : OrderedSound call state)
    (ended : state.phase = .ended) :
    state.yielded.length = call.items.length := by
  have held := sound.phase
  simp only [OrderedPhaseSound, ended] at held
  exact held

/-- When a worker has returned, every index was taken. -/
theorem OrderedSound.past_of_allReturned
    {state : MapOrderedState Item Value}
    (sound : OrderedSound call state)
    (atLeastOne : 1 ≤ call.concurrency)
    (nonempty : call.items ≠ [])
    (launched : state.phase ≠ .created)
    (returned : state.allReturned = true) :
    call.items.length ≤ state.cursor := by
  have count := (sound.launched launched).2
  have some := List.length_pos_iff.mpr nonempty
  have positive : 0 < state.workers.length := by
    rw [count]
    unfold workerCount
    omega
  obtain ⟨held, rest, shape⟩ :=
    List.exists_cons_of_ne_nil (List.ne_nil_of_length_pos positive)
  have member : held ∈ state.workers := by simp [shape]
  have atEnd := List.all_eq_true.mp returned held member
  cases held with
  | returned => exact sound.returnedPast member
  | ready => cases atEnd
  | running idx item => cases atEnd

/-- When all workers have returned, every slot is resolved. -/
theorem OrderedSound.resolved_of_allReturned
    {state : MapOrderedState Item Value}
    (sound : OrderedSound call state)
    (returned : state.allReturned = true)
    (past : call.items.length ≤ state.cursor)
    {idx : Nat}
    (inside : idx < call.items.length) :
    ∃ value, state.slots[idx]? = some (some value) := by
  have noneTaken : state.workers.filterMap (·.taken?) = [] := by
    apply List.filterMap_eq_nil_iff.mpr
    intro held member
    have atEnd := List.all_eq_true.mp returned held member
    cases held with
    | returned => rfl
    | ready => cases atEnd
    | running idx item => cases atEnd
  have indices := sound.indices
  rw [noneTaken, List.nil_append, Nat.min_eq_right past] at indices
  obtain ⟨⟨at_, value⟩, member, rfl⟩ :=
    List.mem_map.mp (indices.symm.subset (List.mem_range.mpr inside))
  exact ⟨value, (sound.resolved at_ value).mpr member⟩

end StreamingMap

end CloudflareParallel
