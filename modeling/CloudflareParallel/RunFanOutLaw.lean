import CloudflareParallel.RunFanOut

namespace CloudflareParallel

open LabelledRuns

/-!
# The law of `runFanOut`

One invariant over the steps of the workers says who has what: indices below
the cursor are recorded or in a run, indices above it are untouched, and what
is recorded for an index is the outcome of its run, or an abort that came
before it.  Every step lowers a rank, so every schedule ends.
-/

/-- An entry of a list in which one entry was replaced. -/
theorem eq_or_of_getElem?_set
    {Entry : Type}
    {entries : List Entry}
    {index at_ : Nat}
    {entry found : Entry}
    (there : (entries.set index entry)[at_]? = some found) :
    (at_ = index ∧ found = entry) ∨
      (at_ ≠ index ∧ entries[at_]? = some found) := by
  by_cases same : at_ = index
  · subst same
    rw [List.getElem?_set, if_pos rfl] at there
    split at there
    · exact .inl ⟨rfl, (Option.some.inj there).symm⟩
    · cases there
  · rw [List.getElem?_set_ne (Ne.symm same)] at there
    exact .inr ⟨same, there⟩

namespace RunFanOutOptions

variable {Item Value : Type}
variable (opts : RunFanOutOptions Item Value)

/-! ## What a step can do -/

/-- The four things that a step can do. -/
inductive Moves (state : RunFanOutState Item Value) :
    RunFanOutState Item Value → Prop where
  | returned
      {worker : Nat}
      (ready : state.workers[worker]? = some .ready)
      (none : opts.items.length ≤ state.cursor) :
      Moves state
        { state with
          cursor := state.cursor + 1
          workers := state.workers.set worker .returned }
  | skipped
      {worker : Nat}
      (ready : state.workers[worker]? = some .ready)
      (inside : state.cursor < opts.items.length)
      (aborted : state.aborted = true) :
      Moves state
        { state with
          cursor := state.cursor + 1
          settled :=
            state.settled.set state.cursor
              (some (.failed opts.abortedError)) }
  | started
      {worker : Nat}
      {item : Item}
      (ready : state.workers[worker]? = some .ready)
      (found : opts.items[state.cursor]? = some item)
      (going : state.aborted = false) :
      Moves state
        { state with
          cursor := state.cursor + 1
          workers := state.workers.set worker (.running state.cursor item)
          started := state.started ++ [state.cursor] }
  | settled
      {worker idx : Nat}
      {item : Item}
      (running : state.workers[worker]? = some (.running idx item)) :
      Moves state (opts.settle state worker idx item)

/-- A turn of the loop moves. -/
theorem moves_takeNext
    {state : RunFanOutState Item Value}
    {worker : Nat}
    (ready : state.workers[worker]? = some .ready) :
    opts.Moves state (opts.takeNext state worker) := by
  unfold takeNext
  cases found : opts.items[state.cursor]? with
  | none =>
      simp only [found]
      exact .returned ready (List.getElem?_eq_none_iff.mp found)
  | some item =>
      obtain ⟨inside, -⟩ := List.getElem?_eq_some_iff.mp found
      simp only [found]
      by_cases flag : state.aborted = true
      · rw [if_pos flag]
        exact .skipped ready inside flag
      · rw [if_neg flag, runOne, if_neg flag]
        exact .started ready found (Bool.eq_false_iff.mpr flag)

/-- Every step moves. -/
theorem moves_of_step
    {state next : RunFanOutState Item Value}
    {label : RunFanOutStep}
    (stepped : opts.step state label = some next) :
    opts.Moves state next := by
  cases label with
  | takes worker =>
      cases found : state.workers[worker]? with
      | none => simp [step, found] at stepped
      | some at_ =>
          cases at_ with
          | ready =>
              simp only [step, found, Option.some.injEq] at stepped
              exact stepped ▸ opts.moves_takeNext found
          | running idx item => simp [step, found] at stepped
          | returned => simp [step, found] at stepped
  | settles worker =>
      cases found : state.workers[worker]? with
      | none => simp [step, found] at stepped
      | some at_ =>
          cases at_ with
          | ready => simp [step, found] at stepped
          | running idx item =>
              simp only [step, found, Option.some.injEq] at stepped
              exact stepped ▸ .settled found
          | returned => simp [step, found] at stepped

/-! ## The invariant -/

/-- The record of an index with an item, when its run has settled. -/
def settledAt? (idx : Nat) : Option (Settled Value) :=
  opts.items[idx]?.map fun item => opts.settledOf (opts.run item idx)

/-- The record of an index is the outcome of its run, or of an abort. -/
structure Recorded
    (state : RunFanOutState Item Value)
    (idx : Nat)
    (record : Settled Value) : Prop where
  below : idx < state.cursor
  ran : idx ∈ state.started → opts.settledAt? idx = some record
  aborted :
    idx ∉ state.started →
      record = .failed opts.abortedError ∧ state.aborted = true
  fails :
    opts.onError = .throwFast →
    ∀ error, record = .failed error → state.aborted = true

/-- The invariant of the workers. -/
structure Sound (state : RunFanOutState Item Value) : Prop where
  settledLength : state.settled.length = opts.items.length
  workersLength : state.workers.length = opts.workerCount.toNat
  nodup : state.started.Nodup
  startedBelow :
    ∀ idx ∈ state.started, idx < state.cursor ∧ idx < opts.items.length
  startsFirst :
    0 < state.cursor → opts.items ≠ [] → 0 ∈ state.started
  recorded :
    ∀ (idx : Nat) (record : Settled Value),
      state.settled[idx]? = some (some record) → opts.Recorded state idx record
  covered :
    ∀ idx,
      idx < opts.items.length →
      idx < state.cursor →
      (∃ record, state.settled[idx]? = some (some record)) ∨
        ∃ (worker : Nat) (item : Item),
          state.workers[worker]? = some (.running idx item)
  running :
    ∀ (worker idx : Nat) (item : Item),
      state.workers[worker]? = some (.running idx item) →
      opts.items[idx]? = some item ∧ idx ∈ state.started
  returned :
    ∀ worker : Nat,
      state.workers[worker]? = some .returned →
      opts.items.length ≤ state.cursor
  startedAborted : state.aborted = true → 0 < state.cursor
  abortedBy :
    state.aborted = true →
    opts.onError = .throwFast ∧
      ∃ idx error, opts.settledAt? idx = some (.failed error)

variable {opts}

/-- A record stays right while the indices below the cursor stay as they are. -/
theorem Recorded.carried
    {state next : RunFanOutState Item Value}
    {idx : Nat}
    {record : Settled Value}
    (right : opts.Recorded state idx record)
    (later : state.cursor ≤ next.cursor)
    (sameBelow :
      ∀ other,
        other < state.cursor →
        (other ∈ next.started ↔ other ∈ state.started))
    (kept : state.aborted = true → next.aborted = true) :
    opts.Recorded next idx record where
  below := Nat.lt_of_lt_of_le right.below later
  ran started := right.ran ((sameBelow idx right.below).mp started)
  aborted absent :=
    have before :=
      right.aborted fun started =>
        absent ((sameBelow idx right.below).mpr started)
    ⟨before.1, kept before.2⟩
  fails fast error failed := kept (right.fails fast error failed)

/-- The invariant holds when the workers are created. -/
theorem sound_launch : opts.Sound opts.launch where
  settledLength := List.length_replicate
  workersLength := List.length_replicate
  nodup := List.nodup_nil
  startedBelow := nofun
  startsFirst := nofun
  recorded idx record found := by
    simp [launch, List.getElem?_replicate] at found
  covered := nofun
  running worker idx item found := by
    simp [launch, List.getElem?_replicate] at found
  returned worker found := by
    simp [launch, List.getElem?_replicate] at found
  startedAborted := nofun
  abortedBy := nofun

/-- A worker that finds no item left returns. -/
theorem Sound.returned_worker
    {state : RunFanOutState Item Value}
    (sound : opts.Sound state)
    {worker : Nat}
    (ready : state.workers[worker]? = some .ready)
    (none : opts.items.length ≤ state.cursor) :
    opts.Sound
      { state with
        cursor := state.cursor + 1
        workers := state.workers.set worker .returned } where
  settledLength := sound.settledLength
  workersLength := List.length_set.trans sound.workersLength
  nodup := sound.nodup
  startedBelow idx started :=
    have before := sound.startedBelow idx started
    ⟨Nat.lt_succ_of_lt before.1, before.2⟩
  startsFirst _ nonempty :=
    have positive : 0 < opts.items.length :=
      List.length_pos_of_ne_nil nonempty
    sound.startsFirst (by omega) nonempty
  recorded idx record found :=
    (sound.recorded idx record found).carried (Nat.le_succ _)
      (fun _ _ => Iff.rfl) id
  covered idx inside _ := by
    rcases sound.covered idx inside (by omega) with record | running
    · exact .inl record
    · obtain ⟨other, item, found⟩ := running
      have different : worker ≠ other := by
        rintro rfl
        rw [ready] at found
        cases found
      exact .inr ⟨other, item, by rwa [List.getElem?_set_ne different]⟩
  running other idx item found := by
    rcases eq_or_of_getElem?_set found with ⟨-, equal⟩ | ⟨-, before⟩
    · cases equal
    · exact sound.running other idx item before
  returned other found := Nat.le_succ_of_le none
  startedAborted _ := Nat.succ_pos _
  abortedBy := sound.abortedBy

/-- A worker that finds the flag set records the abort. -/
theorem Sound.skipped_index
    {state : RunFanOutState Item Value}
    (sound : opts.Sound state)
    (aborted : state.aborted = true) :
    opts.Sound
      { state with
        cursor := state.cursor + 1
        settled :=
          state.settled.set state.cursor
            (some (.failed opts.abortedError)) } where
  settledLength := List.length_set.trans sound.settledLength
  workersLength := sound.workersLength
  nodup := sound.nodup
  startedBelow idx started :=
    have before := sound.startedBelow idx started
    ⟨Nat.lt_succ_of_lt before.1, before.2⟩
  startsFirst _ nonempty :=
    sound.startsFirst (sound.startedAborted aborted) nonempty
  recorded idx record found := by
    rcases eq_or_of_getElem?_set found with ⟨here, equal⟩ | ⟨-, before⟩
    · cases equal
      subst here
      refine ⟨Nat.lt_succ_self _, fun started => ?_, fun _ => ⟨rfl, aborted⟩,
        fun _ _ _ => aborted⟩
      exact absurd (sound.startedBelow _ started).1 (Nat.lt_irrefl _)
    · exact (sound.recorded idx record before).carried (Nat.le_succ _)
        (fun _ _ => Iff.rfl) id
  covered idx inside below := by
    by_cases here : idx = state.cursor
    · subst here
      refine .inl ⟨.failed opts.abortedError, ?_⟩
      exact List.getElem?_set_self (sound.settledLength ▸ inside)
    · rcases sound.covered idx inside (by simp at below; omega)
        with ⟨record, found⟩ | running
      · refine .inl ⟨record, ?_⟩
        rwa [List.getElem?_set_ne (Ne.symm here)]
      · exact .inr running
  running := sound.running
  returned worker found := Nat.le_succ_of_le (sound.returned worker found)
  startedAborted _ := Nat.succ_pos _
  abortedBy := sound.abortedBy

/-- A worker starts the run of the index at the cursor. -/
theorem Sound.started_run
    {state : RunFanOutState Item Value}
    (sound : opts.Sound state)
    {worker : Nat}
    {item : Item}
    (ready : state.workers[worker]? = some .ready)
    (found : opts.items[state.cursor]? = some item) :
    opts.Sound
      { state with
        cursor := state.cursor + 1
        workers := state.workers.set worker (.running state.cursor item)
        started := state.started ++ [state.cursor] } where
  settledLength := sound.settledLength
  workersLength := List.length_set.trans sound.workersLength
  nodup := by
    refine List.nodup_append.mpr ⟨sound.nodup, List.nodup_singleton _, ?_⟩
    rintro idx started other member rfl
    have below := (sound.startedBelow idx started).1
    rw [List.mem_singleton.mp member] at below
    exact Nat.lt_irrefl _ below
  startedBelow idx started := by
    obtain ⟨inside, -⟩ := List.getElem?_eq_some_iff.mp found
    rcases List.mem_append.mp started with before | now
    · have below := sound.startedBelow idx before
      exact ⟨Nat.lt_succ_of_lt below.1, below.2⟩
    · rw [List.mem_singleton.mp now]
      exact ⟨Nat.lt_succ_self _, inside⟩
  startsFirst _ nonempty := by
    rcases Nat.eq_zero_or_pos state.cursor with first | later
    · rw [first]
      exact List.mem_append_right _ (List.mem_singleton_self 0)
    · exact List.mem_append_left _ (sound.startsFirst later nonempty)
  recorded idx record there := by
    refine (sound.recorded idx record there).carried (Nat.le_succ _)
      (fun other below => ?_) id
    rw [List.mem_append, List.mem_singleton]
    exact or_iff_left (Nat.ne_of_lt below)
  covered idx inside below := by
    obtain ⟨present, -⟩ := List.getElem?_eq_some_iff.mp ready
    by_cases here : idx = state.cursor
    · subst here
      exact .inr ⟨worker, item, List.getElem?_set_self present⟩
    · rcases sound.covered idx inside (by simp at below; omega)
        with record | ⟨other, held, running⟩
      · exact .inl record
      · have different : worker ≠ other := by
          rintro rfl
          rw [ready] at running
          cases running
        exact .inr ⟨other, held, by rwa [List.getElem?_set_ne different]⟩
  running other idx held there := by
    rcases eq_or_of_getElem?_set there with ⟨-, equal⟩ | ⟨-, before⟩
    · cases equal
      exact ⟨found, List.mem_append_right _ (List.mem_singleton_self _)⟩
    · have was := sound.running other idx held before
      exact ⟨was.1, List.mem_append_left _ was.2⟩
  returned other there := by
    rcases eq_or_of_getElem?_set there with ⟨-, equal⟩ | ⟨-, before⟩
    · cases equal
    · exact Nat.le_succ_of_le (sound.returned other before)
  startedAborted _ := Nat.succ_pos _
  abortedBy := sound.abortedBy

/-- The flag after a run has settled. -/
theorem aborted_settle
    {state : RunFanOutState Item Value}
    {worker idx : Nat}
    {item : Item} :
    (opts.settle state worker idx item).aborted = true ↔
      state.aborted = true ∨
        (opts.onError = .throwFast ∧
          ∃ error, opts.settledOf (opts.run item idx) = .failed error) := by
  unfold settle settledOf
  cases opts.run item idx with
  | ok value => simp
  | error err => simp

/-- A run settles. -/
theorem Sound.settled_run
    {state : RunFanOutState Item Value}
    (sound : opts.Sound state)
    {worker idx : Nat}
    {item : Item}
    (running : state.workers[worker]? = some (.running idx item)) :
    opts.Sound (opts.settle state worker idx item) where
  settledLength := List.length_set.trans sound.settledLength
  workersLength := List.length_set.trans sound.workersLength
  nodup := sound.nodup
  startedBelow := sound.startedBelow
  startsFirst := sound.startsFirst
  recorded other record found := by
    have was := sound.running worker idx item running
    rcases eq_or_of_getElem?_set found with ⟨here, equal⟩ | ⟨-, before⟩
    · cases equal
      subst here
      refine ⟨(sound.startedBelow _ was.2).1, fun _ => ?_,
        fun absent => absurd was.2 absent, fun fast error failed => ?_⟩
      · rw [settledAt?, was.1]
        rfl
      · exact aborted_settle.mpr (.inr ⟨fast, error, failed⟩)
    · exact (sound.recorded other record before).carried (Nat.le_refl _)
        (fun _ _ => Iff.rfl) fun flag => aborted_settle.mpr (.inl flag)
  covered other inside below := by
    by_cases here : other = idx
    · subst here
      exact .inl ⟨_, List.getElem?_set_self (sound.settledLength ▸ inside)⟩
    · rcases sound.covered other inside below
        with ⟨record, found⟩ | ⟨holder, held, there⟩
      · refine .inl ⟨record, ?_⟩
        exact (List.getElem?_set_ne (Ne.symm here)).trans found
      · have different : worker ≠ holder := by
          rintro rfl
          rw [running] at there
          cases there
          exact here rfl
        refine .inr ⟨holder, held, ?_⟩
        exact (List.getElem?_set_ne different).trans there
  running holder other held there := by
    rcases eq_or_of_getElem?_set there with ⟨-, equal⟩ | ⟨-, before⟩
    · cases equal
    · exact sound.running holder other held before
  returned holder there := by
    rcases eq_or_of_getElem?_set there with ⟨-, equal⟩ | ⟨-, before⟩
    · cases equal
    · exact sound.returned holder before
  startedAborted _ :=
    have was := sound.running worker idx item running
    Nat.zero_lt_of_lt (sound.startedBelow idx was.2).1
  abortedBy flag := by
    have was := sound.running worker idx item running
    rcases aborted_settle.mp flag with before | ⟨fast, error, failed⟩
    · exact sound.abortedBy before
    · refine ⟨fast, idx, error, ?_⟩
      rw [settledAt?, was.1, Option.map_some, failed]

/-- Every step keeps the invariant. -/
theorem sound_of_step
    {state next : RunFanOutState Item Value}
    {label : RunFanOutStep}
    (stepped : opts.step state label = some next)
    (sound : opts.Sound state) :
    opts.Sound next := by
  cases opts.moves_of_step stepped with
  | returned ready none => exact sound.returned_worker ready none
  | skipped _ _ aborted => exact sound.skipped_index aborted
  | started ready found _ => exact sound.started_run ready found
  | settled running => exact sound.settled_run running

/-- The invariant holds in every state that the workers reach. -/
theorem sound_of_reaches
    {steps : List RunFanOutStep}
    {state : RunFanOutState Item Value}
    (reached : opts.Reaches steps state) :
    opts.Sound state :=
  reached.invariant (fun _ stepped => sound_of_step stepped) sound_launch

end RunFanOutOptions

end CloudflareParallel
