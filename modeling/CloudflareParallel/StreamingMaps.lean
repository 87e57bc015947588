import CloudflareParallel.MapOrderedLaw
import CloudflareParallel.MapStreamLaw

namespace CloudflareParallel

open LabelledRuns

/-!
# The streaming maps

What a consumer of `mapStream` and of `mapOrdered` gets, under every order in
which the tasks succeed and the consumer calls `next`, and what becomes of the
items when the concurrency leaves no room for any task.
-/

namespace StreamingMap

variable {Item Value : Type}
variable {call : StreamingMap Item}

/-! ## Nobody is stuck -/

/-- While a worker has not returned, a worker can go on. -/
theorem exists_workerStep
    {state : MapOrderedState Item Value}
    (value : Value)
    (busy : state.allReturned ≠ true) :
    ∃ label next,
      label ≠ .pulls ∧ call.mapOrdered state label = some next := by
  obtain ⟨held, member, going⟩ :=
    List.all_eq_false.mp (Bool.eq_false_iff.mpr busy)
  obtain ⟨worker, there⟩ := List.mem_iff_getElem?.mp member
  cases held with
  | ready =>
      exact ⟨.takes worker, call.dispatch state worker, by simp, by
        simp only [mapOrdered, there]⟩
  | running idx item =>
      exact ⟨.fulfils worker value, resolve state worker idx value, by simp, by
        simp only [mapOrdered, there]⟩
  | returned => exact absurd rfl going

/-- A consumer that waits is not left waiting: something can happen. -/
theorem OrderedSound.goesOn
    {state : MapOrderedState Item Value}
    (sound : OrderedSound call state)
    (value : Value)
    (atLeastOne : 1 ≤ call.concurrency)
    (waiting : 0 < state.requests)
    (going : state.phase ≠ .ended) :
    ∃ label next,
      label ≠ .pulls ∧ call.mapOrdered state label = some next := by
  by_cases returned : state.allReturned = true
  · have held := sound.phase
    cases at_ : state.phase with
    | created =>
        exact ⟨.goesOn, call.launch state, by simp, by
          simp only [mapOrdered, StreamingMap.orderedGoOn, at_, waiting,
            ↓reduceIte]⟩
    | waiting i =>
        simp only [OrderedPhaseSound, at_] at held
        have nonempty : call.items ≠ [] :=
          List.ne_nil_of_length_pos (Nat.zero_lt_of_lt held.2)
        have past :=
          sound.past_of_allReturned atLeastOne nonempty (by simp [at_])
            returned
        obtain ⟨result, there⟩ :=
          sound.resolved_of_allReturned returned past held.2
        exact
          ⟨.goesOn,
            { state with
              phase := .suspended i
              requests := state.requests - 1
              yielded := state.yielded ++ [result] },
            by simp, by
              simp only [mapOrdered, StreamingMap.orderedGoOn, at_, there,
                Option.join_some]⟩
    | suspended i =>
        simp only [mapOrdered]
        by_cases more : i + 1 < call.items.length
        · exact ⟨.goesOn, { state with phase := .waiting (i + 1) }, by simp,
            by simp only [StreamingMap.orderedGoOn, at_, waiting, more,
              ↓reduceIte]⟩
        · exact ⟨.goesOn, { state with phase := .finishing }, by simp, by
            simp only [StreamingMap.orderedGoOn, at_, waiting, more,
              ↓reduceIte]⟩
    | finishing =>
        exact ⟨.goesOn, { state with phase := .ended }, by simp, by
          simp only [mapOrdered, StreamingMap.orderedGoOn, at_, returned,
            ↓reduceIte]⟩
    | ended => exact absurd at_ going
  · exact exists_workerStep value returned

/-! ## Every completion order -/

/-- What holds of a generator of `mapStream` apart from the order. -/
structure StreamCorrect
    (call : StreamingMap Item)
    (state : MapStreamState Item Value) : Prop where
  inFlight : (state.inFlight : Int) ≤ call.concurrency
  /-- The task of a slot is that of the item at its index. -/
  ofItem :
    ∀ slot ∈ state.live, call.items[slot.idx]? = some slot.item
  once : (state.yielded.map Prod.fst).Nodup
  ofTask : ∀ result ∈ state.yielded, result ∈ state.fulfilled
  taskOnce : (state.fulfilled.map Prod.fst).Nodup
  complete :
    state.phase = .ended →
    (state.yielded.map Prod.fst).Perm (List.range call.items.length)
  goesOn :
    Nonempty Value →
    0 < state.requests →
    state.phase ≠ .ended →
    ∃ label next, label ≠ .pulls ∧ call.mapStream state label = some next

/-- What holds of a generator of `mapOrdered`. -/
structure OrderedCorrect
    (call : StreamingMap Item)
    (state : MapOrderedState Item Value) : Prop where
  inFlight : (state.inFlight : Int) ≤ call.concurrency
  /-- The task of a worker is that of the item at its index. -/
  ofItem :
    ∀ (idx : Nat) (item : Item),
      .running idx item ∈ state.workers → call.items[idx]? = some item
  /-- The value at a position is that of the task of the index. -/
  inputOrder :
    ∀ (idx : Nat) (value : Value),
      state.yielded[idx]? = some value → (idx, value) ∈ state.fulfilled
  taskOnce : (state.fulfilled.map Prod.fst).Nodup
  complete :
    state.phase = .ended → state.yielded.length = call.items.length
  goesOn :
    Nonempty Value →
    0 < state.requests →
    state.phase ≠ .ended →
    ∃ label next, label ≠ .pulls ∧ call.mapOrdered state label = some next

/--
The streaming maps with a concurrency of one at least.  In every run `mapStream`
yields each index once, with the value of the task of its item, and `mapOrdered`
yields the values of the tasks in the order of the items; both stay within the
concurrency, are complete at their end and never leave their consumer stuck.
What `mapStream` yields is in completion order in every run in which no task
overtakes a result that waits in a later slot.
-/
theorem streamingMaps_correct
    (call : StreamingMap Item)
    (atLeastOne : 1 ≤ call.concurrency) :
    (∀ (steps : List (MapStreamStep Value))
        (state : MapStreamState Item Value),
      Run call.mapStream {} steps state → StreamCorrect call state) ∧
    (∀ (steps : List (MapStreamStep Value))
        (state : MapStreamState Item Value),
      GuardedRun call.mapStream OvertakesNone {} steps state →
      state.yielded <+: state.fulfilled) ∧
    ∀ (steps : List (MapOrderedStep Value))
        (state : MapOrderedState Item Value),
      Run call.mapOrdered {} steps state → OrderedCorrect call state := by
  have limit : max 0 call.concurrency = call.concurrency := by omega
  refine ⟨?_, ?_, ?_⟩
  · intro steps state ran
    have sound := streamSound_of_run ran
    exact
      { inFlight := limit ▸ sound.inFlight_le
        ofItem := sound.kept.slotItem
        once := sound.yielded_nodup
        ofTask := fun result member => (sound.of_yielded member).1
        taskOnce := sound.fulfilled_nodup
        complete := sound.yielded_all atLeastOne
        goesOn := fun ⟨value⟩ waiting going =>
          sound.goesOn value waiting going }
  · intro steps state ran
    obtain ⟨-, ordered⟩ := inOrder_of_run ran
    rw [ordered]
    exact List.prefix_append _ _
  · intro steps state ran
    have sound := orderedSound_of_run ran
    exact
      { inFlight := limit ▸ sound.inFlight_le
        ofItem := sound.runningItem
        inputOrder := fun _ _ found => sound.of_yielded found
        taskOnce := sound.fulfilled_nodup
        complete := sound.length_yielded
        goesOn := fun ⟨value⟩ waiting going =>
          sound.goesOn value atLeastOne waiting going }

/-- Three items in flight at once. -/
def threeItems : StreamingMap String where
  items := ["a", "b", "c"]
  concurrencyOption := none

/--
The task of `'b'` succeeds, and then that of `'a'`, beside a slot whose task is
still running; both are yielded in this order.
-/
theorem streamingMaps_correct_secondFirst :
    ∃ state : MapStreamState String Nat,
      GuardedRun threeItems.mapStream OvertakesNone {}
          [.pulls, .goesOn, .fulfils 1 11, .goesOn, .pulls, .goesOn,
            .fulfils 0 10, .goesOn]
          state ∧
        state.yielded = [(1, 11), (0, 10)] ∧
          state.yielded <+: state.fulfilled := by
  have ran :
      GuardedRun (@mapStream _ Nat threeItems) OvertakesNone {}
        [.pulls, .goesOn, .fulfils 1 11, .goesOn, .pulls, .goesOn,
          .fulfils 0 10, .goesOn]
        { slots := [⟨0, "a", some 10⟩, ⟨2, "c", none⟩]
          cursor := 3
          phase := .suspended 0
          requests := 0
          yielded := [(1, 11), (0, 10)]
          fulfilled := [(1, 11), (0, 10)] } := by
    refine .cons trivial rfl (.cons trivial rfl (.cons ?_ rfl
      (.cons trivial rfl (.cons trivial rfl (.cons trivial rfl
        (.cons ?_ rfl (.cons trivial rfl .nil)))))))
    · intro later slot after there filled
      obtain rfl | beyond : later = 2 ∨ 3 ≤ later := by omega
      · cases there
        cases filled
      · cases (List.getElem?_eq_none beyond).symm.trans there
    · intro later slot after there filled
      obtain rfl | beyond : later = 1 ∨ 2 ≤ later := by omega
      · cases there
        cases filled
      · cases (List.getElem?_eq_none beyond).symm.trans there
  exact
    ⟨_, ran, rfl,
      (streamingMaps_correct threeItems (by decide)).2.1 _ _ ran⟩

/--
While the consumer has not called `next` again, the task of `'c'` succeeds and
then that of `'b'`; `'b'` is yielded first.
-/
theorem mapStream_slotOrder :
    ¬ ∀ (call : StreamingMap String) (steps : List (MapStreamStep Nat))
        (state : MapStreamState String Nat),
        1 ≤ call.concurrency →
        Run call.mapStream {} steps state →
        state.yielded <+: state.fulfilled := by
  intro always
  have ran :
      Run (@mapStream _ Nat threeItems) {}
        [.pulls, .goesOn, .fulfils 0 10, .goesOn, .fulfils 2 12,
          .fulfils 1 11, .pulls, .goesOn, .goesOn]
        { slots := [⟨1, "b", some 11⟩, ⟨2, "c", some 12⟩]
          cursor := 3
          phase := .suspended 0
          requests := 0
          yielded := [(0, 10), (1, 11)]
          fulfilled := [(0, 10), (2, 12), (1, 11)] } :=
    GuardedRun.of_foldlM rfl
  have ordered := always threeItems _ _ (by decide) ran
  revert ordered
  decide

/-! ## Every concurrency -/

/--
`mapStream` does not end before every index is yielded; the workers of
`mapOrdered` do not all return before every task was started; and its generator
never awaits a slot that no worker is left to resolve.
-/
structure NeverLosesItems
    (Value : Type)
    (call : StreamingMap Item) : Prop where
  yieldsAll :
    ∀ (steps : List (MapStreamStep Value))
      (state : MapStreamState Item Value),
      Run call.mapStream {} steps state →
      state.phase = .ended →
      (state.yielded.map Prod.fst).Perm (List.range call.items.length)
  startsAll :
    ∀ (steps : List (MapOrderedStep Value))
      (state : MapOrderedState Item Value),
      Run call.mapOrdered {} steps state →
      state.phase ≠ .created →
      state.allReturned = true →
      state.started = List.range call.items.length
  notLeftWaiting :
    ∀ (steps : List (MapOrderedStep Value))
      (state : MapOrderedState Item Value) (i : Nat),
      Run call.mapOrdered {} steps state →
      state.phase = .waiting i →
      state.allReturned = true →
      ∃ value, state.slots[i]? = some (some value)

/--
The streaming maps lose no item just if the concurrency is one at least: without
room for a task `mapStream` ends at once, and `mapOrdered` has no worker.
-/
theorem neverLosesItems_iff
    (Value : Type)
    (call : StreamingMap Item)
    (nonempty : call.items ≠ []) :
    NeverLosesItems Value call ↔ 1 ≤ call.concurrency := by
  have more := List.length_pos_iff.mpr nonempty
  constructor
  · intro never
    by_contra small
    have noRoom : ¬ (0 : Int) < call.concurrency := by omega
    have unfilled :
        call.fill call.items.length
            ({ requests := 1 } : MapStreamState Item Value) =
          { requests := 1 } := by
      obtain ⟨rest, length⟩ := Nat.exists_eq_succ_of_ne_zero (Nat.ne_of_gt more)
      rw [length, fill, if_neg]
      simpa using fun room => absurd room noRoom
    have begun :
        call.begin ({ requests := 1 } : MapStreamState Item Value) =
          { requests := 1, phase := .ended } := by
      unfold StreamingMap.begin
      rw [if_neg (Nat.ne_of_gt more), unfilled]
      rfl
    have ran :
        Run call.mapStream ({} : MapStreamState Item Value)
          [.pulls, .goesOn] { requests := 1, phase := .ended } :=
      .cons trivial rfl
        (.cons trivial (congrArg some begun) .nil)
    have all := (never.yieldsAll _ _ ran rfl).length_eq
    rw [List.length_range] at all
    exact Nat.ne_of_lt more all
  · intro atLeastOne
    refine
      { yieldsAll := fun _ _ ran ended =>
          (streamSound_of_run ran).yielded_all atLeastOne ended
        startsAll := fun _ state ran launched returned => ?_
        notLeftWaiting := fun _ state i ran waits returned => ?_ }
    · have sound := orderedSound_of_run ran
      have past :=
        sound.past_of_allReturned atLeastOne nonempty launched returned
      rw [sound.started, Nat.min_eq_right past]
    · have sound := orderedSound_of_run ran
      have held := sound.phase
      simp only [OrderedPhaseSound, waits] at held
      have past :=
        sound.past_of_allReturned atLeastOne nonempty (by simp [waits])
          returned
      exact sound.resolved_of_allReturned returned past held.2

/-- Three items, of which two may be in flight. -/
theorem neverLosesItems_twoOfThree :
    NeverLosesItems Nat
      { items := ["a", "b", "c"], concurrencyOption := some 2 } :=
  (neverLosesItems_iff Nat _ (List.cons_ne_nil _ _)).mpr (by decide)

/-- With a concurrency of zero `mapOrdered` waits for an item never started. -/
theorem concurrencyZero_losesItems :
    ¬ ∀ call : StreamingMap String,
        call.items ≠ [] → NeverLosesItems Nat call := by
  intro always
  have never :=
    always { items := ["a"], concurrencyOption := some 0 }
      (List.cons_ne_nil _ _)
  have ran :
      Run (@mapOrdered _ Nat { items := ["a"], concurrencyOption := some 0 })
        {} [.pulls, .goesOn]
        { slots := [none], phase := .waiting 0, requests := 1 } :=
    GuardedRun.of_foldlM rfl
  obtain ⟨value, resolved⟩ := never.notLeftWaiting _ _ 0 ran rfl rfl
  cases resolved

end StreamingMap

end CloudflareParallel
