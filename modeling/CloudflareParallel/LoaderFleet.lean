import Mathlib.Logic.Function.Basic
import CloudflareParallel.LoaderProgram

namespace CloudflareParallel

/-!
# Loader keys of a fleet of isolates

`__counter` belongs to one evaluation of the cache-key module, while loaded
workers are cached for each owner.  A history interleaves dispatches from any
number of isolates with evaluations of their modules, and `KeyUse` records
every id that `buildCacheKey` wrote.  One event keeps `Counted`, so within one
evaluation of a module the counters of the uses grow.
-/

/-- One event in the life of the modules that compute loader ids. -/
inductive FleetEvent (Isolate Owner : Type) where
  | restarts (isolate : Isolate)
  | dispatches
      (isolate : Isolate)
      (owner : Owner)
      (dispatch : LoaderDispatch)

/-- One id written by `buildCacheKey`, with everything it was written from. -/
structure KeyUse (Isolate Owner : Type) where
  isolate : Isolate
  restarts : Nat
  owner : Owner
  input : CacheKeyInput
  counter : Nat
  now : Nat

/--
The module counters, the loaded workers of every owner, and the uses so far.
A restart evaluates the module of an isolate again and leaves the workers.
-/
structure FleetState (Isolate Owner : Type) where
  counters : Isolate → Nat
  restarts : Isolate → Nat
  loaded : Owner → List (String × WorkerCode)
  uses : List (KeyUse Isolate Owner)

/-- No module has dispatched yet. -/
def FleetState.initial
    (Isolate Owner : Type) : FleetState Isolate Owner where
  counters _ := 0
  restarts _ := 0
  loaded _ := []
  uses := []

variable {Isolate Owner : Type}

namespace KeyUse

/-- The id of the use. -/
def key (use : KeyUse Isolate Owner) : String :=
  (buildCacheKey use.counter use.now use.input).1

/-- Whether two uses were written by the same evaluation of the module. -/
def SameModule (first second : KeyUse Isolate Owner) : Prop :=
  first.isolate = second.isolate ∧ first.restarts = second.restarts

/-- The later use, when it is fresh, has an id that the earlier one has not. -/
def NewAfter (earlier later : KeyUse Isolate Owner) : Prop :=
  later.input.isFresh →
  earlier.owner = later.owner →
  earlier.key ≠ later.key

/--
Two evaluations of the module that write fresh ids for one owner and one hash
are at different counts.
-/
def CountsApart (earlier later : KeyUse Isolate Owner) : Prop :=
  earlier.input.isFresh →
  later.input.isFresh →
  earlier.owner = later.owner →
  earlier.input.combined = later.input.combined →
  ¬ earlier.SameModule later →
  earlier.counter ≠ later.counter

/-- A fresh use moves the counter of its module on. -/
def CountedBefore (earlier later : KeyUse Isolate Owner) : Prop :=
  earlier.input.isFresh →
  earlier.SameModule later →
  earlier.counter < later.counter

/-- A fresh id is that of an earlier use with the same hash and counter only. -/
theorem key_eq_iff_of_fresh
    {earlier later : KeyUse Isolate Owner}
    (fresh : later.input.isFresh) :
    earlier.key = later.key ↔
      earlier.input.isFresh ∧
        earlier.input.combined = later.input.combined ∧
          earlier.counter = later.counter := by
  unfold key
  rw [buildCacheKey_eq_key, buildCacheKey_eq_key, CacheKeyShape.key_inj]
  unfold CacheKeyInput.shape
  cases earlierFresh : earlier.input.isFresh <;> simp [fresh]

/-- Where counters grow within a module, only other modules can collide. -/
theorem newAfter_iff
    {earlier later : KeyUse Isolate Owner}
    (counted : earlier.CountedBefore later) :
    earlier.NewAfter later ↔ earlier.CountsApart later := by
  constructor
  · intro new earlierFresh laterFresh owner combined _ same
    exact new laterFresh owner
      ((key_eq_iff_of_fresh laterFresh).mpr ⟨earlierFresh, combined, same⟩)
  · intro apart laterFresh owner sameKey
    obtain ⟨earlierFresh, combined, same⟩ :=
      (key_eq_iff_of_fresh laterFresh).mp sameKey
    by_cases module : earlier.SameModule later
    · exact Nat.ne_of_lt (counted earlierFresh module) same
    · exact apart earlierFresh laterFresh owner combined module same

end KeyUse

namespace FleetState

/-- The loader that a dispatch from this isolate for this owner sees. -/
def loader
    (state : FleetState Isolate Owner)
    (isolate : Isolate)
    (owner : Owner) : LoaderState where
  counter := state.counters isolate
  loaded := state.loaded owner

@[simp] theorem loader_counter
    (state : FleetState Isolate Owner)
    (isolate : Isolate)
    (owner : Owner) :
    (state.loader isolate owner).counter = state.counters isolate := rfl

@[simp] theorem loader_loaded
    (state : FleetState Isolate Owner)
    (isolate : Isolate)
    (owner : Owner) :
    (state.loader isolate owner).loaded = state.loaded owner := rfl

/-- The id that a dispatch writes, when its context can be canonicalized. -/
def use?
    (state : FleetState Isolate Owner)
    (isolate : Isolate)
    (owner : Owner)
    (dispatch : LoaderDispatch) : Option (KeyUse Isolate Owner) :=
  dispatch.cacheKeyInput.toOption.map fun input => {
    isolate := isolate
    restarts := state.restarts isolate
    owner := owner
    input := input
    counter := state.counters isolate
    now := dispatch.now
  }

variable [DecidableEq Isolate] [DecidableEq Owner]

/-- One event; a dispatch is `#runWithMode` on the loader of its owner. -/
def step
    (state : FleetState Isolate Owner) :
    FleetEvent Isolate Owner → FleetState Isolate Owner
  | .restarts isolate => {
      state with
      counters := Function.update state.counters isolate 0
      restarts :=
        Function.update state.restarts isolate (state.restarts isolate + 1)
    }
  | .dispatches isolate owner dispatch =>
      let after := (runWithMode (state.loader isolate owner) dispatch).2
      {
        state with
        counters := Function.update state.counters isolate after.counter
        loaded := Function.update state.loaded owner after.loaded
        uses := state.uses ++ (state.use? isolate owner dispatch).toList
      }

/-- The state after a history. -/
def after
    (history : List (FleetEvent Isolate Owner)) :
    FleetState Isolate Owner :=
  history.foldl step (initial Isolate Owner)

/-- What the uses of a history say about the counters and the loaders. -/
structure Counted (state : FleetState Isolate Owner) : Prop where
  restarted :
    ∀ use ∈ state.uses, use.restarts ≤ state.restarts use.isolate
  counted :
    ∀ use ∈ state.uses,
      use.input.isFresh →
      use.restarts = state.restarts use.isolate →
      use.counter < state.counters use.isolate
  ordered : state.uses.Pairwise KeyUse.CountedBefore
  recorded :
    ∀ owner key code,
      (state.loaded owner).lookup key = some code →
      ∃ use ∈ state.uses, use.owner = owner ∧ use.key = key

omit [DecidableEq Isolate] [DecidableEq Owner] in
/-- Nothing was written yet. -/
theorem counted_initial : (initial Isolate Owner).Counted where
  restarted _ member := nomatch member
  counted _ member := nomatch member
  ordered := .nil
  recorded _ _ _ found := nomatch found

/-- What a dispatch that writes an id does to the fleet. -/
structure Writes
    (state : FleetState Isolate Owner)
    (use : KeyUse Isolate Owner)
    (next : FleetState Isolate Owner) : Prop where
  ownCounter : use.counter = state.counters use.isolate
  ownRestarts : use.restarts = state.restarts use.isolate
  counters :
    next.counters =
      Function.update state.counters use.isolate
        (if use.input.isFresh then use.counter + 1 else use.counter)
  restarts : next.restarts = state.restarts
  uses : next.uses = state.uses ++ [use]
  loaded :
    next.loaded = state.loaded ∨
      ∃ code,
        next.loaded =
          Function.update state.loaded use.owner
            (state.loaded use.owner ++ [(use.key, code)])

/-- A dispatch writes its id, or changes nothing. -/
theorem dispatches_cases
    (state : FleetState Isolate Owner)
    (isolate : Isolate)
    (owner : Owner)
    (dispatch : LoaderDispatch) :
    (state.use? isolate owner dispatch = none ∧
      state.step (.dispatches isolate owner dispatch) = state) ∨
    (∃ use,
      state.use? isolate owner dispatch = some use ∧
        state.Writes use
          (state.step (.dispatches isolate owner dispatch))) := by
  rcases runWithMode_cases (state.loader isolate owner) dispatch with
    ⟨err, keyed, ran⟩ | ⟨input, key, counter, code, keyed, isKey, isCounter,
      outcome⟩
  · left
    simp [step, use?, keyed, ran, Except.toOption]
  · right
    refine ⟨_, by rw [use?, keyed]; rfl, ?_⟩
    have written :
        key =
          (buildCacheKey (state.counters isolate) dispatch.now input).1 := by
      rw [isKey, buildCacheKey_eq_key]
      rfl
    rcases outcome with ⟨_, ran⟩ | ⟨_, _, ran⟩
    · refine ⟨rfl, rfl, ?_, rfl, ?_, .inl ?_⟩
      · simp [step, ran, isCounter]
      · simp [step, use?, keyed, Except.toOption]
      · simp [step, ran]
    · refine ⟨rfl, rfl, ?_, rfl, ?_, .inr ⟨code, ?_⟩⟩
      · simp [step, ran, isCounter]
      · simp [step, use?, keyed, Except.toOption]
      · simp [step, ran, written, KeyUse.key]

/-- A restart leaves the uses, all of them from earlier evaluations. -/
theorem Counted.restart
    {state : FleetState Isolate Owner}
    (counted : state.Counted)
    (isolate : Isolate) :
    (state.step (.restarts isolate)).Counted where
  restarted use member := by
    have known := counted.restarted use member
    by_cases same : use.isolate = isolate
    · subst same
      simp only [step, Function.update_self]
      exact Nat.le_succ_of_le known
    · simpa [step, Function.update_of_ne same] using known
  counted use member fresh current := by
    by_cases same : use.isolate = isolate
    · subst same
      simp only [step, Function.update_self] at current
      have known := counted.restarted use member
      exact absurd known (by rw [current]; exact Nat.not_succ_le_self _)
    · simp only [step, Function.update_of_ne same] at current ⊢
      exact counted.counted use member fresh current
  ordered := counted.ordered
  recorded := counted.recorded

/-- Writing an id keeps the record. -/
theorem Counted.write
    {state next : FleetState Isolate Owner}
    {written : KeyUse Isolate Owner}
    (counted : state.Counted)
    (writes : state.Writes written next) :
    next.Counted where
  restarted use member := by
    rw [writes.restarts]
    rw [writes.uses, List.mem_append, List.mem_singleton] at member
    rcases member with earlier | rfl
    · exact counted.restarted use earlier
    · exact Nat.le_of_eq writes.ownRestarts
  counted use member fresh current := by
    rw [writes.restarts] at current
    rw [writes.uses, List.mem_append, List.mem_singleton] at member
    rw [writes.counters]
    rcases member with earlier | rfl
    · have known := counted.counted use earlier fresh current
      by_cases same : use.isolate = written.isolate
      · rw [same, Function.update_self]
        rw [same, ← writes.ownCounter] at known
        split
        · exact Nat.lt_succ_of_lt known
        · exact known
      · rw [Function.update_of_ne same]
        exact known
    · rw [Function.update_self, if_pos fresh]
      exact Nat.lt_succ_self _
  ordered := by
    rw [writes.uses, List.pairwise_append]
    refine ⟨counted.ordered, List.pairwise_singleton _ _, ?_⟩
    intro earlier member later isWritten fresh module
    rw [List.mem_singleton.mp isWritten] at module ⊢
    obtain ⟨isolate, restarts⟩ := module
    rw [writes.ownCounter, ← isolate]
    apply counted.counted earlier member fresh
    rw [restarts, writes.ownRestarts, isolate]
  recorded owner key code found := by
    rw [writes.uses]
    have extend :
        (∃ use ∈ state.uses, use.owner = owner ∧ use.key = key) →
        ∃ use ∈ state.uses ++ [written],
          use.owner = owner ∧ use.key = key :=
      fun ⟨use, member, holds⟩ =>
        ⟨use, List.mem_append_left _ member, holds⟩
    rcases writes.loaded with same | ⟨own, grown⟩
    · rw [same] at found
      exact extend (counted.recorded owner key code found)
    · rw [grown] at found
      by_cases ofOwner : owner = written.owner
      · subst ofOwner
        rw [Function.update_self] at found
        by_cases ofKey : key = written.key
        · exact ⟨written, List.mem_append_right _ (List.mem_singleton_self _),
            rfl, ofKey.symm⟩
        · rw [lookup_append_of_ne ofKey] at found
          exact extend (counted.recorded _ key code found)
      · rw [Function.update_of_ne ofOwner] at found
        exact extend (counted.recorded owner key code found)

/-- Every event keeps the record. -/
theorem Counted.step
    {state : FleetState Isolate Owner}
    (counted : state.Counted)
    (event : FleetEvent Isolate Owner) :
    (state.step event).Counted := by
  cases event with
  | restarts isolate =>
      exact counted.restart isolate
  | dispatches isolate owner dispatch =>
      rcases state.dispatches_cases isolate owner dispatch with
        ⟨_, unchanged⟩ | ⟨_, _, writes⟩
      · rw [unchanged]
        exact counted
      · exact counted.write writes

/-- A history that goes on takes one more step. -/
theorem after_concat
    (past : List (FleetEvent Isolate Owner))
    (event : FleetEvent Isolate Owner) :
    after (past ++ [event]) = (after past).step event := by
  unfold after
  rw [List.foldl_append]
  rfl

/-- After every history the record is right. -/
theorem counted_after
    (history : List (FleetEvent Isolate Owner)) :
    (after history).Counted := by
  induction history using List.reverseRecOn with
  | nil =>
      exact counted_initial
  | append_singleton past event inductionHypothesis =>
      rw [after_concat]
      exact inductionHypothesis.step event

/-- Every fresh id of a history differs from all earlier ones of its owner. -/
def FreshKeysAreNew (history : List (FleetEvent Isolate Owner)) : Prop :=
  (after history).uses.Pairwise KeyUse.NewAfter

/-- No two evaluations of the module write one owner and hash at one count. -/
def ModulesCountApart (history : List (FleetEvent Isolate Owner)) : Prop :=
  (after history).uses.Pairwise KeyUse.CountsApart

/-- A fresh dispatch with a new id runs on the worker of its own callback. -/
theorem runsOwnCode_of_new
    {history : List (FleetEvent Isolate Owner)}
    {isolate : Isolate}
    {owner : Owner}
    {dispatch : LoaderDispatch}
    {input : CacheKeyInput}
    (keyed : dispatch.cacheKeyInput = .ok input)
    (fresh : input.isFresh)
    (new :
      FreshKeysAreNew (history ++ [.dispatches isolate owner dispatch])) :
    ∃ code,
      dispatch.ownCode = .ok code ∧
        (runWithMode ((after history).loader isolate owner) dispatch).1 =
          .ok { code := code, call := dispatch.entrypointCall } := by
  have written :
      (after history).use? isolate owner dispatch =
        some {
          isolate := isolate
          restarts := (after history).restarts isolate
          owner := owner
          input := input
          counter := (after history).counters isolate
          now := dispatch.now
        } := by
    rw [use?, keyed]
    rfl
  unfold FreshKeysAreNew at new
  rw [after_concat, step, written] at new
  have newAfterAll := (List.pairwise_append.mp new).2.2
  rcases runWithMode_cases ((after history).loader isolate owner) dispatch with
    ⟨err, failed, _⟩ | ⟨found, key, _, code, isInput, isKey, _, outcome⟩
  · rw [keyed] at failed
    cases failed
  · rw [keyed] at isInput
    cases isInput
    rcases outcome with ⟨held, _⟩ | ⟨_, own, ran⟩
    · -- A held id was written before, so the last use would not be new.
      obtain ⟨earlier, member, ofOwner, ofKey⟩ :=
        (counted_after history).recorded owner key code held
      refine absurd ?_
        (newAfterAll earlier member _ (List.mem_singleton_self _) fresh
          ofOwner)
      rw [ofKey, isKey, KeyUse.key, buildCacheKey_eq_key]
      rfl
    · exact ⟨code, own, by rw [ran]⟩

/--
Fresh ids are new exactly when no other evaluation of the module was at the
same count: one module never repeats itself, and no shared id gets in the way.
While they are new, every fresh dispatch runs on a worker of its own.
-/
theorem freshKeysAreNew_iff
    (history : List (FleetEvent Isolate Owner)) :
    (FreshKeysAreNew history ↔ ModulesCountApart history) ∧
      ∀ isolate owner dispatch input,
        LoaderDispatch.cacheKeyInput dispatch = .ok input →
        input.isFresh →
        FreshKeysAreNew (history ++ [.dispatches isolate owner dispatch]) →
        ∃ code,
          dispatch.ownCode = .ok code ∧
            (runWithMode ((after history).loader isolate owner) dispatch).1 =
              .ok { code := code, call := dispatch.entrypointCall } := by
  have ordered := (counted_after history).ordered
  refine ⟨⟨?_, ?_⟩, ?_⟩
  · intro new
    exact (ordered.and new).imp fun ⟨counted, holds⟩ =>
      (KeyUse.newAfter_iff counted).mp holds
  · intro apart
    exact (ordered.and apart).imp fun ⟨counted, holds⟩ =>
      (KeyUse.newAfter_iff counted).mpr holds
  · intro isolate owner dispatch input keyed fresh new
    exact runsOwnCode_of_new keyed fresh new

/-- A fresh dispatch of a source that captures nothing. -/
def freshDispatch : LoaderDispatch :=
  { LoaderDispatch.stable "() => 1" with
    options := { callSite := .doMethod, cacheKeyStrategy := .fresh } }

/-- Two isolates of one owner write the same fresh id. -/
theorem not_freshKeysAreNew_twoIsolates :
    ¬ ∀ history : List (FleetEvent Nat Nat), FreshKeysAreNew history := by
  intro always
  have new := List.pairwise_pair.mp
    (always [.dispatches 0 0 freshDispatch, .dispatches 1 0 freshDispatch])
  exact new rfl rfl rfl

end FleetState

end CloudflareParallel
