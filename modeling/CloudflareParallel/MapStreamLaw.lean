import CloudflareParallel.Library.SlotLists
import CloudflareParallel.MapStream

namespace CloudflareParallel

open LabelledRuns
open SlotLists

/-!
# The invariants of `mapStream`

The slots and what was yielded share out the indices that were started, and
what was fulfilled is what was yielded and what the slots hold.  The second
invariant is about order: as long as no task overtakes a result that waits in a
later slot, what was fulfilled first is yielded first.
-/

namespace StreamingMap

variable {Item Value : Type}
variable {call : StreamingMap Item}

/-! ## The slots -/

/-- What the slots of a generator and its results have to do with each other. -/
structure Kept
    (call : StreamingMap Item)
    (slots : List (StreamSlot Item Value))
    (cursor : Nat)
    (yielded fulfilled : List (Nat × Value)) : Prop where
  indices :
    (slots.map (·.idx) ++ yielded.map Prod.fst).Perm (List.range cursor)
  results : (slots.filterMap (·.result?) ++ yielded).Perm fulfilled
  cursorLe : cursor ≤ call.items.length
  slotItem : ∀ slot ∈ slots, call.items[slot.idx]? = some slot.item

/-- What is kept, for the slots whose results are still to be yielded. -/
abbrev KeepsState
    (call : StreamingMap Item)
    (state : MapStreamState Item Value)
    (slots : List (StreamSlot Item Value)) : Prop :=
  Kept call slots state.cursor state.yielded state.fulfilled

/-- The slot that is decided holds a result. -/
def HasResult
    (state : MapStreamState Item Value)
    (position : Nat) : Prop :=
  ∃ slot result,
    state.slots[position]? = some slot ∧ slot.result? = some result

/-- What holds where the generator is. -/
def PhaseSound
    (call : StreamingMap Item)
    (state : MapStreamState Item Value) : Prop :=
  match state.phase with
  | .created => state.slots = [] ∧ state.cursor = 0
  | .racing none =>
      state.slots ≠ [] ∧ ∀ slot ∈ state.slots, slot.result? = none
  | .racing (some winner) => HasResult state winner
  | .suspended winner => HasResult state winner
  | .ended =>
      state.slots = [] ∧
        (1 ≤ call.concurrency → state.cursor = call.items.length)

/-- The invariant of a generator. -/
structure StreamSound
    (call : StreamingMap Item)
    (state : MapStreamState Item Value) : Prop where
  kept : KeepsState call state state.live
  bounded : (state.slots.length : Int) ≤ max 0 call.concurrency
  phase : PhaseSound call state

/-- A slot without a value has no result. -/
theorem result?_eq_none
    {slot : StreamSlot Item Value}
    (empty : slot.value.isNone = true) :
    slot.result? = none := by
  rw [StreamSlot.result?, Option.isNone_iff_eq_none.mp empty]
  rfl

/-- A slot has a result just if it has a value. -/
theorem isSome_result? (slot : StreamSlot Item Value) :
    slot.result?.isSome = slot.value.isSome := by
  simp [StreamSlot.result?]

/-- The generator starts with nothing. -/
theorem streamSound_created
    (call : StreamingMap Item) :
    StreamSound call ({} : MapStreamState Item Value) where
  kept :=
    { indices := .refl []
      results := .refl []
      cursorLe := Nat.zero_le _
      slotItem := fun _ member => absurd member List.not_mem_nil }
  bounded := Int.le_max_left _ _
  phase := ⟨rfl, rfl⟩

/-- A task that is started gets the next index. -/
theorem Kept.push
    {state : MapStreamState Item Value}
    (kept : KeepsState call state state.slots)
    (inside : state.cursor < call.items.length) :
    KeepsState call (call.push state) (call.push state).slots ∧
      (call.push state).slots.length = state.slots.length + 1 := by
  have found := List.getElem?_eq_getElem inside
  unfold StreamingMap.push
  rw [found]
  refine ⟨?_, by simp⟩
  refine
    { indices := ?_
      results := ?_
      cursorLe := inside
      slotItem := ?_ }
  · simp only [List.map_append, List.map_singleton, List.range_succ,
      List.append_assoc, List.singleton_append]
    exact
      (List.perm_middle.trans (kept.indices.cons state.cursor)).trans
        (List.perm_append_singleton _ _).symm
  · simp only [List.filterMap_append]
    simpa [StreamSlot.result?] using kept.results
  · intro slot member
    rcases List.mem_append.mp member with before | new
    · exact kept.slotItem slot before
    · cases List.mem_singleton.mp new
      exact found

/-- A race is decided for a slot that holds a result, or nothing holds one. -/
theorem streamSound_race
    {state : MapStreamState Item Value}
    (kept : KeepsState call state state.slots)
    (bounded : (state.slots.length : Int) ≤ max 0 call.concurrency)
    (finished :
      state.slots = [] →
      1 ≤ call.concurrency →
      state.cursor = call.items.length) :
    StreamSound call (race state) := by
  unfold race
  split
  next some =>
    refine
      { kept := kept
        bounded := bounded
        phase := ?_ }
    cases found : state.slots.findIdx? (·.value.isSome) with
    | none =>
        refine ⟨List.ne_nil_of_length_pos some, fun slot member => ?_⟩
        have empty := List.findIdx?_eq_none_iff.mp found slot member
        exact result?_eq_none (by simpa using empty)
    | some winner =>
        obtain ⟨inside, holds, -⟩ :=
          List.findIdx?_eq_some_iff_getElem.mp found
        rw [← isSome_result?] at holds
        exact
          ⟨_, _, List.getElem?_eq_getElem inside,
            (Option.some_get holds).symm⟩
  next none =>
    have noSlot : state.slots = [] := by
      rw [← List.length_eq_zero_iff]
      omega
    exact
      { kept := kept
        bounded := bounded
        phase := ⟨noSlot, finished noSlot⟩ }

/-- The first loop starts tasks up to the limit or the end of the items. -/
theorem fill_sound
    (turns : Nat)
    {state : MapStreamState Item Value}
    (kept : KeepsState call state state.slots)
    (bounded : (state.slots.length : Int) ≤ max 0 call.concurrency)
    (enough : call.items.length ≤ state.cursor + turns) :
    KeepsState call (call.fill turns state) (call.fill turns state).slots ∧
      ((call.fill turns state).slots.length : Int) ≤
        max 0 call.concurrency ∧
      ((call.fill turns state).cursor = call.items.length ∨
        call.concurrency ≤ ((call.fill turns state).slots.length : Int)) := by
  induction turns generalizing state with
  | zero =>
      have atEnd := kept.cursorLe
      exact ⟨kept, bounded, .inl (by simp only [fill]; omega)⟩
  | succ turns inductionHypothesis =>
      unfold fill
      split
      next more =>
        obtain ⟨keptNext, longer⟩ := Kept.push kept more.2
        have moved : (call.push state).cursor = state.cursor + 1 := by
          unfold StreamingMap.push
          rw [List.getElem?_eq_getElem more.2]
        exact inductionHypothesis keptNext (by omega) (by omega)
      next stopped =>
        have atEnd := kept.cursorLe
        refine ⟨kept, bounded, ?_⟩
        by_cases limited : (state.slots.length : Int) < call.concurrency
        · exact .inl (by
            by_contra short
            exact stopped ⟨limited, by omega⟩)
        · exact .inr (Int.not_lt.mp limited)

/-- The start of the generator. -/
theorem StreamSound.begin
    {state : MapStreamState Item Value}
    (sound : StreamSound call state)
    (created : state.phase = .created) :
    StreamSound call (call.begin state) := by
  have fresh := sound.phase
  have kept := sound.kept
  simp only [PhaseSound, created] at fresh
  simp only [MapStreamState.live, created] at kept
  unfold StreamingMap.begin
  split
  next none =>
    exact
      { kept := kept
        bounded := sound.bounded
        phase := ⟨fresh.1, fun _ => fresh.2.trans none.symm⟩ }
  next =>
    obtain ⟨keptNext, bounded, filled⟩ :=
      fill_sound call.items.length kept sound.bounded (by omega)
    apply streamSound_race keptNext bounded
    intro noSlot atLeastOne
    rcases filled with atEnd | limited
    · exact atEnd
    · rw [noSlot, List.length_nil] at limited
      omega

/-- The generator behind a `yield`. -/
theorem StreamSound.afterYield
    {state : MapStreamState Item Value}
    {winner : Nat}
    (sound : StreamSound call state)
    (suspended : state.phase = .suspended winner) :
    StreamSound call (call.afterYield state winner) := by
  have kept := sound.kept
  have held := sound.phase
  have bounded := sound.bounded
  simp only [PhaseSound, suspended] at held
  simp only [MapStreamState.live, suspended] at kept
  obtain ⟨slot, result, there, -⟩ := held
  obtain ⟨inside, -⟩ := List.getElem?_eq_some_iff.mp there
  have shorter := List.length_eraseIdx_of_lt inside
  unfold StreamingMap.afterYield
  simp only
  split
  next more =>
    obtain ⟨keptNext, longer⟩ :=
      @Kept.push _ _ call
        { state with slots := state.slots.eraseIdx winner } kept more
    simp only [shorter] at longer
    apply streamSound_race keptNext (by omega)
    intro noSlot
    rw [noSlot] at longer
    cases longer
  next finished =>
    have atEnd := kept.cursorLe
    apply
      @streamSound_race _ _ call
        { state with slots := state.slots.eraseIdx winner } kept
    · simp only [shorter]
      omega
    · intro _ _
      simp only
      omega

/-- The generator behind a race yields the result of the winner. -/
theorem StreamSound.yieldResult
    {state : MapStreamState Item Value}
    {winner : Nat}
    {result : Nat × Value}
    (sound : StreamSound call state)
    (racing : state.phase = .racing (some winner))
    (won : state.slots[winner]?.bind (·.result?) = some result) :
    StreamSound call (yieldResult state winner result) := by
  obtain ⟨slot, there, holds⟩ := Option.bind_eq_some_iff.mp won
  have kept := sound.kept
  simp only [MapStreamState.live, racing] at kept
  have others := cons_eraseIdx_perm there
  have index : slot.idx = result.1 := by
    obtain ⟨value, -, rfl⟩ := Option.map_eq_some_iff.mp holds
    rfl
  refine
    { kept := ?_
      bounded := sound.bounded
      phase := ⟨slot, result, there, holds⟩ }
  refine
    { indices := ?_
      results := ?_
      cursorLe := kept.cursorLe
      slotItem := fun other member =>
        kept.slotItem other (List.mem_of_mem_eraseIdx member) }
  · refine List.Perm.trans ?_ kept.indices
    simp only [MapStreamState.live, StreamingMap.yieldResult, List.map_append,
      List.map_singleton, ← List.append_assoc]
    refine (List.perm_append_singleton _ _).trans ?_
    rw [← index]
    exact (others.map (·.idx)).append_right _
  · refine List.Perm.trans ?_ kept.results
    simp only [MapStreamState.live, StreamingMap.yieldResult,
      ← List.append_assoc]
    refine (List.perm_append_singleton _ _).trans ?_
    have split := others.filterMap (·.result?)
    rw [List.filterMap_cons_some holds] at split
    exact split.append_right _

/-- A slot whose promise is fulfilled holds what was fulfilled. -/
theorem Kept.fulfil
    {slots : List (StreamSlot Item Value)}
    {cursor position : Nat}
    {yielded fulfilled : List (Nat × Value)}
    {slot : StreamSlot Item Value}
    (kept : Kept call slots cursor yielded fulfilled)
    (there : slots[position]? = some slot)
    (empty : slot.value.isNone = true)
    (value : Value) :
    Kept call (slots.set position { slot with value := some value }) cursor
      yielded (fulfilled ++ [(slot.idx, value)]) := by
  have blank := result?_eq_none empty
  refine
    { indices := ?_
      results := ?_
      cursorLe := kept.cursorLe
      slotItem := ?_ }
  · have sameIndices :=
      @map_set _ _ slots position slot { slot with value := some value }
        there (·.idx) rfl
    rw [sameIndices]
    exact kept.indices
  · have added :=
      @filterMap_set_perm _ _ slots position slot
        { slot with value := some value } (·.result?) (slot.idx, value) there
        blank rfl
    exact
      ((added.append_right yielded).trans
        (kept.results.cons (slot.idx, value))).trans
          (List.perm_append_singleton _ _).symm
  · intro other member
    rcases List.mem_or_eq_of_mem_set member with before | rfl
    · exact kept.slotItem other before
    · exact kept.slotItem slot (List.mem_of_getElem? there)

/-- A slot that holds a result is not the one that is filled. -/
theorem HasResult.ne
    {state : MapStreamState Item Value}
    {position winner : Nat}
    {slot : StreamSlot Item Value}
    (held : HasResult state winner)
    (there : state.slots[position]? = some slot)
    (empty : slot.value.isNone = true) :
    position ≠ winner := by
  rintro rfl
  obtain ⟨other, result, same, holds⟩ := held
  cases there.symm.trans same
  rw [result?_eq_none empty] at holds
  cases holds

/-- A result stays where it is when another slot is filled. -/
theorem HasResult.fulfil
    {state : MapStreamState Item Value}
    {position winner : Nat}
    (held : HasResult state winner)
    (apart : position ≠ winner)
    (slot : StreamSlot Item Value)
    (value : Value) :
    HasResult (fulfil state position slot value) winner := by
  obtain ⟨other, result, same, holds⟩ := held
  refine ⟨other, result, ?_, holds⟩
  simp only [StreamingMap.fulfil]
  rw [List.getElem?_set_ne apart]
  exact same

/-- The promise of a slot is fulfilled. -/
theorem StreamSound.fulfil
    {state : MapStreamState Item Value}
    {position : Nat}
    {slot : StreamSlot Item Value}
    (sound : StreamSound call state)
    (there : state.slots[position]? = some slot)
    (empty : slot.value.isNone = true)
    (value : Value) :
    StreamSound call (fulfil state position slot value) := by
  have kept := sound.kept
  have held := sound.phase
  have bounded := sound.bounded
  have sameLength :
      ((StreamingMap.fulfil state position slot value).slots.length : Int) ≤
        max 0 call.concurrency := by
    simp only [StreamingMap.fulfil, List.length_set]
    exact bounded
  cases at_ : state.phase with
  | created =>
      simp only [PhaseSound, at_] at held
      rw [held.1] at there
      cases there
  | ended =>
      simp only [PhaseSound, at_] at held
      rw [held.1] at there
      cases there
  | racing decided =>
      simp only [MapStreamState.live, at_] at kept
      have keptNext := kept.fulfil there empty value
      cases decided with
      | none =>
          have filled :
              HasResult (StreamingMap.fulfil state position slot value)
                position := by
            obtain ⟨inside, -⟩ := List.getElem?_eq_some_iff.mp there
            exact
              ⟨_, (slot.idx, value),
                List.getElem?_set_self (by simpa using inside), rfl⟩
          refine
            { kept := ?_
              bounded := sameLength
              phase := ?_ }
          · simpa only [MapStreamState.live, StreamingMap.fulfil, at_]
              using keptNext
          · simpa only [PhaseSound, StreamingMap.fulfil, at_] using filled
      | some winner =>
          simp only [PhaseSound, at_] at held
          have still := held.fulfil (held.ne there empty) slot value
          refine
            { kept := ?_
              bounded := sameLength
              phase := ?_ }
          · simpa only [MapStreamState.live, StreamingMap.fulfil, at_]
              using keptNext
          · simpa only [PhaseSound, StreamingMap.fulfil, at_] using still
  | suspended winner =>
      simp only [PhaseSound, at_] at held
      simp only [MapStreamState.live, at_] at kept
      have apart := held.ne there empty
      have still := held.fulfil apart slot value
      have keptNext :=
        kept.fulfil ((getElem?_eraseIdx_of_ne apart).trans there) empty value
      rw [← set_eraseIdx_of_ne apart] at keptNext
      refine
        { kept := ?_
          bounded := sameLength
          phase := ?_ }
      · simpa only [MapStreamState.live, StreamingMap.fulfil, at_]
          using keptNext
      · simpa only [PhaseSound, StreamingMap.fulfil, at_] using still

/-- Every step of a generator keeps its invariant. -/
theorem streamSound_of_step
    {state next : MapStreamState Item Value}
    {label : MapStreamStep Value}
    (stepped : call.mapStream state label = some next)
    (sound : StreamSound call state) :
    StreamSound call next := by
  cases label with
  | pulls =>
      cases stepped
      exact
        { kept := sound.kept
          bounded := sound.bounded
          phase := sound.phase }
  | fulfils position value =>
      simp only [mapStream] at stepped
      split at stepped
      next slot there =>
        split at stepped
        next empty =>
          cases stepped
          exact sound.fulfil there empty value
        next => cases stepped
      next => cases stepped
  | goesOn =>
      simp only [mapStream, goOn] at stepped
      split at stepped
      next created =>
        split at stepped
        · cases stepped
          exact sound.begin created
        · cases stepped
      next => cases stepped
      next winner racing =>
        split at stepped
        next result won =>
          cases stepped
          exact sound.yieldResult racing won
        next => cases stepped
      next winner suspended =>
        split at stepped
        · cases stepped
          exact sound.afterYield suspended
        · cases stepped
      next => cases stepped

/-- The invariant holds in every run of a generator. -/
theorem streamSound_of_run
    {steps : List (MapStreamStep Value)}
    {state : MapStreamState Item Value}
    (ran : Run call.mapStream {} steps state) :
    StreamSound call state :=
  ran.invariant (fun _ stepped before => streamSound_of_step stepped before)
    (streamSound_created call)

/-! ## The order of the results -/

/--
A task that succeeds overtakes no other: no result waits in a later slot, apart
from that the generator has decided for.
-/
def OvertakesNone
    (state : MapStreamState Item Value) :
    MapStreamStep Value → Prop
  | .fulfils position _ =>
      ∀ later slot,
        position < later →
        state.slots[later]? = some slot →
        slot.value.isSome →
        state.decided = some later
  | _ => True

/-- The slots that the generator has not decided for. -/
def undecided
    (state : MapStreamState Item Value) : List (StreamSlot Item Value) :=
  match state.decided with
  | some winner => state.slots.eraseIdx winner
  | none => state.slots

/-- The result that is yielded next, once a race is decided. -/
def front (state : MapStreamState Item Value) : List (Nat × Value) :=
  match state.phase with
  | .racing (some winner) => (state.slots[winner]?.bind (·.result?)).toList
  | _ => []

/-- What was fulfilled is what was yielded, then what waits, slot by slot. -/
def InOrder (state : MapStreamState Item Value) : Prop :=
  state.fulfilled =
    state.yielded ++ (front state ++ (undecided state).filterMap (·.result?))

/-- Starting a task leaves the results as they are. -/
theorem results_push (state : MapStreamState Item Value) :
    (call.push state).slots.filterMap (·.result?) =
        state.slots.filterMap (·.result?) ∧
      (call.push state).yielded = state.yielded ∧
      (call.push state).fulfilled = state.fulfilled := by
  unfold StreamingMap.push
  split
  · simp [StreamSlot.result?]
  · exact ⟨rfl, rfl, rfl⟩

/-- Starting tasks leaves the results as they are. -/
theorem results_fill
    (turns : Nat)
    (state : MapStreamState Item Value) :
    (call.fill turns state).slots.filterMap (·.result?) =
        state.slots.filterMap (·.result?) ∧
      (call.fill turns state).yielded = state.yielded ∧
      (call.fill turns state).fulfilled = state.fulfilled := by
  induction turns generalizing state with
  | zero =>
      exact ⟨rfl, rfl, rfl⟩
  | succ turns inductionHypothesis =>
      unfold fill
      split
      · obtain ⟨results, yielded, fulfilled⟩ :=
          inductionHypothesis (call.push state)
        obtain ⟨results', yielded', fulfilled'⟩ :=
          @results_push _ _ call state
        exact
          ⟨results.trans results', yielded.trans yielded',
            fulfilled.trans fulfilled'⟩
      · exact ⟨rfl, rfl, rfl⟩

/-- A race decides for the first result that waits. -/
theorem inOrder_race
    {state : MapStreamState Item Value}
    (ordered :
      state.fulfilled =
        state.yielded ++ state.slots.filterMap (·.result?)) :
    InOrder (race state) := by
  unfold race
  split
  next =>
    simp only [InOrder, front, undecided, MapStreamState.decided]
    cases found : state.slots.findIdx? (·.value.isSome) with
    | none => exact ordered
    | some winner =>
        have first :
            state.slots.findIdx? (fun slot => slot.result?.isSome) =
              some winner := by
          simp only [isSome_result?]
          exact found
        rw [filterMap_first first] at ordered
        exact ordered
  next => exact ordered

/-- The start of the generator keeps the order. -/
theorem InOrder.begin
    {state : MapStreamState Item Value}
    (ordered : InOrder state)
    (created : state.phase = .created) :
    InOrder (call.begin state) := by
  simp only [InOrder, front, undecided, MapStreamState.decided, created,
    List.nil_append] at ordered
  unfold StreamingMap.begin
  split
  next => exact ordered
  next =>
    obtain ⟨results, yielded, fulfilled⟩ :=
      @results_fill _ _ call call.items.length state
    apply inOrder_race
    rw [results, yielded, fulfilled]
    exact ordered

/-- The generator behind a `yield` keeps the order. -/
theorem InOrder.afterYield
    {state : MapStreamState Item Value}
    {winner : Nat}
    (ordered : InOrder state)
    (suspended : state.phase = .suspended winner) :
    InOrder (call.afterYield state winner) := by
  simp only [InOrder, front, undecided, MapStreamState.decided, suspended,
    List.nil_append] at ordered
  unfold StreamingMap.afterYield
  simp only
  split
  next =>
    obtain ⟨results, yielded, fulfilled⟩ :=
      @results_push _ _ call
        { state with slots := state.slots.eraseIdx winner }
    apply inOrder_race
    rw [results, yielded, fulfilled]
    exact ordered
  next =>
    apply inOrder_race
    exact ordered

/-- Yielding the result of the winner keeps the order. -/
theorem InOrder.yieldResult
    {state : MapStreamState Item Value}
    {winner : Nat}
    {result : Nat × Value}
    (ordered : InOrder state)
    (racing : state.phase = .racing (some winner))
    (won : state.slots[winner]?.bind (·.result?) = some result) :
    InOrder (yieldResult state winner result) := by
  simp only [InOrder, front, undecided, MapStreamState.decided, racing, won,
    Option.toList_some] at ordered
  simp only [InOrder, front, undecided, MapStreamState.decided,
    StreamingMap.yieldResult, List.nil_append, List.append_assoc]
  exact ordered

/-- A slot that overtakes none is filled behind the results that wait. -/
theorem filterMap_undecided_fulfil
    {state : MapStreamState Item Value}
    {position winner : Nat}
    {slot : StreamSlot Item Value}
    {value : Value}
    (decided : state.decided = some winner)
    (apart : position ≠ winner)
    (there : state.slots[position]? = some slot)
    (empty : slot.value.isNone = true)
    (behind : OvertakesNone state (.fulfils position value)) :
    ((state.slots.set position
          { slot with value := some value }).eraseIdx winner).filterMap
        (·.result?) =
      (state.slots.eraseIdx winner).filterMap (·.result?) ++
        [(slot.idx, value)] := by
  rw [set_eraseIdx_of_ne apart]
  apply
    filterMap_set_last ((getElem?_eraseIdx_of_ne apart).trans there)
      (result?_eq_none empty)
  · rfl
  · intro later other after found
    by_contra holds
    have isSome : other.value.isSome = true := by
      rw [← isSome_result?]
      exact Option.isSome_iff_ne_none.mpr holds
    rw [List.getElem?_eraseIdx] at found
    split at found
    next inside =>
      have same :=
        behind later other (by split at after <;> omega) found isSome
      cases decided.symm.trans same
      exact Nat.lt_irrefl _ inside
    next outside =>
      have same :=
        behind (later + 1) other (by split at after <;> omega) found isSome
      cases decided.symm.trans same
      omega

/-- A promise that is fulfilled without overtaking keeps the order. -/
theorem InOrder.fulfil
    {state : MapStreamState Item Value}
    {position : Nat}
    {slot : StreamSlot Item Value}
    {value : Value}
    (ordered : InOrder state)
    (sound : StreamSound call state)
    (there : state.slots[position]? = some slot)
    (empty : slot.value.isNone = true)
    (behind : OvertakesNone state (.fulfils position value)) :
    InOrder (fulfil state position slot value) := by
  have held := sound.phase
  obtain ⟨inside, -⟩ := List.getElem?_eq_some_iff.mp there
  cases at_ : state.phase with
  | created =>
      simp only [PhaseSound, at_] at held
      rw [held.1] at there
      cases there
  | ended =>
      simp only [PhaseSound, at_] at held
      rw [held.1] at there
      cases there
  | racing decided =>
      cases decided with
      | none =>
          simp only [PhaseSound, at_] at held
          have others :
              (state.slots.eraseIdx position).filterMap (·.result?) = [] :=
            List.filterMap_eq_nil_iff.mpr fun other member =>
              held.2 other (List.mem_of_mem_eraseIdx member)
          have before : state.slots.filterMap (·.result?) = [] :=
            List.filterMap_eq_nil_iff.mpr held.2
          simp only [InOrder, front, undecided, MapStreamState.decided, at_,
            before, List.append_nil] at ordered
          simp only [InOrder, front, undecided, MapStreamState.decided,
            StreamingMap.fulfil, at_, List.eraseIdx_set_eq, others,
            List.append_nil, ordered]
          rw [List.getElem?_set_self inside]
          rfl
      | some winner =>
          simp only [PhaseSound, at_] at held
          have apart := held.ne there empty
          have decided : state.decided = some winner := by
            rw [MapStreamState.decided, at_]
          have added :=
            filterMap_undecided_fulfil decided apart there empty behind
          simp only [InOrder, front, undecided, MapStreamState.decided, at_]
            at ordered
          simp only [InOrder, front, undecided, MapStreamState.decided,
            StreamingMap.fulfil, at_, added,
            List.getElem?_set_ne apart, ordered, List.append_assoc]
  | suspended winner =>
      simp only [PhaseSound, at_] at held
      have apart := held.ne there empty
      have decided : state.decided = some winner := by
        rw [MapStreamState.decided, at_]
      have added :=
        filterMap_undecided_fulfil decided apart there empty behind
      simp only [InOrder, front, undecided, MapStreamState.decided, at_]
        at ordered
      simp only [InOrder, front, undecided, MapStreamState.decided,
        StreamingMap.fulfil, at_, added, ordered, List.append_assoc]

/-- Every step that overtakes none keeps the order. -/
theorem inOrder_of_step
    {state next : MapStreamState Item Value}
    {label : MapStreamStep Value}
    (behind : OvertakesNone state label)
    (stepped : call.mapStream state label = some next)
    (sound : StreamSound call state)
    (ordered : InOrder state) :
    InOrder next := by
  cases label with
  | pulls =>
      cases stepped
      exact ordered
  | fulfils position value =>
      simp only [mapStream] at stepped
      split at stepped
      next slot there =>
        split at stepped
        next empty =>
          cases stepped
          exact ordered.fulfil sound there empty behind
        next => cases stepped
      next => cases stepped
  | goesOn =>
      simp only [mapStream, goOn] at stepped
      split at stepped
      next created =>
        split at stepped
        · cases stepped
          exact ordered.begin created
        · cases stepped
      next => cases stepped
      next winner racing =>
        split at stepped
        next result won =>
          cases stepped
          exact ordered.yieldResult racing won
        next => cases stepped
      next winner suspended =>
        split at stepped
        · cases stepped
          exact ordered.afterYield suspended
        · cases stepped
      next => cases stepped

/-- Where no task overtakes another, the order is kept in the whole run. -/
theorem inOrder_of_run
    {steps : List (MapStreamStep Value)}
    {state : MapStreamState Item Value}
    (ran : GuardedRun call.mapStream OvertakesNone {} steps state) :
    StreamSound call state ∧ InOrder state :=
  @GuardedRun.invariant _ _ _ _
    (fun reached => StreamSound call reached ∧ InOrder reached)
    (fun behind stepped before =>
      ⟨streamSound_of_step stepped before.1,
        inOrder_of_step behind stepped before.1 before.2⟩)
    _ _ _ ran ⟨streamSound_created call, rfl⟩

/-! ## What the consumer sees -/

/-- The tasks in flight are tasks of the slots. -/
theorem StreamSound.inFlight_le
    {state : MapStreamState Item Value}
    (sound : StreamSound call state) :
    (state.inFlight : Int) ≤ max 0 call.concurrency :=
  Int.le_trans (Int.ofNat_le.mpr List.countP_le_length) sound.bounded

/-- No index is yielded twice. -/
theorem StreamSound.yielded_nodup
    {state : MapStreamState Item Value}
    (sound : StreamSound call state) :
    (state.yielded.map Prod.fst).Nodup :=
  (List.nodup_append.mp
    (sound.kept.indices.nodup_iff.mpr List.nodup_range)).2.1

/-- What is yielded was fulfilled for its index, which has an item. -/
theorem StreamSound.of_yielded
    {state : MapStreamState Item Value}
    (sound : StreamSound call state)
    {result : Nat × Value}
    (member : result ∈ state.yielded) :
    result ∈ state.fulfilled ∧ result.1 < call.items.length := by
  refine ⟨sound.kept.results.subset (List.mem_append_right _ member), ?_⟩
  have started : result.1 ∈ List.range state.cursor :=
    sound.kept.indices.subset
      (List.mem_append_right _ (List.mem_map_of_mem member))
  exact Nat.lt_of_lt_of_le (List.mem_range.mp started) sound.kept.cursorLe

/-- The indices of the results are indices of the slots, in order. -/
theorem results_sublist (slots : List (StreamSlot Item Value)) :
    ((slots.filterMap (·.result?)).map Prod.fst).Sublist
      (slots.map (·.idx)) := by
  induction slots with
  | nil =>
      exact .slnil
  | cons slot rest inductionHypothesis =>
      cases holds : slot.result? with
      | none =>
          rw [List.filterMap_cons_none holds, List.map_cons]
          exact inductionHypothesis.cons _
      | some result =>
          obtain ⟨value, -, rfl⟩ := Option.map_eq_some_iff.mp holds
          rw [List.filterMap_cons_some holds, List.map_cons, List.map_cons]
          exact inductionHypothesis.cons_cons _

/-- Every index is fulfilled once at most. -/
theorem StreamSound.fulfilled_nodup
    {state : MapStreamState Item Value}
    (sound : StreamSound call state) :
    (state.fulfilled.map Prod.fst).Nodup := by
  have results := sound.kept.results.map Prod.fst
  rw [List.map_append] at results
  have all := sound.kept.indices.nodup_iff.mpr List.nodup_range
  exact
    results.nodup_iff.mp
      (all.sublist ((results_sublist _).append (.refl _)))

/-- At its end, with a concurrency of one at least, every index is yielded. -/
theorem StreamSound.yielded_all
    {state : MapStreamState Item Value}
    (sound : StreamSound call state)
    (atLeastOne : 1 ≤ call.concurrency)
    (ended : state.phase = .ended) :
    (state.yielded.map Prod.fst).Perm (List.range call.items.length) := by
  have held := sound.phase
  have indices := sound.kept.indices
  simp only [PhaseSound, ended] at held
  simp only [MapStreamState.live, ended, held.1, List.map_nil,
    List.nil_append] at indices
  rw [held.2 atLeastOne] at indices
  exact indices

/-- A consumer that waits is not left waiting: something can happen. -/
theorem StreamSound.goesOn
    {state : MapStreamState Item Value}
    (sound : StreamSound call state)
    (value : Value)
    (waiting : 0 < state.requests)
    (going : state.phase ≠ .ended) :
    ∃ label next,
      label ≠ .pulls ∧ call.mapStream state label = some next := by
  have held := sound.phase
  cases at_ : state.phase with
  | created =>
      exact ⟨.goesOn, call.begin state, by simp, by
        simp only [mapStream, goOn, at_, waiting, ↓reduceIte]⟩
  | ended => exact absurd at_ going
  | suspended winner =>
      exact ⟨.goesOn, call.afterYield state winner, by simp, by
        simp only [mapStream, goOn, at_, waiting, ↓reduceIte]⟩
  | racing decided =>
      cases decided with
      | some winner =>
          simp only [PhaseSound, at_] at held
          obtain ⟨slot, result, there, holds⟩ := held
          exact ⟨.goesOn, StreamingMap.yieldResult state winner result,
            by simp, by
              simp only [mapStream, goOn, at_, there, Option.bind_some, holds]⟩
      | none =>
          simp only [PhaseSound, at_] at held
          obtain ⟨slot, rest, some⟩ := List.exists_cons_of_ne_nil held.1
          have empty : slot.value.isNone = true := by
            have blank := held.2 slot (by simp [some])
            rw [Option.isNone_iff_eq_none, ← Option.not_isSome_iff_eq_none,
              ← isSome_result?, blank]
            simp
          exact ⟨.fulfils 0 value, StreamingMap.fulfil state 0 slot value,
            by simp, by
              simp only [mapStream, some, List.getElem?_cons_zero, empty,
                ↓reduceIte]⟩

end StreamingMap

end CloudflareParallel
