import CloudflareParallel.RunnerInput
import CloudflareParallel.TransientRetry
import CloudflareParallel.Library.ListSlices

namespace CloudflareParallel

/-!
# The platform under a fan-out and the log of what is done on it

A Durable Object call can be delivered, be lost before it reaches its target,
or be executed and lose its answer.  `Platform` gives these outcomes, and the
outcome of the user function, for every attempt along every path of hops; the
coordinators are functions of it.  Besides results they return the activity:
one entry per distinct child call with all its attempts, and under each
attempt what the target did when it was reached.
-/

/-- One attempt of a call to a named Durable Object. -/
structure Hop where
  target : String
  attempt : Nat
  deriving Repr, DecidableEq

/-- The attempts that led from the coordinator to one place. -/
abbrev Path := List Hop

/-- What happens to one attempt of a call. -/
inductive Transport where
  | delivered
  /-- The call rejects and its target never ran. -/
  | lost (err : Thrown)
  /-- The target ran, and the call rejects all the same. -/
  | answerLost (err : Thrown)

/-- Everything outside the coordinators that decides a fan-out. -/
structure Platform where
  idFromName : String → String
  leafEnv : (leafName : String) → Env
  transport : Path → Transport
  runOne : Path → RunnerCall → Except Thrown JsValue

/-- The error of an attempt that rejects. -/
def Platform.rejection?
    (platform : Platform)
    (path : Path) : Option Thrown :=
  match platform.transport path with
  | .delivered => none
  | .lost err => some err
  | .answerLost err => some err

/-- A platform on which every call is delivered. -/
def Platform.Reliable (platform : Platform) : Prop :=
  ∀ path, platform.transport path = .delivered

/-- A reliable platform rejects no attempt. -/
theorem Platform.Reliable.not_rejected
    {platform : Platform}
    (reliable : platform.Reliable)
    (path : Path) :
    platform.rejection? path = none := by
  simp [Platform.rejection?, reliable path]

/-- A recorded attempt; `reached` is what its target did, if it ran. -/
structure Attempt (Request Act : Type) where
  path : Path
  request : Request
  reached : Option (List Act)

/-- What a coordinator, sub-coordinator or leaf does for one request. -/
inductive Activity where
  /-- Run one job in this object's own loader. -/
  | execute (path : Path) (call : RunnerCall)
  /-- Call `runBatch` on a leaf. -/
  | runBatch
      (leafName : String)
      (attempts : List (Attempt RunBatchRequest Activity))
  /-- Call `dispatch` on a sub-coordinator. -/
  | dispatch
      (subName : String)
      (attempts : List (Attempt DispatchTreeRequest Activity))

/-- Whether an activity entry is a dispatch RPC to another object. -/
def Activity.isRpc : Activity → Bool
  | .execute .. => false
  | .runBatch .. => true
  | .dispatch .. => true

/-- An entry occurs in a log, at any depth. -/
inductive Occurs (entry : Activity) : List Activity → Prop where
  | here {log : List Activity} :
      entry ∈ log →
      Occurs entry log
  | belowLeaf {log inner : List Activity}
      {leafName : String}
      {attempts : List (Attempt RunBatchRequest Activity)}
      {attempt : Attempt RunBatchRequest Activity} :
      .runBatch leafName attempts ∈ log →
      attempt ∈ attempts →
      attempt.reached = some inner →
      Occurs entry inner →
      Occurs entry log
  | belowSubCoord {log inner : List Activity}
      {subName : String}
      {attempts : List (Attempt DispatchTreeRequest Activity)}
      {attempt : Attempt DispatchTreeRequest Activity} :
      .dispatch subName attempts ∈ log →
      attempt ∈ attempts →
      attempt.reached = some inner →
      Occurs entry inner →
      Occurs entry log

/-- What occurs in a log still occurs in a larger one. -/
theorem Occurs.mono
    {entry : Activity}
    {log larger : List Activity}
    (occurs : Occurs entry log)
    (included : log ⊆ larger) :
    Occurs entry larger := by
  cases occurs with
  | here member =>
      exact .here (included member)
  | belowLeaf member attemptMember reached below =>
      exact .belowLeaf (included member) attemptMember reached below
  | belowSubCoord member attemptMember reached below =>
      exact .belowSubCoord (included member) attemptMember reached below

/-- Results of a dispatch together with its activity. -/
structure Dispatched where
  results : List RunOneResult
  activity : List Activity

namespace Dispatched

/-- Nothing to do. -/
def empty : Dispatched where
  results := []
  activity := []

/-- Flatten concurrent dispatches in plan order. -/
def join (parts : List Dispatched) : Dispatched where
  results := (parts.map Dispatched.results).flatten
  activity := (parts.map Dispatched.activity).flatten

/-- Joined results are the results of the parts, one after the other. -/
theorem results_join
    (parts : List Dispatched) :
    (join parts).results = (parts.map Dispatched.results).flatten :=
  rfl

/-- Activity of a join is activity of one of its parts. -/
theorem mem_activity_join
    {parts : List Dispatched}
    {entry : Activity} :
    entry ∈ (join parts).activity ↔
      ∃ part ∈ parts, entry ∈ part.activity := by
  simp [join]

/-- A part of a join contributes its activity. -/
theorem activity_subset_join
    {parts : List Dispatched}
    {part : Dispatched}
    (member : part ∈ parts) :
    part.activity ⊆ (join parts).activity :=
  fun _ entryMember => mem_activity_join.mpr ⟨part, member, entryMember⟩

/-- Nothing is added by dispatches that do nothing. -/
theorem join_replicate_empty
    (before after : Nat)
    (part : Dispatched) :
    join
        (List.replicate before .empty ++
          part :: List.replicate after .empty) =
      part := by
  simp [Dispatched.join, Dispatched.empty]

end Dispatched

/-- One attempt of a call whose target would do `run`. -/
def Platform.call
    (platform : Platform)
    (path : Path)
    (request : Request)
    (run : Dispatched) :
    RpcOutcome × Attempt Request Activity :=
  match platform.transport path with
  | .delivered =>
      (.ok run.results,
        { path := path, request := request, reached := some run.activity })
  | .lost err =>
      (.error err, { path := path, request := request, reached := none })
  | .answerLost err =>
      (.error err,
        { path := path, request := request, reached := some run.activity })

section Call

variable (platform : Platform) (path : Path)
variable (request : Request) (run : Dispatched)

@[simp] theorem Platform.call_path :
    (platform.call path request run).2.path = path := by
  unfold Platform.call
  split <;> rfl

@[simp] theorem Platform.call_request :
    (platform.call path request run).2.request = request := by
  unfold Platform.call
  split <;> rfl

/-- Whatever a target did was its run of this very request. -/
theorem Platform.call_reached
    {inner : List Activity}
    (reached :
      (platform.call path request run).2.reached = some inner) :
    inner = run.activity := by
  unfold Platform.call at reached
  split at reached
  · exact (Option.some.inj reached).symm
  · cases reached
  · exact (Option.some.inj reached).symm

/-- An answered call was delivered and returns the target's results. -/
theorem Platform.call_ok
    {results : List RunOneResult}
    (answered : (platform.call path request run).1 = .ok results) :
    results = run.results ∧
      (platform.call path request run).2.reached = some run.activity := by
  unfold Platform.call at answered ⊢
  split at answered
  next =>
    cases answered
    exact ⟨rfl, rfl⟩
  · cases answered
  · cases answered

/-- A rejecting call rejects with the transport's error. -/
theorem Platform.call_error
    {err : Thrown}
    (rejected : (platform.call path request run).1 = .error err) :
    platform.rejection? path = some err := by
  unfold Platform.call at rejected
  unfold Platform.rejection?
  split at rejected
  · cases rejected
  · cases rejected
    rfl
  · cases rejected
    rfl

/-- A delivered call is carried out by its target. -/
theorem Platform.call_delivered
    (delivered : platform.transport path = .delivered) :
    (platform.call path request run).2.reached = some run.activity := by
  simp [Platform.call, delivered]

end Call

/-- Results of a call that failed as a whole: one failure per job. -/
def settleRpc
    (jobs : List (List JsValue)) :
    RpcOutcome → List RunOneResult
  | .ok results => results
  | .error err => jobs.map fun _ => errorToFailedResult err

/--
Slice a list of jobs by child sizes, fork the cancel stream once per slice, and
dispatch every nonempty slice with its index and its own stream.
-/
def forEachSlice
    (argsList : List (List JsValue))
    (childSizes : List Nat)
    (cancelStream : Option CancelStream)
    (child :
      Nat → ListSlices.Slice (List JsValue) →
        Option CancelStream → Dispatched) : Dispatched :=
  let slices := ListSlices.cut argsList 0 childSizes
  let childStreams := forkCancelStream cancelStream slices.length
  .join (slices.mapIdx fun index slice =>
    if slice.items.isEmpty then
      .empty
    else
      child index slice (childStreams[index]?.getD none))

/--
The parts of a sliced dispatch: an empty slice is skipped, any other is handed
to the child with some stream.
-/
theorem forEachSlice_eq_join
    (argsList : List (List JsValue))
    (childSizes : List Nat)
    (cancelStream : Option CancelStream)
    (child :
      Nat → ListSlices.Slice (List JsValue) →
        Option CancelStream → Dispatched) :
    ∃ run,
      forEachSlice argsList childSizes cancelStream child =
          .join ((ListSlices.cut argsList 0 childSizes).mapIdx run) ∧
        ∀ index slice,
          (slice.items = [] ∧ run index slice = .empty) ∨
            ∃ stream,
              slice.items ≠ [] ∧
                run index slice = child index slice stream := by
  refine ⟨_, rfl, ?_⟩
  intro index slice
  by_cases noItems : slice.items = []
  · exact .inl ⟨noItems, by simp [noItems]⟩
  · refine .inr
      ⟨(forkCancelStream cancelStream childSizes.length)[index]?.getD none,
        noItems, ?_⟩
    simp [noItems]

/-- One job is dispatched as the only job of one slice. -/
theorem forEachSlice_single
    {args : List JsValue}
    {childSizes : List Nat}
    {cancelStream : Option CancelStream}
    {child :
      Nat → ListSlices.Slice (List JsValue) → Option CancelStream → Dispatched}
    (one : childSizes.sum = 1) :
    ∃ index stream,
      forEachSlice [args] childSizes cancelStream child =
        child index { items := [args], offset := 0 } stream := by
  obtain ⟨run, shape, ran⟩ :=
    forEachSlice_eq_join [args] childSizes cancelStream child
  have skipped :
      ∀ index (slice : ListSlices.Slice (List JsValue)),
        slice.items = [] → run index slice = .empty := by
    intro index slice noItems
    rcases ran index slice with ⟨_, nothing⟩ | ⟨_, someItem, _⟩
    · exact nothing
    · exact (someItem noItems).elim
  obtain ⟨before, after, index, sliced⟩ :=
    @ListSlices.mapIdx_cut_single _ _ [args] args 0 childSizes run .empty
      skipped rfl one
  rw [sliced, Dispatched.join_replicate_empty] at shape
  rcases ran index { items := [args], offset := 0 } with
    ⟨noItems, _⟩ | ⟨stream, _, dispatched⟩
  · cases noItems
  · exact ⟨index, stream, shape.trans dispatched⟩

/-- The first slice is dispatched before anything else. -/
theorem forEachSlice_first
    {jobs : List (List JsValue)}
    {size : Nat}
    {rest : List Nat}
    {cancelStream : Option CancelStream}
    {child :
      Nat → ListSlices.Slice (List JsValue) → Option CancelStream → Dispatched}
    (someItem : jobs.take size ≠ []) :
    ∃ stream later,
      (forEachSlice jobs (size :: rest) cancelStream child).activity =
        (child 0 { items := jobs.take size, offset := 0 } stream).activity ++
          later := by
  obtain ⟨run, shape, ran⟩ :=
    forEachSlice_eq_join jobs (size :: rest) cancelStream child
  rw [shape]
  rcases ran 0 { items := jobs.take size, offset := 0 } with
    ⟨noItems, _⟩ | ⟨stream, _, dispatched⟩
  · exact (someItem noItems).elim
  · refine
      ⟨stream,
        (((ListSlices.cut jobs (0 + size) rest).mapIdx fun index => run (index + 1)).map
          Dispatched.activity).flatten, ?_⟩
    rw [← dispatched]
    simp only [ListSlices.cut, List.drop_zero, List.mapIdx_cons, Dispatched.join,
      List.map_cons, List.flatten_cons]

/-- The results of a sliced dispatch are results of its children. -/
theorem results_forEachSlice
    {holds : RunOneResult → Prop}
    {jobs : List (List JsValue)}
    {childSizes : List Nat}
    {cancelStream : Option CancelStream}
    {child :
      Nat → ListSlices.Slice (List JsValue) → Option CancelStream → Dispatched}
    (each :
      ∀ index slice stream,
        ∀ result ∈ (child index slice stream).results, holds result) :
    ∀ result ∈ (forEachSlice jobs childSizes cancelStream child).results,
      holds result := by
  obtain ⟨run, shape, ran⟩ :=
    forEachSlice_eq_join jobs childSizes cancelStream child
  rw [shape, Dispatched.results_join]
  intro result member
  obtain ⟨results, resultsMember, inside⟩ := List.mem_flatten.mp member
  obtain ⟨part, partMember, rfl⟩ := List.mem_map.mp resultsMember
  obtain ⟨index, _, rfl⟩ := List.mem_mapIdx.mp partMember
  rcases ran index _ with ⟨_, nothing⟩ | ⟨stream, _, dispatched⟩
  · rw [nothing] at inside
    cases inside
  · rw [dispatched] at inside
    exact each _ _ _ _ inside

/-- Every entry that occurs in a log has a property. -/
def Throughout
    (holds : Activity → Prop)
    (log : List Activity) : Prop :=
  ∀ entry, Occurs entry log → holds entry

section Throughout

variable {holds : Activity → Prop}

/-- A log has a property when each of its entries does, all the way down. -/
theorem throughout_of_forall
    {log : List Activity}
    (each : ∀ entry ∈ log, Throughout holds [entry]) :
    Throughout holds log := by
  intro entry occurs
  cases occurs with
  | here member =>
      exact each entry member entry (.here (List.mem_singleton.mpr rfl))
  | belowLeaf member attemptMember reached below =>
      exact each _ member entry
        (.belowLeaf (List.mem_singleton.mpr rfl) attemptMember reached below)
  | belowSubCoord member attemptMember reached below =>
      exact each _ member entry
        (.belowSubCoord (List.mem_singleton.mpr rfl) attemptMember
          reached below)

/-- Nothing done has every property. -/
theorem throughout_nil : Throughout holds [] :=
  throughout_of_forall fun _ member => nomatch member

/-- Each entry of a log has what the log has throughout. -/
theorem Throughout.of_mem
    {log : List Activity}
    (throughout : Throughout holds log)
    {entry : Activity}
    (member : entry ∈ log) :
    Throughout holds [entry] := by
  intro inner occurs
  apply throughout
  apply occurs.mono
  intro only onlyMember
  rw [List.mem_singleton.mp onlyMember]
  exact member

/-- Joined dispatches have what every part has. -/
theorem throughout_join
    {parts : List Dispatched}
    (each : ∀ part ∈ parts, Throughout holds part.activity) :
    Throughout holds (Dispatched.join parts).activity := by
  apply throughout_of_forall
  intro entry member
  obtain ⟨part, partMember, entryMember⟩ :=
    Dispatched.mem_activity_join.mp member
  exact (each part partMember).of_mem entryMember

/-- A sliced dispatch has what the child of every slice has. -/
theorem throughout_forEachSlice
    {argsList : List (List JsValue)}
    {childSizes : List Nat}
    {cancelStream : Option CancelStream}
    {child :
      Nat → ListSlices.Slice (List JsValue) →
        Option CancelStream → Dispatched}
    (each :
      ∀ index slice stream,
        (ListSlices.cut argsList 0 childSizes)[index]? = some slice →
        Throughout holds (child index slice stream).activity) :
    Throughout holds
      (forEachSlice argsList childSizes cancelStream child).activity := by
  obtain ⟨run, shape, ran⟩ :=
    forEachSlice_eq_join argsList childSizes cancelStream child
  rw [shape]
  apply throughout_join
  intro part member
  obtain ⟨index, inRange, rfl⟩ := List.mem_mapIdx.mp member
  rcases ran index (ListSlices.cut argsList 0 childSizes)[index] with
    ⟨_, skipped⟩ | ⟨stream, _, dispatched⟩
  · rw [skipped]
    exact throughout_nil
  · rw [dispatched]
    exact each index _ stream (List.getElem?_eq_getElem inRange)

/-- One executed job is all there is below it. -/
theorem throughout_execute
    {path : Path}
    {call : RunnerCall}
    (itself : holds (.execute path call)) :
    Throughout holds [.execute path call] := by
  intro entry occurs
  cases occurs with
  | here member =>
      rw [List.mem_singleton.mp member]
      exact itself
  | belowLeaf member =>
      cases List.mem_singleton.mp member
  | belowSubCoord member =>
      cases List.mem_singleton.mp member

/-- A leaf call has a property with everything its leaf did. -/
theorem throughout_runBatch
    {leafName : String}
    {attempts : List (Attempt RunBatchRequest Activity)}
    (itself : holds (.runBatch leafName attempts))
    (below :
      ∀ attempt ∈ attempts, ∀ inner,
        attempt.reached = some inner →
        Throughout holds inner) :
    Throughout holds [.runBatch leafName attempts] := by
  intro entry occurs
  cases occurs with
  | here member =>
      rw [List.mem_singleton.mp member]
      exact itself
  | belowLeaf member attemptMember reached inside =>
      cases List.mem_singleton.mp member
      exact below _ attemptMember _ reached entry inside
  | belowSubCoord member =>
      cases List.mem_singleton.mp member

/-- A sub-coordinator call has a property with everything done below it. -/
theorem throughout_dispatch
    {subName : String}
    {attempts : List (Attempt DispatchTreeRequest Activity)}
    (itself : holds (.dispatch subName attempts))
    (below :
      ∀ attempt ∈ attempts, ∀ inner,
        attempt.reached = some inner →
        Throughout holds inner) :
    Throughout holds [.dispatch subName attempts] := by
  intro entry occurs
  cases occurs with
  | here member =>
      rw [List.mem_singleton.mp member]
      exact itself
  | belowLeaf member =>
      cases List.mem_singleton.mp member
  | belowSubCoord member attemptMember reached inside =>
      cases List.mem_singleton.mp member
      exact below _ attemptMember _ reached entry inside

/-- A retried sub-coordinator RPC has what its target's runs have. -/
theorem throughout_retriedDispatch
    {platform : Platform}
    {remaining attempt : Nat}
    {subName : String}
    {call : Nat → RpcOutcome × Attempt DispatchTreeRequest Activity}
    {path : Nat → Path}
    {request : Nat → DispatchTreeRequest}
    {run : Nat → Dispatched}
    (calls :
      ∀ made,
        call made = platform.call (path made) (request made) (run made))
    (itself : ∀ attempts, holds (.dispatch subName attempts))
    (below : ∀ made, Throughout holds (run made).activity) :
    Throughout holds
      [.dispatch subName (retryTransient call remaining attempt).2] := by
  apply throughout_dispatch (itself _)
  intro record member inner reached
  obtain ⟨made, rfl⟩ := mem_retryTransient member
  rw [calls] at reached
  rw [platform.call_reached _ _ _ reached]
  exact below made

end Throughout

end CloudflareParallel
