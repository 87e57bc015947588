import CloudflareParallel.FanOutOptions
import CloudflareParallel.Library.OwnedLists

namespace CloudflareParallel

open ListSlices OwnedLists

/-!
# What a fan-out does with its cancel streams

A cancel stream is passed on with a call, or it is read: by a pump that forks
it, or by the isolate that it is loaded into.  Every tier forks what it was
given into streams of its own, so whatever is done below a call is done with
the stream of this call or with streams that stem from it, as far as each job
enters an isolate that is loaded for it.
-/

/-- One use of a cancel stream. -/
inductive StreamUse where
  /-- An attempt of a call carries the stream. -/
  | sent (stream : CancelStream)
  /-- A reader is acquired. -/
  | read (stream : CancelStream)
  deriving DecidableEq

namespace StreamUse

/-- The stream that is used. -/
def stream : StreamUse → CancelStream
  | .sent stream => stream
  | .read stream => stream

/-- An attempt carries a stream, if there is one. -/
def sends (stream : Option CancelStream) : List StreamUse :=
  (stream.map .sent).toList

/-- A stream is read, if there is one. -/
def reads (stream : Option CancelStream) : List StreamUse :=
  (stream.map .read).toList

end StreamUse

open StreamUse

/-- Something that is done with streams. -/
inductive StreamAct where
  | use (made : StreamUse)
  /-- A job enters the isolate that the loader gives it. -/
  | enters (call : RunnerCall)

/-- The uses of an act, where an isolate is loaded for every job. -/
def StreamAct.own : StreamAct → List StreamUse
  | .use made => [made]
  | .enters call => reads call.input.cancelStream

/--
What `runBatchOnEnv` reads itself: it forks the stream of several jobs and
passes that of a single one on.
-/
def RunBatchRequest.forkReads (request : RunBatchRequest) : List StreamUse :=
  match request.argsList with
  | [_] => []
  | _ => reads request.cancelStream

/-- The stream that the slice with an index is given. -/
def childStreamAt
    (stream : Option CancelStream)
    (count index : Nat) : Option CancelStream :=
  (forkCancelStream stream count)[index]?.getD none

/--
What `dispatchOnEnv` reads itself: the stream of the request, and above the
leaves the stream of each slice with jobs, which `dispatchHybridLeaf` forks.
-/
def DispatchTreeRequest.forkReads
    (request : DispatchTreeRequest) : List StreamUse :=
  reads request.cancelStream ++
    if request.depth ≤ 1 then
      ((cut request.argsList 0 request.planChildSizes).mapIdx
        fun index slice =>
          if slice.items.isEmpty then
            []
          else
            reads
              (childStreamAt request.cancelStream request.planChildSizes.length
                index)).flatten
    else
      []

mutual

/-- What is done with streams in an entry. -/
def entryStreamActs : Activity → List StreamAct
  | .execute _ call => [.enters call]
  | .runBatch _ attempts => runBatchStreamActs attempts
  | .dispatch _ attempts => dispatchStreamActs attempts

/-- What is done in the attempts of a leaf call. -/
def runBatchStreamActs :
    List (Attempt RunBatchRequest Activity) → List StreamAct
  | [] => []
  | ⟨_, request, none⟩ :: rest =>
      (sends request.cancelStream).map .use ++ runBatchStreamActs rest
  | ⟨_, request, some log⟩ :: rest =>
      (sends request.cancelStream).map .use ++
        (request.forkReads.map .use ++ streamActs log ++
          runBatchStreamActs rest)

/-- What is done in the attempts of a sub-coordinator call. -/
def dispatchStreamActs :
    List (Attempt DispatchTreeRequest Activity) → List StreamAct
  | [] => []
  | ⟨_, request, none⟩ :: rest =>
      (sends request.cancelStream).map .use ++ dispatchStreamActs rest
  | ⟨_, request, some log⟩ :: rest =>
      (sends request.cancelStream).map .use ++
        (request.forkReads.map .use ++ streamActs log ++
          dispatchStreamActs rest)

/-- What is done with streams in a log. -/
def streamActs : List Activity → List StreamAct
  | [] => []
  | entry :: rest => entryStreamActs entry ++ streamActs rest

end

/-- The uses of some acts, where an isolate is loaded for every job. -/
def ownUses (acts : List StreamAct) : List StreamUse :=
  acts.flatMap StreamAct.own

/-- The uses of streams in a log, where an isolate is loaded for every job. -/
def streamUses (log : List Activity) : List StreamUse :=
  ownUses (streamActs log)

@[simp] theorem ownUses_append
    (first second : List StreamAct) :
    ownUses (first ++ second) = ownUses first ++ ownUses second :=
  List.flatMap_append

@[simp] theorem ownUses_map_use (uses : List StreamUse) :
    ownUses (uses.map .use) = uses := by
  rw [ownUses, List.flatMap_map]
  exact List.flatMap_singleton' uses

/-- A job reads the stream that it was given. -/
@[simp] theorem streamUses_execute
    (path : Path)
    (call : RunnerCall) :
    streamUses [.execute path call] = reads call.input.cancelStream := by
  simp [streamUses, streamActs, entryStreamActs, ownUses, StreamAct.own]

theorem streamActs_append
    (first second : List Activity) :
    streamActs (first ++ second) = streamActs first ++ streamActs second := by
  induction first with
  | nil =>
      rfl
  | cons entry rest inductionHypothesis =>
      simp [streamActs, inductionHypothesis]

/-- The uses of joined dispatches are the uses of the parts. -/
theorem streamUses_flatten
    (logs : List (List Activity)) :
    streamUses logs.flatten = (logs.map streamUses).flatten := by
  induction logs with
  | nil =>
      rfl
  | cons log rest inductionHypothesis =>
      rw [List.map_cons, List.flatten_cons, List.flatten_cons,
        ← inductionHypothesis]
      simp only [streamUses, streamActs_append, ownUses_append]

/-- What one attempt of a call does with streams. -/
def attemptUses
    (streamOf : Request → Option CancelStream)
    (forkReads : Request → List StreamUse)
    (attempt : Attempt Request Activity) : List StreamUse :=
  sends (streamOf attempt.request) ++
    (attempt.reached.map fun log =>
      forkReads attempt.request ++ streamUses log).getD []

theorem streamUses_runBatch
    (leafName : String)
    (attempts : List (Attempt RunBatchRequest Activity)) :
    streamUses [.runBatch leafName attempts] =
      attempts.flatMap
        (attemptUses RunBatchRequest.cancelStream
          RunBatchRequest.forkReads) := by
  simp only [streamUses, streamActs, entryStreamActs, List.append_nil]
  induction attempts with
  | nil =>
      rfl
  | cons attempt rest inductionHypothesis =>
      obtain ⟨path, request, reached⟩ := attempt
      cases reached <;>
        simp [runBatchStreamActs, attemptUses, streamUses, inductionHypothesis]

theorem streamUses_dispatch
    (subName : String)
    (attempts : List (Attempt DispatchTreeRequest Activity)) :
    streamUses [.dispatch subName attempts] =
      attempts.flatMap
        (attemptUses DispatchTreeRequest.cancelStream
          DispatchTreeRequest.forkReads) := by
  simp only [streamUses, streamActs, entryStreamActs, List.append_nil]
  induction attempts with
  | nil =>
      rfl
  | cons attempt rest inductionHypothesis =>
      obtain ⟨path, request, reached⟩ := attempt
      cases reached <;>
        simp [dispatchStreamActs, attemptUses, streamUses, inductionHypothesis]

/-! ## Which streams stem from which -/

namespace CancelStream

/-- A stream is another one, or one of its forks at any depth. -/
def StemsFrom : CancelStream → (origin : CancelStream) → Prop
  | .source id, origin => origin = .source id
  | .fork upstream index, origin =>
      origin = .fork upstream index ∨ upstream.StemsFrom origin

/-- The forks between a stream and its source. -/
def forks : CancelStream → Nat
  | .source _ => 0
  | .fork upstream _ => upstream.forks + 1

theorem stemsFrom_self (stream : CancelStream) : stream.StemsFrom stream := by
  cases stream with
  | source id => rfl
  | fork upstream index => exact .inl rfl

/-- A fork lies further from its source. -/
theorem StemsFrom.forks_le
    {stream origin : CancelStream}
    (stems : stream.StemsFrom origin) :
    origin.forks ≤ stream.forks := by
  induction stream with
  | source id =>
      rw [show origin = .source id from stems]
  | fork upstream index inductionHypothesis =>
      rcases stems with same | above
      · rw [same]
      · exact Nat.le_succ_of_le (inductionHypothesis above)

/-- What stems from a fork stems from its upstream. -/
theorem StemsFrom.of_fork
    {stream origin : CancelStream}
    {index : Nat}
    (stems : stream.StemsFrom (.fork origin index)) :
    stream.StemsFrom origin := by
  induction stream with
  | source id =>
      cases stems
  | fork upstream other inductionHypothesis =>
      rcases stems with same | above
      · cases same
        exact .inr (stemsFrom_self origin)
      · exact .inr (inductionHypothesis above)

/-- No stream stems from two forks of one stream. -/
theorem StemsFrom.fork_inj
    {stream origin : CancelStream}
    {index other : Nat}
    (first : stream.StemsFrom (.fork origin index))
    (second : stream.StemsFrom (.fork origin other)) :
    index = other := by
  induction stream with
  | source id =>
      cases first
  | fork upstream last inductionHypothesis =>
      rcases first with isFirst | firstAbove
      · cases isFirst
        rcases second with isSecond | secondAbove
        · cases isSecond
          rfl
        · have deeper := secondAbove.forks_le
          simp only [forks] at deeper
          omega
      · rcases second with isSecond | secondAbove
        · cases isSecond
          have deeper := firstAbove.forks_le
          simp only [forks] at deeper
          omega
        · exact inductionHypothesis firstAbove secondAbove

/-- A stream stems from one source. -/
theorem StemsFrom.source_inj
    {stream : CancelStream}
    {id other : Nat}
    (first : stream.StemsFrom (.source id))
    (second : stream.StemsFrom (.source other)) :
    id = other := by
  induction stream with
  | source own =>
      cases first
      cases second
      rfl
  | fork upstream index inductionHypothesis =>
      rcases first with impossible | firstAbove
      · cases impossible
      · rcases second with impossible | secondAbove
        · cases impossible
        · exact inductionHypothesis firstAbove secondAbove

/-- A stream does not stem from one of its forks. -/
theorem not_stemsFrom_fork
    (stream : CancelStream)
    (index : Nat) :
    ¬ stream.StemsFrom (.fork stream index) := by
  intro stems
  have deeper := stems.forks_le
  simp only [forks] at deeper
  omega

end CancelStream

/-! ## Scopes of use -/

/-- A fork of a stream, if there is one. -/
def forkOf
    (stream : Option CancelStream)
    (index : Nat) : Option CancelStream :=
  stream.map fun upstream => .fork upstream index

/-- The uses of a stream and of whatever stems from it. -/
def callScope (stream : Option CancelStream) : Set StreamUse :=
  { use | ∃ origin ∈ stream, use.stream.StemsFrom origin }

/-- The uses of the forks of a stream. -/
def forkScope (stream : Option CancelStream) : Set StreamUse :=
  ⋃ index, callScope (forkOf stream index)

/-- Its reads and the uses of its forks. -/
def runScope (stream : Option CancelStream) : Set StreamUse :=
  { use | use ∈ reads stream } ∪ forkScope stream

section Scopes

variable {stream : Option CancelStream} {uses : List StreamUse}

/-- The scopes of two forks of one stream have nothing in common. -/
theorem forks_apart
    (index other : Nat)
    (differ : index ≠ other) :
    ∀ use ∈ callScope (forkOf stream index),
      use ∉ callScope (forkOf stream other) := by
  rintro use ⟨first, isFirst, stems⟩ ⟨second, isSecond, alsoStems⟩
  obtain ⟨origin, isOrigin, rfl⟩ := Option.map_eq_some_iff.mp isFirst
  obtain ⟨same, isSame, rfl⟩ := Option.map_eq_some_iff.mp isSecond
  rw [isOrigin] at isSame
  cases isSame
  exact differ (stems.fork_inj alsoStems)

/-- Whatever is done with the forks is done below the stream. -/
theorem runScope_subset : runScope stream ⊆ callScope stream := by
  rintro use (isRead | inFork)
  · cases stream with
    | none => cases isRead
    | some origin =>
        rw [Set.mem_ofPred_eq, reads, Option.map_some, Option.toList_some,
          List.mem_singleton] at isRead
        subst isRead
        exact ⟨origin, rfl, origin.stemsFrom_self⟩
  · obtain ⟨index, fork, isFork, stems⟩ := Set.mem_iUnion.mp inFork
    obtain ⟨origin, isOrigin, rfl⟩ := Option.map_eq_some_iff.mp isFork
    exact ⟨origin, isOrigin, stems.of_fork⟩

/-- The stream itself is not used below its forks. -/
theorem not_mem_forkScope
    {use : StreamUse}
    {origin : CancelStream}
    (isOrigin : stream = some origin)
    (same : use.stream = origin) :
    use ∉ forkScope stream := by
  intro inFork
  obtain ⟨index, fork, isFork, stems⟩ := Set.mem_iUnion.mp inFork
  rw [isOrigin] at isFork
  cases isFork
  rw [same] at stems
  exact origin.not_stemsFrom_fork index stems

/-- Reading a stream, and using its forks, is a run with this stream. -/
theorem owned_run
    (owned : Owned (forkScope stream) uses) :
    Owned (runScope stream) (reads stream ++ uses) := by
  have ownRead : Owned { use | use ∈ reads stream } (reads stream) := by
    refine ⟨?_, fun _ member => member⟩
    cases stream with
    | none => exact .nil
    | some origin => exact List.nodup_singleton _
  refine ownRead.append owned ?_
  intro use isRead
  cases stream with
  | none => cases isRead
  | some origin =>
      rw [Set.mem_ofPred_eq, reads, Option.map_some, Option.toList_some,
        List.mem_singleton] at isRead
      exact not_mem_forkScope rfl (by rw [isRead]; rfl)

/-- Reading a stream alone. -/
theorem owned_reads (stream : Option CancelStream) :
    Owned (runScope stream) (reads stream) := by
  have owned := @owned_run stream [] owned_nil
  rwa [List.append_nil] at owned

/-- Passing a stream on to a run with this stream is a call with it. -/
theorem owned_call
    (owned : Owned (runScope stream) uses) :
    Owned (callScope stream) (sends stream ++ uses) := by
  cases stream with
  | none =>
      exact owned.mono runScope_subset
  | some origin =>
      have ownSend :
          Owned { use | use = .sent origin } (sends (some origin)) :=
        owned_singleton rfl
      refine (ownSend.append owned ?_).mono ?_
      · rintro use rfl (isRead | inFork)
        · cases List.mem_singleton.mp isRead
        · exact
            @not_mem_forkScope (some origin) (.sent origin) origin rfl rfl
              inFork
      · refine Set.union_subset ?_ runScope_subset
        rintro use rfl
        exact ⟨origin, rfl, origin.stemsFrom_self⟩

/-- Without a stream nothing is used. -/
theorem eq_nil_of_owned_none
    (owned : Owned (callScope none) uses) :
    uses = [] := by
  rw [List.eq_nil_iff_forall_not_mem]
  intro use member
  obtain ⟨_, isNone, _⟩ := owned.inside use member
  cases isNone

end Scopes

/-- A child is given a fork of the stream, or none. -/
theorem childStreamAt_eq
    (stream : Option CancelStream)
    (count index : Nat) :
    childStreamAt stream count index = none ∨
      childStreamAt stream count index = forkOf stream index := by
  unfold childStreamAt forkCancelStream
  cases stream with
  | none =>
      left
      simp only [List.getElem?_replicate]
      split <;> rfl
  | some origin =>
      by_cases inRange : index < count
      · right
        simp [forkOf, inRange]
      · left
        simp [inRange]

/-- What is owned by the call of a child is owned by that of its fork. -/
theorem callScope_childStreamAt_subset
    (stream : Option CancelStream)
    (count index : Nat) :
    callScope (childStreamAt stream count index) ⊆
      callScope (forkOf stream index) := by
  rcases childStreamAt_eq stream count index with noChild | isFork
  · rw [noChild]
    rintro use ⟨_, isNone, _⟩
    cases isNone
  · rw [isFork]

/-- A child that is loaded or forked reads within the scope of its fork. -/
theorem owned_reads_childStreamAt
    (stream : Option CancelStream)
    (count index : Nat) :
    Owned (callScope (forkOf stream index))
      (reads (childStreamAt stream count index)) :=
  (owned_reads _).mono
    (runScope_subset.trans (callScope_childStreamAt_subset _ _ _))

/-! ## Tier by tier -/

/-- The attempts of a call, in order. -/
theorem records_retryTransient
    (call : Nat → RpcOutcome × ρ)
    (remaining attempt : Nat) :
    ∃ retries,
      (retryTransient call remaining attempt).2 =
        (List.range' attempt (retries + 1)).map fun made => (call made).2 := by
  induction remaining generalizing attempt with
  | zero =>
      exact ⟨0, rfl⟩
  | succ remaining inductionHypothesis =>
      unfold retryTransient
      split
      · obtain ⟨retries, records⟩ := inductionHypothesis (attempt + 1)
        exact ⟨retries + 1, congrArg (_ :: ·) records⟩
      · exact ⟨0, rfl⟩

section Tiers

variable {platform : Platform}

/-- Only the first attempt of a call uses streams. -/
theorem owned_retried
    {streamOf : Request → Option CancelStream}
    {forkReads : Request → List StreamUse}
    {stream : Option CancelStream}
    {path : Nat → Path}
    {request : Nat → Request}
    {run : Nat → Dispatched}
    (carried :
      ∀ made, streamOf (request made) = if made = 0 then stream else none)
    (each :
      ∀ made,
        Owned (runScope (streamOf (request made)))
          (forkReads (request made) ++ streamUses (run made).activity))
    (remaining : Nat) :
    Owned (callScope stream)
      ((retryTransient
          (fun made => platform.call (path made) (request made) (run made))
          remaining 0).2.flatMap
        (attemptUses streamOf forkReads)) := by
  have perAttempt :
      ∀ made,
        Owned (callScope (streamOf (request made)))
          (attemptUses streamOf forkReads
            (platform.call (path made) (request made) (run made)).2) := by
    intro made
    rw [attemptUses, Platform.call_request]
    cases reached :
        (platform.call (path made) (request made) (run made)).2.reached with
    | none =>
        exact owned_call owned_nil
    | some log =>
        rw [platform.call_reached _ _ _ reached]
        exact owned_call (each made)
  have later :
      ∀ made,
        made ≠ 0 →
        attemptUses streamOf forkReads
            (platform.call (path made) (request made) (run made)).2 =
          [] := by
    intro made notFirst
    have owned := perAttempt made
    rw [carried, if_neg notFirst] at owned
    exact eq_nil_of_owned_none owned
  obtain ⟨retries, records⟩ :=
    records_retryTransient
      (fun made => platform.call (path made) (request made) (run made))
      remaining 0
  have onlyFirst :
      ((List.range' 1 retries).map fun made =>
          (platform.call (path made) (request made) (run made)).2).flatMap
          (attemptUses streamOf forkReads) =
        [] := by
    rw [List.flatMap_eq_nil_iff]
    intro record member
    obtain ⟨made, inRange, rfl⟩ := List.mem_map.mp member
    have notFirst := (List.mem_range'_1.mp inRange).1
    exact later made (by omega)
  have first := perAttempt 0
  rw [carried, if_pos rfl] at first
  rw [records, List.range'_succ, List.map_cons, List.flatMap_cons, onlyFirst,
    List.append_nil]
  exact first

/-- A leaf reads its stream once, or gives each of its jobs a fork. -/
theorem owned_runBatchOnEnv
    (path : Path)
    (env : Env)
    (request : RunBatchRequest) :
    Owned (runScope request.cancelStream)
      (request.forkReads ++
        streamUses (runBatchOnEnv platform path env request).activity) := by
  unfold RunBatchRequest.forkReads
  split
  next args single =>
    rw [runBatchOnEnv_single single]
    simpa [executeJob, leafRunnerCall]
      using owned_reads request.cancelStream
  next several =>
    unfold runBatchOnEnv
    split
    next args single =>
      exact (several args single).elim
    next =>
      apply owned_run
      simp only [Dispatched.join, streamUses_flatten, map_mapIdx]
      refine owned_flatten_mapIdx forks_apart ?_
      intro index args _
      simpa [executeJob, leafRunnerCall, childStreamAt]
        using
          owned_reads_childStreamAt request.cancelStream
            request.argsList.length index

/-- A retried leaf call uses its stream, or what stems from it. -/
theorem owned_leafCall
    {path : Path}
    {leafName : String}
    {buildBatch : Option CancelStream → RunBatchRequest}
    (carries : ∀ sent, (buildBatch sent).cancelStream = sent)
    (stream : Option CancelStream) :
    Owned (callScope stream)
      (streamUses
        [.runBatch leafName
          (runBatchWithRetry platform path leafName buildBatch stream).2]) := by
  rw [streamUses_runBatch]
  refine owned_retried (fun made => carries _) ?_ _
  intro made
  exact owned_runBatchOnEnv _ _ _

/-- The leaf tier gives each of its leaves a fork. -/
theorem owned_dispatchHybridLeaf
    (path : Path)
    (ownerId : String)
    (request : DispatchTreeRequest)
    (slice : List (List JsValue))
    (sliceSlotBase sliceIdx : Nat)
    (stream : Option CancelStream) :
    Owned (forkScope stream)
      (streamUses
        (dispatchHybridLeaf platform path ownerId request slice sliceSlotBase
          sliceIdx stream).activity) := by
  unfold dispatchHybridLeaf
  simp only [Dispatched.join, streamUses_flatten, map_mapIdx]
  refine owned_flatten_mapIdx forks_apart ?_
  intro index args _
  exact
    (owned_leafCall (fun _ => rfl) _).mono
      (callScope_childStreamAt_subset stream _ index)

/-- The uses of a sliced dispatch, slice by slice. -/
theorem streamUses_forEachSlice
    (jobs : List (List JsValue))
    (childSizes : List Nat)
    (stream : Option CancelStream)
    (child :
      Nat → Slice (List JsValue) → Option CancelStream → Dispatched) :
    streamUses (forEachSlice jobs childSizes stream child).activity =
      ((cut jobs 0 childSizes).mapIdx fun index slice =>
        if slice.items.isEmpty then
          []
        else
          streamUses
            (child index slice
              (childStreamAt stream childSizes.length index)).activity).flatten
    := by
  simp only [forEachSlice, Dispatched.join, streamUses_flatten, map_mapIdx,
    length_cut, childStreamAt]
  congr 2
  funext index slice
  split <;> rfl

/-- A sliced dispatch is owned as its children are, with the reads for them. -/
theorem owned_forEachSlice
    {jobs : List (List JsValue)}
    {childSizes : List Nat}
    {stream : Option CancelStream}
    {childReads : Option CancelStream → List StreamUse}
    {child :
      Nat → Slice (List JsValue) → Option CancelStream → Dispatched}
    (each :
      ∀ index slice given,
        Owned (callScope given)
          (childReads given ++
            streamUses (child index slice given).activity)) :
    Owned (forkScope stream)
      (((cut jobs 0 childSizes).mapIdx fun index slice =>
            if slice.items.isEmpty then
              []
            else
              childReads
                (childStreamAt stream childSizes.length index)).flatten ++
        streamUses (forEachSlice jobs childSizes stream child).activity) := by
  rw [streamUses_forEachSlice]
  refine Owned.perm ?_ (flatten_mapIdx_append_perm _ _ _)
  refine owned_flatten_mapIdx forks_apart ?_
  intro index slice _
  by_cases noItems : slice.items.isEmpty = true
  · rw [if_pos noItems, if_pos noItems]
    exact owned_nil
  · rw [if_neg noItems, if_neg noItems]
    exact
      (each index slice _).mono (callScope_childStreamAt_subset stream _ index)

/-- The same without any reads for the children. -/
theorem owned_forEachSlice_calls
    {jobs : List (List JsValue)}
    {childSizes : List Nat}
    {stream : Option CancelStream}
    {child :
      Nat → Slice (List JsValue) → Option CancelStream → Dispatched}
    (each :
      ∀ index slice given,
        Owned (callScope given)
          (streamUses (child index slice given).activity)) :
    Owned (forkScope stream)
      (streamUses (forEachSlice jobs childSizes stream child).activity) := by
  have owned :=
    @owned_forEachSlice jobs childSizes stream (fun _ => []) child each
  have noReads :
      ((cut jobs 0 childSizes).mapIdx fun _ slice =>
          if slice.items.isEmpty then
            ([] : List StreamUse)
          else
            []).flatten =
        [] := by
    simp
  rwa [noReads, List.nil_append] at owned

/--
A sub-coordinator reads its own stream once and uses its forks: by induction on
the depth, where the tier above the leaves forks twice.
-/
theorem owned_dispatchOnEnv
    (depth : Nat)
    (path : Path)
    (ownerId : String)
    (request : DispatchTreeRequest)
    (sameDepth : request.depth = depth) :
    Owned (runScope request.cancelStream)
      (request.forkReads ++
        streamUses
          (dispatchOnEnv platform depth path ownerId request).activity) := by
  induction depth generalizing path ownerId request with
  | zero =>
      rw [DispatchTreeRequest.forkReads, if_pos (by omega), List.append_assoc]
      apply owned_run
      refine owned_forEachSlice ?_
      intro index slice given
      exact (owned_run (owned_dispatchHybridLeaf ..)).mono runScope_subset
  | succ depth inductionHypothesis =>
      rw [DispatchTreeRequest.forkReads, List.append_assoc]
      apply owned_run
      split
      next bottom =>
        refine owned_forEachSlice ?_
        intro index slice given
        rw [if_pos (by omega)]
        exact (owned_run (owned_dispatchHybridLeaf ..)).mono runScope_subset
      next above =>
        rw [List.nil_append]
        refine owned_forEachSlice_calls ?_
        intro index slice given
        rw [if_neg (by omega)]
        simp only
        rw [streamUses_dispatch]
        refine owned_retried (fun _ => rfl) ?_ _
        intro made
        exact inductionHypothesis _ _ (deeperRequest ..) rfl

/-- What the coordinator reads itself: a plan with tiers forks the stream. -/
def CoordinatorFanOutRequest.forkReads
    (request : CoordinatorFanOutRequest) : TopologyPlan → List StreamUse
  | .inDo _ => []
  | .fanOut _ => reads request.cancelStream

/-- The coordinator carries a plan out with its stream and its forks. -/
theorem owned_dispatchPlan
    {self : CfpCoordinator}
    {plan : TopologyPlan}
    {request : CoordinatorFanOutRequest}
    {dispatched : Dispatched}
    (ran : dispatchPlan platform self plan request = .ok dispatched) :
    Owned (runScope request.cancelStream)
      (request.forkReads plan ++ streamUses dispatched.activity) := by
  match plan, ran with
  | .inDo size, ran =>
      simp only [dispatchPlan, dispatchInDo] at ran
      split at ran
      · cases ran
        exact owned_nil
      · split at ran
        · cases ran
        · cases ran
          simpa [CoordinatorFanOutRequest.forkReads, executeJob,
              inDoRunnerCall]
            using owned_reads request.cancelStream
  | .fanOut (.hybrid _), ran =>
      rw [dispatchPlan] at ran
      rw [dispatchHybrid, if_pos (bound_of_dispatchHybrid ran)] at ran
      cases ran
      apply owned_run
      refine owned_forEachSlice_calls ?_
      intro index slice given
      exact owned_leafCall (fun _ => rfl) given
  | .fanOut (.tree _ _ depth _), ran =>
      rw [dispatchPlan] at ran
      obtain ⟨subCoordBound, leafBound⟩ := bound_of_dispatchTree ran
      rw [dispatchTree, if_neg (not_not.mpr subCoordBound),
        if_neg (not_not.mpr leafBound)] at ran
      cases ran
      apply owned_run
      refine owned_forEachSlice_calls ?_
      intro index slice given
      simp only
      rw [streamUses_dispatch]
      refine owned_retried (fun _ => rfl) ?_ _
      intro made
      exact owned_dispatchOnEnv _ _ _ (treeRequest ..) rfl

end Tiers

end CloudflareParallel
