import CloudflareParallel.CapabilityNarrowing
import CloudflareParallel.FanOutStreams
import CloudflareParallel.Library.LabelledRuns
import CloudflareParallel.LoaderCancelLaw
import CloudflareParallel.PoolFanOut

namespace CloudflareParallel

open LabelledRuns OwnedLists StreamUse

/-!
# What a pool does with its cancel streams

`#runOneSource` and `#fanOut` make one stream for a token and build the same
request, with this stream, in every attempt of `dispatchWithResilience`.  A
loader gives a job the isolate that was loaded first for its id, and this isolate
reads the stream that it was loaded with.  Within one attempt whose jobs all have
isolates of their own every stream is used once; over whole runs that is so as
long as no call with a stream makes a second attempt, and no job enters an
isolate that holds a stream already.
-/

/-- What the closure of a dispatch calls, with the request that it builds. -/
inductive PooledCall where
  /-- `runOne`, of the coordinator or of the loopback. -/
  | runOne (env : Env) (request : CoordinatorRunRequest)
  /-- `runMany` of the loopback, which takes one job. -/
  | loopback (env : Env) (request : CoordinatorFanOutRequest)
  /-- `runMany` of the coordinator. -/
  | runMany
      (treeDepth : TreeDepth)
      (self : CfpCoordinator)
      (request : CoordinatorFanOutRequest)

namespace PooledCall

/-- The stream of the request. -/
def cancelStream : PooledCall → Option CancelStream
  | .runOne _ request => request.cancelStream
  | .loopback _ request => request.cancelStream
  | .runMany _ _ request => request.cancelStream

/-- What the target does: its results, with what it does with streams. -/
def run
    (platform : Platform) :
    PooledCall → Except Thrown (List RunOneResult × List StreamAct)
  | .runOne env request =>
      let executed := executeJob platform [] (runOneRunnerCall env request)
      .ok (executed.results, streamActs executed.activity)
  | .loopback env request =>
      match request.argsList with
      | [] => .ok ([], [])
      | [args] =>
          let executed :=
            executeJob platform [] (loopbackRunnerCall env request args)
          .ok (executed.results, streamActs executed.activity)
      | _ =>
          .error (plainError
            (s!"CfpInProcessCoordinator.runMany: size={request.argsList.length}"
              ++ " unsupported; the loopback is single-job only. " ++
              "Fan-outs of size ≥ 2 must route through CfpCoordinator so each " ++
              "task lands in its own leaf DO process for real CPU parallelism."))
  | .runMany treeDepth self request =>
      (CloudflareParallel.runMany treeDepth platform self request).map
        fun response =>
          (response.results,
            (match selectTopology treeDepth request.argsList.length
                request.selectorOptions with
              | .ok plan =>
                  if request.argsList.length = 0 then
                    []
                  else
                    (request.forkReads plan).map .use
              | .error _ => []) ++
              streamActs response.activity)

/-- A target reads the stream of its request once, and uses its forks. -/
theorem owned_run
    {call : PooledCall}
    {platform : Platform}
    {results : List RunOneResult}
    {acts : List StreamAct}
    (ran : call.run platform = .ok (results, acts)) :
    Owned (runScope call.cancelStream) (ownUses acts) := by
  match call, ran with
  | .runOne env request, ran =>
      cases ran
      have reading :=
        streamUses_execute [] (runOneRunnerCall env request)
      unfold streamUses at reading
      rw [executeJob, reading]
      exact owned_reads request.cancelStream
  | .loopback env request, ran =>
      simp only [run] at ran
      split at ran
      · cases ran
        exact owned_nil
      · next args single =>
        cases ran
        have reading :=
          streamUses_execute [] (loopbackRunnerCall env request args)
        unfold streamUses at reading
        rw [executeJob, reading]
        exact owned_reads request.cancelStream
      · cases ran
  | .runMany treeDepth self request, ran =>
      simp only [run] at ran
      cases answered :
          CloudflareParallel.runMany treeDepth platform self request with
      | error err =>
          rw [answered] at ran
          cases ran
      | ok response =>
          rw [answered] at ran
          cases ran
          rcases runMany_cases answered with
            ⟨noJobs, -, nothing⟩ |
              ⟨plan, dispatched, someJob, selected, dispatch, -, same⟩
          · rw [nothing]
            split
            · rw [if_pos (by rw [noJobs]; rfl)]
              exact owned_nil
            · exact owned_nil
          · simp only [selected, Nat.ne_of_gt someJob, ↓reduceIte,
              ownUses_append, ownUses_map_use]
            rw [same]
            exact owned_dispatchPlan dispatch

end PooledCall

/-- A dispatch of a pool: what it calls, and how often. -/
structure StreamedDispatch where
  runtime : DispatchRuntime
  opts : DispatchOptions
  call : PooledCall

/-- One attempt of the dispatch, with the race around it. -/
structure StreamedAttempt (dispatch : StreamedDispatch) where
  platform : Platform
  hop : PoolHop
  reading :
    AttemptReading dispatch.runtime dispatch.opts (List RunOneResult)
  settles :
    ∀ outcome,
      reading.winner = .task outcome →
      outcome =
        match hop with
        | .delivered =>
            ((dispatch.call.run platform).map Prod.fst).mapError
              Thrown.asRejection
        | .lost err => .error err
        | .answerLost err => .error err

namespace StreamedAttempt

variable {dispatch : StreamedDispatch}

/-- What is done with streams in an attempt. -/
def acts (attempt : StreamedAttempt dispatch) : List StreamAct :=
  (sends dispatch.call.cancelStream).map .use ++
    match attempt.hop, dispatch.call.run attempt.platform with
    | .lost _, _ => []
    | _, .error _ => []
    | _, .ok (_, acts) => acts

/-- The attempts that a dispatch makes, of those that it could make. -/
def made (attempts : List (StreamedAttempt dispatch)) :
    List (StreamedAttempt dispatch) :=
  madeOf (·.reading) attempts

/-- Within an attempt the stream and its forks are used once. -/
theorem owned_acts (attempt : StreamedAttempt dispatch) :
    Owned (callScope dispatch.call.cancelStream) (ownUses attempt.acts) := by
  rw [acts, ownUses_append, ownUses_map_use]
  apply owned_call
  cases attempt.hop with
  | lost err =>
      exact owned_nil
  | delivered =>
      cases ran : dispatch.call.run attempt.platform with
      | error err => exact owned_nil
      | ok answer => exact PooledCall.owned_run ran
  | answerLost err =>
      cases ran : dispatch.call.run attempt.platform with
      | error err => exact owned_nil
      | ok answer => exact PooledCall.owned_run ran

/-- The attempts of a call without a stream use none. -/
theorem ownUses_of_none
    (noStream : dispatch.call.cancelStream = none)
    (attempts : List (StreamedAttempt dispatch)) :
    ownUses (attempts.flatMap acts) = [] := by
  unfold ownUses
  rw [List.flatMap_assoc, List.flatMap_eq_nil_iff]
  intro attempt _
  have owned := attempt.owned_acts
  rw [noStream] at owned
  exact eq_nil_of_owned_none owned

/-- Attempts use streams once exactly if there is no stream, or one attempt. -/
theorem nodup_attempts_iff (attempts : List (StreamedAttempt dispatch)) :
    (ownUses (attempts.flatMap acts)).Nodup ↔
      dispatch.call.cancelStream = none ∨ attempts.length ≤ 1 := by
  constructor
  · intro nodup
    by_contra neither
    rw [not_or] at neither
    obtain ⟨someStream, several⟩ := neither
    obtain ⟨stream, isStream⟩ := Option.ne_none_iff_exists'.mp someStream
    have sent (attempt : StreamedAttempt dispatch) :
        .sent stream ∈ ownUses attempt.acts := by
      rw [acts, ownUses_append, ownUses_map_use, isStream]
      exact List.mem_append_left _ (List.mem_singleton_self _)
    match attempts, several with
    | [], several | [_], several => exact several (by simp)
    | first :: second :: rest, _ =>
        rw [List.flatMap_cons, List.flatMap_cons, ownUses_append,
          ownUses_append] at nodup
        exact
          List.disjoint_of_nodup_append nodup (sent first)
            (List.mem_append_left _ (sent second))
  · rintro (noStream | single)
    · rw [ownUses_of_none noStream]
      exact .nil
    · match attempts, single with
      | [], _ => exact .nil
      | [attempt], _ =>
          rw [List.flatMap_singleton]
          exact attempt.owned_acts.nodup

end StreamedAttempt

/-! ## Runs of pools -/

/--
What has been done with streams, what is still to be done in the attempts under
way, and what the loaders hold.
-/
structure StreamWorld (Owner : Type) where
  /-- How many calls have been made, each with a stream of its own or none. -/
  calls : Nat := 0
  pending : List StreamAct := []
  loaded : Owner → List (String × WorkerCode) := fun _ => []
  uses : List StreamUse := []

/--
A pool makes a call, and its attempts get under way; something that is pending
is done, a job in the loader of an owner, which reads a counter and the clock;
or an owner loses an isolate.
-/
inductive StreamEvent (Owner : Type) where
  | dispatches
      (dispatch : StreamedDispatch)
      (attempts : List (StreamedAttempt dispatch))
  | acts (index : Nat) (owner : Owner) (counter now : Nat)
  | evicts (owner : Owner) (key : String)

namespace StreamWorld

variable {Owner : Type}

/-- The worker that the loader of an owner holds for a job. -/
def warm?
    (world : StreamWorld Owner)
    (owner : Owner)
    (counter now : Nat)
    (call : RunnerCall) : Option WorkerCode :=
  (call.dispatchAt now).cacheKeyInput.toOption.bind fun keyInput =>
    (world.loaded owner).lookup (buildCacheKey counter now keyInput).1

/-- Each stream was passed to one attempt at most, and had one reader at most. -/
def UsesLinearly (world : StreamWorld Owner) : Prop :=
  ∀ stream,
    world.uses.count (.sent stream) ≤ 1 ∧ world.uses.count (.read stream) ≤ 1

/-- A job is run: `#runWithMode`, and the isolate reads the stream it holds. -/
def enters
    [DecidableEq Owner]
    (world : StreamWorld Owner)
    (owner : Owner)
    (counter now : Nat)
    (call : RunnerCall) : StreamWorld Owner :=
  let (result, loader) :=
    runWithMode { counter := counter, loaded := world.loaded owner }
      (call.dispatchAt now)
  { world with
    loaded := Function.update world.loaded owner loader.loaded
    uses :=
      world.uses ++
        match result with
        | .ok run => reads run.code.cancelStream
        | .error _ => [] }

/-- The step function.  The stream of a call is a new one. -/
def step
    [DecidableEq Owner]
    (world : StreamWorld Owner) :
    StreamEvent Owner → Option (StreamWorld Owner)
  | .dispatches dispatch attempts =>
      if dispatch.call.cancelStream ∈ [none, some (.source world.calls)] then
        some
          { world with
            calls := world.calls + 1
            pending :=
              world.pending ++
                (StreamedAttempt.made attempts).flatMap StreamedAttempt.acts }
      else
        none
  | .acts index owner counter now =>
      world.pending[index]?.map fun act =>
        let rest := { world with pending := world.pending.eraseIdx index }
        match act with
        | .use made => { rest with uses := world.uses ++ [made] }
        | .enters call => rest.enters owner counter now call
  | .evicts owner key =>
      some
        { world with
          loaded :=
            Function.update world.loaded owner
              ((world.loaded owner).filter (·.1 ≠ key)) }

/--
The condition on an event.  A call with a stream makes no second attempt, and a
job enters an isolate that was loaded with a stream only if it loads it itself.
-/
def IsOwn (world : StreamWorld Owner) : StreamEvent Owner → Prop
  | .dispatches dispatch attempts =>
      dispatch.call.cancelStream = none ∨
        (StreamedAttempt.made attempts).length ≤ 1
  | .acts index owner counter now =>
      ∀ call code,
        world.pending[index]? = some (.enters call) →
        world.warm? owner counter now call = some code →
        code.cancelStream = none
  | .evicts _ _ => True

/-- The uses so far, and those to come if every job loads its isolate. -/
def promised (world : StreamWorld Owner) : List StreamUse :=
  world.uses ++ ownUses world.pending

/-- What has been used or will be is used once, and stems from some call. -/
structure Promises (world : StreamWorld Owner) : Prop where
  nodup : world.promised.Nodup
  stems :
    ∀ use ∈ world.promised, ∃ id < world.calls, use.stream.StemsFrom (.source id)
  /-- The stream that an isolate holds was read by the job that loaded it. -/
  held :
    ∀ owner key code stream,
      (key, code) ∈ world.loaded owner →
      code.cancelStream = some stream →
      .read stream ∈ world.uses

/-- Nothing has been done. -/
theorem promises_initial : Promises ({} : StreamWorld Owner) where
  nodup := .nil
  stems _ member := absurd member List.not_mem_nil
  held _ _ _ _ member := absurd member List.not_mem_nil

/-- What is promised is linear, so what was done is. -/
theorem Promises.usesLinearly
    {world : StreamWorld Owner}
    (promises : world.Promises) :
    world.UsesLinearly := by
  have done : world.uses.Nodup :=
    promises.nodup.sublist (List.sublist_append_left ..)
  exact fun stream =>
    ⟨List.nodup_iff_count_le_one.mp done _,
      List.nodup_iff_count_le_one.mp done _⟩

/-- What is promised when something that is pending is done. -/
theorem promised_perm
    {world : StreamWorld Owner}
    {index : Nat}
    {act : StreamAct}
    (next : world.pending[index]? = some act) :
    world.promised.Perm
      (world.uses ++ act.own ++ ownUses (world.pending.eraseIdx index)) := by
  unfold promised
  rw [List.append_assoc]
  refine List.Perm.append_left _ ?_
  obtain ⟨inside, rfl⟩ := List.getElem?_eq_some_iff.mp next
  have moved :=
    (List.getElem_cons_eraseIdx_perm inside).symm.flatMap_right StreamAct.own
  rw [List.flatMap_cons] at moved
  exact moved

/-- What is pending may be dropped. -/
theorem Promises.eraseIdx
    {world : StreamWorld Owner}
    {index : Nat}
    {act : StreamAct}
    (promises : world.Promises)
    (found : world.pending[index]? = some act) :
    Promises { world with pending := world.pending.eraseIdx index } := by
  have order := promised_perm found
  have included :
      (world.uses ++ ownUses (world.pending.eraseIdx index)).Sublist
        (world.uses ++ act.own ++ ownUses (world.pending.eraseIdx index)) :=
    (List.sublist_append_left ..).append_right _
  refine ⟨(order.nodup_iff.mp promises.nodup).sublist included, ?_,
    promises.held⟩
  exact fun use member =>
    promises.stems use (order.mem_iff.mpr (included.subset member))

/-- The stream that a warm worker holds was read before. -/
theorem Promises.read_of_warm
    {world : StreamWorld Owner}
    {owner : Owner}
    {counter now : Nat}
    {call : RunnerCall}
    {code : WorkerCode}
    {stream : CancelStream}
    (promises : world.Promises)
    (warm : world.warm? owner counter now call = some code)
    (captured : code.cancelStream = some stream) :
    .read stream ∈ world.uses := by
  obtain ⟨keyInput, -, lookup⟩ := Option.bind_eq_some_iff.mp warm
  obtain ⟨before, after, split, -⟩ := List.lookup_eq_some_iff.mp lookup
  have loaded :
      ((buildCacheKey counter now keyInput).1, code) ∈ world.loaded owner := by
    rw [split]
    exact List.mem_append_cons_self
  exact promises.held _ _ _ _ loaded captured

section Steps

variable [DecidableEq Owner]

/-- What a job does: it enters a worker that is there, fails, or loads its own. -/
theorem enters_cases
    (world : StreamWorld Owner)
    (owner : Owner)
    (counter now : Nat)
    (call : RunnerCall) :
    (∃ code,
      world.warm? owner counter now call = some code ∧
        world.enters owner counter now call =
          { world with uses := world.uses ++ reads code.cancelStream }) ∨
      (world.warm? owner counter now call = none ∧
        (((∃ err, (call.dispatchAt now).cacheKeyInput = .error err) ∧
            world.enters owner counter now call = world) ∨
          ∃ key code,
            code.cancelStream = call.input.cancelStream ∧
              world.enters owner counter now call =
                { world with
                  loaded :=
                    Function.update world.loaded owner
                      (world.loaded owner ++ [(key, code)])
                  uses := world.uses ++ reads call.input.cancelStream })) := by
  unfold warm? enters
  rcases runWithMode_cases
      { counter := counter, loaded := world.loaded owner }
      (call.dispatchAt now) with
    ⟨err, keyed, ran⟩ | ⟨keyInput, key, next, code, keyed, isKey, -, outcome⟩
  · right
    rw [keyed, ran]
    refine ⟨rfl, .inl ⟨⟨err, rfl⟩, ?_⟩⟩
    simp
  · have written : (buildCacheKey counter now keyInput).1 = key := by
      rw [isKey, buildCacheKey_eq_key]
      rfl
    rcases outcome with ⟨found, ran⟩ | ⟨absent, own, ran⟩
    · left
      refine ⟨code, ?_, ?_⟩
      · rw [keyed]
        exact (congrArg (List.lookup · _) written).trans found
      · rw [ran]
        simp
    · right
      have loaded := CancelWorld.cancelStream_of_ownCode own
      refine ⟨?_, .inr ⟨key, code, loaded, ?_⟩⟩
      · rw [keyed]
        exact (congrArg (List.lookup · _) written).trans absent
      · rw [ran]
        simp only [loaded]
        rfl

/-- A call keeps the promise exactly under the condition. -/
theorem nodup_dispatches_iff
    {world next : StreamWorld Owner}
    {dispatch : StreamedDispatch}
    {attempts : List (StreamedAttempt dispatch)}
    (stepped : world.step (.dispatches dispatch attempts) = some next)
    (promises : world.Promises) :
    (next.promised.Nodup ↔ world.IsOwn (.dispatches dispatch attempts)) ∧
      (next.promised.Nodup → next.Promises) := by
  obtain ⟨isNew, made⟩ := Option.ite_none_right_eq_some.mp stepped
  cases made
  generalize acts :
    (StreamedAttempt.made attempts).flatMap StreamedAttempt.acts = added
  have scope :
      ∀ use ∈ ownUses added, use.stream.StemsFrom (.source world.calls) := by
    intro use member
    rw [← acts, ownUses, List.flatMap_assoc, List.mem_flatMap] at member
    obtain ⟨attempt, -, member⟩ := member
    obtain ⟨origin, isStream, stems⟩ := attempt.owned_acts.inside use member
    rw [Option.mem_def.mp isStream] at isNew
    simp only [List.mem_cons, reduceCtorEq, Option.some.injEq,
      List.not_mem_nil, or_false, false_or] at isNew
    rwa [isNew] at stems
  have apart : ∀ use ∈ world.promised, use ∉ ownUses added := by
    intro use promised inAdded
    obtain ⟨id, earlier, stems⟩ := promises.stems use promised
    exact Nat.ne_of_lt earlier (stems.source_inj (scope use inAdded))
  have shown :
      StreamWorld.promised
          { world with
            calls := world.calls + 1
            pending := world.pending ++ added } =
        world.promised ++ ownUses added := by
    simp only [promised, ownUses_append, List.append_assoc]
  rw [shown]
  refine ⟨?_, fun nodup => ⟨by rwa [shown], ?_, promises.held⟩⟩
  · change
      (world.promised ++ ownUses added).Nodup ↔
        dispatch.call.cancelStream = none ∨
          (StreamedAttempt.made attempts).length ≤ 1
    rw [← StreamedAttempt.nodup_attempts_iff, acts, List.nodup_append]
    constructor
    · exact fun both => both.2.1
    · refine fun nodup => ⟨promises.nodup, nodup, ?_⟩
      rintro use member other inAdded rfl
      exact apart use member inAdded
  · rw [shown]
    intro use member
    rcases List.mem_append.mp member with before | inAdded
    · obtain ⟨id, earlier, stems⟩ := promises.stems use before
      exact ⟨id, Nat.lt_succ_of_lt earlier, stems⟩
    · exact ⟨world.calls, Nat.lt_succ_self _, scope use inAdded⟩

/-- A worker is loaded with the stream that its job reads. -/
theorem Promises.held_load
    {world : StreamWorld Owner}
    {owner : Owner}
    {key : String}
    {code : WorkerCode}
    (promises : world.Promises) :
    ∀ other otherKey otherCode stream,
      (otherKey, otherCode) ∈
          Function.update world.loaded owner
            (world.loaded owner ++ [(key, code)]) other →
      otherCode.cancelStream = some stream →
      .read stream ∈ world.uses ++ reads code.cancelStream := by
  intro other otherKey otherCode stream member holds
  by_cases same : other = owner
  · subst same
    rw [Function.update_self] at member
    rcases List.mem_append.mp member with before | isNew
    · exact
        List.mem_append_left _ (promises.held _ _ _ _ before holds)
    · cases List.mem_singleton.mp isNew
      rw [holds]
      exact List.mem_append_right _ (List.mem_singleton_self _)
  · rw [Function.update_of_ne same] at member
    exact List.mem_append_left _ (promises.held _ _ _ _ member holds)

/--
A job whose own read is still promised keeps the promise exactly if it enters no
worker with a stream.
-/
theorem nodup_enters_iff
    {world : StreamWorld Owner}
    (owner : Owner)
    (counter now : Nat)
    {call : RunnerCall}
    (promises : world.Promises)
    (nodup :
      (world.uses ++ reads call.input.cancelStream ++
        ownUses world.pending).Nodup)
    (stems :
      ∀ use ∈ reads call.input.cancelStream,
        ∃ id < world.calls, use.stream.StemsFrom (.source id)) :
    ((world.enters owner counter now call).promised.Nodup ↔
        ∀ code,
          world.warm? owner counter now call = some code →
          code.cancelStream = none) ∧
      ((world.enters owner counter now call).promised.Nodup →
        (world.enters owner counter now call).Promises) := by
  rcases enters_cases world owner counter now call with
    ⟨code, warm, entered⟩ |
      ⟨cold, ⟨-, entered⟩ | ⟨key, code, holds, entered⟩⟩
  · rw [entered]
    cases captured : code.cancelStream with
    | none =>
        rw [show world.uses ++ reads none = world.uses from List.append_nil _]
        refine ⟨iff_of_true promises.nodup ?_, fun _ => promises⟩
        intro other otherWarm
        cases warm.symm.trans otherWarm
        exact captured
    | some stream =>
        have again := promises.read_of_warm warm captured
        have twice :
            ¬ (world.uses ++ reads (some stream) ++
                ownUses world.pending).Nodup := by
          intro once
          exact
            List.disjoint_of_nodup_append
              (once.sublist (List.sublist_append_left ..)) again
              (List.mem_singleton_self _)
        refine ⟨iff_of_false twice fun own => ?_, fun once =>
          absurd once twice⟩
        rw [own code warm] at captured
        cases captured
  · rw [entered]
    refine ⟨iff_of_true promises.nodup ?_, fun _ => promises⟩
    intro code warm
    cases cold.symm.trans warm
  · rw [entered]
    refine ⟨iff_of_true nodup ?_, fun _ => ⟨nodup, ?_, ?_⟩⟩
    · intro other warm
      cases cold.symm.trans warm
    · intro use member
      rcases List.mem_append.mp member with before | pending
      · rcases List.mem_append.mp before with before | isOwn
        · exact promises.stems use (List.mem_append_left _ before)
        · exact stems use isOwn
      · exact promises.stems use (List.mem_append_right _ pending)
    · rw [← holds]
      exact promises.held_load

/-- What is pending keeps the promise exactly under the condition. -/
theorem nodup_acts_iff
    {world next : StreamWorld Owner}
    {index : Nat}
    {owner : Owner}
    {counter now : Nat}
    (stepped : world.step (.acts index owner counter now) = some next)
    (promises : world.Promises) :
    (next.promised.Nodup ↔ world.IsOwn (.acts index owner counter now)) ∧
      (next.promised.Nodup → next.Promises) := by
  obtain ⟨act, found, made⟩ := Option.map_eq_some_iff.mp stepped
  have order := promised_perm found
  have nodup := order.nodup_iff.mp promises.nodup
  cases act with
  | use used =>
      cases made
      have own : world.IsOwn (.acts index owner counter now) := by
        intro call code enters
        cases found.symm.trans enters
      refine ⟨iff_of_true nodup own, fun _ => ⟨nodup, ?_, ?_⟩⟩
      · exact fun use member => promises.stems use (order.mem_iff.mpr member)
      · intro owner key code stream loaded holds
        exact
          List.mem_append_left _
            (promises.held owner key code stream loaded holds)
  | enters call =>
      cases made
      have condition :
          world.IsOwn (.acts index owner counter now) ↔
            ∀ code,
              world.warm? owner counter now call = some code →
              code.cancelStream = none := by
        constructor
        · exact fun own code warm => own call code found warm
        · intro own other code enters warm
          cases found.symm.trans enters
          exact own code warm
      rw [condition]
      refine
        nodup_enters_iff owner counter now (promises.eraseIdx found) nodup ?_
      intro use isOwn
      refine promises.stems use (order.mem_iff.mpr ?_)
      exact List.mem_append_left _ (List.mem_append_right _ isOwn)

/-- An event keeps the promise exactly under the condition. -/
theorem nodup_step_iff
    {world next : StreamWorld Owner}
    {event : StreamEvent Owner}
    (stepped : world.step event = some next)
    (promises : world.Promises) :
    (next.promised.Nodup ↔ world.IsOwn event) ∧
      (next.promised.Nodup → next.Promises) := by
  cases event with
  | dispatches dispatch attempts => exact nodup_dispatches_iff stepped promises
  | acts index owner counter now => exact nodup_acts_iff stepped promises
  | evicts owner key =>
      cases stepped
      refine ⟨iff_of_true promises.nodup trivial, fun _ =>
        ⟨promises.nodup, promises.stems, ?_⟩⟩
      intro other otherKey code stream member holds
      dsimp only at member
      by_cases same : other = owner
      · subst same
        rw [Function.update_self] at member
        exact promises.held _ _ _ _ (List.mem_filter.mp member).1 holds
      · rw [Function.update_of_ne same] at member
        exact promises.held _ _ _ _ member holds

/--
In every run whose events meet the condition, whatever the platform does and
however calls, attempts and jobs are interleaved, each stream was passed to one
attempt at most and had one reader at most.  An event keeps it so, in what has
been done and what is under way, exactly under the condition.
-/
theorem usesLinearly_of_isOwn
    {events : List (StreamEvent Owner)}
    {final : StreamWorld Owner}
    (run : GuardedRun step IsOwn {} events final) :
    final.UsesLinearly ∧
      ∀ event next,
        final.step event = some next →
        (next.promised.Nodup ↔ final.IsOwn event) := by
  have promises : final.Promises :=
    run.invariant
      (fun own stepped promises =>
        (nodup_step_iff stepped promises).2
          ((nodup_step_iff stepped promises).1.mpr own))
      promises_initial
  exact
    ⟨promises.usesLinearly, fun event next stepped =>
      (nodup_step_iff stepped promises).1⟩

end Steps

/-- The request of a submission with a token. -/
def retriedRequest : CoordinatorRunRequest where
  fnSource := "() => 1"
  fnHash := "0"
  args := []
  envelope := {
    deadlineEpochMs := 0
    signal := { cancelled := false }
  }
  cancelStream := some (.source 0)

/-- A submission with a token and one retry. -/
def retriedOnce : StreamedDispatch where
  runtime := wholeNumbers
  opts := {
    timeout := none
    retries := some (.typed (.finite 1))
    cancel := true
    deadlineEpochMs := none
  }
  call := .runOne [] retriedRequest

/-- The platform is busy, and the call never arrives. -/
def refused : StreamedAttempt retriedOnce where
  platform := .ideal
  hop := .lost (.error (.library busyError))
  reading := .settledBy (.error (.error (.library busyError)))
  settles _ same := (RaceWinner.task.inj same).symm

/-- The call arrives, and its job runs. -/
def answered : StreamedAttempt retriedOnce where
  platform := .ideal
  hop := .delivered
  reading :=
    .settledBy
      (((retriedOnce.call.run .ideal).map Prod.fst).mapError
        Thrown.asRejection)
  settles _ same := (RaceWinner.task.inj same).symm

/-- Two attempts are allowed. -/
theorem allows_retriedOnce {count : Nat} (few : count ≤ 2) :
    (retriedOnce.opts.attemptLimit retriedOnce.runtime).Allows count := by
  have limit :
      retriedOnce.opts.attemptLimit retriedOnce.runtime = .ofNat 2 := by
    decide +kernel
  rw [limit, allows_ofNat_iff]
  exact few

/-- The world when the attempts have been made, before anything is done. -/
theorem step_retriedOnce
    {attempts : List (StreamedAttempt retriedOnce)}
    (made : StreamedAttempt.made attempts = attempts) :
    ({} : StreamWorld Unit).step (.dispatches retriedOnce attempts) =
      some
        { calls := 1
          pending := attempts.flatMap StreamedAttempt.acts } := by
  have isNew :
      retriedOnce.call.cancelStream ∈ [none, some (CancelStream.source 0)] :=
    List.mem_cons_of_mem _ (List.mem_singleton_self _)
  rw [step, if_pos isNew, made]
  rfl

theorem usesLinearly_answered :
    ∃ final : StreamWorld Unit,
      final.uses = [.sent (.source 0), .read (.source 0)] ∧
        final.UsesLinearly := by
  have made : StreamedAttempt.made [answered] = [answered] :=
    madeOf_singleton (allows_retriedOnce (by decide)) rfl
  let sent : StreamWorld Unit :=
    { calls := 1
      pending := [.enters (runOneRunnerCall [] retriedRequest)]
      uses := [.sent (.source 0)] }
  have cold :
      ∀ counter now call, sent.warm? () counter now call = none := by
    intro counter now call
    simp [warm?, sent]
  have entered :
      ∃ final : StreamWorld Unit,
        sent.step (.acts 0 () 0 0) = some final ∧
          final.uses = [.sent (.source 0), .read (.source 0)] := by
    refine ⟨_, rfl, ?_⟩
    rcases enters_cases { sent with pending := [] } () 0 0
        (runOneRunnerCall [] retriedRequest) with
      ⟨code, warm, -⟩ | ⟨-, ⟨⟨err, failed⟩, -⟩ | ⟨key, code, -, entered⟩⟩
    · cases (cold ..).symm.trans warm
    · cases failed
    · exact congrArg uses entered
  obtain ⟨final, enters, done⟩ := entered
  have single :
      ({} : StreamWorld Unit).IsOwn (.dispatches retriedOnce [answered]) :=
    .inr (by rw [made]; exact Nat.le_refl 1)
  have run :
      GuardedRun step IsOwn ({} : StreamWorld Unit)
        [.dispatches retriedOnce [answered], .acts 0 () 0 0, .acts 0 () 0 0]
        final := by
    refine
      .cons single (step_retriedOnce made)
        (.cons ?_ rfl (.cons ?_ enters .nil))
    · intro call code pending
      cases pending
    · intro call code _ warm
      cases (cold ..).symm.trans warm
  exact ⟨final, done, (usesLinearly_of_isOwn run).1⟩

/-- Its stream is passed to both attempts. -/
theorem not_usesLinearly_retriedOnce :
    ¬ ∀ (events : List (StreamEvent Unit)) (final : StreamWorld Unit),
        Run step {} events final →
        final.UsesLinearly := by
  intro linear
  have made : StreamedAttempt.made [refused, refused] = [refused, refused] :=
    madeOf_pair (allows_retriedOnce (Nat.le_refl 2)) rfl rfl rfl
  have once :=
    linear
      [.dispatches retriedOnce [refused, refused], .acts 0 () 0 0,
        .acts 0 () 0 0]
      _
      (.cons trivial (step_retriedOnce made)
        (.cons trivial rfl (.cons trivial rfl .nil)))
      (.source 0)
  exact absurd once.1 (by decide)

end StreamWorld

end CloudflareParallel
