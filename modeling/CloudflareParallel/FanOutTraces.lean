import CloudflareParallel.FanOutLaws

namespace CloudflareParallel

open ListSlices

/-!
# What the log of a fan-out says about one job

A trace picks items out of a log, in the order of the attempts, and says which
global slots an item is about.  `TraceLaw` is a law for the items of every slot
of a part of the jobs: parts are put together, because the items of a slot all
come from the part that the slot is in.
-/

/-- What is picked out of a log, and which global slots an item is about. -/
structure FanOutTrace (Item : Type) where
  execute : Path → RunnerCall → List Item := fun _ _ => []
  runBatch : Path → RunBatchRequest → List Item := fun _ _ => []
  isAbout : Nat → Item → Bool

namespace FanOutTrace

variable {Item : Type} (trace : FanOutTrace Item)

mutual

/-- The items of one entry. -/
def collectEntry : Activity → List Item
  | .execute path call => trace.execute path call
  | .runBatch _ attempts => collectRunBatch attempts
  | .dispatch _ attempts => collectDispatch attempts

/-- The items of the attempts of a leaf call. -/
def collectRunBatch :
    List (Attempt RunBatchRequest Activity) → List Item
  | [] => []
  | ⟨path, request, none⟩ :: rest =>
      trace.runBatch path request ++ collectRunBatch rest
  | ⟨path, request, some log⟩ :: rest =>
      trace.runBatch path request ++
        (collect log ++ collectRunBatch rest)

/-- The items of the attempts of a sub-coordinator call. -/
def collectDispatch :
    List (Attempt DispatchTreeRequest Activity) → List Item
  | [] => []
  | ⟨_, _, none⟩ :: rest => collectDispatch rest
  | ⟨_, _, some log⟩ :: rest =>
      collect log ++ collectDispatch rest

/-- The items of a log. -/
def collect : List Activity → List Item
  | [] => []
  | entry :: rest => collectEntry entry ++ collect rest

end

/-- The items about one slot. -/
def about (slot : Nat) (log : List Activity) : List Item :=
  (trace.collect log).filter (trace.isAbout slot)

/-- What one attempt of a leaf call adds to the items about a slot. -/
def aboutRunBatch
    (slot : Nat)
    (attempt : Attempt RunBatchRequest Activity) : List Item :=
  (trace.runBatch attempt.path attempt.request).filter (trace.isAbout slot) ++
    trace.about slot (attempt.reached.getD [])

theorem collect_append
    (first second : List Activity) :
    trace.collect (first ++ second) =
      trace.collect first ++ trace.collect second := by
  induction first with
  | nil =>
      rfl
  | cons entry rest inductionHypothesis =>
      simp [collect, inductionHypothesis]

@[simp] theorem about_append
    (slot : Nat)
    (first second : List Activity) :
    trace.about slot (first ++ second) =
      trace.about slot first ++ trace.about slot second := by
  simp [about, collect_append]

/-- The items of a leaf call, attempt by attempt. -/
theorem about_runBatch
    (slot : Nat)
    (leafName : String)
    (attempts : List (Attempt RunBatchRequest Activity)) :
    trace.about slot [.runBatch leafName attempts] =
      attempts.flatMap (trace.aboutRunBatch slot) := by
  simp only [about, collect, collectEntry, List.append_nil]
  induction attempts with
  | nil =>
      rfl
  | cons attempt rest inductionHypothesis =>
      obtain ⟨path, request, reached⟩ := attempt
      cases reached <;>
        simp [collectRunBatch, collect, aboutRunBatch, about,
          inductionHypothesis]

/-- The items of a sub-coordinator call, attempt by attempt. -/
theorem about_dispatch
    (slot : Nat)
    (subName : String)
    (attempts : List (Attempt DispatchTreeRequest Activity)) :
    trace.about slot [.dispatch subName attempts] =
      attempts.flatMap fun attempt =>
        trace.about slot (attempt.reached.getD []) := by
  simp only [about, collect, collectEntry, List.append_nil]
  induction attempts with
  | nil =>
      rfl
  | cons attempt rest inductionHypothesis =>
      obtain ⟨path, request, reached⟩ := attempt
      cases reached <;>
        simp [collectDispatch, collect, inductionHypothesis]

end FanOutTrace

/-- The items about a slot are as said in a part of the jobs, and none outside. -/
structure TraceLaw
    {Item : Type}
    (trace : FanOutTrace Item)
    (holds : List Item → Prop)
    (base size : Nat)
    (log : List Activity) : Prop where
  inside :
    ∀ slot, base ≤ slot → slot < base + size → holds (trace.about slot log)
  outside :
    ∀ slot, slot < base ∨ base + size ≤ slot → trace.about slot log = []

section TraceLaw

variable {Item : Type} {trace : FanOutTrace Item}
variable {holds : List Item → Prop} {base : Nat}

/-- Nothing done is a law for no jobs. -/
theorem traceLaw_nil : TraceLaw trace holds base 0 [] where
  inside slot notBefore notAfter := by omega
  outside _ _ := rfl

/-- A weaker law. -/
theorem TraceLaw.mono
    {weaker : List Item → Prop}
    {size : Nat}
    {log : List Activity}
    (law : TraceLaw trace holds base size log)
    (weakens : ∀ items, holds items → weaker items) :
    TraceLaw trace weaker base size log where
  inside slot notBefore notAfter :=
    weakens _ (law.inside slot notBefore notAfter)
  outside := law.outside

/-- Neighbouring parts make up one part. -/
theorem TraceLaw.append
    {size rest : Nat}
    {first second : List Activity}
    (head : TraceLaw trace holds base size first)
    (tail : TraceLaw trace holds (base + size) rest second) :
    TraceLaw trace holds base (size + rest) (first ++ second) where
  inside slot notBefore notAfter := by
    rw [trace.about_append]
    by_cases inHead : slot < base + size
    · rw [tail.outside slot (.inl inHead), List.append_nil]
      exact head.inside slot notBefore inHead
    · rw [head.outside slot (.inr (by omega)), List.nil_append]
      exact tail.inside slot (by omega) (by omega)
  outside slot outside := by
    rw [trace.about_append, head.outside slot (by omega),
      tail.outside slot (by omega), List.nil_append]

/-- What a trace says about single slots is put together part by part. -/
theorem partLaw_traceLaw : PartLaw (TraceLaw trace holds) where
  nil _ := traceLaw_nil
  append := TraceLaw.append

/-- Whatever a retried dispatch did, its targets did. -/
theorem about_retriedDispatch_eq_nil
    {platform : Platform}
    {subName : String}
    {call : Nat → RpcOutcome × Attempt DispatchTreeRequest Activity}
    {path : Nat → Path}
    {request : Nat → DispatchTreeRequest}
    {run : Nat → Dispatched}
    {slot : Nat}
    (calls :
      ∀ made,
        call made = platform.call (path made) (request made) (run made))
    (nothing : ∀ made, trace.about slot (run made).activity = []) :
    trace.about slot
        [.dispatch subName (retryTransient call MAX_TRANSIENT_RETRIES 0).2] =
      [] := by
  rw [trace.about_dispatch, List.flatMap_eq_nil_iff]
  intro attempt member
  obtain ⟨made, rfl⟩ := mem_retryTransient member
  cases reached : (call made).2.reached with
  | none => rfl
  | some inner =>
      rw [calls] at reached
      rw [Option.getD_some, platform.call_reached _ _ _ reached]
      exact nothing made

end TraceLaw

/-! ## Tier by tier -/

/--
What makes a law hold at every tier: a job run by the coordinator obeys the law
of no tier, leaf calls obey that of the first, and a retried dispatch obeys the
law of the tier above its targets.
-/
structure TierRules
    {Item : Type}
    (trace : FanOutTrace Item)
    (platform : Platform)
    (holds : Nat → List Item → Prop) : Prop where
  inDo :
    ∀ self request args,
      TraceLaw trace (holds 0) 0 1
        [.execute [] (inDoRunnerCall self request args)]
  leafCall :
    ∀ path leafName buildBatch stream slot args,
      (∀ sent, (buildBatch sent).taskSlotBase = some slot) →
      (∀ sent, (buildBatch sent).argsList = [args]) →
      TraceLaw trace (holds 1) slot 1
        [.runBatch leafName
          (runBatchWithRetry platform path leafName buildBatch stream).2]
  dispatch :
    ∀ (tier base : Nat) (jobs : List (List JsValue)) (subName : String)
      (path : Nat → Path) (request : Nat → DispatchTreeRequest)
      (run : Nat → Dispatched),
      0 < tier →
      jobs ≠ [] →
      (∀ made,
        Aligned (JobOutcome platform (run made).activity) base jobs
          (run made).results) →
      (∀ made,
        TraceLaw trace (holds tier) base jobs.length (run made).activity) →
      TraceLaw trace (holds (tier + 1)) base jobs.length
        [.dispatch subName
          (retryTransient
            (fun made => platform.call (path made) (request made) (run made))
            MAX_TRANSIENT_RETRIES 0).2]

section TierRules

variable {Item : Type} {trace : FanOutTrace Item}
variable {platform : Platform} {holds : Nat → List Item → Prop}

/-- The rules of a trace are a law of the logs. -/
theorem TierRules.tierLaw
    (rules : TierRules trace platform holds) :
    TierLaw platform fun tier => TraceLaw trace (holds tier) where
  parts _ := partLaw_traceLaw
  inDo := rules.inDo
  leafCall := rules.leafCall
  dispatch := rules.dispatch

/-- A run obeys the law of the tiers of its plan. -/
theorem TierRules.runMany
    (rules : TierRules trace platform holds)
    {treeDepth : TreeDepth}
    {self : CfpCoordinator}
    {request : CoordinatorFanOutRequest}
    {plan : TopologyPlan}
    {response : FanOutResponse}
    (selected :
      selectTopology treeDepth request.argsList.length
        request.selectorOptions = .ok plan)
    (ran :
      CloudflareParallel.runMany treeDepth platform self request =
        .ok response) :
    TraceLaw trace (holds plan.retryTiers) 0 request.argsList.length
      response.activity :=
  rules.tierLaw.runMany selected ran

end TierRules

end CloudflareParallel
