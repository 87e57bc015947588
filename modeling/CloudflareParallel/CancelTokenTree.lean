import CloudflareParallel.CancelTokens

namespace CloudflareParallel

open LabelledRuns
open ParentForests

/-!
# Cancellation spreads down the tree of tokens

The invariant keeps every live child in the set of its parent, and every child
of a cancelled parent cancelled, except below the parents whose walk is still
going on.
-/

namespace SetPlaces

/-- Places of a set after deletions. -/
structure Emptied (before after : SetPlaces) : Prop where
  length : after.length = before.length
  kept :
    ∀ (place value : Nat),
      after[place]? = some (some value) →
      before[place]? = some (some value)

theorem Emptied.refl (places : SetPlaces) : Emptied places places :=
  ⟨rfl, fun _ _ found => found⟩

theorem Emptied.trans
    {before middle after : SetPlaces}
    (first : Emptied before middle)
    (second : Emptied middle after) :
    Emptied before after :=
  ⟨second.length.trans first.length,
    fun place value found =>
      first.kept place value (second.kept place value found)⟩

theorem emptied_delete
    (places : SetPlaces)
    (value : Nat) :
    Emptied places (places.delete value) := by
  refine ⟨List.length_map _, fun place other found => ?_⟩
  unfold delete at found
  rw [List.getElem?_map] at found
  obtain ⟨old, oldFound, same⟩ := Option.map_eq_some_iff.mp found
  split at same
  next => cases same
  next => rw [oldFound, same]

theorem emptied_clear (places : SetPlaces) : Emptied places places.clear := by
  refine ⟨List.length_map _, fun place other found => ?_⟩
  unfold clear at found
  rw [List.getElem?_map] at found
  obtain ⟨old, -, same⟩ := Option.map_eq_some_iff.mp found
  cases same

theorem Emptied.mem
    {before after : SetPlaces}
    (emptied : Emptied before after)
    {value : Nat}
    (found : some value ∈ after) :
    some value ∈ before := by
  obtain ⟨place, inside, at_⟩ := List.getElem_of_mem found
  have there : after[place]? = some (some value) := by
    rw [List.getElem?_eq_getElem inside, at_]
  exact List.mem_of_getElem? (emptied.kept place value there)

theorem mem_delete_of_ne
    {places : SetPlaces}
    {value other : Nat}
    (different : other ≠ value)
    (found : some other ∈ places) :
    some other ∈ places.delete value := by
  refine List.mem_map.mpr ⟨some other, found, ?_⟩
  rw [if_neg]
  simpa using different

theorem mem_add
    {places : SetPlaces}
    {value other : Nat} :
    some other ∈ places.add value ↔ some other ∈ places ∨ other = value := by
  unfold add
  split
  next there =>
    constructor
    · exact Or.inl
    · rintro (found | rfl)
      · exact found
      · exact there
  next => simp

end SetPlaces

namespace TokenHeap

@[simp] theorem tokens_update
    (heap : TokenHeap)
    (token : Nat)
    (change : CancelToken → CancelToken)
    (node : Nat) :
    (heap.update token change).tokens node =
      if node = token then
        change (heap.tokens token)
      else
        heap.tokens node := rfl

@[simp] theorem created_update
    (heap : TokenHeap)
    (token : Nat)
    (change : CancelToken → CancelToken) :
    (heap.update token change).created = heap.created := rfl

theorem poll_cancelled
    (heap : TokenHeap)
    (node : Nat) :
    (heap.poll node).cancelled = (heap.tokens node).isCancelled := rfl

/-- Two assignments to the fields of one token. -/
theorem update_update
    (heap : TokenHeap)
    (token : Nat)
    (first second : CancelToken → CancelToken) :
    (heap.update token first).update token second =
      heap.update token fun fields => second (first fields) := by
  unfold update
  congr 1
  funext node
  by_cases here : node = token <;> simp [here]

theorem poll_update_of_ne
    {token node : Nat}
    (heap : TokenHeap)
    (change : CancelToken → CancelToken)
    (different : node ≠ token) :
    (heap.update token change).poll node = heap.poll node := by
  unfold poll
  rw [tokens_update, if_neg different]

/-- An update that a poll does not see. -/
theorem poll_update
    {heap : TokenHeap}
    {token : Nat}
    {change : CancelToken → CancelToken}
    (same : (change (heap.tokens token)).poll = (heap.tokens token).poll)
    (node : Nat) :
    (heap.update token change).poll node = heap.poll node := by
  unfold poll
  rw [tokens_update]
  split
  next here => rw [same, here]
  next => rfl

end TokenHeap

/-! ## The invariant -/

/-- What holds of the tokens, with the parents whose children are walked. -/
structure TokensSound
    (forest : ParentForest)
    (walked : Nat → Prop)
    (heap : TokenHeap) : Prop where
  created : heap.created = forest.length
  ordered : Ordered forest
  unused : ∀ node, heap.created ≤ node → heap.tokens node = {}
  /-- The set of a token has children of it. -/
  children :
    ∀ parent child,
      some child ∈ (heap.tokens parent).children →
      forest[child]? = some (some parent)
  /-- A live child is in the set of its parent. -/
  listed :
    ∀ parent child : Nat,
      forest[child]? = some (some parent) →
      (heap.tokens child).isCancelled = false →
      some child ∈ (heap.tokens parent).children
  /-- The children of a cancelled token are cancelled. -/
  closed :
    ∀ parent child : Nat,
      forest[child]? = some (some parent) →
      ¬ walked parent →
      (heap.tokens parent).isCancelled = true →
      (heap.tokens child).isCancelled = true
  /-- A listener takes the token it listens to out of a set. -/
  listeners :
    ∀ node parent child,
      .dropsChild parent child ∈ (heap.tokens node).listeners →
      child = node
  /-- The signal carries the error of the raw reason. -/
  errors :
    ∀ node err,
      (heap.tokens node).signalReason = some err →
      err = .cancelledError (heap.tokens node).rawReason

/-- The fields that a token may be given while the invariant goes on. -/
structure TokenFits
    (forest : ParentForest)
    (walked : Nat → Prop)
    (heap : TokenHeap)
    (token : Nat)
    (fields : CancelToken) : Prop where
  unused : heap.created ≤ token → fields = {}
  stays :
    (heap.tokens token).isCancelled = true → fields.isCancelled = true
  closed :
    ¬ walked token →
    fields.isCancelled = true →
    (heap.tokens token).isCancelled = true
  children :
    ∀ child,
      some child ∈ fields.children →
      forest[child]? = some (some token)
  listed :
    ∀ child : Nat,
      forest[child]? = some (some token) →
      (heap.tokens child).isCancelled = false →
      some child ∈ fields.children
  listeners :
    ∀ parent child,
      .dropsChild parent child ∈ fields.listeners →
      child = token
  errors :
    ∀ err,
      fields.signalReason = some err →
      err = .cancelledError fields.rawReason

/-- What cancelling a token with a reason may have changed. -/
structure Spread
    (forest : ParentForest)
    (top : Nat)
    (reason : Option String)
    (before after : TokenHeap) : Prop where
  polls :
    ∀ node,
      after.poll node = before.poll node ∨
        Descends forest top node ∧
          (before.poll node).cancelled = false ∧
            after.poll node = ⟨true, reason⟩
  sets :
    ∀ node,
      (before.tokens node).children.Emptied (after.tokens node).children

namespace Spread

variable {forest : ParentForest}
variable {top : Nat}
variable {reason : Option String}
variable {before middle after : TokenHeap}

theorem refl (heap : TokenHeap) : Spread forest top reason heap heap :=
  ⟨fun _ => Or.inl rfl, fun _ => .refl _⟩

/-- A cancelled token keeps its poll. -/
theorem poll_of_cancelled
    (spread : Spread forest top reason before after)
    {node : Nat}
    (cancelled : (before.poll node).cancelled = true) :
    after.poll node = before.poll node := by
  rcases spread.polls node with same | ⟨-, live, -⟩
  · exact same
  · rw [live] at cancelled
    cases cancelled

theorem cancelled
    (spread : Spread forest top reason before after)
    {node : Nat}
    (cancelled : (before.poll node).cancelled = true) :
    (after.poll node).cancelled = true := by
  rw [spread.poll_of_cancelled cancelled]
  exact cancelled

/-- A token that was cancelled on the way has the reason. -/
theorem reason_of_live
    (spread : Spread forest top reason before after)
    {node : Nat}
    (live : (before.poll node).cancelled = false)
    (cancelled : (after.poll node).cancelled = true) :
    (after.poll node).reason = reason := by
  rcases spread.polls node with same | ⟨-, -, changed⟩
  · rw [same, live] at cancelled
    cases cancelled
  · rw [changed]

theorem trans
    (first : Spread forest top reason before middle)
    (second : Spread forest top reason middle after) :
    Spread forest top reason before after := by
  refine ⟨fun node => ?_,
    fun node => (first.sets node).trans (second.sets node)⟩
  rcases second.polls node with same | ⟨below, live, changed⟩
  · rw [same]
    exact first.polls node
  · rcases first.polls node with same | ⟨-, -, already⟩
    · rw [same] at live
      exact .inr ⟨below, live, changed⟩
    · rw [already] at live
      cases live

/-- What spreads from a child spreads from its parent. -/
theorem above
    {child : Nat}
    (spread : Spread forest child reason before after)
    (below : Descends forest top child) :
    Spread forest top reason before after := by
  refine ⟨fun node => ?_, spread.sets⟩
  rcases spread.polls node with same | ⟨descends, changed⟩
  · exact .inl same
  · exact .inr ⟨below.trans descends, changed⟩

end Spread

/-- What `cancel` does to a token and to everything below it. -/
structure CancelLaw
    (forest : ParentForest)
    (walked : Nat → Prop)
    (token : Nat)
    (reason : Option String)
    (before after : TokenHeap) : Prop where
  sound : TokensSound forest walked after
  spread : Spread forest token reason before after
  cancelled : (after.poll token).cancelled = true

namespace TokensSound

variable {forest : ParentForest}
variable {walked : Nat → Prop}
variable {heap : TokenHeap}
variable {token : Nat}
variable {reason : Option String}

/-- A node of the forest is a token that exists. -/
theorem inside
    (sound : TokensSound forest walked heap)
    {node : Nat}
    {parent? : Option Nat}
    (found : forest[node]? = some parent?) :
    node < heap.created := by
  obtain ⟨inside, -⟩ := List.getElem?_eq_some_iff.mp found
  rw [sound.created]
  exact inside

/-- An assignment of fields that fit, perhaps while the token is walked. -/
theorem update
    {among : Nat → Prop}
    {change : CancelToken → CancelToken}
    (sound : TokensSound forest walked heap)
    (more : ∀ node, walked node → among node)
    (fits : TokenFits forest among heap token (change (heap.tokens token))) :
    TokensSound forest among (heap.update token change) := by
  have stays
      {node : Nat}
      (cancelled : (heap.tokens node).isCancelled = true) :
      ((heap.update token change).tokens node).isCancelled = true := by
    rw [TokenHeap.tokens_update]
    split
    next here => exact fits.stays (here ▸ cancelled)
    next => exact cancelled
  refine
    { created := sound.created
      ordered := sound.ordered
      unused := ?_
      children := ?_
      listed := ?_
      closed := ?_
      listeners := ?_
      errors := ?_ }
  · intro node beyond
    rw [TokenHeap.tokens_update]
    split
    next here => exact fits.unused (here ▸ beyond)
    next => exact sound.unused node beyond
  · intro parent child found
    rw [TokenHeap.tokens_update] at found
    split at found
    next here => exact here ▸ fits.children child found
    next => exact sound.children parent child found
  · intro parent child found childLive
    have wasLive : (heap.tokens child).isCancelled = false := by
      rw [← Bool.not_eq_true] at childLive ⊢
      exact fun cancelled => childLive (stays cancelled)
    rw [TokenHeap.tokens_update]
    split
    next here => exact fits.listed child (here ▸ found) wasLive
    next => exact sound.listed parent child found wasLive
  · intro parent child found quiet cancelled
    have notWalked : ¬ walked parent := fun isWalked =>
      quiet (more parent isWalked)
    refine stays (sound.closed parent child found notWalked ?_)
    rw [TokenHeap.tokens_update] at cancelled
    split at cancelled
    next here =>
      rw [here] at quiet ⊢
      exact fits.closed quiet cancelled
    next => exact cancelled
  · intro node parent child found
    rw [TokenHeap.tokens_update] at found
    split at found
    next here => exact here ▸ fits.listeners parent child found
    next => exact sound.listeners node parent child found
  · intro node err found
    rw [TokenHeap.tokens_update] at found ⊢
    split at found
    next here =>
      rw [if_pos here]
      exact fits.errors err found
    next here =>
      rw [if_neg here]
      exact sound.errors node err found

/-- The fields that `cancel` sets before the listeners run. -/
theorem mark
    (reason : Option String)
    (sound : TokensSound forest walked heap)
    (there : token < heap.created)
    (live : (heap.tokens token).isCancelled = false) :
    let marked :=
      (heap.update token fun fields =>
        { fields with rawReason := reason }).update token fun fields =>
          { fields with
            signalReason := some (.cancelledError reason)
            listeners := [] }
    CancelLaw forest (fun node => walked node ∨ node = token) token reason
      heap marked := by
  intro marked
  have oneUpdate := TokenHeap.update_update heap token
    (fun fields => { fields with rawReason := reason })
    fun fields =>
      { fields with
        signalReason := some (.cancelledError reason)
        listeners := [] }
  have markedToken : marked.poll token = ⟨true, reason⟩ := by
    simp [marked, TokenHeap.poll, CancelToken.poll, CancelToken.isCancelled]
  refine ⟨?_, ⟨fun node => ?_, fun node => ?_⟩, ?_⟩
  · rw [show marked = _ from oneUpdate]
    exact sound.update (fun _ => Or.inl)
      { unused := fun beyond => absurd there (Nat.not_lt.mpr beyond)
        stays := fun _ => rfl
        closed := fun quiet => absurd (Or.inr rfl) quiet
        children := sound.children token
        listed := sound.listed token
        listeners := fun _ _ found => by cases found
        errors := fun _ found => (Option.some.inj found).symm }
  · by_cases here : node = token
    · subst here
      exact .inr ⟨.top, live, markedToken⟩
    · refine .inl ?_
      rw [show marked = _ from oneUpdate, TokenHeap.poll_update_of_ne _ _ here]
  · rw [show marked = _ from oneUpdate, TokenHeap.tokens_update]
    split
    next here =>
      rw [here]
      exact .refl _
    next => exact .refl _
  · rw [markedToken]

/-- Emptied places of a set, of children that are cancelled. -/
theorem emptySet
    {parent : Nat}
    {change : SetPlaces → SetPlaces}
    (sound : TokensSound forest walked heap)
    (emptied : ∀ places : SetPlaces, places.Emptied (change places))
    (kept :
      ∀ child,
        some child ∈ (heap.tokens parent).children →
        (heap.tokens child).isCancelled = false →
        some child ∈ change (heap.tokens parent).children) :
    let after :=
      heap.update parent fun fields =>
        { fields with children := change fields.children }
    TokensSound forest walked after ∧
      Spread forest token reason heap after := by
  intro after
  refine ⟨sound.update (fun _ => id) ?_, ⟨fun node => ?_, fun node => ?_⟩⟩
  · refine
      { unused := fun beyond => ?_
        stays := id
        closed := fun _ => id
        children := fun child found =>
          sound.children parent child ((emptied _).mem found)
        listed := fun child found childLive =>
          kept child (sound.listed parent child found childLive) childLive
        listeners := sound.listeners parent
        errors := sound.errors parent }
    have unused := sound.unused parent beyond
    have noChildren : change (heap.tokens parent).children = [] := by
      apply List.eq_nil_of_length_eq_zero
      rw [(emptied _).length, unused]
      rfl
    rw [noChildren, unused]
  · exact .inl (TokenHeap.poll_update rfl node)
  · simp only [after, TokenHeap.tokens_update]
    split
    next here =>
      rw [here]
      exact emptied _
    next => exact .refl _

/-- A listener of a cancelled token. -/
theorem runListener
    (reason : Option String)
    {listener : AbortListener}
    (sound : TokensSound forest walked heap)
    (cancelled : (heap.poll token).cancelled = true)
    (own :
      ∀ parent child, listener = .dropsChild parent child → child = token) :
    TokensSound forest walked (heap.runListener token listener) ∧
      Spread forest token reason heap (heap.runListener token listener) := by
  cases listener with
  | dropsChild parent child =>
      refine sound.emptySet (fun places => places.emptied_delete child) ?_
      intro other found live
      refine SetPlaces.mem_delete_of_ne ?_ found
      rintro rfl
      rw [own parent other rfl, ← TokenHeap.poll_cancelled, cancelled] at live
      cases live
  | callsHook hook =>
      exact
        ⟨⟨sound.created, sound.ordered, sound.unused, sound.children,
            sound.listed, sound.closed, sound.listeners, sound.errors⟩,
          ⟨fun _ => .inl rfl, fun _ => .refl _⟩⟩

/-- The listeners of a cancelled token. -/
theorem runListeners
    (reason : Option String)
    (listeners : List AbortListener)
    (sound : TokensSound forest walked heap)
    (cancelled : (heap.poll token).cancelled = true)
    (own :
      ∀ parent child, .dropsChild parent child ∈ listeners → child = token) :
    let after := listeners.foldl (TokenHeap.runListener token) heap
    TokensSound forest walked after ∧
      Spread forest token reason heap after := by
  induction listeners generalizing heap with
  | nil => exact ⟨sound, .refl heap⟩
  | cons listener rest inductionHypothesis =>
      obtain ⟨soundNext, spreadNext⟩ :=
        sound.runListener reason cancelled
          fun parent child same =>
            own parent child (same ▸ List.mem_cons_self)
      obtain ⟨soundAfter, spreadAfter⟩ :=
        inductionHypothesis soundNext (spreadNext.cancelled cancelled)
          fun parent child found =>
            own parent child (List.mem_cons_of_mem _ found)
      exact ⟨soundAfter, spreadNext.trans spreadAfter⟩

end TokensSound

section Walk

variable {forest : ParentForest}
variable {walked : Nat → Prop}
variable {heap : TokenHeap}
variable {token : Nat}
variable {reason : Option String}

/-- The children in the places of a set before a place are cancelled. -/
def CancelledBefore
    (heap : TokenHeap)
    (places : SetPlaces)
    (place : Nat) : Prop :=
  ∀ earlier child : Nat,
    earlier < place →
    places[earlier]? = some (some child) →
    (heap.poll child).cancelled = true

/-- Behind the last place, every child is cancelled. -/
theorem CancelledBefore.all
    {places : SetPlaces}
    {place : Nat}
    (behind : CancelledBefore heap places place)
    (ended : places.length ≤ place)
    (child : Nat)
    (found : some child ∈ places) :
    (heap.poll child).cancelled = true := by
  obtain ⟨earlier, inside, there⟩ := List.getElem_of_mem found
  refine behind earlier child (Nat.lt_of_lt_of_le inside ended) ?_
  rw [List.getElem?_eq_getElem inside, there]

/-- The next place is empty, or its child is cancelled by now. -/
theorem CancelledBefore.next
    {before : TokenHeap}
    {places emptied : SetPlaces}
    {place : Nat}
    (behind : CancelledBefore before places place)
    (spread : Spread forest token reason before heap)
    (kept : places.Emptied emptied)
    (here :
      ∀ child,
        places[place]? = some (some child) →
        (heap.poll child).cancelled = true) :
    CancelledBefore heap emptied (place + 1) := by
  intro earlier child inside found
  have foundBefore := kept.kept earlier child found
  rcases Nat.lt_succ_iff_lt_or_eq.mp inside with inside | rfl
  · exact spread.cancelled (behind earlier child inside foundBefore)
  · exact here child foundBefore

/-- The walk over the set of a token cancels everything that is left in it. -/
theorem forEachChild_law
    (reason : Option String)
    {cancelChild : TokenHeap → Nat → TokenHeap}
    (each :
      ∀ {heap : TokenHeap} {child : Nat},
        TokensSound forest walked heap →
        forest[child]? = some (some token) →
        CancelLaw forest walked child reason heap (cancelChild heap child))
    (turns : Nat)
    {place : Nat}
    (sound : TokensSound forest walked heap)
    (enough : (heap.tokens token).children.length ≤ place + turns)
    (behind : CancelledBefore heap (heap.tokens token).children place) :
    let after := TokenHeap.forEachChild cancelChild token heap place turns
    TokensSound forest walked after ∧
      Spread forest token reason heap after ∧
        ∀ child,
          some child ∈ (after.tokens token).children →
          (after.poll child).cancelled = true := by
  induction turns generalizing heap place with
  | zero => exact ⟨sound, .refl heap, behind.all enough⟩
  | succ turns inductionHypothesis =>
      unfold TokenHeap.forEachChild
      split
      next ended =>
        have beyond := List.getElem?_eq_none_iff.mp ended
        exact ⟨sound, .refl heap, behind.all beyond⟩
      next empty =>
        refine inductionHypothesis sound (by omega) ?_
        have unchanged : Spread forest token reason heap heap := .refl heap
        refine behind.next unchanged (.refl _) ?_
        intro child found
        rw [empty] at found
        cases found
      next child here =>
        have childOf :=
          sound.children token child (List.mem_of_getElem? here)
        have law := each sound childOf
        have spread := law.spread.above (Descends.child .top childOf)
        have emptied := spread.sets token
        have next :
            CancelledBefore (cancelChild heap child)
              ((cancelChild heap child).tokens token).children (place + 1) := by
          refine behind.next spread emptied ?_
          intro other found
          rw [here] at found
          cases found
          exact law.cancelled
        have enoughAfter := emptied.length
        obtain ⟨soundAfter, spreadAfter, allCancelled⟩ :=
          inductionHypothesis law.sound (by omega) next
        exact ⟨soundAfter, spread.trans spreadAfter, allCancelled⟩

/-- The end of the walk: the parent is no longer an exception. -/
theorem TokensSound.clear
    (reason : Option String)
    (sound :
      TokensSound forest (fun node => walked node ∨ node = token) heap)
    (allCancelled :
      ∀ child,
        some child ∈ (heap.tokens token).children →
        (heap.poll child).cancelled = true) :
    let after :=
      heap.update token fun fields =>
        { fields with children := fields.children.clear }
    TokensSound forest walked after ∧
      Spread forest token reason heap after := by
  intro after
  have closed : TokensSound forest walked heap := by
    refine
      ⟨sound.created, sound.ordered, sound.unused, sound.children,
        sound.listed, ?_, sound.listeners, sound.errors⟩
    intro parent child found quiet cancelled
    by_cases here : parent = token
    · cases live : (heap.tokens child).isCancelled with
      | true => rfl
      | false =>
          have listed := sound.listed parent child found live
          rw [here] at listed
          rw [← TokenHeap.poll_cancelled, allCancelled child listed] at live
          cases live
    · exact
        sound.closed parent child found (not_or.mpr ⟨quiet, here⟩) cancelled
  refine closed.emptySet SetPlaces.emptied_clear ?_
  intro child found live
  rw [← TokenHeap.poll_cancelled, allCancelled child found] at live
  cases live

/-- The token is cancelled, and out of the set of its parent. -/
theorem TokensSound.abort
    (reason : Option String)
    (sound : TokensSound forest walked heap)
    (there : token < heap.created)
    (live : (heap.tokens token).isCancelled = false) :
    CancelLaw forest (fun node => walked node ∨ node = token) token reason heap
      ((heap.update token fun fields =>
          { fields with rawReason := reason }).abort token
        (.cancelledError reason)) := by
  have listeners :
      ((heap.update token fun fields =>
          { fields with rawReason := reason }).tokens token).listeners =
        (heap.tokens token).listeners := by
    rw [TokenHeap.tokens_update, if_pos rfl]
  have marked := sound.mark reason there live
  obtain ⟨soundAborted, spreadAborted⟩ :=
    marked.sound.runListeners reason (heap.tokens token).listeners
      marked.cancelled (sound.listeners token)
  unfold TokenHeap.abort
  rw [listeners]
  exact
    ⟨soundAborted, marked.spread.trans spreadAborted,
      spreadAborted.cancelled marked.cancelled⟩

/-- Cancelling, by induction on the depth that is left. -/
theorem cancelWithin_law
    (depth : Nat)
    (sound : TokensSound forest walked heap)
    (there : token < heap.created)
    (enough : forest.length ≤ depth + token) :
    CancelLaw forest walked token reason heap
      (TokenHeap.cancelWithin reason depth heap token) := by
  induction depth generalizing heap token walked with
  | zero =>
      rw [sound.created] at there
      omega
  | succ depth inductionHypothesis =>
      unfold TokenHeap.cancelWithin
      split
      next already => exact ⟨sound, .refl heap, already⟩
      next live =>
        rw [Bool.not_eq_true] at live
        have aborted := sound.abort reason there live
        -- a child is younger than its parent: the depth that is left is enough
        obtain ⟨soundWalked, spreadWalked, allCancelled⟩ :=
          forEachChild_law reason
            (fun {_ child} soundChild childOf =>
              have younger := soundChild.ordered child token childOf
              inductionHypothesis soundChild (soundChild.inside childOf)
                (by omega))
            _ aborted.sound (Nat.le_trans (Nat.le_succ _) (Nat.le_add_left _ 0))
            fun _ _ before => absurd before (Nat.not_lt_zero _)
        obtain ⟨soundAfter, spreadAfter⟩ :=
          soundWalked.clear reason allCancelled
        have spread := spreadWalked.trans spreadAfter
        exact
          ⟨soundAfter, aborted.spread.trans spread,
            spread.cancelled aborted.cancelled⟩

/-- `cancel`. -/
theorem cancel_law
    (reason : Option String)
    (sound : TokensSound forest walked heap)
    (there : token < heap.created) :
    CancelLaw forest walked token reason heap (heap.cancel token reason) :=
  cancelWithin_law heap.created sound there
    (by rw [sound.created]; exact Nat.le_add_right _ _)

end Walk

/-! ## Calls -/

/-- The invariant between two calls, where no walk is going on. -/
abbrev TokensSettled
    (forest : ParentForest)
    (heap : TokenHeap) : Prop :=
  TokensSound forest (fun _ => False) heap

theorem tokensSettled_start : TokensSettled [] {} where
  created := rfl
  ordered := ordered_nil
  unused _ _ := rfl
  children _ _ found := by cases found
  listed _ _ found := by cases found
  closed _ _ found := by cases found
  listeners _ _ _ found := by cases found
  errors _ _ found := by cases found

section Calls

variable {forest : ParentForest}
variable {heap : TokenHeap}

/-- `new CancelToken()`. -/
theorem TokensSound.construct
    (sound : TokensSettled forest heap) :
    TokensSettled (forest ++ [none]) heap.construct where
  created := by
    rw [List.length_append, ← sound.created]
    rfl
  ordered := sound.ordered.snoc (fun _ same => by cases same)
  unused node beyond := sound.unused node (Nat.le_of_succ_le beyond)
  children parent child found :=
    getElem?_append_old (sound.children parent child found) _
  listed parent child found live := by
    rcases getElem?_snoc found with old | ⟨-, none_⟩
    · exact sound.listed parent child old live
    · cases none_
  closed parent child found quiet cancelled := by
    rcases getElem?_snoc found with old | ⟨-, none_⟩
    · exact sound.closed parent child old quiet cancelled
    · cases none_
  listeners := sound.listeners
  errors := sound.errors

/-- A new token that is cancelled, as a child of a token. -/
theorem TokensSound.adopt
    {parent : Nat}
    (sound : TokensSettled (forest ++ [none]) heap)
    (there : parent < forest.length)
    (cancelled : (heap.poll forest.length).cancelled = true) :
    TokensSettled (forest ++ [some parent]) heap where
  created := by
    rw [sound.created, List.length_append, List.length_append]
    rfl
  ordered := by
    refine Ordered.snoc (fun node other found => ?_) fun other same => ?_
    · exact sound.ordered node other (getElem?_append_old found _)
    · cases same
      exact there
  unused := sound.unused
  children other child found := by
    rcases getElem?_snoc (sound.children other child found) with
      old | ⟨-, none_⟩
    · exact getElem?_append_old old _
    · cases none_
  listed other child found live := by
    rcases getElem?_snoc found with old | ⟨rfl, -⟩
    · exact sound.listed other child (getElem?_append_old old _) live
    · rw [← TokenHeap.poll_cancelled, cancelled] at live
      cases live
  closed other child found quiet otherCancelled := by
    rcases getElem?_snoc found with old | ⟨rfl, -⟩
    · exact
        sound.closed other child (getElem?_append_old old _) quiet
          otherCancelled
    · exact cancelled
  listeners := sound.listeners
  errors := sound.errors

/-- A listener on a live token. -/
theorem TokensSound.listen
    {token : Nat}
    {listener : AbortListener}
    (sound : TokensSettled forest heap)
    (there : token < heap.created)
    (own :
      ∀ parent child, listener = .dropsChild parent child → child = token) :
    TokensSettled forest
      (heap.update token fun fields =>
        { fields with listeners := fields.listeners ++ [listener] }) := by
  refine sound.update (fun _ => id)
    { unused := fun beyond => absurd there (Nat.not_lt.mpr beyond)
      stays := id
      closed := fun _ => id
      children := sound.children token
      listed := sound.listed token
      listeners := fun parent child found => ?_
      errors := sound.errors token }
  rcases List.mem_append.mp found with old | new
  · exact sound.listeners token parent child old
  · exact own parent child (List.mem_singleton.mp new).symm

/-- A new live token in the set of its live parent. -/
theorem TokensSound.add
    {parent : Nat}
    (sound : TokensSettled forest heap)
    (there : parent < forest.length)
    (live : (heap.tokens parent).isCancelled = false) :
    TokensSettled (forest ++ [some parent])
      (heap.construct.update parent fun fields =>
        { fields with children := fields.children.add heap.created }) := by
  have constructed := sound.construct
  have unused := sound.unused heap.created (Nat.le_refl _)
  have different : heap.created ≠ parent := by
    rw [sound.created]
    exact Nat.ne_of_gt there
  have sameCancelled :
      ∀ node,
        (((heap.construct.update parent fun fields =>
            { fields with
              children := fields.children.add heap.created }).tokens
          node).isCancelled) =
          (heap.tokens node).isCancelled :=
    fun node => congrArg TokenPoll.cancelled (TokenHeap.poll_update rfl node)
  refine
    { created := ?_
      ordered := ?_
      unused := ?_
      children := ?_
      listed := ?_
      closed := ?_
      listeners := ?_
      errors := ?_ }
  · rw [TokenHeap.created_update, constructed.created, List.length_append,
      List.length_append]
    rfl
  · exact sound.ordered.snoc fun other same => by
      cases same
      exact there
  · intro node beyond
    have old : node ≠ parent := by
      rintro rfl
      have created := sound.created
      rw [TokenHeap.created_update, constructed.created,
        List.length_append] at beyond
      omega
    rw [TokenHeap.tokens_update, if_neg old]
    exact constructed.unused node beyond
  · intro other child found
    rw [TokenHeap.tokens_update] at found
    split at found
    next here =>
      rcases SetPlaces.mem_add.mp found with old | rfl
      · rw [here]
        exact getElem?_append_old (sound.children parent child old) _
      · rw [here, sound.created]
        simp
    next =>
      exact getElem?_append_old (sound.children other child found) _
  · intro other child found childLive
    rw [sameCancelled] at childLive
    rw [TokenHeap.tokens_update]
    rcases getElem?_snoc found with old | ⟨rfl, same⟩
    · have listed := sound.listed other child old childLive
      split
      next here =>
        rw [here] at listed
        exact SetPlaces.mem_add.mpr (.inl listed)
      next => exact listed
    · cases same
      rw [if_pos rfl]
      exact SetPlaces.mem_add.mpr (.inr sound.created.symm)
  · intro other child found quiet cancelled
    rw [sameCancelled] at cancelled ⊢
    rcases getElem?_snoc found with old | ⟨rfl, same⟩
    · exact sound.closed other child old quiet cancelled
    · cases same
      rw [live] at cancelled
      cases cancelled
  · intro node other child found
    rw [TokenHeap.tokens_update] at found
    split at found
    next here =>
      rw [here]
      exact sound.listeners parent other child found
    next => exact sound.listeners node other child found
  · intro node err found
    rw [TokenHeap.tokens_update] at found ⊢
    split at found
    next here =>
      rw [if_pos here]
      exact sound.errors parent err found
    next here =>
      rw [if_neg here]
      exact sound.errors node err found

end Calls

end CloudflareParallel
