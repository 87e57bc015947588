import CloudflareParallel.CancelTokenTree

namespace CloudflareParallel

open LabelledRuns
open ParentForests

/-!
# Calls on a forest of cancel tokens

Between two calls the tokens meet the invariant, and a cancelled token keeps its
poll for ever.  A token that is made below a cancelled one is cancelled with the
message of the error of its parent, not with the reason of the parent.
-/

/-- What holds after a call, of the forest that it leaves. -/
structure TokenCallLaw
    (forest : ParentForest)
    (heap : TokenHeap)
    (call : TokenCall)
    (next : TokenHeap) : Prop where
  settled : TokensSettled (forest ++ TokenCall.forestOf [call]) next
  /-- A cancelled token keeps its poll. -/
  kept :
    ∀ node,
      (heap.poll node).cancelled = true →
      next.poll node = heap.poll node

section Steps

variable {forest : ParentForest}
variable {heap next : TokenHeap}

/-- The text that a late child takes for the reason. -/
theorem reasonOf_cancelled
    (sound : TokensSettled forest heap)
    {token : Nat}
    (cancelled : (heap.poll token).cancelled = true) :
    (heap.tokens token).reasonOf =
      some (ErrorClass.cancelledMessage (heap.poll token).reason) := by
  obtain ⟨err, found⟩ := Option.isSome_iff_exists.mp cancelled
  have same := sound.errors token err found
  unfold CancelToken.reasonOf
  rw [found, same]
  rfl

/-- `child`, of a cancelled token. -/
theorem child_cancelled
    (sound : TokensSettled forest heap)
    {parent : Nat}
    (there : parent < heap.created)
    (cancelled : (heap.poll parent).cancelled = true) :
    TokenCallLaw forest heap (.child parent) (heap.child parent) ∧
      (heap.child parent).poll heap.created =
        ⟨true,
          some (ErrorClass.cancelledMessage (heap.poll parent).reason)⟩ := by
  have childEq :
      heap.child parent =
        heap.construct.cancel heap.created
          (some (ErrorClass.cancelledMessage (heap.poll parent).reason)) := by
    rw [← reasonOf_cancelled sound cancelled]
    exact if_pos cancelled
  have unused := sound.unused heap.created (Nat.le_refl _)
  have law :=
    cancel_law (some (ErrorClass.cancelledMessage (heap.poll parent).reason))
      sound.construct (Nat.lt_succ_self heap.created)
  rw [childEq]
  refine ⟨⟨?_, fun node => law.spread.poll_of_cancelled⟩, ?_⟩
  · refine law.sound.adopt (sound.created ▸ there) ?_
    rw [← sound.created]
    exact law.cancelled
  · rcases law.spread.polls heap.created with same | ⟨-, -, changed⟩
    · have cancelledNow := law.cancelled
      rw [same] at cancelledNow
      change (heap.tokens heap.created).isCancelled = true at cancelledNow
      rw [unused] at cancelledNow
      cases cancelledNow
    · exact changed

/-- `child`, of a live token. -/
theorem child_live
    (sound : TokensSettled forest heap)
    {parent : Nat}
    (there : parent < heap.created)
    (live : (heap.poll parent).cancelled = false) :
    TokenCallLaw forest heap (.child parent) (heap.child parent) := by
  have childEq :
      heap.child parent =
        (heap.construct.update parent fun fields =>
            { fields with
              children := fields.children.add heap.created }).update
          heap.created fun fields =>
            { fields with
              listeners :=
                fields.listeners ++ [.dropsChild parent heap.created] } :=
    if_neg (Bool.eq_false_iff.mp live)
  have added := sound.add (sound.created ▸ there) live
  rw [childEq]
  refine ⟨added.listen (Nat.lt_succ_self heap.created) ?_, fun node _ => ?_⟩
  · rintro _ _ ⟨⟩
    rfl
  · rw [TokenHeap.poll_update rfl node]
    exact TokenHeap.poll_update rfl node

/-- A call keeps the invariant. -/
theorem tokenCall_law
    (sound : TokensSettled forest heap)
    {call : TokenCall}
    (stepped : heap.step call = some next) :
    TokenCallLaw forest heap call next := by
  cases call with
  | constructs =>
      cases stepped
      exact ⟨sound.construct, fun _ _ => rfl⟩
  | child parent =>
      obtain ⟨there, same⟩ := Option.ite_none_right_eq_some.mp stepped
      cases same
      cases cancelled : (heap.poll parent).cancelled with
      | true => exact (child_cancelled sound there cancelled).1
      | false => exact child_live sound there cancelled
  | cancel token reason =>
      obtain ⟨there, same⟩ := Option.ite_none_right_eq_some.mp stepped
      cases same
      have law := cancel_law reason sound there
      refine ⟨?_, fun node => law.spread.poll_of_cancelled⟩
      rw [TokenCall.forestOf, List.filterMap_cons_none rfl,
        List.filterMap_nil, List.append_nil]
      exact law.sound
  | onCancel token hook =>
      obtain ⟨there, same⟩ := Option.ite_none_right_eq_some.mp stepped
      cases same
      rw [TokenHeap.onCancel]
      refine ⟨?_, fun node _ => ?_⟩
      · rw [TokenCall.forestOf, List.filterMap_cons_none rfl,
          List.filterMap_nil, List.append_nil]
        split
        next cancelled =>
          exact (sound.runListener none cancelled
            fun _ _ same => by cases same).1
        next =>
          exact sound.listen there fun _ _ same => by cases same
      · split
        next => rfl
        next => exact TokenHeap.poll_update rfl node

end Steps

theorem forestOf_append
    (earlier later : List TokenCall) :
    TokenCall.forestOf (earlier ++ later) =
      TokenCall.forestOf earlier ++ TokenCall.forestOf later :=
  List.filterMap_append

section Runs

variable {forest : ParentForest}
variable {heap final : TokenHeap}
variable {calls : List TokenCall}

/-- Calls keep the invariant, and the polls of cancelled tokens. -/
theorem tokenCalls_law
    (run : Run TokenHeap.step heap calls final)
    (sound : TokensSettled forest heap) :
    TokensSettled (forest ++ TokenCall.forestOf calls) final ∧
      ∀ node,
        (heap.poll node).cancelled = true →
        final.poll node = heap.poll node := by
  induction run generalizing forest with
  | nil =>
      rw [TokenCall.forestOf, List.filterMap_nil, List.append_nil]
      exact ⟨sound, fun _ _ => rfl⟩
  | @cons _ _ _ call rest _ stepped _ inductionHypothesis =>
      have law := tokenCall_law sound stepped
      obtain ⟨settled, kept⟩ := inductionHypothesis law.settled
      rw [List.append_assoc, ← forestOf_append] at settled
      refine ⟨settled, fun node cancelled => ?_⟩
      have keptNext := law.kept node cancelled
      rw [kept node (keptNext ▸ cancelled), keptNext]

/-- Whatever lies below a cancelled token is cancelled. -/
theorem TokensSound.cancelled_below
    (sound : TokensSettled forest heap)
    {top node : Nat}
    (descends : Descends forest top node)
    (cancelled : (heap.poll top).cancelled = true) :
    (heap.poll node).cancelled = true :=
  descends.closed
    (fun {parent child} found => sound.closed parent child found id)
    cancelled

end Runs

/-- A node of the forest of calls was made by one of them. -/
theorem made_by
    {calls : List TokenCall}
    {place parent : Nat}
    (found : (TokenCall.forestOf calls)[place]? = some (some parent)) :
    ∃ sooner rest,
      calls = sooner ++ .child parent :: rest ∧
        (TokenCall.forestOf sooner).length = place := by
  induction calls generalizing place with
  | nil => cases found
  | cons call later inductionHypothesis =>
      cases made : call.madeBelow with
      | none =>
          rw [TokenCall.forestOf, List.filterMap_cons_none made] at found
          obtain ⟨sooner, rest, same, length⟩ := inductionHypothesis found
          refine ⟨call :: sooner, rest, by rw [same]; rfl, ?_⟩
          rw [TokenCall.forestOf, List.filterMap_cons_none made]
          exact length
      | some parent? =>
          rw [TokenCall.forestOf, List.filterMap_cons_some made] at found
          cases place with
          | zero =>
              cases found
              refine ⟨[], later, ?_, rfl⟩
              cases call <;> cases made
              rfl
          | succ place =>
              rw [List.getElem?_cons_succ] at found
              obtain ⟨sooner, rest, same, length⟩ := inductionHypothesis found
              refine ⟨call :: sooner, rest, by rw [same]; rfl, ?_⟩
              rw [TokenCall.forestOf, List.filterMap_cons_some made,
                List.length_cons]
              exact congrArg (· + 1) length

/-- The message of the error is never the reason it was made with. -/
theorem cancelledMessage_ne
    (reason : Option String) :
    reason ≠ some (ErrorClass.cancelledMessage reason) := by
  intro same
  cases reason with
  | none => cases same
  | some text =>
      by_cases empty : text = ""
      · rw [empty] at same
        exact absurd same (by decide)
      · have message :
            ErrorClass.cancelledMessage (some text) =
              "Cancelled: " ++ text := by
          unfold ErrorClass.cancelledMessage
          rw [Option.filter_some, if_pos (decide_eq_true empty)]
          rfl
        rw [message] at same
        have lengths := congrArg String.length (Option.some.inj same)
        rw [String.length_append] at lengths
        have prefixLength : "Cancelled: ".length = 11 := rfl
        omega

/-! ## One `cancel`, and the calls behind it -/

/--
What `cancel` of a token spreads to: the polls before it, behind it and after
the calls that follow, over the forest that all the calls make.
-/
structure CancelSpreads
    (forest : ParentForest)
    (token : Nat)
    (reason : Option String)
    (before after final : TokenHeap) : Prop where
  cancelled :
    ∀ node,
      Descends forest token node →
      (final.poll node).cancelled = true
  reason :
    ∀ node,
      Descends forest token node →
      (before.poll node).cancelled = false →
      (final.poll node).reason = reason
  outside :
    ∀ node,
      ¬ Descends forest token node →
      after.poll node = before.poll node

section Cancel

variable {earlier later : List TokenCall}
variable {token : Nat}
variable {reason : Option String}
variable {before after final : TokenHeap}

/-- What `cancel` leaves behind. -/
theorem cancel_run
    (ran : Run TokenHeap.step {} earlier before)
    (cancelled : before.step (.cancel token reason) = some after) :
    CancelLaw (TokenCall.forestOf earlier) (fun _ => False) token reason
        before after ∧
      token < before.created := by
  have settled := (tokenCalls_law ran tokensSettled_start).1
  obtain ⟨there, same⟩ := Option.ite_none_right_eq_some.mp cancelled
  cases same
  exact ⟨cancel_law reason settled there, there⟩

/-- A child made below the token after `cancel`. -/
theorem lateChild
    (ran : Run TokenHeap.step {} earlier before)
    (cancelled : before.step (.cancel token reason) = some after)
    {sooner rest : List TokenCall}
    {parent : Nat}
    (went : Run TokenHeap.step after (sooner ++ .child parent :: rest) final)
    (below : Descends (TokenCall.forestOf (earlier ++ sooner)) token parent) :
    (final.poll parent).cancelled = true ∧
      ((after.poll parent).cancelled = true →
        final.poll parent = after.poll parent) ∧
        final.poll (TokenCall.forestOf (earlier ++ sooner)).length =
          ⟨true,
            some (ErrorClass.cancelledMessage (final.poll parent).reason)⟩ := by
  have law := (cancel_run ran cancelled).1
  obtain ⟨middle, first, second⟩ := went.of_append
  obtain ⟨settled, kept⟩ := tokenCalls_law first law.sound
  rw [← forestOf_append] at settled
  cases second with
  | cons _ stepped third =>
      obtain ⟨there, same⟩ := Option.ite_none_right_eq_some.mp stepped
      cases same
      have parentCancelled :=
        settled.cancelled_below below (kept token law.cancelled ▸ law.cancelled)
      obtain ⟨stepLaw, made⟩ := child_cancelled settled there parentCancelled
      obtain ⟨-, keptLater⟩ := tokenCalls_law third stepLaw.settled
      have parentKept := stepLaw.kept parent parentCancelled
      have parentFinal := keptLater parent (parentKept ▸ parentCancelled)
      rw [parentKept] at parentFinal
      refine ⟨parentFinal ▸ parentCancelled, fun known => ?_, ?_⟩
      · rw [parentFinal]
        exact kept parent known
      · rw [← settled.created, parentFinal, keptLater middle.created, made]
        rw [made]

/--
`cancel` spreads to the whole tree with its reason exactly when no `child` call
behind it is made below the token; the one that does no harm is made on a token
that had been cancelled before, with a reason whose error has this reason for
its message.
-/
theorem cancelSpreads_iff
    (ran : Run TokenHeap.step {} earlier before)
    (cancelled : before.step (.cancel token reason) = some after)
    (went : Run TokenHeap.step after later final) :
    CancelSpreads (TokenCall.forestOf (earlier ++ later)) token reason
        before after final ↔
      ∀ sooner parent rest,
        later = sooner ++ .child parent :: rest →
        Descends (TokenCall.forestOf (earlier ++ sooner)) token parent →
        (before.poll parent).cancelled = true ∧
          reason =
            some (ErrorClass.cancelledMessage (before.poll parent).reason) := by
  obtain ⟨law, there⟩ := cancel_run ran cancelled
  have settled : TokensSettled (TokenCall.forestOf earlier) before :=
    (tokenCalls_law ran tokensSettled_start).1
  obtain ⟨settledFinal, kept⟩ := tokenCalls_law went law.sound
  rw [← forestOf_append] at settledFinal
  constructor
  · rintro spreads sooner parent rest rfl below
    obtain ⟨parentCancelled, parentKept, made⟩ :=
      lateChild ran cancelled went below
    have newBelow :
        Descends
          (TokenCall.forestOf (earlier ++ (sooner ++ .child parent :: rest)))
          token (TokenCall.forestOf (earlier ++ sooner)).length := by
      rw [← List.append_assoc, forestOf_append (earlier ++ sooner)]
      refine .child (below.append _) ?_
      rw [List.getElem?_append_right (Nat.le_refl _), Nat.sub_self]
      rfl
    have newLive :
        (before.poll
          (TokenCall.forestOf (earlier ++ sooner)).length).cancelled =
            false := by
      have older :
          before.created ≤ (TokenCall.forestOf (earlier ++ sooner)).length := by
        rw [settled.created, forestOf_append, List.length_append]
        exact Nat.le_add_right _ _
      rw [TokenHeap.poll_cancelled, settled.unused _ older]
      rfl
    have agrees := spreads.reason _ newBelow newLive
    rw [made] at agrees
    cases known : (before.poll parent).cancelled with
    | true =>
        have parentAfter := law.spread.poll_of_cancelled known
        rw [parentKept (parentAfter ▸ known), parentAfter] at agrees
        exact ⟨rfl, agrees.symm⟩
    | false =>
        have parentBelow :=
          below.append (TokenCall.forestOf (.child parent :: rest))
        rw [← forestOf_append, List.append_assoc] at parentBelow
        have parentReason := spreads.reason parent parentBelow known
        rw [parentReason] at agrees
        exact absurd agrees.symm (cancelledMessage_ne reason)
  · intro harmless
    refine ⟨?_, ?_, ?_⟩
    · intro node below
      exact settledFinal.cancelled_below below
        (kept token law.cancelled ▸ law.cancelled)
    · intro node below nodeLive
      by_cases old : node < (TokenCall.forestOf earlier).length
      · rw [forestOf_append] at below
        have oldBelow := below.of_append settled.ordered old
        have nodeCancelled := law.sound.cancelled_below oldBelow law.cancelled
        rw [kept node nodeCancelled]
        exact law.spread.reason_of_live nodeLive nodeCancelled
      · cases below with
        | top => exact absurd (settled.created ▸ there) old
        | @child parent _ above found =>
            have parentOlder := settledFinal.ordered node parent found
            rw [forestOf_append,
              List.getElem?_append_right (Nat.le_of_not_lt old)] at found
            obtain ⟨sooner, rest, rfl, length⟩ := made_by found
            obtain ⟨middle, first, -⟩ := went.of_append
            have ordered := (tokenCalls_law first law.sound).1.ordered
            rw [← forestOf_append] at ordered
            have place :
                (TokenCall.forestOf (earlier ++ sooner)).length = node := by
              rw [forestOf_append, List.length_append, length]
              omega
            rw [← List.append_assoc,
              forestOf_append (earlier ++ sooner)] at above
            have parentBelow := above.of_append ordered (place ▸ parentOlder)
            obtain ⟨parentCancelled, reasonEq⟩ :=
              harmless sooner parent rest rfl parentBelow
            obtain ⟨-, parentKept, made⟩ :=
              lateChild ran cancelled went parentBelow
            have parentAfter := law.spread.poll_of_cancelled parentCancelled
            rw [place, parentKept (parentAfter ▸ parentCancelled),
              parentAfter] at made
            rw [made, reasonEq]
    · intro node outside
      rcases law.spread.polls node with same | ⟨below, -⟩
      · exact same
      · refine absurd ?_ outside
        rw [forestOf_append]
        exact below.append _

end Cancel

/-- A chain of three tokens, cancelled at its top. -/
theorem cancelSpreads_chain :
    ∃ before after final,
      Run TokenHeap.step {} [.constructs, .child 0, .child 1] before ∧
        before.step (.cancel 0 (some "r")) = some after ∧
          Run TokenHeap.step after [.cancel 2 (some "s")] final ∧
            CancelSpreads [none, some 0, some 1] 0 (some "r")
              before after final := by
  let before := ((({} : TokenHeap).construct.child 0).child 1)
  let after := before.cancel 0 (some "r")
  have ran :
      Run TokenHeap.step {} [.constructs, .child 0, .child 1] before :=
    .of_foldlM rfl
  have cancelled : before.step (.cancel 0 (some "r")) = some after := rfl
  have went :
      Run TokenHeap.step after [.cancel 2 (some "s")]
        (after.cancel 2 (some "s")) :=
    .of_foldlM rfl
  refine
    ⟨_, _, _, ran, cancelled, went,
      (cancelSpreads_iff ran cancelled went).mpr ?_⟩
  intro sooner parent rest same
  cases sooner with
  | nil => cases same
  | cons call later =>
      have ended := (List.cons.inj same).2
      cases later <;> cases ended

/-- A child of a cancelled token has the message of the error for its reason. -/
theorem not_cancelSpreads_lateChild :
    ∃ before after final,
      Run TokenHeap.step {} [.constructs] before ∧
        (before.poll 0).cancelled = false ∧
          before.step (.cancel 0 (some "r")) = some after ∧
            Run TokenHeap.step after [.child 0] final ∧
              final.poll 1 = ⟨true, some "Cancelled: r"⟩ ∧
                ¬ CancelSpreads [none, some 0] 0 (some "r")
                  before after final := by
  refine
    ⟨_, _, _, .of_foldlM rfl, rfl, rfl, .of_foldlM rfl, by decide, ?_⟩
  intro spreads
  exact absurd (spreads.reason 1 (.child .top rfl) rfl) (by decide)

end CloudflareParallel
