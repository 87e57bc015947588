import CloudflareParallel.LoaderShims
import Mathlib.Tactic.IntervalCases

namespace CloudflareParallel

open BacktrackingPatterns

/-!
# Removing the wrappers of the bundler

A bundled function is a source in which the bundler has wrapped some
expressions, at any depth, as `__name(EXPRESSION, "NAME")`.  The pattern for a
wrapper ends at the first text that looks like the end of one, so the wrappers
are removed exactly when no such text starts inside a wrapped expression.
-/

/-- The blanks and the quote that the bundler writes a wrapper with. -/
structure ShimLayout where
  afterOpen : List Char
  beforeComma : List Char
  afterComma : List Char
  beforeClose : List Char
  quote : Char
  blank :
    ∀ c ∈ afterOpen ++ beforeComma ++ afterComma ++ beforeClose,
      isSpace c = true
  isQuote : quote = '"' ∨ quote = '\''

/-- A source with wrapped expressions. -/
inductive WrappedSource where
  | plain (source : List Char)
  | wrap
      (before : List Char)
      (layout : ShimLayout)
      (expression : WrappedSource)
      (name : List Char)
      (after : WrappedSource)

/-- What follows the expression in a wrapper. -/
def shimTail (layout : ShimLayout) (name : List Char) : List Char :=
  layout.beforeComma ++
    ([','] ++
      (layout.afterComma ++
        (([layout.quote] ++ (name ++ [layout.quote])) ++
          (layout.beforeClose ++ [')']))))

namespace WrappedSource

/-- The text that the bundler emits. -/
def emitted : WrappedSource → List Char
  | .plain source => source
  | .wrap before layout expression name after =>
      before ++
        (nameHead ++
          (layout.afterOpen ++
            (expression.emitted ++ (shimTail layout name ++ after.emitted))))

/-- The source without its wrappers. -/
def original : WrappedSource → List Char
  | .plain source => source
  | .wrap before _ expression _ after =>
      before ++ (expression.original ++ after.original)

/-- The text is some expression without blanks around it. -/
def IsTrimmed (text : List Char) : Prop :=
  (∃ first, text.head? = some first ∧ isSpace first = false) ∧
    ∃ last, text.getLast? = some last ∧ isSpace last = false

/-- Wrapped expressions are trimmed, and names contain no quote of theirs. -/
def WellFormed : WrappedSource → Prop
  | .plain _ => True
  | .wrap _ layout expression name after =>
      IsTrimmed expression.original ∧ layout.quote ∉ name ∧
        expression.WellFormed ∧ after.WellFormed

/--
No text that looks like the end of a wrapper starts inside a wrapped
expression.
-/
def Removable : WrappedSource → Prop
  | .plain _ => True
  | .wrap _ layout expression name after =>
      (∀ start rest,
        expression.emitted = start ++ rest → rest ≠ [] →
          nameTail.find (rest ++ (shimTail layout name ++ after.emitted)) =
            none) ∧
        after.Removable

/-- The outermost wrappers as segments, each with its expression. -/
def wrapperSegments : WrappedSource → List Segment
  | .plain source => source.map .kept
  | .wrap before layout expression name after =>
      before.map .kept ++
        .replaced {
          taken :=
            nameHead ++
              (layout.afterOpen ++
                (expression.emitted ++ shimTail layout name))
          rest := after.emitted
          groups := [expression.emitted]
        } :: after.wrapperSegments

end WrappedSource

/-- A function of the bundler's output, free of its helpers otherwise. -/
structure BundledFunction where
  source : WrappedSource
  name : String
  wellFormed : source.WellFormed
  noNameHelper : ¬ nameHead <:+: source.original
  noFieldHelper : ¬ publicFieldHead <:+: source.original
  notNative : ¬ nativeMarker <:+: source.emitted
  noThis : referencesThis source.original = false

/-- Blanks are taken as a whole. -/
theorem spaces_find
    {blanks rest : List Char}
    {c : Char}
    (blank : ∀ c ∈ blanks, isSpace c = true)
    (ends : isSpace c = false) :
    spaces.find (blanks ++ ([c] ++ rest)) =
      some ⟨blanks, [c] ++ rest, []⟩ :=
  Pattern.find_greedy_run blank (by simpa using ends)

/-- A quoted text without that quote is found. -/
theorem quoted_find
    {quote : Char}
    {name : List Char}
    (noQuote : quote ∉ name)
    (rest : List Char) :
    (quoted quote).find ([quote] ++ (name ++ [quote]) ++ rest) =
      some ⟨[quote] ++ (name ++ [quote]), rest, []⟩ := by
  have isRun : ∀ c ∈ name, (c != quote) = true := by
    intro c member
    have different : c ≠ quote := fun same => noQuote (same ▸ member)
    simpa using different
  have run :
      (Pattern.run (· != quote) 0 true).find (name ++ ([quote] ++ rest)) =
        some ⟨name, [quote] ++ rest, []⟩ :=
    Pattern.find_greedy_run isRun (by simp)
  rw [List.append_assoc, List.append_assoc]
  exact Pattern.find_sequence (Pattern.find_text [quote] _)
    (Pattern.find_sequence run (Pattern.find_text [quote] rest))

/-- The other quote is not found. -/
theorem quoted_find_other
    {quote other : Char}
    (different : quote ≠ other)
    (rest : List Char) :
    (quoted quote).find ([other] ++ rest) = none := by
  refine Pattern.find_text_sequence_of_not_prefix ?_ _
  intro isPrefix
  obtain ⟨_, same⟩ := isPrefix
  cases same
  exact different rfl

/-- The end of a wrapper is found where it starts. -/
theorem nameTail_find_shimTail
    {layout : ShimLayout}
    {name : List Char}
    (noQuote : layout.quote ∉ name)
    (rest : List Char) :
    nameTail.find (shimTail layout name ++ rest) =
      some ⟨shimTail layout name, rest, []⟩ := by
  have blank := layout.blank
  simp only [List.forall_mem_append] at blank
  obtain ⟨⟨⟨_, beforeComma⟩, afterComma⟩, beforeClose⟩ := blank
  have quoteEnds : isSpace layout.quote = false := by
    obtain isDouble | isSingle := layout.isQuote
    · rw [isDouble]
      decide
    · rw [isSingle]
      decide
  have quote (following : List Char) :
      (Pattern.choice (quoted '"') (quoted '\'')).find
          ([layout.quote] ++ (name ++ [layout.quote]) ++ following) =
        some ⟨[layout.quote] ++ (name ++ [layout.quote]), following, []⟩ := by
    rw [Pattern.find_choice]
    obtain isDouble | isSingle := layout.isQuote
    · rw [isDouble] at noQuote ⊢
      rw [quoted_find noQuote]
      rfl
    · rw [isSingle] at noQuote ⊢
      rw [quoted_find noQuote, List.append_assoc,
        quoted_find_other (by decide)]
      rfl
  have whole :
      shimTail layout name ++ rest =
        layout.beforeComma ++
          ([','] ++
            (layout.afterComma ++
              ([layout.quote] ++ (name ++ [layout.quote]) ++
                (layout.beforeClose ++ ([')'] ++ rest))))) := by
    simp [shimTail]
  have afterName :=
    Pattern.find_sequence (quote _)
      (Pattern.find_sequence (spaces_find beforeClose (by decide))
        (Pattern.find_text [')'] rest))
  rw [List.append_assoc] at afterName
  rw [whole, List.append_assoc [layout.quote]]
  exact Pattern.find_sequence (spaces_find beforeComma (by decide))
    (Pattern.find_sequence (Pattern.find_text [','] _)
      (Pattern.find_sequence (spaces_find afterComma quoteEnds) afterName))

namespace WrappedSource

/-- A wrapped expression starts without a blank, wrapped further or not. -/
theorem emitted_starts
    {expression : WrappedSource}
    (trimmed : IsTrimmed expression.original) :
    ∃ c rest, expression.emitted = [c] ++ rest ∧ isSpace c = false := by
  obtain ⟨⟨first, isFirst, notSpace⟩, _⟩ := trimmed
  cases expression with
  | plain source =>
      obtain ⟨rest, shape⟩ := List.head?_eq_some_iff.1 isFirst
      exact ⟨first, rest, shape, notSpace⟩
  | wrap before layout expression name after =>
      cases before with
      | nil =>
          exact ⟨'_', _, rfl, by decide⟩
      | cons _ _ =>
          cases isFirst
          exact ⟨first, _, rfl, notSpace⟩

/-- Where removal goes right there is no wrapper in a wrapped expression. -/
theorem emitted_eq_original_of_not_earlier
    {expression : WrappedSource}
    {following : List Char}
    (wellFormed : expression.WellFormed)
    (notEarlier :
      ∀ start rest,
        expression.emitted = start ++ rest → rest ≠ [] →
          nameTail.find (rest ++ following) = none) :
    expression.emitted = expression.original := by
  cases expression with
  | plain source =>
      rfl
  | wrap before layout inner name after =>
      have inside :=
        notEarlier
          (before ++ (nameHead ++ (layout.afterOpen ++ inner.emitted)))
          (shimTail layout name ++ after.emitted)
          (by simp [emitted]) (by simp [shimTail])
      rw [List.append_assoc, nameTail_find_shimTail wellFormed.2.1] at inside
      cases inside

end WrappedSource

/-- A wrapper is found with its expression when no end is found earlier. -/
theorem nameShim_find_wrapper
    {layout : ShimLayout}
    {expression name following : List Char}
    (starts : ∃ c rest, expression = [c] ++ rest ∧ isSpace c = false)
    (noQuote : layout.quote ∉ name)
    (notEarlier :
      ∀ start rest,
        expression = start ++ rest → rest ≠ [] →
          nameTail.find (rest ++ (shimTail layout name ++ following)) = none) :
    nameShim.find
        (nameHead ++
          (layout.afterOpen ++
            (expression ++ (shimTail layout name ++ following)))) =
      some {
        taken :=
          nameHead ++
            (layout.afterOpen ++ (expression ++ shimTail layout name))
        rest := following
        groups := [expression]
      } := by
  have captured :=
    @find_lazy_group (fun _ => true) nameTail expression _ _
      (fun _ _ => rfl) (nameTail_find_shimTail noQuote following) notEarlier
  have opened := layout.blank
  simp only [List.forall_mem_append] at opened
  obtain ⟨c, rest, rfl, notSpace⟩ := starts
  rw [List.append_assoc] at captured ⊢
  exact Pattern.find_sequence (Pattern.find_text nameHead _)
    (Pattern.find_sequence (spaces_find opened.1.1.1 notSpace) captured)

/-- A wrapper's head does not overlap with another. -/
theorem nameHead_no_overlap
    {before following : List Char}
    (nonempty : before ≠ [])
    (isPrefix : nameHead <+: before ++ (nameHead ++ following)) :
    nameHead <+: before := by
  by_cases long : nameHead.length ≤ before.length
  · exact List.prefix_of_prefix_length_le isPrefix (List.prefix_append ..) long
  · exfalso
    have short : before <+: nameHead :=
      List.prefix_of_prefix_length_le (List.prefix_append ..) isPrefix
        (Nat.le_of_not_le long)
    have positive := List.length_pos_iff.2 nonempty
    have bound : before.length < 7 := Nat.lt_of_not_le long
    rw [List.prefix_iff_eq_take.1 short] at isPrefix
    generalize before.length = length at positive bound isPrefix
    -- no proper end of the head is also its beginning
    interval_cases length <;> simp [nameHead] at isPrefix

/-- Where the source has no such call, none is found before a wrapper. -/
theorem nameShim_find_before
    {before following : List Char}
    (noHelper : ¬ nameHead <:+: before) :
    ∀ start rest,
      before = start ++ rest → rest ≠ [] →
        nameShim.find (rest ++ (nameHead ++ following)) = none := by
  intro start rest split nonempty
  refine Pattern.find_text_sequence_of_not_prefix ?_ _
  intro isPrefix
  have inside := nameHead_no_overlap nonempty isPrefix
  rw [split] at noHelper
  exact noHelper (inside.isInfix.trans (List.suffix_append start rest).isInfix)

/-- Where the source has no such call, none is found at its end. -/
theorem nameShim_find_plain
    {source : List Char}
    (noHelper : ¬ nameHead <:+: source) :
    ∀ start rest,
      source = start ++ rest → rest ≠ [] →
        nameShim.find (rest ++ []) = none := by
  intro start rest split _
  refine Pattern.find_text_sequence_of_not_prefix ?_ _
  rw [List.append_nil]
  intro isPrefix
  rw [split] at noHelper
  exact noHelper
    (isPrefix.isInfix.trans (List.suffix_append start rest).isInfix)

namespace WrappedSource

/-- What a source is free of, its parts are free of. -/
theorem noHelper_parts
    {helper before : List Char}
    {layout : ShimLayout}
    {expression after : WrappedSource}
    {name : List Char}
    (noHelper :
      ¬ helper <:+:
        (WrappedSource.wrap before layout expression name after).original) :
    ¬ helper <:+: before ∧ ¬ helper <:+: after.original := by
  rw [original] at noHelper
  constructor
  · intro inside
    exact noHelper (inside.trans (List.prefix_append ..).isInfix)
  · intro inside
    rw [← List.append_assoc] at noHelper
    exact noHelper (inside.trans (List.suffix_append ..).isInfix)

/-- Removable wrappers are the segments that are replaced. -/
theorem segments_of_removable
    {source : WrappedSource}
    (wellFormed : source.WellFormed)
    (noHelper : ¬ nameHead <:+: source.original)
    (removable : source.Removable) :
    segments nameShim 0 source.emitted = source.wrapperSegments := by
  induction source with
  | plain source =>
      have kept := segments_of_no_find (nameShim_find_plain noHelper)
      rw [List.append_nil, segments, List.append_nil] at kept
      exact kept
  | wrap before layout expression name after _ afterHypothesis =>
      obtain ⟨trimmed, noQuote, _, afterWellFormed⟩ := wellFormed
      obtain ⟨notEarlier, afterRemovable⟩ := removable
      obtain ⟨noHelperBefore, noHelperAfter⟩ := noHelper_parts noHelper
      rw [emitted, wrapperSegments,
        segments_of_no_find (nameShim_find_before noHelperBefore),
        segments_of_find
          (nameShim_find_wrapper (emitted_starts trimmed) noQuote notEarlier)
          (by simp [nameHead]),
        afterHypothesis afterWellFormed noHelperAfter afterRemovable]

/-- Rendering the segments of removable wrappers gives the original source. -/
theorem render_of_removable
    {source : WrappedSource}
    (wellFormed : source.WellFormed)
    (removable : source.Removable) :
    source.wrapperSegments.flatMap (Segment.render firstGroup) =
      source.original := by
  have kept (text : List Char) :
      (text.map Segment.kept).flatMap (Segment.render firstGroup) = text := by
    rw [List.flatMap_map]
    exact List.flatMap_singleton' text
  induction source with
  | plain source =>
      exact kept source
  | wrap before layout expression name after _ afterHypothesis =>
      obtain ⟨_, _, expressionWellFormed, afterWellFormed⟩ := wellFormed
      obtain ⟨notEarlier, afterRemovable⟩ := removable
      rw [wrapperSegments, List.flatMap_append, List.flatMap_cons, kept,
        afterHypothesis afterWellFormed afterRemovable, original,
        ← emitted_eq_original_of_not_earlier expressionWellFormed notEarlier]
      rfl

/-- When the wrappers are the segments that are replaced, they are removable. -/
theorem removable_of_segments
    {source : WrappedSource}
    (wellFormed : source.WellFormed)
    (noHelper : ¬ nameHead <:+: source.original)
    (replaced :
      segments nameShim 0 source.emitted = source.wrapperSegments) :
    source.Removable := by
  induction source with
  | plain source =>
      trivial
  | wrap before layout expression name after _ afterHypothesis =>
      obtain ⟨trimmed, noQuote, _, afterWellFormed⟩ := wellFormed
      obtain ⟨noHelperBefore, noHelperAfter⟩ := noHelper_parts noHelper
      rw [emitted, wrapperSegments,
        segments_of_no_find (nameShim_find_before noHelperBefore),
        List.append_cancel_left_eq] at replaced
      obtain ⟨captured, captures⟩ :=
        @exists_find_lazy_group (fun _ => true) nameTail expression.emitted _ _
          (fun _ _ => rfl) (nameTail_find_shimTail noQuote after.emitted)
      have opened := layout.blank
      simp only [List.forall_mem_append] at opened
      obtain ⟨c, others, shape, notSpace⟩ := emitted_starts trimmed
      have starts :
          expression.emitted ++ (shimTail layout name ++ after.emitted) =
            [c] ++ (others ++ (shimTail layout name ++ after.emitted)) := by
        rw [shape, List.append_assoc]
      rw [starts] at captures
      have finds :=
        Pattern.find_sequence (Pattern.find_text nameHead _)
          (Pattern.find_sequence (spaces_find opened.1.1.1 notSpace) captures)
      rw [← starts] at captures finds
      have found :=
        @segments_of_find nameShim _ _ finds
          (by simp [Found.followedBy, nameHead])
      rw [found, List.cons.injEq, Segment.replaced.injEq] at replaced
      obtain ⟨same, sameAfter⟩ := replaced
      have sameRest : captured.rest = after.emitted :=
        congrArg Found.rest same
      have sameGroups : captured.groups = [expression.emitted] :=
        congrArg Found.groups same
      obtain ⟨taken, otherGroups, groups, notEarlier⟩ :=
        lazy_group_first captures
      rw [sameGroups, List.cons.injEq] at groups
      refine ⟨fun start rest split nonempty => ?_,
        afterHypothesis afterWellFormed noHelperAfter (sameRest ▸ sameAfter)⟩
      refine notEarlier start _ (by rw [split, List.append_assoc]) ?_
      rw [← groups.1, split, List.length_append]
      have := List.length_pos_iff.2 nonempty
      omega

end WrappedSource

/-- Without a field helper nothing is rewritten. -/
theorem replaceAll_publicFieldShim
    {source : List Char}
    (noHelper : ¬ publicFieldHead <:+: source) :
    replaceAll publicFieldShim fieldAssignment source = source := by
  have nothing :
      ∀ start rest,
        source = start ++ rest → rest ≠ [] →
          publicFieldShim.find (rest ++ []) = none := by
    intro start rest split _
    refine Pattern.find_text_sequence_of_not_prefix ?_ _
    rw [List.append_nil]
    intro isPrefix
    rw [split] at noHelper
    exact noHelper
      (isPrefix.isInfix.trans (List.suffix_append start rest).isInfix)
  have kept := segments_of_no_find nothing
  rw [List.append_nil, segments, List.append_nil] at kept
  rw [replaceAll, kept, List.flatMap_map]
  exact List.flatMap_singleton' source

/-- The function is serialized to its source, and only wrappers are removed. -/
structure RemovesShimsExactly (fn : BundledFunction) : Prop where
  removed :
    segments nameShim 0 fn.source.emitted = fn.source.wrapperSegments
  returned :
    serializeFunction (.function (String.ofList fn.source.emitted) fn.name) =
      .ok (String.ofList fn.source.original)

/-- Removable wrappers leave the original source. -/
theorem serializeFunction_of_removable
    (fn : BundledFunction)
    (removable : fn.source.Removable) :
    serializeFunction (.function (String.ofList fn.source.emitted) fn.name) =
      .ok (String.ofList fn.source.original) := by
  have unwrapped :
      replaceAll nameShim firstGroup fn.source.emitted =
        fn.source.original := by
    rw [replaceAll,
      WrappedSource.segments_of_removable fn.wellFormed fn.noNameHelper
        removable,
      WrappedSource.render_of_removable fn.wellFormed removable]
  have stripped :
      stripBundlerShims fn.source.emitted = fn.source.original := by
    rw [stripBundlerShims, unwrapped,
      replaceAll_publicFieldShim fn.noFieldHelper]
  rw [serializeFunction, String.toList_ofList, if_neg fn.notNative, stripped]
  simp only [fn.noThis, Bool.false_eq_true, if_false]

/--
The wrappers of a bundled function are removed exactly when no text that looks
like the end of one starts inside a wrapped expression.
-/
theorem removesShimsExactly_iff (fn : BundledFunction) :
    RemovesShimsExactly fn ↔ fn.source.Removable := by
  constructor
  · intro exactly
    exact WrappedSource.removable_of_segments fn.wellFormed fn.noNameHelper
      exactly.removed
  · intro removable
    exact {
      removed :=
        WrappedSource.segments_of_removable fn.wellFormed fn.noNameHelper
          removable
      returned := serializeFunction_of_removable fn removable
    }

/-- The layout of the bundler: one blank behind the comma. -/
def bundlerLayout : ShimLayout where
  afterOpen := []
  beforeComma := []
  afterComma := [' ']
  beforeClose := []
  quote := '"'
  blank := List.all_eq_true.1 (by decide)
  isQuote := .inl rfl

/-- The bundler wraps `f(a, "x")` as `__name(f(a, "x"), "n")`. -/
def literalLast : BundledFunction where
  source :=
    .wrap [] bundlerLayout
      (.plain ['f', '(', 'a', ',', ' ', '"', 'x', '"', ')']) ['n'] (.plain [])
  name := ""
  wellFormed :=
    ⟨⟨⟨'f', rfl, by decide⟩, ')', rfl, by decide⟩, by decide, trivial, trivial⟩
  noNameHelper := by decide
  noFieldHelper := by decide
  notNative := by decide
  noThis := by decide

/-- The argument of the call is lost, and the name takes its place. -/
theorem literalLast_changed :
    ¬ RemovesShimsExactly literalLast := by
  intro exactly
  have changed :
      stripBundlerShims literalLast.source.emitted =
        ['f', '(', 'a', ',', ' ', '"', 'n', '"', ')'] := by
    decide
  have noThis :
      referencesThis ['f', '(', 'a', ',', ' ', '"', 'n', '"', ')'] = false := by
    decide
  have returned := exactly.returned
  rw [serializeFunction, String.toList_ofList, if_neg literalLast.notNative,
    changed] at returned
  simp only [noThis, Bool.false_eq_true, if_false, Except.ok.injEq,
    String.ofList_inj] at returned
  revert returned
  decide

end CloudflareParallel
