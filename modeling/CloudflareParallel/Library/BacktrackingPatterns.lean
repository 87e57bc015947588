import Mathlib.Data.List.Basic

namespace BacktrackingPatterns

/-!
# Backtracking patterns

Regular expressions as a backtracking matcher runs them: a pattern lists the
ways it matches the front of a text, the preferred one first.  A greedy run
prefers to take more, a lazy run prefers to take less.  A global replacement
goes through the text from left to right and never looks at a match again.
-/

/-- A pattern over characters. -/
inductive Pattern where
  | text (expected : List Char)
  | char (inClass : Char → Bool)
  | run (inClass : Char → Bool) (atLeast : Nat) (greedy : Bool)
  | sequence (first second : Pattern)
  | choice (first second : Pattern)
  | group (inner : Pattern)

/-- One way to match: what was taken, what is left, and the captured groups. -/
structure Found where
  taken : List Char
  rest : List Char
  groups : List (List Char)
  deriving Repr, DecidableEq

/-- A match followed by another. -/
def Found.followedBy (first second : Found) : Found where
  taken := first.taken ++ second.taken
  rest := second.rest
  groups := first.groups ++ second.groups

/-- The runs of a class at the front of a text, the shortest first. -/
def runs (inClass : Char → Bool) : List Char → List Found
  | [] => [⟨[], [], []⟩]
  | c :: rest =>
      ⟨[], c :: rest, []⟩ ::
        if inClass c then
          (runs inClass rest).map fun found =>
            { found with taken := c :: found.taken }
        else
          []

namespace Pattern

/-- All matches at the front of a text, the preferred one first. -/
def findAll : Pattern → List Char → List Found
  | .text expected, input =>
      if expected.isPrefixOf input then
        [⟨expected, input.drop expected.length, []⟩]
      else
        []
  | .char _, [] => []
  | .char inClass, c :: rest =>
      if inClass c then
        [⟨[c], rest, []⟩]
      else
        []
  | .run inClass atLeast greedy, input =>
      let found := (runs inClass input).drop atLeast
      if greedy then found.reverse else found
  | .sequence first second, input =>
      (first.findAll input).flatMap fun found =>
        (second.findAll found.rest).map found.followedBy
  | .choice first second, input =>
      first.findAll input ++ second.findAll input
  | .group inner, input =>
      (inner.findAll input).map fun found =>
        { found with groups := found.taken :: found.groups }

/-- The match at the front of a text. -/
def find (pattern : Pattern) (input : List Char) : Option Found :=
  (pattern.findAll input).head?

end Pattern

/-- A character that is kept, or a match that is replaced. -/
inductive Segment where
  | kept (c : Char)
  | replaced (found : Found)
  deriving Repr, DecidableEq

/--
The segments of a text, after skipping some characters.  The pattern is one
that matches no empty text.
-/
def segments (pattern : Pattern) : Nat → List Char → List Segment
  | _, [] => []
  | skip + 1, _ :: rest => segments pattern skip rest
  | 0, c :: rest =>
      match pattern.find (c :: rest) with
      | some found =>
          .replaced found ::
            segments pattern (found.taken.length - 1) rest
      | none => .kept c :: segments pattern 0 rest

/-- A kept character stays, and a match is rendered anew. -/
def Segment.render (replace : Found → List Char) : Segment → List Char
  | .kept c => [c]
  | .replaced found => replace found

/-- Every match, from left to right, is replaced. -/
def replaceAll
    (pattern : Pattern)
    (replace : Found → List Char)
    (input : List Char) : List Char :=
  (segments pattern 0 input).flatMap (Segment.render replace)

/-- What a run takes and what it leaves make up the text. -/
theorem append_of_mem_runs
    {inClass : Char → Bool}
    {input : List Char}
    {found : Found}
    (member : found ∈ runs inClass input) :
    found.taken ++ found.rest = input := by
  induction input generalizing found with
  | nil =>
      rw [List.mem_singleton.1 member]
      rfl
  | cons c rest inductionHypothesis =>
      rw [runs, List.mem_cons] at member
      obtain rfl | later := member
      · rfl
      · split at later
        next =>
          obtain ⟨shorter, isRun, rfl⟩ := List.mem_map.1 later
          rw [List.cons_append, inductionHypothesis isRun]
        next =>
          cases later

namespace Pattern

/-- What a match takes and what it leaves make up the text. -/
theorem append_of_mem_findAll
    {pattern : Pattern}
    {input : List Char}
    {found : Found}
    (member : found ∈ pattern.findAll input) :
    found.taken ++ found.rest = input := by
  induction pattern generalizing input found with
  | text expected =>
      rw [findAll] at member
      split at member
      next isPrefix =>
        obtain ⟨rest, rfl⟩ := List.isPrefixOf_iff_prefix.1 isPrefix
        rw [List.mem_singleton.1 member, List.drop_left]
      next =>
        cases member
  | char inClass =>
      cases input with
      | nil =>
          cases member
      | cons c rest =>
          rw [findAll] at member
          split at member
          next =>
            rw [List.mem_singleton.1 member]
            rfl
          next =>
            cases member
  | run inClass atLeast greedy =>
      rw [findAll] at member
      have isRun : found ∈ (runs inClass input).drop atLeast := by
        split at member
        next =>
          exact List.mem_reverse.1 member
        next =>
          exact member
      exact append_of_mem_runs (List.mem_of_mem_drop isRun)
  | sequence first second firstHypothesis secondHypothesis =>
      rw [findAll, List.mem_flatMap] at member
      obtain ⟨before, isBefore, member⟩ := member
      obtain ⟨after, isAfter, rfl⟩ := List.mem_map.1 member
      rw [Found.followedBy, List.append_assoc, secondHypothesis isAfter,
        firstHypothesis isBefore]
  | choice first second firstHypothesis secondHypothesis =>
      rw [findAll, List.mem_append] at member
      exact member.elim firstHypothesis secondHypothesis
  | group inner inductionHypothesis =>
      rw [findAll] at member
      obtain ⟨plain, isPlain, rfl⟩ := List.mem_map.1 member
      exact @inductionHypothesis input plain isPlain

/-- The match found makes up the text with what it leaves. -/
theorem append_of_find
    {pattern : Pattern}
    {input : List Char}
    {found : Found}
    (finds : pattern.find input = some found) :
    found.taken ++ found.rest = input :=
  append_of_mem_findAll (List.mem_of_head? finds)

/-- A text is found in front of anything. -/
theorem find_text (expected rest : List Char) :
    (Pattern.text expected).find (expected ++ rest) =
      some ⟨expected, rest, []⟩ := by
  rw [find, findAll,
    if_pos (List.isPrefixOf_iff_prefix.2 (List.prefix_append ..)),
    List.drop_left]
  rfl

/-- A pattern that starts with a text finds nothing without it. -/
theorem find_text_sequence_of_not_prefix
    {expected input : List Char}
    (absent : ¬ expected <+: input)
    (second : Pattern) :
    (Pattern.sequence (.text expected) second).find input = none := by
  rw [find, findAll, findAll, if_neg fun isPrefix =>
    absent (List.isPrefixOf_iff_prefix.1 isPrefix)]
  rfl

/-- After the preferred way to match first, the second pattern goes on. -/
theorem find_sequence
    {first second : Pattern}
    {input : List Char}
    {preferred next : Found}
    (firstFinds : first.find input = some preferred)
    (secondFinds : second.find preferred.rest = some next) :
    (Pattern.sequence first second).find input =
      some (preferred.followedBy next) := by
  obtain ⟨others, shape⟩ := List.head?_eq_some_iff.1 firstFinds
  rw [find] at secondFinds ⊢
  rw [findAll, shape, List.flatMap_cons, List.head?_append, List.head?_map,
    secondFinds]
  rfl

/-- What the first pattern of a choice finds is preferred. -/
theorem find_choice
    {first second : Pattern}
    {input : List Char} :
    (Pattern.choice first second).find input =
      (first.find input).or (second.find input) := by
  rw [find, findAll, List.head?_append]
  rfl

/-- A greedy run takes everything in its class. -/
theorem find_greedy_run
    {inClass : Char → Bool}
    {taken rest : List Char}
    (isRun : ∀ c ∈ taken, inClass c = true)
    (ends : ∀ c ∈ rest.head?, inClass c = false) :
    (Pattern.run inClass 0 true).find (taken ++ rest) =
      some ⟨taken, rest, []⟩ := by
  have longestLast :
      ∃ shorter,
        runs inClass (taken ++ rest) = shorter ++ [⟨taken, rest, []⟩] := by
    induction taken with
    | nil =>
        cases rest with
        | nil =>
            exact ⟨[], rfl⟩
        | cons c rest =>
            refine ⟨[], ?_⟩
            rw [List.nil_append, runs, ends c rfl]
            rfl
    | cons c others inductionHypothesis =>
        obtain ⟨inRun, laterRun⟩ := List.forall_mem_cons.1 isRun
        obtain ⟨shorter, ending⟩ := inductionHypothesis laterRun
        rw [List.cons_append, runs, if_pos inRun, ending, List.map_append]
        exact ⟨_ :: _, rfl⟩
  obtain ⟨shorter, ending⟩ := longestLast
  simp [find, findAll, ending]

end Pattern

/-- The shortest run after which the second pattern goes on is preferred. -/
theorem lazy_run_head
    {inClass : Char → Bool}
    {second : Pattern}
    {body rest : List Char}
    {next : Found}
    (isRun : ∀ c ∈ body, inClass c = true)
    (finds : second.find rest = some next)
    (notEarlier :
      ∀ before after,
        body = before ++ after → after ≠ [] →
          second.find (after ++ rest) = none)
    (combine : Found → Found → Found) :
    ((runs inClass (body ++ rest)).flatMap fun found =>
        (second.findAll found.rest).map (combine found)).head? =
      some (combine ⟨body, rest, []⟩ next) := by
  induction body generalizing combine with
  | nil =>
      have first : ∃ others, runs inClass rest = ⟨[], rest, []⟩ :: others := by
        cases rest with
        | nil => exact ⟨[], rfl⟩
        | cons c rest => exact ⟨_, rfl⟩
      obtain ⟨others, shape⟩ := first
      rw [Pattern.find] at finds
      rw [List.nil_append, shape, List.flatMap_cons, List.head?_append,
        List.head?_map, finds]
      rfl
  | cons c body inductionHypothesis =>
      obtain ⟨inRun, laterRun⟩ := List.forall_mem_cons.1 isRun
      have nothing : second.findAll (c :: body ++ rest) = [] :=
        List.head?_eq_none_iff.1
          (notEarlier [] (c :: body) rfl (List.cons_ne_nil c body))
      rw [List.cons_append] at nothing ⊢
      rw [runs, if_pos inRun, List.flatMap_cons, nothing, List.map_nil,
        List.nil_append, List.flatMap_map]
      refine inductionHypothesis laterRun ?_ fun found =>
        combine { found with taken := c :: found.taken }
      intro before after split
      exact notEarlier (c :: before) after (by rw [split, List.cons_append])

/-- Every run of a class is among its runs. -/
theorem mem_runs
    {inClass : Char → Bool}
    {taken : List Char}
    (isRun : ∀ c ∈ taken, inClass c = true)
    (rest : List Char) :
    ⟨taken, rest, []⟩ ∈ runs inClass (taken ++ rest) := by
  induction taken with
  | nil =>
      cases rest with
      | nil => exact List.mem_singleton_self _
      | cons c rest => exact List.mem_cons_self ..
  | cons c taken inductionHypothesis =>
      obtain ⟨inRun, laterRun⟩ := List.forall_mem_cons.1 isRun
      rw [List.cons_append, runs, if_pos inRun]
      exact List.mem_cons_of_mem _ (List.mem_map.2
        ⟨_, inductionHypothesis laterRun, rfl⟩)

/-- Before the run that is preferred, the second pattern does not go on. -/
theorem lazy_run_first
    {inClass : Char → Bool}
    {second : Pattern}
    {input : List Char}
    {found : Found}
    {combine : Found → Found → Found}
    (finds :
      ((runs inClass input).flatMap fun found =>
        (second.findAll found.rest).map (combine found)).head? =
        some found) :
    ∃ taken rest next,
      input = taken ++ rest ∧ found = combine ⟨taken, rest, []⟩ next ∧
        ∀ before after,
          input = before ++ after → before.length < taken.length →
            second.find after = none := by
  induction input generalizing combine with
  | nil =>
      rw [runs, List.flatMap_singleton, List.head?_map,
        Option.map_eq_some_iff] at finds
      obtain ⟨next, _, rfl⟩ := finds
      exact ⟨[], [], next, rfl, rfl, by simp⟩
  | cons c input inductionHypothesis =>
      rw [runs, List.flatMap_cons, List.head?_append] at finds
      cases here : second.findAll (c :: input) with
      | cons next others =>
          rw [here] at finds
          cases finds
          exact ⟨[], c :: input, next, rfl, rfl, by simp⟩
      | nil =>
          rw [here, List.map_nil, List.head?_nil, Option.none_or] at finds
          split at finds
          next inRun =>
            rw [List.flatMap_map] at finds
            obtain ⟨taken, rest, next, shape, rfl, notEarlier⟩ :=
              @inductionHypothesis
                (fun found => combine { found with taken := c :: found.taken })
                finds
            refine ⟨c :: taken, rest, next, by rw [shape]; rfl, rfl, ?_⟩
            intro before after split shorter
            cases before with
            | nil =>
                rw [List.nil_append] at split
                rw [← split, Pattern.find, here]
                rfl
            | cons d before =>
                cases split
                exact notEarlier before after rfl
                  (Nat.lt_of_succ_lt_succ shorter)
          next =>
            cases finds

/-- The ways to match a captured lazy run and a second pattern. -/
theorem find_lazy_group_eq
    (inClass : Char → Bool)
    (second : Pattern)
    (input : List Char) :
    (Pattern.sequence (.group (.run inClass 0 false)) second).find input =
      ((runs inClass input).flatMap fun found =>
        (second.findAll found.rest).map
          (Found.followedBy
            { found with groups := found.taken :: found.groups })).head? := by
  simp [Pattern.find, Pattern.findAll, List.flatMap_map]

/-- A lazy run captures what stands before the first place to go on at. -/
theorem find_lazy_group
    {inClass : Char → Bool}
    {second : Pattern}
    {body rest : List Char}
    {next : Found}
    (isRun : ∀ c ∈ body, inClass c = true)
    (finds : second.find rest = some next)
    (notEarlier :
      ∀ before after,
        body = before ++ after → after ≠ [] →
          second.find (after ++ rest) = none) :
    (Pattern.sequence (.group (.run inClass 0 false)) second).find
        (body ++ rest) =
      some ⟨body ++ next.taken, next.rest, body :: next.groups⟩ := by
  rw [find_lazy_group_eq]
  exact lazy_run_head isRun finds notEarlier fun found =>
    Found.followedBy { found with groups := found.taken :: found.groups }

/-- What a lazy run captures stands before all places to go on at. -/
theorem lazy_group_first
    {inClass : Char → Bool}
    {second : Pattern}
    {input : List Char}
    {found : Found}
    (finds :
      (Pattern.sequence (.group (.run inClass 0 false)) second).find input =
        some found) :
    ∃ captured others,
      found.groups = captured :: others ∧
        ∀ before after,
          input = before ++ after → before.length < captured.length →
            second.find after = none := by
  rw [find_lazy_group_eq] at finds
  obtain ⟨taken, rest, next, _, rfl, notEarlier⟩ :=
    @lazy_run_first inClass second input found
      (fun found => Found.followedBy
        { found with groups := found.taken :: found.groups }) finds
  exact ⟨taken, next.groups, rfl, notEarlier⟩

/-- A lazy run and a second pattern match when the second does somewhere. -/
theorem exists_find_lazy_group
    {inClass : Char → Bool}
    {second : Pattern}
    {body rest : List Char}
    {next : Found}
    (isRun : ∀ c ∈ body, inClass c = true)
    (finds : second.find rest = some next) :
    ∃ found,
      (Pattern.sequence (.group (.run inClass 0 false)) second).find
        (body ++ rest) = some found := by
  rw [find_lazy_group_eq, ← Option.isSome_iff_exists, List.isSome_head?]
  exact List.ne_nil_of_mem (List.mem_flatMap.2 ⟨_, mem_runs isRun rest,
    List.mem_map_of_mem (List.mem_of_head? finds)⟩)

/-- Skipped characters are no segments. -/
theorem segments_skip
    (pattern : Pattern)
    (skipped rest : List Char) :
    segments pattern skipped.length (skipped ++ rest) =
      segments pattern 0 rest := by
  induction skipped with
  | nil =>
      rfl
  | cons c skipped inductionHypothesis =>
      rw [List.length_cons, List.cons_append, segments, inductionHypothesis]

/-- A match is one segment, and the text goes on behind it. -/
theorem segments_of_find
    {pattern : Pattern}
    {input : List Char}
    {found : Found}
    (finds : pattern.find input = some found)
    (nonempty : found.taken ≠ []) :
    segments pattern 0 input =
      .replaced found :: segments pattern 0 found.rest := by
  have whole := Pattern.append_of_find finds
  obtain ⟨first, taken, shape⟩ := List.exists_cons_of_ne_nil nonempty
  rw [shape, List.cons_append] at whole
  subst whole
  rw [segments, finds]
  simp only [shape, List.length_cons, Nat.add_sub_cancel]
  rw [segments_skip]

/-- A text in which no match starts is kept. -/
theorem segments_of_no_find
    {pattern : Pattern}
    {text rest : List Char}
    (nothing :
      ∀ before after,
        text = before ++ after → after ≠ [] →
          pattern.find (after ++ rest) = none) :
    segments pattern 0 (text ++ rest) =
      text.map .kept ++ segments pattern 0 rest := by
  induction text with
  | nil =>
      rfl
  | cons c text inductionHypothesis =>
      have here := nothing [] (c :: text) rfl (List.cons_ne_nil c text)
      rw [List.cons_append] at here ⊢
      rw [segments, here, List.map_cons, List.cons_append,
        inductionHypothesis]
      intro before after split
      exact nothing (c :: before) after (by rw [split, List.cons_append])

end BacktrackingPatterns
