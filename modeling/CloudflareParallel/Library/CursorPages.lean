import Mathlib.Data.List.Basic
import Mathlib.Order.Lattice

namespace CursorPages

/-!
# Pages after a cursor

A log is read page by page; the cursor is the time of the last entry that was
read, and a page starts behind it.  Where the log is in the order of time and a
page does not end between two entries of the same time, the next page starts
where it ended.
-/

variable {Entry Time : Type} [LinearOrder Time]
variable (time : Entry → Time)

/-- The entries behind a cursor. -/
def behind
    (since : Time)
    (entries : List Entry) : List Entry :=
  entries.filter fun entry => since < time entry

/-- The entries are in the order of time. -/
def InTime (entries : List Entry) : Prop :=
  entries.Pairwise fun earlier later => time earlier ≤ time later

/-- The cursor after a page; an empty page leaves it where it is. -/
def advance
    (since : Time)
    (page : List Entry) : Time :=
  (page.getLast?.map time).getD since

/-- The first entries do not end between two entries of the same time. -/
def EndsInTime
    (limit : Nat)
    (entries : List Entry) : Prop :=
  ∀ last next,
    entries[limit - 1]? = some last →
      entries[limit]? = some next → time last ≠ time next

/-- Lists in the order of time that agree at each time are the same. -/
theorem eq_of_sameAtEachTime
    {entries others : List Entry}
    (inTime : InTime time entries)
    (othersInTime : InTime time others)
    (same :
      ∀ at_,
        (entries.filter fun entry => time entry = at_) =
          others.filter fun entry => time entry = at_) :
    entries = others := by
  induction entries generalizing others with
  | nil =>
      cases others with
      | nil => rfl
      | cons other rest =>
          have none := same (time other)
          simp at none
  | cons entry rest inductionHypothesis =>
      cases others with
      | nil =>
          have none := same (time entry)
          simp at none
      | cons other others =>
          -- the first of each list is in the other one
          have sameTime : time entry = time other := by
            have inOthers : entry ∈ other :: others := by
              have member :
                  entry ∈ (entry :: rest).filter fun found =>
                    time found = time entry := by simp
              rw [same] at member
              exact (List.mem_filter.mp member).1
            have inEntries : other ∈ entry :: rest := by
              have member :
                  other ∈ (other :: others).filter fun found =>
                    time found = time other := by simp
              rw [← same] at member
              exact (List.mem_filter.mp member).1
            apply le_antisymm
            · rcases List.mem_cons.mp inEntries with rfl | later
              · exact le_rfl
              · exact (List.pairwise_cons.mp inTime).1 other later
            · rcases List.mem_cons.mp inOthers with rfl | later
              · exact le_rfl
              · exact (List.pairwise_cons.mp othersInTime).1 entry later
          have heads := same (time entry)
          rw [List.filter_cons_of_pos (by simp),
            List.filter_cons_of_pos (by simp [sameTime])] at heads
          obtain ⟨rfl, -⟩ := List.cons.inj heads
          refine congrArg _
            (inductionHypothesis (List.pairwise_cons.mp inTime).2
              (List.pairwise_cons.mp othersInTime).2 fun at_ => ?_)
          have rests := same at_
          rw [List.filter_cons, List.filter_cons] at rests
          split at rests
          · exact (List.cons.inj rests).2
          · exact rests

/-- Entries that are behind a cursor are all behind it. -/
theorem behind_eq_self
    {since : Time}
    {entries : List Entry}
    (late : ∀ entry ∈ entries, since < time entry) :
    behind time since entries = entries := by
  unfold behind
  rw [List.filter_eq_self]
  exact fun entry member => decide_eq_true (late entry member)

/-- A later cursor sees the same with and without an earlier one. -/
theorem behind_behind
    {earlier later : Time}
    (inOrder : earlier ≤ later)
    (entries : List Entry) :
    behind time later (behind time earlier entries) =
      behind time later entries := by
  unfold behind
  rw [List.filter_filter]
  refine List.filter_congr fun entry _ => ?_
  by_cases late : later < time entry
  · simp [late, lt_of_le_of_lt inOrder late]
  · simp [late]

/-- A page behind a cursor does not move it back. -/
theorem le_advance
    {since : Time}
    {page : List Entry}
    (late : ∀ entry ∈ page, since < time entry) :
    since ≤ advance time since page := by
  unfold advance
  cases lastRead : page.getLast? with
  | none => exact le_rfl
  | some last =>
      exact le_of_lt (late last (List.mem_of_getLast? lastRead))

/-- No entry of a page is behind its last one. -/
theorem le_last
    {entries : List Entry}
    {last entry : Entry}
    (inTime : InTime time entries)
    (isLast : entries.getLast? = some last)
    (member : entry ∈ entries) :
    time entry ≤ time last := by
  obtain ⟨init, rfl⟩ := List.getLast?_eq_some_iff.mp isLast
  rcases List.mem_append.mp member with before | isEntry
  · exact (List.pairwise_append.mp inTime).2.2 entry before last
      (List.mem_singleton_self _)
  · rw [List.mem_singleton.mp isEntry]

/-- What a page leaves is behind its last entry. -/
theorem last_lt_of_mem_drop
    {limit : Nat}
    {entries : List Entry}
    {last entry : Entry}
    (inTime : InTime time entries)
    (ends : EndsInTime time limit entries)
    (positive : 0 < limit)
    (isLast : (entries.take limit).getLast? = some last)
    (left : entry ∈ entries.drop limit) :
    time last < time entry := by
  cases rest : entries.drop limit with
  | nil =>
      rw [rest] at left
      cases left
  | cons next others =>
      have isNext : entries[limit]? = some next := by
        rw [← List.head?_drop, rest]
        rfl
      have long : limit < entries.length :=
        (List.getElem?_eq_some_iff.mp isNext).1
      have atLimit : entries[limit - 1]? = some last := by
        rw [List.getLast?_eq_getElem?, List.length_take,
          Nat.min_eq_left (Nat.le_of_lt long),
          List.getElem?_take_of_lt (by omega)]
          at isLast
        exact isLast
      have inOrder :
          (entries.take limit ++ next :: others).Pairwise
            fun earlier later => time earlier ≤ time later := by
        rw [← rest, List.take_append_drop]
        exact inTime
      obtain ⟨-, restInTime, across⟩ := List.pairwise_append.mp inOrder
      have before : time last < time next :=
        lt_of_le_of_ne
          (across last (List.mem_of_getLast? isLast) next
            List.mem_cons_self)
          (ends last next atLimit isNext)
      rw [rest] at left
      rcases List.mem_cons.mp left with rfl | later
      · exact before
      · exact lt_of_lt_of_le before
          ((List.pairwise_cons.mp restInTime).1 entry later)

/-- Behind the cursor after a page comes what the page has left. -/
theorem behind_advance
    {since : Time}
    {limit : Nat}
    {entries : List Entry}
    (inTime : InTime time entries)
    (ends : EndsInTime time limit entries)
    (positive : 0 < limit) :
    behind time (advance time since (entries.take limit)) entries =
      entries.drop limit := by
  cases lastRead : (entries.take limit).getLast? with
  | none =>
      -- an empty page with a positive limit
      rw [List.getLast?_eq_none_iff, List.take_eq_nil_iff] at lastRead
      have none : entries = [] :=
        lastRead.resolve_left (Nat.pos_iff_ne_zero.mp positive)
      subst none
      simp [behind]
  | some last =>
      have cursor : advance time since (entries.take limit) = time last := by
        unfold advance
        rw [lastRead]
        rfl
      have read :
          behind time (time last) (entries.take limit) = [] := by
        unfold behind
        rw [List.filter_eq_nil_iff]
        intro entry member behindLast
        have notAfter :=
          le_last time (inTime.sublist (List.take_sublist limit entries))
            lastRead member
        exact absurd (of_decide_eq_true behindLast) (not_lt_of_ge notAfter)
      have left :
          behind time (time last) (entries.drop limit) =
            entries.drop limit :=
        behind_eq_self time fun entry member =>
          last_lt_of_mem_drop time inTime ends positive lastRead member
      rw [cursor]
      conv_lhs => rw [← List.take_append_drop limit entries]
      unfold behind at read left ⊢
      rw [List.filter_append, read, left, List.nil_append]

end CursorPages
