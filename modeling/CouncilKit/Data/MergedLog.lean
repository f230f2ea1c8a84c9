import Mathlib

namespace CouncilKit.Data

open List

/-! Merging puts one entry where the first marked entry stood and drops the other
marked ones.  The merged entry keeps the number of the first and holds the
content of all, so a reader that starts at a number gets all of that content or
none of it.
-/

universe u v

variable {α : Type u} {β : Type v}

/-- The log with `merged first rest` in the place of its marked entries. -/
def mergeMarked (marked : α → Bool) (merged : α → List α → α) (log : List α) : List α :=
  match log.filter marked with
  | [] => log
  | first :: rest =>
    log.takeWhile (fun entry => !marked entry) ++ merged first rest ::
      (log.dropWhile fun entry => !marked entry).filter fun entry => !marked entry

variable {marked : α → Bool} {merged : α → List α → α} {log : List α}

theorem split_at_marked {first : α} {rest : List α} (found : log.filter marked = first :: rest) :
    ∃ before after, log = before ++ first :: after ∧ (∀ entry ∈ before, marked entry = false) ∧
      marked first = true ∧ rest = after.filter marked := by
  induction log with
  | nil => contradiction
  | cons head tail ih =>
    cases mark : marked head with
    | true =>
      rw [filter_cons_of_pos mark] at found
      cases found
      exact ⟨[], tail, rfl, fun _ member => absurd member not_mem_nil, mark, rfl⟩
    | false =>
      rw [filter_cons_of_neg (by simp [mark])] at found
      obtain ⟨before, after, same, unmarked, isMarked, others⟩ := ih found
      refine ⟨head :: before, after, by rw [same, cons_append], ?_, isMarked, others⟩
      intro entry member
      cases mem_cons.mp member with
      | inl here => rw [here, mark]
      | inr later => exact unmarked entry later

theorem takeWhile_unmarked {before after : List α} {first : α}
    (unmarked : ∀ entry ∈ before, marked entry = false) (isMarked : marked first = true) :
    (before ++ first :: after).takeWhile (fun entry => !marked entry) = before ∧
      (before ++ first :: after).dropWhile (fun entry => !marked entry) = first :: after := by
  have passes : ∀ entry ∈ before, (!marked entry) = true := by
    intro entry member
    rw [unmarked entry member]
    rfl
  constructor
  · rw [takeWhile_append_of_pos passes, takeWhile_cons_of_neg (by simp [isMarked]),
      append_nil]
  · rw [dropWhile_append_of_pos passes, dropWhile_cons_of_neg (by simp [isMarked])]

theorem mergeMarked_split {before after : List α} {first : α}
    (unmarked : ∀ entry ∈ before, marked entry = false) (isMarked : marked first = true) :
    mergeMarked marked merged (before ++ first :: after) =
      before ++ merged first (after.filter marked) :: after.filter fun entry => !marked entry := by
  have none : before.filter marked = [] :=
    filter_eq_nil_iff.mpr fun entry member => by simp [unmarked entry member]
  have found : (before ++ first :: after).filter marked = first :: after.filter marked := by
    rw [filter_append, none, nil_append, filter_cons_of_pos isMarked]
  obtain ⟨taken, dropped⟩ := @takeWhile_unmarked _ _ before after first unmarked isMarked
  rw [mergeMarked, found]
  simp only [taken, dropped]
  rw [filter_cons_of_neg (by simp [isMarked])]

theorem sum_marked_add_unmarked (marked : α → Bool) (weight : α → Nat) (log : List α) :
    ((log.filter marked).map weight).sum +
      ((log.filter fun entry => !marked entry).map weight).sum = (log.map weight).sum := by
  induction log with
  | nil => rfl
  | cons head tail ih => cases mark : marked head <;> simp [mark] <;> omega

theorem sum_mergeMarked (weight : α → Nat) :
    ((mergeMarked marked merged log).map weight).sum + ((log.filter marked).map weight).sum =
      (log.map weight).sum + match log.filter marked with
        | [] => 0
        | first :: rest => weight (merged first rest) := by
  cases found : log.filter marked with
  | nil => simp [mergeMarked, found]
  | cons first rest =>
    obtain ⟨before, after, rfl, others, isMarked, rfl⟩ := split_at_marked found
    rw [mergeMarked_split others isMarked]
    have parts := sum_marked_add_unmarked marked weight after
    simp only [map_append, sum_append, map_cons, sum_cons]
    omega

section Numbers

variable {number : α → Nat} (keeps : ∀ first rest, number (merged first rest) = number first)

include keeps

theorem exists_of_mem_mergeMarked {entry : α} (member : entry ∈ mergeMarked marked merged log) :
    ∃ old ∈ log, number entry = number old := by
  cases found : log.filter marked with
  | nil =>
    rw [mergeMarked, found] at member
    exact ⟨entry, member, rfl⟩
  | cons first rest =>
    obtain ⟨before, after, rfl, others, isMarked, -⟩ := split_at_marked found
    rw [mergeMarked_split others isMarked] at member
    rcases mem_append.mp member with early | late
    · exact ⟨entry, mem_append_left _ early, rfl⟩
    · cases mem_cons.mp late with
      | inl same => exact ⟨first, by simp, by rw [same, keeps]⟩
      | inr later =>
        have old := (mem_filter.mp later).1
        exact ⟨entry, mem_append_right _ (mem_cons_of_mem _ old), rfl⟩

theorem pairwise_mergeMarked (sorted : log.Pairwise fun left right => number left < number right) :
    (mergeMarked marked merged log).Pairwise fun left right => number left < number right := by
  cases found : log.filter marked with
  | nil =>
    rw [mergeMarked, found]
    exact sorted
  | cons first rest =>
    obtain ⟨before, after, rfl, others, isMarked, -⟩ := split_at_marked found
    rw [mergeMarked_split others isMarked]
    obtain ⟨early, late, across⟩ := pairwise_append.mp sorted
    obtain ⟨firstBefore, tail⟩ := pairwise_cons.mp late
    refine pairwise_append.mpr ⟨early, pairwise_cons.mpr ⟨?_, tail.filter _⟩, ?_⟩
    · intro entry member
      rw [keeps]
      exact firstBefore entry (mem_filter.mp member).1
    · intro entry member other otherMember
      cases mem_cons.mp otherMember with
      | inl same =>
        rw [same, keeps]
        exact across entry member first mem_cons_self
      | inr later =>
        exact across entry member other
          (mem_cons_of_mem _ (mem_filter.mp later).1)

theorem find_mergeMarked (marks : ∀ first rest, marked first = true → marked (merged first rest) = true) :
    ((mergeMarked marked merged log).find? marked).map number = (log.find? marked).map number := by
  cases found : log.filter marked with
  | nil => rw [mergeMarked, found]
  | cons first rest =>
    obtain ⟨before, after, rfl, others, isMarked, -⟩ := split_at_marked found
    rw [mergeMarked_split others isMarked]
    have skip : before.find? marked = none := List.find?_eq_none.mpr fun entry member => by
      simp [others entry member]
    simp [List.find?_append, skip, marks _ _ isMarked, isMarked, keeps]

end Numbers

section Content

variable {number : α → Nat} {content : α → List β}

variable (silent : ∀ entry, marked entry = false → content entry = [])

include silent

theorem flatMap_filter_marked : (log.filter marked).flatMap content = log.flatMap content := by
  induction log with
  | nil => rfl
  | cons head tail ih =>
    cases mark : marked head with
    | true => rw [filter_cons_of_pos mark, flatMap_cons, flatMap_cons, ih]
    | false =>
      rw [filter_cons_of_neg (by simp [mark]), flatMap_cons, silent head mark,
        nil_append, ih]

theorem flatMap_mergeMarked_after (keeps : ∀ first rest, number (merged first rest) = number first)
    (holds : ∀ first rest, content (merged first rest) = (first :: rest).flatMap content)
    (start : Nat) :
    ((mergeMarked marked merged log).filter fun entry => start < number entry).flatMap content =
      if (log.find? marked).any (fun first => start < number first) then log.flatMap content
      else [] := by
  have quiet : ∀ part : List α, (∀ entry ∈ part, marked entry = false) → part.flatMap content = [] := by
    intro part unmarked
    exact flatMap_eq_nil_iff.mpr fun entry member => silent entry (unmarked entry member)
  cases found : log.filter marked with
  | nil =>
    have unmarked : ∀ entry ∈ log, marked entry = false := by
      intro entry member
      simpa using filter_eq_nil_iff.mp found entry member
    rw [mergeMarked, found, quiet log unmarked]
    have here := quiet (log.filter fun entry => start < number entry)
      fun entry member => unmarked entry (mem_filter.mp member).1
    simp [here]
  | cons first rest =>
    obtain ⟨before, after, rfl, others, isMarked, rfl⟩ := split_at_marked found
    have skip : before.find? marked = none := List.find?_eq_none.mpr fun entry member => by
      simp [others entry member]
    have early := quiet (before.filter fun entry => start < number entry)
      fun entry member => others entry (mem_filter.mp member).1
    have late := quiet ((after.filter fun entry => !marked entry).filter fun entry =>
      start < number entry) fun entry member => by
        simpa using (mem_filter.mp (mem_filter.mp member).1).2
    have whole : (first :: after.filter marked).flatMap content =
        (before ++ first :: after).flatMap content := by
      rw [flatMap_append, quiet before others, nil_append, flatMap_cons,
        flatMap_cons, flatMap_filter_marked silent]
    rw [mergeMarked_split others isMarked, filter_append, flatMap_append, early,
      nil_append, List.find?_append, skip, Option.none_or, List.find?_cons_of_pos isMarked,
      Option.any_some, filter_cons, keeps]
    split
    · rw [flatMap_cons, late, append_nil, holds, whole]
    · exact late

end Content

end CouncilKit.Data
