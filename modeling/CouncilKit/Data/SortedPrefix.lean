import Mathlib

namespace CouncilKit.Data

open List

universe u

section StrictOrder

variable {α : Type u} {before : α → α → Prop} {shorter longer whole : List α}

variable (asymm : ∀ {left right}, before left right → ¬ before right left)

include asymm

section

variable (sorted : shorter.Pairwise before) (longerSorted : longer.Pairwise before)

include sorted longerSorted

theorem prefix_of_later (subset : ∀ entry ∈ shorter, entry ∈ longer)
    (later : ∀ entry ∈ longer, entry ∈ shorter ∨ ∀ old ∈ shorter, before old entry) :
    shorter <+: longer := by
  have irrefl : ∀ entry, ¬ before entry entry := fun entry itself => asymm itself itself
  induction shorter generalizing longer with
  | nil => exact nil_prefix
  | cons first rest ih =>
    cases longer with
    | nil => exact absurd (subset first mem_cons_self) not_mem_nil
    | cons head tail =>
      obtain ⟨firstBefore, restSorted⟩ := pairwise_cons.mp sorted
      obtain ⟨headBefore, tailSorted⟩ := pairwise_cons.mp longerSorted
      -- `first` stands in the longer list, and nothing of that list comes before it.
      have same : first = head := by
        rcases mem_cons.mp (subset first mem_cons_self) with same | inTail
        · exact same
        · have earlier := headBefore first inTail
          rcases later head mem_cons_self with known | after
          · rcases mem_cons.mp known with same | inRest
            · exact same.symm
            · exact absurd earlier (asymm (firstBefore head inRest))
          · exact absurd earlier (asymm (after first mem_cons_self))
      subst same
      refine cons_prefix_cons.mpr ⟨rfl, ih restSorted tailSorted ?_ ?_⟩
      · intro entry inRest
        rcases mem_cons.mp (subset entry (mem_cons_of_mem _ inRest)) with
          same | inTail
        · subst same
          exact absurd (firstBefore entry inRest) (irrefl entry)
        · exact inTail
      · intro entry inTail
        rcases later entry (mem_cons_of_mem _ inTail) with known | after
        · rcases mem_cons.mp known with same | inRest
          · subst same
            exact absurd (headBefore entry inTail) (irrefl entry)
          · exact .inl inRest
        · exact .inr fun old member => after old (mem_cons_of_mem _ member)

theorem eq_of_members (members : ∀ entry, entry ∈ shorter ↔ entry ∈ longer) : shorter = longer := by
  have forward : shorter <+: longer :=
    prefix_of_later asymm sorted longerSorted (fun entry => (members entry).mp)
      fun entry member => .inl ((members entry).mpr member)
  have backward : longer <+: shorter :=
    prefix_of_later asymm longerSorted sorted (fun entry => (members entry).mpr)
      fun entry member => .inl ((members entry).mp member)
  exact forward.eq_of_length_le backward.length_le

end

theorem prefix_grows (sorted : whole.Pairwise before) (longerSorted : longer.Pairwise before)
    (start : shorter <+: whole) (subset : ∀ entry ∈ whole, entry ∈ longer)
    (later : ∀ entry ∈ longer, entry ∈ whole ∨ ∀ old ∈ shorter, before old entry) :
    shorter <+: longer := by
  obtain ⟨rest, rfl⟩ := start
  obtain ⟨startSorted, -, between⟩ := pairwise_append.mp sorted
  refine prefix_of_later asymm startSorted longerSorted
    (fun entry member => subset entry (mem_append_left _ member)) fun entry member => ?_
  rcases later entry member with known | after
  · rcases mem_append.mp known with inStart | inRest
    · exact .inl inStart
    · exact .inr fun old oldMember => between old oldMember entry inRest
  · exact .inr after

end StrictOrder

end CouncilKit.Data
