import CouncilKit.Data.JsString

namespace CouncilKit.Data

open List

universe u v

variable {α : Type u} {κ : Type v} [DecidableEq κ]

theorem nodup_unique (values : List κ) : (unique values).Nodup := by
  induction length : values.length using Nat.strong_induction_on generalizing values with
  | _ count ih =>
    cases values with
    | nil => simp [unique]
    | cons value rest =>
      rw [unique, eraseDups_cons, nodup_cons]
      have shorter : (rest.filter fun other => !other == value).length < count := by
        rw [← length, length_cons]
        exact Nat.lt_succ_of_le (length_filter_le _ _)
      refine ⟨?_, ih _ shorter _ rfl⟩
      intro again
      have member := mem_unique.mp again
      simp at member

theorem flatMap_filter_perm (keyOf : α → κ) {keys : List κ} (nodup : keys.Nodup) (rows : List α) :
    (keys.flatMap fun key => rows.filter fun row => keyOf row = key).Perm
      (rows.filter fun row => keyOf row ∈ keys) := by
  induction keys with
  | nil => simp
  | cons key keys ih =>
    obtain ⟨fresh, later⟩ := nodup_cons.mp nodup
    rw [flatMap_cons]
    have split := filter_append_perm (fun row => decide (keyOf row = key))
      (rows.filter fun row => keyOf row ∈ key :: keys)
    refine List.Perm.trans ?_ split
    rw [filter_filter, filter_filter]
    have here : (rows.filter fun row => keyOf row = key) =
        rows.filter fun row => decide (keyOf row = key) && decide (keyOf row ∈ key :: keys) := by
      apply filter_congr
      intro row _
      by_cases same : keyOf row = key
      · simp [same]
      · simp [same]
    have there : (rows.filter fun row => keyOf row ∈ keys) =
        rows.filter fun row => !decide (keyOf row = key) && decide (keyOf row ∈ key :: keys) := by
      apply filter_congr
      intro row _
      by_cases same : keyOf row = key
      · simp [same, fresh]
      · simp [same]
    rw [← here, ← there]
    exact List.Perm.append_left _ (ih later)

def grouped (keyOf : α → κ) (rows : List α) : List α :=
  (unique (rows.map keyOf)).flatMap fun key => rows.filter fun row => keyOf row = key

theorem grouped_perm (keyOf : α → κ) (rows : List α) : (grouped keyOf rows).Perm rows := by
  have groups := flatMap_filter_perm keyOf (nodup_unique (rows.map keyOf)) rows
  have all : (rows.filter fun row => keyOf row ∈ unique (rows.map keyOf)) = rows := by
    rw [filter_eq_self]
    intro row member
    exact decide_eq_true (mem_unique.mpr (mem_map_of_mem member))
  rw [all] at groups
  exact groups

def firstsAfter (keyOf : α → κ) (seen : List κ) : List α → List α
  | [] => []
  | row :: rest =>
    if keyOf row ∈ seen then firstsAfter keyOf seen rest
    else row :: firstsAfter keyOf (keyOf row :: seen) rest

def firsts (keyOf : α → κ) (rows : List α) : List α := firstsAfter keyOf [] rows

theorem mem_of_mem_firstsAfter {keyOf : α → κ} {seen : List κ} {rows : List α} {row : α}
    (member : row ∈ firstsAfter keyOf seen rows) : row ∈ rows := by
  induction rows generalizing seen with
  | nil => exact member
  | cons other rest ih =>
    rw [firstsAfter] at member
    split at member
    · exact mem_cons_of_mem _ (ih member)
    · cases mem_cons.mp member with
      | inl here => exact here ▸ mem_cons_self
      | inr later => exact mem_cons_of_mem _ (ih later)

end CouncilKit.Data
