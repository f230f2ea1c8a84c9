import Mathlib

namespace CouncilKit.Data

open List

variable {α : Type*} (same : α → α → Bool) (merge : α → α → α)

def place : List α → α → List α
  | [], item => [item]
  | other :: rest, item =>
    if same other item then merge other item :: rest else other :: place rest item

/-- The items, with their positions, that one kept item was made of. -/
structure MergeGroup (α : Type*) where
  first : α × Nat
  later : List (α × Nat) := []

namespace MergeGroup

def members (group : MergeGroup α) : List (α × Nat) := group.first :: group.later

def item (group : MergeGroup α) : α :=
  group.later.foldl (fun item entry => merge item entry.1) group.first.1

variable (entry : α × Nat) (group : MergeGroup α)

def add : MergeGroup α :=
  { group with later := group.later ++ [entry] }

theorem item_add :
    (group.add entry).item merge = merge (group.item merge) entry.1 := by
  rw [item, item, add, foldl_append]
  rfl

theorem members_add :
    (group.add entry).members = group.members ++ [entry] := rfl

end MergeGroup

def placeGroup : List (MergeGroup α) → α × Nat → List (MergeGroup α)
  | [], entry => [{ first := entry }]
  | group :: rest, entry =>
    if same (group.item merge) entry.1 then group.add entry :: rest
    else group :: placeGroup rest entry

def mergeGroups (items : List α) : List (MergeGroup α) :=
  items.zipIdx.foldl (placeGroup same merge) []

variable {same merge}

theorem placeGroup_items (groups : List (MergeGroup α)) (entry : α × Nat) :
    (placeGroup same merge groups entry).map (MergeGroup.item merge) =
      place same merge (groups.map (MergeGroup.item merge)) entry.1 := by
  induction groups with
  | nil => rfl
  | cons group rest ih =>
    rw [placeGroup, map_cons, place]
    split
    · rw [map_cons, MergeGroup.item_add]
    · rw [map_cons, ih]

theorem foldl_placeGroup_items (entries : List (α × Nat)) (groups : List (MergeGroup α)) :
    (entries.foldl (placeGroup same merge) groups).map (MergeGroup.item merge) =
      (entries.map (·.1)).foldl (place same merge) (groups.map (MergeGroup.item merge)) := by
  induction entries generalizing groups with
  | nil => rfl
  | cons entry rest ih =>
    rw [foldl_cons, ih, placeGroup_items]
    rfl

theorem mergeGroups_items (items : List α) :
    (mergeGroups same merge items).map (MergeGroup.item merge) = items.foldl (place same merge) [] := by
  rw [mergeGroups, foldl_placeGroup_items, zipIdx_map_fst]
  rfl

theorem placeGroup_perm (groups : List (MergeGroup α)) (entry : α × Nat) :
    ((placeGroup same merge groups entry).flatMap MergeGroup.members).Perm
      (groups.flatMap MergeGroup.members ++ [entry]) := by
  induction groups with
  | nil => exact List.Perm.refl _
  | cons group rest ih =>
    rw [placeGroup, flatMap_cons]
    split
    · rw [flatMap_cons, MergeGroup.members_add, append_assoc, append_assoc]
      exact (perm_append_comm).append_left _
    · rw [flatMap_cons, append_assoc]
      exact ih.append_left _

theorem foldl_placeGroup_perm (entries : List (α × Nat)) (groups : List (MergeGroup α)) :
    ((entries.foldl (placeGroup same merge) groups).flatMap MergeGroup.members).Perm
      (groups.flatMap MergeGroup.members ++ entries) := by
  induction entries generalizing groups with
  | nil =>
    rw [append_nil]
    exact List.Perm.refl _
  | cons entry rest ih =>
    have step := (@placeGroup_perm _ same merge groups entry).append_right rest
    rw [append_assoc] at step
    exact (ih _).trans step

theorem mergeGroups_perm (items : List α) :
    ((mergeGroups same merge items).flatMap MergeGroup.members).Perm items.zipIdx :=
  foldl_placeGroup_perm items.zipIdx []

variable {groups : List (MergeGroup α)} {entry : α × Nat} {holds : MergeGroup α → Prop}

theorem placeGroup_forall
    (base : ∀ group ∈ groups, holds group) (founded : holds { first := entry })
    (added : ∀ group, same (group.item merge) entry.1 = true → holds group → holds (group.add entry)) :
    ∀ group ∈ placeGroup same merge groups entry, holds group := by
  induction groups with
  | nil => exact forall_mem_singleton.mpr founded
  | cons group rest ih =>
    have here := base group mem_cons_self
    have later := fun other among => base other (mem_cons_of_mem _ among)
    rw [placeGroup]
    split
    · rename_i joins
      exact forall_mem_cons.mpr ⟨added group joins here, later⟩
    · exact forall_mem_cons.mpr ⟨here, ih later⟩

theorem foldl_placeGroup_forall {entries : List (α × Nat)}
    (base : ∀ group ∈ groups, holds group) (founded : ∀ entry, holds { first := entry })
    (added : ∀ group entry, same (group.item merge) entry.1 = true → holds group →
      holds (group.add entry)) :
    ∀ group ∈ entries.foldl (placeGroup same merge) groups, holds group := by
  induction entries generalizing groups with
  | nil => exact base
  | cons entry rest ih =>
    exact ih (placeGroup_forall base (founded entry) fun group => added group entry)

theorem mergeGroups_represents {represents : α → α → Prop} (items : List α)
    (itself : ∀ item, represents item item)
    (old : ∀ kept item member, same kept item = true → represents kept member →
      represents (merge kept item) member)
    (new : ∀ kept item, same kept item = true → represents (merge kept item) item) :
    ∀ group ∈ mergeGroups same merge items, ∀ member ∈ group.members,
      represents (group.item merge) member.1 := by
  have none_ : ∀ group ∈ ([] : List (MergeGroup α)), ∀ member ∈ group.members,
      represents (group.item merge) member.1 := forall_mem_nil _
  apply foldl_placeGroup_forall none_
  · intro entry
    exact forall_mem_singleton.mpr (itself entry.1)
  · intro group entry joins represented member among
    rw [MergeGroup.item_add]
    rw [MergeGroup.members_add] at among
    rcases mem_append.mp among with before | last
    · exact old _ _ _ joins (represented member before)
    · rw [mem_singleton.mp last]
      exact new _ _ joins

def Touched (left right : MergeGroup α) : Prop :=
  ∃ member ∈ left.members ++ right.later, right.first.2 < member.2

variable {left right : MergeGroup α}

theorem Touched.of_add_left
    (late : right.first.2 < entry.2) : Touched (left.add entry) right :=
  ⟨entry, mem_append_left _ (by
    rw [MergeGroup.members_add]
    exact mem_append_right _ mem_cons_self), late⟩

theorem Touched.of_add_right
    (late : right.first.2 < entry.2) : Touched left (right.add entry) :=
  ⟨entry, mem_append_right _ (mem_append_right _ mem_cons_self), late⟩

def Apart (same : α → α → Bool) (merge : α → α → α) (left right : MergeGroup α) : Prop :=
  same (left.item merge) (right.item merge) = true → Touched left right

theorem mem_placeGroup {group : MergeGroup α} (member : group ∈ placeGroup same merge groups entry) :
    group ∈ groups ∨ (∃ old ∈ groups, group = old.add entry) ∨ group = { first := entry } := by
  induction groups with
  | nil => exact Or.inr (Or.inr (mem_singleton.mp member))
  | cons first rest ih =>
    rw [placeGroup] at member
    split at member
    · rcases mem_cons.mp member with here | later
      · exact Or.inr (Or.inl ⟨first, mem_cons_self, here⟩)
      · exact Or.inl (mem_cons_of_mem _ later)
    · rcases mem_cons.mp member with here | later
      · exact Or.inl (here ▸ mem_cons_self)
      · rcases ih later with old | ⟨old, among, grown⟩ | new
        · exact Or.inl (mem_cons_of_mem _ old)
        · exact Or.inr (Or.inl ⟨old, mem_cons_of_mem _ among, grown⟩)
        · exact Or.inr (Or.inr new)

theorem placeGroup_apart (before : ∀ group ∈ groups, group.first.2 < entry.2)
    (apart : groups.Pairwise (Apart same merge)) :
    (placeGroup same merge groups entry).Pairwise (Apart same merge) := by
  induction groups with
  | nil => exact pairwise_singleton _ _
  | cons group rest ih =>
    obtain ⟨first, others⟩ := pairwise_cons.mp apart
    have later := fun other among => before other (mem_cons_of_mem _ among)
    rw [placeGroup]
    split
    · apply pairwise_cons.mpr ⟨?_, others⟩
      intro other among _
      exact Touched.of_add_left (later other among)
    · rename_i differs
      apply pairwise_cons.mpr ⟨?_, ih later others⟩
      intro other among joins
      rcases mem_placeGroup among with old | ⟨old, listed, rfl⟩ | rfl
      · exact first other old joins
      · exact Touched.of_add_right (later old listed)
      · exact absurd joins differs

theorem foldl_placeGroup_apart {items : List α} {start : Nat}
    (before : ∀ group ∈ groups, group.first.2 < start)
    (apart : groups.Pairwise (Apart same merge)) :
    ((items.zipIdx start).foldl (placeGroup same merge) groups).Pairwise (Apart same merge) := by
  induction items generalizing start groups with
  | nil => exact apart
  | cons item rest ih =>
    rw [zipIdx_cons, foldl_cons]
    apply ih
    · intro group member
      rcases mem_placeGroup member with old | ⟨old, listed, rfl⟩ | rfl
      · exact Nat.lt_succ_of_lt (before group old)
      · exact Nat.lt_succ_of_lt (before old listed)
      · exact Nat.lt_succ_self start
    · exact placeGroup_apart before apart

theorem mergeGroups_apart (items : List α) : (mergeGroups same merge items).Pairwise (Apart same merge) :=
  foldl_placeGroup_apart (forall_mem_nil _) List.Pairwise.nil

theorem place_apart {kept : List α} {item : α} (apart : ∀ other ∈ kept, same other item = false) :
    place same merge kept item = kept ++ [item] := by
  induction kept with
  | nil => rfl
  | cons other rest ih =>
    have differs := apart other mem_cons_self
    have tail := ih fun later among => apart later (mem_cons_of_mem _ among)
    rw [place, differs, if_neg Bool.false_ne_true, tail]
    rfl

theorem foldl_place_apart {items kept : List α}
    (apart : (kept ++ items).Pairwise fun left right => same left right = false) :
    items.foldl (place same merge) kept = kept ++ items := by
  induction items generalizing kept with
  | nil => exact (append_nil kept).symm
  | cons item rest ih =>
    have before : ∀ other ∈ kept, same other item = false := by
      intro other among
      exact (pairwise_append.mp apart).2.2 other among item mem_cons_self
    rw [foldl_cons, place_apart before]
    rw [append_cons] at apart
    rw [ih apart, ← append_cons]

end CouncilKit.Data
