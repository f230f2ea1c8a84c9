import Mathlib

namespace CouncilKit.Data

open List

universe u v

theorem length_le_one_of_apart {α : Type u} {apart : α → α → Prop} {rows : List α}
    (pairs : rows.Pairwise apart)
    (same : ∀ row ∈ rows, ∀ other ∈ rows, ¬ apart row other) : rows.length ≤ 1 := by
  match rows with
  | [] => simp
  | [row] => simp
  | row :: other :: rest =>
    have first := (pairwise_cons.mp pairs).1 other mem_cons_self
    exact absurd first (same row mem_cons_self other (by simp))

structure Table {α : Type u} {κ : Type v} (keyOf : α → κ) where
  rows : List α
  unique : (rows.map keyOf).Nodup

namespace Table

variable {α : Type u} {κ : Type v} {keyOf : α → κ}

def empty : Table keyOf := ⟨[], nodup_nil⟩

def filter (table : Table keyOf) (keeps : α → Bool) : Table keyOf :=
  ⟨table.rows.filter keeps, table.unique.sublist (filter_sublist.map keyOf)⟩

def map (table : Table keyOf) (change : α → α) (same : ∀ row, keyOf (change row) = keyOf row) :
    Table keyOf :=
  ⟨table.rows.map change, by
    rw [map_map, show keyOf ∘ change = keyOf from funext same]
    exact table.unique⟩

variable {table : Table keyOf} {keeps : α → Bool} {row : α}

theorem mem_filter :
    row ∈ (table.filter keeps).rows ↔ row ∈ table.rows ∧ keeps row = true := List.mem_filter

variable {other : α}

theorem eq_of_key (member : row ∈ table.rows)
    (otherMember : other ∈ table.rows) (same : keyOf row = keyOf other) : row = other :=
  inj_on_of_nodup_map table.unique member otherMember same

theorem length_filter_le_one
    (same : ∀ row ∈ table.rows, ∀ other ∈ table.rows, keeps row = true → keeps other = true →
      keyOf row = keyOf other) : (table.rows.filter keeps).length ≤ 1 := by
  have apart := (pairwise_map.mp table.unique).filter keeps
  refine length_le_one_of_apart apart fun row member other otherMember different => ?_
  obtain ⟨stored, kept⟩ := List.mem_filter.mp member
  obtain ⟨otherStored, otherKept⟩ := List.mem_filter.mp otherMember
  exact different (same row stored other otherStored kept otherKept)

section

variable {becomes : α → α → Prop} {stays : α → Prop} {before middle after : Table keyOf}

/-- Every row that has to stay is still there, as what may become of it. -/
def Carries (becomes : α → α → Prop) (stays : α → Prop) (before after : Table keyOf) : Prop :=
  ∀ row ∈ before.rows, stays row → ∃ kept ∈ after.rows, becomes row kept

theorem Carries.trans
    (more : ∀ {first second third}, becomes first second → becomes second third → becomes first third)
    (still : ∀ {row kept}, becomes row kept → stays row → stays kept)
    (first : Carries becomes stays before middle) (second : Carries becomes stays middle after) :
    Carries becomes stays before after := by
  intro row member here
  obtain ⟨kept, present, become⟩ := first row member here
  obtain ⟨last, ended, became⟩ := second kept present (still become here)
  exact ⟨last, ended, more become became⟩

variable (same : ∀ row, becomes row row)

include same

theorem Carries.refl (unchanged : after = before) : Carries becomes stays before after := by
  subst unchanged
  exact fun row member _ => ⟨row, member, same row⟩

theorem Carries.filter (kept : ∀ row, stays row → keeps row = true) :
    Carries becomes stays before (before.filter keeps) :=
  fun row member here => ⟨row, mem_filter.mpr ⟨member, kept row here⟩, same row⟩

end

variable [DecidableEq κ]

def get (table : Table keyOf) (key : κ) : Option α :=
  table.rows.find? fun row => keyOf row = key

variable {key : κ}

theorem get_mem (found : table.get key = some row) :
    row ∈ table.rows ∧ keyOf row = key :=
  ⟨mem_of_find?_eq_some found, by simpa using List.find?_some found⟩

theorem get_eq_none :
    table.get key = none ↔ ∀ row ∈ table.rows, keyOf row ≠ key := by
  simp [get, List.find?_eq_none]

theorem get_of_mem (member : row ∈ table.rows) :
    table.get (keyOf row) = some row := by
  cases found : table.get (keyOf row) with
  | none => exact absurd rfl (get_eq_none.mp found row member)
  | some other =>
    obtain ⟨otherMember, same⟩ := get_mem found
    rw [eq_of_key otherMember member same]

variable {table : Table keyOf}

theorem get_eq_some {key : κ} {row : α} :
    table.get key = some row ↔ row ∈ table.rows ∧ keyOf row = key := by
  constructor
  · exact get_mem
  · intro present
    rw [← present.2]
    exact get_of_mem present.1

def replaceRow (rows : List α) (keyOf : α → κ) (row : α) : List α :=
  rows.map fun old => if keyOf old = keyOf row then row else old

theorem keys_replaceRow (rows : List α) (row : α) :
    (replaceRow rows keyOf row).map keyOf = rows.map keyOf := by
  rw [replaceRow, map_map]
  refine map_congr_left fun old _ => ?_
  simp only [Function.comp_apply]
  split
  · rename_i same
    exact same.symm
  · rfl

def put (table : Table keyOf) (row : α) : Table keyOf :=
  if present : keyOf row ∈ table.rows.map keyOf then
    ⟨replaceRow table.rows keyOf row, by rw [keys_replaceRow]; exact table.unique⟩
  else ⟨table.rows ++ [row], by
    rw [map_append]
    refine nodup_append.mpr ⟨table.unique, nodup_singleton _, ?_⟩
    intro key member other single
    rw [map_singleton, mem_singleton] at single
    subst single
    exact fun same => present (same ▸ member)⟩

def add (table : Table keyOf) (row : α) : Option (Table keyOf) :=
  if (table.get (keyOf row)).isSome then none else some (table.put row)

theorem add_eq_some {next : Table keyOf} :
    table.add row = some next ↔ table.get (keyOf row) = none ∧ table.put row = next := by
  rw [add]
  split
  · rename_i present
    simp only [reduceCtorEq, false_iff, not_and]
    intro absent
    simp [absent] at present
  · rename_i absent
    simp only [Option.not_isSome_iff_eq_none] at absent
    simp [absent]

theorem mem_put :
    other ∈ (table.put row).rows ↔ other = row ∨ other ∈ table.rows ∧ keyOf other ≠ keyOf row := by
  simp only [put]
  split
  · rename_i present
    simp only [replaceRow, mem_map]
    constructor
    · intro replaced
      obtain ⟨old, member, rfl⟩ := replaced
      split
      · exact .inl rfl
      · rename_i different
        exact .inr ⟨member, different⟩
    · intro wanted
      rcases wanted with rfl | ⟨member, different⟩
      · obtain ⟨old, member, same⟩ := mem_map.mp present
        exact ⟨old, member, if_pos same⟩
      · exact ⟨other, member, if_neg different⟩
  · rename_i absent
    simp only [mem_append, mem_singleton]
    constructor
    · intro appended
      rcases appended with member | same
      · exact .inr ⟨member, fun key => absent (key ▸ mem_map_of_mem member)⟩
      · exact .inl same
    · intro wanted
      rcases wanted with same | ⟨member, -⟩
      · exact .inr same
      · exact .inl member

theorem mem_put_elsewhere (elsewhere : other ≠ row) (kept : table.get (keyOf row) ≠ some other) :
    other ∈ (table.put row).rows ↔ other ∈ table.rows := by
  rw [mem_put]
  constructor
  · intro present
    rcases present with same | ⟨member, -⟩
    · exact absurd same elsewhere
    · exact member
  · intro member
    refine .inr ⟨member, fun same => kept ?_⟩
    rw [← same]
    exact get_of_mem member

theorem rows_put {row : α} (absent : table.get (keyOf row) = none) :
    (table.put row).rows = table.rows ++ [row] := by
  simp only [put]
  split
  · rename_i present
    obtain ⟨old, member, same⟩ := mem_map.mp present
    exact absurd same (get_eq_none.mp absent old member)
  · rfl

omit [DecidableEq κ] in
theorem ext_rows {other : Table keyOf} (same : table.rows = other.rows) : table = other := by
  cases table
  cases other
  cases same
  rfl

theorem put_put (same : keyOf row = keyOf other) :
    (table.put row).put other = table.put other := by
  apply ext_rows
  have again : keyOf other ∈ (table.put row).rows.map keyOf :=
    mem_map.mpr ⟨row, mem_put.mpr (.inl rfl), same⟩
  rw [put, dif_pos again]
  by_cases present : keyOf other ∈ table.rows.map keyOf
  · rw [put, dif_pos (same ▸ present), put, dif_pos present]
    simp only [replaceRow, map_map]
    apply map_congr_left
    intro old _
    simp only [Function.comp_apply, same]
    split
    · simp
    · rfl
  · rw [put, dif_neg (same ▸ present), put, dif_neg present]
    simp only [replaceRow, map_append, map_singleton, same, if_true]
    congr 1
    conv => rhs; rw [← map_id table.rows]
    apply map_congr_left
    intro old member
    refine if_neg fun key => present ?_
    rw [← key]
    exact mem_map_of_mem member

theorem get_put :
    (table.put row).get key = if key = keyOf row then some row else table.get key := by
  split
  · rename_i same
    exact get_eq_some.mpr ⟨mem_put.mpr (.inl rfl), same.symm⟩
  · rename_i different
    cases found : table.get key with
    | none =>
      refine get_eq_none.mpr fun other member => ?_
      rcases mem_put.mp member with rfl | ⟨old, -⟩
      · exact fun same => different same.symm
      · exact get_eq_none.mp found other old
    | some other =>
      obtain ⟨member, same⟩ := get_mem found
      exact get_eq_some.mpr ⟨mem_put.mpr (.inr ⟨member, same ▸ different⟩), same⟩

@[simp] theorem get_put_self :
    (table.put row).get (keyOf row) = some row := by
  rw [get_put, if_pos rfl]

theorem get_put_other (different : key ≠ keyOf row) :
    (table.put row).get key = table.get key := by
  rw [get_put, if_neg different]

theorem get_filter :
    (table.filter keeps).get key = (table.get key).filter keeps := by
  cases found : table.get key with
  | none =>
    refine get_eq_none.mpr fun row member => ?_
    exact get_eq_none.mp found row (mem_filter.mp member).1
  | some row =>
    obtain ⟨member, same⟩ := get_mem found
    cases kept : keeps row with
    | true =>
      simp only [Option.filter, kept, if_true]
      exact get_eq_some.mpr ⟨mem_filter.mpr ⟨member, kept⟩, same⟩
    | false =>
      simp only [Option.filter, kept, Bool.false_eq_true, if_false]
      refine get_eq_none.mpr fun other otherMember otherSame => ?_
      obtain ⟨old, oldKept⟩ := mem_filter.mp otherMember
      rw [eq_of_key old member (otherSame.trans same.symm), kept] at oldKept
      contradiction

theorem replaceRow_absent {rows : List α} (absent : keyOf row ∉ rows.map keyOf) :
    replaceRow rows keyOf row = rows := by
  conv => rhs; rw [← map_id rows]
  apply map_congr_left
  intro old member
  refine if_neg fun same => absent ?_
  rw [← same]
  exact mem_map_of_mem member

theorem sum_replaceRow {rows : List α} {old : α} (weight : α → Nat)
    (unique : (rows.map keyOf).Nodup) (member : old ∈ rows) (same : keyOf old = keyOf row) :
    ((replaceRow rows keyOf row).map weight).sum + weight old = (rows.map weight).sum + weight row := by
  induction rows with
  | nil => contradiction
  | cons head tail ih =>
    obtain ⟨fresh, tailUnique⟩ := nodup_cons.mp unique
    have step : replaceRow (head :: tail) keyOf row =
        (if keyOf head = keyOf row then row else head) :: replaceRow tail keyOf row := rfl
    rw [step, map_cons, map_cons, sum_cons, sum_cons]
    cases mem_cons.mp member with
    | inl here =>
      subst here
      rw [if_pos same, replaceRow_absent (same ▸ fresh)]
      omega
    | inr later =>
      have different : keyOf head ≠ keyOf row := by
        intro key
        refine fresh ?_
        rw [key, ← same]
        exact mem_map_of_mem later
      have rest := ih tailUnique later
      rw [if_neg different]
      omega

theorem length_put_le {row : α} :
    (table.put row).rows.length ≤ table.rows.length + 1 := by
  simp only [put]
  split
  · simp [replaceRow]
  · simp

theorem sum_put {old : α} (weight : α → Nat) (found : table.get (keyOf row) = some old) :
    ((table.put row).rows.map weight).sum + weight old = (table.rows.map weight).sum + weight row := by
  obtain ⟨member, same⟩ := get_mem found
  have present : keyOf row ∈ table.rows.map keyOf := by
    rw [← same]
    exact mem_map_of_mem member
  rw [put, dif_pos present]
  exact sum_replaceRow weight table.unique member same

variable {becomes : α → α → Prop} {stays : α → Prop} {before : Table keyOf}
  (same : ∀ row, becomes row row)

include same

theorem Carries.put {new : α} (fits : ∀ old, before.get (keyOf new) = some old → becomes old new) :
    Carries becomes stays before (before.put new) := by
  intro row member _
  by_cases key : keyOf row = keyOf new
  · exact ⟨new, mem_put.mpr (.inl rfl), fits row (key ▸ get_of_mem member)⟩
  · exact ⟨row, mem_put.mpr (.inr ⟨member, key⟩), same row⟩

theorem Carries.add {new : α} (absent : before.get (keyOf new) = none) :
    Carries becomes stays before (before.put new) := by
  refine .put same fun old stored => ?_
  rw [absent] at stored
  cases stored

end Table

end CouncilKit.Data
