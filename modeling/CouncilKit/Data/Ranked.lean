import Mathlib

namespace CouncilKit.Data

open List

structure Ranked (α : Type*) where
  rank : Nat
  value : α

namespace Ranked

variable {α : Type*} {first second third : Ranked α}

def pick (earlier later : Ranked α) : Ranked α := if later.rank < earlier.rank then earlier else later

theorem pick_earlier (lower : second.rank < first.rank) : pick first second = first := if_pos lower

theorem pick_later (atLeast : first.rank ≤ second.rank) : pick first second = second :=
  if_neg (by omega)

@[simp] theorem rank_pick : (pick first second).rank = max first.rank second.rank := by
  by_cases lower : second.rank < first.rank
  · rw [pick_earlier lower]
    omega
  · rw [pick_later (by omega)]
    omega

theorem pick_assoc : pick (pick first second) third = pick first (pick second third) := by
  by_cases low : third.rank < second.rank
  · rw [pick_earlier low]
    apply pick_earlier
    rw [rank_pick]
    omega
  · rw [@pick_later _ second third (by omega)]
    by_cases lower : third.rank < first.rank
    · rw [pick_earlier lower, @pick_earlier _ first second (by omega), pick_earlier lower]
    · rw [@pick_later _ first third (by omega)]
      apply pick_later
      rw [rank_pick]
      omega

theorem pick_comm (apart : first.rank ≠ second.rank) : pick first second = pick second first := by
  by_cases lower : second.rank < first.rank
  · rw [pick_earlier lower, pick_later (by omega)]
  · rw [pick_later (by omega), pick_earlier (by omega)]

def join : Option (Ranked α) → Option (Ranked α) → Option (Ranked α)
  | none, later => later
  | some earlier, none => some earlier
  | some earlier, some later => some (pick earlier later)

variable {left right other : Option (Ranked α)}

@[simp] theorem none_join : join none right = right := rfl

@[simp] theorem join_none : join left none = left := by
  cases left <;> rfl

theorem join_assoc : join (join left right) other = join left (join right other) := by
  cases left with
  | none => rfl
  | some first =>
    cases right with
    | none => rfl
    | some second =>
      cases other with
      | none => rfl
      | some third => exact congrArg some pick_assoc

theorem join_comm (apart : ∀ first second, left = some first → right = some second →
    first.rank ≠ second.rank) : join left right = join right left := by
  cases left with
  | none => simp
  | some first =>
    cases right with
    | none => simp
    | some second => exact congrArg some (pick_comm (apart first second rfl rfl))

theorem join_exchange {last : Option (Ranked α)} (apart : ∀ second third, right = some second →
    other = some third → second.rank ≠ third.rank) :
    join (join left right) (join other last) = join (join left other) (join right last) := by
  calc join (join left right) (join other last)
      = join left (join (join right other) last) := by rw [join_assoc, join_assoc]
    _ = join left (join (join other right) last) := by rw [join_comm apart]
    _ = join (join left other) (join right last) := by rw [join_assoc, join_assoc]

def best (values : List (Ranked α)) : Option (Ranked α) :=
  values.foldr (fun value rest => join (some value) rest) none

@[simp] theorem best_nil : best ([] : List (Ranked α)) = none := rfl

variable {values : List (Ranked α)}

@[simp] theorem best_cons :
    best (first :: values) = join (some first) (best values) := rfl

theorem best_append {values more : List (Ranked α)} :
    best (values ++ more) = join (best values) (best more) := by
  induction values with
  | nil => rfl
  | cons value rest ih => rw [cons_append, best_cons, ih, best_cons, join_assoc]

theorem best_eq_none : best values = none ↔ values = [] := by
  cases values with
  | nil => simp
  | cons value rest =>
    simp only [best_cons, reduceCtorEq, iff_false]
    cases best rest with
    | none => simp
    | some later => simp [join]

theorem best_some {chosen : Ranked α} (found : best values = some chosen) :
    chosen ∈ values ∧ ∀ value ∈ values, value.rank ≤ chosen.rank := by
  induction values generalizing chosen with
  | nil => cases found
  | cons value rest ih =>
    rw [best_cons] at found
    cases later : best rest with
    | none =>
      rw [later, join_none] at found
      cases found
      rw [best_eq_none.mp later]
      simp
    | some kept =>
      rw [later] at found
      obtain ⟨member, bound⟩ := ih later
      have rank : chosen.rank = max value.rank kept.rank := by
        rw [← Option.some.inj found, rank_pick]
      constructor
      · have choice : chosen = pick value kept := (Option.some.inj found).symm
        rw [pick] at choice
        split at choice
        · exact choice ▸ mem_cons_self
        · exact choice ▸ mem_cons_of_mem _ member
      · intro other inside
        rcases mem_cons.mp inside with here | there
        · subst here
          omega
        · have below := bound other there
          omega

def joined (values : List (Option (Ranked α))) : Option (Ranked α) := best values.reduceOption

def latest (values : List (Option (Ranked α))) : Option (Ranked α) :=
  values.foldl (fun held value => value.or held) none

variable {values before after : List (Option (Ranked α))} {value : Ranked α}

theorem joined_append : joined (before ++ after) = join (joined before) (joined after) := by
  rw [joined, reduceOption_append, best_append]
  rfl

@[simp] theorem joined_singleton : joined [right] = right := by
  cases right with
  | none => rfl
  | some value => rfl

theorem joined_silent (silent : ∀ value ∈ values, value = none) : joined values = none := by
  rw [joined, best_eq_none, List.reduceOption, filterMap_eq_nil_iff]
  exact silent

theorem latest_snoc : latest (values ++ [right]) = right.or (latest values) := by
  rw [latest, foldl_append]
  rfl

theorem latest_silent (silent : ∀ value ∈ after, value = none) :
    latest (before ++ after) = latest before := by
  induction after using List.reverseRecOn with
  | nil => rw [append_nil]
  | append_singleton rest last ih =>
    have missing : last = none := silent last (by simp)
    rw [← append_assoc, latest_snoc, missing, Option.none_or,
      ih fun value member => silent value (by simp [member])]

theorem silent_or_last (values : List (Option (Ranked α))) :
    (∀ value ∈ values, value = none) ∨ ∃ before last after,
      values = before ++ some last :: after ∧ ∀ value ∈ after, value = none := by
  induction values with
  | nil => exact .inl (by simp)
  | cons head rest ih =>
    rcases ih with silent | found
    · cases head with
      | none =>
        apply Or.inl
        intro value member
        rcases mem_cons.mp member with here | there
        · exact here
        · exact silent value there
      | some last => exact .inr ⟨[], last, rest, rfl, silent⟩
    · obtain ⟨before, last, after, split, silent⟩ := found
      exact .inr ⟨head :: before, last, after, by rw [split, cons_append], silent⟩

theorem latest_last (silent : ∀ value ∈ after, value = none) :
    latest (before ++ some value :: after) = some value := by
  rw [append_cons, latest_silent silent, latest_snoc]
  rfl

theorem joined_last (silent : ∀ value ∈ after, value = none) :
    joined (before ++ some value :: after) = join (joined before) (some value) := by
  rw [append_cons, joined_append, joined_silent silent, join_none, joined_append]
  rfl

theorem joined_some (found : joined values = some value) :
    some value ∈ values ∧ ∀ other, some other ∈ values → other.rank ≤ value.rank := by
  obtain ⟨member, bound⟩ := best_some found
  constructor
  · exact reduceOption_mem_iff.mp member
  · exact fun other inside => bound other (reduceOption_mem_iff.mpr inside)

end Ranked

end CouncilKit.Data
