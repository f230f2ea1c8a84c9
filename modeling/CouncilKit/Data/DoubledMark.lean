import Mathlib

namespace CouncilKit.Data

universe u

variable {α : Type u} [DecidableEq α]

def blocks (mark : α) : List α → List (List α) × List α
  | [] => ([], [])
  | [unit] => ([], [unit])
  | unit :: next :: rest =>
    if unit = mark ∧ next = mark then ([] :: (blocks mark rest).1, (blocks mark rest).2)
    else match blocks mark (next :: rest) with
      | ([], left) => ([], unit :: left)
      | (first :: more, left) => ((unit :: first) :: more, left)

variable {mark : α}

theorem blocks_none {text : List α} (none_ : (blocks mark text).1 = []) : (blocks mark text).2 = text := by
  induction text with
  | nil => rfl
  | cons unit rest ih =>
    cases rest with
    | nil => rfl
    | cons next rest =>
      rw [blocks] at none_ ⊢
      split at none_
      · cases none_
      · rename_i plain
        rw [if_neg plain]
        split at none_
        · rename_i left found
          rw [found] at ih
          exact congrArg (unit :: ·) (ih rfl)
        · cases none_

theorem blocks_append (text more : List α) :
    blocks mark (text ++ more) = ((blocks mark text).1 ++ (blocks mark ((blocks mark text).2 ++ more)).1,
      (blocks mark ((blocks mark text).2 ++ more)).2) := by
  fun_induction blocks mark text with
  | case1 => rfl
  | case2 unit => rfl
  | case3 unit next rest double ih =>
    rw [List.cons_append, List.cons_append, blocks, if_pos double, ih]
    rfl
  | case4 unit next rest plain left found ih =>
    have whole : left = next :: rest := by
      have none_ : (blocks mark (next :: rest)).1 = [] := by rw [found]
      have same := blocks_none none_
      rwa [found] at same
    rw [whole]
    rfl
  | case5 unit next rest plain first others left found ih =>
    rw [found] at ih
    rw [List.cons_append, List.cons_append, blocks, if_neg plain, ← List.cons_append, ih]
    rfl

end CouncilKit.Data
