import CouncilKit.Data.Utf8Encode

namespace CouncilKit.Data.JsString

open Utf8 List

/-- `clipUtf16(value, max, suffix)`; a suffix that does not fit is clipped by the default call. -/
def clipUtf16Before (value : JsString) (max : Nat) (suffix : JsString) : JsString :=
  if max = 0 then []
  else if value.length ≤ max then value
  else
    let budget := max - suffix.length
    if budget = 0 then if suffix.length ≤ max then suffix else suffix.clipUtf16 max
    else
      let budget := if isHighSurrogate (value.getD (budget - 1) 0) then budget - 1 else budget
      value.take budget ++ suffix

/-- `clipUtf16Tail(value, max, prefix)` -/
def clipUtf16Tail (value : JsString) (max : Nat) (front : JsString) : JsString :=
  if max = 0 then []
  else if value.length ≤ max then value
  else
    let budget := max - front.length
    if budget = 0 then if front.length ≤ max then front else front.clipUtf16 max
    else
      let start := value.length - budget
      let start := if isLowSurrogate (value.getD start 0) then start + 1 else start
      if value.length ≤ start then front else front ++ value.drop start

variable {value : JsString}

variable {unit : CodeUnit}

theorem single_eq : single unit = unit ↔ isSurrogate unit = false := by
  unfold single
  split
  · rename_i half
    refine ⟨fun same => ?_, fun whole => by simp [half] at whole⟩
    rw [← same]
    decide
  · rename_i whole
    exact ⟨fun _ => by simpa using whole, fun _ => rfl⟩

theorem not_high (whole : isSurrogate unit = false) :
    isHighSurrogate unit = false := (Bool.or_eq_false_iff.mp whole).1

theorem not_low (whole : isSurrogate unit = false) :
    isLowSurrogate unit = false := (Bool.or_eq_false_iff.mp whole).2

theorem low_not_high (low : isLowSurrogate unit = true) :
    isHighSurrogate unit = false := by
  simp only [isLowSurrogate, Bool.and_eq_true, decide_eq_true_eq, UInt16.le_iff_toNat_le] at low
  simp only [isHighSurrogate, Bool.and_eq_false_iff, decide_eq_false_iff_not, UInt16.le_iff_toNat_le]
  have least : 0xDC00 ≤ unit.toNat := low.1
  have most : ¬ unit.toNat ≤ 0xDBFF := by omega
  exact .inr most

theorem high_not_low (high : isHighSurrogate unit = true) :
    isLowSurrogate unit = false := by
  cases low : isLowSurrogate unit with
  | false => rfl
  | true => rw [low_not_high low] at high; exact high.symm

theorem wellFormed_cons {rest : JsString} (lone : isSurrogate unit = false) :
    wellFormed (unit :: rest) = unit :: wellFormed rest := by
  cases rest with
  | nil => simp only [wellFormed, single_eq.mpr lone]
  | cons second rest =>
    rw [wellFormed, not_high lone, Bool.false_and, if_neg Bool.false_ne_true, single_eq.mpr lone]

theorem wellFormed_take (whole : wellFormed value = value) (index : Nat) :
    if isHighSurrogate (value.getD index 0) then wellFormed (value.take index) = value.take index
    else wellFormed (value.take (index + 1)) = value.take (index + 1) := by
  induction value using wellFormed.induct generalizing index with
  | case1 =>
    rw [if_neg (by simp [isHighSurrogate])]
    rfl
  | case2 unit =>
    have lone := single_eq.mp (List.cons.inj whole).1
    cases index with
    | zero => simp [not_high lone, whole]
    | succ index => simp [isHighSurrogate, whole]
  | case3 first second rest pair ih =>
    rw [wellFormed, if_pos pair] at whole
    have inner := (List.cons.inj (List.cons.inj whole).2).2
    obtain ⟨high, low⟩ := Bool.and_eq_true_iff.mp pair
    cases index with
    | zero => simp [high, wellFormed]
    | succ index =>
      cases index with
      | zero => simp [low_not_high low, wellFormed, high, low]
      | succ index =>
        have step := ih inner index
        simp only [getD_cons_succ, take_succ_cons, wellFormed, if_pos pair,
          List.cons.injEq, true_and]
        exact step
  | case4 first second rest apart ih =>
    rw [wellFormed, if_neg apart] at whole
    obtain ⟨same, inner⟩ := List.cons.inj whole
    have lone := single_eq.mp same
    cases index with
    | zero => simp [not_high lone, wellFormed, same]
    | succ index =>
      have step := ih inner index
      have shorter (count : Nat) : (first :: second :: rest).take (count + 1) =
          first :: (second :: rest).take count := rfl
      simp only [getD_cons_succ, shorter, wellFormed_cons lone, List.cons.injEq, true_and]
      exact step

theorem wellFormed_drop (whole : wellFormed value = value) (index : Nat) :
    if isLowSurrogate (value.getD index 0) then
      wellFormed (value.drop (index + 1)) = value.drop (index + 1)
    else wellFormed (value.drop index) = value.drop index := by
  induction value using wellFormed.induct generalizing index with
  | case1 => simp [isLowSurrogate, wellFormed]
  | case2 unit =>
    have lone := single_eq.mp (List.cons.inj whole).1
    cases index with
    | zero => simp [not_low lone, whole]
    | succ index => simp [isLowSurrogate, wellFormed]
  | case3 first second rest pair ih =>
    have whole' := whole
    rw [wellFormed, if_pos pair] at whole'
    have inner := (List.cons.inj (List.cons.inj whole').2).2
    obtain ⟨high, low⟩ := Bool.and_eq_true_iff.mp pair
    cases index with
    | zero => simp [high_not_low high, whole]
    | succ index =>
      cases index with
      | zero => simp [low, inner]
      | succ index => exact ih inner index
  | case4 first second rest apart ih =>
    have whole' := whole
    rw [wellFormed, if_neg apart] at whole'
    obtain ⟨same, inner⟩ := List.cons.inj whole'
    cases index with
    | zero => simp [not_low (single_eq.mp same), whole]
    | succ index => exact ih inner index

theorem clipUtf16_front (value : JsString) (max : Nat) :
    value.clipUtf16Before max [] <+: value ∧ (value.clipUtf16Before max []).length ≤ max ∧
      min value.length max ≤ (value.clipUtf16Before max []).length + 1 ∧
      (wellFormed value = value →
        wellFormed (value.clipUtf16Before max []) = value.clipUtf16Before max []) := by
  unfold clipUtf16Before
  split
  · rename_i zero
    exact ⟨ nil_prefix, Nat.zero_le _, by simp [zero], fun _ => rfl⟩
  · rename_i positive
    split
    · rename_i fits
      exact ⟨prefix_refl _, fits, by omega, id⟩
    · rename_i long
      simp only [length_nil, Nat.sub_zero, if_neg positive, append_nil]
      refine ⟨ take_prefix _ _, ?_, ?_, fun whole => ?_⟩
      · rw [length_take]
        split <;> omega
      · rw [length_take]
        split <;> omega
      · have cut := wellFormed_take whole (max - 1)
        rw [Nat.sub_add_cancel (by omega)] at cut
        split
        · rename_i high
          rwa [if_pos high] at cut
        · rename_i high
          rwa [if_neg high] at cut

theorem clipUtf16Tail_end (value : JsString) (max : Nat) :
    value.clipUtf16Tail max [] <:+ value ∧ (value.clipUtf16Tail max []).length ≤ max ∧
      min value.length max ≤ (value.clipUtf16Tail max []).length + 1 ∧
      (wellFormed value = value →
        wellFormed (value.clipUtf16Tail max []) = value.clipUtf16Tail max []) := by
  unfold clipUtf16Tail
  split
  · rename_i zero
    exact ⟨nil_suffix, Nat.zero_le _, by simp [zero], fun _ => rfl⟩
  · rename_i positive
    split
    · rename_i fits
      exact ⟨suffix_refl _, fits, by omega, id⟩
    · rename_i long
      simp only [length_nil, Nat.sub_zero, if_neg positive, nil_append]
      have shown (start : Nat) :
          (if value.length ≤ start then [] else value.drop start) = value.drop start := by
        split
        · rename_i past
          exact (drop_of_length_le past).symm
        · rfl
      rw [shown]
      refine ⟨drop_suffix _ _, ?_, ?_, fun whole => ?_⟩
      · rw [length_drop]
        split <;> omega
      · rw [length_drop]
        split <;> omega
      · have cut := wellFormed_drop whole (value.length - max)
        split
        · rename_i low
          rwa [if_pos low] at cut
        · rename_i low
          rwa [if_neg low] at cut

theorem clipUtf16_clips (value : JsString) (max : Nat) :
    (value.clipUtf16Before max [] <+: value ∧ value.clipUtf16Tail max [] <:+ value) ∧
      ((value.clipUtf16Before max []).length ≤ max ∧ (value.clipUtf16Tail max []).length ≤ max) ∧
      (wellFormed value = value → wellFormed (value.clipUtf16Before max []) = value.clipUtf16Before max [] ∧
        wellFormed (value.clipUtf16Tail max []) = value.clipUtf16Tail max []) ∧
      min value.length max ≤ (value.clipUtf16Before max []).length + 1 ∧
      min value.length max ≤ (value.clipUtf16Tail max []).length + 1 := by
  obtain ⟨front, short, least, whole⟩ := clipUtf16_front value max
  obtain ⟨end_, short', least', whole'⟩ := clipUtf16Tail_end value max
  exact ⟨⟨front, end_⟩, ⟨short, short'⟩, fun same => ⟨whole same, whole' same⟩, least, least'⟩

end CouncilKit.Data.JsString
