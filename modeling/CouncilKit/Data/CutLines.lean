import CouncilKit.Data.Utf8Stream

namespace CouncilKit.Data

open JsString List

universe u

section

variable {α : Type u} [DecidableEq α]

def cut (mark : α) : List α → List (List α) × List α
  | [] => ([], [])
  | unit :: rest =>
    if unit = mark then ([] :: (cut mark rest).1, (cut mark rest).2)
    else match cut mark rest with
      | ([], left) => ([], unit :: left)
      | (first :: more, left) => ((unit :: first) :: more, left)

def hold (front : List α) : List (List α) × List α → List (List α) × List α
  | ([], left) => ([], front ++ left)
  | (first :: more, left) => ((front ++ first) :: more, left)

def unlines (mark : α) (lines : List (List α)) (left : List α) : List α :=
  lines.foldr (fun line text => line ++ mark :: text) left

variable {mark : α}

theorem cut_mark (text : List α) : cut mark (mark :: text) = ([] :: (cut mark text).1, (cut mark text).2) := by
  rw [cut, if_pos rfl]

theorem cut_unit {unit : α} (other : unit ≠ mark) (text : List α) :
    cut mark (unit :: text) = hold [unit] (cut mark text) := by
  rw [cut, if_neg other]
  cases cut mark text with
  | mk lines left =>
    cases lines with
    | nil => rfl
    | cons first more => rfl

omit [DecidableEq α] in
theorem hold_hold (before front : List α) (found : List (List α) × List α) :
    hold before (hold front found) = hold (before ++ front) found := by
  cases found with
  | mk lines left =>
    cases lines with
    | nil => simp [hold]
    | cons first more => simp [hold]

omit [DecidableEq α] in
theorem hold_nil (found : List (List α) × List α) : hold [] found = found := by
  cases found with
  | mk lines left =>
    cases lines with
    | nil => rfl
    | cons first more => rfl

theorem cut_front {front : List α} (clean : mark ∉ front) (text : List α) :
    cut mark (front ++ text) = hold front (cut mark text) := by
  induction front with
  | nil => exact (hold_nil _).symm
  | cons unit rest ih =>
    rw [mem_cons, not_or] at clean
    rw [cons_append, cut_unit (fun same => clean.1 same.symm), ih clean.2, hold_hold]
    rfl

theorem cut_clean {text : List α} (clean : mark ∉ text) : cut mark text = ([], text) := by
  have whole := @cut_front _ _ mark text clean []
  rw [append_nil] at whole
  rw [whole, cut, hold, append_nil]

theorem cut_line {line : List α} (clean : mark ∉ line) (text : List α) :
    cut mark (line ++ mark :: text) = (line :: (cut mark text).1, (cut mark text).2) := by
  rw [cut_front clean, cut_mark, hold, append_nil]

theorem unlines_cut (text : List α) : unlines mark (cut mark text).1 (cut mark text).2 = text := by
  induction text with
  | nil => rfl
  | cons unit rest ih =>
    by_cases same : unit = mark
    · rw [same, cut_mark, unlines, foldr_cons]
      exact congrArg (mark :: ·) ih
    · rw [cut_unit same]
      cases found : cut mark rest with
      | mk lines left =>
        rw [found] at ih
        cases lines with
        | nil => exact congrArg (unit :: ·) ih
        | cons first more => exact congrArg (unit :: ·) ih

theorem clean_cut (text : List α) : (∀ line ∈ (cut mark text).1, mark ∉ line) ∧ mark ∉ (cut mark text).2 := by
  induction text with
  | nil => exact ⟨forall_mem_nil _, not_mem_nil⟩
  | cons unit rest ih =>
    by_cases same : unit = mark
    · rw [same, cut_mark]
      exact ⟨forall_mem_cons.mpr ⟨not_mem_nil, ih.1⟩, ih.2⟩
    · rw [cut_unit same]
      have other : mark ∉ [unit] := by
        rw [mem_singleton]
        exact fun again => same again.symm
      cases found : cut mark rest with
      | mk lines left =>
        rw [found] at ih
        cases lines with
        | nil => exact ⟨ih.1, fun member => (mem_append.mp member).elim other ih.2⟩
        | cons first more =>
          have each := forall_mem_cons.mp ih.1
          refine ⟨forall_mem_cons.mpr ⟨?_, each.2⟩, ih.2⟩
          exact fun member => (mem_append.mp member).elim other each.1

theorem cut_append (text more : List α) :
    cut mark (text ++ more) =
      ((cut mark text).1 ++ (cut mark ((cut mark text).2 ++ more)).1,
        (cut mark ((cut mark text).2 ++ more)).2) := by
  obtain ⟨clean, last⟩ := @clean_cut _ _ mark text
  have whole := @unlines_cut _ _ mark text
  generalize (cut mark text).1 = lines at clean whole ⊢
  generalize (cut mark text).2 = left at last whole ⊢
  subst whole
  induction lines with
  | nil => rfl
  | cons line rest ih =>
    rw [forall_mem_cons] at clean
    rw [unlines, foldr_cons, append_assoc, cons_append, cut_line clean.1]
    change (line :: (cut mark (unlines mark rest left ++ more)).1,
      (cut mark (unlines mark rest left ++ more)).2) = _
    rw [ih clean.2]
    rfl

end

namespace Utf8

theorem push_line {decoder : Decoder} (sound : decoder.Sound) :
    decoder.push 0xA = (decoder.finish ++ [0xA], {}) := by
  unfold Decoder.push Decoder.finish
  split
  · rename_i free
    rfl
  · rename_i owed
    have outside : ¬ (decoder.lower ≤ 0xA ∧ 0xA ≤ decoder.upper) := by
      rintro ⟨low, _⟩
      rcases sound with free | ⟨least, _⟩
      · exact owed free
      · rw [UInt8.le_iff_toNat_le] at low
        have ten : (0xA : UInt8).toNat = 10 := rfl
        omega
    rw [if_neg outside]
    rfl

theorem write_clean {decoder : Decoder} (sound : decoder.Sound) {bytes : List UInt8} (clean : 0xA ∉ bytes) :
    0xA ∉ (decoder.write bytes).1 := by
  induction bytes generalizing decoder with
  | nil => exact not_mem_nil
  | cons byte rest ih =>
    rw [mem_cons, not_or] at clean
    obtain ⟨next, _, single⟩ := sound_push sound byte
    intro member
    rcases mem_append.mp member with here | later
    · exact single (fun same => clean.1 same.symm) here
    · exact ih next clean.2 later

theorem write_line {line : List UInt8} (rest : List UInt8) :
    Decoder.write {} (line ++ 0xA :: rest) =
      (decode line ++ 0xA :: (Decoder.write {} rest).1, (Decoder.write {} rest).2) := by
  rw [write_append, Decoder.write, push_line (sound_write sound_fresh line), decode, run_write]
  simp

theorem decode_clean {line : List UInt8} (clean : 0xA ∉ line) : 0xA ∉ decode line := by
  rw [decode, run_write]
  exact fun member => (mem_append.mp member).elim (write_clean sound_fresh clean) (finish_single _)

theorem cut_write (bytes : List UInt8) :
    cut 0xA (Decoder.write {} bytes).1 =
        ((cut 0xA bytes).1.map decode, (Decoder.write {} (cut 0xA bytes).2).1) ∧
      (Decoder.write {} bytes).2 = (Decoder.write {} (cut 0xA bytes).2).2 := by
  obtain ⟨clean, last⟩ := @clean_cut _ _ 0xA bytes
  have whole := @unlines_cut _ _ 0xA bytes
  generalize (cut 0xA bytes).1 = lines at clean whole ⊢
  generalize (cut 0xA bytes).2 = left at last whole ⊢
  subst whole
  induction lines with
  | nil => exact ⟨cut_clean (write_clean sound_fresh last), rfl⟩
  | cons line rest ih =>
    rw [forall_mem_cons] at clean
    obtain ⟨later, same⟩ := ih clean.2
    have here : unlines 0xA (line :: rest) left = line ++ 0xA :: unlines 0xA rest left := rfl
    rw [here, write_line, cut_line (decode_clean clean.1), later]
    exact ⟨rfl, same⟩

end Utf8

end CouncilKit.Data
