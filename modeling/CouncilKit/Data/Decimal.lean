import CouncilKit.Data.Regex

namespace CouncilKit.Data.JsString

open Regex List Nat

theorem decimal_toDigits {value : Nat} {digit : Char} (member : digit ∈ toDigits 10 value) :
    0x30 ≤ digit.toNat ∧ digit.toNat ≤ 0x39 := by
  have decimal := isDigit_of_mem_toDigits (by omega) (by omega) member
  simp only [Char.isDigit, Bool.and_eq_true, decide_eq_true_eq] at decimal
  exact ⟨UInt32.le_iff_toNat_le.mp decimal.1, UInt32.le_iff_toNat_le.mp decimal.2⟩

theorem utf16_small {scalar : Char} (small : scalar.toNat < 0x10000) :
    utf16 scalar = [scalar.toNat.toUInt16] := if_pos small

theorem ofNat_eq (value : Nat) :
    ofNat value = (toDigits 10 value).map fun digit => digit.toNat.toUInt16 := by
  have small : ∀ digit ∈ toDigits 10 value, utf16 digit = [digit.toNat.toUInt16] := by
    intro digit member
    have bound := (decimal_toDigits member).2
    exact utf16_small (by omega)
  rw [ofNat, js, toString_eq_ofList_toDigits, String.toList_ofList]
  generalize toDigits 10 value = digits at small
  induction digits with
  | nil => rfl
  | cons digit rest ih =>
    rw [flatMap_cons, small digit mem_cons_self,
      ih fun other member => small other (mem_cons_of_mem _ member)]
    rfl

theorem length_ofNat_le {value digits : Nat} (wide : 0 < digits)
    (small : value < 10 ^ digits) : (ofNat value).length ≤ digits := by
  rw [ofNat_eq, length_map]
  exact (length_toDigits_le_iff (by omega) wide).mpr small

theorem length_ofNat_pos (value : Nat) : 0 < (ofNat value).length := by
  rw [ofNat_eq, length_map]
  exact length_toDigits_pos

theorem isDigit_ofNat {value : Nat} {unit : CodeUnit} (member : unit ∈ ofNat value) :
    isDigit unit = true := by
  rw [ofNat_eq] at member
  obtain ⟨digit, listed, rfl⟩ := mem_map.mp member
  obtain ⟨least, most⟩ := decimal_toDigits listed
  simp only [isDigit, Bool.and_eq_true, decide_eq_true_eq, UInt16.le_iff_toNat_le]
  have same : digit.toNat.toUInt16.toNat = digit.toNat := by
    simp only [toUInt16, UInt16.toNat_ofNat']
    omega
  rw [same]
  exact ⟨least, most⟩

theorem toDigits_eq (value : Nat) :
    toDigits 10 value = (ofNat value).map fun unit => Char.ofNat unit.toNat := by
  rw [ofNat_eq, map_map]
  conv => lhs; rw [← map_id (toDigits 10 value)]
  refine map_congr_left fun digit member => ?_
  have bound := (decimal_toDigits member).2
  have same : digit.toNat.toUInt16.toNat = digit.toNat := by
    simp only [toUInt16, UInt16.toNat_ofNat']
    omega
  simp only [Function.comp_apply, same, id_eq, Char.ofNat_toNat]

theorem ofNat_injective {left right : Nat} (same : ofNat left = ofNat right) : left = right := by
  have digits : toDigits 10 left = toDigits 10 right := by
    rw [toDigits_eq, toDigits_eq, same]
  have value := congrArg (fun digits => ofDigitChars 10 digits 0) digits
  simpa using value

theorem append_ofNat_inj {first second : JsString} {unit other : CodeUnit} {left right : Nat}
    (mark : isDigit unit = false) (otherMark : isDigit other = false)
    (same : first ++ unit :: ofNat left = second ++ other :: ofNat right) :
    first = second ∧ left = right := by
  rcases append_eq_append_iff.mp same with ⟨between, grown, tail⟩ | ⟨between, grown, tail⟩
  · cases between with
    | nil =>
      rw [nil_append, cons.injEq] at tail
      exact ⟨by simpa using grown.symm, ofNat_injective tail.2⟩
    | cons head rest =>
      have member : other ∈ ofNat left := by
        rw [(cons.inj tail).2]
        simp
      rw [isDigit_ofNat member] at otherMark
      contradiction
  · cases between with
    | nil =>
      rw [nil_append, cons.injEq] at tail
      exact ⟨by simpa using grown, (ofNat_injective tail.2).symm⟩
    | cons head rest =>
      have member : unit ∈ ofNat right := by
        rw [(cons.inj tail).2]
        simp
      rw [isDigit_ofNat member] at mark
      contradiction

end CouncilKit.Data.JsString
