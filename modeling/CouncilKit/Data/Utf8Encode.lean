import Mathlib
import CouncilKit.Data.Utf8

namespace CouncilKit.Data

open List Bool Nat

namespace Utf8

def bytesOf (point : Nat) : List UInt8 :=
  if point < 0x80 then [point.toUInt8]
  else if point < 0x800 then [(0xC0 + point / 0x40).toUInt8, (0x80 + point % 0x40).toUInt8]
  else if point < 0x10000 then
    [(0xE0 + point / 0x1000).toUInt8, (0x80 + point / 0x40 % 0x40).toUInt8, (0x80 + point % 0x40).toUInt8]
  else
    [(0xF0 + point / 0x40000).toUInt8, (0x80 + point / 0x1000 % 0x40).toUInt8,
      (0x80 + point / 0x40 % 0x40).toUInt8, (0x80 + point % 0x40).toUInt8]

def isSurrogate (unit : CodeUnit) : Bool := isHighSurrogate unit || isLowSurrogate unit

def pairPoint (high low : CodeUnit) : Nat :=
  0x10000 + (high.toNat - 0xD800) * 0x400 + (low.toNat - 0xDC00)

def single (unit : CodeUnit) : CodeUnit := if isSurrogate unit then replacement else unit

def encode : JsString → List UInt8
  | [] => []
  | [unit] => bytesOf (single unit).toNat
  | first :: second :: rest =>
    if isHighSurrogate first && isLowSurrogate second then
      bytesOf (pairPoint first second) ++ encode rest
    else bytesOf (single first).toNat ++ encode (second :: rest)

/-- `String.prototype.toWellFormed` -/
def wellFormed : JsString → JsString
  | [] => []
  | [unit] => [single unit]
  | first :: second :: rest =>
    if isHighSurrogate first && isLowSurrogate second then first :: second :: wellFormed rest
    else single first :: wellFormed (second :: rest)

theorem toNat_toUInt8 {value : Nat} (small : value < 0x100) : value.toUInt8.toNat = value := by
  simp only [Nat.toUInt8, UInt8.toNat_ofNat']
  omega

theorem push_tail {decoder : Decoder} {needed bits : Nat} (owed : decoder.needed = needed + 1)
    (low : decoder.lower.toNat ≤ 0x80 + bits) (high : 0x80 + bits ≤ decoder.upper.toNat)
    (small : bits < 0x40) :
    decoder.push (0x80 + bits).toUInt8 =
      if needed = 0 then (unitsOf (decoder.point * 0x40 + bits), {})
      else ([], { needed, point := decoder.point * 0x40 + bits }) := by
  have value : (0x80 + bits).toUInt8.toNat = 0x80 + bits := toNat_toUInt8 (by omega)
  have inside : decoder.lower ≤ (0x80 + bits).toUInt8 ∧ (0x80 + bits).toUInt8 ≤ decoder.upper := by
    rw [UInt8.le_iff_toNat_le, UInt8.le_iff_toNat_le, value]
    exact ⟨low, high⟩
  have read : ((0x80 + bits).toUInt8 - 0x80).toNat = bits := by
    rw [UInt8.toNat_sub_of_le _ _ (by rw [UInt8.le_iff_toNat_le, value]; exact le_add_right _ _),
      value]
    exact Nat.add_sub_cancel_left _ _
  rw [Decoder.push, if_neg (by omega), if_pos inside, read, owed]
  by_cases last : needed = 0
  · simp [last]
  · simp [last]

theorem push_first {byte : UInt8} : Decoder.push {} byte = first byte := rfl

theorem first_ascii {value : Nat} (small : value < 0x80) :
    first value.toUInt8 = ([value.toUInt16], {}) := by
  interval_cases value <;> rfl

variable {bits : Nat}

theorem first_two (least : 2 ≤ bits) (most : bits < 0x20) :
    first (0xC0 + bits).toUInt8 = ([], { needed := 1, point := bits }) := by
  interval_cases bits <;> rfl

/-- The second byte of three is bounded so that neither a shorter character nor a
surrogate is read. -/
theorem first_three (most : bits < 0x10) :
    ∃ lower upper, first (0xE0 + bits).toUInt8 = ([], { needed := 2, lower, upper, point := bits }) ∧
      lower = (if bits = 0 then 0xA0 else 0x80) ∧ upper = (if bits = 0xD then 0x9F else 0xBF) := by
  interval_cases bits <;> exact ⟨_, _, rfl, rfl, rfl⟩

theorem first_four (most : bits < 5) :
    ∃ lower upper, first (0xF0 + bits).toUInt8 = ([], { needed := 3, lower, upper, point := bits }) ∧
      lower = (if bits = 0 then 0x90 else 0x80) ∧ upper = (if bits = 4 then 0x8F else 0xBF) := by
  interval_cases bits <;> exact ⟨_, _, rfl, rfl, rfl⟩

theorem run_bytesOf {point : Nat} (rest : List UInt8) (bound : point < 0x110000)
    (scalar : point < 0xD800 ∨ 0xE000 ≤ point) :
    Decoder.run {} (bytesOf point ++ rest) = unitsOf point ++ Decoder.run {} rest := by
  unfold bytesOf
  split
  · rename_i one
    have units : unitsOf point = [point.toUInt16] := if_pos (by omega)
    rw [singleton_append, Decoder.run, push_first, first_ascii one, units]
  · split
    · rename_i some_ two
      have opens := @first_two (point / 0x40) (by omega) (by omega)
      have closes := @push_tail { needed := 1, point := point / 0x40 } 0 (point % 0x40) rfl
        (le_add_right _ _) (by change _ ≤ 0xBF; omega) (by omega)
      have value : point / 0x40 * 0x40 + point % 0x40 = point := by omega
      rw [cons_append, singleton_append, Decoder.run, push_first, opens, Decoder.run, closes]
      simp [value]
    · split
      · rename_i some_ more three
        obtain ⟨lower, upper, opens, least, most⟩ := @first_three (point / 0x1000) (by omega)
        have goes := @push_tail { needed := 2, lower, upper, point := point / 0x1000 } 1
          (point / 0x40 % 0x40) rfl
          (by
            change lower.toNat ≤ _
            rw [least]
            split
            · change 0xA0 ≤ _
              omega
            · exact le_add_right _ _)
          (by
            change _ ≤ upper.toNat
            rw [most]
            split
            · change _ ≤ 0x9F
              omega
            · change _ ≤ 0xBF
              omega)
          (by omega)
        have closes := @push_tail
          { needed := 1, point := point / 0x1000 * 0x40 + point / 0x40 % 0x40 } 0 (point % 0x40) rfl
          (le_add_right _ _) (by change _ ≤ 0xBF; omega) (by omega)
        have value : (point / 0x1000 * 0x40 + point / 0x40 % 0x40) * 0x40 + point % 0x40 = point := by
          omega
        simp only [cons_append, nil_append, Decoder.run, push_first, opens, goes, closes,
          value, if_true, if_false, one_ne_zero]
      · rename_i some_ more four
        obtain ⟨lower, upper, opens, least, most⟩ := @first_four (point / 0x40000) (by omega)
        have goes := @push_tail { needed := 3, lower, upper, point := point / 0x40000 } 2
          (point / 0x1000 % 0x40) rfl
          (by
            change lower.toNat ≤ _
            rw [least]
            split
            · change 0x90 ≤ _
              omega
            · exact le_add_right _ _)
          (by
            change _ ≤ upper.toNat
            rw [most]
            split
            · change _ ≤ 0x8F
              omega
            · change _ ≤ 0xBF
              omega)
          (by omega)
        have next := @push_tail { needed := 2, point := point / 0x40000 * 0x40 + point / 0x1000 % 0x40 } 1
          (point / 0x40 % 0x40) rfl (le_add_right _ _) (by change _ ≤ 0xBF; omega) (by omega)
        have closes := @push_tail
          { needed := 1
            point := (point / 0x40000 * 0x40 + point / 0x1000 % 0x40) * 0x40 + point / 0x40 % 0x40 }
          0 (point % 0x40) rfl (le_add_right _ _) (by change _ ≤ 0xBF; omega) (by omega)
        have value : ((point / 0x40000 * 0x40 + point / 0x1000 % 0x40) * 0x40 +
            point / 0x40 % 0x40) * 0x40 + point % 0x40 = point := by
          omega
        simp only [cons_append, nil_append, Decoder.run, push_first, opens, goes, next,
          closes, value, if_true, if_false, one_ne_zero, OfNat.ofNat_ne_zero]

variable {unit : CodeUnit}

theorem toNat_surrogate :
    (isHighSurrogate unit = true ↔ 0xD800 ≤ unit.toNat ∧ unit.toNat < 0xDC00) ∧
      (isLowSurrogate unit = true ↔ 0xDC00 ≤ unit.toNat ∧ unit.toNat < 0xE000) := by
  simp only [isHighSurrogate, isLowSurrogate, and_eq_true, decide_eq_true_eq, UInt16.le_iff_toNat_le]
  change (0xD800 ≤ unit.toNat ∧ unit.toNat ≤ 0xDBFF ↔ _) ∧ (0xDC00 ≤ unit.toNat ∧ unit.toNat ≤ 0xDFFF ↔ _)
  omega

theorem single_scalar (unit : CodeUnit) : (single unit).toNat < 0xD800 ∨ 0xE000 ≤ (single unit).toNat := by
  unfold single
  split
  · exact .inr (by decide)
  · rename_i plain
    rw [isSurrogate, or_eq_true, toNat_surrogate.1, toNat_surrogate.2] at plain
    omega

theorem unitsOf_unit (unit : CodeUnit) : unitsOf unit.toNat = [unit] := by
  have bound : unit.toNat < 0x10000 := unit.toNat_lt
  rw [unitsOf, if_pos bound]
  simp

theorem unitsOf_pair {high low : CodeUnit} (isHigh : isHighSurrogate high = true)
    (isLow : isLowSurrogate low = true) : unitsOf (pairPoint high low) = [high, low] := by
  rw [toNat_surrogate.1] at isHigh
  rw [toNat_surrogate.2] at isLow
  have first : 0xD800 + (pairPoint high low - 0x10000) / 0x400 = high.toNat := by
    unfold pairPoint
    omega
  have second : 0xDC00 + (pairPoint high low - 0x10000) % 0x400 = low.toNat := by
    unfold pairPoint
    omega
  have large : ¬ pairPoint high low < 0x10000 := by
    unfold pairPoint
    omega
  rw [unitsOf, if_neg large, first, second]
  simp

theorem run_encode (text : JsString) (rest : List UInt8) :
    Decoder.run {} (encode text ++ rest) = wellFormed text ++ Decoder.run {} rest := by
  have one (unit : CodeUnit) (tail : List UInt8) :
      Decoder.run {} (bytesOf (single unit).toNat ++ tail) = single unit :: Decoder.run {} tail := by
    have bound : (single unit).toNat < 0x10000 := (single unit).toNat_lt
    rw [run_bytesOf tail (by omega) (single_scalar unit), unitsOf_unit, singleton_append]
  induction text using encode.induct with
  | case1 => rfl
  | case2 unit => rw [encode, wellFormed, one, singleton_append]
  | case3 first second tail pair ih =>
    have both := and_eq_true_iff.mp pair
    have bound : pairPoint first second < 0x110000 ∧ 0xE000 ≤ pairPoint first second := by
      have isHigh := toNat_surrogate.1.mp both.1
      have isLow := toNat_surrogate.2.mp both.2
      unfold pairPoint
      omega
    rw [encode, wellFormed, if_pos pair, if_pos pair, append_assoc,
      run_bytesOf _ bound.1 (.inr bound.2), unitsOf_pair both.1 both.2, ih]
    rfl
  | case4 first second tail apart ih =>
    rw [encode, wellFormed, if_neg apart, if_neg apart, append_assoc, one, ih]
    rfl

theorem decode_encode (text : JsString) : decode (encode text) = wellFormed text := by
  have read := run_encode text []
  rw [append_nil] at read
  rw [decode, read]
  exact append_nil _

theorem single_plain (plain : isSurrogate unit = false) : single unit = unit := by
  rw [single, plain]
  rfl

theorem wellFormed_append (plain : isSurrogate unit = false) (left right : JsString) :
    wellFormed (left ++ unit :: right) = wellFormed left ++ unit :: wellFormed right := by
  have high : isHighSurrogate unit = false := by
    rw [isSurrogate, or_eq_false_iff] at plain
    exact plain.1
  have low : isLowSurrogate unit = false := by
    rw [isSurrogate, or_eq_false_iff] at plain
    exact plain.2
  have opens : wellFormed (unit :: right) = unit :: wellFormed right := by
    cases right with
    | nil => exact congrArg (fun written => [written]) (single_plain plain)
    | cons next rest => rw [wellFormed, high, Bool.false_and, if_neg Bool.false_ne_true, single_plain plain]
  induction left using wellFormed.induct with
  | case1 => exact opens
  | case2 before =>
    change wellFormed (before :: unit :: right) = [single before] ++ unit :: wellFormed right
    rw [wellFormed, low, Bool.and_false, if_neg Bool.false_ne_true, opens]
    rfl
  | case3 first second rest pair ih =>
    rw [wellFormed, if_pos pair, cons_append, cons_append, cons_append,
      cons_append, wellFormed, if_pos pair, ih]
  | case4 first second rest apart ih =>
    rw [wellFormed, if_neg apart, cons_append, cons_append, cons_append, wellFormed,
      if_neg apart]
    exact congrArg (single first :: ·) ih

theorem length_wellFormed (text : JsString) : (wellFormed text).length = text.length := by
  induction text using wellFormed.induct with
  | case1 => rfl
  | case2 unit => rfl
  | case3 first second rest pair ih =>
    rw [wellFormed, if_pos pair, length_cons, length_cons, ih]
    rfl
  | case4 first second rest apart ih =>
    rw [wellFormed, if_neg apart, length_cons, ih]
    rfl

theorem isSurrogate_ascii (ascii : unit < 0x80) : isSurrogate unit = false := by
  have small : unit.toNat < 0x80 := UInt16.lt_iff_toNat_lt.mp ascii
  rw [isSurrogate, or_eq_false_iff, ← not_eq_true, ← not_eq_true, toNat_surrogate.1,
    toNat_surrogate.2]
  omega

theorem wellFormed_ascii_append {front : JsString} (ascii : ∀ unit ∈ front, unit < 0x80)
    (text : JsString) : wellFormed (front ++ text) = front ++ wellFormed text := by
  induction front with
  | nil => rfl
  | cons unit rest ih =>
    have here := isSurrogate_ascii (ascii unit mem_cons_self)
    have later := ih fun other member => ascii other (mem_cons_of_mem _ member)
    have parted := wellFormed_append here [] (rest ++ text)
    rw [later] at parted
    exact parted

theorem wellFormed_ascii {text : JsString} (ascii : ∀ unit ∈ text, unit < 0x80) :
    wellFormed text = text := by
  have whole := wellFormed_ascii_append ascii []
  rwa [append_nil, wellFormed, append_nil] at whole

theorem all_wellFormed {holds : CodeUnit → Bool} (replaced : holds replacement = true)
    (surrogates : ∀ unit, isSurrogate unit = true → holds unit = true) (text : JsString) :
    (wellFormed text).all holds = text.all holds := by
  have one (unit : CodeUnit) : holds (single unit) = holds unit := by
    unfold single
    split
    · rename_i surrogate
      rw [replaced, surrogates unit surrogate]
    · rfl
  induction text using wellFormed.induct with
  | case1 => rfl
  | case2 unit => simp [wellFormed, one]
  | case3 first second rest pair ih =>
    rw [wellFormed, if_pos pair, all_cons, all_cons, ih]
    rfl
  | case4 first second rest apart ih =>
    rw [wellFormed, if_neg apart, all_cons, ih, one]
    rfl

end Utf8

end CouncilKit.Data
