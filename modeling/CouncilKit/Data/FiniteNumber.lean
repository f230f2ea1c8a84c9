import Mathlib
import CouncilKit.Data.Decimal

namespace CouncilKit.Data

open JsString Regex List

/-! `Number::toString` of a finite double.  The double is the decimal `0.digits` times
`10 ^ point` of the fewest digits that read back as it.
-/

structure FiniteNumber where
  negative : Bool
  digits : JsString
  point : Int
  decimal : ∀ unit ∈ digits, isDigit unit = true
  first : digits.head? ≠ some 0x30
  last : digits.getLast? ≠ some 0x30
  zero : digits = [] → negative = false ∧ point = 0

namespace FiniteNumber

def zeros (count : Nat) : JsString := List.replicate count 0x30

/-- The digits before the point, those behind it, and the exponent. -/
def parts (value : FiniteNumber) : JsString × JsString × Int :=
  if value.digits = [] then (js "0", [], 0)
  else if value.digits.length ≤ value.point ∧ value.point ≤ 21 then
    (value.digits ++ zeros (value.point.toNat - value.digits.length), [], 0)
  else if 0 < value.point ∧ value.point ≤ 21 then
    (value.digits.take value.point.toNat, value.digits.drop value.point.toNat, 0)
  else if -6 < value.point ∧ value.point ≤ 0 then
    (js "0", zeros (-value.point).toNat ++ value.digits, 0)
  else (value.digits.take 1, value.digits.drop 1, value.point - 1)

def exponentText (exponent : Int) : JsString :=
  if exponent = 0 then []
  else 0x65 :: (if exponent < 0 then 0x2D else 0x2B) :: ofNat exponent.natAbs

def render : JsString × JsString × Int → JsString
  | (whole, decimals, exponent) =>
    whole ++ (if decimals = [] then [] else 0x2E :: decimals) ++ exponentText exponent

/-- `JSON.stringify(value)` -/
def text (value : FiniteNumber) : JsString :=
  (if value.negative then js "-" else []) ++ render value.parts

def isNumeric (unit : CodeUnit) : Bool :=
  isDigit unit || unit == 0x2E || unit == 0x65 || unit == 0x2D || unit == 0x2B

variable {value other : FiniteNumber} {whole decimals : JsString} {exponent : Int}

theorem parts_spec (value : FiniteNumber) : ∃ before behind,
    value.parts.1 ++ value.parts.2.1 = zeros before ++ (value.digits ++ zeros behind) ∧
      (value.digits = [] → behind = 0) ∧
      (value.digits ≠ [] → value.point = value.parts.1.length - before + value.parts.2.2) := by
  unfold parts
  split
  · rename_i none_
    exact ⟨1, 0, by rw [none_]; rfl, fun _ => rfl, fun some_ => absurd none_ some_⟩
  · rename_i some_
    have positive := length_pos_iff.mpr some_
    split
    · rename_i whole
      refine ⟨0, value.point.toNat - value.digits.length, by simp [zeros], fun none_ => absurd none_ some_, ?_⟩
      intro _
      simp only [length_append, zeros, length_replicate]
      omega
    · split
      · rename_i inside
        refine ⟨0, 0, by simp [zeros], fun _ => rfl, fun _ => ?_⟩
        simp only [length_take]
        omega
      · split
        · rename_i small
          refine ⟨1 + (-value.point).toNat, 0, ?_, fun _ => rfl, fun _ => ?_⟩
          · simp only [zeros, ← replicate_append_replicate, replicate_zero, append_nil]
            exact (append_assoc _ _ _).symm
          · change _ = ((1 : Nat) : Int) - _ + 0
            omega
        · refine ⟨0, 0, (take_append_drop 1 _).trans (append_nil _).symm, fun _ => rfl,
            fun _ => ?_⟩
          simp only [length_take]
          omega

theorem zeros_append_inj {count others : Nat} {left right : JsString}
    (starts : left.head? ≠ some 0x30) (starts' : right.head? ≠ some 0x30)
    (same : zeros count ++ left = zeros others ++ right) : count = others ∧ left = right := by
  induction count generalizing others with
  | zero =>
    cases others with
    | zero => exact ⟨rfl, same⟩
    | succ others =>
      rw [show left = _ from same] at starts
      exact absurd rfl starts
  | succ count ih =>
    cases others with
    | zero =>
      rw [show right = _ from same.symm] at starts'
      exact absurd rfl starts'
    | succ others =>
      obtain ⟨counts, rest⟩ := ih (List.cons.inj same).2
      exact ⟨congrArg (· + 1) counts, rest⟩

theorem digits_of_zeros {before behind before' behind' : Nat}
    (some_ : value.digits = [] → behind = 0) (some' : other.digits = [] → behind' = 0)
    (same : zeros before ++ (value.digits ++ zeros behind) =
      zeros before' ++ (other.digits ++ zeros behind')) :
    before = before' ∧ value.digits = other.digits := by
  have starts (value : FiniteNumber) {behind : Nat} (some_ : value.digits = [] → behind = 0) :
      (value.digits ++ zeros behind).head? ≠ some 0x30 := by
    cases digits : value.digits with
    | nil =>
      rw [some_ digits]
      nofun
    | cons unit rest =>
      have first := value.first
      rwa [digits] at first
  have ends (value : FiniteNumber) : value.digits.reverse.head? ≠ some 0x30 := by
    rw [List.head?_reverse]
    exact value.last
  obtain ⟨fronts, rest⟩ := zeros_append_inj (starts value some_) (starts other some') same
  have back := congrArg List.reverse rest
  rw [reverse_append, reverse_append, zeros, zeros, reverse_replicate,
    reverse_replicate] at back
  exact ⟨fronts, reverse_injective (zeros_append_inj (ends value) (ends other) back).2⟩

theorem parts_injective (sign : value.negative = other.negative) (same : value.parts = other.parts) :
    value = other := by
  obtain ⟨before, behind, spells, some_, point⟩ := parts_spec value
  obtain ⟨before', behind', spells', some', point'⟩ := parts_spec other
  rw [same] at spells point
  obtain ⟨fronts, digits⟩ := digits_of_zeros some_ some' (spells.symm.trans spells')
  have places : value.point = other.point := by
    by_cases none_ : value.digits = []
    · rw [(value.zero none_).2, (other.zero (digits ▸ none_)).2]
    · rw [point none_, point' (digits ▸ none_), fronts]
  cases value
  cases other
  cases sign
  cases digits
  cases places
  rfl

theorem decimal_zeros (count : Nat) : ∀ unit ∈ zeros count, isDigit unit = true := by
  intro unit member
  rw [eq_of_mem_replicate member]
  rfl

theorem parts_decimal (value : FiniteNumber) : value.parts.1 ≠ [] ∧
    (∀ unit ∈ value.parts.1, isDigit unit = true) ∧ ∀ unit ∈ value.parts.2.1, isDigit unit = true := by
  have zero : ∀ unit ∈ js "0", isDigit unit = true := all_eq_true.mp rfl
  have decimal := value.decimal
  unfold parts
  split
  · exact ⟨nofun, zero, forall_mem_nil _⟩
  · rename_i some_
    have positive := length_pos_iff.mpr some_
    split
    · refine ⟨by simp [some_], fun unit member => ?_, forall_mem_nil _⟩
      exact (mem_append.mp member).elim (decimal unit) (decimal_zeros _ unit)
    · split
      · rename_i inside
        refine ⟨?_, fun unit member => decimal unit (mem_of_mem_take member),
          fun unit member => decimal unit (mem_of_mem_drop member)⟩
        rw [← length_pos_iff, length_take]
        omega
      · split
        · refine ⟨nofun, zero, fun unit member => ?_⟩
          exact (mem_append.mp member).elim (decimal_zeros _ unit) (decimal unit)
        · refine ⟨?_, fun unit member => decimal unit (mem_of_mem_take member),
            fun unit member => decimal unit (mem_of_mem_drop member)⟩
          rw [← length_pos_iff, length_take]
          omega

theorem exponentText_injective {left right : Int} (same : exponentText left = exponentText right) :
    left = right := by
  by_cases none_ : left = 0
  · by_cases none' : right = 0
    · rw [none_, none']
    · rw [exponentText, exponentText, if_pos none_, if_neg none'] at same
      cases same
  · by_cases none' : right = 0
    · rw [exponentText, exponentText, if_neg none_, if_pos none'] at same
      cases same
    · rw [exponentText, exponentText, if_neg none_, if_neg none'] at same
      obtain ⟨signs, rest⟩ := List.cons.inj (List.cons.inj same).2
      have sizes := ofNat_injective rest
      by_cases low : left < 0
      · by_cases low' : right < 0
        · omega
        · rw [if_pos low, if_neg low'] at signs
          cases signs
      · by_cases low' : right < 0
        · rw [if_neg low, if_pos low'] at signs
          cases signs
        · omega

theorem exponentText_head (exponent : Int) :
    exponentText exponent = [] ∨ ∃ rest, exponentText exponent = 0x65 :: rest := by
  unfold exponentText
  split
  · exact .inl rfl
  · exact .inr ⟨_, rfl⟩

/-- The three parts, read off the front of what `render` writes. -/
def split (text : JsString) : JsString × JsString × JsString :=
  let rest := text.dropWhile isDigit
  match rest with
  | 0x2E :: behind => (text.takeWhile isDigit, behind.takeWhile isDigit, behind.dropWhile isDigit)
  | rest => (text.takeWhile isDigit, [], rest)

theorem split_render (first : ∀ unit ∈ whole, isDigit unit = true)
    (second : ∀ unit ∈ decimals, isDigit unit = true) :
    split (render (whole, decimals, exponent)) = (whole, decimals, exponentText exponent) := by
  have stops : (exponentText exponent).takeWhile isDigit = [] ∧
      (exponentText exponent).dropWhile isDigit = exponentText exponent := by
    obtain none_ | ⟨rest, same⟩ := exponentText_head exponent
    · rw [none_]
      exact ⟨rfl, rfl⟩
    · rw [same]
      exact ⟨rfl, rfl⟩
  by_cases none_ : decimals = []
  · rw [none_, render, if_pos rfl, append_nil, split, takeWhile_append_of_pos first,
      dropWhile_append_of_pos first, stops.1, stops.2, append_nil]
    obtain empty | ⟨rest, same⟩ := exponentText_head exponent
    · rw [empty]
    · rw [same]
      rfl
  · rw [render, if_neg none_, append_assoc, split, takeWhile_append_of_pos first,
      dropWhile_append_of_pos first, cons_append]
    have point : ∀ rest, List.takeWhile isDigit (0x2E :: rest) = [] ∧
        List.dropWhile isDigit (0x2E :: rest) = 0x2E :: rest := fun _ => ⟨rfl, rfl⟩
    rw [(point _).1, (point _).2, append_nil]
    simp only [takeWhile_append_of_pos second, dropWhile_append_of_pos second, stops,
      append_nil]

theorem text_head (value : FiniteNumber) :
    ∃ unit, value.text.head? = some unit ∧ isDigit unit = !value.negative := by
  obtain ⟨some_, first, _⟩ := parts_decimal value
  cases whole : value.parts.1 with
  | nil => exact absurd whole some_
  | cons unit rest =>
    cases sign : value.negative with
    | true => exact ⟨0x2D, by rw [text, sign]; rfl, rfl⟩
    | false =>
      refine ⟨unit, ?_, first unit (by rw [whole]; exact mem_cons_self)⟩
      rw [text, sign, render, whole]
      rfl

theorem text_injective (same : value.text = other.text) : value = other := by
  obtain ⟨unit, head, digit⟩ := text_head value
  obtain ⟨unit', head', digit'⟩ := text_head other
  rw [same, head'] at head
  cases head
  have signs := Bool.not_inj (digit.symm.trans digit')
  rw [text, text, signs] at same
  have spelled := congrArg split (append_cancel_left same)
  obtain ⟨-, first, second⟩ := parts_decimal value
  obtain ⟨-, first', second'⟩ := parts_decimal other
  have left := @split_render _ _ value.parts.2.2 first second
  have right := @split_render _ _ other.parts.2.2 first' second'
  rw [show split (render value.parts) = _ from left, show split (render other.parts) = _ from right,
    Prod.mk.injEq, Prod.mk.injEq] at spelled
  exact parts_injective signs (Prod.ext spelled.1
    (Prod.ext spelled.2.1 (exponentText_injective spelled.2.2)))

theorem numeric_text (value : FiniteNumber) : ∀ unit ∈ value.text, isNumeric unit = true := by
  obtain ⟨-, first, second⟩ := parts_decimal value
  have numeric {unit : CodeUnit} (digit : isDigit unit = true) : isNumeric unit = true := by
    simp [isNumeric, digit]
  have ends : ∀ unit ∈ exponentText value.parts.2.2, isNumeric unit = true := by
    unfold exponentText
    split
    · exact forall_mem_nil _
    · refine forall_mem_cons.mpr ⟨rfl, forall_mem_cons.mpr ⟨?_, ?_⟩⟩
      · split <;> rfl
      · exact fun unit member => numeric (isDigit_ofNat member)
  intro unit member
  rw [text, render] at member
  obtain sign | (whole | decimals) | exponent :=
    mem_append.mp member |>.imp_right (mem_append.mp · |>.imp_left mem_append.mp)
  · split at sign
    · rw [mem_singleton.mp sign]
      rfl
    · cases sign
  · exact numeric (first unit whole)
  · split at decimals
    · cases decimals
    · obtain rfl | behind := mem_cons.mp decimals
      · rfl
      · exact numeric (second unit behind)
  · exact ends unit exponent

end FiniteNumber

end CouncilKit.Data
