import CouncilKit.Data.EmbeddedJson
import CouncilKit.Data.JsonFront

namespace CouncilKit.Data.Json

open List Option

def isBare (unit : CodeUnit) : Bool := unit != 0x22 && unit != 0x7B && unit != 0x7D

/-- The front of a text behind a quote, up to the quote that ends the literal. -/
def LiteralFront (front : JsString) : Prop := ∀ after, afterJsonString (front ++ after) = some after

inductive Braced : JsString → Prop where
  | nil : Braced []
  | plain {unit : CodeUnit} {rest : JsString} (none_ : isBare unit = true) (later : Braced rest) :
      Braced (unit :: rest)
  | literal {front rest : JsString} (ends : LiteralFront front) (later : Braced rest) :
      Braced (0x22 :: (front ++ rest))
  | braces {inner rest : JsString} (inside : Braced inner) (later : Braced rest) :
      Braced (0x7B :: (inner ++ 0x7D :: rest))

namespace Braced

variable {front rest : JsString}

theorem append (first : Braced front) (second : Braced rest) : Braced (front ++ rest) := by
  induction first with
  | nil => exact second
  | plain none_ _ ih => exact .plain none_ ih
  | @literal quoted more ends _ ih =>
    rw [cons_append, append_assoc]
    exact .literal ends ih
  | @braces inner more inside _ _ ih =>
    rw [cons_append, append_assoc, cons_append]
    exact .braces inside ih

theorem of_plain (none_ : ∀ unit ∈ front, isBare unit = true) : Braced front := by
  induction front with
  | nil => exact .nil
  | cons unit rest ih =>
    exact .plain (none_ unit mem_cons_self) (ih fun other member => none_ other (mem_cons_of_mem _ member))

theorem spaces (blank : ∀ unit ∈ front, isJsonSpace unit = true) : Braced front := by
  apply of_plain
  intro unit member
  have space := blank unit member
  simp only [isJsonSpace, Bool.or_eq_true, beq_iff_eq] at space
  rcases space with ((rfl | rfl) | rfl) | rfl
  all_goals decide

end Braced

theorem afterJsonString_quote (rest : JsString) : afterJsonString (0x22 :: rest) = some rest := by
  rw [afterJsonString.eq_def]
  rfl

theorem afterJsonString_escape (mark : CodeUnit) (rest : JsString) :
    afterJsonString (0x5C :: mark :: rest) = afterJsonString rest := by
  rw [afterJsonString.eq_def]
  rfl

theorem afterJsonString_idle {unit : CodeUnit} (noEscape : unit ≠ 0x5C) (noQuote : unit ≠ 0x22)
    (rest : JsString) : afterJsonString (unit :: rest) = afterJsonString rest := by
  rw [afterJsonString.eq_def]
  simp only [noEscape, noQuote, if_false]

theorem not_mark_of_hex {unit : CodeUnit} (hex : isHexDigit unit = true) : unit ≠ 0x5C ∧ unit ≠ 0x22 := by
  constructor
  · rintro rfl
    revert hex
    decide
  · rintro rfl
    revert hex
    decide

theorem literal_of_readUnits {text rest units : JsString} (read : readUnits text = some (units, rest)) :
    ∃ front, text = front ++ rest ∧ LiteralFront front := by
  fun_induction readUnits text generalizing units with
  | case1 => cases read
  | case2 tail =>
    cases read
    exact ⟨[0x22], rfl, afterJsonString_quote⟩
  | case3 => cases read
  | case4 => cases read
  | case5 first second third fourth more hex _ _ ih =>
    obtain ⟨found, later, same⟩ := map_eq_some_iff.mp read
    cases same
    obtain ⟨front, goes, ends⟩ := ih later
    rw [all_cons, all_cons, all_cons, all_cons] at hex
    simp only [Bool.and_eq_true] at hex
    obtain ⟨one, two, three, four, _⟩ := hex
    refine ⟨0x5C :: 0x75 :: first :: second :: third :: fourth :: front, by rw [goes]; rfl, ?_⟩
    intro after
    simp only [cons_append]
    rw [afterJsonString_escape, afterJsonString_idle (not_mark_of_hex one).1 (not_mark_of_hex one).2,
      afterJsonString_idle (not_mark_of_hex two).1 (not_mark_of_hex two).2,
      afterJsonString_idle (not_mark_of_hex three).1 (not_mark_of_hex three).2,
      afterJsonString_idle (not_mark_of_hex four).1 (not_mark_of_hex four).2, ends]
  | case6 => cases read
  | case7 => cases read
  | case8 mark tail _ _ _ _ ih =>
    obtain ⟨found, later, same⟩ := map_eq_some_iff.mp read
    cases same
    obtain ⟨front, goes, ends⟩ := ih later
    refine ⟨0x5C :: mark :: front, by rw [goes]; rfl, ?_⟩
    intro after
    rw [cons_append, cons_append, afterJsonString_escape, ends]
  | case9 => cases read
  | case10 unit tail noQuote _ noEscape ih =>
    obtain ⟨found, later, same⟩ := map_eq_some_iff.mp read
    cases same
    obtain ⟨front, goes, ends⟩ := ih later
    refine ⟨unit :: front, by rw [goes]; rfl, ?_⟩
    intro after
    rw [cons_append, afterJsonString_idle noEscape noQuote, ends]

def Sheds (text rest : JsString) : Prop := ∃ front, text = front ++ rest ∧ Braced front

namespace Sheds

variable {text middle rest : JsString}

theorem refl (text : JsString) : Sheds text text := ⟨[], rfl, .nil⟩

theorem trans (first : Sheds text middle) (second : Sheds middle rest) : Sheds text rest := by
  obtain ⟨front, same, braced⟩ := first
  obtain ⟨more, again, also_⟩ := second
  exact ⟨front ++ more, by rw [same, again, append_assoc], braced.append also_⟩

theorem unit {mark : CodeUnit} (none_ : isBare mark = true) (later : Sheds text rest) :
    Sheds (mark :: text) rest := by
  obtain ⟨front, same, braced⟩ := later
  exact ⟨mark :: front, by rw [same]; rfl, .plain none_ braced⟩

theorem skipSpace (text : JsString) : Sheds text (skipSpace text) := by
  refine ⟨text.takeWhile isJsonSpace, takeWhile_append_dropWhile.symm, Braced.spaces ?_⟩
  intro unit member
  exact mem_takeWhile_imp member

theorem spaces (skips : Json.skipSpace text = rest) : Sheds text rest := by
  rw [← skips]
  exact skipSpace text

theorem literal {units : JsString} (read : readUnits text = some (units, rest)) :
    Sheds (0x22 :: text) rest := by
  obtain ⟨front, same, ends⟩ := literal_of_readUnits read
  refine ⟨0x22 :: front, by rw [same]; rfl, ?_⟩
  rw [← append_nil front]
  exact .literal ends .nil

theorem braces (inside : Sheds text (0x7D :: rest)) : Sheds (0x7B :: text) rest := by
  obtain ⟨inner, same, braced⟩ := inside
  exact ⟨0x7B :: (inner ++ [0x7D]), by rw [same]; simp, .braces braced .nil⟩

end Sheds

theorem bare_digit {unit : CodeUnit} (digit : Regex.isDigit unit = true) : isBare unit = true := by
  simp only [Regex.isDigit, Bool.and_eq_true, decide_eq_true_eq, UInt16.le_iff_toNat_le] at digit
  have high : unit.toNat ≤ 0x39 := digit.2
  have low : 0x30 ≤ unit.toNat := digit.1
  simp only [isBare, Bool.and_eq_true, bne_iff_ne]
  refine ⟨⟨?_, ?_⟩, ?_⟩
  all_goals
    rintro rfl
    revert high low
    decide

variable {text digits rest : JsString}

theorem sheds_digits (read : readDigits text = some (digits, rest)) :
    Sheds text rest := by
  unfold readDigits at read
  dsimp only at read
  split at read
  · cases read
  · cases read
    refine ⟨_, takeWhile_append_dropWhile.symm, Braced.of_plain ?_⟩
    intro unit member
    exact bare_digit (mem_takeWhile_imp member)

theorem sheds_fraction (read : readFraction text = some (digits, rest)) :
    Sheds text rest := by
  unfold readFraction at read
  split at read
  · cases read
    exact .refl []
  · split at read
    · rename_i point
      subst point
      exact .unit rfl (sheds_digits read)
    · cases read
      exact .refl _

variable {text rest : JsString} {exponent : Bool × JsString}

theorem sheds_signed
    (read : readSigned text = some (exponent, rest)) : Sheds text rest := by
  unfold readSigned at read
  split at read
  · cases read
  split at read
  · rename_i minus
    subst minus
    obtain ⟨found, digits, same⟩ := map_eq_some_iff.mp read
    cases same
    exact .unit rfl (sheds_digits digits)
  split at read
  · rename_i plus
    subst plus
    obtain ⟨found, digits, same⟩ := map_eq_some_iff.mp read
    cases same
    exact .unit rfl (sheds_digits digits)
  · obtain ⟨found, digits, same⟩ := map_eq_some_iff.mp read
    cases same
    exact sheds_digits digits

theorem sheds_exponent
    (read : readExponent text = some (exponent, rest)) : Sheds text rest := by
  unfold readExponent at read
  split at read
  · cases read
    exact .refl []
  · rename_i unit tail
    split at read
    · rename_i mark
      have bare : isBare unit = true := by
        rw [Bool.or_eq_true, decide_eq_true_eq, decide_eq_true_eq] at mark
        rcases mark with rfl | rfl
        · rfl
        · rfl
      exact .unit bare (sheds_signed read)
    · cases read
      exact .refl _

variable {value : Json}

theorem sheds_unsigned {negative : Bool} {text body rest : JsString}
    (read : readUnsigned negative text body = some (value, rest)) : Sheds body rest := by
  obtain ⟨⟨whole, afterWhole⟩, digits, read⟩ := bind_eq_some_iff.mp read
  dsimp only at read
  split at read
  · cases read
  obtain ⟨⟨decimals, afterDecimals⟩, fraction, read⟩ := bind_eq_some_iff.mp read
  obtain ⟨⟨exponent, left⟩, scale, read⟩ := bind_eq_some_iff.mp read
  dsimp only at scale
  cases read
  exact (sheds_digits digits).trans ((sheds_fraction fraction).trans (sheds_exponent scale))

theorem sheds_number (read : readNumber text = some (value, rest)) :
    Sheds text rest := by
  unfold readNumber at read
  split at read
  · cases read
  split at read
  · rename_i minus
    subst minus
    exact .unit rfl (sheds_unsigned read)
  · exact sheds_unsigned read

theorem sheds_word {word text rest : JsString} {constant value : Json}
    (bare : ∀ unit ∈ word, isBare unit = true)
    (read : readWord word constant text = some (value, rest)) : Sheds text rest := by
  unfold readWord at read
  split at read
  · rename_i starts
    cases read
    obtain ⟨more, same⟩ := isPrefixOf_iff_prefix.mp starts
    subst same
    exact ⟨word, by rw [drop_left], Braced.of_plain bare⟩
  · cases read

/-- A value and its items shed a braced front, and so do the members up to their closing brace. -/
theorem sheds_rule : ReadRule (fun text _ rest => Sheds text rest) (fun text _ rest => Sheds text rest)
    (fun text _ rest => Sheds text (0x7D :: rest)) where
  spaces skipped read := (Sheds.spaces skipped).trans read
  quoted units := .literal units
  nothing emptied := .unit rfl ((Sheds.spaces emptied).trans (.unit rfl (.refl _)))
  list read := .unit rfl read
  empty emptied := .braces (.spaces emptied)
  braced read := .braces read
  word listed read := by
    refine sheds_word ?_ read
    simp only [mem_cons, Prod.mk.injEq, not_mem_nil, or_false] at listed
    rcases listed with ⟨rfl, -⟩ | ⟨rfl, -⟩ | ⟨rfl, -⟩ <;> exact List.all_eq_true.mp (by decide)
  number read := sheds_number read
  item first skipped := first.trans ((Sheds.spaces skipped).trans (.unit rfl (.refl _)))
  items first skipped others := first.trans ((Sheds.spaces skipped).trans (.unit rfl others))
  member opened units marked first skipped := by
    apply (Sheds.spaces opened).trans
    apply (Sheds.literal units).trans
    apply (Sheds.spaces marked).trans
    exact .unit rfl (first.trans (.spaces skipped))
  members opened units marked first skipped others := by
    apply (Sheds.spaces opened).trans
    apply (Sheds.literal units).trans
    apply (Sheds.spaces marked).trans
    exact .unit rfl (first.trans ((Sheds.spaces skipped).trans (.unit rfl others)))

theorem object_of_parse {inner : JsString}
    (parsed : parse (0x7B :: (inner ++ [0x7D])) = some value) :
    Braced inner ∧ ∃ members, value = .object members := by
  unfold parse at parsed
  split at parsed
  · rename_i found rest read
    split at parsed
    · rename_i left
      cases parsed
      have blank := dropWhile_eq_nil_iff.mp left
      have opens : skipSpace (0x7B :: (inner ++ [0x7D])) = 0x7B :: (inner ++ [0x7D]) := skipSpace_idle rfl
      have inside : Sheds (inner ++ [0x7D]) (0x7D :: rest) ∧ ∃ members, value = .object members := by
        rw [readValue, opens] at read
        dsimp only at read
        rw [if_neg (by decide), if_neg (by decide), if_pos rfl] at read
        split at read
        · rename_i more emptied
          cases read
          exact ⟨.spaces emptied, [], rfl⟩
        · obtain ⟨found, members, same⟩ := map_eq_some_iff.mp read
          cases same
          exact ⟨(sheds_rule.holds _).2.2 members, _, rfl⟩
      obtain ⟨⟨front, same, braced⟩, members⟩ := inside
      have closes : rest = [] := by
        cases eq_nil_or_concat rest with
        | inl empty => exact empty
        | inr last =>
          obtain ⟨before, unit, goes⟩ := last
          rw [goes, concat_eq_append, ← cons_append, ← append_assoc] at same
          have final := append_inj_right' same rfl
          cases final
          have white := blank 0x7D (by rw [goes]; simp)
          cases white
      rw [closes] at same
      rw [append_cancel_right same]
      exact ⟨braced, members⟩
    · cases parsed
  · cases parsed

end CouncilKit.Data.Json
