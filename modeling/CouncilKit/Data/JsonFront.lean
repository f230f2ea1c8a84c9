import Mathlib
import CouncilKit.Data.JsonParse

namespace CouncilKit.Data.Json

open List Regex Option

def isNumberPart (unit : CodeUnit) : Bool :=
  isDigit unit || unit == 0x2E || unit == 0x65 || unit == 0x45

def Fresh (after : JsString) : Prop := ∀ unit, after.head? = some unit → isNumberPart unit = false

def Closed (front : JsString) : Prop := ∃ unit, front.getLast? = some unit ∧ isJsonSpace unit = false

structure Front {α : Type*} (read : Nat → JsString → Option (α × JsString)) (front : JsString)
    (value : α) : Prop where
  closed : Closed front
  reads : ∀ fuel after, 2 * front.length ≤ fuel → Fresh after →
    read fuel (front ++ after) = some (value, after)

theorem Fresh.nil : Fresh [] := fun _ found => by cases found

variable {unit : CodeUnit}

theorem fresh_cons {after : JsString} (other : isNumberPart unit = false) :
    Fresh (unit :: after) := fun _ found => by
  cases found
  exact other

variable {front : JsString}

theorem Closed.append (before : JsString) (closed : Closed front) :
    Closed (before ++ front) := by
  obtain ⟨unit, last, solid⟩ := closed
  exact ⟨unit, by rw [List.getLast?_append, last, some_or], solid⟩

theorem Closed.cons {front : JsString} (unit : CodeUnit) (closed : Closed front) :
    Closed (unit :: front) := closed.append [unit]

theorem Closed.single {unit : CodeUnit} (solid : isJsonSpace unit = false) : Closed [unit] :=
  ⟨unit, rfl, solid⟩

theorem Closed.ne_nil (closed : Closed front) : front ≠ [] := by
  intro empty
  obtain ⟨unit, last, _⟩ := closed
  rw [empty] at last
  cases last

variable {rest : JsString}

theorem skipSpace_idle (solid : isJsonSpace unit = false) : skipSpace (unit :: rest) = unit :: rest := by
  rw [skipSpace, dropWhile_cons_of_neg (by rw [solid]; exact Bool.false_ne_true)]

variable {spaces : JsString}

theorem skipSpace_spaces (blank : ∀ unit ∈ spaces, isJsonSpace unit = true) :
    skipSpace (spaces ++ rest) = skipSpace rest := dropWhile_append_of_pos blank

variable {text : JsString}

theorem skipSpace_cons (skips : skipSpace text = unit :: rest) :
    ∃ spaces, text = spaces ++ unit :: rest ∧ (∀ space ∈ spaces, isJsonSpace space = true) ∧
      isJsonSpace unit = false := by
  induction text with
  | nil => cases skips
  | cons first more ih =>
    cases blank : isJsonSpace first with
    | true =>
      rw [skipSpace, dropWhile_cons_of_pos blank] at skips
      obtain ⟨spaces, same, blanks, solid⟩ := ih skips
      exact ⟨first :: spaces, congrArg (first :: ·) same, forall_mem_cons.mpr ⟨blank, blanks⟩,
        solid⟩
    | false =>
      rw [skipSpace_idle blank] at skips
      cases skips
      exact ⟨[], rfl, forall_mem_nil _, blank⟩

theorem skipSpace_again
    (blank : ∀ space ∈ spaces, isJsonSpace space = true) (solid : isJsonSpace unit = false) :
    skipSpace (spaces ++ unit :: rest) = unit :: rest := by
  rw [skipSpace_spaces blank, skipSpace_idle solid]

theorem Closed.skipSpace (closed : Closed front) :
    ∃ unit rest, skipSpace front = unit :: rest ∧
      ∀ after, Json.skipSpace (front ++ after) = unit :: (rest ++ after) := by
  cases skipped : Json.skipSpace front with
  | nil =>
    obtain ⟨unit, last, solid⟩ := closed
    have blank := dropWhile_eq_nil_iff.mp skipped unit (mem_of_getLast? last)
    rw [solid] at blank
    cases blank
  | cons unit rest =>
    obtain ⟨spaces, same, blank, solid⟩ := skipSpace_cons skipped
    refine ⟨unit, rest, rfl, fun after => ?_⟩
    rw [same, append_assoc, cons_append, skipSpace_again blank solid]

theorem fresh_spaces {spaces after : JsString} {unit : CodeUnit}
    (blank : ∀ space ∈ spaces, isJsonSpace space = true) (other : isNumberPart unit = false) :
    Fresh (spaces ++ unit :: after) := by
  cases spaces with
  | nil => exact fresh_cons other
  | cons space more =>
    have white := blank space mem_cons_self
    simp only [isJsonSpace, Bool.or_eq_true, beq_iff_eq] at white
    apply fresh_cons
    obtain ((same | same) | same) | same := white <;>
    · rw [same]
      decide

theorem readUnits_cases {units : JsString} (read : readUnits text = some (units, rest)) :
    (text = 0x22 :: rest ∧ units = []) ∨
    ∃ piece more unit others, text = piece ++ more ∧ piece ≠ [] ∧ units = unit :: others ∧
      readUnits more = some (others, rest) ∧
      ∀ after, readUnits (piece ++ after) = (readUnits after).map fun read => (unit :: read.1, read.2) := by
  rw [readUnits.eq_def] at read
  split at read
  · cases read
  rename_i unit tail
  split at read
  · rename_i quoted
    cases read
    exact .inl ⟨by rw [quoted], rfl⟩
  rename_i noQuote
  split at read
  · cases read
  rename_i noControl
  split at read
  · rename_i escaped
    subst escaped
    split at read
    · cases read
    rename_i mark body
    split at read
    · rename_i marked
      subst marked
      split at read
      · rename_i first second third fourth more
        split at read
        · rename_i hex
          obtain ⟨found, later, same⟩ := map_eq_some_iff.mp read
          cases same
          exact .inr ⟨[0x5C, 0x75, first, second, third, fourth], more, _, _, rfl, by simp, rfl, later,
            fun after => readUnits_hex hex⟩
        · cases read
      · cases read
    · rename_i noHex
      split at read
      · rename_i short
        obtain ⟨found, later, same⟩ := map_eq_some_iff.mp read
        cases same
        exact .inr ⟨[0x5C, mark], body, _, _, rfl, by simp, rfl, later,
          fun after => readUnits_short noHex short⟩
      · cases read
  · rename_i noEscape
    obtain ⟨found, later, same⟩ := map_eq_some_iff.mp read
    cases same
    exact .inr ⟨[unit], tail, _, _, rfl, by simp, rfl, later,
      fun after => readUnits_plain noQuote noControl noEscape⟩

theorem readUnits_front {units : JsString} (read : readUnits text = some (units, rest)) :
    ∃ front, text = front ++ rest ∧ Closed front ∧
      ∀ after, readUnits (front ++ after) = some (units, after) := by
  generalize size : text.length = length
  induction length using Nat.strong_induction_on generalizing text units with
  | _ length ih =>
    obtain ⟨same, empty⟩ | ⟨piece, more, unit, others, same, some_, units_, later, step⟩ :=
      readUnits_cases read
    · subst same empty
      exact ⟨[0x22], rfl, Closed.single rfl, readUnits_quote⟩
    · subst same units_
      have shorter : more.length < length := by
        have := length_pos_iff.mpr some_
        rw [length_append] at size
        omega
      obtain ⟨front, goes, closed, reads⟩ := ih _ shorter later rfl
      refine ⟨piece ++ front, by rw [goes, append_assoc], closed.append piece, fun after => ?_⟩
      rw [append_assoc, step, reads]
      rfl

theorem not_space_of_digit (digit : isDigit unit = true) :
    isJsonSpace unit = false := by
  simp only [isDigit, Bool.and_eq_true, decide_eq_true_eq, UInt16.le_iff_toNat_le] at digit
  have low : 0x30 ≤ unit.toNat := digit.1
  simp only [isJsonSpace, Bool.or_eq_false_iff, beq_eq_false_iff_ne, ne_eq]
  refine ⟨⟨⟨?_, ?_⟩, ?_⟩, ?_⟩ <;>
  · intro same
    rw [same] at low
    revert low
    decide

theorem fresh_digit {after : JsString} (fresh : Fresh after) :
    ∀ unit, after.head? = some unit → isDigit unit = false := by
  intro unit found
  have other := fresh unit found
  simp only [isNumberPart, Bool.or_eq_false_iff] at other
  exact other.1.1.1

theorem readDigits_front {digits : JsString} (read : readDigits text = some (digits, rest)) :
    text = digits ++ rest ∧ Closed digits ∧
      ∀ after, (∀ unit, after.head? = some unit → isDigit unit = false) →
        readDigits (digits ++ after) = some (digits, after) := by
  obtain ⟨whole, first, head, _⟩ := readDigits_some read
  have all : ∀ unit ∈ digits, isDigit unit = true := by
    unfold readDigits at read
    dsimp only at read
    split at read
    · cases read
    · cases read
      exact fun unit member => mem_takeWhile_imp member
  have some_ : digits ≠ [] := by
    intro empty
    rw [empty] at head
    cases head
  refine ⟨whole, ⟨digits.getLast some_, List.getLast?_eq_some_getLast some_,
    not_space_of_digit (all _ (getLast_mem some_))⟩, fun after stops => ?_⟩
  have takes : (digits ++ after).takeWhile isDigit = digits := by
    rw [takeWhile_append_of_pos all]
    cases after with
    | nil => simp
    | cons unit more => simp [stops unit rfl]
  have drops : (digits ++ after).dropWhile isDigit = after := by
    rw [dropWhile_append_of_pos all]
    cases after with
    | nil => rfl
    | cons unit more => simp [stops unit rfl]
  simp only [readDigits, takes, drops, some_, if_false]

theorem readFraction_front {decimals : JsString} (read : readFraction text = some (decimals, rest)) :
    ∃ front, text = front ++ rest ∧ (front = [] ∨ (front.head? = some 0x2E ∧ Closed front)) ∧
      ∀ after, (∀ unit, after.head? = some unit → isDigit unit = false ∧ unit ≠ 0x2E) →
        readFraction (front ++ after) = some (decimals, after) := by
  have idle (after : JsString)
      (stops : ∀ unit, after.head? = some unit → isDigit unit = false ∧ unit ≠ 0x2E) :
      readFraction after = some ([], after) := by
    cases after with
    | nil => rfl
    | cons unit more => exact if_neg (stops unit rfl).2
  unfold readFraction at read
  split at read
  · cases read
    exact ⟨[], rfl, .inl rfl, idle⟩
  · rename_i unit tail
    split at read
    · rename_i point
      subst point
      obtain ⟨same, closed, reads⟩ := readDigits_front read
      refine ⟨0x2E :: decimals, by rw [same, cons_append], .inr ⟨rfl, closed.cons _⟩,
        fun after stops => ?_⟩
      rw [cons_append, readFraction, if_pos rfl, reads after fun unit found => (stops unit found).1]
    · cases read
      exact ⟨[], rfl, .inl rfl, idle⟩

theorem readSigned_front {exponent : Bool × JsString} (read : readSigned text = some (exponent, rest)) :
    ∃ front, text = front ++ rest ∧ Closed front ∧
      ∀ after, (∀ unit, after.head? = some unit → isDigit unit = false) →
        readSigned (front ++ after) = some (exponent, after) := by
  unfold readSigned at read
  split at read
  · cases read
  rename_i unit tail
  split at read
  · rename_i minus
    subst minus
    obtain ⟨found, digits, same⟩ := map_eq_some_iff.mp read
    cases same
    obtain ⟨same, closed, reads⟩ := readDigits_front digits
    refine ⟨0x2D :: found.1, by rw [same, cons_append], closed.cons _, fun after stops => ?_⟩
    rw [cons_append, readSigned, if_pos rfl, reads after stops]
    rfl
  rename_i noMinus
  split at read
  · rename_i plus
    subst plus
    obtain ⟨found, digits, same⟩ := map_eq_some_iff.mp read
    cases same
    obtain ⟨same, closed, reads⟩ := readDigits_front digits
    refine ⟨0x2B :: found.1, by rw [same, cons_append], closed.cons _, fun after stops => ?_⟩
    rw [cons_append, readSigned, if_neg noMinus, if_pos rfl, reads after stops]
    rfl
  · rename_i noPlus
    obtain ⟨found, digits, same⟩ := map_eq_some_iff.mp read
    cases same
    obtain ⟨same, closed, reads⟩ := readDigits_front digits
    refine ⟨found.1, same, closed, fun after stops => ?_⟩
    have again := reads after stops
    cases front : found.1 with
    | nil => exact absurd front closed.ne_nil
    | cons first more =>
      rw [front, cons_append] at same again
      cases same
      rw [cons_append, readSigned, if_neg noMinus, if_neg noPlus, again]
      rfl

theorem readExponent_front {exponent : Bool × JsString} (read : readExponent text = some (exponent, rest)) :
    ∃ front, text = front ++ rest ∧
      (front = [] ∨ ((front.head? = some 0x65 ∨ front.head? = some 0x45) ∧ Closed front)) ∧
      ∀ after, Fresh after → readExponent (front ++ after) = some (exponent, after) := by
  have idle (after : JsString) (fresh : Fresh after) : readExponent after = some ((false, []), after) := by
    cases after with
    | nil => rfl
    | cons unit more =>
      have other := fresh unit rfl
      simp only [isNumberPart, Bool.or_eq_false_iff, beq_eq_false_iff_ne] at other
      simp [readExponent, other.1.2, other.2]
  unfold readExponent at read
  split at read
  · cases read
    exact ⟨[], rfl, .inl rfl, idle⟩
  · rename_i unit tail
    split at read
    · rename_i mark
      obtain ⟨front, same, closed, reads⟩ := readSigned_front read
      have marked : unit = 0x65 ∨ unit = 0x45 := by simpa using mark
      refine ⟨unit :: front, by rw [same, cons_append],
        .inr ⟨marked.imp (congrArg some) (congrArg some), closed.cons _⟩, fun after fresh => ?_⟩
      rw [cons_append, readExponent, if_pos mark, reads after (fresh_digit fresh)]
    · cases read
      exact ⟨[], rfl, .inl rfl, idle⟩

theorem readUnsigned_front {negative : Bool} {sign body rest : JsString} {value : Json}
    (read : readUnsigned negative (sign ++ body) body = some (value, rest)) :
    ∃ front, body = front ++ rest ∧ Closed front ∧ ∀ after, Fresh after →
      readUnsigned negative (sign ++ (front ++ after)) (front ++ after) = some (value, after) := by
  obtain ⟨⟨whole, afterWhole⟩, digits, read⟩ := bind_eq_some_iff.mp read
  dsimp only at read
  split at read
  · cases read
  rename_i noZeros
  obtain ⟨⟨decimals, afterDecimals⟩, fraction, read⟩ := bind_eq_some_iff.mp read
  obtain ⟨⟨exponent, left⟩, scale, read⟩ := bind_eq_some_iff.mp read
  dsimp only at scale
  cases read
  obtain ⟨sameWhole, closedWhole, readsWhole⟩ := readDigits_front digits
  obtain ⟨point, samePoint, pointed, readsPoint⟩ := readFraction_front fraction
  obtain ⟨power, samePower, powered, readsPower⟩ := readExponent_front scale
  have marks (after : JsString) (fresh : Fresh after) :
      ∀ unit, (power ++ after).head? = some unit → isDigit unit = false ∧ unit ≠ 0x2E := by
    intro unit found
    obtain rfl | ⟨headed, _⟩ := powered
    · have other := fresh unit found
      simp only [isNumberPart, Bool.or_eq_false_iff, beq_eq_false_iff_ne] at other
      exact ⟨other.1.1.1, other.1.1.2⟩
    · obtain headed | headed := headed <;>
      · rw [List.head?_append, headed, some_or] at found
        cases found
        decide
  have points (after : JsString) (fresh : Fresh after) :
      ∀ unit, (point ++ (power ++ after)).head? = some unit → isDigit unit = false := by
    intro unit found
    obtain rfl | ⟨headed, _⟩ := pointed
    · exact (marks after fresh unit found).1
    · rw [List.head?_append, headed, some_or] at found
      cases found
      decide
  have closed : Closed (whole ++ (point ++ power)) := by
    obtain rfl | ⟨_, last⟩ := powered
    · obtain rfl | ⟨_, last⟩ := pointed
      · simpa using closedWhole
      · simpa using last.append whole
    · exact (last.append point).append whole
  have literal (after : JsString) :
      (sign ++ (whole ++ (point ++ power) ++ after)).take
        ((sign ++ (whole ++ (point ++ power) ++ after)).length - after.length) =
        sign ++ (whole ++ (point ++ power)) := by
    rw [← append_assoc, length_append, Nat.add_sub_cancel, take_left]
  have same : body = whole ++ (point ++ power) ++ left := by
    rw [sameWhole, samePoint, samePower]
    simp only [append_assoc]
  refine ⟨_, same, closed, fun after fresh => ?_⟩
  have front : readDigits (whole ++ (point ++ power) ++ after) =
      some (whole, point ++ (power ++ after)) := by
    rw [append_assoc, append_assoc]
    exact readsWhole _ (points after fresh)
  rw [readUnsigned, front]
  change (if whole.head? = some 0x30 ∧ 1 < whole.length then none else _) = _
  rw [if_neg noZeros, readsPoint _ (marks after fresh)]
  change (readExponent (power ++ after)).bind _ = _
  rw [readsPower after fresh, same]
  simp only [bind_some, literal]
  rfl

variable {value : Json}

theorem readNumber_front (read : readNumber text = some (value, rest)) :
    ∃ front, text = front ++ rest ∧ Closed front ∧
      ∀ after, Fresh after → readNumber (front ++ after) = some (value, after) := by
  unfold readNumber at read
  split at read
  · cases read
  rename_i unit tail
  split at read
  · rename_i minus
    subst minus
    obtain ⟨front, same, closed, reads⟩ := @readUnsigned_front true [0x2D] tail rest value read
    refine ⟨0x2D :: front, by rw [same, cons_append], closed.cons _, fun after fresh => ?_⟩
    rw [cons_append, readNumber, if_pos rfl]
    exact reads after fresh
  · rename_i noMinus
    obtain ⟨front, same, closed, reads⟩ := @readUnsigned_front false [] (unit :: tail) rest value read
    refine ⟨front, same, closed, fun after fresh => ?_⟩
    have again := reads after fresh
    cases front with
    | nil => exact absurd rfl closed.ne_nil
    | cons first more =>
      cases same
      rw [cons_append, readNumber, if_neg noMinus]
      exact again

theorem numeric_head (read : readNumber text = some (value, rest)) :
    ∃ unit more, text = unit :: more ∧ (unit = 0x2D ∨ isDigit unit = true) := by
  unfold readNumber at read
  split at read
  · cases read
  rename_i unit more
  refine ⟨unit, more, rfl, ?_⟩
  split at read
  · rename_i minus
    exact .inl minus
  · obtain ⟨⟨whole, afterWhole⟩, digits, _⟩ := bind_eq_some_iff.mp read
    obtain ⟨same, digit, head, decimal⟩ := readDigits_some digits
    have first : (whole ++ afterWhole).head? = some unit := by rw [← same]; rfl
    rw [List.head?_append, head, some_or] at first
    cases first
    exact .inr decimal

theorem readWord_some {word : JsString} {read : Json}
    (reads : readWord word value text = some (read, rest)) : text = word ++ rest ∧ value = read := by
  unfold readWord at reads
  split at reads
  · rename_i starts
    cases reads
    obtain ⟨more, same⟩ := isPrefixOf_iff_prefix.mp starts
    subst same
    exact ⟨by rw [drop_left], rfl⟩
  · cases reads

theorem readValue_list (fuel : Nat) (opens : ∀ more, skipSpace rest ≠ 0x5D :: more) :
    readValue (fuel + 1) (0x5B :: rest) =
      (readItems fuel rest).map fun read => (.array read.1, read.2) := by
  rw [readValue, skipSpace_idle rfl]
  simp only [show ((0x5B : CodeUnit) = 0x22) = False by decide, if_false, if_true]

theorem readValue_object (fuel : Nat) (opens : ∀ more, skipSpace rest ≠ 0x7D :: more) :
    readValue (fuel + 1) (0x7B :: rest) =
      (readMembers fuel rest).map fun read => (.object (read.1.foldl putMember []), read.2) := by
  rw [readValue, skipSpace_idle rfl]
  simp only [show ((0x7B : CodeUnit) = 0x22) = False by decide,
    show ((0x7B : CodeUnit) = 0x5B) = False by decide, if_false, if_true]

section Rules

variable {front behind before gap name key : JsString} {unit : CodeUnit} {item value : Json}
  {items : List Json} {members : List (JsString × Json)}

theorem Front.after_spaces (takes : Front readValue front value)
    (blank : ∀ unit ∈ before, isJsonSpace unit = true) : Front readValue (before ++ front) value := by
  refine ⟨takes.closed.append before, fun fuel after enough fresh => ?_⟩
  rw [length_append] at enough
  have some_ : 0 < front.length := length_pos_iff.mpr takes.closed.ne_nil
  obtain ⟨less, rfl⟩ : ∃ less, fuel = less + 1 := ⟨fuel - 1, by omega⟩
  have read := takes.reads (less + 1) after (by omega) fresh
  rw [readValue] at read
  rwa [readValue, append_assoc, skipSpace_spaces blank]

theorem front_unit (closed : Closed (unit :: front))
    (reads : ∀ fuel after, 2 * front.length ≤ fuel → Fresh after →
      readValue (fuel + 1) (unit :: (front ++ after)) = some (value, after)) :
    Front readValue (unit :: front) value := by
  refine ⟨closed, fun fuel after enough fresh => ?_⟩
  rw [length_cons] at enough
  obtain ⟨less, rfl⟩ : ∃ less, fuel = less + 1 := ⟨fuel - 1, by omega⟩
  exact reads less after (by omega) fresh

theorem front_word {word rest : JsString} (spelled : word = unit :: rest) (closed : Closed word)
    (chosen : ∀ fuel after, readValue (fuel + 1) (word ++ after) = readWord word value (word ++ after)) :
    Front readValue word value := by
  subst spelled
  refine front_unit closed fun fuel after _ _ => ?_
  have starts : (unit :: rest).isPrefixOf (unit :: rest ++ after) = true :=
    isPrefixOf_iff_prefix.mpr (prefix_append _ _)
  have read := chosen fuel after
  rw [readWord, if_pos starts, drop_left] at read
  exact read

theorem front_text (closed : Closed name) (named : ∀ after, readUnits (name ++ after) = some (key, after)) :
    Front readValue (0x22 :: name) (.string key) := by
  refine front_unit (closed.cons _) fun fuel after _ _ => ?_
  rw [readValue, skipSpace_idle rfl]
  simp only [if_true, named, map_some]

theorem front_number {literal : JsString} (closed : Closed literal)
    (read : ∀ after, Fresh after → readNumber (literal ++ after) = some (value, after)) :
    Front readValue literal value := by
  obtain ⟨unit, rest, spelled, numeric⟩ := numeric_head (read [] Fresh.nil)
  rw [append_nil] at spelled
  have other {mark : CodeUnit} (word : ¬ (mark = 0x2D ∨ isDigit mark = true)) : unit ≠ mark :=
    fun same => word (same ▸ numeric)
  have solid : isJsonSpace unit = false := by
    obtain same | digit := numeric
    · rw [same]
      rfl
    · exact not_space_of_digit digit
  rw [spelled] at closed read ⊢
  refine front_unit closed fun fuel after _ fresh => ?_
  rw [readValue, skipSpace_idle solid]
  simp only [@other 0x22 (by decide), @other 0x5B (by decide), @other 0x7B (by decide),
    @other 0x74 (by decide), @other 0x66 (by decide), @other 0x6E (by decide), if_false]
  exact read after fresh

theorem Front.items_last (takes : Front readValue front item)
    (blank : ∀ unit ∈ gap, isJsonSpace unit = true) :
    Front readItems (front ++ (gap ++ [0x5D])) [item] := by
  refine ⟨((Closed.single rfl).append _).append _, fun fuel after enough fresh => ?_⟩
  simp only [length_append, length_singleton] at enough
  obtain ⟨less, rfl⟩ : ∃ less, fuel = less + 1 := ⟨fuel - 1, by omega⟩
  have read := takes.reads less (gap ++ 0x5D :: after) (by omega) (fresh_spaces blank rfl)
  rw [readItems, append_assoc, append_assoc, singleton_append, read]
  simp only [bind_eq_bind, bind_some, skipSpace_again blank (show isJsonSpace 0x5D = false from rfl)]

theorem Front.items_cons (takes : Front readValue front item) (others : Front readItems behind items)
    (blank : ∀ unit ∈ gap, isJsonSpace unit = true) :
    Front readItems (front ++ (gap ++ 0x2C :: behind)) (item :: items) := by
  refine ⟨((others.closed.cons _).append _).append _, fun fuel after enough fresh => ?_⟩
  simp only [length_append, length_cons] at enough
  obtain ⟨less, rfl⟩ : ∃ less, fuel = less + 1 := ⟨fuel - 1, by omega⟩
  have read := takes.reads less (gap ++ 0x2C :: (behind ++ after)) (by omega) (fresh_spaces blank rfl)
  have later := others.reads less after (by omega) fresh
  rw [readItems, append_assoc, append_assoc, cons_append, read]
  simp only [bind_eq_bind, bind_some,
    skipSpace_again blank (show isJsonSpace 0x2C = false from rfl), later, map_some]

theorem readMembers_key {text : JsString} (fuel : Nat)
    (named : ∀ after, readUnits (name ++ after) = some (key, after))
    (first : ∀ unit ∈ before, isJsonSpace unit = true) (mid : ∀ unit ∈ gap, isJsonSpace unit = true) :
    readMembers (fuel + 1) (before ++ 0x22 :: (name ++ (gap ++ 0x3A :: text))) =
      (readValue fuel text).bind fun read => match skipSpace read.2 with
        | 0x2C :: more => (readMembers fuel more).map fun others => ((key, read.1) :: others.1, others.2)
        | 0x7D :: more => some ([(key, read.1)], more)
        | _ => none := by
  rw [readMembers, skipSpace_again first rfl]
  simp only [named, bind_eq_bind, bind_some, skipSpace_again mid (show isJsonSpace 0x3A = false from rfl)]
  -- The two sides name their `match` apart.
  all_goals rfl

theorem Front.members_last {spaces : JsString} (takes : Front readValue front value)
    (named : ∀ after, readUnits (name ++ after) = some (key, after))
    (first : ∀ unit ∈ before, isJsonSpace unit = true) (mid : ∀ unit ∈ gap, isJsonSpace unit = true)
    (blank : ∀ unit ∈ spaces, isJsonSpace unit = true) :
    Front readMembers (before ++ 0x22 :: (name ++ (gap ++ 0x3A :: (front ++ (spaces ++ [0x7D])))))
      [(key, value)] := by
  have closed : Closed (front ++ (spaces ++ [0x7D])) := ((Closed.single rfl).append _).append _
  refine ⟨((((closed.cons _).append _).append _).cons _).append _, fun fuel after enough fresh => ?_⟩
  simp only [length_append, length_cons, length_nil] at enough
  obtain ⟨less, rfl⟩ : ∃ less, fuel = less + 1 := ⟨fuel - 1, by omega⟩
  have read := takes.reads less (spaces ++ 0x7D :: after) (by omega) (fresh_spaces blank rfl)
  have spelled := @readMembers_key _ _ _ _ (front ++ (spaces ++ 0x7D :: after)) less named first mid
  rw [read] at spelled
  simp only [bind_some, skipSpace_again blank (show isJsonSpace 0x7D = false from rfl)] at spelled
  simpa only [append_assoc, cons_append, nil_append] using spelled

theorem Front.members_cons {spaces : JsString} (takes : Front readValue front value)
    (others : Front readMembers behind members)
    (named : ∀ after, readUnits (name ++ after) = some (key, after))
    (first : ∀ unit ∈ before, isJsonSpace unit = true) (mid : ∀ unit ∈ gap, isJsonSpace unit = true)
    (blank : ∀ unit ∈ spaces, isJsonSpace unit = true) :
    Front readMembers (before ++ 0x22 :: (name ++ (gap ++ 0x3A :: (front ++ (spaces ++ 0x2C :: behind)))))
      ((key, value) :: members) := by
  have closed : Closed (front ++ (spaces ++ 0x2C :: behind)) := ((others.closed.cons _).append _).append _
  refine ⟨((((closed.cons _).append _).append _).cons _).append _, fun fuel after enough fresh => ?_⟩
  simp only [length_append, length_cons] at enough
  obtain ⟨less, rfl⟩ : ∃ less, fuel = less + 1 := ⟨fuel - 1, by omega⟩
  have read := takes.reads less (spaces ++ 0x2C :: (behind ++ after)) (by omega) (fresh_spaces blank rfl)
  have later := others.reads less after (by omega) fresh
  have spelled := @readMembers_key _ _ _ _ (front ++ (spaces ++ 0x2C :: (behind ++ after))) less
    named first mid
  rw [read] at spelled
  simp only [bind_some, skipSpace_again blank (show isJsonSpace 0x2C = false from rfl), later,
    map_some] at spelled
  simpa only [append_assoc, cons_append] using spelled

theorem open_bracket {front rest : JsString} {mark : CodeUnit} (closed : Closed front)
    (opens : ∀ more, skipSpace (front ++ rest) ≠ mark :: more) (after : JsString) :
    ∀ more, skipSpace (front ++ after) ≠ mark :: more := by
  obtain ⟨unit, others, _, starts⟩ := closed.skipSpace
  intro more same
  rw [starts] at same
  cases same
  exact opens _ (starts rest)

theorem readValue_bracket {text more : JsString} (fuel : Nat) (starts : skipSpace text = 0x5D :: more) :
    readValue fuel text = none := by
  cases fuel with
  | zero => rfl
  | succ fuel =>
    rw [readValue, starts]
    rfl

theorem Front.opens_list (takes : Front readItems behind items) (after more : JsString) :
    skipSpace (behind ++ after) ≠ 0x5D :: more := by
  refine @open_bracket behind [] _ takes.closed (fun more starts => ?_) after more
  have read := takes.reads (2 * behind.length + 1) [] (by omega) Fresh.nil
  rw [readItems, readValue_bracket _ starts] at read
  cases read

theorem Front.opens_object (takes : Front readMembers behind members) (after more : JsString) :
    skipSpace (behind ++ after) ≠ 0x7D :: more := by
  refine @open_bracket behind [] _ takes.closed (fun more starts => ?_) after more
  have read := takes.reads (2 * behind.length + 1) [] (by omega) Fresh.nil
  rw [readMembers, starts] at read
  cases read

theorem Front.list (takes : Front readItems behind items) :
    Front readValue (0x5B :: behind) (.array items) := by
  refine front_unit (takes.closed.cons _) fun fuel after enough fresh => ?_
  rw [readValue_list fuel (takes.opens_list after), takes.reads fuel after enough fresh, map_some]

theorem Front.braced (takes : Front readMembers behind members) :
    Front readValue (0x7B :: behind) (.object (members.foldl putMember [])) := by
  refine front_unit (takes.closed.cons _) fun fuel after enough fresh => ?_
  rw [readValue_object fuel (takes.opens_object after), takes.reads fuel after enough fresh, map_some]

theorem front_no_items (blank : ∀ unit ∈ gap, isJsonSpace unit = true) :
    Front readValue (0x5B :: (gap ++ [0x5D])) (.array []) := by
  refine front_unit (((Closed.single rfl).append gap).cons _) fun fuel after _ _ => ?_
  rw [readValue, skipSpace_idle rfl]
  simp only [show ((0x5B : CodeUnit) = 0x22) = False by decide, if_false, if_true, append_assoc,
    singleton_append, skipSpace_again blank (show isJsonSpace 0x5D = false from rfl)]

theorem front_no_members (blank : ∀ unit ∈ gap, isJsonSpace unit = true) :
    Front readValue (0x7B :: (gap ++ [0x7D])) (.object []) := by
  refine front_unit (((Closed.single rfl).append gap).cons _) fun fuel after _ _ => ?_
  rw [readValue, skipSpace_idle rfl]
  simp only [show ((0x7B : CodeUnit) = 0x22) = False by decide,
    show ((0x7B : CodeUnit) = 0x5B) = False by decide, if_false, if_true, append_assoc,
    singleton_append, skipSpace_again blank (show isJsonSpace 0x7D = false from rfl)]

end Rules

theorem front_rule :
    ReadRule (fun text value rest => ∃ front, text = front ++ rest ∧ Front readValue front value)
      (fun text items rest => ∃ front, text = front ++ rest ∧ Front readItems front items)
      (fun text members rest => ∃ front, text = front ++ rest ∧ Front readMembers front members) where
  spaces skipped read := by
    obtain ⟨spaces, rfl, blank, -⟩ := skipSpace_cons skipped
    obtain ⟨front, same, takes⟩ := read
    exact ⟨spaces ++ front, by rw [same, append_assoc], takes.after_spaces blank⟩
  quoted units := by
    obtain ⟨front, same, closed, reads⟩ := readUnits_front units
    exact ⟨0x22 :: front, by rw [same]; rfl, front_text closed reads⟩
  nothing emptied := by
    obtain ⟨gap, same, white, -⟩ := skipSpace_cons emptied
    exact ⟨0x5B :: (gap ++ [0x5D]), by simp [same], front_no_items white⟩
  list read := by
    obtain ⟨front, same, takes⟩ := read
    exact ⟨0x5B :: front, by rw [same]; rfl, takes.list⟩
  empty emptied := by
    obtain ⟨gap, same, white, -⟩ := skipSpace_cons emptied
    exact ⟨0x7B :: (gap ++ [0x7D]), by simp [same], front_no_members white⟩
  braced read := by
    obtain ⟨front, same, takes⟩ := read
    exact ⟨0x7B :: front, by rw [same]; rfl, takes.braced⟩
  word listed read := by
    obtain ⟨same, rfl⟩ := readWord_some read
    refine ⟨_, same, ?_⟩
    simp only [mem_cons, Prod.mk.injEq, not_mem_nil, or_false] at listed
    rcases listed with ⟨rfl, rfl⟩ | ⟨rfl, rfl⟩ | ⟨rfl, rfl⟩
    · exact front_word rfl ⟨0x65, rfl, rfl⟩ fun _ _ => rfl
    · exact front_word rfl ⟨0x65, rfl, rfl⟩ fun _ _ => rfl
    · exact front_word rfl ⟨0x6C, rfl, rfl⟩ fun _ _ => rfl
  number read := by
    obtain ⟨front, same, closed, reads⟩ := readNumber_front read
    exact ⟨front, same, front_number closed reads⟩
  item first skipped := by
    obtain ⟨front, same, takes⟩ := first
    obtain ⟨spaces, gap, blank, -⟩ := skipSpace_cons skipped
    exact ⟨front ++ (spaces ++ [0x5D]), by simp [same, gap], takes.items_last blank⟩
  items first skipped others := by
    obtain ⟨front, same, takes⟩ := first
    obtain ⟨spaces, gap, blank, -⟩ := skipSpace_cons skipped
    obtain ⟨behind, goes, next⟩ := others
    exact ⟨front ++ (spaces ++ 0x2C :: behind), by simp [same, gap, goes], takes.items_cons next blank⟩
  member opened units marked first skipped := by
    obtain ⟨margin, rfl, open_, -⟩ := skipSpace_cons opened
    obtain ⟨name, rfl, -, named⟩ := readUnits_front units
    obtain ⟨gap, rfl, white, -⟩ := skipSpace_cons marked
    obtain ⟨front, rfl, takes⟩ := first
    obtain ⟨spaces, rfl, blank, -⟩ := skipSpace_cons skipped
    exact ⟨_, by simp, takes.members_last named open_ white blank⟩
  members opened units marked first skipped others := by
    obtain ⟨margin, rfl, open_, -⟩ := skipSpace_cons opened
    obtain ⟨name, rfl, -, named⟩ := readUnits_front units
    obtain ⟨gap, rfl, white, -⟩ := skipSpace_cons marked
    obtain ⟨front, rfl, takes⟩ := first
    obtain ⟨spaces, rfl, blank, -⟩ := skipSpace_cons skipped
    obtain ⟨behind, rfl, next⟩ := others
    exact ⟨_, by simp, takes.members_cons next named open_ white blank⟩

theorem fresh_blank (blank : ∀ unit ∈ spaces, isJsonSpace unit = true) :
    Fresh spaces := by
  cases spaces with
  | nil => exact Fresh.nil
  | cons space more =>
    have fresh := @fresh_spaces [space] [] 0x20 (forall_mem_singleton.mpr (blank space mem_cons_self)) rfl
    exact fun unit found => fresh unit found

theorem parse_of_front (takes : Front readValue front value)
    (blank : ∀ unit ∈ spaces, isJsonSpace unit = true) : parse (front ++ spaces) = some value := by
  have read := takes.reads (2 * (front ++ spaces).length + 1) spaces
    (by rw [length_append]; omega) (fresh_blank blank)
  rw [parse, read]
  exact if_pos (dropWhile_eq_nil_iff.mpr blank)

theorem front_of_parse (parsed : parse text = some value) :
    ∃ front spaces, text = front ++ spaces ∧ Front readValue front value ∧
      ∀ unit ∈ spaces, isJsonSpace unit = true := by
  unfold parse at parsed
  split at parsed
  · rename_i found rest read
    split at parsed
    · rename_i blank
      cases parsed
      obtain ⟨front, same, takes⟩ := (front_rule.holds _).1 read
      exact ⟨front, rest, same, takes, dropWhile_eq_nil_iff.mp blank⟩
    · cases parsed
  · cases parsed

variable (blank : ∀ unit ∈ spaces, isJsonSpace unit = true)

include blank

theorem readValue_spaces (fuel : Nat) (text : JsString) :
    readValue fuel (spaces ++ text) = readValue fuel text := by
  cases fuel with
  | zero => rfl
  | succ fuel => rw [readValue, readValue, skipSpace_spaces blank]

theorem parse_spaces_append (text : JsString) : parse (spaces ++ text) = parse text := by
  apply Option.ext
  intro value
  constructor
  · intro parsed
    unfold parse at parsed
    rw [readValue_spaces blank] at parsed
    split at parsed
    · rename_i found rest read
      split at parsed
      · rename_i left
        cases parsed
        obtain ⟨front, same, takes⟩ := (front_rule.holds _).1 read
        rw [same]
        exact parse_of_front takes (dropWhile_eq_nil_iff.mp left)
      · cases parsed
    · cases parsed
  · intro parsed
    obtain ⟨front, left, same, takes, white⟩ := front_of_parse parsed
    have further : Front readValue (spaces ++ front) value := by
      constructor
      · exact takes.closed.append spaces
      · intro fuel after enough fresh
        rw [append_assoc, readValue_spaces blank]
        rw [length_append] at enough
        exact takes.reads fuel after (by omega) fresh
    rw [same, ← append_assoc]
    exact parse_of_front further white

theorem parse_append_spaces (text : JsString) : parse (text ++ spaces) = parse text := by
  apply Option.ext
  intro value
  constructor
  · intro parsed
    obtain ⟨front, left, same, takes, white⟩ := front_of_parse parsed
    obtain ⟨between, shorter, longer⟩ | ⟨between, longer, shorter⟩ := append_eq_append_iff.mp same
    · -- the front ends inside the white space, so it ends with the text
      have empty : between = [] := by
        obtain ⟨unit, last, solid⟩ := takes.closed
        cases between with
        | nil => rfl
        | cons first more =>
          rw [shorter, List.getLast?_append_of_ne_nil _ (cons_ne_nil _ _)] at last
          have white := blank unit
            (by rw [longer]; exact mem_append_left _ (mem_of_getLast? last))
          rw [white] at solid
          cases solid
      rw [empty, append_nil] at shorter
      have again := parse_of_front takes (forall_mem_nil _)
      rwa [append_nil, shorter] at again
    · rw [longer]
      exact parse_of_front takes fun unit member => white unit
        (by rw [shorter]; exact mem_append_left _ member)
  · intro parsed
    obtain ⟨front, left, same, takes, white⟩ := front_of_parse parsed
    rw [same, append_assoc]
    exact parse_of_front takes fun unit member =>
      (mem_append.mp member).elim (white unit) (blank unit)

end CouncilKit.Data.Json
