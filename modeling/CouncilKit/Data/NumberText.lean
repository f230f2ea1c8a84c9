import Mathlib
import CouncilKit.Data.Binary64
import CouncilKit.Data.JsonParse

namespace CouncilKit.Data

open Json JsString List Regex Option

/-- The double nearest to a value; `none` is an infinity.  Integers of 53 bits are
doubles, and half of the least double rounds to zero. -/
def toBinary64 (value : ℚ) : Option ℚ :=
  if value.den = 1 ∧ value.num.natAbs ≤ 2 ^ 53 then some value
  else if |value| ≤ powerOfTwo (-1075) then some 0
  else
    let size := roundBinary64 |value|
    if size < powerOfTwo 1024 then some (if value < 0 then -size else size) else none

def radixOf (mark : CodeUnit) : Option Nat :=
  if mark = 0x78 ∨ mark = 0x58 then some 16
  else if mark = 0x6F ∨ mark = 0x4F then some 8
  else if mark = 0x62 ∨ mark = 0x42 then some 2
  else none

/-- `0x`, `0o` and `0b` literals take no sign. -/
def prefixed : JsString → Option (Nat × JsString)
  | zero :: mark :: digits =>
    if zero = 0x30 then (radixOf mark).map fun radix => (radix, digits) else none
  | _ => none

def radixNumber (radix : Nat) (digits : JsString) : Option ℚ :=
  if digits ≠ [] ∧ digits.all (fun digit => isHexDigit digit && hexValue (lowerAscii digit) < radix)
  then some ((digits.foldl (fun value digit => value * radix + hexValue (lowerAscii digit)) 0 : Nat) : ℚ)
  else none

def decimalNumber (text : JsString) : Option ℚ :=
  let whole := text.takeWhile isDigit
  let afterWhole := text.dropWhile isDigit
  let (decimals, afterDecimals) :=
    if afterWhole.head? = some 0x2E then
      (afterWhole.tail.takeWhile isDigit, afterWhole.tail.dropWhile isDigit)
    else ([], afterWhole)
  if whole ++ decimals = [] then none
  else match readExponent afterDecimals with
    | some (exponent, []) =>
      let scale : ℚ := 10 ^ decimalValue exponent.2
      let mantissa : ℚ := decimalValue (whole ++ decimals) / 10 ^ decimals.length
      some (if exponent.1 then mantissa / scale else mantissa * scale)
    | _ => none

def signedDecimal : JsString → Option ℚ
  | [] => none
  | unit :: rest =>
    if unit = 0x2D then (decimalNumber rest).map (- ·)
    else if unit = 0x2B then decimalNumber rest
    else decimalNumber (unit :: rest)

/-- `Number(text)`; `none` when it is not finite. -/
def numberOfText (text : JsString) : Option ℚ :=
  let body := text.trim
  if body = [] then some 0
  else match prefixed body with
    | some (radix, digits) => (radixNumber radix digits).bind toBinary64
    | none => (signedDecimal body).bind toBinary64

/-- `Number(text)` when `Number.isInteger` says so. -/
def integerOfText (text : JsString) : Option Int :=
  (numberOfText text).bind fun value => if value.den = 1 then some value.num else none

theorem decimalValue_ofNat (value : Nat) : decimalValue (ofNat value) = value := by
  have folds (digits : List Char) (start : Nat)
      (decimal : ∀ digit ∈ digits, 0x30 ≤ digit.toNat ∧ digit.toNat ≤ 0x39) :
      (digits.map fun digit => digit.toNat.toUInt16).foldl
        (fun value digit => value * 10 + (digit.toNat - 0x30)) start =
        Nat.ofDigitChars 10 digits start := by
    induction digits generalizing start with
    | nil => rfl
    | cons digit rest ih =>
      have here := decimal digit mem_cons_self
      have unit : digit.toNat.toUInt16.toNat = digit.toNat := by
        simp only [Nat.toUInt16, UInt16.toNat_ofNat']
        omega
      have zero : '0'.toNat = 0x30 := rfl
      rw [map_cons, foldl_cons, Nat.ofDigitChars_cons, unit, zero, Nat.mul_comm start 10,
        ih _ fun other member => decimal other (mem_cons_of_mem _ member)]
  rw [decimalValue, ofNat_eq, folds _ _ fun digit member => decimal_toDigits member]
  simp

theorem toBinary64_integer {value : Int} (small : value.natAbs ≤ 2 ^ 53) :
    toBinary64 value = some (value : ℚ) := if_pos ⟨rfl, small⟩

theorem takeWhile_digits (value : Nat) : (ofNat value).takeWhile isDigit = ofNat value ∧
    (ofNat value).dropWhile isDigit = [] := by
  have digits : ∀ unit ∈ ofNat value, isDigit unit = true := fun unit => isDigit_ofNat
  exact ⟨takeWhile_eq_self_iff.mpr digits, dropWhile_eq_nil_iff.mpr digits⟩

theorem decimalNumber_ofNat (value : Nat) : decimalNumber (ofNat value) = some (value : ℚ) := by
  have some_ : ofNat value ≠ [] := length_pos_iff.mp (length_ofNat_pos value)
  obtain ⟨takes, drops⟩ := takeWhile_digits value
  have none_ : decimalValue [] = 0 := rfl
  simp [decimalNumber, takes, drops, some_, readExponent, decimalValue_ofNat, none_]

theorem not_isSpace_of_isDigit {unit : CodeUnit} (digit : isDigit unit = true) : isSpace unit = false := by
  simp only [isDigit, Bool.and_eq_true, decide_eq_true_eq, UInt16.le_iff_toNat_le] at digit
  obtain ⟨least, most⟩ := digit
  change 0x30 ≤ unit.toNat at least
  change unit.toNat ≤ 0x39 at most
  generalize named : unit.toNat = value at least most
  have same : unit = value.toUInt16 := by
    rw [← named]
    simp
  rw [same]
  interval_cases value <;> rfl

theorem trim_of_ends {text : JsString} (first : ∀ unit, text.head? = some unit → isSpace unit = false)
    (last : ∀ unit, text.getLast? = some unit → isSpace unit = false) : text.trim = text := by
  have keeps (text : JsString) (opens : ∀ unit, text.head? = some unit → isSpace unit = false) :
      text.dropWhile isSpace = text := by
    cases text with
    | nil => rfl
    | cons unit rest => simp [opens unit rfl]
  rw [JsString.trim, trimStart, keeps text first, trimEnd, keeps text.reverse, reverse_reverse]
  intro unit found
  rw [List.head?_reverse] at found
  exact last unit found

theorem trim_ofNat (value : Nat) : (ofNat value).trim = ofNat value :=
  trim_of_ends (fun _ found => not_isSpace_of_isDigit (isDigit_ofNat (mem_of_head? found)))
    fun _ found => not_isSpace_of_isDigit (isDigit_ofNat (mem_of_getLast? found))

theorem radixOf_digit {unit : CodeUnit} (digit : isDigit unit = true) :
    radixOf unit = none := by
  have other (letter : CodeUnit) (outside : isDigit letter = false) : unit ≠ letter := by
    intro same
    rw [same, outside] at digit
    contradiction
  rw [radixOf, if_neg, if_neg, if_neg]
  · exact not_or.mpr ⟨other _ (by decide), other _ (by decide)⟩
  · exact not_or.mpr ⟨other _ (by decide), other _ (by decide)⟩
  · exact not_or.mpr ⟨other _ (by decide), other _ (by decide)⟩

theorem prefixed_digits {text : JsString} (digits : ∀ unit ∈ text, isDigit unit = true) :
    prefixed text = none := by
  cases text with
  | nil => rfl
  | cons zero rest =>
    cases rest with
    | nil => rfl
    | cons mark rest =>
      have none_ := radixOf_digit (digits mark (by simp))
      simp [prefixed, none_]

theorem integerOfText_ofInt {value : Int} (small : value.natAbs ≤ 2 ^ 53) :
    integerOfText (ofInt value) = some value := by
  have whole : ((value : ℚ).den = 1) := rfl
  have read : numberOfText (ofInt value) = some (value : ℚ) := by
    cases value with
    | ofNat value =>
      have some_ : ofNat value ≠ [] := length_pos_iff.mp (length_ofNat_pos value)
      have signed : signedDecimal (ofNat value) = decimalNumber (ofNat value) := by
        cases shown : ofNat value with
        | nil => exact absurd shown some_
        | cons unit rest =>
          have digit : isDigit unit = true :=
            isDigit_ofNat (shown ▸ mem_cons_self)
          have minus : unit ≠ 0x2D := by
            rintro rfl
            exact absurd digit (by decide)
          have plus : unit ≠ 0x2B := by
            rintro rfl
            exact absurd digit (by decide)
          rw [signedDecimal, if_neg minus, if_neg plus]
      simp only [ofInt, numberOfText, trim_ofNat, if_neg some_,
        prefixed_digits fun unit => isDigit_ofNat, signed, decimalNumber_ofNat, bind_some]
      exact toBinary64_integer small
    | negSucc value =>
      have trimmed : JsString.trim (0x2D :: ofNat (value + 1)) = 0x2D :: ofNat (value + 1) := by
        apply trim_of_ends
        · intro unit found
          obtain rfl := some_inj.mp found
          rfl
        · intro unit found
          have some_ : ofNat (value + 1) ≠ [] := length_pos_iff.mp (length_ofNat_pos _)
          rw [List.getLast?_cons_of_ne_nil some_] at found
          exact not_isSpace_of_isDigit (isDigit_ofNat (mem_of_getLast? found))
      have dash : js "-" ++ ofNat (value + 1) = 0x2D :: ofNat (value + 1) := rfl
      have plain : prefixed (0x2D :: ofNat (value + 1)) = none := by
        cases ofNat (value + 1) <;> rfl
      simp only [ofInt, numberOfText, dash, trimmed, plain, signedDecimal, if_true,
        decimalNumber_ofNat, map_some, bind_some, reduceCtorEq, if_false]
      have negated : -(((value + 1 : Nat)) : ℚ) = ((Int.negSucc value : Int) : ℚ) := by
        rw [Int.negSucc_eq]
        push_cast
        ring
      rw [negated]
      exact toBinary64_integer small
  rw [integerOfText, read, bind_some, if_pos whole]
  rfl

end CouncilKit.Data
