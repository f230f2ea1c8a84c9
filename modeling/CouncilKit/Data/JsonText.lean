import CouncilKit.Data.Decimal
import CouncilKit.Data.Json

namespace CouncilKit.Data.Json

def hexValue (digit : CodeUnit) : Nat :=
  if digit < 0x3A then digit.toNat - 0x30 else digit.toNat - 0x61 + 10

def unescape (mark : CodeUnit) : CodeUnit :=
  if mark = 0x62 then 0x8
  else if mark = 0x74 then 0x9
  else if mark = 0x6E then 0xA
  else if mark = 0x66 then 0xC
  else if mark = 0x72 then 0xD
  else mark

def hexUnit (first second third fourth : CodeUnit) : CodeUnit :=
  (((hexValue first * 0x10 + hexValue second) * 0x10 + hexValue third) * 0x10 + hexValue fourth).toUInt16

def isHexDigit (unit : CodeUnit) : Bool :=
  Regex.isDigit unit || (0x41 ≤ unit && unit ≤ 0x46) || (0x61 ≤ unit && unit ≤ 0x66)

/-- The units that may follow a backslash, without `u`. -/
def isShortEscape (unit : CodeUnit) : Bool :=
  [0x22, 0x5C, 0x2F, 0x62, 0x66, 0x6E, 0x72, 0x74].contains unit

def readUnits : JsString → Option (JsString × JsString)
  | [] => none
  | unit :: rest =>
    if unit = 0x22 then some ([], rest)
    else if unit < 0x20 then none
    else if unit = 0x5C then
      match rest with
      | [] => none
      | mark :: tail =>
        if mark = 0x75 then
          match tail with
          | first :: second :: third :: fourth :: more =>
            if [first, second, third, fourth].all isHexDigit then
              (readUnits more).map fun read =>
                (hexUnit (lowerAscii first) (lowerAscii second) (lowerAscii third)
                  (lowerAscii fourth) :: read.1, read.2)
            else none
          | _ => none
        else if isShortEscape mark then
          (readUnits tail).map fun read => (unescape mark :: read.1, read.2)
        else none
    else (readUnits rest).map fun read => (unit :: read.1, read.2)

theorem hexValue_hexDigit {value : Nat} (small : value < 0x10) : hexValue (hexDigit value) = value := by
  have all : ∀ value < 0x10, hexValue (hexDigit value) = value := by decide
  exact all value small

theorem hexUnit_escape (unit : CodeUnit) :
    hexUnit (hexDigit (unit.toNat / 0x1000)) (hexDigit (unit.toNat / 0x100 % 0x10))
      (hexDigit (unit.toNat / 0x10 % 0x10)) (hexDigit (unit.toNat % 0x10)) = unit := by
  have bound : unit.toNat < 0x10000 := unit.toNat_lt
  have digits : ((unit.toNat / 0x1000 * 0x10 + unit.toNat / 0x100 % 0x10) * 0x10 +
      unit.toNat / 0x10 % 0x10) * 0x10 + unit.toNat % 0x10 = unit.toNat := by omega
  rw [hexUnit, hexValue_hexDigit (by omega), hexValue_hexDigit (by omega),
    hexValue_hexDigit (by omega), hexValue_hexDigit (by omega), digits]
  exact UInt16.toNat.inj (by simp)

theorem readUnits_quote (rest : JsString) : readUnits (0x22 :: rest) = some ([], rest) := by
  rw [readUnits.eq_def]
  exact if_pos rfl

variable {rest : JsString}

theorem readUnits_plain {unit : CodeUnit} (noQuote : unit ≠ 0x22)
    (noControl : ¬ unit < 0x20) (noEscape : unit ≠ 0x5C) :
    readUnits (unit :: rest) = (readUnits rest).map fun read => (unit :: read.1, read.2) := by
  rw [readUnits.eq_def]
  simp only [noQuote, noControl, noEscape, if_false]

theorem readUnits_short {mark : CodeUnit} (noHex : mark ≠ 0x75) (short : isShortEscape mark = true) :
    readUnits (0x5C :: mark :: rest) =
      (readUnits rest).map fun read => (unescape mark :: read.1, read.2) := by
  rw [readUnits.eq_def]
  simp [noHex, short]

theorem readUnits_hex {first second third fourth : CodeUnit} {rest : JsString}
    (hex : [first, second, third, fourth].all isHexDigit = true) :
    readUnits (0x5C :: 0x75 :: first :: second :: third :: fourth :: rest) =
      (readUnits rest).map fun read =>
        (hexUnit (lowerAscii first) (lowerAscii second) (lowerAscii third) (lowerAscii fourth) ::
          read.1, read.2) := by
  rw [readUnits.eq_def]
  simp [hex]

theorem isHexDigit_hexDigit {value : Nat} (small : value < 0x10) :
    isHexDigit (hexDigit value) = true ∧ lowerAscii (hexDigit value) = hexDigit value := by
  have all : ∀ value < 0x10, isHexDigit (hexDigit value) = true ∧
      lowerAscii (hexDigit value) = hexDigit value := by decide
  exact all value small

theorem readUnits_escapeUnit (unit : CodeUnit) (rest : JsString) :
    readUnits (escapeUnit unit ++ rest) = (readUnits rest).map fun read => (unit :: read.1, read.2) := by
  have bound : unit.toNat < 0x10000 := unit.toNat_lt
  obtain ⟨firstHex, firstLower⟩ := @isHexDigit_hexDigit (unit.toNat / 0x1000) (by omega)
  obtain ⟨secondHex, secondLower⟩ := @isHexDigit_hexDigit (unit.toNat / 0x100 % 0x10) (by omega)
  obtain ⟨thirdHex, thirdLower⟩ := @isHexDigit_hexDigit (unit.toNat / 0x10 % 0x10) (by omega)
  obtain ⟨fourthHex, fourthLower⟩ := @isHexDigit_hexDigit (unit.toNat % 0x10) (by omega)
  have read := @readUnits_hex (hexDigit (unit.toNat / 0x1000)) (hexDigit (unit.toNat / 0x100 % 0x10))
    (hexDigit (unit.toNat / 0x10 % 0x10)) (hexDigit (unit.toNat % 0x10)) rest
    (by simp [firstHex, secondHex, thirdHex, fourthHex])
  rw [firstLower, secondLower, thirdLower, fourthLower, hexUnit_escape] at read
  exact read

theorem readUnits_quoteUnit (unit : CodeUnit) (rest : JsString) :
    readUnits (quoteUnit unit ++ rest) = (readUnits rest).map fun read => (unit :: read.1, read.2) := by
  by_cases quote : unit = 0x22
  · subst quote
    exact readUnits_short (by decide) (by decide)
  by_cases backslash : unit = 0x5C
  · subst backslash
    exact readUnits_short (by decide) (by decide)
  by_cases backspace : unit = 0x8
  · subst backspace
    exact readUnits_short (by decide) (by decide)
  by_cases tab : unit = 0x9
  · subst tab
    exact readUnits_short (by decide) (by decide)
  by_cases newline : unit = 0xA
  · subst newline
    exact readUnits_short (by decide) (by decide)
  by_cases feed : unit = 0xC
  · subst feed
    exact readUnits_short (by decide) (by decide)
  by_cases carriage : unit = 0xD
  · subst carriage
    exact readUnits_short (by decide) (by decide)
  rw [quoteUnit, if_neg quote, if_neg backslash, if_neg backspace, if_neg tab, if_neg newline,
    if_neg feed, if_neg carriage]
  split
  · exact readUnits_escapeUnit unit rest
  · rename_i printed
    simp only [Bool.or_eq_true, decide_eq_true_eq, not_or] at printed
    exact readUnits_plain quote printed.1.1 backslash

theorem surrogate_plain {unit : CodeUnit} (half : isHighSurrogate unit = true ∨ isLowSurrogate unit = true) :
    unit ≠ 0x22 ∧ ¬ unit < 0x20 ∧ unit ≠ 0x5C := by
  have least : 0xD800 ≤ unit.toNat := by
    obtain high | low := half
    · simp only [isHighSurrogate, Bool.and_eq_true, decide_eq_true_eq, UInt16.le_iff_toNat_le] at high
      exact high.1
    · simp only [isLowSurrogate, Bool.and_eq_true, decide_eq_true_eq, UInt16.le_iff_toNat_le] at low
      exact Nat.le_trans (by decide) low.1
  refine ⟨fun same => ?_, fun control => ?_, fun same => ?_⟩
  · rw [same] at least
    revert least
    decide
  · rw [UInt16.lt_iff_toNat_lt] at control
    have limit : (0x20 : CodeUnit).toNat = 0x20 := rfl
    omega
  · rw [same] at least
    revert least
    decide

theorem readUnits_quoteUnits : ∀ (text rest : JsString),
    readUnits (quoteUnits text ++ 0x22 :: rest) = some (text, rest)
  | [], rest => readUnits_quote rest
  | [unit], rest => by
    rw [quoteUnits, readUnits_quoteUnit, readUnits_quote]
    rfl
  | first :: second :: tail, rest => by
    rw [quoteUnits]
    split
    · rename_i pair
      simp only [Bool.and_eq_true] at pair
      obtain ⟨noQuote, noControl, noEscape⟩ := surrogate_plain (.inl pair.1)
      obtain ⟨noQuote', noControl', noEscape'⟩ := surrogate_plain (.inr pair.2)
      rw [List.cons_append, List.cons_append, readUnits_plain noQuote noControl noEscape,
        readUnits_plain noQuote' noControl' noEscape', readUnits_quoteUnits tail rest]
      rfl
    · rw [List.append_assoc, readUnits_quoteUnit, readUnits_quoteUnits (second :: tail) rest]
      rfl

theorem quote_append_inj {text other otherRest : JsString}
    (same : quote text ++ rest = quote other ++ otherRest) : text = other ∧ rest = otherRest := by
  have units : quoteUnits text ++ 0x22 :: rest = quoteUnits other ++ 0x22 :: otherRest := by
    simpa [quote] using same
  have read := congrArg readUnits units
  rw [readUnits_quoteUnits, readUnits_quoteUnits, Option.some.injEq, Prod.mk.injEq] at read
  exact read

end CouncilKit.Data.Json
