import CouncilKit.Data.JsString

namespace CouncilKit.Data

/-! Case mapping consults the Unicode Character Database, which the engine
carries.  The model is stated over any such table.
-/

def isAscii (text : JsString) : Bool := text.all (· < 0x80)

def lowerAscii (unit : CodeUnit) : CodeUnit :=
  if 0x41 ≤ unit && unit ≤ 0x5A then unit + 32 else unit

class Unicode where
  /-- `String.prototype.toLowerCase`. -/
  toLowerCase : JsString → JsString
  /-- Within ASCII only the letters `A` to `Z` have a lower case. -/
  toLowerCase_ascii : ∀ text, isAscii text = true → toLowerCase text = text.map lowerAscii

export Unicode (toLowerCase toLowerCase_ascii)

/-- The table restricted to ASCII, exact on ASCII text. -/
@[reducible] def Unicode.ascii : Unicode where
  toLowerCase := List.map lowerAscii
  toLowerCase_ascii _ _ := rfl

class UnicodeProperties where
  /-- `\p{L}` -/
  isLetter : Nat → Bool
  /-- `\p{N}` -/
  isNumber : Nat → Bool
  /-- `\p{Script=Han}` -/
  isHan : Nat → Bool

export UnicodeProperties (isLetter isNumber isHan)

/-- The classes restricted to ASCII. -/
@[reducible] def UnicodeProperties.ascii : UnicodeProperties where
  isLetter point := (0x41 ≤ point && point ≤ 0x5A) || (0x61 ≤ point && point ≤ 0x7A)
  isNumber point := 0x30 ≤ point && point ≤ 0x39
  isHan _ := false

class Collation where
  localeCompare : JsString → JsString → Int

end CouncilKit.Data
