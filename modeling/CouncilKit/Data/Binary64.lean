import Mathlib
import CouncilKit.Data.JsString

namespace CouncilKit.Data

open JsString

/-! A double is modelled by its value.  Each operation of the engine is the exact
one followed by `roundBinary64`, for results that are not negative and neither
underflow nor overflow.
-/

def powerOfTwo (exponent : Int) : ℚ :=
  if 0 ≤ exponent then 2 ^ exponent.toNat else 1 / 2 ^ (-exponent).toNat

def leadingBit (value : ℚ) : Int :=
  let guess : Int := (Nat.log2 value.num.natAbs : Int) - (Nat.log2 value.den : Int)
  if value < powerOfTwo guess then guess - 1 else guess

def roundHalfEven (value : ℚ) : Int :=
  let low := value.floor
  let rest := value - low
  if rest < 1 / 2 ∨ (rest = 1 / 2 ∧ low % 2 = 0) then low else low + 1

def roundBinary64 (value : ℚ) : ℚ :=
  if value ≤ 0 then 0
  else
    let unit := powerOfTwo (leadingBit value - 52)
    roundHalfEven (value / unit) * unit

/-- `Number(digits)` of a run of decimal digits; none is `Infinity`. -/
def numberOf (digits : JsString) : Option ℚ :=
  let exact : Nat := digits.foldl (fun value digit => 10 * value + (digit.toNat - 0x30)) 0
  let value := roundBinary64 exact
  if value < powerOfTwo 1024 then some value else none

/-- `Number.isSafeInteger` of a value that is a natural number. -/
def isSafeInteger (value : ℚ) : Bool := value < powerOfTwo 53

example : roundBinary64 (1 / 10) = 3602879701896397 / 36028797018963968 := by decide +kernel

/-! The fewest digits that read back as the double, the nearest of those, and an
exponent from twenty-two digits on.
-/

/-- The multiple of `unit` nearest to a whole number that reads back as it. -/
def nearestMultiple (value unit : Nat) : Option Nat :=
  let low := value / unit * unit
  let candidates := if 2 * (value - low) ≤ unit then [low, low + unit] else [low + unit, low]
  candidates.find? fun candidate => roundBinary64 candidate = value

/-- The first of the counts of digits, from `places` down, that suffices. -/
def shortestFrom (value : Nat) : (places : Nat) → Nat
  | 0 => value
  | places + 1 => (nearestMultiple value (10 ^ (places + 1))).getD (shortestFrom value places)

def shortest (value : Nat) : Nat := shortestFrom value ((ofNat value).length - 1)

def wholeText (value : ℚ) : JsString :=
  let digits := ofNat (shortest value.num.natAbs)
  if digits.length ≤ 21 then digits
  else
    let significant := (digits.reverse.dropWhile (· == 0x30)).reverse
    significant.take 1 ++
      (if 1 < significant.length then js "." ++ significant.drop 1 else []) ++
      js "e+" ++ ofNat (digits.length - 1)

example : wholeText 42 = js "42" := by decide +kernel
example : wholeText (2 ^ 70) = js "1.1805916207174113e+21" := by decide +kernel

end CouncilKit.Data
