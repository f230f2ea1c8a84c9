import Mathlib
import CouncilKit.Data.Utf8Stream

namespace CouncilKit.Data.Utf8

open JsString Decoder UInt8 List

def continues (byte : UInt8) : Bool := byte &&& 0xC0 == 0x80

/-- How many bytes the character of a lead byte has; 0 for any other byte. -/
def needOf (lead : UInt8) : Nat :=
  if lead &&& 0xE0 = 0xC0 then 2
  else if lead &&& 0xF0 = 0xE0 then 3
  else if lead &&& 0xF8 = 0xF0 then 4
  else 0

variable {decoder : Decoder} {front rest : List UInt8} {byte : UInt8}

theorem first_facts (byte : UInt8) :
    ((first byte).2.needed = 0 ∨ needOf byte = (first byte).2.needed + 1) ∧
      (needOf byte ≠ 0 → continues byte = false) ∧
      (continues byte = true ↔ 0x80 ≤ byte ∧ byte ≤ 0xBF) ∧ needOf byte ≤ 4 := by
  have every : ∀ value : Fin 256, ((first (ofFin value)).2.needed = 0 ∨
      needOf (ofFin value) = (first (ofFin value)).2.needed + 1) ∧
      (needOf (ofFin value) ≠ 0 → continues (ofFin value) = false) ∧
      (continues (ofFin value) = true ↔ 0x80 ≤ ofFin value ∧ ofFin value ≤ 0xBF) ∧
      needOf (ofFin value) ≤ 4 := by decide +kernel
  exact every byte.toFin

theorem Decoder.Sound.continues (sound : decoder.Sound) (owed : decoder.needed ≠ 0)
    (inside : decoder.lower ≤ byte ∧ byte ≤ decoder.upper) : Utf8.continues byte = true := by
  obtain none_ | ⟨low, high, -⟩ := sound
  · exact absurd none_ owed
  · refine (first_facts byte).2.2.1.mpr ⟨?_, ?_⟩
    · exact le_iff_toNat_le.mpr (Nat.le_trans low (le_iff_toNat_le.mp inside.1))
    · exact le_iff_toNat_le.mpr (Nat.le_trans (le_iff_toNat_le.mp inside.2) high)

end CouncilKit.Data.Utf8
