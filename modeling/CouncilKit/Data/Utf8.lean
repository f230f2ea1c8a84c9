import CouncilKit.Data.JsString

namespace CouncilKit.Data

/-! `Buffer.prototype.toString("utf8")`, byte by byte: every maximal part of a
sequence that is not well formed becomes one replacement character.
-/

namespace Utf8

/-- What is owed of a character: how many bytes, the bounds of the next one, and
the bits read so far. -/
structure Decoder where
  needed : Nat := 0
  lower : UInt8 := 0x80
  upper : UInt8 := 0xBF
  point : Nat := 0

def replacement : CodeUnit := 0xFFFD

def unitsOf (point : Nat) : JsString :=
  if point < 0x10000 then [point.toUInt16]
  else [(0xD800 + (point - 0x10000) / 0x400).toUInt16, (0xDC00 + (point - 0x10000) % 0x400).toUInt16]

def first (byte : UInt8) : JsString × Decoder :=
  let bits (marker : UInt8) : Nat := (byte - marker).toNat
  if byte < 0x80 then ([byte.toUInt16], {})
  else if byte < 0xC2 then ([replacement], {})
  else if byte < 0xE0 then ([], { needed := 1, point := bits 0xC0 })
  else if byte = 0xE0 then ([], { needed := 2, lower := 0xA0, point := 0 })
  else if byte = 0xED then ([], { needed := 2, upper := 0x9F, point := 0xD })
  else if byte < 0xF0 then ([], { needed := 2, point := bits 0xE0 })
  else if byte = 0xF0 then ([], { needed := 3, lower := 0x90, point := 0 })
  else if byte < 0xF4 then ([], { needed := 3, point := bits 0xF0 })
  else if byte = 0xF4 then ([], { needed := 3, upper := 0x8F, point := 4 })
  else ([replacement], {})

/-- One byte: the units it ends, and what is owed after it.  A byte that does not
continue the character ends it and begins the next one. -/
def Decoder.push (decoder : Decoder) (byte : UInt8) : JsString × Decoder :=
  if decoder.needed = 0 then first byte
  else if decoder.lower ≤ byte ∧ byte ≤ decoder.upper then
    let point := decoder.point * 0x40 + (byte - 0x80).toNat
    if decoder.needed = 1 then (unitsOf point, {})
    else ([], { needed := decoder.needed - 1, point })
  else (replacement :: (first byte).1, (first byte).2)

def Decoder.run (decoder : Decoder) : List UInt8 → JsString
  | [] => if decoder.needed = 0 then [] else [replacement]
  | byte :: rest => (decoder.push byte).1 ++ (decoder.push byte).2.run rest

def decode (bytes : List UInt8) : JsString := Decoder.run {} bytes

def ascii (text : String) : List UInt8 := text.toList.map (·.toNat.toUInt8)

theorem run_ascii {bytes : List UInt8} (small : ∀ byte ∈ bytes, byte < 0x80) :
    decode bytes = bytes.map (·.toUInt16) := by
  induction bytes with
  | nil => rfl
  | cons byte rest ih =>
    have here : byte < 0x80 := small byte List.mem_cons_self
    have later := ih fun other member => small other (List.mem_cons_of_mem _ member)
    have pushed : Decoder.push {} byte = ([byte.toUInt16], {}) := by
      simp [Decoder.push, first, here]
    rw [decode, Decoder.run, pushed]
    exact congrArg (byte.toUInt16 :: ·) later

end Utf8

end CouncilKit.Data
