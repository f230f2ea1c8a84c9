import Mathlib
import CouncilKit.Data.JsString

namespace CouncilKit.Data

open JsString List

/-! Integers are exact.  Any other number keeps its literal: no schema of this
model accepts one.
-/

inductive Json where
  | null
  | bool (value : Bool)
  | number (value : Int)
  | fraction (literal : JsString)
  | string (text : JsString)
  | array (items : List Json)
  | object (members : List (JsString × Json))

namespace Json

def hexDigit (value : Nat) : CodeUnit :=
  (if value < 10 then 0x30 + value else 0x61 + (value - 10)).toUInt16

/-- `\uXXXX` -/
def escapeUnit (unit : CodeUnit) : JsString :=
  [0x5C, 0x75, hexDigit (unit.toNat / 0x1000), hexDigit (unit.toNat / 0x100 % 0x10),
    hexDigit (unit.toNat / 0x10 % 0x10), hexDigit (unit.toNat % 0x10)]

/-- One code unit that is no half of a surrogate pair, as `JSON.stringify` writes it. -/
def quoteUnit (unit : CodeUnit) : JsString :=
  if unit = 0x22 then [0x5C, 0x22]
  else if unit = 0x5C then [0x5C, 0x5C]
  else if unit = 0x8 then [0x5C, 0x62]
  else if unit = 0x9 then [0x5C, 0x74]
  else if unit = 0xA then [0x5C, 0x6E]
  else if unit = 0xC then [0x5C, 0x66]
  else if unit = 0xD then [0x5C, 0x72]
  else if unit < 0x20 || isHighSurrogate unit || isLowSurrogate unit then escapeUnit unit
  else [unit]

/-- The inside of a string literal: surrogate pairs stand, lone halves are escaped. -/
def quoteUnits : JsString → JsString
  | [] => []
  | [unit] => quoteUnit unit
  | first :: second :: rest =>
    if isHighSurrogate first && isLowSurrogate second then first :: second :: quoteUnits rest
    else quoteUnit first ++ quoteUnits (second :: rest)

def quote (text : JsString) : JsString := [0x22] ++ quoteUnits text ++ [0x22]

def decimal (value : Int) : JsString := js (toString value)

mutual

/-- `JSON.stringify(value)` -/
def stringify : Json → JsString
  | .null => js "null"
  | .bool value => .ofBool value
  | .number value => decimal value
  | .fraction literal => literal
  | .string text => quote text
  | .array items => js "[" ++ join (js ",") (stringifyItems items) ++ js "]"
  | .object members => js "\x7b" ++ join (js ",") (stringifyMembers members) ++ js "\x7d"

def stringifyItems : List Json → List JsString
  | [] => []
  | item :: rest => stringify item :: stringifyItems rest

def stringifyMembers : List (JsString × Json) → List JsString
  | [] => []
  | (key, value) :: rest => (quote key ++ js ":" ++ stringify value) :: stringifyMembers rest

end

/-- `Buffer.byteLength(text, "utf8")`: a lone surrogate takes the three bytes of U+FFFD. -/
def utf8Length : JsString → Nat
  | [] => 0
  | [unit] => if unit < 0x80 then 1 else if unit < 0x800 then 2 else 3
  | first :: second :: rest =>
    if isHighSurrogate first && isLowSurrogate second then 4 + utf8Length rest
    else (if first < 0x80 then 1 else if first < 0x800 then 2 else 3) + utf8Length (second :: rest)

def isPlain (unit : CodeUnit) : Bool :=
  0x20 ≤ unit && unit < 0x80 && unit ≠ 0x22 && unit ≠ 0x5C

theorem not_surrogate_of_ascii {unit : CodeUnit} (ascii : unit < 0x80) :
    isHighSurrogate unit = false ∧ isLowSurrogate unit = false := by
  have below : unit.toNat < 128 := UInt16.lt_iff_toNat_lt.mp ascii
  constructor
  · simp only [isHighSurrogate, Bool.and_eq_false_iff, decide_eq_false_iff_not]
    refine .inl fun high => ?_
    have above : 0xD800 ≤ unit.toNat := UInt16.le_iff_toNat_le.mp high
    omega
  · simp only [isLowSurrogate, Bool.and_eq_false_iff, decide_eq_false_iff_not]
    refine .inl fun low => ?_
    have above : 0xDC00 ≤ unit.toNat := UInt16.le_iff_toNat_le.mp low
    omega

theorem quoteUnit_plain {unit : CodeUnit} (plain : isPlain unit = true) : quoteUnit unit = [unit] := by
  simp only [isPlain, Bool.and_eq_true, decide_eq_true_eq] at plain
  obtain ⟨⟨⟨printable, ascii⟩, quote⟩, backslash⟩ := plain
  obtain ⟨high, low⟩ := not_surrogate_of_ascii ascii
  have control : ¬ unit < 0x20 := UInt16.not_lt.mpr printable
  have other (special : CodeUnit) (below : special < 0x20) : unit ≠ special := by
    intro same
    exact control (same ▸ below)
  rw [quoteUnit, if_neg quote, if_neg backslash, if_neg (other 0x8 (by decide)),
    if_neg (other 0x9 (by decide)), if_neg (other 0xA (by decide)), if_neg (other 0xC (by decide)),
    if_neg (other 0xD (by decide)), high, low]
  simp [control]

theorem quoteUnits_plain : ∀ {text : JsString}, (∀ unit ∈ text, isPlain unit = true) →
    quoteUnits text = text
  | [], _ => rfl
  | [unit], plain => quoteUnit_plain (plain unit mem_cons_self)
  | first :: second :: rest, plain => by
    have here := plain first mem_cons_self
    have later := quoteUnits_plain fun unit member => plain unit (mem_cons_of_mem _ member)
    have ascii : first < 0x80 := by
      simp only [isPlain, Bool.and_eq_true, decide_eq_true_eq] at here
      exact here.1.1.2
    rw [quoteUnits, (not_surrogate_of_ascii ascii).1, Bool.false_and, if_neg Bool.false_ne_true,
      quoteUnit_plain here, later]
    rfl

theorem utf8Length_ascii : ∀ {text : JsString}, (∀ unit ∈ text, unit < 0x80) →
    utf8Length text = text.length
  | [], _ => rfl
  | [unit], ascii => by simp [utf8Length, ascii unit mem_cons_self]
  | first :: second :: rest, ascii => by
    have here := ascii first mem_cons_self
    have later := utf8Length_ascii fun unit member => ascii unit (mem_cons_of_mem _ member)
    rw [utf8Length, (not_surrogate_of_ascii here).1, Bool.false_and, if_neg Bool.false_ne_true,
      if_pos here, later]
    simp [Nat.add_comm]

def KeyOrder (left right : JsString × JsString) : Prop :=
  ¬ right.1.Before left.1

instance : DecidableRel KeyOrder := fun _ _ => inferInstanceAs (Decidable (¬ _))

def MAX_DEPTH : Nat := 64

mutual

/-- `canonicalJson`, at a depth; too deep a value is refused. -/
def serialize : Json → Nat → Option JsString
  | .null, depth => if depth > MAX_DEPTH then none else some (js "null")
  | .bool value, depth => if depth > MAX_DEPTH then none else some (.ofBool value)
  | .number value, depth => if depth > MAX_DEPTH then none else some (decimal value)
  | .fraction literal, depth => if depth > MAX_DEPTH then none else some literal
  | .string text, depth => if depth > MAX_DEPTH then none else some (quote text)
  | .array items, depth =>
    if depth > MAX_DEPTH then none
    else (serializeItems items (depth + 1)).map fun texts =>
      js "[" ++ join (js ",") texts ++ js "]"
  | .object members, depth =>
    if depth > MAX_DEPTH then none
    else (serializeMembers members (depth + 1)).map fun entries =>
      js "\x7b" ++ join (js ",")
        ((entries.insertionSort KeyOrder).map fun entry => quote entry.1 ++ js ":" ++ entry.2) ++
        js "\x7d"

def serializeItems : List Json → Nat → Option (List JsString)
  | [], _ => some []
  | item :: rest, depth => do
    let text ← serialize item depth
    let texts ← serializeItems rest depth
    pure (text :: texts)

def serializeMembers : List (JsString × Json) → Nat → Option (List (JsString × JsString))
  | [], _ => some []
  | (key, value) :: rest, depth => do
    let text ← serialize value depth
    let texts ← serializeMembers rest depth
    pure ((key, text) :: texts)

end

def canonicalJson (value : Json) : Option JsString := serialize value 0

end Json

class Digest where
  /-- Lowercase hex SHA-256 of the UTF-8 encoding. -/
  sha256 : JsString → JsString

/-- `createHash("sha256").update(canonicalJson(value)).digest("hex")` -/
def digestOf [Digest] (value : Json) : Option JsString :=
  value.canonicalJson.map Digest.sha256

end CouncilKit.Data
