import Mathlib

namespace CouncilKit.Data

open List

/-! A JavaScript string is a sequence of UTF-16 code units.  `length` counts units,
a slice may cut a surrogate pair, and two strings are equal when their units
are; `List UInt16` is that value.  `js` encodes a Lean literal.
-/

abbrev CodeUnit := UInt16

abbrev JsString := List CodeUnit

def utf16 (scalar : Char) : List CodeUnit :=
  if scalar.toNat < 0x10000 then [scalar.toNat.toUInt16]
  else [(0xD800 + (scalar.toNat - 0x10000) / 0x400).toUInt16,
    (0xDC00 + (scalar.toNat - 0x10000) % 0x400).toUInt16]

def js (text : String) : JsString := text.toList.flatMap utf16

/-- The units `String.prototype.trim` removes: white space and line terminators. -/
def isSpace (unit : CodeUnit) : Bool :=
  (0x9 ≤ unit && unit ≤ 0xD) || unit == 0x20 || unit == 0xA0 || unit == 0x1680 ||
    (0x2000 ≤ unit && unit ≤ 0x200A) || unit == 0x2028 || unit == 0x2029 ||
    unit == 0x202F || unit == 0x205F || unit == 0x3000 || unit == 0xFEFF

def isHighSurrogate (unit : CodeUnit) : Bool := 0xD800 ≤ unit && unit ≤ 0xDBFF

def isLowSurrogate (unit : CodeUnit) : Bool := 0xDC00 ≤ unit && unit ≤ 0xDFFF

namespace JsString

instance instLawfulBEq : LawfulBEq JsString := inferInstance

variable (text : JsString)

def trimStart : JsString := text.dropWhile isSpace

def trimEnd : JsString := (text.reverse.dropWhile isSpace).reverse

def trim : JsString := trimEnd (trimStart text)

/-- `Array.prototype.join`. -/
def join (separator : JsString) : List JsString → JsString
  | [] => []
  | [text] => text
  | text :: rest => text ++ separator ++ join separator rest

/-- `String.prototype.split` on one code unit. -/
def splitOn (separator : CodeUnit) : JsString → List JsString
  | [] => [[]]
  | unit :: rest =>
    if unit = separator then [] :: splitOn separator rest
    else match splitOn separator rest with
      | [] => [[unit]]
      | line :: lines => (unit :: line) :: lines

/-- `<` on strings: by code units. -/
def Before (left right : JsString) : Prop := left.map (·.toNat) < right.map (·.toNat)

instance : DecidableRel Before := fun _ _ => inferInstanceAs (Decidable (_ < _))

/-- At most `max` units from the start, never ending inside a surrogate pair. -/
def clipUtf16 (value : JsString) (max : Nat) : JsString :=
  if max = 0 then []
  else if value.length ≤ max then value
  else if isHighSurrogate (value.getD (max - 1) 0) then value.take (max - 1)
  else value.take max

def ofBool (value : Bool) : JsString := if value then js "true" else js "false"

def ofNat (value : Nat) : JsString := js (toString value)

def ofInt : Int → JsString
  | .ofNat value => ofNat value
  | .negSucc value => js "-" ++ ofNat (value + 1)

theorem toNat_map_injective {left right : JsString}
    (same : left.map (·.toNat) = right.map (·.toNat)) : left = right :=
  map_injective_iff.mpr (fun _ _ => UInt16.toNat_inj.mp) same

variable {first second third : JsString}

theorem Before.trans (earlier : first.Before second)
    (later : second.Before third) : first.Before third := lt_trans earlier later

theorem not_before_self : ¬ text.Before text := lt_irrefl _

theorem Before.asymm {left right : JsString} (earlier : left.Before right) :
    ¬ right.Before left := lt_asymm earlier

theorem before_or_eq_or_before (left right : JsString) :
    left.Before right ∨ left = right ∨ right.Before left := by
  rcases lt_trichotomy (left.map (·.toNat)) (right.map (·.toNat)) with earlier | same | later
  · exact .inl earlier
  · exact .inr (.inl (toNat_map_injective same))
  · exact .inr (.inr later)

theorem not_before_trans (earlier : ¬ second.Before first)
    (later : ¬ third.Before second) : ¬ third.Before first := by
  simp only [Before, not_lt] at earlier later ⊢
  exact le_trans earlier later

theorem length_trim_le : (trim text).length ≤ text.length := by
  have inner : (trimStart text).length ≤ text.length := (dropWhile_suffix _).length_le
  have outer : ((trimStart text).reverse.dropWhile isSpace).length ≤
      (trimStart text).reverse.length := (dropWhile_suffix _).length_le
  simp only [length_reverse] at outer
  simp only [trim, trimEnd, length_reverse]
  omega

end JsString

/-- `[...new Set(values)]`: the distinct values in order of first appearance. -/
def unique {α : Type*} [DecidableEq α] (values : List α) : List α := values.eraseDups

theorem mem_unique {α : Type*} [DecidableEq α] {values : List α} {value : α} :
    value ∈ unique values ↔ value ∈ values := mem_eraseDups

/-- The value of the last entry with a key: what `new Map(entries).get(key)` returns. -/
def lookupLast {α κ : Type*} [DecidableEq κ] (entries : List α) (keyOf : α → κ) (key : κ) : Option α :=
  entries.reverse.find? (fun entry => keyOf entry = key)

theorem lookupLast_some {α κ : Type*} [DecidableEq κ] {entries : List α} {keyOf : α → κ}
    {key : κ} {entry : α} (found : lookupLast entries keyOf key = some entry) :
    entry ∈ entries ∧ keyOf entry = key := by
  refine ⟨mem_reverse.mp (mem_of_find?_eq_some found), ?_⟩
  simpa using find?_some found

theorem lookupLast_none {α κ : Type*} [DecidableEq κ] {entries : List α} {keyOf : α → κ}
    {key : κ} : lookupLast entries keyOf key = none ↔ ∀ entry ∈ entries, keyOf entry ≠ key := by
  simp [lookupLast, find?_eq_none]

/-- A member that an engine may find absent, `null` or present. -/
inductive Nullish (α : Type*) where
  | absent
  | null
  | value (content : α)
deriving DecidableEq

namespace Nullish

def toOption {α : Type*} : Nullish α → Option α
  | .value content => some content
  | _ => none

/-- `left ?? right`. -/
def coalesce {α : Type*} : Nullish α → Nullish α → Nullish α
  | .value content, _ => .value content
  | _, right => right

end Nullish

end CouncilKit.Data
