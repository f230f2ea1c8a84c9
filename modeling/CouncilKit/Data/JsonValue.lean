import CouncilKit.Data.Json

namespace CouncilKit.Data

/-! What JavaScript makes of a parsed value that it reads a member of, tests, compares
or turns into text.  `none` is `undefined`.
-/

/-- `value[name]`; only objects have members of the names that are asked for. -/
def memberOf (value : Json) (name : JsString) : Option Json :=
  match value with
  | .object members => (members.find? (·.1 = name)).map (·.2)
  | _ => none

/-- `value?.[name]` -/
def memberAt (value : Option Json) (name : JsString) : Option Json :=
  value.bind (memberOf · name)

/-- `typeof value === "number" ? value : null` -/
def numberOrNull : Option Json → Option Json
  | some (.number value) => some (.number value)
  | some (.fraction literal) => some (.fraction literal)
  | _ => none

/-- `typeof value === "string" ? value : null` -/
def stringOrNull : Option Json → Option JsString
  | some (.string text) => some text
  | _ => none

/-- `value ?? null` -/
def notNull : Option Json → Option Json
  | some .null => none
  | value => value

/-- `Boolean(value)` -/
def isTruthy : Option Json → Bool
  | none | some .null => false
  | some (.bool value) => value
  | some (.number value) => value ≠ 0
  | some (.string text) => text ≠ []
  | some (.fraction _) | some (.array _) | some (.object _) => true

/-- `left === right` for values of two different texts: arrays and objects are never
the same one. -/
def strictEquals : Option Json → Option Json → Bool
  | none, none => true
  | some .null, some .null => true
  | some (.bool left), some (.bool right) => left = right
  | some (.number left), some (.number right) => left = right
  | some (.fraction left), some (.fraction right) => left = right
  | some (.string left), some (.string right) => left = right
  | _, _ => false

mutual

/-- `String(value)`; an object with a member `toString` of its own cannot be
converted, and `none` is that TypeError. -/
def coerceText : Json → Option JsString
  | .null => some (js "null")
  | .bool value => some (.ofBool value)
  | .number value => some (Json.decimal value)
  | .fraction literal => some literal
  | .string text => some text
  | .array items => (coerceItems items).map (JsString.join (js ","))
  | .object members =>
    if members.any (·.1 = js "toString") then none else some (js "[object Object]")

/-- The items as `Array.prototype.join` writes them. -/
def coerceItems : List Json → Option (List JsString)
  | [] => some []
  | .null :: rest => (coerceItems rest).map ([] :: ·)
  | item :: rest => do
    let text ← coerceText item
    let texts ← coerceItems rest
    pure (text :: texts)

end

end CouncilKit.Data
