import CouncilKit.Data.JsonText

namespace CouncilKit.Data.Json

open List JsString Nat

/-! A reader takes one value off the front of a text.  The fuel bounds the nesting
and the number of items; the text is never longer than it.
-/

def isJsonSpace (unit : CodeUnit) : Bool :=
  unit == 0x20 || unit == 0x9 || unit == 0xA || unit == 0xD

variable (text : JsString)

def skipSpace : JsString := text.dropWhile isJsonSpace

def readDigits : Option (JsString × JsString) :=
  let digits := text.takeWhile Regex.isDigit
  if digits = [] then none else some (digits, text.dropWhile Regex.isDigit)

def readFraction : Option (JsString × JsString) :=
  match text with
  | [] => some ([], [])
  | unit :: rest => if unit = 0x2E then readDigits rest else some ([], text)

def readSigned : Option ((Bool × JsString) × JsString) :=
  match text with
  | [] => none
  | unit :: rest =>
    if unit = 0x2D then (readDigits rest).map fun read => ((true, read.1), read.2)
    else if unit = 0x2B then (readDigits rest).map fun read => ((false, read.1), read.2)
    else (readDigits text).map fun read => ((false, read.1), read.2)

def readExponent : Option ((Bool × JsString) × JsString) :=
  match text with
  | [] => some ((false, []), [])
  | unit :: rest =>
    if unit = 0x65 || unit = 0x45 then readSigned rest else some ((false, []), text)

def decimalValue (digits : JsString) : Nat :=
  digits.foldl (fun value digit => value * 10 + (digit.toNat - 0x30)) 0

/-- The value of a number literal when it is an integer, and the literal otherwise. -/
def numberValue (negative : Bool) (whole decimals : JsString) (exponent : Bool × JsString)
    (literal : JsString) : Json :=
  let signed (value : Nat) : Json := .number (if negative then -(value : Int) else value)
  let mantissa := decimalValue (whole ++ decimals)
  let up := if exponent.1 then 0 else decimalValue exponent.2
  let down := decimals.length + if exponent.1 then decimalValue exponent.2 else 0
  if down ≤ up then signed (mantissa * 10 ^ (up - down))
  else if mantissa % 10 ^ (down - up) = 0 then signed (mantissa / 10 ^ (down - up))
  else .fraction literal

/-- An unsigned literal; `text` is the whole of it, with its sign. -/
def readUnsigned (negative : Bool) (text body : JsString) : Option (Json × JsString) := do
  let (whole, afterWhole) ← readDigits body
  if whole.head? = some 0x30 ∧ 1 < whole.length then none
  else
    let (decimals, afterDecimals) ← readFraction afterWhole
    let (exponent, rest) ← readExponent afterDecimals
    pure (numberValue negative whole decimals exponent (text.take (text.length - rest.length)), rest)

def readNumber : Option (Json × JsString) :=
  match text with
  | [] => none
  | unit :: rest =>
    if unit = 0x2D then readUnsigned true text rest else readUnsigned false text text

def readWord (word : JsString) (value : Json) (text : JsString) : Option (Json × JsString) :=
  if word.isPrefixOf text then some (value, text.drop word.length) else none

def putMember (members : List (JsString × Json)) (entry : JsString × Json) : List (JsString × Json) :=
  if members.any (·.1 = entry.1) then
    members.map fun member => if member.1 = entry.1 then entry else member
  else members ++ [entry]

mutual

def readValue : Nat → JsString → Option (Json × JsString)
  | 0, _ => none
  | fuel + 1, text =>
    match skipSpace text with
    | [] => none
    | unit :: rest =>
      if unit = 0x22 then (readUnits rest).map fun read => (.string read.1, read.2)
      else if unit = 0x5B then
        match skipSpace rest with
        | 0x5D :: more => some (.array [], more)
        | _ => (readItems fuel rest).map fun read => (.array read.1, read.2)
      else if unit = 0x7B then
        match skipSpace rest with
        | 0x7D :: more => some (.object [], more)
        | _ => (readMembers fuel rest).map fun read =>
          (.object (read.1.foldl putMember []), read.2)
      else if unit = 0x74 then readWord (js "true") (.bool true) (unit :: rest)
      else if unit = 0x66 then readWord (js "false") (.bool false) (unit :: rest)
      else if unit = 0x6E then readWord (js "null") .null (unit :: rest)
      else readNumber (unit :: rest)

def readItems : Nat → JsString → Option (List Json × JsString)
  | 0, _ => none
  | fuel + 1, text => do
    let (item, after) ← readValue fuel text
    match skipSpace after with
    | 0x2C :: more => (readItems fuel more).map fun read => (item :: read.1, read.2)
    | 0x5D :: more => some ([item], more)
    | _ => none

def readMembers : Nat → JsString → Option (List (JsString × Json) × JsString)
  | 0, _ => none
  | fuel + 1, text =>
    match skipSpace text with
    | 0x22 :: rest => do
      let (key, afterKey) ← readUnits rest
      match skipSpace afterKey with
      | 0x3A :: body => do
        let (value, after) ← readValue fuel body
        match skipSpace after with
        | 0x2C :: more => (readMembers fuel more).map fun read =>
          ((key, value) :: read.1, read.2)
        | 0x7D :: more => some ([(key, value)], more)
        | _ => none
      | _ => none
    | _ => none

end

/-- `JSON.parse(text)`; `none` when it throws. -/
def parse (text : JsString) : Option Json :=
  match readValue (2 * text.length + 1) text with
  | some (value, rest) => if skipSpace rest = [] then some value else none
  | none => none

variable {text rest : JsString}

theorem readDigits_some {digits : JsString} (read : readDigits text = some (digits, rest)) :
    text = digits ++ rest ∧ ∃ digit, digits.head? = some digit ∧ Regex.isDigit digit = true := by
  unfold readDigits at read
  dsimp only at read
  split at read
  · cases read
  · rename_i nonempty
    cases read
    refine ⟨takeWhile_append_dropWhile.symm, ?_⟩
    cases text with
    | nil => exact absurd rfl nonempty
    | cons unit rest =>
      cases digit : Regex.isDigit unit with
      | false => simp [digit] at nonempty
      | true => exact ⟨unit, by simp [digit], digit⟩

theorem readFraction_length {decimals : JsString}
    (read : readFraction text = some (decimals, rest)) : rest.length ≤ text.length := by
  unfold readFraction at read
  split at read
  · cases read
    exact le_refl _
  · split at read
    · have whole := (readDigits_some read).1
      simp only [length_cons, whole, length_append]
      omega
    · cases read
      exact le_refl _

variable {exponent : Bool × JsString}

theorem readSigned_length
    (read : readSigned text = some (exponent, rest)) : rest.length ≤ text.length := by
  have shorter {body : JsString} {found : JsString × JsString}
      (digits : readDigits body = some found) : found.2.length ≤ body.length := by
    have whole := congrArg List.length (readDigits_some digits).1
    rw [length_append] at whole
    omega
  unfold readSigned at read
  split at read
  · cases read
  · split at read
    · obtain ⟨found, digits, same⟩ := Option.map_eq_some_iff.mp read
      cases same
      exact (shorter digits).trans (le_succ _)
    split at read
    · obtain ⟨found, digits, same⟩ := Option.map_eq_some_iff.mp read
      cases same
      exact (shorter digits).trans (le_succ _)
    · obtain ⟨found, digits, same⟩ := Option.map_eq_some_iff.mp read
      cases same
      exact shorter digits

theorem readExponent_length
    (read : readExponent text = some (exponent, rest)) : rest.length ≤ text.length := by
  unfold readExponent at read
  split at read
  · cases read
    exact le_refl _
  · split at read
    · exact (readSigned_length read).trans (le_succ _)
    · cases read
      exact le_refl _

def isNumberStart (unit : CodeUnit) : Bool := unit == 0x2D || Regex.isDigit unit

mutual

def Proper : Json → Prop
  | .fraction literal => ∃ unit, literal.head? = some unit ∧ isNumberStart unit = true
  | .array items => ProperItems items
  | .object members => ProperMembers members
  | _ => True

def ProperItems : List Json → Prop
  | [] => True
  | item :: rest => item.Proper ∧ ProperItems rest

def ProperMembers : List (JsString × Json) → Prop
  | [] => True
  | entry :: rest => entry.2.Proper ∧ ProperMembers rest

end

theorem properItems_iff {items : List Json} : ProperItems items ↔ ∀ item ∈ items, item.Proper := by
  induction items with
  | nil => simp [ProperItems]
  | cons item rest ih => simp [ProperItems, ih]

variable {members : List (JsString × Json)}

theorem properMembers_iff :
    ProperMembers members ↔ ∀ entry ∈ members, entry.2.Proper := by
  induction members with
  | nil => simp [ProperMembers]
  | cons entry rest ih => simp [ProperMembers, ih]

theorem proper_numberValue {negative : Bool} {whole decimals literal : JsString}
    {exponent : Bool × JsString} {unit : CodeUnit} (head : literal.head? = some unit)
    (starts : isNumberStart unit = true) :
    (numberValue negative whole decimals exponent literal).Proper := by
  unfold numberValue
  generalize (if exponent.1 then 0 else decimalValue exponent.2) = up
  generalize (decimals.length + if exponent.1 then decimalValue exponent.2 else 0) = down
  dsimp only
  split
  · trivial
  split
  · trivial
  · exact ⟨unit, head, starts⟩

theorem proper_readUnsigned {negative : Bool} {text body rest : JsString} {value : Json}
    {unit : CodeUnit} (head : text.head? = some unit) (starts : isNumberStart unit = true)
    (longer : body.length ≤ text.length)
    (read : readUnsigned negative text body = some (value, rest)) : value.Proper := by
  obtain ⟨⟨whole, afterWhole⟩, digits, read⟩ := Option.bind_eq_some_iff.mp read
  dsimp only at read
  split at read
  · cases read
  obtain ⟨⟨decimals, afterDecimals⟩, point, read⟩ := Option.bind_eq_some_iff.mp read
  obtain ⟨⟨exponent, after⟩, mark, read⟩ := Option.bind_eq_some_iff.mp read
  cases read
  apply @proper_numberValue _ _ _ _ _ unit _ starts
  obtain ⟨split, digit, first, _⟩ := readDigits_some digits
  have lengths := congrArg List.length split
  have nonempty : 0 < whole.length := length_pos_iff.mpr (by
    intro empty
    rw [empty] at first
    cases first)
  have decimalsLength : afterDecimals.length ≤ afterWhole.length := readFraction_length point
  have exponentLength : after.length ≤ afterDecimals.length := readExponent_length mark
  rw [length_append] at lengths
  dsimp only
  rw [List.head?_take, if_neg (by omega), head]

variable {value : Json}

theorem proper_readNumber (read : readNumber text = some (value, rest)) : value.Proper := by
  unfold readNumber at read
  split at read
  · cases read
  · rename_i unit tail
    split at read
    · rename_i minus
      exact @proper_readUnsigned _ _ _ _ _ unit rfl (by simp [isNumberStart, minus])
        (le_succ _) read
    · obtain ⟨found, digits, _⟩ := Option.bind_eq_some_iff.mp read
      obtain ⟨split, digit, first, isDigit⟩ := readDigits_some digits
      have same : unit = digit := by
        have heads := congrArg List.head? split
        rw [List.head?_append, first] at heads
        exact Option.some.inj heads
      exact @proper_readUnsigned _ _ _ _ _ unit rfl (by simp [isNumberStart, same, isDigit])
        (le_refl _) read

theorem proper_readWord {word : JsString} {read : Json} (proper : value.Proper)
    (found : readWord word value text = some (read, rest)) : read.Proper := by
  unfold readWord at found
  split at found
  · cases found
    exact proper
  · cases found

theorem proper_putMember {entry : JsString × Json}
    (proper : ∀ member ∈ members, member.2.Proper) (new : entry.2.Proper) :
    ∀ member ∈ putMember members entry, member.2.Proper := by
  intro member inside
  unfold putMember at inside
  split at inside
  · obtain ⟨old, among, rfl⟩ := mem_map.mp inside
    split
    · exact new
    · exact proper old among
  · rcases mem_append.mp inside with old | same
    · exact proper member old
    · rw [mem_singleton.mp same]
      exact new

theorem proper_ownMembers {entries : List (JsString × Json)}
    (proper : ∀ member ∈ members, member.2.Proper) (new : ∀ entry ∈ entries, entry.2.Proper) :
    ∀ member ∈ entries.foldl putMember members, member.2.Proper := by
  induction entries generalizing members with
  | nil => exact proper
  | cons entry rest ih =>
    exact ih (proper_putMember proper (new entry mem_cons_self))
      fun later among => new later (mem_cons_of_mem _ among)

/-- Three predicates on what is read of a text and on the rest, kept by each way to read. -/
structure ReadRule (value_ : JsString → Json → JsString → Prop)
    (items_ : JsString → List Json → JsString → Prop)
    (members_ : JsString → List (JsString × Json) → JsString → Prop) : Prop where
  spaces {text tail rest : JsString} {value : Json} {unit : CodeUnit} : skipSpace text = unit :: tail →
    value_ (unit :: tail) value rest → value_ text value rest
  quoted {text rest units : JsString} : readUnits text = some (units, rest) →
    value_ (0x22 :: text) (.string units) rest
  nothing {text rest : JsString} : skipSpace text = 0x5D :: rest → value_ (0x5B :: text) (.array []) rest
  list {text rest : JsString} {items : List Json} : items_ text items rest →
    value_ (0x5B :: text) (.array items) rest
  empty {text rest : JsString} : skipSpace text = 0x7D :: rest → value_ (0x7B :: text) (.object []) rest
  braced {text rest : JsString} {members : List (JsString × Json)} : members_ text members rest →
    value_ (0x7B :: text) (.object (members.foldl putMember [])) rest
  word {text rest word : JsString} {constant value : Json} :
    (word, constant) ∈ [(js "true", Json.bool true), (js "false", .bool false), (js "null", .null)] →
    readWord word constant text = some (value, rest) → value_ text value rest
  number {text rest : JsString} {value : Json} : readNumber text = some (value, rest) → value_ text value rest
  item {text after rest : JsString} {item : Json} : value_ text item after → skipSpace after = 0x5D :: rest →
    items_ text [item] rest
  items {text after more rest : JsString} {item : Json} {items : List Json} : value_ text item after →
    skipSpace after = 0x2C :: more → items_ more items rest → items_ text (item :: items) rest
  member {text quoted key colon body after rest : JsString} {value : Json} :
    skipSpace text = 0x22 :: quoted → readUnits quoted = some (key, colon) →
    skipSpace colon = 0x3A :: body → value_ body value after → skipSpace after = 0x7D :: rest →
    members_ text [(key, value)] rest
  members {text quoted key colon body after more rest : JsString} {value : Json}
    {members : List (JsString × Json)} : skipSpace text = 0x22 :: quoted →
    readUnits quoted = some (key, colon) → skipSpace colon = 0x3A :: body → value_ body value after →
    skipSpace after = 0x2C :: more → members_ more members rest → members_ text ((key, value) :: members) rest

theorem ReadRule.holds {value_ : JsString → Json → JsString → Prop}
    {items_ : JsString → List Json → JsString → Prop}
    {members_ : JsString → List (JsString × Json) → JsString → Prop}
    (rule : ReadRule value_ items_ members_) (fuel : Nat) :
    (∀ {text rest : JsString} {value : Json}, readValue fuel text = some (value, rest) →
      value_ text value rest) ∧
    (∀ {text rest : JsString} {items : List Json}, readItems fuel text = some (items, rest) →
      items_ text items rest) ∧
    (∀ {text rest : JsString} {members : List (JsString × Json)},
      readMembers fuel text = some (members, rest) → members_ text members rest) := by
  induction fuel with
  | zero =>
    refine ⟨?_, ?_, ?_⟩ <;> intro text rest read <;> exact nofun
  | succ fuel ih =>
    obtain ⟨ofValue, ofItems, ofMembers⟩ := ih
    refine ⟨?_, ?_, ?_⟩
    · intro text rest value read
      rw [readValue] at read
      split at read
      · cases read
      rename_i unit tail skipped
      apply rule.spaces skipped
      split at read
      · rename_i quoted
        obtain ⟨found, units, same⟩ := Option.map_eq_some_iff.mp read
        cases same
        exact quoted ▸ rule.quoted units
      split at read
      · rename_i listed
        subst listed
        split at read
        · rename_i more emptied
          cases read
          exact rule.nothing emptied
        · obtain ⟨found, items, same⟩ := Option.map_eq_some_iff.mp read
          cases same
          exact rule.list (ofItems items)
      split at read
      · rename_i braced
        subst braced
        split at read
        · rename_i more emptied
          cases read
          exact rule.empty emptied
        · obtain ⟨found, members, same⟩ := Option.map_eq_some_iff.mp read
          cases same
          exact rule.braced (ofMembers members)
      split at read
      · exact rule.word (by simp) read
      split at read
      · exact rule.word (by simp) read
      split at read
      · exact rule.word (by simp) read
      · exact rule.number read
    · intro text rest items read
      obtain ⟨⟨item, after⟩, first, read⟩ := Option.bind_eq_some_iff.mp read
      dsimp only at read
      split at read
      · rename_i more skipped
        obtain ⟨found, others, same⟩ := Option.map_eq_some_iff.mp read
        cases same
        exact rule.items (ofValue first) skipped (ofItems others)
      · rename_i more skipped
        cases read
        exact rule.item (ofValue first) skipped
      · cases read
    · intro text rest members read
      rw [readMembers] at read
      split at read
      · rename_i quoted opened
        obtain ⟨⟨key, colon⟩, units, read⟩ := Option.bind_eq_some_iff.mp read
        dsimp only at read
        split at read
        · rename_i body marked
          obtain ⟨⟨value, after⟩, first, read⟩ := Option.bind_eq_some_iff.mp read
          dsimp only at read
          split at read
          · rename_i more skipped
            obtain ⟨found, others, same⟩ := Option.map_eq_some_iff.mp read
            cases same
            exact rule.members opened units marked (ofValue first) skipped (ofMembers others)
          · rename_i more skipped
            cases read
            exact rule.member opened units marked (ofValue first) skipped
          · cases read
        · cases read
      · cases read

theorem proper_rule : ReadRule (fun _ value _ => value.Proper) (fun _ items _ => ∀ item ∈ items, item.Proper)
    (fun _ members _ => ∀ member ∈ members, member.2.Proper) where
  spaces _ proper := proper
  quoted _ := trivial
  nothing _ := trivial
  list proper := properItems_iff.mpr proper
  empty _ := trivial
  braced proper := properMembers_iff.mpr (proper_ownMembers (forall_mem_nil _) proper)
  word listed read := by
    refine proper_readWord ?_ read
    simp only [mem_cons, Prod.mk.injEq, not_mem_nil, or_false] at listed
    rcases listed with ⟨-, rfl⟩ | ⟨-, rfl⟩ | ⟨-, rfl⟩ <;> trivial
  number read := proper_readNumber read
  item proper _ := forall_mem_singleton.mpr proper
  items proper _ others := forall_mem_cons.mpr ⟨proper, others⟩
  member _ _ _ proper _ := forall_mem_singleton.mpr proper
  members _ _ _ proper _ others := forall_mem_cons.mpr ⟨proper, others⟩

theorem proper_parse (parsed : parse text = some value) :
    value.Proper := by
  unfold parse at parsed
  split at parsed
  · rename_i read
    split at parsed
    · cases parsed
      exact (proper_rule.holds _).1 read
    · cases parsed
  · cases parsed

theorem decimal_head (value : Int) :
    ∃ unit, (decimal value).head? = some unit ∧ isNumberStart unit = true := by
  cases value with
  | ofNat value =>
    have same : decimal (.ofNat value) = ofNat value := rfl
    rw [same]
    cases digits : ofNat value with
    | nil =>
      have positive := length_ofNat_pos value
      rw [digits] at positive
      cases positive
    | cons unit rest =>
      have digit := @isDigit_ofNat value unit (by rw [digits]; exact mem_cons_self)
      exact ⟨unit, rfl, by rw [isNumberStart, digit, Bool.or_true]⟩
  | negSucc value =>
    have same : decimal (.negSucc value) = js ("-" ++ toString (value + 1)) := rfl
    rw [same, js, String.toList_append, flatMap_append]
    exact ⟨0x2D, rfl, rfl⟩

theorem stringify_head (proper : value.Proper) :
    ∃ unit, value.stringify.head? = some unit ∧ unit ≠ 0x5D ∧ (unit = 0x22 → ∃ text, value = .string text) ∧
      (unit = 0x5B → ∃ items, value = .array items) := by
  have ofNumber {literal : JsString}
      (starts : ∃ unit, literal.head? = some unit ∧ isNumberStart unit = true) :
      ∃ unit, literal.head? = some unit ∧ unit ≠ 0x5D ∧ unit ≠ 0x22 ∧ unit ≠ 0x5B := by
    obtain ⟨unit, head, starts⟩ := starts
    refine ⟨unit, head, ?_, ?_, ?_⟩
    · intro same
      rw [same] at starts
      cases starts
    · intro same
      rw [same] at starts
      cases starts
    · intro same
      rw [same] at starts
      cases starts
  cases value with
  | null => exact ⟨0x6E, rfl, by decide, nofun, nofun⟩
  | bool value =>
    cases value with
    | false => exact ⟨0x66, rfl, by decide, nofun, nofun⟩
    | true => exact ⟨0x74, rfl, by decide, nofun, nofun⟩
  | number value =>
    obtain ⟨unit, head, close, quote, bracket⟩ := ofNumber (decimal_head value)
    exact ⟨unit, head, close, fun same => absurd same quote, fun same => absurd same bracket⟩
  | fraction literal =>
    obtain ⟨unit, head, close, quote, bracket⟩ := ofNumber proper
    exact ⟨unit, head, close, fun same => absurd same quote, fun same => absurd same bracket⟩
  | string text => exact ⟨0x22, rfl, by decide, fun _ => ⟨text, rfl⟩, nofun⟩
  | array items => exact ⟨0x5B, rfl, by decide, nofun, fun _ => ⟨items, rfl⟩⟩
  | object members => exact ⟨0x7B, rfl, by decide, nofun, nofun⟩

theorem string_front {otherRest : JsString} (proper : value.Proper)
    (same : value.stringify ++ rest = quote text ++ otherRest) :
    value = .string text ∧ rest = otherRest := by
  obtain ⟨unit, head, -, isString, -⟩ := stringify_head proper
  have heads := congrArg List.head? same
  rw [List.head?_append, head, List.head?_append] at heads
  obtain ⟨other, rfl⟩ := isString (Option.some.inj heads)
  obtain ⟨texts, rests⟩ := quote_append_inj same
  exact ⟨congrArg Json.string texts, rests⟩

theorem stringify_string_inj (proper : value.Proper)
    (same : value.stringify = (Json.string text).stringify) : value = .string text := by
  have texts : value.stringify ++ [] = quote text ++ [] := by
    rw [append_nil, append_nil]
    exact same
  exact (string_front proper texts).1

theorem join_items (item next : Json) (rest : List Json) :
    join (js ",") (stringifyItems (item :: next :: rest)) =
      item.stringify ++ (js "," ++ join (js ",") (stringifyItems (next :: rest))) := by
  rw [stringifyItems, stringifyItems, join, append_assoc]
  nofun

theorem join_strings_inj {items : List Json} {texts : List JsString} (proper : ∀ item ∈ items, item.Proper)
    (same : join (js ",") (stringifyItems items) ++ js "]" =
      join (js ",") (stringifyItems (texts.map .string)) ++ js "]") :
    items = texts.map .string := by
  induction items generalizing texts with
  | nil =>
    cases texts with
    | nil => rfl
    | cons text others =>
      have heads := congrArg List.head? same
      cases others with
      | nil => cases heads
      | cons other rest => cases heads
  | cons item more ih =>
    have properMore : ∀ item ∈ more, item.Proper := fun later among =>
      proper later (mem_cons_of_mem _ among)
    have properItem := proper item mem_cons_self
    cases texts with
    | nil =>
      obtain ⟨unit, head, close, -, -⟩ := stringify_head properItem
      have heads := congrArg List.head? same
      cases more with
      | nil =>
        rw [stringifyItems, stringifyItems, join, List.head?_append, head] at heads
        exact absurd (Option.some.inj heads) close
      | cons next rest =>
        rw [join_items, append_assoc, List.head?_append, head] at heads
        exact absurd (Option.some.inj heads) close
    | cons text others =>
      cases more with
      | nil =>
        cases others with
        | nil =>
          obtain ⟨rfl, -⟩ := string_front properItem same
          rfl
        | cons other rest =>
          rw [map_cons, map_cons, join_items, append_assoc] at same
          obtain ⟨-, rests⟩ := string_front properItem same
          cases rests
      | cons next rest =>
        rw [join_items, append_assoc] at same
        cases others with
        | nil =>
          obtain ⟨-, rests⟩ := string_front properItem same
          cases rests
        | cons other tail =>
          rw [map_cons, map_cons, join_items] at same
          simp only [append_assoc] at same
          obtain ⟨rfl, rests⟩ := string_front properItem same
          have later := @ih (other :: tail) properMore (append_cancel_left rests)
          rw [later]
          rfl

theorem stringify_strings_inj {texts : List JsString} (proper : value.Proper)
    (same : value.stringify = (Json.array (texts.map .string)).stringify) :
    value = .array (texts.map .string) := by
  obtain ⟨unit, head, -, -, isArray⟩ := stringify_head proper
  have heads := congrArg List.head? same
  rw [head] at heads
  obtain ⟨items, rfl⟩ := isArray (Option.some.inj heads)
  rw [stringify, stringify, append_assoc, append_assoc] at same
  rw [join_strings_inj (properItems_iff.mp proper) (append_cancel_left same)]

end CouncilKit.Data.Json
