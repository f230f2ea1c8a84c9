import CouncilKit.Data.JsonWrite

namespace CouncilKit.Data.Json

open JsString List

def lineAt (indent : JsString) : JsString := 0xA :: indent

/-- Texts between brackets, one to a line; none at all leaves the brackets alone. -/
def enclosed (opening closing : CodeUnit) (gap indent : JsString) : List JsString → JsString
  | [] => [opening, closing]
  | text :: rest =>
    opening :: (lineAt (indent ++ gap) ++ (join (0x2C :: lineAt (indent ++ gap)) (text :: rest) ++
      (lineAt indent ++ [closing])))

mutual

/-- `JSON.stringify(value, null, gap)` at an indentation -/
def indented (gap : JsString) : Json → JsString → JsString
  | .null, _ => stringify .null
  | .bool value, _ => stringify (.bool value)
  | .number value, _ => stringify (.number value)
  | .fraction literal, _ => stringify (.fraction literal)
  | .string text, _ => stringify (.string text)
  | .array items, indent => enclosed 0x5B 0x5D gap indent (indentedItems gap items (indent ++ gap))
  | .object members, indent =>
    enclosed 0x7B 0x7D gap indent (indentedMembers gap members (indent ++ gap))

def indentedItems (gap : JsString) : List Json → JsString → List JsString
  | [], _ => []
  | item :: rest, indent => indented gap item indent :: indentedItems gap rest indent

def indentedMembers (gap : JsString) : List (JsString × Json) → JsString → List JsString
  | [], _ => []
  | (key, value) :: rest, indent =>
    (quote key ++ 0x3A :: 0x20 :: indented gap value indent) :: indentedMembers gap rest indent

end

variable {gap indent : JsString}

theorem blank_lineAt (blank : ∀ unit ∈ indent, isJsonSpace unit = true) :
    ∀ unit ∈ lineAt indent, isJsonSpace unit = true := forall_mem_cons.mpr ⟨rfl, blank⟩

theorem blank_append {first second : JsString} (blank : ∀ unit ∈ first, isJsonSpace unit = true)
    (more : ∀ unit ∈ second, isJsonSpace unit = true) : ∀ unit ∈ first ++ second, isJsonSpace unit = true :=
  forall_mem_append.mpr ⟨blank, more⟩

mutual

theorem front_indented (blank : ∀ unit ∈ gap, isJsonSpace unit = true) : ∀ (value : Json) (indent : JsString),
    (∀ unit ∈ indent, isJsonSpace unit = true) → value.Writable →
      Front readValue (indented gap value indent) value
  | .null, _, _, writable => front_scalar trivial writable
  | .bool _, _, _, writable => front_scalar trivial writable
  | .number _, _, _, writable => front_scalar trivial writable
  | .fraction _, _, _, writable => front_scalar trivial writable
  | .string _, _, _, writable => front_scalar trivial writable
  | .array [], _, _, _ => front_no_items (forall_mem_nil _)
  | .array (item :: rest), indent, deep, writable =>
    (front_indentedItems blank (item :: rest) (indent ++ gap) (lineAt indent) (blank_append deep blank)
      (blank_lineAt deep) writable (cons_ne_nil _ _)).list
  | .object [], _, _, _ => front_no_members (forall_mem_nil _)
  | .object (member :: rest), indent, deep, writable =>
    (front_indentedMembers blank (member :: rest) (indent ++ gap) (lineAt indent)
      (blank_append deep blank) (blank_lineAt deep) writable.2 (cons_ne_nil _ _)).object writable.1

theorem front_indentedItems (blank : ∀ unit ∈ gap, isJsonSpace unit = true) : ∀ (items : List Json)
    (indent back : JsString), (∀ unit ∈ indent, isJsonSpace unit = true) →
      (∀ unit ∈ back, isJsonSpace unit = true) → WritableItems items → items ≠ [] →
      Front readItems (lineAt indent ++ (join (0x2C :: lineAt indent)
        (indentedItems gap items indent) ++ (back ++ [0x5D]))) items
  | [], _, _, _, _, _, some_ => absurd rfl some_
  | [item], indent, back, deep, shut, writable, _ => by
    have front := (front_indented blank item indent deep writable.1).after_spaces (blank_lineAt deep)
    have last := front.items_last shut
    rwa [append_assoc] at last
  | item :: next :: rest, indent, back, deep, shut, writable, _ => by
    have front := (front_indented blank item indent deep writable.1).after_spaces (blank_lineAt deep)
    have others := front_indentedItems blank (next :: rest) indent back deep shut writable.2
      (cons_ne_nil _ _)
    have all := @Front.items_cons _ _ [] _ _ front others (forall_mem_nil _)
    have joined : join (0x2C :: lineAt indent) (indentedItems gap (item :: next :: rest) indent) =
        indented gap item indent ++ 0x2C :: (lineAt indent ++
          join (0x2C :: lineAt indent) (indentedItems gap (next :: rest) indent)) := by
      rw [indentedItems, indentedItems, join, append_assoc]
      · rfl
      · nofun
    rw [joined]
    rw [append_assoc, nil_append] at all
    rwa [append_assoc, cons_append, append_assoc]

theorem front_indentedMembers (blank : ∀ unit ∈ gap, isJsonSpace unit = true) : ∀
    (members : List (JsString × Json)) (indent back : JsString),
      (∀ unit ∈ indent, isJsonSpace unit = true) → (∀ unit ∈ back, isJsonSpace unit = true) →
      WritableMembers members → members ≠ [] →
      Front readMembers (lineAt indent ++ (join (0x2C :: lineAt indent)
        (indentedMembers gap members indent) ++ (back ++ [0x7D]))) members
  | [], _, _, _, _, _, some_ => absurd rfl some_
  | [(key, value)], indent, back, deep, shut, writable, _ => by
    have space : ∀ unit ∈ ([0x20] : JsString), isJsonSpace unit = true :=
      forall_mem_cons.mpr ⟨rfl, forall_mem_nil _⟩
    have front := (front_indented blank value indent deep writable.1).after_spaces space
    have last := front.key_last key (blank_lineAt deep) shut
    have joined : join (0x2C :: lineAt indent) (indentedMembers gap [(key, value)] indent) =
        quote key ++ 0x3A :: ([0x20] ++ indented gap value indent) := rfl
    rwa [joined, append_assoc, cons_append]
  | (key, value) :: next :: rest, indent, back, deep, shut, writable, _ => by
    have space : ∀ unit ∈ ([0x20] : JsString), isJsonSpace unit = true :=
      forall_mem_cons.mpr ⟨rfl, forall_mem_nil _⟩
    have front := (front_indented blank value indent deep writable.1).after_spaces space
    have others := front_indentedMembers blank (next :: rest) indent back deep shut writable.2
      (cons_ne_nil _ _)
    have all := @Front.key_cons _ _ _ [] _ _ key front others (blank_lineAt deep) (forall_mem_nil _)
    have joined : join (0x2C :: lineAt indent) (indentedMembers gap ((key, value) :: next :: rest) indent) =
        quote key ++ 0x3A :: (([0x20] ++ indented gap value indent) ++ 0x2C :: (lineAt indent ++
          join (0x2C :: lineAt indent) (indentedMembers gap (next :: rest) indent))) := by
      rw [indentedMembers, indentedMembers, join, append_assoc]
      · simp
      · nofun
    rw [joined]
    simp only [append_assoc, cons_append, nil_append] at all ⊢
    exact all

end

theorem parse_indented {value : Json} {after : JsString} (blank : ∀ unit ∈ gap, isJsonSpace unit = true)
    (ended : ∀ unit ∈ after, isJsonSpace unit = true) (writable : value.Writable) :
    parse (indented gap value [] ++ after) = some value :=
  parse_of_front (front_indented blank value [] (forall_mem_nil _) writable) ended

end CouncilKit.Data.Json
