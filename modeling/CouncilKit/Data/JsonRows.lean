import CouncilKit.Data.FencedLines
import CouncilKit.Data.JsonValue
import CouncilKit.Data.JsonWrite

namespace CouncilKit.Data

open JsString Json

variable {fields : List (JsString × Option Json)} {name : JsString}

/-- The members of an object literal: one that is `undefined` is not written. -/
def definedMembers (fields : List (JsString × Option Json)) : List (JsString × Json) :=
  fields.filterMap fun field => field.2.map fun value => (field.1, value)

def objectOf (fields : List (JsString × Option Json)) : Json := .object (definedMembers fields)

theorem names_definedMembers : ((definedMembers fields).map (·.1)).Sublist (fields.map (·.1)) := by
  induction fields with
  | nil => exact .slnil
  | cons field rest ih =>
    obtain ⟨name, value⟩ := field
    cases value with
    | none => exact ih.cons name
    | some value => exact ih.cons_cons name

theorem memberOf_objectOf {value : Option Json} (names : (fields.map (·.1)).Nodup)
    (member : (name, value) ∈ fields) : memberOf (objectOf fields) name = value := by
  change ((definedMembers fields).find? (·.1 = name)).map (·.2) = value
  induction fields with
  | nil => cases member
  | cons field rest ih =>
    obtain ⟨other, content⟩ := field
    obtain ⟨fresh, distinct⟩ := List.nodup_cons.mp names
    have absent (same : other = name) : (definedMembers rest).find? (·.1 = name) = none := by
      rw [List.find?_eq_none]
      intro entry among matched
      have named := names_definedMembers.subset (List.mem_map_of_mem among)
      rw [of_decide_eq_true matched, ← same] at named
      exact fresh named
    obtain here | later := List.mem_cons.mp member
    · cases here
      cases value with
      | none =>
        have skipped : definedMembers ((name, none) :: rest) = definedMembers rest := rfl
        rw [skipped, absent rfl]
        rfl
      | some value =>
        have kept : definedMembers ((name, some value) :: rest) = (name, value) :: definedMembers rest := rfl
        rw [kept, List.find?_cons_of_pos (by exact decide_eq_true rfl)]
        rfl
    · have other_ : other ≠ name := by
        intro same
        subst same
        exact fresh (List.mem_map.mpr ⟨(other, value), later, rfl⟩)
      cases content with
      | none => exact ih distinct later
      | some content =>
        have kept : definedMembers ((other, some content) :: rest) =
            (other, content) :: definedMembers rest := rfl
        rw [kept, List.find?_cons_of_neg (by simpa using other_)]
        exact ih distinct later

variable {members : List (JsString × Json)}

theorem writableMembers_iff :
    WritableMembers members ↔ ∀ member ∈ members, member.2.Writable := by
  induction members with
  | nil => exact iff_of_true trivial (List.forall_mem_nil _)
  | cons member rest ih =>
    obtain ⟨key, value⟩ := member
    rw [WritableMembers, ih, List.forall_mem_cons]

theorem writableItems_iff {items : List Json} : WritableItems items ↔ ∀ item ∈ items, item.Writable := by
  induction items with
  | nil => exact iff_of_true trivial (List.forall_mem_nil _)
  | cons item rest ih => rw [WritableItems, ih, List.forall_mem_cons]

theorem writable_objectOf (names : (fields.map (·.1)).Nodup)
    (values : ∀ field ∈ fields, ∀ value, field.2 = some value → value.Writable) :
    (objectOf fields).Writable := by
  refine ⟨names.sublist names_definedMembers, writableMembers_iff.mpr fun member among => ?_⟩
  obtain ⟨field, listed, made⟩ := List.mem_filterMap.mp among
  obtain ⟨value, content, same⟩ := Option.map_eq_some_iff.mp made
  cases same
  exact values field listed value content

theorem writable_strings (texts : List JsString) : (array (texts.map .string)).Writable := by
  refine writableItems_iff.mpr fun item member => ?_
  obtain ⟨text, _, same⟩ := List.mem_map.mp member
  cases same
  trivial

/-- One line of the file; `none` when it is skipped. -/
def parseRow (line : JsString) : Option Json :=
  if trim line = [] then none else parse (trim line)

def parseRows (text : JsString) : List Json := (splitOn 0xA text).filterMap parseRow

/-- `rows.map((row) => JSON.stringify(row)).join("\n")` and the end of the last line -/
def writeRows (rows : List Json) : JsString := join [0xA] (rows.map stringify) ++ [0xA]

theorem newline_not_mem {value : Json} (writable : value.Writable) : 0xA ∉ value.stringify :=
  fun member => printed_stringify value writable 0xA member (by decide)

theorem parseRow_object (writable : (object members).Writable) :
    parseRow (object members).stringify = some (.object members) := by
  have spelled := stringify_object members
  have trimmed : trim (object members).stringify = (object members).stringify := by
    apply trim_of_ends
    · intro unit first
      rw [spelled] at first
      cases first
      rfl
    · intro unit last
      rw [spelled, ← List.cons_append, List.getLast?_append] at last
      cases last
      rfl
  have some_ : (object members).stringify ≠ [] := by
    rw [spelled]
    exact List.cons_ne_nil _ _
  rw [parseRow, trimmed, if_neg some_, parse_stringify writable]

theorem parseRows_append (front back : JsString) :
    parseRows (front ++ 0xA :: back) = parseRows front ++ parseRows back := by
  rw [parseRows, splitOn_append, List.filterMap_append]
  rfl

theorem parseRows_nil : parseRows [] = [] := rfl

theorem parseRows_row (writable : (object members).Writable) :
    parseRows (object members).stringify = [.object members] := by
  rw [parseRows, splitOn_single (newline_not_mem writable), List.filterMap_cons, parseRow_object writable]
  rfl

theorem parseRows_writeRows {rows : List Json} (objects : ∀ row ∈ rows, ∃ members, row = .object members)
    (writable : ∀ row ∈ rows, row.Writable) : parseRows (writeRows rows) = rows := by
  induction rows with
  | nil => rfl
  | cons row rest ih =>
    obtain ⟨members, same⟩ := objects row List.mem_cons_self
    have here := parseRows_row (same ▸ writable row List.mem_cons_self)
    rw [← same] at here
    cases rest with
    | nil =>
      have written : writeRows [row] = row.stringify ++ 0xA :: [] := rfl
      rw [written, parseRows_append, here, parseRows_nil, List.append_nil]
    | cons next more =>
      have later := ih (fun other member => objects other (List.mem_cons_of_mem _ member))
        fun other member => writable other (List.mem_cons_of_mem _ member)
      have written : writeRows (row :: next :: more) = row.stringify ++ 0xA :: writeRows (next :: more) := by
        rw [writeRows, List.map_cons, List.map_cons, join, List.append_assoc, List.append_assoc]
        · rfl
        · nofun
      rw [written, parseRows_append, here, later]
      rfl

end CouncilKit.Data
