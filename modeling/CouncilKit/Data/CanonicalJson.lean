import CouncilKit.Data.Fallible
import CouncilKit.Data.FiniteNumber
import CouncilKit.Data.JsonWrite
import CouncilKit.Data.SortedPrefix

namespace CouncilKit.Data

open JsString List Json FiniteNumber Nat

/-! `canonicalJson` on all that `JSON.stringify` has a text for, and on members that are
`undefined`.  An object is what the code reads of it: its own keys, and a value for each.
-/

/-- `Object.keys(record)` -/
abbrev Keys := { keys : List JsString // keys.Nodup }

inductive Value where
  | null
  | bool (value : Bool)
  | number (value : FiniteNumber)
  | string (text : JsString)
  | array (length : Nat) (item : Nat → Value)
  | object (keys : Keys) (record : JsString → Value)
  | undefined
  /-- A number that is not finite, a function, a symbol or a bigint. -/
  | unsupported

namespace Value

def isUndefined : Value → Bool
  | .undefined => true
  | _ => false

/-- `Object.keys(record).filter((key) => record[key] !== undefined).sort()` -/
def definedKeys (keys : Keys) (record : JsString → Value) : List JsString :=
  (keys.1.filter fun key => !(record key).isUndefined).insertionSort fun left right => ¬ right.Before left

def serialize : Value → Nat → Option JsString
  | .null, depth => if depth > MAX_DEPTH then none else some (js "null")
  | .bool value, depth => if depth > MAX_DEPTH then none else some (.ofBool value)
  | .number value, depth => if depth > MAX_DEPTH then none else some value.text
  | .string text, depth => if depth > MAX_DEPTH then none else some (quote text)
  | .array length item, depth =>
    if depth > MAX_DEPTH then none
    else ((List.range length).mapM fun index => serialize (item index) (depth + 1)).map
      fun texts => js "[" ++ join (js ",") texts ++ js "]"
  | .object keys record, depth =>
    if depth > MAX_DEPTH then none
    else ((definedKeys keys record).mapM fun key =>
      (serialize (record key) (depth + 1)).map fun text => quote key ++ js ":" ++ text).map
        fun entries => js "\x7b" ++ join (js ",") entries ++ js "\x7d"
  | .undefined, _ | .unsupported, _ => none

def canonicalJson (value : Value) : Option JsString := value.serialize 0

/-- The value has a member of the name that is not `undefined`. -/
def Has (keys : Keys) (record : JsString → Value) (key : JsString) : Prop :=
  key ∈ keys.1 ∧ (record key).isUndefined = false

/-- Equal as JSON: arrays in order, objects by their members. -/
def Same : Value → Value → Prop
  | .null, .null => True
  | .bool left, .bool right => left = right
  | .number left, .number right => left = right
  | .string left, .string right => left = right
  | .array left item, .array right other =>
    left = right ∧ ∀ index < left, Same (item index) (other index)
  | .object left record, .object right other => ∀ key,
      (Has left record key ↔ Has right other key) ∧
        (Has left record key → Same (record key) (other key))
  | _, _ => False

/-- A JSON value, with no more than so many arrays and objects around anything in it. -/
def Within : Value → Nat → Prop
  | .array length item, most => ∀ index < length, 0 < most ∧ Within (item index) (most - 1)
  | .object keys record, most => ∀ key, Has keys record key → 0 < most ∧ Within (record key) (most - 1)
  | .undefined, _ | .unsupported, _ => False
  | _, _ => True

variable {keys others : Keys} {record other : JsString → Value} {left right : Value} {depth : Nat}

theorem mem_definedKeys {key : JsString} : key ∈ definedKeys keys record ↔ Has keys record key := by
  rw [definedKeys, mem_insertionSort, mem_filter, Has, Bool.not_eq_true']

instance : Std.Total fun left right : JsString => ¬ right.Before left where
  total left right := by
    by_cases later : right.Before left
    · exact .inr later.asymm
    · exact .inl later

instance : IsTrans JsString fun left right => ¬ right.Before left where
  trans _ _ _ := not_before_trans

theorem definedKeys_congr (same : ∀ key, Has keys record key ↔ Has others other key) :
    definedKeys keys record = definedKeys others other := by
  have sorted (keys : Keys) (record : JsString → Value) : (definedKeys keys record).Pairwise Before := by
    have distinct : (definedKeys keys record).Nodup :=
      (perm_insertionSort ..).nodup_iff.mpr (keys.2.filter _)
    refine ((pairwise_insertionSort ..).and distinct).imp fun {left right} ordered => ?_
    obtain earlier | alike | later := before_or_eq_or_before left right
    · exact earlier
    · exact absurd alike ordered.2
    · exact absurd later ordered.1
  refine eq_of_members (fun earlier => earlier.asymm) (sorted _ _) (sorted _ _) fun key => ?_
  rw [mem_definedKeys, mem_definedKeys, same key]

theorem mapM_congr {α β : Type} {items : List α} {first second : α → Option β}
    (same : ∀ item ∈ items, first item = second item) : items.mapM first = items.mapM second := by
  induction items with
  | nil => rfl
  | cons item rest ih =>
    rw [forall_mem_cons] at same
    rw [mapM_cons, mapM_cons, same.1, ih same.2]

theorem isSome_mapM {α β : Type} {items : List α} {body : α → Option β} :
    (items.mapM body).isSome = true ↔ ∀ item ∈ items, (body item).isSome = true := by
  induction items with
  | nil => exact iff_of_true rfl (forall_mem_nil _)
  | cons item rest ih =>
    rw [mapM_cons, forall_mem_cons, ← ih]
    cases body item with
    | none => simp
    | some result => cases rest.mapM body <;> simp

theorem serialize_deep (value : Value) (deep : MAX_DEPTH < depth) : value.serialize depth = none := by
  cases value <;> simp only [serialize, gt_iff_lt, if_pos deep]

theorem isSome_inner {value : Value} (ih : ∀ {depth}, depth ≤ MAX_DEPTH →
    ((value.serialize depth).isSome = true ↔ value.Within (MAX_DEPTH - depth))) (depth : Nat) :
    (value.serialize (depth + 1)).isSome = true ↔
      0 < MAX_DEPTH - depth ∧ value.Within (MAX_DEPTH - depth - 1) := by
  by_cases room : depth + 1 ≤ MAX_DEPTH
  · rw [ih room, sub_add_eq]
    exact ⟨fun within => ⟨by omega, within⟩, fun within => within.2⟩
  · rw [serialize_deep value (Nat.lt_of_not_le room)]
    exact iff_of_false Bool.false_ne_true fun within => absurd within.1 (by omega)

theorem isSome_serialize (value : Value) (shallow : depth ≤ MAX_DEPTH) :
    (value.serialize depth).isSome = true ↔ value.Within (MAX_DEPTH - depth) := by
  induction value generalizing depth with
  | array length item ih =>
    simp only [serialize, gt_iff_lt, if_neg (not_lt.mpr shallow), Option.isSome_map, isSome_mapM,
      mem_range, Within, isSome_inner (ih _)]
  | object keys record ih =>
    simp only [serialize, gt_iff_lt, if_neg (not_lt.mpr shallow), Option.isSome_map, isSome_mapM,
      mem_definedKeys, Within, isSome_inner (ih _)]
  | undefined => exact iff_of_false Bool.false_ne_true id
  | unsupported => exact iff_of_false Bool.false_ne_true id
  | _ => simp only [serialize, gt_iff_lt, if_neg (not_lt.mpr shallow), Within, Option.isSome_some]

theorem serialize_congr (same : Same left right) (depth : Nat) :
    left.serialize depth = right.serialize depth := by
  induction left generalizing right depth with
  | null =>
    cases right with
    | null => rfl
    | _ => exact same.elim
  | bool value =>
    cases right with
    | bool other => rw [show value = other from same]
    | _ => exact same.elim
  | number value =>
    cases right with
    | number other => rw [show value = other from same]
    | _ => exact same.elim
  | string text =>
    cases right with
    | string other => rw [show text = other from same]
    | _ => exact same.elim
  | array length item ih =>
    cases right with
    | array count other =>
      obtain ⟨rfl, items⟩ := same
      rw [serialize, serialize, mapM_congr fun index member =>
        ih index (items index (mem_range.mp member)) (depth + 1)]
    | _ => exact same.elim
  | object keys record ih =>
    cases right with
    | object others other =>
      have each : ∀ key ∈ definedKeys keys record,
          (record key).serialize (depth + 1) = (other key).serialize (depth + 1) :=
        fun key member => ih key ((same key).2 (mem_definedKeys.mp member)) (depth + 1)
      rw [serialize, serialize, ← definedKeys_congr fun key => (same key).1,
        mapM_congr fun key member => by rw [each key member]]
    | _ => exact same.elim
  | undefined => cases right <;> exact same.elim
  | unsupported => cases right <;> exact same.elim

/-- No number goes on here. -/
def Stops (text : JsString) : Prop := ∀ unit, text.head? = some unit → isNumeric unit = false

section Join

variable {α β : Type} (relates : α → β → Prop) {first : α → JsString → Prop}
  {second : β → JsString → Prop} {close : CodeUnit}

theorem join_cons (text : JsString) (rest : List JsString) : join (js ",") (text :: rest) =
    text ++ if rest = [] then [] else 0x2C :: join (js ",") rest := by
  cases rest with
  | nil => exact (append_nil _).symm
  | cons next rest =>
    rw [join, if_neg (cons_ne_nil _ _), append_assoc]
    · rfl
    · nofun

theorem join_inj {items : List α} {texts : List JsString} {others : List β} {pieces : List JsString}
    {after behind : JsString} (comma : close ≠ 0x2C) (closes : isNumeric close = false)
    (some_ : ∀ item text, first item text → ∃ unit rest, text = unit :: rest ∧ unit ≠ close)
    (some' : ∀ item text, second item text → ∃ unit rest, text = unit :: rest ∧ unit ≠ close)
    (each : ∀ item other text piece after behind, first item text → second other piece →
      Stops after → Stops behind → text ++ after = piece ++ behind → relates item other ∧ after = behind)
    (left : List.Forall₂ first items texts) (right : List.Forall₂ second others pieces)
    (same : join (js ",") texts ++ close :: after = join (js ",") pieces ++ close :: behind) :
    List.Forall₂ relates items others ∧ after = behind := by
  induction left generalizing others pieces with
  | nil =>
    cases right with
    | nil => exact ⟨.nil, (List.cons.inj same).2⟩
    | @cons other piece others pieces here later =>
      obtain ⟨unit, rest, rfl, apart⟩ := some' _ _ here
      rw [join_cons] at same
      exact absurd (List.cons.inj same).1.symm apart
  | @cons item text items texts here later ih =>
    cases right with
    | nil =>
      obtain ⟨unit, rest, rfl, apart⟩ := some_ _ _ here
      rw [join_cons] at same
      exact absurd (List.cons.inj same).1 apart
    | @cons other piece others pieces there behind =>
      rw [join_cons, join_cons, append_assoc, append_assoc] at same
      have stops (texts : List JsString) (after : JsString) :
          Stops ((if texts = [] then [] else 0x2C :: join (js ",") texts) ++ close :: after) := by
        intro unit head
        split at head
        · cases head
          exact closes
        · cases head
          rfl
      obtain ⟨relates, rest⟩ := each _ _ _ _ _ _ here there (stops _ _) (stops _ _) same
      cases later with
      | nil =>
        cases behind with
        | nil => exact ⟨.cons relates .nil, (List.cons.inj rest).2⟩
        | cons => exact absurd (List.cons.inj rest).1 comma
      | cons next later =>
        cases behind with
        | nil => exact absurd (List.cons.inj rest).1.symm comma
        | cons other behind =>
          obtain ⟨others, same⟩ := ih (.cons other behind) (List.cons.inj rest).2
          exact ⟨.cons relates others, same⟩

end Join

/-- What a first unit says of the value: seven for none. -/
def unitKind (unit : CodeUnit) : Nat :=
  if isNumeric unit then 3
  else if unit = 0x6E then 0
  else if unit = 0x74 ∨ unit = 0x66 then 1
  else if unit = 0x22 then 2
  else if unit = 0x5B then 4
  else if unit = 0x7B then 5
  else 7

def kind : Value → Nat
  | .null => 0
  | .bool _ => 1
  | .string _ => 2
  | .number _ => 3
  | .array _ _ => 4
  | .object _ _ => 5
  | .undefined | .unsupported => 6

variable {text piece after behind : JsString} {depth' : Nat}

section

variable (made : left.serialize depth = some text)

include made

theorem not_deep : ¬ depth > MAX_DEPTH := by
  intro deep
  rw [serialize_deep left deep] at made
  cases made

theorem serialize_head : ∃ unit rest, text = unit :: rest ∧ unitKind unit = left.kind := by
  have shallow := not_deep made
  cases left with
  | null =>
    rw [serialize, if_neg shallow] at made
    cases made
    exact ⟨0x6E, _, rfl, rfl⟩
  | bool value =>
    rw [serialize, if_neg shallow] at made
    cases made
    cases value with
    | false => exact ⟨0x66, _, rfl, rfl⟩
    | true => exact ⟨0x74, _, rfl, rfl⟩
  | number value =>
    rw [serialize, if_neg shallow] at made
    cases made
    obtain ⟨unit, head, -⟩ := text_head value
    obtain ⟨rest, same⟩ := List.head?_eq_some_iff.mp head
    refine ⟨unit, rest, same, ?_⟩
    rw [unitKind, if_pos (numeric_text value unit (by rw [same]; exact mem_cons_self))]
    rfl
  | string text =>
    rw [serialize, if_neg shallow] at made
    cases made
    exact ⟨0x22, _, rfl, rfl⟩
  | array length item =>
    rw [serialize, if_neg shallow] at made
    obtain ⟨texts, -, rfl⟩ := Option.map_eq_some_iff.mp made
    exact ⟨0x5B, _, rfl, rfl⟩
  | object keys record =>
    rw [serialize, if_neg shallow] at made
    obtain ⟨entries, -, rfl⟩ := Option.map_eq_some_iff.mp made
    exact ⟨0x7B, _, rfl, rfl⟩
  | undefined => cases made
  | unsupported => cases made

theorem kinds_of_append (made' : right.serialize depth' = some piece)
    (same : text ++ after = piece ++ behind) : left.kind = right.kind := by
  obtain ⟨unit, rest, rfl, here⟩ := serialize_head made
  obtain ⟨other, others, rfl, there⟩ := serialize_head made'
  rw [← here, ← there, (List.cons.inj same).1]

end

theorem quote_append_inj {name other : JsString}
    (same : quote name ++ after = quote other ++ behind) : name = other ∧ after = behind := by
  have read (name after : JsString) : readUnits (quote name ++ after).tail = some (name, after) := by
    rw [quote, append_assoc, append_assoc]
    exact readUnits_quoteUnits name after
  have both := congrArg (fun text => readUnits text.tail) same
  simp only [read, Option.some.injEq, Prod.mk.injEq] at both
  exact both

theorem number_append_inj {first second : FiniteNumber} (stops : Stops after) (stops' : Stops behind)
    (same : first.text ++ after = second.text ++ behind) : first = second ∧ after = behind := by
  have takes {after : JsString} (value : FiniteNumber) (stops : Stops after) :
      (value.text ++ after).takeWhile isNumeric = value.text := by
    rw [takeWhile_append_of_pos (numeric_text value)]
    cases after with
    | nil => exact append_nil _
    | cons unit rest => rw [takeWhile_cons_of_neg (by simp [stops unit rfl]), append_nil]
  have texts := congrArg (List.takeWhile isNumeric) same
  rw [takes first stops, takes second stops'] at texts
  rw [texts] at same
  exact ⟨text_injective texts, append_cancel_left same⟩

theorem serialize_apart {close : CodeUnit} (closes : unitKind close = 7)
    (made : left.serialize depth = some text) : ∃ unit rest, text = unit :: rest ∧ unit ≠ close := by
  obtain ⟨unit, rest, same, here⟩ := serialize_head made
  refine ⟨unit, rest, same, fun alike => ?_⟩
  rw [alike, closes] at here
  cases left <;> cases here

theorem serialize_inj (made : left.serialize depth = some text)
    (made' : right.serialize depth' = some piece) (stops : Stops after) (stops' : Stops behind)
    (same : text ++ after = piece ++ behind) : Same left right ∧ after = behind := by
  have kinds := kinds_of_append made made' same
  have shallow := not_deep made
  have shallow' := not_deep made'
  induction left generalizing right depth depth' text piece after behind with
  | null =>
    cases right with
    | null =>
      rw [serialize, if_neg shallow] at made
      rw [serialize, if_neg shallow'] at made'
      cases made
      cases made'
      exact ⟨trivial, append_cancel_left same⟩
    | _ => cases kinds
  | bool value =>
    cases right with
    | bool other =>
      rw [serialize, if_neg shallow] at made
      rw [serialize, if_neg shallow'] at made'
      cases made
      cases made'
      cases value <;> cases other
      · exact ⟨rfl, append_cancel_left same⟩
      · cases same
      · cases same
      · exact ⟨rfl, append_cancel_left same⟩
    | _ => cases kinds
  | number value =>
    cases right with
    | number other =>
      rw [serialize, if_neg shallow] at made
      rw [serialize, if_neg shallow'] at made'
      cases made
      cases made'
      exact number_append_inj stops stops' same
    | _ => cases kinds
  | string text =>
    cases right with
    | string other =>
      rw [serialize, if_neg shallow] at made
      rw [serialize, if_neg shallow'] at made'
      cases made
      cases made'
      exact quote_append_inj same
    | _ => cases kinds
  | array length item ih =>
    cases right with
    | array count other =>
      rw [serialize, if_neg shallow] at made
      rw [serialize, if_neg shallow'] at made'
      obtain ⟨texts, listed, rfl⟩ := Option.map_eq_some_iff.mp made
      obtain ⟨pieces, listed', rfl⟩ := Option.map_eq_some_iff.mp made'
      rw [append_assoc, append_assoc, append_assoc, append_assoc] at same
      obtain ⟨related, rest⟩ := join_inj (fun index index' => Same (item index) (other index'))
        (by decide) rfl (fun _ _ here => serialize_apart rfl here) (fun _ _ here => serialize_apart rfl here)
        (fun index index' _ _ _ _ here there stops stops' same =>
          ih index here there stops stops' same (kinds_of_append here there same) (not_deep here)
            (not_deep there))
        (mapM_some_iff.mp listed) (mapM_some_iff.mp listed') (append_cancel_left same)
      obtain rfl : length = count := by simpa using related.length_eq
      exact ⟨⟨rfl, fun index less => forall₂_same.mp related index (mem_range.mpr less)⟩, rest⟩
    | _ => cases kinds
  | object keys record ih =>
    cases right with
    | object others other =>
      rw [serialize, if_neg shallow] at made
      rw [serialize, if_neg shallow'] at made'
      obtain ⟨entries, listed, rfl⟩ := Option.map_eq_some_iff.mp made
      obtain ⟨pieces, listed', rfl⟩ := Option.map_eq_some_iff.mp made'
      rw [append_assoc, append_assoc, append_assoc, append_assoc] at same
      have opens (record : JsString → Value) (depth : Nat) (key text : JsString)
          (made : ((record key).serialize depth).map (quote key ++ js ":" ++ ·) = some text) :
          ∃ unit rest, text = unit :: rest ∧ unit ≠ 0x7D := by
        obtain ⟨body, -, rfl⟩ := Option.map_eq_some_iff.mp made
        exact ⟨0x22, _, rfl, by decide⟩
      obtain ⟨related, rest⟩ := join_inj (fun key key' => key = key' ∧ Same (record key) (other key'))
        (by decide) rfl (opens record _) (opens other _)
        (fun key key' text piece after behind here there stops stops' same => by
          obtain ⟨body, made, rfl⟩ := Option.map_eq_some_iff.mp here
          obtain ⟨body', made', rfl⟩ := Option.map_eq_some_iff.mp there
          rw [append_assoc, append_assoc, append_assoc, append_assoc] at same
          obtain ⟨names, rest⟩ := quote_append_inj same
          have bodies := append_cancel_left rest
          obtain ⟨values, ends⟩ := ih key made made' stops stops' bodies
            (kinds_of_append made made' bodies) (not_deep made) (not_deep made')
          exact ⟨⟨names, values⟩, ends⟩)
        (mapM_some_iff.mp listed) (mapM_some_iff.mp listed') (append_cancel_left same)
      have names : definedKeys keys record = definedKeys others other := by
        have alike := related.imp fun _ _ both => both.1
        rwa [forall₂_eq_eq_eq] at alike
      rw [← names] at related
      refine ⟨fun key => ⟨?_, fun has => ?_⟩, rest⟩
      · rw [← mem_definedKeys, names, mem_definedKeys]
      · exact (forall₂_same.mp related key (mem_definedKeys.mpr has)).2
    | _ => cases kinds
  | undefined => cases made
  | unsupported => cases made

theorem stops_nil : Stops [] := by
  intro unit none_
  cases none_

/-- A value has a text when it is JSON and nested no deeper than the limit; then the text tells
it from every other value, and so does the digest unless the two texts collide. -/
theorem canonicalJson_inj (left right : Value) :
    (left.canonicalJson.isSome = true ↔ left.Within MAX_DEPTH) ∧
      ∀ text piece, left.canonicalJson = some text → right.canonicalJson = some piece →
        (text = piece ↔ Same left right) ∧
        ∀ [Digest], (Digest.sha256 text = Digest.sha256 piece → text = piece) →
          (Digest.sha256 text = Digest.sha256 piece ↔ Same left right) := by
  refine ⟨isSome_serialize left (zero_le _), fun text piece made made' => ?_⟩
  have same : text = piece ↔ Same left right := by
    constructor
    · rintro rfl
      exact (serialize_inj made made' stops_nil stops_nil rfl).1
    · intro same
      have alike := serialize_congr same 0
      rw [show left.serialize 0 = _ from made, show right.serialize 0 = _ from made'] at alike
      exact Option.some.inj alike
  exact ⟨same, fun apart => ⟨fun digests => same.mp (apart digests), fun alike => by rw [same.mpr alike]⟩⟩

def nested : Nat → Value
  | 0 => .null
  | depth + 1 => .array 1 fun _ => nested depth

theorem same_nested (depth : Nat) : Same (nested depth) (nested depth) := by
  induction depth with
  | zero => exact trivial
  | succ depth ih => exact ⟨rfl, fun _ _ => ih⟩

theorem within_nested {depth most : Nat} (within : (nested depth).Within most) : depth ≤ most := by
  induction depth generalizing most with
  | zero => exact zero_le _
  | succ depth ih =>
    obtain ⟨room, inner⟩ := within 0 zero_lt_one
    have least := ih inner
    omega

/-- An array of arrays, sixty-five deep, has no text. -/
theorem nested_refused : ¬ ∀ left right,
    (∃ text, left.canonicalJson = some text ∧ right.canonicalJson = some text) ↔ Same left right := by
  intro claimed
  obtain ⟨text, made, -⟩ := (claimed _ _).mpr (same_nested 65)
  have within := (isSome_serialize (nested 65) (zero_le _)).mp (Option.isSome_of_eq_some made)
  exact absurd (within_nested within) (by decide)

end Value

end CouncilKit.Data
