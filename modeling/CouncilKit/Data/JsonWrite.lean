import Mathlib
import CouncilKit.Data.JsonFront
import CouncilKit.Data.NumberText

namespace CouncilKit.Data.Json

open JsString List

mutual

def Writable : Json → Prop
  | .fraction literal => readNumber literal = some (.fraction literal, []) ∧ ∀ unit ∈ literal, ¬ unit < 0x20
  | .array items => WritableItems items
  | .object members => (members.map (·.1)).Nodup ∧ WritableMembers members
  | .null | .bool _ | .number _ | .string _ => True

def WritableItems : List Json → Prop
  | [] => True
  | item :: rest => Writable item ∧ WritableItems rest

def WritableMembers : List (JsString × Json) → Prop
  | [] => True
  | (_, value) :: rest => Writable value ∧ WritableMembers rest

end

theorem decimalValue_lt {digits : JsString} (decimal : ∀ digit ∈ digits, Regex.isDigit digit = true) :
    decimalValue digits < 10 ^ digits.length := by
  have folds (start : Nat) : digits.foldl (fun value digit => value * 10 + (digit.toNat - 0x30)) start <
      (start + 1) * 10 ^ digits.length := by
    induction digits generalizing start with
    | nil => simp
    | cons digit rest ih =>
      have here := decimal digit mem_cons_self
      simp only [Regex.isDigit, Bool.and_eq_true, decide_eq_true_eq, UInt16.le_iff_toNat_le] at here
      have most : digit.toNat ≤ 0x39 := here.2
      have later := ih (fun other member => decimal other (mem_cons_of_mem _ member))
        (start * 10 + (digit.toNat - 0x30))
      rw [foldl_cons, length_cons, Nat.pow_succ]
      refine later.trans_le ?_
      calc (start * 10 + (digit.toNat - 0x30) + 1) * 10 ^ rest.length
          ≤ ((start + 1) * 10) * 10 ^ rest.length := Nat.mul_le_mul_right _ (by omega)
        _ = (start + 1) * (10 ^ rest.length * 10) := by ring
  have bound := folds 0
  rwa [Nat.zero_add, Nat.one_mul] at bound

theorem ofNat_zero_head {value : Nat} : ¬ ((ofNat value).head? = some 0x30 ∧ 1 < (ofNat value).length) := by
  intro zero
  obtain ⟨head, long⟩ := zero
  cases digits : ofNat value with
  | nil =>
    rw [digits] at head
    cases head
  | cons first rest =>
    rw [digits] at head long
    cases head
    have value_ : value = decimalValue rest := by
      rw [← decimalValue_ofNat value, digits]
      rfl
    have small := @decimalValue_lt rest fun digit member =>
      isDigit_ofNat (digits ▸ mem_cons_of_mem _ member)
    rw [← value_] at small
    rw [length_cons] at long
    have short := length_ofNat_le (by omega) small
    rw [digits, length_cons] at short
    omega

theorem closed_ofNat (value : Nat) : Closed (ofNat value) := by
  have some_ : ofNat value ≠ [] := length_pos_iff.mp (length_ofNat_pos value)
  exact ⟨_, List.getLast?_eq_some_getLast some_, not_space_of_digit (isDigit_ofNat (getLast_mem some_))⟩

variable {after : JsString}

theorem readUnsigned_ofNat (negative : Bool) (sign : JsString) (value : Nat) (fresh : Fresh after) :
    readUnsigned negative (sign ++ (ofNat value ++ after)) (ofNat value ++ after) =
      some (.number (if negative then -(value : Int) else value), after) := by
  have some_ : ofNat value ≠ [] := length_pos_iff.mp (length_ofNat_pos value)
  obtain ⟨takes, drops⟩ := takeWhile_digits value
  have alone : readDigits (ofNat value) = some (ofNat value, []) := by
    simp only [readDigits, takes, drops, some_, if_false]
  have digits := (readDigits_front alone).2.2 after (fresh_digit fresh)
  have idle : readFraction after = some ([], after) ∧ readExponent after = some ((false, []), after) := by
    cases after with
    | nil => exact ⟨rfl, rfl⟩
    | cons unit more =>
      have other := fresh unit rfl
      simp only [isNumberPart, Bool.or_eq_false_iff, beq_eq_false_iff_ne] at other
      simp [readFraction, readExponent, other.1.1.2, other.1.2, other.2]
  have none_ : decimalValue [] = 0 := rfl
  rw [readUnsigned, digits]
  simp only [Option.bind_eq_bind, Option.bind_some, ofNat_zero_head, if_false, idle.1, idle.2,
    Option.pure_def, numberValue, append_nil, decimalValue_ofNat, none_, Bool.false_eq_true,
    length_nil, Nat.add_zero, Nat.le_refl, if_true, Nat.sub_zero, Nat.pow_zero, Nat.mul_one]

theorem decimal_ofNat (value : Nat) : decimal (.ofNat value) = ofNat value := rfl

theorem decimal_negSucc (value : Nat) : decimal (.negSucc value) = 0x2D :: ofNat (value + 1) := by
  have same : decimal (.negSucc value) = js ("-" ++ toString (value + 1)) := rfl
  rw [same, js, String.toList_append, flatMap_append]
  rfl

theorem digit_head (value : Nat) : ∃ unit rest, ofNat value = unit :: rest ∧ Regex.isDigit unit = true := by
  cases digits : ofNat value with
  | nil => exact absurd digits (length_pos_iff.mp (length_ofNat_pos value))
  | cons unit rest => exact ⟨unit, rest, rfl, isDigit_ofNat (digits ▸ mem_cons_self)⟩

theorem readNumber_decimal (value : Int) (fresh : Fresh after) :
    readNumber (decimal value ++ after) = some (.number value, after) := by
  cases value with
  | ofNat value =>
    obtain ⟨unit, rest, digits, digit⟩ := digit_head value
    have noMinus : unit ≠ 0x2D := by
      intro same
      rw [same] at digit
      revert digit
      decide
    have read := readUnsigned_ofNat false [] value fresh
    rw [decimal_ofNat]
    rw [digits] at read ⊢
    rw [cons_append, readNumber, if_neg noMinus]
    exact read
  | negSucc value =>
    have read := readUnsigned_ofNat true [0x2D] (value + 1) fresh
    rw [decimal_negSucc, cons_append, readNumber, if_pos rfl]
    exact read

theorem closed_decimal (value : Int) : Closed (decimal value) := by
  cases value with
  | ofNat value => exact closed_ofNat value
  | negSucc value =>
    rw [decimal_negSucc]
    exact (closed_ofNat (value + 1)).cons _

theorem readUnits_name (text after : JsString) :
    readUnits (quoteUnits text ++ [0x22] ++ after) = some (text, after) := by
  rw [append_assoc]
  exact readUnits_quoteUnits text after

theorem front_string (text : JsString) : Front readValue (quote text) (.string text) :=
  front_text ((Closed.single rfl).append _) (readUnits_name text)

variable {value : Json}

theorem front_fraction {literal : JsString} (read : readNumber literal = some (value, [])) :
    Front readValue literal value := by
  obtain ⟨front, same, closed, reads⟩ := readNumber_front read
  rw [append_nil] at same
  subst same
  exact front_number closed reads

theorem putMember_nodup {before members : List (JsString × Json)}
    (distinct : ((before ++ members).map (·.1)).Nodup) :
    members.foldl putMember before = before ++ members := by
  induction members generalizing before with
  | nil => rw [foldl_nil, append_nil]
  | cons member rest ih =>
    have fresh : before.any (fun other => decide (other.1 = member.1)) = false := by
      rw [any_eq_false]
      intro other among same
      rw [map_append, nodup_append] at distinct
      exact distinct.2.2 other.1 (mem_map_of_mem among) member.1
        (mem_map_of_mem mem_cons_self) (of_decide_eq_true same)
    have next : putMember before member = before ++ [member] := by
      rw [putMember, fresh]
      rfl
    rw [foldl_cons, next, ih (by rwa [append_assoc]), append_assoc]
    rfl

theorem join_members (member next : JsString × Json) (rest : List (JsString × Json)) :
    JsString.join (js ",") (stringifyMembers (member :: next :: rest)) =
      quote member.1 ++ js ":" ++ member.2.stringify ++
        (js "," ++ JsString.join (js ",") (stringifyMembers (next :: rest))) := by
  rw [stringifyMembers, stringifyMembers, JsString.join, append_assoc]
  intro empty
  cases empty

theorem stringify_list (items : List Json) :
    (Json.array items).stringify = 0x5B :: (JsString.join (js ",") (stringifyItems items) ++ [0x5D]) := by
  rw [stringify]
  rfl

theorem stringify_object (members : List (JsString × Json)) :
    (Json.object members).stringify =
      0x7B :: (JsString.join (js ",") (stringifyMembers members) ++ [0x7D]) := by
  rw [stringify]
  rfl

section Rules

variable {front behind before gap : JsString} {value : Json} {members : List (JsString × Json)}

theorem Front.key_last (key : JsString) (takes : Front readValue front value)
    (first : ∀ unit ∈ before, isJsonSpace unit = true) (blank : ∀ unit ∈ gap, isJsonSpace unit = true) :
    Front readMembers (before ++ (quote key ++ 0x3A :: (front ++ (gap ++ [0x7D])))) [(key, value)] :=
  takes.members_last (readUnits_name key) first (forall_mem_nil _) blank

theorem Front.key_cons (key : JsString) (takes : Front readValue front value)
    (others : Front readMembers behind members) (first : ∀ unit ∈ before, isJsonSpace unit = true)
    (blank : ∀ unit ∈ gap, isJsonSpace unit = true) :
    Front readMembers (before ++ (quote key ++ 0x3A :: (front ++ (gap ++ 0x2C :: behind))))
      ((key, value) :: members) :=
  takes.members_cons others (readUnits_name key) first (forall_mem_nil _) blank

theorem Front.object (takes : Front readMembers behind members) (distinct : (members.map (·.1)).Nodup) :
    Front readValue (0x7B :: behind) (.object members) := by
  have kept : members.foldl putMember [] = members := @putMember_nodup [] members distinct
  have all := takes.braced
  rwa [kept] at all

end Rules

def IsScalar : Json → Prop
  | .array _ | .object _ => False
  | _ => True

theorem front_scalar (scalar : value.IsScalar) (writable : value.Writable) :
    Front readValue value.stringify value := by
  cases value with
  | null => exact front_word rfl ⟨0x6C, rfl, rfl⟩ fun _ _ => rfl
  | bool value =>
    cases value with
    | true => exact front_word rfl ⟨0x65, rfl, rfl⟩ fun _ _ => rfl
    | false => exact front_word rfl ⟨0x65, rfl, rfl⟩ fun _ _ => rfl
  | number value =>
    exact front_number (closed_decimal value) fun _ fresh => readNumber_decimal value fresh
  | fraction literal => exact front_fraction writable.1
  | string text => exact front_string text
  | array items => exact scalar.elim
  | object members => exact scalar.elim

mutual

theorem front_stringify : ∀ (value : Json), value.Writable → Front readValue value.stringify value
  | .null, writable => front_scalar trivial writable
  | .bool _, writable => front_scalar trivial writable
  | .number _, writable => front_scalar trivial writable
  | .fraction _, writable => front_scalar trivial writable
  | .string _, writable => front_scalar trivial writable
  | .array [], _ => front_no_items (forall_mem_nil _)
  | .array (item :: rest), writable => by
    rw [stringify_list]
    exact (front_items (item :: rest) writable (cons_ne_nil _ _)).list
  | .object [], _ => front_no_members (forall_mem_nil _)
  | .object (member :: rest), writable => by
    rw [stringify_object]
    exact (front_members (member :: rest) writable.2 (cons_ne_nil _ _)).object writable.1

theorem front_items : ∀ (items : List Json), WritableItems items → items ≠ [] →
    Front readItems (JsString.join (js ",") (stringifyItems items) ++ [0x5D]) items
  | [], _, some_ => absurd rfl some_
  | [item], writable, _ => @Front.items_last _ [] _ (front_stringify item writable.1) (forall_mem_nil _)
  | item :: next :: rest, writable, _ => by
    have others := front_items (next :: rest) writable.2 (cons_ne_nil _ _)
    rw [join_items, append_assoc, append_assoc]
    exact @Front.items_cons _ _ [] _ _ (front_stringify item writable.1) others (forall_mem_nil _)

theorem front_members : ∀ (members : List (JsString × Json)), WritableMembers members → members ≠ [] →
    Front readMembers (JsString.join (js ",") (stringifyMembers members) ++ [0x7D]) members
  | [], _, some_ => absurd rfl some_
  | [(key, value)], writable, _ => by
    have last := @Front.key_last _ [] [] _ key (front_stringify value writable.1)
      (forall_mem_nil _) (forall_mem_nil _)
    have spelled : JsString.join (js ",") (stringifyMembers [(key, value)]) ++ [0x7D] =
        quote key ++ 0x3A :: (value.stringify ++ [0x7D]) := by
      simp [stringifyMembers, JsString.join, show js ":" = [0x3A] from rfl]
    rw [spelled]
    exact last
  | (key, value) :: next :: rest, writable, _ => by
    have others := front_members (next :: rest) writable.2 (cons_ne_nil _ _)
    have more := @Front.key_cons _ _ [] [] _ _ key (front_stringify value writable.1) others
      (forall_mem_nil _) (forall_mem_nil _)
    rw [join_members]
    have spelled (tail : JsString) : quote key ++ js ":" ++ value.stringify ++ (js "," ++ tail) ++ [0x7D] =
        quote key ++ 0x3A :: (value.stringify ++ 0x2C :: (tail ++ [0x7D])) := by
      simp [show js ":" = [0x3A] from rfl, show js "," = [0x2C] from rfl]
    rw [spelled]
    exact more

end

def Printed (text : JsString) : Prop := ∀ unit ∈ text, ¬ unit < 0x20

theorem Printed.append {front : JsString} (first : Printed front) (second : Printed after) :
    Printed (front ++ after) := by
  intro unit member
  obtain inFront | inAfter := mem_append.mp member
  · exact first unit inFront
  · exact second unit inAfter

theorem printed_escapeUnit (unit : CodeUnit) : Printed (escapeUnit unit) := by
  have bound : unit.toNat < 0x10000 := unit.toNat_lt
  have digits : ∀ value < 0x10, ¬ hexDigit value < 0x20 := by decide
  intro other member
  simp only [escapeUnit, mem_cons, not_mem_nil, or_false] at member
  obtain same | same | same | same | same | same := member
  · rw [same]
    decide
  · rw [same]
    decide
  · exact same ▸ digits _ (by omega)
  · exact same ▸ digits _ (by omega)
  · exact same ▸ digits _ (by omega)
  · exact same ▸ digits _ (by omega)

theorem printed_quoteUnit (unit : CodeUnit) : Printed (quoteUnit unit) := by
  have pair (mark : CodeUnit) (high : ¬ mark < 0x20) : Printed [0x5C, mark] := by
    intro other member
    obtain same | same := mem_pair.mp member
    · rw [same]
      decide
    · rwa [same]
  unfold quoteUnit
  repeat' split
  all_goals first | exact pair _ (by decide) | exact printed_escapeUnit unit | skip
  rename_i printed
  simp only [Bool.or_eq_true, decide_eq_true_eq, not_or] at printed
  intro other member
  rw [mem_singleton.mp member]
  exact printed.1.1

theorem printed_quoteUnits : ∀ text, Printed (quoteUnits text)
  | [] => forall_mem_nil _
  | [unit] => printed_quoteUnit unit
  | first :: second :: rest => by
    rw [quoteUnits]
    split
    · rename_i pair
      simp only [Bool.and_eq_true] at pair
      have later := printed_quoteUnits rest
      exact forall_mem_cons.mpr ⟨(surrogate_plain (.inl pair.1)).2.1,
        forall_mem_cons.mpr ⟨(surrogate_plain (.inr pair.2)).2.1, later⟩⟩
    · exact (printed_quoteUnit first).append (printed_quoteUnits (second :: rest))

theorem printed_quote (text : JsString) : Printed (quote text) := by
  have mark : Printed [0x22] := forall_mem_cons.mpr ⟨by decide, forall_mem_nil _⟩
  exact (mark.append (printed_quoteUnits text)).append mark

theorem printed_ofNat (value : Nat) : Printed (ofNat value) := by
  intro unit member control
  have digit := isDigit_ofNat member
  simp only [Regex.isDigit, Bool.and_eq_true, decide_eq_true_eq, UInt16.le_iff_toNat_le] at digit
  rw [UInt16.lt_iff_toNat_lt] at control
  exact absurd (digit.1.trans_lt control) (by decide)

theorem printed_join {texts : List JsString} (printed : ∀ text ∈ texts, Printed text) :
    Printed (JsString.join (js ",") texts) := by
  have comma : Printed (js ",") := by
    intro unit member
    rw [mem_singleton.mp member]
    decide
  induction texts with
  | nil => exact forall_mem_nil _
  | cons text rest ih =>
    have here := printed text mem_cons_self
    have later := ih fun other member => printed other (mem_cons_of_mem _ member)
    cases rest with
    | nil => exact here
    | cons next more => exact (here.append comma).append later

theorem printed_brackets {opening closing : CodeUnit} {text : JsString} (first : ¬ opening < 0x20)
    (last : ¬ closing < 0x20) (printed : Printed text) : Printed (opening :: (text ++ [closing])) :=
  forall_mem_cons.mpr ⟨first, printed.append (forall_mem_cons.mpr ⟨last, forall_mem_nil _⟩)⟩

mutual

theorem printed_stringify : ∀ (value : Json), value.Writable → Printed value.stringify
  | .null, _ => List.all_iff_forall_prop.mp (by decide)
  | .bool true, _ => List.all_iff_forall_prop.mp (by decide)
  | .bool false, _ => List.all_iff_forall_prop.mp (by decide)
  | .number (.ofNat value), _ => printed_ofNat value
  | .number (.negSucc value), _ => by
    have digits := printed_ofNat (value + 1)
    have spelled : (Json.number (.negSucc value)).stringify = 0x2D :: ofNat (value + 1) :=
      decimal_negSucc value
    rw [spelled]
    exact forall_mem_cons.mpr ⟨by decide, digits⟩
  | .fraction _, writable => writable.2
  | .string text, _ => printed_quote text
  | .array items, writable => by
    rw [stringify_list]
    exact printed_brackets (by decide) (by decide) (printed_join (printed_items items writable))
  | .object members, writable => by
    rw [stringify_object]
    exact printed_brackets (by decide) (by decide) (printed_join (printed_members members writable.2))

theorem printed_items : ∀ (items : List Json), WritableItems items →
    ∀ text ∈ stringifyItems items, Printed text
  | [], _ => forall_mem_nil _
  | item :: rest, writable =>
    forall_mem_cons.mpr ⟨printed_stringify item writable.1, printed_items rest writable.2⟩

theorem printed_members : ∀ (members : List (JsString × Json)), WritableMembers members →
    ∀ text ∈ stringifyMembers members, Printed text
  | [], _ => forall_mem_nil _
  | (key, value) :: rest, writable => by
    have colon : Printed (js ":") := by
      intro unit member
      rw [mem_singleton.mp member]
      decide
    have here := ((printed_quote key).append colon).append (printed_stringify value writable.1)
    exact forall_mem_cons.mpr ⟨here, printed_members rest writable.2⟩

end

theorem parse_stringify (writable : value.Writable) :
    parse value.stringify = some value := by
  have read := parse_of_front (front_stringify value writable) (forall_mem_nil _)
  rwa [append_nil] at read

end CouncilKit.Data.Json
