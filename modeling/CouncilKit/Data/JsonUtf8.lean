import CouncilKit.Data.JsonWrite
import CouncilKit.Data.Utf8Encode

namespace CouncilKit.Data

open JsString List

namespace Utf8

/-- No half of a surrogate pair stands alone in a text, whatever is behind it. -/
def Stands (text : JsString) : Prop := ∀ rest, wellFormed (text ++ rest) = text ++ wellFormed rest

theorem Stands.append {front back : JsString} (first : Stands front) (second : Stands back) :
    Stands (front ++ back) := by
  intro rest
  rw [append_assoc, first, second, append_assoc]

theorem stands_ascii {text : JsString} (ascii : ∀ unit ∈ text, unit < 0x80) : Stands text :=
  wellFormed_ascii_append ascii

theorem stands_plain {unit : CodeUnit} (plain : isSurrogate unit = false) : Stands [unit] :=
  wellFormed_append plain []

theorem stands_pair {high low : CodeUnit} (pair : (isHighSurrogate high && isLowSurrogate low) = true) :
    Stands [high, low] := by
  intro rest
  change wellFormed (high :: low :: rest) = high :: low :: wellFormed rest
  rw [wellFormed, if_pos pair]

theorem encode_plain {unit : CodeUnit} (plain : isSurrogate unit = false) (left right : JsString) :
    encode (left ++ unit :: right) = encode (left ++ [unit]) ++ encode right := by
  obtain ⟨high, low⟩ := Bool.or_eq_false_iff.mp plain
  have opens : encode (unit :: right) = encode [unit] ++ encode right := by
    cases right with
    | nil => exact (append_nil _).symm
    | cons next rest =>
      change encode (unit :: next :: rest) = bytesOf (single unit).toNat ++ encode (next :: rest)
      rw [encode, high, Bool.false_and, if_neg Bool.false_ne_true]
  induction left using encode.induct with
  | case1 => exact opens
  | case2 before =>
    change encode (before :: unit :: right) = encode [before, unit] ++ encode right
    have both (rest : JsString) : encode (before :: unit :: rest) =
        bytesOf (single before).toNat ++ encode (unit :: rest) := by
      rw [encode, low, Bool.and_false, if_neg Bool.false_ne_true]
    rw [both, both, opens, append_assoc]
  | case3 first second rest pair ih =>
    rw [cons_append, cons_append, cons_append, cons_append, encode, encode,
      if_pos pair, if_pos pair, ih, append_assoc]
  | case4 first second rest apart ih =>
    rw [cons_append, cons_append, cons_append, cons_append, encode, encode,
      if_neg apart, if_neg apart, append_assoc]
    exact congrArg (bytesOf (single first).toNat ++ ·) ih

/-- `Buffer.byteLength(text, "utf8")` -/
def byteLength (text : JsString) : Nat := (encode text).length

variable {lines : List JsString}

def fileBytes (lines : List JsString) : List UInt8 := lines.flatMap fun line => encode (line ++ [0xA])

def fileText (lines : List JsString) : JsString := lines.flatMap fun line => line ++ [0xA]

theorem decode_fileBytes (stand : ∀ line ∈ lines, Stands line) :
    decode (fileBytes lines) = fileText lines := by
  induction lines with
  | nil => rfl
  | cons line rest ih =>
    obtain ⟨here, later⟩ := forall_mem_cons.mp stand
    have ended : Stands (line ++ [0xA]) := here.append (stands_plain rfl)
    have whole : wellFormed (line ++ [0xA]) = line ++ [0xA] := by
      have read := ended []
      rwa [append_nil, wellFormed, append_nil] at read
    rw [fileBytes, flatMap_cons, decode, run_encode, whole]
    exact congrArg (line ++ [0xA] ++ ·) (ih later)

theorem encode_fileText : encode (fileText lines) = fileBytes lines := by
  induction lines with
  | nil => rfl
  | cons line rest ih =>
    rw [fileText, flatMap_cons, append_assoc, singleton_append,
      @encode_plain 0xA rfl]
    exact congrArg (encode (line ++ [0xA]) ++ ·) ih

end Utf8

namespace Json

open Utf8

theorem stands_escapeUnit (unit : CodeUnit) : Stands (escapeUnit unit) := by
  have bound : unit.toNat < 0x10000 := unit.toNat_lt
  have digits : ∀ value < 0x10, hexDigit value < 0x80 := by decide
  apply stands_ascii
  intro other member
  simp only [escapeUnit, mem_cons, not_mem_nil, or_false] at member
  obtain same | same | same | same | same | same := member
  · rw [same]
    decide
  · rw [same]
    decide
  · exact same ▸ digits _ (by omega)
  · exact same ▸ digits _ (by omega)
  · exact same ▸ digits _ (by omega)
  · exact same ▸ digits _ (by omega)

theorem stands_quoteUnit (unit : CodeUnit) : Stands (quoteUnit unit) := by
  have pair (mark : CodeUnit) (small : mark < 0x80) : Stands [0x5C, mark] := by
    apply stands_ascii
    intro other member
    obtain same | same := mem_pair.mp member
    · rw [same]
      decide
    · rwa [same]
  unfold quoteUnit
  repeat' split
  all_goals first | exact pair _ (by decide) | exact stands_escapeUnit unit | skip
  rename_i whole
  rw [Bool.or_eq_true, Bool.or_eq_true, not_or, not_or] at whole
  apply stands_plain
  rw [isSurrogate, Bool.or_eq_false_iff]
  exact ⟨Bool.eq_false_iff.mpr whole.1.2, Bool.eq_false_iff.mpr whole.2⟩

theorem stands_quoteUnits : ∀ text, Stands (quoteUnits text)
  | [] => fun _ => rfl
  | [unit] => stands_quoteUnit unit
  | first :: second :: rest => by
    rw [quoteUnits]
    split
    · rename_i pair
      exact (stands_pair pair).append (stands_quoteUnits rest)
    · exact (stands_quoteUnit first).append (stands_quoteUnits (second :: rest))

theorem stands_quote (text : JsString) : Stands (quote text) := by
  have mark : Stands [0x22] := stands_plain rfl
  exact (mark.append (stands_quoteUnits text)).append mark

theorem stands_ofNat (value : Nat) : Stands (ofNat value) := by
  apply stands_ascii
  intro unit member
  have digit := isDigit_ofNat member
  simp only [Regex.isDigit, Bool.and_eq_true, decide_eq_true_eq, UInt16.le_iff_toNat_le] at digit
  rw [UInt16.lt_iff_toNat_lt]
  exact digit.2.trans_lt (by decide)

theorem stands_join {texts : List JsString} (stand : ∀ text ∈ texts, Stands text) :
    Stands (JsString.join (js ",") texts) := by
  have comma : Stands (js ",") := stands_plain rfl
  induction texts with
  | nil => exact fun _ => rfl
  | cons text rest ih =>
    obtain ⟨here, later⟩ := forall_mem_cons.mp stand
    cases rest with
    | nil => exact here
    | cons next more => exact (here.append comma).append (ih later)

theorem stands_object {members : List (JsString × Json)}
    (stand : ∀ member ∈ members, Stands member.2.stringify) : Stands (Json.object members).stringify := by
  have colon : Stands (js ":") := stands_plain rfl
  have pieces : ∀ text ∈ stringifyMembers members, Stands text := by
    induction members with
    | nil => exact forall_mem_nil _
    | cons member rest ih =>
      obtain ⟨key, value⟩ := member
      obtain ⟨here, later⟩ := forall_mem_cons.mp stand
      rw [stringifyMembers]
      exact forall_mem_cons.mpr ⟨((stands_quote key).append colon).append here, ih later⟩
  rw [stringify_object]
  have opening : Stands [0x7B] := stands_plain rfl
  have closing : Stands [0x7D] := stands_plain rfl
  exact opening.append ((stands_join pieces).append closing)

end Json

end CouncilKit.Data
