import CouncilKit.Data.Regex

namespace CouncilKit.Data

open JsString
open List hiding splitOn

namespace JsString

def normalizeNewlines : JsString → JsString
  | [] => []
  | unit :: rest =>
    if unit = 0xD then
      if rest.head? = some 0xA then normalizeNewlines rest else 0xA :: normalizeNewlines rest
    else unit :: normalizeNewlines rest

def linesOf (text : JsString) : List JsString := splitOn 0xA (normalizeNewlines text)

def joinLines (lines : List JsString) : JsString := join [0xA] lines

def SingleLine (text : JsString) : Prop := 0xA ∉ text ∧ 0xD ∉ text

instance (text : JsString) : Decidable text.SingleLine := inferInstanceAs (Decidable (_ ∧ _))

end JsString

variable {text left right line : JsString} {lines : List JsString}

theorem js_ofList (chars : List Char) : js (String.ofList chars) = chars.flatMap utf16 := by
  rw [js, String.toList_ofList]

theorem js_head {first : Char} {rest : List Char} (basic : first.toNat < 0x10000) :
    js (String.ofList (first :: rest)) = first.toNat.toUInt16 :: rest.flatMap utf16 := by
  rw [js_ofList, flatMap_cons, utf16, if_pos basic]
  rfl

variable {unit : CodeUnit}

theorem utf16_control {char : Char} (member : unit ∈ utf16 char)
    (control : unit < 0x20) : char.toNat = unit.toNat := by
  have bound := UInt16.lt_iff_toNat_lt.mp control
  rw [utf16] at member
  split at member
  · rename_i basic
    rw [mem_singleton.mp member]
    simp [UInt16.toNat_ofNat']
    omega
  · rename_i astral
    have scalar : char.toNat < 0x110000 := by
      rcases char.valid with low | high
      · exact lt_trans low (by decide)
      · exact high.2
    have small : (0x20 : CodeUnit).toNat = 0x20 := rfl
    rcases mem_cons.mp member with same | rest
    · rw [same, UInt16.toNat_ofNat', small] at bound
      omega
    · rw [mem_singleton.mp rest, UInt16.toNat_ofNat', small] at bound
      omega

theorem js_single {chars : List Char}
    (clean : chars.all (fun char => char.toNat ≠ 0xA && char.toNat ≠ 0xD) = true) :
    (js (String.ofList chars)).SingleLine := by
  rw [js_ofList]
  constructor
  · intro member
    obtain ⟨char, among, encoded⟩ := mem_flatMap.mp member
    have lf := utf16_control encoded (by decide)
    have other := all_eq_true.mp clean char among
    simp [lf] at other
  · intro member
    obtain ⟨char, among, encoded⟩ := mem_flatMap.mp member
    have cr := utf16_control encoded (by decide)
    have other := all_eq_true.mp clean char among
    simp [cr] at other

theorem normalizeNewlines_clean (clean : 0xD ∉ text) : normalizeNewlines text = text := by
  induction text with
  | nil => rfl
  | cons unit rest ih =>
    rw [mem_cons, not_or] at clean
    rw [normalizeNewlines, if_neg (fun same => clean.1 same.symm), ih clean.2]

theorem normalizeNewlines_append (open_ : left.getLast? ≠ some 0xD) :
    normalizeNewlines (left ++ 0xA :: right) =
      normalizeNewlines left ++ 0xA :: normalizeNewlines right := by
  induction left with
  | nil => simp [normalizeNewlines]
  | cons unit rest ih =>
    cases rest with
    | nil =>
      have plain : unit ≠ 0xD := by simpa using open_
      simp [normalizeNewlines, plain]
    | cons next rest =>
      have later : (next :: rest).getLast? ≠ some 0xD := by simpa using open_
      have moved := ih later
      simp only [cons_append] at moved ⊢
      rw [normalizeNewlines, moved, normalizeNewlines.eq_2 unit (next :: rest)]
      by_cases cr : unit = 0xD
      · by_cases lf : next = 0xA <;> simp [cr, lf]
      · simp [cr]

theorem splitOn_ne_nil (separator : CodeUnit) : splitOn separator text ≠ [] := by
  cases text with
  | nil => simp [splitOn]
  | cons unit rest =>
    rw [splitOn]
    split
    · simp
    · split <;> simp

theorem splitOn_append (separator : CodeUnit) :
    splitOn separator (left ++ separator :: right) = splitOn separator left ++ splitOn separator right := by
  induction left with
  | nil => simp [splitOn]
  | cons unit rest ih =>
    rw [cons_append, splitOn, ih, splitOn]
    split
    · rfl
    · cases parts : splitOn separator rest with
      | nil => exact absurd parts (splitOn_ne_nil separator)
      | cons first later => rfl

theorem splitOn_single {separator : CodeUnit} (absent : separator ∉ text) :
    splitOn separator text = [text] := by
  induction text with
  | nil => rfl
  | cons unit rest ih =>
    rw [mem_cons, not_or] at absent
    rw [splitOn, if_neg (fun same => absent.1 same.symm), ih absent.2]

theorem linesOf_append (open_ : left.getLast? ≠ some 0xD) :
    linesOf (left ++ 0xA :: right) = linesOf left ++ linesOf right := by
  rw [linesOf, normalizeNewlines_append open_, splitOn_append]
  rfl

theorem linesOf_single (single : text.SingleLine) : linesOf text = [text] := by
  rw [linesOf, normalizeNewlines_clean single.2, splitOn_single single.1]

theorem joinLines_cons (rest : lines ≠ []) :
    joinLines (line :: lines) = line ++ 0xA :: joinLines lines := by
  cases lines with
  | nil => exact absurd rfl rest
  | cons next rest => simp [joinLines, join]

theorem SingleLine.open_end (single : text.SingleLine) : text.getLast? ≠ some 0xD :=
  fun last => single.2 (mem_of_getLast? last)

theorem linesOf_joinLines (some_ : lines ≠ []) (single : ∀ line ∈ lines, line.SingleLine) :
    linesOf (joinLines lines) = lines := by
  induction lines with
  | nil => exact absurd rfl some_
  | cons line rest ih =>
    have first := single line mem_cons_self
    cases rest with
    | nil => exact linesOf_single first
    | cons next rest =>
      rw [joinLines_cons (by simp), linesOf_append (SingleLine.open_end first),
        linesOf_single first,
        ih (by simp) fun line member => single line (mem_cons_of_mem _ member)]
      rfl

theorem joinLines_clean (single : ∀ line ∈ lines, line.SingleLine) : 0xD ∉ joinLines lines := by
  induction lines with
  | nil => simp [joinLines, join]
  | cons line rest ih =>
    have first := (single line mem_cons_self).2
    have later := ih fun line member => single line (mem_cons_of_mem _ member)
    cases rest with
    | nil => exact first
    | cons next rest =>
      rw [joinLines_cons (by simp)]
      simp [first, later]

def JsString.pieces (line : JsString) : List JsString :=
  linesOf (if line.getLast? = some 0xD then line.dropLast else line)

theorem normalizeNewlines_split (fresh : right.head? ≠ some 0xA) :
    normalizeNewlines (left ++ right) = normalizeNewlines left ++ normalizeNewlines right := by
  induction left with
  | nil => rfl
  | cons unit rest ih =>
    rw [cons_append, normalizeNewlines, normalizeNewlines, ih]
    cases rest with
    | nil =>
      have open_ : ([] : JsString).head? ≠ some 0xA := by decide
      rw [nil_append, if_neg fresh, if_neg open_]
      split <;> rfl
    | cons next later =>
      rw [cons_append, List.head?_cons, List.head?_cons]
      split
      · split <;> rfl
      · rfl

theorem linesOf_break : linesOf (left ++ 0xA :: right) = pieces left ++ linesOf right := by
  unfold pieces
  split
  · rename_i last
    obtain ⟨start, rfl⟩ := List.getLast?_eq_some_iff.mp last
    have fresh : (0xD :: 0xA :: right : JsString).head? ≠ some 0xA := by simp
    have ended : normalizeNewlines (0xD :: 0xA :: right) = 0xA :: normalizeNewlines right := by
      simp [normalizeNewlines]
    rw [append_assoc, singleton_append, linesOf, normalizeNewlines_split fresh, ended,
      splitOn_append, dropLast_concat]
    rfl
  · rename_i open_
    exact linesOf_append open_

theorem linesOf_pieces (line : JsString) :
    linesOf line = pieces line ∨ linesOf line = pieces line ++ [[]] := by
  unfold pieces
  split
  · rename_i last
    obtain ⟨start, rfl⟩ := List.getLast?_eq_some_iff.mp last
    have fresh : ([0xD] : JsString).head? ≠ some 0xA := by decide
    have ended : normalizeNewlines [0xD] = [0xA] := by decide
    right
    rw [linesOf, normalizeNewlines_split fresh, ended, splitOn_append, dropLast_concat]
    rfl
  · left
    rfl

theorem splitOn_clean {separator : CodeUnit} : ∀ line ∈ splitOn separator text, separator ∉ line := by
  induction text with
  | nil => simp [splitOn]
  | cons unit rest ih =>
    rw [splitOn]
    split
    · rw [forall_mem_cons]
      exact ⟨by simp, ih⟩
    · rename_i other
      cases parts : splitOn separator rest with
      | nil => exact absurd parts (splitOn_ne_nil separator)
      | cons first later =>
        rw [parts, forall_mem_cons] at ih
        rw [forall_mem_cons, mem_cons, not_or]
        exact ⟨⟨fun same => other same.symm, ih.1⟩, ih.2⟩

theorem joinLines_splitOn (text : JsString) : joinLines (splitOn 0xA text) = text := by
  induction text with
  | nil => rfl
  | cons unit rest ih =>
    rw [splitOn]
    split
    · rename_i newline
      rw [joinLines_cons (splitOn_ne_nil 0xA), ih, newline]
      rfl
    · cases parts : splitOn 0xA rest with
      | nil => exact absurd parts (splitOn_ne_nil 0xA)
      | cons first later =>
        rw [parts] at ih
        rw [← ih]
        cases later with
        | nil => rfl
        | cons next others =>
          have more : next :: others ≠ [] := cons_ne_nil next others
          rw [joinLines_cons more, joinLines_cons more, cons_append]

theorem splitOn_joinLines (some_ : lines ≠ []) :
    splitOn 0xA (joinLines lines) = lines.flatMap (splitOn 0xA) := by
  induction lines with
  | nil => exact absurd rfl some_
  | cons line rest ih =>
    cases rest with
    | nil => rw [flatMap_singleton, joinLines, join]
    | cons next later =>
      have more : next :: later ≠ [] := cons_ne_nil next later
      rw [joinLines_cons more, splitOn_append, ih more]
      rfl

theorem linesOf_joined (some_ : lines ≠ []) :
    linesOf (joinLines lines) = lines.flatMap pieces ∨
      linesOf (joinLines lines) = lines.flatMap pieces ++ [[]] := by
  induction lines with
  | nil => exact absurd rfl some_
  | cons line rest ih =>
    cases rest with
    | nil =>
      rw [flatMap_singleton]
      exact linesOf_pieces line
    | cons next later =>
      rw [joinLines_cons (by simp), linesOf_break, flatMap_cons]
      cases ih (by simp) with
      | inl same =>
        left
        rw [same]
      | inr longer =>
        right
        rw [longer, append_assoc]

theorem linesOf_eq_pieces (text : JsString) :
    linesOf text = (splitOn 0xA text).flatMap pieces ∨
      linesOf text = (splitOn 0xA text).flatMap pieces ++ [[]] := by
  have joined := @linesOf_joined (splitOn 0xA text) (splitOn_ne_nil 0xA)
  rw [joinLines_splitOn] at joined
  exact joined

theorem trimEnd_end (last : (trimEnd text).getLast? = some unit) :
    isSpace unit = false := by
  rw [trimEnd, List.getLast?_reverse] at last
  have stopped := List.head?_dropWhile_not isSpace text.reverse
  rw [last] at stopped
  simpa using stopped

section

variable (last : text.getLast? = some unit) (visible : isSpace unit = false)

include last visible

theorem trimEnd_of_end : trimEnd text = text := by
  obtain ⟨start, rfl⟩ := List.getLast?_eq_some_iff.mp last
  simp [trimEnd, visible]

theorem trim_of_end : trim text ≠ [] := by
  obtain ⟨start, same⟩ := List.getLast?_eq_some_iff.mp last
  have kept : (trimStart text).getLast? = some unit := by
    rw [trimStart, same, dropWhile_append]
    split <;> simp [visible]
  rw [trim, trimEnd_of_end kept visible]
  intro empty
  simp [empty] at kept

end

theorem trim_open_end : (trim text).getLast? ≠ some 0xD :=
  fun last => absurd (trimEnd_end last) (by decide)

def isFenceChar (unit : CodeUnit) : Bool := unit == 0x60 || unit == 0x7E

structure Fence where
  indent : Nat
  char : CodeUnit
  length : Nat
  shallow : indent ≤ 3
  marked : isFenceChar char = true
  long : 3 ≤ length
deriving DecidableEq

def Fence.run (fence : Fence) : JsString := List.replicate fence.length fence.char

def fenceRun (line : JsString) : Option (Fence × JsString) :=
  let indent := (line.takeWhile (· == 0x20)).length
  match line.drop indent with
  | [] => none
  | char :: rest =>
    let length := ((char :: rest).takeWhile (· == char)).length
    if ok : indent ≤ 3 ∧ isFenceChar char = true ∧ 3 ≤ length then
      some (⟨indent, char, length, ok.1, ok.2.1, ok.2.2⟩, (char :: rest).drop length)
    else none

def fenceOpen (line : JsString) : Option Fence :=
  match fenceRun line with
  | none => none
  | some (fence, info) =>
    if info.any Regex.isLineTerminator || (fence.char == 0x60 && info.contains 0x60) then none
    else some fence

def Fence.closedBy (fence : Fence) (line : JsString) : Bool :=
  match fenceRun line with
  | none => false
  | some (run, info) => info.all (fun unit => unit == 0x20 || unit == 0x9) &&
      run.char == fence.char && fence.length ≤ run.length

def fenceAfterLine : Option Fence → JsString → Option Fence
  | some fence, line => if fence.closedBy line then none else some fence
  | none, line => fenceOpen line

def fenceAfter (fence : Option Fence) (lines : List JsString) : Option Fence :=
  lines.foldl fenceAfterLine fence

def fenceWalk : Option Fence → List JsString → List (JsString × Bool)
  | _, [] => []
  | fence, line :: rest =>
    (line, fence.isSome || (fenceOpen line).isSome) :: fenceWalk (fenceAfterLine fence line) rest

section

variable {fence : Option Fence} {first second : List JsString}

@[simp] theorem fenceAfter_nil : fenceAfter fence [] = fence := rfl

@[simp] theorem fenceAfter_cons :
    fenceAfter fence (line :: lines) = fenceAfter (fenceAfterLine fence line) lines := rfl

theorem fenceAfter_append :
    fenceAfter fence (first ++ second) = fenceAfter (fenceAfter fence first) second :=
  foldl_append

theorem fenceWalk_append :
    fenceWalk fence (first ++ second) =
      fenceWalk fence first ++ fenceWalk (fenceAfter fence first) second := by
  induction first generalizing fence with
  | nil => rfl
  | cons line rest ih => simp only [cons_append, fenceWalk, fenceAfter_cons, ih]

theorem fenceRun_plain {unit : CodeUnit} {rest : JsString} (notSpace : unit ≠ 0x20)
    (notFence : isFenceChar unit = false) : fenceRun (unit :: rest) = none := by
  simp [fenceRun, notSpace, notFence]

theorem fenceRun_run (fence : Fence) : fenceRun fence.run = some ({ fence with
    indent := 0, shallow := by decide }, []) := by
  obtain ⟨indent, char, length, shallow, marked, long⟩ := fence
  have notSpace : char ≠ 0x20 := by
    intro same
    rw [same] at marked
    exact absurd marked (by decide)
  obtain ⟨rest, rfl⟩ : ∃ rest, length = rest + 1 := ⟨length - 1, by omega⟩
  simp only [fenceRun, Fence.run, replicate_succ, takeWhile_cons, beq_iff_eq, notSpace,
    if_false, length_nil, drop_zero]
  simp [marked, long]

section

variable (plain : fenceRun line = none)

include plain

theorem fenceOpen_none : fenceOpen line = none := by
  rw [fenceOpen, plain]

theorem closedBy_plain {fence : Fence} : fence.closedBy line = false := by
  rw [Fence.closedBy, plain]

theorem fenceAfterLine_plain : fenceAfterLine fence line = fence := by
  cases fence with
  | none => exact fenceOpen_none plain
  | some fence => simp [fenceAfterLine, closedBy_plain plain]

end

theorem fenceAfter_plain (plain : ∀ line ∈ lines, fenceRun line = none) :
    fenceAfter fence lines = fence := by
  induction lines generalizing fence with
  | nil => rfl
  | cons line rest ih =>
    rw [fenceAfter_cons, fenceAfterLine_plain (plain line mem_cons_self),
      ih fun line member => plain line (mem_cons_of_mem _ member)]

theorem fenceWalk_plain (plain : ∀ line ∈ lines, fenceRun line = none) :
    fenceWalk fence lines = lines.map fun line => (line, fence.isSome) := by
  induction lines with
  | nil => rfl
  | cons line rest ih =>
    have run := plain line mem_cons_self
    rw [fenceWalk, fenceAfterLine_plain run, fenceOpen_none run,
      ih fun line member => plain line (mem_cons_of_mem _ member)]
    simp

theorem closedBy_run (fence : Fence) : fence.closedBy fence.run = true := by
  rw [Fence.closedBy, fenceRun_run]
  simp

theorem fenceOpen_run (fence : Fence) :
    fenceOpen fence.run = some { fence with indent := 0, shallow := by decide } := by
  rw [fenceOpen, fenceRun_run]
  simp

end

end CouncilKit.Data
