import CouncilKit.Data.FencedLines
import CouncilKit.Data.Utf8

namespace CouncilKit.Data

open JsString UInt8

namespace Utf8

/-- `StringDecoder.prototype.write`: the units that the bytes complete, and the decoder
after them. -/
def Decoder.write (decoder : Decoder) : List UInt8 → JsString × Decoder
  | [] => ([], decoder)
  | byte :: rest =>
    let pushed := decoder.push byte
    (pushed.1 ++ (pushed.2.write rest).1, (pushed.2.write rest).2)

/-- `StringDecoder.prototype.end` -/
def Decoder.finish (decoder : Decoder) : JsString :=
  if decoder.needed = 0 then [] else [replacement]

theorem write_append (decoder : Decoder) (first second : List UInt8) :
    decoder.write (first ++ second) =
      ((decoder.write first).1 ++ ((decoder.write first).2.write second).1,
        ((decoder.write first).2.write second).2) := by
  induction first generalizing decoder with
  | nil => rfl
  | cons byte rest ih => simp only [List.cons_append, Decoder.write, ih, List.append_assoc]

theorem run_write (decoder : Decoder) (bytes : List UInt8) :
    decoder.run bytes = (decoder.write bytes).1 ++ (decoder.write bytes).2.finish := by
  induction bytes generalizing decoder with
  | nil => rfl
  | cons byte rest ih => simp only [Decoder.run, Decoder.write, ih, List.append_assoc]

theorem run_append (decoder : Decoder) (first second : List UInt8) :
    decoder.run (first ++ second) = (decoder.write first).1 ++ (decoder.write first).2.run second := by
  rw [run_write, write_append, run_write, List.append_assoc]

theorem finish_single (decoder : Decoder) : 0xA ∉ decoder.finish := by
  unfold Decoder.finish
  split <;> decide

/-- The bounds of what is owed, so that no line end comes out of a longer character. -/
def Decoder.Sound (decoder : Decoder) : Prop :=
  decoder.needed = 0 ∨
    (0x80 ≤ decoder.lower.toNat ∧ decoder.upper.toNat ≤ 0xBF ∧
      ((decoder.needed = 1 ∧ 0x80 ≤ decoder.point * 0x40 + (decoder.lower.toNat - 0x80) ∧
          decoder.point < 0x5000) ∨
        (decoder.needed = 2 ∧ 0x80 ≤ (decoder.point * 0x40 + (decoder.lower.toNat - 0x80)) * 0x40 ∧
          decoder.point < 0x140) ∨
        (decoder.needed = 3 ∧ 0x80 ≤ (decoder.point * 0x40 + (decoder.lower.toNat - 0x80)) * 0x1000 ∧
          decoder.point < 5)))

theorem sound_fresh : Decoder.Sound {} := .inl rfl

theorem unitsOf_single {point : Nat} (least : 0x80 ≤ point) (most : point < 0x140000) :
    0xA ∉ unitsOf point := by
  have no_break {value : Nat} (low : 0x80 ≤ value) (high : value < 0x10000) :
      (0xA : CodeUnit) ≠ value.toUInt16 := by
    intro same
    have read := congrArg UInt16.toNat same
    simp only [Nat.toUInt16, UInt16.toNat_ofNat'] at read
    have ten : (0xA : CodeUnit).toNat = 10 := rfl
    omega
  unfold unitsOf
  split
  · rename_i basic
    exact fun member => no_break least basic (List.mem_singleton.mp member)
  · intro member
    obtain same | member := List.mem_cons.mp member
    · exact no_break (by omega) (by omega) same
    · exact no_break (by omega) (by omega) (List.mem_singleton.mp member)

instance (decoder : Decoder) : Decidable decoder.Sound := inferInstanceAs (Decidable (_ ∨ _))

theorem sound_first (byte : UInt8) :
    (first byte).2.Sound ∧ (byte = 0xA → first byte = ([0xA], {})) ∧
      (byte ≠ 0xA → 0xA ∉ (first byte).1) := by
  have every : ∀ value : Fin 256, (first (ofFin value)).2.Sound ∧
      (ofFin value ≠ 0xA → 0xA ∉ (first (ofFin value)).1) := by decide +kernel
  obtain ⟨sound, single⟩ := every byte.toFin
  exact ⟨sound, fun same => by rw [same]; rfl, single⟩

variable {decoder : Decoder}

theorem sound_push (sound : decoder.Sound) (byte : UInt8) :
    (decoder.push byte).2.Sound ∧
      (byte = 0xA → ∃ before, decoder.push byte = (before ++ [0xA], {}) ∧ 0xA ∉ before) ∧
      (byte ≠ 0xA → 0xA ∉ (decoder.push byte).1) := by
  obtain ⟨soundFirst, breaks, single⟩ := sound_first byte
  unfold Decoder.push
  split
  · exact ⟨soundFirst, fun same => ⟨[], breaks same, List.not_mem_nil⟩, single⟩
  rename_i owed
  obtain none_ | ⟨low, high, owes⟩ := sound
  · exact absurd none_ owed
  split
  · rename_i inside
    obtain ⟨least, most⟩ := inside
    rw [le_iff_toNat_le] at least most
    have read : (byte - 0x80).toNat = byte.toNat - 0x80 :=
      UInt8.toNat_sub_of_le byte 0x80 (UInt8.le_iff_toNat_le.mpr (low.trans least))
    have top := byte.toNat_lt
    have notBreak : byte ≠ 0xA := by
      intro same
      rw [same] at least
      have ten : (0xA : UInt8).toNat = 10 := rfl
      omega
    dsimp only
    rw [read]
    split
    · rename_i last
      have single := @unitsOf_single (decoder.point * 0x40 + (byte.toNat - 0x80)) (by omega) (by omega)
      refine ⟨sound_fresh, fun same => absurd same notBreak, fun _ => ?_⟩
      dsimp only
      exact single
    · rename_i more
      have lowest : (0x80 : UInt8).toNat = 0x80 := rfl
      have highest : (0xBF : UInt8).toNat ≤ 0xBF := by decide
      refine ⟨.inr ⟨lowest.ge, highest, ?_⟩, fun same => absurd same notBreak, fun _ => List.not_mem_nil⟩
      dsimp only
      rw [lowest]
      obtain ⟨one, _, _⟩ | ⟨two, some_, few⟩ | ⟨three, some_, few⟩ := owes
      · exact absurd one more
      · exact .inl ⟨by omega, by omega, by omega⟩
      · exact .inr (.inl ⟨by omega, by omega, by omega⟩)
  · refine ⟨soundFirst, fun same => ⟨[replacement], ?_, by decide⟩, fun other member => ?_⟩
    · rw [breaks same]
      rfl
    · obtain same | member := List.mem_cons.mp member
      · revert same
        decide
      · exact single other member

variable {piece : JsString}

theorem splitOn_more {text : JsString} {done : List JsString} (more : JsString)
    (lines : splitOn 0xA text = done ++ [piece]) :
    splitOn 0xA (text ++ more) = done ++ splitOn 0xA (piece ++ more) := by
  have clean : ∀ line ∈ done, 0xA ∉ line := fun line member =>
    splitOn_clean line (by rw [lines]; exact List.mem_append_left _ member)
  have whole := joinLines_splitOn text
  rw [lines] at whole
  subst whole
  clear lines
  induction done with
  | nil => rfl
  | cons line rest ih =>
    have later := ih fun other member => clean other (List.mem_cons_of_mem _ member)
    rw [List.cons_append, joinLines_cons (by simp), List.append_assoc, List.cons_append, splitOn_append,
      splitOn_single (clean line List.mem_cons_self), later]
    rfl

theorem splitOn_last (text : JsString) : ∃ done piece, splitOn 0xA text = done ++ [piece] :=
  ⟨_, _, (List.dropLast_append_getLast (splitOn_ne_nil 0xA)).symm⟩

theorem piece_single {text : JsString} {done : List JsString}
    (lines : splitOn 0xA text = done ++ [piece]) : 0xA ∉ piece :=
  splitOn_clean piece (by rw [lines]; exact List.mem_append_right _ List.mem_cons_self)

theorem splitOn_joined (single : 0xA ∉ piece) (text : JsString) :
    ∃ first rest, splitOn 0xA text = first :: rest ∧
      splitOn 0xA (piece ++ text) = (piece ++ first) :: rest := by
  induction piece with
  | nil =>
    cases lines : splitOn 0xA text with
    | nil => exact absurd lines (splitOn_ne_nil 0xA)
    | cons first rest => exact ⟨first, rest, rfl, lines⟩
  | cons unit more ih =>
    rw [List.mem_cons, not_or] at single
    obtain ⟨first, rest, lines, joined⟩ := ih single.2
    refine ⟨first, rest, lines, ?_⟩
    rw [List.cons_append, splitOn, if_neg (fun same => single.1 same.symm), joined]
    rfl

theorem lines_resync {other : Decoder} (sound : decoder.Sound) (soundOther : other.Sound)
    (bytes : List UInt8) :
    (splitOn 0xA (decoder.run bytes)).tail = (splitOn 0xA (other.run bytes)).tail := by
  have ended (decoder : Decoder) : (splitOn 0xA (decoder.run [])).tail = [] := by
    have single := finish_single decoder
    rw [Decoder.finish] at single
    rw [Decoder.run, splitOn_single single]
    rfl
  have goes {decoder : Decoder} (sound : decoder.Sound) {byte : UInt8} (plain : byte ≠ 0xA)
      (rest : List UInt8) : (splitOn 0xA (decoder.run (byte :: rest))).tail =
        (splitOn 0xA ((decoder.push byte).2.run rest)).tail := by
    obtain ⟨first, others, lines, joined⟩ :=
      splitOn_joined ((sound_push sound byte).2.2 plain) ((decoder.push byte).2.run rest)
    rw [Decoder.run, joined, lines]
    rfl
  have breaks {decoder : Decoder} (sound : decoder.Sound) (rest : List UInt8) :
      (splitOn 0xA (decoder.run (0xA :: rest))).tail = splitOn 0xA (decode rest) := by
    obtain ⟨before, pushed, single⟩ := (sound_push sound 0xA).2.1 rfl
    rw [Decoder.run, pushed, List.append_assoc, List.singleton_append, splitOn_append,
      splitOn_single single]
    rfl
  induction bytes generalizing decoder other with
  | nil => rw [ended, ended]
  | cons byte rest ih =>
    by_cases line : byte = 0xA
    · rw [line, breaks sound, breaks soundOther]
    · rw [goes sound line, goes soundOther line]
      exact ih (sound_push sound byte).1 (sound_push soundOther byte).1

theorem sound_write (sound : decoder.Sound) (bytes : List UInt8) : (decoder.write bytes).2.Sound := by
  induction bytes generalizing decoder with
  | nil => exact sound
  | cons byte rest ih => exact ih (sound_push sound byte).1

theorem lines_take (front rest : List UInt8) :
    ∀ line ∈ (splitOn 0xA (decode front)).dropLast, line ∈ splitOn 0xA (decode (front ++ rest)) := by
  obtain ⟨done, piece, lines⟩ := splitOn_last (Decoder.write {} front).1
  have here : splitOn 0xA (decode front) = done ++ [piece ++ (Decoder.write {} front).2.finish] := by
    rw [decode, run_write, splitOn_more _ lines, splitOn_single]
    exact fun member => (List.mem_append.mp member).elim (piece_single lines) (finish_single _)
  have whole : ∃ later, splitOn 0xA (decode (front ++ rest)) = done ++ later :=
    ⟨_, by rw [decode, run_append, splitOn_more _ lines]⟩
  obtain ⟨later, whole⟩ := whole
  intro line member
  rw [here, List.dropLast_concat] at member
  rw [whole]
  exact List.mem_append_left _ member

theorem lines_drop (front rest : List UInt8) :
    ∀ line ∈ (splitOn 0xA (decode rest)).tail, line ∈ splitOn 0xA (decode (front ++ rest)) := by
  obtain ⟨done, piece, lines⟩ := splitOn_last (Decoder.write {} front).1
  obtain ⟨first, others, read, joined⟩ := splitOn_joined (piece_single lines)
    ((Decoder.write {} front).2.run rest)
  have same := lines_resync (sound_write sound_fresh front) sound_fresh rest
  intro line member
  rw [decode, ← same, read] at member
  rw [decode, run_append, splitOn_more _ lines, joined]
  exact List.mem_append_right _ (List.mem_cons_of_mem _ member)

end Utf8

end CouncilKit.Data
