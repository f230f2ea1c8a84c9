import CouncilKit.Data.JsonWrite
import CouncilKit.Data.Utf8Cuts
import CouncilKit.Observation.SourceReader

namespace CouncilKit.Observation

open Data Data.JsString Data.Utf8 List Nat

/-- `Number.MAX_SAFE_INTEGER` -/
def MAX_SAFE_INTEGER : Nat := 9007199254740991

def parseCanonicalInt (raw : JsString) : Option Nat :=
  if raw ≠ [] ∧ raw.all Regex.isDigit = true ∧
      ¬ (raw.head? = some 0x30 ∧ 1 < raw.length) ∧ Json.decimalValue raw ≤ MAX_SAFE_INTEGER then
    some (Json.decimalValue raw)
  else none

theorem parseCanonicalInt_ofNat {value : Nat} (safe : value ≤ MAX_SAFE_INTEGER) :
    parseCanonicalInt (ofNat value) = some value := by
  have some_ : ofNat value ≠ [] := length_pos_iff.mp (length_ofNat_pos value)
  rw [parseCanonicalInt, if_pos, decimalValue_ofNat]
  refine ⟨some_, all_eq_true.mpr fun unit => isDigit_ofNat, Json.ofNat_zero_head, ?_⟩
  rwa [decimalValue_ofNat]

def incompleteUtf8Tail (buf : Bytes) : Nat :=
  let cont := ((buf.reverse.take 3).takeWhile continues).length
  match buf.reverse[cont]? with
  | none => 0
  | some lead => if cont + 1 < needOf lead then cont + 1 else 0

structure DetailChunk where
  body : JsString
  nextCursor : Option JsString
  truncated : Bool

section

-- `redact` is `redactObservationText`.
variable (redact : JsString → JsString) (file : Bytes) (byteOffset : Nat)

def readDetailChunk (cursorOffset chunkSize : Nat) : DetailChunk :=
  let start := byteOffset + cursorOffset
  let lineEndLimit := byteOffset + REPAIR_OBS_LINE_ISOLATE
  if file.length ≤ start ∨ lineEndLimit ≤ start then ⟨[], none, false⟩
  else
    let slice := readAt file start (min chunkSize (min (file.length - start) (lineEndLimit - start)))
    let lineEnd := (slice.takeWhile (· ≠ NEWLINE)).length
    let more := decide (NEWLINE ∉ slice ∧ start + slice.length < min file.length lineEndLimit)
    let held := if more then incompleteUtf8Tail (slice.take lineEnd) else 0
    let consumed := if 0 < held ∧ held < lineEnd then lineEnd - held else lineEnd
    { body := redact (decode (slice.take consumed))
      nextCursor := if more then some (ofNat (cursorOffset + consumed)) else none
      truncated := more }

/-- The offset that `getEventDetail` takes from a cursor. -/
def offsetOf (cursorRaw : Option JsString) : Nat :=
  (parseCanonicalInt (cursorRaw.getD (js "0"))).getD 0

def detailAt (chunkSize : Nat) (cursorRaw : Option JsString) : DetailChunk :=
  readDetailChunk redact file byteOffset (offsetOf cursorRaw) chunkSize

/-- The bodies along the cursors, from one cursor to an answer without one. -/
inductive DetailChain (chunkSize : Nat) : Option JsString → List JsString → Prop where
  | last {cursor : Option JsString}
      (ends : (detailAt redact file byteOffset chunkSize cursor).nextCursor = none) :
      DetailChain chunkSize cursor
        [(detailAt redact file byteOffset chunkSize cursor).body]
  | next {cursor : Option JsString} {following : JsString} {bodies : List JsString}
      (goes : (detailAt redact file byteOffset chunkSize cursor).nextCursor =
        some following)
      (rest : DetailChain chunkSize (some following) bodies) :
      DetailChain chunkSize cursor ((detailAt redact file byteOffset chunkSize cursor).body :: bodies)

def spanAt : Bytes := (file.drop byteOffset).take REPAIR_OBS_LINE_ISOLATE

end

def lineOf (rest : Bytes) : Bytes := rest.takeWhile (· ≠ NEWLINE)

def Leaves (chunkSize : Nat) (rest : Bytes) : Prop :=
  NEWLINE ∉ rest.take chunkSize ∧ chunkSize < rest.length

instance (chunkSize : Nat) (rest : Bytes) : Decidable (Leaves chunkSize rest) :=
  inferInstanceAs (Decidable (_ ∧ _))

def cutAt (slice : Bytes) : Nat :=
  if 0 < incompleteUtf8Tail slice ∧ incompleteUtf8Tail slice < slice.length then
    slice.length - incompleteUtf8Tail slice
  else slice.length

variable {redact : JsString → JsString} {file rest slice : Bytes}
  {byteOffset chunkSize : Nat}

theorem takeWhile_line (line : NEWLINE ∉ slice) : lineOf slice = slice :=
  takeWhile_eq_self_iff.mpr fun _ member => decide_eq_true fun same => line (same ▸ member)

theorem lineOf_take (whole : ¬ Leaves chunkSize rest) : lineOf (rest.take chunkSize) = lineOf rest := by
  by_cases inside : NEWLINE ∈ rest.take chunkSize
  · have parts := take_append_drop chunkSize rest
    have stops : ¬ (lineOf (rest.take chunkSize)).length = (rest.take chunkSize).length := by
      intro same
      have all := takeWhile_eq_self_iff.mp (( takeWhile_prefix _).eq_of_length same)
      exact of_decide_eq_true (all NEWLINE inside) rfl
    conv => rhs; rw [← parts]
    rw [lineOf, lineOf, takeWhile_append]
    exact (if_neg stops).symm
  · rw [take_of_length_le (not_lt.mp fun long => whole ⟨inside, long⟩)]

theorem length_take_leaves (leaves : Leaves chunkSize rest) : (rest.take chunkSize).length = chunkSize := by
  rw [length_take]
  exact min_eq_left (le_of_lt leaves.2)

theorem readDetailChunk_rest (cursor : Nat) (behind : rest = (spanAt file byteOffset).drop cursor) :
    readDetailChunk redact file byteOffset cursor chunkSize =
      if rest = [] then ⟨[], none, false⟩
      else if Leaves chunkSize rest then
        ⟨redact (decode (rest.take (cutAt (rest.take chunkSize)))),
          some (ofNat (cursor + cutAt (rest.take chunkSize))), true⟩
      else ⟨redact (decode (lineOf rest)), none, false⟩ := by
  have long : rest.length = min REPAIR_OBS_LINE_ISOLATE (file.length - byteOffset) - cursor := by
    rw [behind, spanAt, length_drop, length_take, length_drop]
  have slice : readAt file (byteOffset + cursor) (min chunkSize (min (file.length - (byteOffset + cursor))
      (byteOffset + REPAIR_OBS_LINE_ISOLATE - (byteOffset + cursor)))) = rest.take chunkSize := by
    rw [behind, spanAt, readAt, drop_take, drop_drop, take_take, take_eq_take_iff,
      length_drop]
    omega
  unfold readDetailChunk
  dsimp only
  by_cases empty : rest = []
  · have none_ : rest.length = 0 := by rw [empty]; rfl
    rw [if_pos empty, if_pos (by omega)]
  · have some_ := length_pos_iff.mpr empty
    rw [if_neg empty, if_neg (by omega), slice]
    have more : (NEWLINE ∉ rest.take chunkSize ∧ byteOffset + cursor + (rest.take chunkSize).length <
        min file.length (byteOffset + REPAIR_OBS_LINE_ISOLATE)) ↔ Leaves chunkSize rest := by
      rw [Leaves, length_take]
      constructor
      · intro both
        exact ⟨both.1, by omega⟩
      · intro both
        exact ⟨both.1, by omega⟩
    by_cases leaves : Leaves chunkSize rest
    · have line : (rest.take chunkSize).takeWhile (· ≠ NEWLINE) = rest.take chunkSize :=
        takeWhile_line leaves.1
      have short : cutAt (rest.take chunkSize) ≤ chunkSize := by
        rw [cutAt, length_take_leaves leaves]
        split <;> omega
      simp only [more, leaves, if_true, decide_true, line, take_length]
      change DetailChunk.mk (redact (decode ((rest.take chunkSize).take
        (cutAt (rest.take chunkSize))))) (some (ofNat (cursor + cutAt (rest.take chunkSize)))) true = _
      rw [take_take, min_eq_left short]
    · have line : (rest.take chunkSize).take ((rest.take chunkSize).takeWhile (· ≠ NEWLINE)).length =
          lineOf rest := by
        rw [← prefix_iff_eq_take.mp ( takeWhile_prefix _)]
        exact lineOf_take leaves
      simp only [more, leaves, if_false, decide_false, Bool.false_eq_true, lt_irrefl, false_and, line]

theorem offsetOf_some {value : Nat} (safe : value ≤ MAX_SAFE_INTEGER) :
    offsetOf (some (ofNat value)) = value :=
  congrArg (·.getD 0) (parseCanonicalInt_ofNat safe)

def behind (file : Bytes) (byteOffset : Nat) (cursor : Option JsString) : Bytes :=
  (spanAt file byteOffset).drop (offsetOf cursor)

variable {cursor : Option JsString} {bodies others : List JsString}

theorem behind_next {stop : Nat} (inside : stop < (behind file byteOffset cursor).length) :
    behind file byteOffset (some (ofNat (offsetOf cursor + stop))) =
      (behind file byteOffset cursor).drop stop := by
  rw [behind, length_drop, spanAt, length_take] at inside
  have limit : REPAIR_OBS_LINE_ISOLATE ≤ MAX_SAFE_INTEGER := by decide
  rw [behind, offsetOf_some (by omega), behind, drop_drop]

theorem detailAt_leaves (leaves : Leaves chunkSize (behind file byteOffset cursor)) :
    detailAt redact file byteOffset chunkSize cursor =
      ⟨redact (decode ((behind file byteOffset cursor).take
          (cutAt ((behind file byteOffset cursor).take chunkSize)))),
        some (ofNat (offsetOf cursor + cutAt ((behind file byteOffset cursor).take chunkSize))), true⟩ := by
  have answer := @readDetailChunk_rest redact file
    (behind file byteOffset cursor) byteOffset chunkSize (offsetOf cursor) rfl
  have some_ : behind file byteOffset cursor ≠ [] :=
    length_pos_iff.mp (zero_lt_of_lt leaves.2)
  rw [if_neg some_] at answer
  exact answer.trans (if_pos leaves)

theorem DetailChain.unique (first : DetailChain redact file byteOffset chunkSize cursor bodies)
    (second : DetailChain redact file byteOffset chunkSize cursor others) :
    bodies = others := by
  induction first generalizing others with
  | last ends =>
    cases second with
    | last => rfl
    | next goes =>
      rw [ends] at goes
      cases goes
  | next goes _ ih =>
    cases second with
    | last ends =>
      rw [goes] at ends
      cases ends
    | next also rest =>
      rw [goes] at also
      cases also
      rw [ih rest]

theorem DetailChain.moves (chain : DetailChain redact file byteOffset chunkSize cursor bodies)
    (some_ : behind file byteOffset cursor ≠ []) : chunkSize ≠ 0 := by
  intro still
  subst still
  have leaves {cursor : Option JsString} (some_ : behind file byteOffset cursor ≠ []) :
      Leaves 0 (behind file byteOffset cursor) := ⟨not_mem_nil, length_pos_iff.mpr some_⟩
  induction chain with
  | last ends =>
    rw [detailAt_leaves (leaves some_)] at ends
    cases ends
  | next goes _ ih =>
    have long := length_pos_iff.mpr some_
    rw [detailAt_leaves (leaves some_)] at goes
    cases goes
    apply ih
    have same := @behind_next file byteOffset _ 0 long
    exact same ▸ some_

end CouncilKit.Observation
