import CouncilKit.Data.CutLines

namespace CouncilKit.Host

open Data Data.JsString Utf8 List

/-- `LIMITS.ndjsonLineBytes` -/
def ndjsonLineBytes : Nat := 8 * 1024 * 1024

inductive NdjsonCall where
  | line (text : JsString)
  | limitExceeded
  | ended

structure NdjsonSplitter where
  buffer : List UInt8 := []
  overflow : Bool := false

def callLine (line : List UInt8) : List NdjsonCall :=
  if 0 < (decode line).trim.length then [.line (decode line)] else []

/-- The loop over the complete lines, and the test of what is left behind it. -/
def takeLines (left : List UInt8) : List (List UInt8) → List NdjsonCall × NdjsonSplitter
  | [] =>
    if ndjsonLineBytes < left.length then ([.limitExceeded], { buffer := left, overflow := true })
    else ([], { buffer := left })
  | line :: more =>
    if ndjsonLineBytes < line.length then
      ([.limitExceeded], { buffer := unlines 0xA more left, overflow := true })
    else
      let later := takeLines left more
      (callLine line ++ later.1, later.2)

def NdjsonSplitter.onData (splitter : NdjsonSplitter) (chunk : List UInt8) :
    List NdjsonCall × NdjsonSplitter :=
  if splitter.overflow then ([], splitter)
  else
    let lines := cut 0xA (splitter.buffer ++ chunk)
    takeLines lines.2 lines.1

def NdjsonSplitter.onEnd (splitter : NdjsonSplitter) : List NdjsonCall :=
  if splitter.overflow then [] else callLine splitter.buffer ++ [.ended]

def dataCalls (taken : List NdjsonCall × NdjsonSplitter) (chunk : List UInt8) :
    List NdjsonCall × NdjsonSplitter :=
  let next := taken.2.onData chunk
  (taken.1 ++ next.1, next.2)

/-- `attachNdjsonSplitter` on a stream that ends. -/
def attachNdjsonSplitter (chunks : List (List UInt8)) : List NdjsonCall :=
  let taken := chunks.foldl dataCalls ([], {})
  taken.1 ++ taken.2.onEnd

structure Taken (bytes : List UInt8) (taken : List NdjsonCall × NdjsonSplitter) : Prop where
  calls : taken.1 = (takeLines (cut 0xA bytes).2 (cut 0xA bytes).1).1
  overflow : taken.2.overflow = (takeLines (cut 0xA bytes).2 (cut 0xA bytes).1).2.overflow
  buffer : taken.2.overflow = false → taken.2.buffer = (cut 0xA bytes).2

variable {left : List UInt8} {lines : List (List UInt8)}

theorem takeLines_going
    (going : (takeLines left lines).2.overflow = false) (later : List UInt8) (more : List (List UInt8)) :
    takeLines later (lines ++ more) =
      ((takeLines left lines).1 ++ (takeLines later more).1, (takeLines later more).2) := by
  induction lines with
  | nil =>
    rw [takeLines] at going ⊢
    split
    · rename_i long
      rw [if_pos long] at going
      cases going
    · rfl
  | cons line rest ih =>
    rw [takeLines] at going
    rw [cons_append, takeLines, takeLines]
    split at going
    · cases going
    · rename_i short
      rw [if_neg short, if_neg short, ih going]
      dsimp only
      rw [append_assoc]

theorem takeLines_buffer
    (going : (takeLines left lines).2.overflow = false) : (takeLines left lines).2.buffer = left := by
  induction lines with
  | nil =>
    rw [takeLines] at going ⊢
    split at going
    · cases going
    · rename_i short
      rw [if_neg short]
  | cons line rest ih =>
    rw [takeLines] at going ⊢
    split at going
    · cases going
    · rename_i short
      rw [if_neg short]
      exact ih going

theorem takeLines_over
    (stopped : (takeLines left lines).2.overflow = true) {later : List UInt8} {more : List (List UInt8)}
    (goes : more = [] ∧ left.length ≤ later.length ∨
      ∃ first rest, more = first :: rest ∧ left.length ≤ first.length) :
    (takeLines later (lines ++ more)).1 = (takeLines left lines).1 ∧
      (takeLines later (lines ++ more)).2.overflow = true := by
  induction lines with
  | nil =>
    rw [takeLines] at stopped
    split at stopped
    · rename_i long
      rw [takeLines, if_pos long, nil_append]
      rcases goes with ⟨none_, longer⟩ | ⟨first, rest, some_, longer⟩
      · rw [none_, takeLines, if_pos (lt_of_lt_of_le long longer)]
        exact ⟨rfl, rfl⟩
      · rw [some_, takeLines, if_pos (lt_of_lt_of_le long longer)]
        exact ⟨rfl, rfl⟩
    · cases stopped
  | cons line rest ih =>
    rw [takeLines] at stopped
    rw [cons_append, takeLines, takeLines]
    split at stopped
    · rename_i long
      rw [if_pos long, if_pos long]
      exact ⟨rfl, rfl⟩
    · rename_i short
      rw [if_neg short, if_neg short]
      obtain ⟨calls, over_⟩ := ih stopped
      dsimp only
      rw [calls]
      exact ⟨rfl, over_⟩

theorem taken_start : Taken [] ([], {}) := ⟨rfl, rfl, fun _ => rfl⟩

theorem taken_data {bytes : List UInt8} {taken : List NdjsonCall × NdjsonSplitter}
    (holds : Taken bytes taken) (chunk : List UInt8) : Taken (bytes ++ chunk) (dataCalls taken chunk) := by
  obtain ⟨calls, overflow, buffer⟩ := holds
  have whole := @cut_append _ _ 0xA bytes chunk
  have clean := (@clean_cut _ _ 0xA bytes).2
  unfold dataCalls NdjsonSplitter.onData
  cases going : taken.2.overflow with
  | true =>
    rw [going] at overflow
    have goes : (cut 0xA ((cut 0xA bytes).2 ++ chunk)).1 = [] ∧
          (cut 0xA bytes).2.length ≤ (cut 0xA ((cut 0xA bytes).2 ++ chunk)).2.length ∨
        ∃ first rest, (cut 0xA ((cut 0xA bytes).2 ++ chunk)).1 = first :: rest ∧
          (cut 0xA bytes).2.length ≤ first.length := by
      rw [cut_front clean]
      cases cut 0xA chunk with
      | mk lines left =>
        cases lines with
        | nil =>
          refine .inl ⟨rfl, ?_⟩
          rw [hold, length_append]
          exact Nat.le_add_right _ _
        | cons first more =>
          refine .inr ⟨_, _, rfl, ?_⟩
          rw [length_append]
          exact Nat.le_add_right _ _
    obtain ⟨same, over_⟩ := takeLines_over overflow.symm goes
    rw [if_pos rfl]
    dsimp only
    rw [append_nil]
    constructor
    · rw [whole, same, calls]
    · rw [whole, over_]
      exact going
    · intro absurd_
      rw [going] at absurd_
      cases absurd_
  | false =>
    rw [going] at overflow
    have more := @takeLines_going _ _ overflow.symm (cut 0xA ((cut 0xA bytes).2 ++ chunk)).2
      (cut 0xA ((cut 0xA bytes).2 ++ chunk)).1
    rw [if_neg Bool.false_ne_true, buffer going]
    constructor
    · rw [whole, more, calls]
    · rw [whole, more]
    · rw [whole]
      exact takeLines_buffer

theorem taken_all (chunks : List (List UInt8)) : Taken chunks.flatten (chunks.foldl dataCalls ([], {})) := by
  have all {bytes : List UInt8} {taken : List NdjsonCall × NdjsonSplitter} (holds : Taken bytes taken) :
      Taken (bytes ++ chunks.flatten) (chunks.foldl dataCalls taken) := by
    induction chunks generalizing bytes taken with
    | nil =>
      rw [flatten_nil, append_nil]
      exact holds
    | cons chunk rest ih =>
      rw [flatten_cons, ← append_assoc]
      exact ih (taken_data holds chunk)
  exact all taken_start

theorem attachNdjsonSplitter_flatten (chunks : List (List UInt8)) :
    attachNdjsonSplitter chunks = attachNdjsonSplitter [chunks.flatten] := by
  have here := taken_all chunks
  have single := taken_all [chunks.flatten]
  rw [flatten_singleton] at single
  unfold attachNdjsonSplitter NdjsonSplitter.onEnd
  dsimp only
  have over_ := here.overflow.trans single.overflow.symm
  rw [here.calls, single.calls, over_]
  cases going : (([chunks.flatten] : List (List UInt8)).foldl dataCalls ([], {})).2.overflow with
  | true => rfl
  | false => rw [here.buffer (over_.trans going), single.buffer going]

end CouncilKit.Host
