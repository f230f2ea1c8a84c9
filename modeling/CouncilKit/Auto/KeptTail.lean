import Mathlib
import CouncilKit.Auto.DriverOutput

namespace CouncilKit.Auto

open Data JsString Utf8 List Nat

namespace CappedCollector

theorem trimTail_spec (tailCap : Nat) (chunks : List (List UInt8)) :
    (trimTail tailCap chunks chunks.flatten.length).1.flatten <:+ chunks.flatten ∧
      (trimTail tailCap chunks chunks.flatten.length).2 =
        (trimTail tailCap chunks chunks.flatten.length).1.flatten.length ∧
      (chunks.flatten.length ≤ tailCap → (trimTail tailCap chunks chunks.flatten.length).1 = chunks) := by
  induction chunks with
  | nil => exact ⟨suffix_refl _, rfl, fun _ => rfl⟩
  | cons first rest ih =>
    cases rest with
    | nil =>
      simp only [flatten_cons, flatten_nil, append_nil, trimTail]
      split
      · rename_i long
        exact ⟨by simpa using drop_suffix _ _, by simp, fun short => absurd long (by omega)⟩
      · exact ⟨by simp, by simp, fun _ => rfl⟩
    | cons next others =>
      have less : (first :: next :: others).flatten.length - first.length =
          (next :: others).flatten.length := by simp
      rw [trimTail]
      split
      · rename_i long
        rw [less]
        obtain ⟨suffix, size, _⟩ := ih
        exact ⟨suffix.trans (suffix_append first _), size, fun short => absurd long (by omega)⟩
      · exact ⟨suffix_refl _, rfl, fun _ => rfl⟩

/-- What a collector keeps of a stream: its front, and an end of the rest. -/
structure Keeps (coll : CappedCollector) (bytes : List UInt8) : Prop where
  head : coll.head.flatten = bytes.take coll.headCap
  headBytes : coll.headBytes = coll.head.flatten.length
  tail : coll.tail.flatten <:+ bytes.drop coll.headCap
  tailBytes : coll.tailBytes = coll.tail.flatten.length
  whole : bytes.length ≤ coll.headCap + coll.tailCap → coll.tail.flatten = bytes.drop coll.headCap
  total : coll.total = bytes.length
  truncated : coll.truncated = decide (coll.cap < bytes.length)

theorem keeps_tail {coll : CappedCollector} {bytes chunk rest : List UInt8} (keeps : coll.Keeps bytes)
    (further : (bytes ++ chunk).drop coll.headCap = bytes.drop coll.headCap ++ rest) :
    let trimmed := trimTail coll.tailCap (coll.tail ++ [rest]) (coll.tailBytes + rest.length)
    trimmed.1.flatten <:+ (bytes ++ chunk).drop coll.headCap ∧ trimmed.2 = trimmed.1.flatten.length ∧
      ((bytes ++ chunk).length ≤ coll.headCap + coll.tailCap →
        trimmed.1.flatten = (bytes ++ chunk).drop coll.headCap) := by
  intro trimmed
  have size : coll.tailBytes + rest.length = (coll.tail ++ [rest]).flatten.length := by
    rw [keeps.tailBytes]
    simp
  have flat : (coll.tail ++ [rest]).flatten = coll.tail.flatten ++ rest := by simp
  obtain ⟨suffix, length, whole⟩ := trimTail_spec coll.tailCap (coll.tail ++ [rest])
  rw [← size] at suffix length whole
  refine ⟨?_, length, fun fits => ?_⟩
  · obtain ⟨before, same⟩ := keeps.tail
    rw [further]
    refine suffix.trans ⟨before, ?_⟩
    rw [flat, ← append_assoc, same]
  · have earlier : bytes.length ≤ coll.headCap + coll.tailCap := by
      rw [length_append] at fits
      omega
    have room := congrArg List.length further
    simp only [length_drop, length_append] at room
    have kept := whole (by
      rw [keeps.tailBytes, keeps.whole earlier, length_drop]
      rw [length_append] at fits
      omega)
    change (trimTail coll.tailCap (coll.tail ++ [rest]) (coll.tailBytes + rest.length)).1.flatten = _
    rw [kept, flat, keeps.whole earlier, further]

theorem keeps_feed {coll : CappedCollector} {bytes : List UInt8} (keeps : coll.Keeps bytes)
    (chunk : List UInt8) : (coll.feed chunk).Keeps (bytes ++ chunk) := by
  have size : coll.headBytes = min coll.headCap bytes.length := by
    rw [keeps.headBytes, keeps.head, length_take]
  have total : coll.total + chunk.length = (bytes ++ chunk).length := by
    rw [keeps.total, length_append]
  have truncates : (coll.truncated || decide (coll.cap < coll.total + chunk.length)) =
      decide (coll.cap < (bytes ++ chunk).length) := by
    rw [keeps.truncated, total]
    by_cases before : coll.cap < bytes.length
    · have after : coll.cap < (bytes ++ chunk).length := by
        rw [length_append]
        omega
      rw [decide_eq_true before, decide_eq_true after, Bool.true_or]
    · rw [decide_eq_false before, Bool.false_or]
  by_cases filling : coll.headBytes < coll.headCap
  · have below : bytes.length < coll.headCap := by omega
    have taken : coll.head.flatten = bytes := by
      rw [keeps.head, take_of_length_le (by omega)]
    have none_ : bytes.drop coll.headCap = [] := drop_of_length_le (by omega)
    by_cases fits : chunk.length ≤ coll.headCap - coll.headBytes
    · have inside : (bytes ++ chunk).length ≤ coll.headCap := by
        rw [length_append]
        omega
      have nothing : (bytes ++ chunk).drop coll.headCap = [] := drop_of_length_le inside
      have empty : coll.tail.flatten = [] := suffix_nil.mp (none_ ▸ keeps.tail)
      simp only [feed, if_pos filling, if_pos fits]
      constructor
      · rw [flatten_append, taken, take_of_length_le inside]
        simp
      · simp [keeps.headBytes]
      · rw [nothing]
        exact suffix_nil.mpr empty
      · exact keeps.tailBytes
      · exact fun _ => by rw [nothing, empty]
      · exact total
      · exact truncates
    · have further : (bytes ++ chunk).drop coll.headCap =
          bytes.drop coll.headCap ++ chunk.drop (coll.headCap - coll.headBytes) := by
        rw [drop_append, size, min_eq_right (by omega)]
      obtain ⟨suffix, length, whole⟩ := keeps_tail keeps further
      simp only [feed, if_pos filling, if_neg fits]
      have front : (coll.head ++ [chunk.take (coll.headCap - coll.headBytes)]).flatten =
          (bytes ++ chunk).take coll.headCap := by
        rw [size, min_eq_right below.le, take_append, flatten_append, taken]
        simp [take_of_length_le below.le]
      constructor
      · exact front
      · dsimp only
        rw [front, length_take, length_append]
        omega
      · exact suffix
      · exact length
      · exact whole
      · exact total
      · exact truncates
  · have full : coll.headCap ≤ bytes.length := by omega
    have further : (bytes ++ chunk).drop coll.headCap = bytes.drop coll.headCap ++ chunk :=
      drop_append_of_le_length full
    obtain ⟨suffix, length, whole⟩ := keeps_tail keeps further
    simp only [feed, if_neg filling]
    constructor
    · dsimp only
      rw [keeps.head, take_append_of_le_length full]
    · exact keeps.headBytes
    · exact suffix
    · exact length
    · exact whole
    · exact total
    · exact truncates

theorem keeps_fresh (cap headCap tailCap : Nat) :
    Keeps { cap, headCap, tailCap } [] := by
  refine ⟨take_nil.symm, rfl, nil_suffix, rfl, fun _ => drop_nil.symm, rfl, ?_⟩
  exact (decide_eq_false (not_lt_zero _)).symm

variable {headCap tailCap : Nat} {coll : CappedCollector} {chunks : List (List UInt8)}

def collect (headCap tailCap : Nat) (chunks : List (List UInt8)) : CappedCollector :=
  chunks.foldl feed { cap := headCap + tailCap, headCap, tailCap }

/-- What the comment on the class promises of a stream. -/
def keptText (headCap tailCap : Nat) (bytes : List UInt8) : JsString :=
  if bytes.length ≤ headCap + tailCap then decode bytes
  else decode (bytes.take headCap) ++ js "\n[truncated " ++
    ofNat (bytes.length - headCap - tailCap) ++ js " bytes]\n" ++
      decode (bytes.drop (bytes.length - tailCap))

/-- The last `tailCap` bytes begin where a chunk does, or one chunk holds them all. -/
def TailMeets (tailCap : Nat) (chunks : List (List UInt8)) : Prop :=
  ∃ front back, chunks = front ++ back ∧ (back.flatten.length = tailCap ∨
    ∃ chunk rest, back = chunk :: rest ∧ rest.flatten = [] ∧ tailCap ≤ chunk.length)

variable {pieces : List (List UInt8)}

theorem trimTail_under {bytes : Nat} (fits : bytes ≤ tailCap) :
    trimTail tailCap pieces bytes = (pieces, bytes) := by
  match pieces with
  | [] => rfl
  | [only] => rw [trimTail, if_neg (not_lt.mpr fits)]
  | first :: next :: rest => rw [trimTail, if_neg (not_lt.mpr fits)]

theorem trimTail_over {piece whole : List UInt8} {rest : List (List UInt8)}
    (cut : piece <:+ whole) (above : tailCap < (piece :: rest).flatten.length) :
    (∃ dropped last next kept, whole :: rest = dropped ++ last :: next :: kept ∧
      (trimTail tailCap (piece :: rest) (piece :: rest).flatten.length).1 = next :: kept ∧
      (next :: kept).flatten.length ≤ tailCap ∧
      tailCap < last.length + (next :: kept).flatten.length) ∨
    ∃ dropped last only, whole :: rest = dropped ++ [last] ∧
      (trimTail tailCap (piece :: rest) (piece :: rest).flatten.length).1 = [only] ∧
      only <:+ last ∧ only.length = tailCap ∧ tailCap < last.length := by
  induction rest generalizing piece whole with
  | nil =>
    have least := cut.length_le
    simp only [flatten_cons, flatten_nil, append_nil] at above ⊢
    rw [trimTail, if_pos above]
    refine .inr ⟨[], whole, _, rfl, rfl, (drop_suffix _ _).trans cut, ?_, by omega⟩
    rw [length_drop]
    omega
  | cons next rest ih =>
    have least := cut.length_le
    have less : (piece :: next :: rest).flatten.length - piece.length =
        (next :: rest).flatten.length := by simp
    rw [trimTail, if_pos above, less]
    by_cases fits : (next :: rest).flatten.length ≤ tailCap
    · rw [trimTail_under fits]
      refine .inl ⟨[], whole, next, rest, rfl, rfl, fits, ?_⟩
      rw [flatten_cons, length_append] at above
      omega
    · obtain ⟨dropped, rest⟩ | ⟨dropped, rest⟩ := ih (suffix_refl _) (Nat.lt_of_not_le fits)
      · obtain ⟨last, first, kept, same, found⟩ := rest
        exact .inl ⟨whole :: dropped, last, first, kept, by rw [same]; rfl, found⟩
      · obtain ⟨last, only, same, found⟩ := rest
        exact .inr ⟨whole :: dropped, last, only, by rw [same]; rfl, found⟩

/-- The chunks that a tail of pieces holds: all since the head, or as many as fit, or the end
of one. -/
inductive Holds (headCap tailCap : Nat) : List (List UInt8) → List (List UInt8) → Prop where
  | nothing {early} (short : early.flatten.length ≤ headCap) : Holds headCap tailCap early []
  | all {front piece whole back} (cut : piece <:+ whole)
      (short : (front ++ whole :: back).flatten.length ≤ headCap + tailCap) :
      Holds headCap tailCap (front ++ whole :: back) (piece :: back)
  | fitting {dropped last next kept} (some_ : (next :: kept).flatten ≠ [])
      (most : tailCap < last.length + (next :: kept).flatten.length) :
      Holds headCap tailCap (dropped ++ last :: next :: kept) (next :: kept)
  | slice {front piece whole back} (cut : piece <:+ whole) (empty : back.flatten = [])
      (exact_ : piece.length = tailCap) (long : tailCap < whole.length) :
      Holds headCap tailCap (front ++ whole :: back) (piece :: back)

theorem Holds.push (holds : Holds headCap tailCap chunks pieces)
    {piece chunk : List UInt8} (fits : pieces.flatten.length ≤ tailCap) (cut : piece <:+ chunk)
    (whole : pieces = [] ∨ piece = chunk)
    (room : pieces.flatten.length + piece.length ≤ tailCap →
      chunks.flatten.length ≤ headCap + tailCap → (chunks ++ [chunk]).flatten.length ≤ headCap + tailCap) :
    Holds headCap tailCap (chunks ++ [chunk])
      (trimTail tailCap (pieces ++ [piece]) (pieces.flatten.length + piece.length)).1 := by
  have size : pieces.flatten.length + piece.length = (pieces ++ [piece]).flatten.length := by simp
  by_cases under : pieces.flatten.length + piece.length ≤ tailCap
  · rw [trimTail_under under]
    cases holds with
    | nothing short => exact .all cut (room under (by omega))
    | @all front first held back start short =>
      obtain rfl := whole.resolve_left (cons_ne_nil _ _)
      have total := room under short
      rw [append_assoc] at total ⊢
      exact .all start total
    | @fitting dropped last next kept some_ most =>
      obtain rfl := whole.resolve_left (cons_ne_nil _ _)
      have more : (next :: (kept ++ [piece])).flatten = (next :: kept).flatten ++ piece := by simp
      rw [append_assoc]
      refine @Holds.fitting _ _ dropped last next (kept ++ [piece]) ?_ ?_
      · rw [more]
        exact fun none_ => some_ (append_eq_nil_iff.mp none_).1
      · rw [more, length_append]
        omega
    | slice start empty exact_ long =>
      obtain rfl := whole.resolve_left (cons_ne_nil _ _)
      have none_ : piece = [] := by
        rw [← length_eq_zero_iff]
        rw [flatten_cons, length_append] at under
        omega
      rw [append_assoc]
      exact .slice start (by simp [empty, none_]) exact_ long
  · have some_ : chunk ≠ [] := by
      rintro rfl
      rw [suffix_nil.mp cut] at under
      exact under fits
    have trims (front : List (List UInt8)) {first held rest} (chunked : chunks ++ [chunk] = front ++ held :: rest)
        (pieced : pieces ++ [piece] = first :: rest) (start : first <:+ held) :
        Holds headCap tailCap (chunks ++ [chunk])
          (trimTail tailCap (pieces ++ [piece]) (pieces.flatten.length + piece.length)).1 := by
      rw [size, pieced] at under ⊢
      obtain ⟨dropped, last, next, kept, same, found, -, most⟩ |
        ⟨dropped, last, only, same, found, start, exact_, long⟩ :=
        trimTail_over start (Nat.lt_of_not_le under)
      · rw [found, chunked, same, ← append_assoc]
        refine .fitting (fun none_ => some_ ?_) most
        have ends := congrArg List.getLast? (chunked.trans (congrArg (front ++ ·) same))
        simp only [List.getLast?_append, List.getLast?_cons_cons] at ends
        have member : chunk ∈ next :: kept := by
          apply mem_of_getLast?
          cases found : (next :: kept).getLast? with
          | none => simp at found
          | some unit => simpa [found] using ends.symm
        exact flatten_eq_nil_iff.mp none_ _ member
      · rw [found, chunked, same, ← append_assoc]
        exact .slice start rfl exact_ long
    cases holds with
    | nothing short => exact trims _ rfl rfl cut
    | all start short =>
      obtain rfl := whole.resolve_left (cons_ne_nil _ _)
      exact trims _ (append_assoc _ _ _) rfl start
    | @fitting dropped last next kept =>
      obtain rfl := whole.resolve_left (cons_ne_nil _ _)
      exact trims (dropped ++ [last]) (by simp) rfl (suffix_refl _)
    | slice start =>
      obtain rfl := whole.resolve_left (cons_ne_nil _ _)
      exact trims _ (append_assoc _ _ _) rfl start

theorem trimTail_le (pieces : List (List UInt8)) :
    (trimTail tailCap pieces pieces.flatten.length).1.flatten.length ≤ tailCap := by
  by_cases under : pieces.flatten.length ≤ tailCap
  · rw [trimTail_under under]
    exact under
  · cases pieces with
    | nil => exact absurd (zero_le _) under
    | cons piece rest =>
      obtain ⟨_, _, _, _, _, found, fits, _⟩ | ⟨_, _, _, _, found, _, exact_, _⟩ :=
        trimTail_over (suffix_refl _) (Nat.lt_of_not_le under)
      · rw [found]
        exact fits
      · rw [found]
        simp [exact_]

structure Collected (headCap tailCap : Nat) (chunks : List (List UInt8)) (coll : CappedCollector) :
    Prop where
  keeps : coll.Keeps chunks.flatten
  caps : coll.cap = headCap + tailCap ∧ coll.headCap = headCap ∧ coll.tailCap = tailCap
  early : chunks.flatten.length < headCap → coll.tail = []
  fits : coll.tail.flatten.length ≤ tailCap
  holds : Holds headCap tailCap chunks coll.tail

theorem collected (headCap tailCap : Nat) (chunks : List (List UInt8)) :
    Collected headCap tailCap chunks (collect headCap tailCap chunks) := by
  induction chunks using List.reverseRecOn with
  | nil =>
    exact ⟨keeps_fresh _ _ _, ⟨rfl, rfl, rfl⟩, fun _ => rfl, zero_le _, .nothing (zero_le _)⟩
  | append_singleton chunks chunk ih =>
    have last : collect headCap tailCap (chunks ++ [chunk]) =
        (collect headCap tailCap chunks).feed chunk := by
      simp [collect]
    have flat : (chunks ++ [chunk]).flatten = chunks.flatten ++ chunk := by simp
    have length : (chunks ++ [chunk]).flatten.length = chunks.flatten.length + chunk.length := by
      rw [flat, length_append]
    rw [last]
    generalize collect headCap tailCap chunks = coll at ih
    obtain ⟨keeps, ⟨cap, rfl, rfl⟩, early, fits, holds⟩ := ih
    have next := flat ▸ keeps_feed keeps chunk
    have filled : coll.headBytes = min coll.headCap chunks.flatten.length := by
      rw [keeps.headBytes, keeps.head, length_take]
    have pushed (piece : List UInt8) (cut : piece <:+ chunk) (whole : coll.tail = [] ∨ piece = chunk)
        (past : coll.headCap ≤ chunks.flatten.length + chunk.length)
        (room : coll.tail.flatten.length + piece.length ≤ coll.tailCap →
          chunks.flatten.length ≤ coll.headCap + coll.tailCap →
            chunks.flatten.length + chunk.length ≤ coll.headCap + coll.tailCap)
        (same : (coll.feed chunk).tail = (trimTail coll.tailCap (coll.tail ++ [piece])
          (coll.tailBytes + piece.length)).1) :
        Collected coll.headCap coll.tailCap (chunks ++ [chunk]) (coll.feed chunk) := by
      rw [keeps.tailBytes] at same
      refine ⟨next, ⟨cap, rfl, rfl⟩, fun early => absurd past (by omega), ?_, ?_⟩
      · have size : coll.tail.flatten.length + piece.length =
            (coll.tail ++ [piece]).flatten.length := by simp
        rw [same, size]
        exact trimTail_le _
      · rw [same]
        exact holds.push fits cut whole fun fits short => length ▸ room fits short
    by_cases filling : coll.headBytes < coll.headCap
    · have none_ := early (by omega)
      by_cases inside : chunk.length ≤ coll.headCap - coll.headBytes
      · have same : (coll.feed chunk).tail = coll.tail := by
          simp only [feed, if_pos filling, if_pos inside]
        refine ⟨next, ⟨cap, rfl, rfl⟩, fun _ => same.trans none_, same ▸ fits, ?_⟩
        rw [same, none_]
        exact .nothing (by omega)
      · apply pushed (chunk.drop (coll.headCap - coll.headBytes)) (drop_suffix _ _) (.inl none_)
        · omega
        · rw [none_, length_drop]
          simp only [flatten_nil, length_nil]
          omega
        · simp only [feed, if_pos filling, if_neg inside]
    · apply pushed chunk (suffix_refl _) (.inr rfl)
      · omega
      · intro fits short
        rw [keeps.whole short, length_drop] at fits
        omega
      · simp only [feed, if_neg filling]

theorem Holds.full_iff (holds : Holds headCap tailCap chunks pieces)
    (fits : pieces.flatten.length ≤ tailCap) (long : headCap + tailCap < chunks.flatten.length) :
    pieces.flatten.length = tailCap ↔ TailMeets tailCap chunks := by
  cases holds with
  | nothing short => omega
  | all _ short => omega
  | @fitting dropped last next kept some_ most =>
    have positive := length_pos_iff.mpr some_
    refine ⟨fun exact_ => ⟨dropped ++ [last], next :: kept, by simp, .inl exact_⟩, ?_⟩
    rintro ⟨front, back, same, meets⟩
    -- the back is within what is held, or the chunk that did not fit is in it
    have compare : (∃ more, next :: kept = more ++ back) ∨ ∃ more, back = more ++ last :: next :: kept := by
      have same : (dropped ++ [last]) ++ (next :: kept) = front ++ back := by simpa using same
      obtain ⟨more, -, right⟩ | ⟨more, left, right⟩ := append_eq_append_iff.mp same
      · exact .inl ⟨more, right⟩
      · obtain rfl | ⟨others, unit, rfl⟩ := eq_nil_or_concat more
        · exact .inl ⟨[], right.symm⟩
        · rw [concat_eq_append, ← append_assoc] at left
          obtain ⟨-, rfl⟩ := append_inj' left rfl |>.imp id (List.cons.inj · |>.1)
          exact .inr ⟨others, by rw [right]; simp⟩
    obtain ⟨more, held⟩ | ⟨more, rfl⟩ := compare
    · have room : back.flatten.length ≤ (next :: kept).flatten.length := by
        rw [held, flatten_append, length_append]
        exact le_add_left _ _
      obtain exact_ | ⟨chunk, rest, rfl, empty, large⟩ := meets
      · omega
      · rw [flatten_cons, length_append] at room
        omega
    · obtain exact_ | ⟨chunk, rest, split, empty, -⟩ := meets
      · rw [flatten_append, flatten_cons, length_append, length_append] at exact_
        omega
      · have inside : next :: kept ⊆ rest := by
          cases more with
          | nil =>
            rw [(List.cons.inj split).2]
            exact List.Subset.refl _
          | cons unit more =>
            rw [← (List.cons.inj split).2]
            exact fun unit member => mem_append_right _ (mem_cons_of_mem _ member)
        exact absurd (flatten_eq_nil_iff.mpr fun unit member =>
          flatten_eq_nil_iff.mp empty _ (inside member)) some_
  | slice _ empty exact_ larger =>
    refine ⟨fun _ => ⟨_, _, rfl, .inr ⟨_, _, rfl, empty, larger.le⟩⟩, fun _ => ?_⟩
    rw [flatten_cons, empty, append_nil, exact_]

theorem ofNat_append_inj {left right : Nat} {rest other : JsString}
    (same : ofNat left ++ 0x20 :: rest = ofNat right ++ 0x20 :: other) : left = right := by
  have digits (value : Nat) (rest : JsString) :
      (ofNat value ++ 0x20 :: rest).takeWhile Regex.isDigit = ofNat value := by
    rw [takeWhile_append_of_pos fun unit => isDigit_ofNat]
    simp [Regex.isDigit]
  have taken := congrArg (List.takeWhile Regex.isDigit) same
  rw [digits, digits] at taken
  exact ofNat_injective taken

theorem toText_iff (done : Collected headCap tailCap chunks coll) :
    coll.toText = keptText headCap tailCap chunks.flatten ↔
      chunks.flatten.length ≤ headCap + tailCap ∨ TailMeets tailCap chunks := by
  obtain ⟨keeps, ⟨cap, rfl, rfl⟩, -, fits, holds⟩ := done
  by_cases short : chunks.flatten.length ≤ coll.headCap + coll.tailCap
  · have uncut : coll.truncated = false := by
      rw [keeps.truncated, cap]
      exact decide_eq_false (not_lt.mpr short)
    refine ⟨fun _ => .inl short, fun _ => ?_⟩
    rw [keptText, if_pos short, toText, uncut, flatten_append, keeps.head, keeps.whole short,
      take_append_drop]
    rfl
  · have long := Nat.lt_of_not_le short
    have cut : coll.truncated = true := by
      rw [keeps.truncated, cap]
      exact decide_eq_true long
    have filled : coll.headBytes = coll.headCap := by
      rw [keeps.headBytes, keeps.head, length_take]
      omega
    rw [← holds.full_iff fits long, keptText, if_neg short, toText, cut, keeps.total, filled,
      keeps.tailBytes, keeps.head]
    simp only [short, false_or, Bool.not_true, Bool.false_eq_true, if_false]
    have closes : js " bytes]\n" = 0x20 :: js "bytes]\n" := rfl
    constructor
    · intro same
      simp only [closes, append_assoc, cons_append, append_cancel_left_eq] at same
      have omitted := ofNat_append_inj same
      omega
    · intro full
      obtain ⟨before, split⟩ := keeps.tail.trans (drop_suffix _ _)
      have place : before.length = chunks.flatten.length - coll.tailCap := by
        rw [← split, length_append, full]
        omega
      have last : chunks.flatten.drop before.length = coll.tail.flatten := by
        rw [← split]
        exact drop_left
      rw [full, ← place, last]

/-- The class keeps what its comment says when the stream fits, or when the last bytes begin
with a chunk or are all of one. -/
theorem collect_text (headCap tailCap : Nat) (chunks : List (List UInt8)) :
    (collect headCap tailCap chunks).toText = keptText headCap tailCap chunks.flatten ↔
      chunks.flatten.length ≤ headCap + tailCap ∨ TailMeets tailCap chunks :=
  toText_iff (collected headCap tailCap chunks)

theorem stdout_collected (chunks : List (List UInt8)) :
    Collected (STDOUT_CAP / 2) (STDOUT_CAP / 2) chunks (collectStdout chunks) := by
  have halves : STDOUT_CAP = STDOUT_CAP / 2 + STDOUT_CAP / 2 := by decide
  have same : collectStdout chunks = collect (STDOUT_CAP / 2) (STDOUT_CAP / 2) chunks := by
    rw [collect, ← halves]
    rfl
  rw [same]
  exact collected _ _ _

/-- Three chunks of three MiB go past the cap of stdout, and one of them is all that is kept
behind the mark. -/
theorem collectStdout_short : ∃ chunks, (collectStdout chunks).toText ≠
    keptText (STDOUT_CAP / 2) (STDOUT_CAP / 2) chunks.flatten := by
  have size : STDOUT_CAP / 2 = 4 * 1024 * 1024 := by decide
  obtain ⟨chunk, three⟩ : ∃ chunk : List UInt8, chunk.length = 3 * 1024 * 1024 :=
    ⟨List.replicate _ 0x61, length_replicate⟩
  refine ⟨[chunk, chunk, chunk], fun same => ?_⟩
  rw [toText_iff (stdout_collected _), size] at same
  obtain short | ⟨front, back, split, meets⟩ := same
  · simp only [flatten_cons, flatten_nil, length_append, length_nil, three] at short
    omega
  · have each : ∀ held ∈ back, held = chunk := by
      intro held member
      have listed : held ∈ [chunk, chunk, chunk] := by
        rw [split]
        exact mem_append_right _ member
      simpa using listed
    obtain exact_ | ⟨held, rest, rfl, -, large⟩ := meets
    · rw [eq_replicate_of_mem each, length_flatten, map_replicate,
        three] at exact_
      simp at exact_
      omega
    · rw [each held mem_cons_self, three] at large
      omega

end CappedCollector

end CouncilKit.Auto
