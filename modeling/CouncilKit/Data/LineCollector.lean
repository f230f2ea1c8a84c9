import CouncilKit.Data.CutLines

namespace CouncilKit.Data

open JsString Utf8 List

universe u v

/-- What considering a line gives; what it throws leaves no output. -/
structure Considered (σ : Type u) (ε : Type v) where
  state : σ
  out : List ε := []
  thrown : Bool := false

structure LineCollector (σ : Type u) where
  buf : JsString := []
  decoder : Decoder := {}
  discarding : Bool := false
  state : σ

section

variable {σ : Type u} {ε : Type v} (lineCap : Nat) (consider : σ → JsString → Considered σ ε)

namespace LineCollector

/-- The loop over the complete lines of the buffer; `none` is what is thrown in it. -/
def considerLines (left : JsString) : List JsString → LineCollector σ → List ε →
    Option (List ε) × LineCollector σ
  | [], coll, out => (some out, { coll with buf := left })
  | line :: more, coll, out =>
    if coll.discarding then considerLines left more { coll with discarding := false } out
    else
      let found := consider coll.state line
      if found.thrown then (none, { coll with state := found.state, buf := unlines 0xA more left })
      else considerLines left more { coll with state := found.state } (out ++ found.out)

def feed (coll : LineCollector σ) (chunk : List UInt8) : List ε × LineCollector σ :=
  let written := coll.decoder.write chunk
  let lines := cut 0xA (coll.buf ++ written.1)
  match considerLines consider lines.2 lines.1 { coll with decoder := written.2 } [] with
  | (none, left) => ([], left)
  | (some out, left) =>
    (out, if lineCap < left.buf.length then { left with buf := [], discarding := true } else left)

def finish (coll : LineCollector σ) : Considered σ ε :=
  let rest := coll.buf ++ coll.decoder.finish
  if coll.discarding then { state := coll.state }
  else if 0 < rest.length ∧ rest.length ≤ lineCap then consider coll.state rest
  else { state := coll.state }

def feeds (coll : LineCollector σ) (chunks : List (List UInt8)) : List ε × LineCollector σ :=
  chunks.foldl (fun fed chunk =>
    let next := fed.2.feed lineCap consider chunk
    (fed.1 ++ next.1, next.2)) ([], coll)

def collect (start : σ) (chunks : List (List UInt8)) : List ε × Considered σ ε :=
  let fed := feeds lineCap consider { state := start } chunks
  (fed.1, fed.2.finish lineCap consider)

end LineCollector

def considerAll (start : σ) : List JsString → σ × List ε
  | [] => (start, [])
  | line :: rest =>
    let found := consider start line
    let later := considerAll found.state rest
    (later.1, found.out ++ later.2)

/-- A choice of lines: only those may be left out whose units are more than the cap
before they end. -/
inductive LeavesOut (lineCap : Nat) : List (List UInt8) → List (List UInt8) → Prop where
  | nil : LeavesOut lineCap [] []
  | keep {line : List UInt8} {lines kept : List (List UInt8)} (later : LeavesOut lineCap lines kept) :
      LeavesOut lineCap (line :: lines) (line :: kept)
  | drop {line : List UInt8} {lines kept : List (List UInt8)}
      (long : lineCap < (Decoder.write {} line).1.length) (later : LeavesOut lineCap lines kept) :
      LeavesOut lineCap (line :: lines) kept

def outcomeOf (start : σ) (lines : List (List UInt8)) (left : List UInt8) : List ε × Considered σ ε :=
  let seen := considerAll consider start (lines.map decode)
  let rest := decode left
  (seen.2,
    if 0 < rest.length ∧ rest.length ≤ lineCap then consider seen.1 rest else { state := seen.1 })

theorem considerAll_append (start : σ) (first second : List JsString) :
    considerAll consider start (first ++ second) =
      ((considerAll consider (considerAll consider start first).1 second).1,
        (considerAll consider start first).2 ++
          (considerAll consider (considerAll consider start first).1 second).2) := by
  induction first generalizing start with
  | nil => rfl
  | cons line rest ih =>
    rw [cons_append, considerAll, ih]
    dsimp only [considerAll]
    rw [append_assoc]

theorem LeavesOut.all (lines : List (List UInt8)) : LeavesOut lineCap lines lines := by
  induction lines with
  | nil => exact .nil
  | cons line rest ih => exact .keep ih

theorem LeavesOut.append {lineCap : Nat} {first second kept others : List (List UInt8)}
    (left : LeavesOut lineCap first kept) (right : LeavesOut lineCap second others) :
    LeavesOut lineCap (first ++ second) (kept ++ others) := by
  induction left with
  | nil => exact right
  | keep _ ih => exact .keep ih
  | drop long _ ih => exact .drop long ih

theorem LeavesOut.eq_of_short {lineCap : Nat} {lines kept : List (List UInt8)}
    (left : LeavesOut lineCap lines kept) (short : ∀ line ∈ lines, (decode line).length ≤ lineCap) :
    kept = lines := by
  induction left with
  | nil => rfl
  | keep _ ih => rw [ih (forall_mem_cons.mp short).2]
  | @drop line _ _ long _ _ =>
    have whole := (forall_mem_cons.mp short).1
    rw [decode, run_write, length_append] at whole
    omega

end

section

variable {σ : Type u} {ε : Type v} {lineCap : Nat} {consider : σ → JsString → Considered σ ε}

open LineCollector

def NeverThrows (consider : σ → JsString → Considered σ ε) (lines : List (List UInt8)) : Prop :=
  ∀ line ∈ lines, ∀ state, (consider state (decode line)).thrown = false

theorem considerLines_eq (left : JsString) {lines : List (List UInt8)} (calm : NeverThrows consider lines)
    {coll : LineCollector σ} (going : coll.discarding = false) (out : List ε) :
    considerLines consider left (lines.map decode) coll out =
      (some (out ++ (considerAll consider coll.state (lines.map decode)).2),
        { coll with
          buf := left
          state := (considerAll consider coll.state (lines.map decode)).1 }) := by
  induction lines generalizing coll out with
  | nil =>
    rw [map_nil, considerLines, considerAll, append_nil]
  | cons line rest ih =>
    obtain ⟨here, later⟩ := forall_mem_cons.mp calm
    obtain ⟨buf, decoder, discarding, state⟩ := coll
    cases going
    rw [map_cons, considerLines, considerAll]
    dsimp only
    rw [if_neg Bool.false_ne_true, here state, if_neg Bool.false_ne_true]
    have rest_ := @ih later ⟨buf, decoder, false, (consider state (decode line)).state⟩ rfl
      (out ++ (consider state (decode line)).out)
    rw [rest_, append_assoc]

/-- The collector behind a part of the stream: it has considered the lines it kept, and
holds the line that is not complete, or has dropped it. -/
structure Follows (lineCap : Nat) (consider : σ → JsString → Considered σ ε) (start : σ)
    (bytes : List UInt8) (fed : List ε × LineCollector σ) : Prop where
  decoder : fed.2.decoder = (Decoder.write {} bytes).2
  kept : ∃ kept, LeavesOut lineCap (cut 0xA bytes).1 kept ∧
    (fed.2.state, fed.1) = considerAll consider start (kept.map decode)
  holds : fed.2.discarding = false → fed.2.buf = (Decoder.write {} (cut 0xA bytes).2).1
  dropped : fed.2.discarding = true →
    0xA ∉ fed.2.buf ∧ lineCap < (Decoder.write {} (cut 0xA bytes).2).1.length

theorem follows_start (start : σ) : Follows lineCap consider start [] ([], { state := start }) := by
  constructor
  · rfl
  · exact ⟨[], .nil, rfl⟩
  · intro _
    rfl
  · intro absurd_
    cases absurd_

theorem length_write_le (front rest : List UInt8) :
    (Decoder.write {} front).1.length ≤ (Decoder.write {} (front ++ rest)).1.length := by
  rw [write_append, length_append]
  exact Nat.le_add_right _ _

theorem considerAll_kept {start : σ} {fed : List ε × LineCollector σ} {kept lines : List (List UInt8)}
    (same : (fed.2.state, fed.1) = considerAll consider start (kept.map decode)) :
    ((considerAll consider fed.2.state (lines.map decode)).1,
        fed.1 ++ (considerAll consider fed.2.state (lines.map decode)).2) =
      considerAll consider start ((kept ++ lines).map decode) := by
  rw [map_append, considerAll_append, ← same]

theorem follows_capped {start : σ} {bytes : List UInt8} {out : List ε} {coll : LineCollector σ}
    (decoder : coll.decoder = (Decoder.write {} bytes).2)
    (kept : ∃ kept, LeavesOut lineCap (cut 0xA bytes).1 kept ∧
      (coll.state, out) = considerAll consider start (kept.map decode))
    (going : coll.discarding = false) (holds : coll.buf = (Decoder.write {} (cut 0xA bytes).2).1) :
    Follows lineCap consider start bytes
      (out, if lineCap < coll.buf.length then { coll with buf := [], discarding := true } else coll) := by
  split
  · rename_i long
    rw [holds] at long
    constructor
    · exact decoder
    · exact kept
    · intro absurd_
      cases absurd_
    · intro _
      exact ⟨not_mem_nil, long⟩
  · constructor
    · exact decoder
    · exact kept
    · intro _
      exact holds
    · intro absurd_
      rw [going] at absurd_
      cases absurd_

variable {start : σ} {fed : List ε × LineCollector σ} {bytes : List UInt8}

section

variable (follows : Follows lineCap consider start bytes fed)

include follows

theorem follows_feed {chunk : List UInt8} (calm : NeverThrows consider (cut 0xA (bytes ++ chunk)).1) :
    Follows lineCap consider start (bytes ++ chunk)
      (fed.1 ++ (fed.2.feed lineCap consider chunk).1, (fed.2.feed lineCap consider chunk).2) := by
  obtain ⟨decoder, ⟨kept, left, same⟩, holds, dropped⟩ := follows
  have decoded := write_append {} bytes chunk
  have tailClean := (@clean_cut _ _ 0xA bytes).2
  have tailDecoder := (cut_write bytes).2
  have whole := @cut_append _ _ 0xA bytes chunk
  rw [whole] at calm
  have calmNew : NeverThrows consider (cut 0xA ((cut 0xA bytes).2 ++ chunk)).1 := fun line member =>
    calm line (mem_append_right _ member)
  have pieces := (cut_write ((cut 0xA bytes).2 ++ chunk)).1
  rw [write_append, ← tailDecoder, ← decoder] at pieces
  have nextDecoder : (fed.2.decoder.write chunk).2 = (Decoder.write {} (bytes ++ chunk)).2 := by
    rw [decoded, decoder]
  obtain ⟨out, ⟨buf, decoder_, discarding, state⟩⟩ := fed
  dsimp only at decoder same holds dropped pieces nextDecoder
  unfold feed
  dsimp only
  cases discarding with
  | false =>
    rw [holds rfl, pieces]
    dsimp only
    rw [considerLines_eq _ calmNew rfl]
    dsimp only
    rw [nil_append]
    refine @follows_capped _ _ lineCap consider start (bytes ++ chunk) _
      ⟨_, (decoder_.write chunk).2, false, _⟩ nextDecoder ?_ rfl ?_
    · refine ⟨kept ++ (cut 0xA ((cut 0xA bytes).2 ++ chunk)).1, ?_, ?_⟩
      · rw [whole]
        exact left.append (.all lineCap _)
      · exact @considerAll_kept _ _ consider start (out, ⟨buf, decoder_, false, state⟩) kept _ same
    · rw [whole]
  | true =>
    obtain ⟨bufClean, long⟩ := dropped rfl
    rw [cut_front (write_clean sound_fresh tailClean)] at pieces
    rw [cut_front bufClean]
    rw [cut_front tailClean] at pieces calmNew whole
    generalize cut 0xA (decoder_.write chunk).1 = units at pieces ⊢
    generalize cut 0xA chunk = more at pieces calmNew whole
    obtain ⟨unitLines, unitLeft⟩ := units
    obtain ⟨byteLines, byteLeft⟩ := more
    cases byteLines with
    | nil =>
      -- the line that is dropped goes on
      cases unitLines with
      | cons first rest => cases pieces
      | nil =>
        dsimp only [hold] at whole pieces ⊢
        rw [considerLines]
        dsimp only
        have behind : lineCap < (Decoder.write {} (cut 0xA (bytes ++ chunk)).2).1.length := by
          rw [whole]
          exact lt_of_lt_of_le long (length_write_le _ _)
        have still : ∃ kept, LeavesOut lineCap (cut 0xA (bytes ++ chunk)).1 kept ∧
            (state, out ++ []) = considerAll consider start (kept.map decode) := by
          rw [whole, append_nil, append_nil]
          exact ⟨kept, left, same⟩
        have unitsClean : 0xA ∉ buf ++ unitLeft := by
          have lastClean := (@clean_cut _ _ 0xA (bytes ++ chunk)).2
          rw [whole] at lastClean
          have wholeClean := write_clean sound_fresh lastClean
          have goes := congrArg Prod.snd pieces
          dsimp only at goes wholeClean
          rw [← goes] at wholeClean
          intro member
          rcases mem_append.mp member with held | fresh
          · exact bufClean held
          · exact wholeClean (mem_append_right _ fresh)
        split
        · constructor
          · exact nextDecoder
          · exact still
          · intro absurd_
            cases absurd_
          · intro _
            exact ⟨not_mem_nil, behind⟩
        · constructor
          · exact nextDecoder
          · exact still
          · intro absurd_
            cases absurd_
          · intro _
            exact ⟨unitsClean, behind⟩
    | cons first rest =>
      cases unitLines with
      | nil => cases pieces
      | cons firstUnits restUnits =>
        dsimp only [hold] at whole pieces calmNew ⊢
        rw [map_cons] at pieces
        have sameLines := (List.cons.inj (congrArg Prod.fst pieces)).2
        have sameLeft : unitLeft = (Decoder.write {} byteLeft).1 := congrArg Prod.snd pieces
        have calmRest := (forall_mem_cons.mp calmNew).2
        rw [considerLines]
        dsimp only
        rw [if_pos rfl, sameLines, considerLines_eq _ calmRest rfl]
        dsimp only
        rw [nil_append, sameLeft]
        refine @follows_capped _ _ lineCap consider start (bytes ++ chunk) _
          ⟨_, (decoder_.write chunk).2, false, _⟩ nextDecoder ?_ rfl ?_
        · refine ⟨kept ++ rest, ?_, ?_⟩
          · rw [whole]
            exact left.append (.drop (lt_of_lt_of_le long (length_write_le _ _)) (.all lineCap _))
          · exact @considerAll_kept _ _ consider start (out, ⟨buf, decoder_, true, state⟩) kept _ same
        · rw [whole]

theorem follows_feeds {chunks : List (List UInt8)}
    (calm : NeverThrows consider (cut 0xA (bytes ++ chunks.flatten)).1) :
    Follows lineCap consider start (bytes ++ chunks.flatten)
      (chunks.foldl (fun fed chunk =>
        let next := fed.2.feed lineCap consider chunk
        (fed.1 ++ next.1, next.2)) fed) := by
  induction chunks generalizing bytes fed with
  | nil =>
    rw [flatten_nil, append_nil]
    exact follows
  | cons chunk rest ih =>
    rw [flatten_cons, ← append_assoc] at calm ⊢
    have calmHere : NeverThrows consider (cut 0xA (bytes ++ chunk)).1 := by
      intro line member
      apply calm
      rw [cut_append]
      exact mem_append_left _ member
    exact ih (follows_feed follows calmHere) calm

theorem finish_follows : ∃ kept, LeavesOut lineCap (cut 0xA bytes).1 kept ∧
      (fed.1, fed.2.finish lineCap consider) = outcomeOf lineCap consider start kept (cut 0xA bytes).2 := by
  obtain ⟨decoder, ⟨kept, left, same⟩, holds, dropped⟩ := follows
  refine ⟨kept, left, ?_⟩
  obtain ⟨out, ⟨buf, decoder_, discarding, state⟩⟩ := fed
  dsimp only at decoder same holds dropped
  unfold outcomeOf
  rw [← same]
  dsimp only
  have rest : decode (cut 0xA bytes).2 =
      (Decoder.write {} (cut 0xA bytes).2).1 ++ (Decoder.write {} (cut 0xA bytes).2).2.finish := run_write _ _
  unfold finish
  dsimp only
  cases discarding with
  | false =>
    rw [holds rfl, decoder, (cut_write bytes).2, if_neg Bool.false_ne_true, ← rest]
  | true =>
    have long := (dropped rfl).2
    have capped : ¬ (0 < (decode (cut 0xA bytes).2).length ∧ (decode (cut 0xA bytes).2).length ≤ lineCap) := by
      rw [rest, length_append]
      omega
    rw [if_pos rfl, if_neg capped]

end

theorem collect_outcome (start : σ) {chunks : List (List UInt8)}
    (calm : NeverThrows consider (cut 0xA chunks.flatten).1) :
    ∃ kept, LeavesOut lineCap (cut 0xA chunks.flatten).1 kept ∧
      collect lineCap consider start chunks = outcomeOf lineCap consider start kept (cut 0xA chunks.flatten).2 :=
  finish_follows (follows_feeds (follows_start start) calm)

def fresh (state : σ) : LineCollector σ := { state }

theorem feed_fresh (state : σ) {chunk : List UInt8} (calm : NeverThrows consider (cut 0xA chunk).1) :
    (fresh state).feed lineCap consider chunk =
      ((considerAll consider state ((cut 0xA chunk).1.map decode)).2,
        if lineCap < (Decoder.write {} (cut 0xA chunk).2).1.length then
          { buf := []
            decoder := (Decoder.write {} (cut 0xA chunk).2).2
            discarding := true
            state := (considerAll consider state ((cut 0xA chunk).1.map decode)).1 }
        else
          { buf := (Decoder.write {} (cut 0xA chunk).2).1
            decoder := (Decoder.write {} (cut 0xA chunk).2).2
            state := (considerAll consider state ((cut 0xA chunk).1.map decode)).1 }) := by
  obtain ⟨lines, decoder⟩ := cut_write chunk
  unfold feed fresh
  dsimp only
  rw [nil_append, lines, decoder]
  dsimp only
  rw [considerLines_eq _ calm rfl]
  rfl

theorem finish_feed_fresh (state : σ) {left : List UInt8} (clean : 0xA ∉ left) :
    ((fresh state).feed lineCap consider left).1 = [] ∧
      ((fresh state).feed lineCap consider left).2.finish lineCap consider =
        (outcomeOf lineCap consider state [] left).2 := by
  have calm : NeverThrows consider (cut 0xA left).1 := by
    rw [cut_clean clean]
    intro line member
    cases member
  have rest : decode left = (Decoder.write {} left).1 ++ (Decoder.write {} left).2.finish := run_write _ _
  rw [feed_fresh state calm, cut_clean clean]
  refine ⟨rfl, ?_⟩
  unfold outcomeOf finish
  dsimp only
  split
  · rename_i long
    have capped : ¬ (0 < (decode left).length ∧ (decode left).length ≤ lineCap) := by
      rw [rest, length_append]
      omega
    rw [if_pos rfl, if_neg capped]
  · rw [if_neg Bool.false_ne_true, ← rest]

theorem collect_single (start : σ) {bytes : List UInt8} (calm : NeverThrows consider (cut 0xA bytes).1) :
    collect lineCap consider start [bytes] =
      outcomeOf lineCap consider start (cut 0xA bytes).1 (cut 0xA bytes).2 := by
  have rest : decode (cut 0xA bytes).2 =
      (Decoder.write {} (cut 0xA bytes).2).1 ++ (Decoder.write {} (cut 0xA bytes).2).2.finish := run_write _ _
  have fed := @feed_fresh _ _ lineCap consider start bytes calm
  unfold collect feeds
  rw [foldl_cons, foldl_nil]
  change (([] ++ ((fresh start).feed lineCap consider bytes).1),
    ((fresh start).feed lineCap consider bytes).2.finish lineCap consider) = _
  rw [fed, nil_append]
  unfold outcomeOf finish
  dsimp only
  split
  · rename_i long
    have capped : ¬ (0 < (decode (cut 0xA bytes).2).length ∧ (decode (cut 0xA bytes).2).length ≤ lineCap) := by
      rw [rest, length_append]
      omega
    rw [if_pos rfl, if_neg capped]
  · rw [if_neg Bool.false_ne_true, ← rest]

theorem feed_line (state : σ) {line : List UInt8} (clean : 0xA ∉ line)
    (calm : ∀ state, (consider state (decode line)).thrown = false) :
    (fresh state).feed lineCap consider (line ++ [0xA]) =
      ((consider state (decode line)).out, fresh (consider state (decode line)).state) := by
  have lines : cut 0xA (line ++ [0xA]) = ([line], []) := cut_line clean []
  have calmLine : NeverThrows consider (cut 0xA (line ++ [0xA])).1 := by
    rw [lines]
    exact forall_mem_singleton.mpr calm
  rw [feed_fresh state calmLine, lines]
  have short : ¬ lineCap < (Decoder.write {} []).1.length := Nat.not_lt_zero _
  dsimp only
  rw [if_neg short, map_cons, map_nil, considerAll, considerAll]
  dsimp only
  rw [append_nil]
  rfl

theorem feed_dropped (state : σ) {line : List UInt8} (clean : 0xA ∉ line)
    (long : lineCap < (Decoder.write {} line).1.length) :
    (fresh state).feed lineCap consider line =
        (([] : List ε), ⟨[], (Decoder.write {} line).2, true, state⟩) ∧
      (LineCollector.feed lineCap consider ⟨[], (Decoder.write {} line).2, true, state⟩ [0xA]) =
        (([] : List ε), fresh state) := by
  constructor
  · have calm : NeverThrows consider (cut 0xA line).1 := by
      rw [cut_clean clean]
      intro line member
      cases member
    rw [feed_fresh state calm, cut_clean clean]
    dsimp only
    rw [if_pos long]
    rfl
  · have sound := sound_write sound_fresh line
    have written : (Decoder.write {} line).2.write [0xA] = ((Decoder.write {} line).2.finish ++ [0xA], {}) := by
      rw [Decoder.write, push_line sound, Decoder.write, append_nil]
    unfold feed
    rw [written]
    dsimp only
    rw [nil_append, cut_line (finish_single _)]
    rfl

theorem exists_chunks {lines kept : List (List UInt8)} (left : LeavesOut lineCap lines kept)
    (calm : NeverThrows consider lines) (clean : ∀ line ∈ lines, 0xA ∉ line) {last : List UInt8}
    (lastClean : 0xA ∉ last) (state : σ) (out : List ε) :
    ∃ chunks : List (List UInt8), chunks.flatten = unlines 0xA lines last ∧
      let fed := chunks.foldl (fun fed chunk =>
        let next := fed.2.feed lineCap consider chunk
        (fed.1 ++ next.1, next.2)) (out, fresh state)
      fed.1 = out ++ (outcomeOf lineCap consider state kept last).1 ∧
        fed.2.finish lineCap consider = (outcomeOf lineCap consider state kept last).2 := by
  induction left generalizing state out with
  | nil =>
    obtain ⟨none_, finish⟩ := @finish_feed_fresh _ _ lineCap consider state last lastClean
    refine ⟨[last], ?_, ?_, ?_⟩
    · rw [flatten_singleton]
      rfl
    · change out ++ ((fresh state).feed lineCap consider last).1 = _
      rw [none_]
      rfl
    · exact finish
  | @keep line lines kept _ ih =>
    rw [forall_mem_cons] at clean
    obtain ⟨calmHere, calmLater⟩ := forall_mem_cons.mp calm
    obtain ⟨chunks, whole, outs, ends⟩ := ih calmLater clean.2 (consider state (decode line)).state
      (out ++ (consider state (decode line)).out)
    refine ⟨(line ++ [0xA]) :: chunks, ?_, ?_⟩
    · rw [flatten_cons, whole, append_assoc]
      rfl
    · rw [foldl_cons, feed_line state clean.1 calmHere]
      refine ⟨?_, ?_⟩
      · rw [outs, append_assoc]
        rfl
      · exact ends
  | @drop line lines kept long _ ih =>
    rw [forall_mem_cons] at clean
    obtain ⟨_, calmLater⟩ := forall_mem_cons.mp calm
    obtain ⟨chunks, whole, outs, ends⟩ := ih calmLater clean.2 state out
    obtain ⟨first, second⟩ := @feed_dropped _ _ lineCap consider state line clean.1 long
    refine ⟨line :: [0xA] :: chunks, ?_, ?_⟩
    · rw [flatten_cons, flatten_cons, whole]
      rfl
    · rw [foldl_cons, foldl_cons, first]
      dsimp only
      rw [second, append_nil, append_nil]
      exact ⟨outs, ends⟩

theorem collect_alike {ρ : Type*} (result : List ε × Considered σ ε → ρ) (start : σ) {bytes : List UInt8}
    (calm : NeverThrows consider (cut 0xA bytes).1) :
    (∀ chunks : List (List UInt8), chunks.flatten = bytes →
      result (collect lineCap consider start chunks) = result (collect lineCap consider start [bytes])) ↔
    ∀ kept, LeavesOut lineCap (cut 0xA bytes).1 kept →
      result (outcomeOf lineCap consider start kept (cut 0xA bytes).2) =
        result (outcomeOf lineCap consider start (cut 0xA bytes).1 (cut 0xA bytes).2) := by
  rw [collect_single start calm]
  obtain ⟨clean, last⟩ := @clean_cut _ _ 0xA bytes
  constructor
  · intro alike kept left
    obtain ⟨chunks, whole, outs, ends⟩ := @exists_chunks _ _ lineCap consider _ _ left calm clean _ last start []
    rw [← alike chunks (whole.trans (unlines_cut bytes))]
    congr 1
    exact Prod.ext outs.symm ends.symm
  · intro alike chunks whole
    subst whole
    obtain ⟨kept, left, same⟩ := @collect_outcome _ _ lineCap consider start chunks calm
    rw [same]
    exact alike kept left

end

end CouncilKit.Data
