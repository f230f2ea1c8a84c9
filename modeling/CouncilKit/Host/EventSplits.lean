import CouncilKit.Host.EventReader

namespace CouncilKit.Host.EventReader

open Data Data.JsString List EventSchema

variable {ε : Type} [EventSchema ε]

/-- The blocks one after another, left behind the one that stops the reading. -/
def eager (reading : Reading ε) : List JsString → Reading ε
  | [] => reading
  | block :: rest =>
    let next := dispatchBlock reading block
    if next.stops then next else eager next rest

/-- The first of these blocks that is read as an event is refused, or there is none. -/
def NoEvent (ε : Type) [EventSchema ε] : List JsString → Prop
  | [] => True
  | block :: rest =>
    match blockData block with
    | none => NoEvent ε rest
    | some data => (parse data : Option ε) = none

def QuietBehind (ε : Type) [EventSchema ε] : List JsString → Prop
  | [] => True
  | block :: rest =>
    match blockData block with
    | none => QuietBehind ε rest
    | some data =>
      match (parse data : Option ε) with
      | none => True
      | some event => if isTerminalEvent event then NoEvent ε rest else QuietBehind ε rest

def streamBlocks (bytes : List UInt8) : List JsString :=
  (blocks 0xA (({} : TextDecoder).decode bytes).1).1

section

variable {reading : Reading ε}

theorem events_dispatchBlock (reading : Reading ε) (block : JsString) :
    reading.events <+: (dispatchBlock reading block).events := by
  unfold dispatchBlock
  split
  · exact prefix_rfl
  · split
    · exact prefix_rfl
    · split
      · exact prefix_rfl
      · exact prefix_append _ _

theorem events_fold (blocks : List JsString) (reading : Reading ε) :
    reading.events <+: (blocks.foldl dispatchBlock reading).events := by
  induction blocks generalizing reading with
  | nil => exact prefix_rfl
  | cons block rest ih => exact (events_dispatchBlock reading block).trans (ih _)

theorem events_eager (blocks : List JsString) (reading : Reading ε) :
    (eager reading blocks).events <+: (blocks.foldl dispatchBlock reading).events := by
  induction blocks generalizing reading with
  | nil => exact prefix_rfl
  | cons block rest ih =>
    rw [eager, foldl_cons]
    split
    · exact events_fold rest _
    · exact ih _

theorem eager_append (first second : List JsString) (stops : (first.foldl dispatchBlock reading).stops = true)
    (going : reading.stops = false) : eager reading (first ++ second) = eager reading first := by
  induction first generalizing reading with
  | nil =>
    rw [foldl_nil, going] at stops
    cases stops
  | cons block rest ih =>
    rw [cons_append, eager, eager]
    cases here : (dispatchBlock reading block).stops with
    | true => rfl
    | false => exact ih stops here

theorem fold_thrown (thrown : reading.thrown = true) (blocks : List JsString) :
    blocks.foldl dispatchBlock reading = reading := by
  induction blocks with
  | nil => rfl
  | cons block rest ih =>
    have same : dispatchBlock reading block = reading := by
      unfold dispatchBlock
      rw [if_pos thrown]
    rw [foldl_cons, same, ih]

theorem fold_noEvent (calm : reading.thrown = false) (blocks : List JsString) :
    (blocks.foldl dispatchBlock reading).events = reading.events ↔ NoEvent ε blocks := by
  induction blocks with
  | nil => exact ⟨fun _ => trivial, fun _ => rfl⟩
  | cons block rest ih =>
    rw [foldl_cons, NoEvent]
    cases data : blockData block with
    | none =>
      have same : dispatchBlock reading block = reading := by
        unfold dispatchBlock
        rw [calm, data]
        rfl
      rw [same]
      exact ih
    | some text =>
      cases read : (parse text : Option ε) with
      | none =>
        have refused : dispatchBlock reading block = { reading with thrown := true } := by
          unfold dispatchBlock
          rw [calm, data]
          dsimp only
          rw [read]
          rfl
        have stays := @fold_thrown _ _ { reading with thrown := true } rfl rest
        rw [refused, stays]
        exact ⟨fun _ => read, fun _ => rfl⟩
      | some event =>
        have handed : (dispatchBlock reading block).events = reading.events ++ [event] := by
          unfold dispatchBlock
          rw [calm, data]
          dsimp only
          rw [read]
          rfl
        have more := (events_fold rest (dispatchBlock reading block)).length_le
        rw [handed, length_append, length_singleton] at more
        constructor
        · intro same
          rw [same] at more
          omega
        · intro refused
          have none_ : (parse text : Option ε) = none := refused
          rw [read] at none_
          cases none_

theorem eager_eq_fold (going : reading.stops = false) (blocks : List JsString) :
    (eager reading blocks).events = (blocks.foldl dispatchBlock reading).events ↔ QuietBehind ε blocks := by
  obtain ⟨calm, open_⟩ : reading.thrown = false ∧ reading.terminal.isSome = false := Bool.or_eq_false_iff.mp going
  induction blocks generalizing reading with
  | nil => exact ⟨fun _ => trivial, fun _ => rfl⟩
  | cons block rest ih =>
    rw [eager, foldl_cons, QuietBehind]
    cases data : blockData block with
    | none =>
      have same : dispatchBlock reading block = reading := by
        unfold dispatchBlock
        rw [calm, data]
        rfl
      rw [same, going]
      exact ih going calm open_
    | some text =>
      dsimp only
      cases read : (parse text : Option ε) with
      | none =>
        have refused : dispatchBlock reading block = { reading with thrown := true } := by
          unfold dispatchBlock
          rw [calm, data]
          dsimp only
          rw [read]
          rfl
        have stays := @fold_thrown _ _ { reading with thrown := true } rfl rest
        rw [refused, stays]
        exact ⟨fun _ => trivial, fun _ => rfl⟩
      | some event =>
        have next : dispatchBlock reading block =
            { reading with
              events := reading.events ++ [event]
              lastSeq := max reading.lastSeq (seq event)
              terminal := if isTerminalEvent event then some event else reading.terminal } := by
          unfold dispatchBlock
          rw [calm, data]
          dsimp only
          rw [read]
          rfl
        cases ends : isTerminalEvent event with
        | true =>
          rw [ends] at next
          have stops : (dispatchBlock reading block).stops = true := by
            rw [next]
            exact Bool.or_true _
          have quiet : (dispatchBlock reading block).thrown = false := by
            rw [next]
            exact calm
          dsimp only
          rw [stops, if_pos rfl, ends, if_pos rfl, eq_comm]
          exact fold_noEvent quiet rest
        | false =>
          rw [ends] at next
          have goes : (dispatchBlock reading block).thrown = false ∧
              (dispatchBlock reading block).terminal.isSome = false := by
            rw [next]
            exact ⟨calm, open_⟩
          have stops : (dispatchBlock reading block).stops = false := Bool.or_eq_false_iff.mpr goes
          dsimp only
          rw [stops, if_neg Bool.false_ne_true, ends, if_neg Bool.false_ne_true]
          exact ih stops goes.1 goes.2

end

def unmarked (started : Bool) : JsString → JsString × Bool
  | [] => ([], started)
  | unit :: rest => (if !started && unit = 0xFEFF then rest else unit :: rest, true)

theorem decode_unmarked (text : TextDecoder) (chunk : List UInt8) :
    text.decode chunk = ((unmarked text.started (text.decoder.write chunk).1).1,
      ⟨(text.decoder.write chunk).2, (unmarked text.started (text.decoder.write chunk).1).2⟩) := by
  unfold TextDecoder.decode
  dsimp only
  cases (text.decoder.write chunk).1 with
  | nil => rfl
  | cons unit rest => rfl

theorem unmarked_append (started : Bool) (first second : JsString) :
    unmarked started (first ++ second) =
      ((unmarked started first).1 ++ (unmarked (unmarked started first).2 second).1,
        (unmarked (unmarked started first).2 second).2) := by
  cases first with
  | nil => rfl
  | cons unit rest =>
    have later : unmarked true second = (second, true) := by
      cases second with
      | nil => rfl
      | cons next more => rfl
    rw [cons_append, unmarked, unmarked]
    dsimp only
    rw [later]
    split
    · rfl
    · rfl

theorem decode_append (text : TextDecoder) (first second : List UInt8) :
    text.decode (first ++ second) =
      ((text.decode first).1 ++ ((text.decode first).2.decode second).1,
        ((text.decode first).2.decode second).2) := by
  rw [decode_unmarked, decode_unmarked text first, decode_unmarked, Utf8.write_append]
  dsimp only
  rw [unmarked_append]

theorem decode_byte {text : TextDecoder} (sound : text.decoder.Sound) (byte : UInt8) :
    (text.decode [byte]).2.decoder.Sound ∧
      (0xA ∉ (text.decode [byte]).1 ∨ ∃ front, (text.decode [byte]).1 = front ++ [0xA] ∧ 0xA ∉ front) := by
  obtain ⟨next, line, plain⟩ := Utf8.sound_push sound byte
  have written : text.decoder.write [byte] = ((text.decoder.push byte).1, (text.decoder.push byte).2) := by
    rw [Utf8.Decoder.write, Utf8.Decoder.write, append_nil]
  unfold TextDecoder.decode
  dsimp only
  rw [written]
  dsimp only
  by_cases ends : byte = 0xA
  · obtain ⟨before, pushed, clean⟩ := line ends
    rw [pushed] at next ⊢
    dsimp only at next ⊢
    cases before with
    | nil =>
      refine ⟨next, .inr ⟨[], ?_, not_mem_nil⟩⟩
      dsimp only [nil_append]
      split
      · rename_i mark
        exact absurd mark (by simp)
      · rfl
    | cons unit rest =>
      rw [mem_cons, not_or] at clean
      dsimp only [cons_append]
      split
      · exact ⟨next, .inr ⟨rest, rfl, clean.2⟩⟩
      · refine ⟨next, .inr ⟨unit :: rest, rfl, ?_⟩⟩
        exact fun member => (mem_cons.mp member).elim clean.1 clean.2
  · have clean := plain ends
    cases pushed : (text.decoder.push byte).1 with
    | nil => exact ⟨next, .inl not_mem_nil⟩
    | cons unit rest =>
      rw [pushed, mem_cons, not_or] at clean
      dsimp only
      split
      · exact ⟨next, .inl clean.2⟩
      · refine ⟨next, .inl ?_⟩
        exact fun member => (mem_cons.mp member).elim clean.1 clean.2

variable {α : Type}

theorem blocks_single [DecidableEq α] {mark : α} {text : List α} (none_ : (blocks mark text).1 = [])
    (unit : α) : (blocks mark (text ++ [unit])).1.length ≤ 1 ∧
      (unit ≠ mark → (blocks mark (text ++ [unit])).1 = []) := by
  induction text with
  | nil => exact ⟨Nat.zero_le _, fun _ => rfl⟩
  | cons first rest ih =>
    cases rest with
    | nil =>
      rw [cons_append, nil_append, blocks]
      split
      · rename_i double
        refine ⟨Nat.le_refl _, fun other => absurd double.2 other⟩
      · exact ⟨Nat.zero_le _, fun _ => rfl⟩
    | cons next more =>
      rw [blocks] at none_
      split at none_
      · cases none_
      · rename_i plain
        have inner : (blocks mark (next :: more)).1 = [] := by
          cases found : blocks mark (next :: more) with
          | mk lines left =>
            rw [found] at none_
            cases lines with
            | nil => rfl
            | cons line others => cases none_
        obtain ⟨short, clean⟩ := ih inner
        rw [cons_append] at short clean
        rw [cons_append, cons_append, blocks, if_neg plain]
        cases found : blocks mark (next :: (more ++ [unit])) with
        | mk lines left =>
          rw [found] at short clean
          cases lines with
          | nil => exact ⟨Nat.zero_le _, fun _ => rfl⟩
          | cons line others =>
            refine ⟨short, fun other => ?_⟩
            cases clean other

theorem blocks_clean [DecidableEq α] {mark : α} {text units : List α}
    (none_ : (blocks mark text).1 = []) (clean : mark ∉ units) : (blocks mark (text ++ units)).1 = [] := by
  induction units generalizing text with
  | nil =>
    rw [append_nil]
    exact none_
  | cons unit rest ih =>
    rw [mem_cons, not_or] at clean
    rw [← singleton_append, ← append_assoc]
    exact ih ((blocks_single none_ unit).2 fun same => clean.1 same.symm) clean.2

theorem blocks_left [DecidableEq α] {mark : α} (text : List α) :
    (blocks mark (blocks mark text).2).1 = [] := by
  have whole := @blocks_append _ _ mark text []
  rw [append_nil, append_nil] at whole
  have length := congrArg (fun found => found.1.length) whole
  dsimp only at length
  rw [length_append] at length
  apply eq_nil_of_length_eq_zero
  omega

section

variable {connection : Connection ε}

omit [EventSchema ε] in
theorem readChunk_single (rest_ : (blocks 0xA connection.buffer).1 = []) (sound : connection.text.decoder.Sound)
    (byte : UInt8) :
    (blocks 0xA (connection.buffer ++ (connection.text.decode [byte]).1)).1.length ≤ 1 := by
  obtain ⟨_, clean | ⟨front, same, clean⟩⟩ := decode_byte sound byte
  · rw [blocks_clean rest_ clean]
    exact Nat.zero_le _
  · rw [same, ← append_assoc]
    exact (blocks_single (blocks_clean rest_ clean) 0xA).1

theorem readChunks_bytes (bytes : List UInt8) (rest_ : (blocks 0xA connection.buffer).1 = [])
    (sound : connection.text.decoder.Sound) (going : connection.reading.stops = false) :
    (readChunks connection (bytes.map fun byte => [byte])).reading =
      eager connection.reading (blocks 0xA (connection.buffer ++ (connection.text.decode bytes).1)).1 := by
  induction bytes generalizing connection with
  | nil =>
    have none_ : (connection.text.decode []).1 = [] := rfl
    rw [none_, append_nil, rest_]
    rfl
  | cons byte rest ih =>
    have short := readChunk_single rest_ sound byte
    have parts := decode_append connection.text [byte] rest
    rw [singleton_append] at parts
    rw [map_cons, readChunks, parts]
    dsimp only
    rw [← append_assoc, blocks_append]
    have next : (readChunk connection [byte]).reading =
        (blocks 0xA (connection.buffer ++ (connection.text.decode [byte]).1)).1.foldl dispatchBlock
          connection.reading := rfl
    have later := @ih (readChunk connection [byte]) (blocks_left _) (decode_byte sound byte).1
    have text : (readChunk connection [byte]).text = (connection.text.decode [byte]).2 := rfl
    have buffer : (readChunk connection [byte]).buffer =
        (blocks 0xA (connection.buffer ++ (connection.text.decode [byte]).1)).2 := rfl
    rw [text, buffer] at later
    dsimp only
    cases found : (blocks 0xA (connection.buffer ++ (connection.text.decode [byte]).1)).1 with
    | nil =>
      rw [found, foldl_nil] at next
      rw [next] at later ⊢
      rw [going, if_neg Bool.false_ne_true, nil_append]
      exact later going
    | cons block others =>
      have only : others = [] := by
        rw [found, length_cons] at short
        apply eq_nil_of_length_eq_zero
        omega
      subst only
      rw [found, foldl_cons, foldl_nil] at next
      rw [cons_append, nil_append, eager, ← next]
      cases stops : (readChunk connection [byte]).reading.stops with
      | true => rfl
      | false =>
        rw [if_neg Bool.false_ne_true, if_neg Bool.false_ne_true]
        exact later stops

theorem readChunks_fold (chunks : List (List UInt8)) (rest_ : (blocks 0xA connection.buffer).1 = [])
    (going : connection.reading.stops = false) :
    ∃ first second,
      (blocks 0xA (connection.buffer ++ (connection.text.decode chunks.flatten).1)).1 = first ++ second ∧
        (readChunks connection chunks).reading = first.foldl dispatchBlock connection.reading ∧
        (second = [] ∨ (first.foldl dispatchBlock connection.reading).stops = true) := by
  induction chunks generalizing connection with
  | nil =>
    have none_ : (connection.text.decode ([] : List (List UInt8)).flatten).1 = [] := rfl
    refine ⟨[], [], ?_, rfl, .inl rfl⟩
    rw [none_, append_nil, rest_]
    rfl
  | cons chunk rest ih =>
    have parts := decode_append connection.text chunk rest.flatten
    rw [flatten_cons, parts]
    dsimp only
    rw [← append_assoc, blocks_append, readChunks]
    have next : (readChunk connection chunk).reading =
        (blocks 0xA (connection.buffer ++ (connection.text.decode chunk).1)).1.foldl dispatchBlock
          connection.reading := rfl
    cases stops : (readChunk connection chunk).reading.stops with
    | true => exact ⟨_, _, rfl, next, .inr (next ▸ stops)⟩
    | false =>
      obtain ⟨first, second, whole, read, ends⟩ := @ih (readChunk connection chunk) (blocks_left _) stops
      refine ⟨(blocks 0xA (connection.buffer ++ (connection.text.decode chunk).1)).1 ++ first, second,
        ?_, ?_, ?_⟩
      · rw [append_assoc, ← whole]
        rfl
      · rw [foldl_append, ← next]
        exact read
      · rw [foldl_append, ← next]
        exact ends

end

theorem readChunks_alike (bytes : List UInt8) (lastSeq : Nat) :
    (∀ chunks : List (List UInt8), chunks.flatten = bytes →
      (readChunks ({ reading := { lastSeq } } : Connection ε) chunks).reading.events =
        (readChunks ({ reading := { lastSeq } } : Connection ε) [bytes]).reading.events) ↔
    QuietBehind ε (streamBlocks bytes) := by
  have single : (readChunks ({ reading := { lastSeq } } : Connection ε) [bytes]).reading =
      (streamBlocks bytes).foldl dispatchBlock { lastSeq } := by
    have next : (readChunk ({ reading := { lastSeq } } : Connection ε) bytes).reading =
        (streamBlocks bytes).foldl dispatchBlock { lastSeq } := rfl
    rw [readChunks]
    split
    · exact next
    · exact next
  have going : ({ lastSeq } : Reading ε).stops = false := rfl
  rw [single, ← eager_eq_fold going]
  constructor
  · intro alike
    have slow := @readChunks_bytes _ _ { reading := ({ lastSeq } : Reading ε) } bytes rfl Utf8.sound_fresh going
    have whole : (bytes.map fun byte => [byte]).flatten = bytes := by
      rw [← flatMap_def, flatMap_singleton']
    rw [← alike _ whole, slow]
    rfl
  · intro same chunks whole
    obtain ⟨first, second, parts, read, ends⟩ :=
      @readChunks_fold _ _ { reading := ({ lastSeq } : Reading ε) } chunks rfl going
    rw [whole] at parts
    have all : streamBlocks bytes = first ++ second := parts
    rw [all] at same ⊢
    rw [read]
    rcases ends with none_ | stops
    · rw [none_, append_nil]
    · -- between the blocks read one by one and all of them
      have least := events_eager first ({ lastSeq } : Reading ε)
      rw [← eager_append first second stops going, same, foldl_append] at least
      have most := events_fold second (first.foldl dispatchBlock ({ lastSeq } : Reading ε))
      rw [foldl_append]
      exact most.eq_of_length (Nat.le_antisymm most.length_le least.length_le)

end CouncilKit.Host.EventReader
