import CouncilKit.Auto.KeptTail
import CouncilKit.Data.EmbeddedObject
import CouncilKit.Data.JsonWrite

namespace CouncilKit.Auto

open Data Json JsString Utf8 CappedCollector FinalEventLineCollector
open List hiding splitOn

def pick (driverId : StreamDriver) (last : Option JsString) (line : JsString) : Option (Option JsString) :=
  (extractLine driverId line).map fun text => if text.isSome then some line else last

def lastUsable (driverId : StreamDriver) (lines : List JsString) : Option (Option JsString) :=
  lines.foldlM (pick driverId) none

section
variable {driverId : StreamDriver} {line other : JsString}

theorem extractLine_parse (same : parse line = parse other) :
    extractLine driverId line = extractLine driverId other := by
  have object : parseJsonLine line = parseJsonLine other := by
    rw [parseJsonLine, jsonParse, same]
    rfl
  cases driverId with
  | claude | cursor => simp only [extractLine, extractClaudeLine, object]
  | kimi => simp only [extractLine, extractKimiLine, object]
  | grok => simp only [extractLine, extractGrokLine, object]

theorem extractLine_object (object : parseJsonLine line = none) :
    extractLine driverId line = some none := by
  cases driverId with
  | claude | cursor => simp only [extractLine, extractClaudeLine, object]
  | kimi => simp only [extractLine, extractKimiLine, object]
  | grok => simp only [extractLine, extractGrokLine, object]

theorem extractLine_invalid (invalid : parse line = none) : extractLine driverId line = some none :=
  extractLine_object (by rw [parseJsonLine, jsonParse, invalid]; rfl)

theorem extractLine_event {obj : Json} (object : parseJsonLine line = some obj)
    (event : isFinalEvent driverId obj = false) :
    extractLine driverId line = some none := by
  cases driverId with
  | claude | cursor =>
    have type : isText (memberOf obj (js "type")) (js "result") = false := event
    simp [extractLine, extractClaudeLine, object, type]
  | kimi =>
    have role : isText (memberOf obj (js "role")) (js "assistant") = false := event
    simp [extractLine, extractKimiLine, object, role]
  | grok =>
    have type : isText (memberOf obj (js "type")) (js "result") = false := event
    simp [extractLine, extractGrokLine, object, type]

theorem pick_quiet {last : Option JsString} (quiet : extractLine driverId line = some none) :
    pick driverId last line = some last := by
  rw [pick, quiet]
  rfl

end

namespace FinalEventLineCollector

variable {coll : FinalEventLineCollector}

theorem consider_pick {line : JsString} (short : line.length ≤ coll.lineCap) :
    coll.consider line =
      (pick coll.driverId coll.lastLine line).map fun last => { coll with lastLine := last } := by
  unfold consider
  split
  · rename_i skipped
    have empty : line = [] := skipped.resolve_right (by omega)
    subst empty
    rw [pick_quiet (extractLine_invalid rfl)]
    rfl
  · split
    · rename_i object
      rw [pick_quiet (extractLine_object object)]
      rfl
    · rename_i obj object
      split
      · rw [pick]
        cases extractLine coll.driverId line with
        | none => rfl
        | some text => cases text <;> rfl
      · rename_i event
        rw [pick_quiet (extractLine_event object (Bool.eq_false_iff.mpr event))]
        rfl

theorem feedLines_pick {done : List JsString} {piece : JsString} (reading : coll.discarding = false)
    (short : ∀ line ∈ done, line.length ≤ coll.lineCap) :
    coll.feedLines (done ++ [piece]) = (done.foldlM (pick coll.driverId) coll.lastLine).map
      fun last => { coll with buf := piece, lastLine := last } := by
  induction done generalizing coll with
  | nil => rfl
  | cons line rest ih =>
    have step : coll.feedLines (line :: (rest ++ [piece])) =
        (coll.consider line).bind (feedLines · (rest ++ [piece])) := by
      cases more : rest ++ [piece] with
      | nil => simp at more
      | cons next others =>
        rw [feedLines, reading]
        · rfl
        · exact cons_ne_nil _ _
    rw [cons_append, step, consider_pick (short line mem_cons_self), foldlM_cons]
    cases pick coll.driverId coll.lastLine line with
    | none => rfl
    | some last =>
      exact @ih { coll with lastLine := last } reading
        fun other member => short other (mem_cons_of_mem _ member)

theorem watched (driverId : StreamDriver) (chunks : List (List UInt8)) (rest : List UInt8)
    (short : ∀ line ∈ splitOn 0xA (decode (chunks.flatten ++ rest)), line.length ≤ FINAL_EVENT_LINE_CAP) :
    ∃ done piece, splitOn 0xA (Decoder.write {} chunks.flatten).1 = done ++ [piece] ∧
      chunks.foldlM feed ({ driverId } : FinalEventLineCollector) =
        (lastUsable driverId done).map fun last =>
          { driverId, buf := piece, decoder := (Decoder.write {} chunks.flatten).2, lastLine := last } := by
  induction chunks using List.reverseRecOn generalizing rest with
  | nil => exact ⟨[], [], rfl, rfl⟩
  | append_singleton chunks chunk ih =>
    have flat : (chunks ++ [chunk]).flatten = chunks.flatten ++ chunk := by simp
    rw [flat] at short ⊢
    obtain ⟨done, piece, lines, collected⟩ := ih (chunk ++ rest) (by rwa [← append_assoc])
    obtain ⟨more, left, split⟩ :=
      splitOn_last (piece ++ ((Decoder.write {} chunks.flatten).2.write chunk).1)
    have seen : splitOn 0xA (Decoder.write {} (chunks.flatten ++ chunk)).1 = (done ++ more) ++ [left] := by
      rw [write_append, splitOn_more _ lines, split, append_assoc]
    have whole : ∃ first others, splitOn 0xA (decode (chunks.flatten ++ chunk ++ rest)) =
        (done ++ more) ++ (left ++ first) :: others := by
      obtain ⟨first, others, _, joined⟩ := splitOn_joined (piece_single seen)
        ((Decoder.write {} (chunks.flatten ++ chunk)).2.run rest)
      exact ⟨first, others, by rw [decode, run_append, splitOn_more _ seen, joined]⟩
    obtain ⟨first, others, whole⟩ := whole
    rw [whole] at short
    refine ⟨done ++ more, left, seen, ?_⟩
    have between : ∀ line ∈ more, line.length ≤ FINAL_EVENT_LINE_CAP := fun line member =>
      short line (mem_append_left _ (mem_append_right _ member))
    have last : left.length ≤ FINAL_EVENT_LINE_CAP := by
      have bound := short (left ++ first) (mem_append_right _ mem_cons_self)
      rw [length_append] at bound
      omega
    rw [foldlM_append, collected, lastUsable, lastUsable, foldlM_append]
    cases done.foldlM (pick driverId) none with
    | none => rfl
    | some captured =>
      simp only [Option.map_some, Option.bind_eq_bind, Option.bind_some, foldlM_cons,
        foldlM_nil, feed, split, write_append]
      rw [feedLines_pick rfl between]
      cases more.foldlM (pick driverId) captured with
      | none => rfl
      | some captured =>
        simp only [Option.map_some, Option.bind_some, if_neg (Nat.not_lt.mpr last)]
        rfl

end FinalEventLineCollector

theorem collectLine_lastUsable (driverId : StreamDriver) (chunks : List (List UInt8))
    (short : ∀ line ∈ splitOn 0xA (decode chunks.flatten), line.length ≤ FINAL_EVENT_LINE_CAP) :
    collectLine driverId chunks =
      (lastUsable driverId (splitOn 0xA (decode chunks.flatten))).map fun last =>
        { driverId, lastLine := last } := by
  obtain ⟨done, piece, lines, collected⟩ :=
    watched driverId chunks [] (by rwa [append_nil])
  have whole : splitOn 0xA (decode chunks.flatten) =
      done ++ [piece ++ (Decoder.write {} chunks.flatten).2.finish] := by
    rw [decode, run_write, splitOn_more _ lines, splitOn_single]
    exact fun member => (mem_append.mp member).elim (piece_single lines) (finish_single _)
  have last := short _ (by rw [whole]; exact mem_append_right _ mem_cons_self)
  rw [collectLine, collected, whole, lastUsable, lastUsable, foldlM_append]
  cases done.foldlM (pick driverId) none with
  | none => rfl
  | some captured =>
    simp only [Option.map_some, Option.bind_eq_bind, Option.bind_some, foldlM_cons, foldlM_nil, finish]
    split
    · rename_i reading
      cases reading
    · split
      · rw [consider_pick last]
        cases pick driverId captured (piece ++ (Decoder.write {} chunks.flatten).2.finish) <;> rfl
      · rename_i empty
        have none_ : piece ++ (Decoder.write {} chunks.flatten).2.finish = [] := by
          cases text : piece ++ (Decoder.write {} chunks.flatten).2.finish with
          | nil => rfl
          | cons unit more =>
            rw [text] at empty last
            exact absurd ⟨Nat.succ_pos _, last⟩ empty
        rw [none_, pick_quiet (extractLine_invalid rfl)]
        rfl

def lastOf (texts : List (Option (Option JsString))) : Option (Option JsString) :=
  texts.foldlM (fun last text => text.map (·.or last)) none

theorem lastText_lastOf (extract : JsString → Option (Option JsString)) (lines : List JsString) :
    lastText extract lines = lastOf (lines.map extract) := by
  rw [lastText, lastOf, foldlM_map]
  congr 1
  funext last line
  cases extract line <;> rfl

theorem lastOf_filter (texts : List (Option (Option JsString))) :
    lastOf (texts.filter (· ≠ some none)) = lastOf texts := by
  suffices every : ∀ start, (texts.filter (· ≠ some none)).foldlM
      (fun last text => text.map (·.or last)) start =
      texts.foldlM (fun (last : Option JsString) text => text.map (·.or last)) start from every none
  induction texts with
  | nil => exact fun _ => rfl
  | cons text rest ih =>
    intro start
    by_cases quiet : text = some none
    · rw [filter_cons_of_neg (by simpa using quiet), quiet, foldlM_cons]
      exact ih start
    · rw [filter_cons_of_pos (by simpa using quiet), foldlM_cons, foldlM_cons]
      cases text with
      | none => rfl
      | some text => exact ih _

def loud (driverId : StreamDriver) (lines : List JsString) : List (Option (Option JsString)) :=
  (lines.map (extractLine driverId)).filter (· ≠ some none)

section
variable {driverId : StreamDriver}

variable {lines : List JsString}

theorem lastText_loud {others : List JsString} (same : loud driverId lines = loud driverId others) :
    lastText (extractLine driverId) lines = lastText (extractLine driverId) others := by
  rw [lastText_lastOf, lastText_lastOf, ← lastOf_filter, ← lastOf_filter (others.map _)]
  exact congrArg lastOf same

theorem loud_append (lines others : List JsString) :
    loud driverId (lines ++ others) = loud driverId lines ++ loud driverId others := by
  rw [loud, map_append, filter_append]
  rfl

theorem loud_quiet (quiet : ∀ line ∈ lines, extractLine driverId line = some none) :
    loud driverId lines = [] := by
  apply filter_eq_nil_iff.mpr
  intro text member
  obtain ⟨line, among, rfl⟩ := mem_map.mp member
  simpa using quiet line among

theorem loud_single {line other : JsString} (same : parse line = parse other) :
    loud driverId [line] = loud driverId [other] := by
  rw [loud, loud, map_singleton, map_singleton, extractLine_parse same]

theorem parse_blank {text : JsString} (blank : ∀ unit ∈ text, isSpace unit = true) : parse text = none := by
  have read (fuel : Nat) : readValue fuel text = none := by
    cases fuel with
    | zero => rfl
    | succ fuel =>
      rw [readValue]
      split
      · rfl
      · rename_i unit rest skipped
        obtain ⟨spaces, same, _, _⟩ := skipSpace_cons skipped
        have space := blank unit (by rw [same]; simp)
        have other {mark : CodeUnit} (solid : isSpace mark = false) : unit ≠ mark := by
          intro same
          rw [same, solid] at space
          cases space
        have digit : Regex.isDigit unit = false := by
          cases found : Regex.isDigit unit with
          | false => rfl
          | true =>
            rw [not_isSpace_of_isDigit found] at space
            cases space
        simp only [@other 0x22 rfl, @other 0x5B rfl, @other 0x7B rfl, @other 0x74 rfl, @other 0x66 rfl,
          @other 0x6E rfl, @other 0x2D rfl, if_false, readNumber, readUnsigned, readDigits,
          takeWhile_cons, digit]
        rfl
  rw [parse, read]

theorem blank_of_trim {text : JsString} (empty : text.trim = []) : ∀ unit ∈ text, isSpace unit = true := by
  have ends : text.trimStart = [] := by
    cases start : text.trimStart with
    | nil => rfl
    | cons unit rest =>
      have white := dropWhile_eq_nil_iff.mp (reverse_eq_nil_iff.mp empty) unit
        (by rw [start]; simp)
      have solid := List.head?_dropWhile_not isSpace text
      rw [trimStart] at start
      rw [start] at solid
      simp only [List.head?_cons] at solid
      rw [white] at solid
      cases solid
  exact dropWhile_eq_nil_iff.mp ends

theorem loud_filter (lines : List JsString) :
    loud driverId (lines.filter fun line => line.trim ≠ []) = loud driverId lines := by
  induction lines with
  | nil => rfl
  | cons line rest ih =>
    have split : loud driverId (line :: rest) = loud driverId [line] ++ loud driverId rest :=
      loud_append [line] rest
    by_cases blank : line.trim = []
    · have quiet : loud driverId [line] = [] := loud_quiet fun other member => by
        rw [mem_singleton.mp member]
        exact extractLine_invalid (parse_blank (blank_of_trim blank))
      rw [filter_cons_of_neg (by simpa using blank), ih, split, quiet, nil_append]
    · rw [filter_cons_of_pos (by simpa using blank), split, ← ih]
      exact loud_append [line] _

theorem lastText_splitLines (text : JsString) :
    lastText (extractLine driverId) (splitLines text) =
      lastText (extractLine driverId) (splitOn 0xA text) := lastText_loud (loud_filter _)

theorem extractStream_lines (other : driverId ≠ .grok) (text : JsString) :
    extractStream driverId text = lastText (extractLine driverId) (splitOn 0xA text) := by
  rw [← lastText_splitLines]
  cases driverId with
  | claude | kimi | cursor => rfl
  | grok => exact absurd rfl other

def textAt (driverId : StreamDriver) : Option JsString → Option (Option JsString)
  | none => some none
  | some line => extractLine driverId line

theorem lastText_lastUsable (lines : List JsString) :
    lastText (extractLine driverId) lines = (lastUsable driverId lines).bind (textAt driverId) := by
  suffices every : ∀ last text, textAt driverId last = some text →
      (lines.map (extractLine driverId)).foldlM (fun last text => text.map (·.or last)) text =
        (lines.foldlM (pick driverId) last).bind (textAt driverId) by
    rw [lastText_lastOf]
    exact every none none rfl
  induction lines with
  | nil =>
    intro last text here
    exact here.symm
  | cons line rest ih =>
    intro last text here
    rw [map_cons, foldlM_cons, foldlM_cons, pick]
    cases found : extractLine driverId line with
    | none => rfl
    | some next =>
      cases next with
      | none => exact ih last text here
      | some next => exact ih (some line) (some next) found

theorem lastUsable_usable {line : JsString} (captured : lastUsable driverId lines = some (some line)) :
    ∃ text, extractLine driverId line = some (some text) ∧ line ∈ lines := by
  suffices every : ∀ last, lines.foldlM (pick driverId) last = some (some line) →
      last = some line ∨ ∃ text, extractLine driverId line = some (some text) ∧ line ∈ lines by
    exact (every none captured).resolve_left fun same => by cases same
  clear captured
  induction lines with
  | nil =>
    intro last same
    exact .inl (Option.some.inj same)
  | cons first rest ih =>
    intro last folds
    rw [foldlM_cons] at folds
    obtain ⟨next, picked, later⟩ := Option.bind_eq_some_iff.mp folds
    obtain same | ⟨text, usable, among⟩ := ih next later
    · obtain ⟨text, found, same'⟩ := Option.map_eq_some_iff.mp picked
      cases text with
      | none => exact .inl (by rw [← same, ← same']; rfl)
      | some text =>
        have head : first = line := Option.some.inj (same'.trans same)
        exact .inr ⟨text, head ▸ found, by rw [head]; exact mem_cons_self⟩
    · exact .inr ⟨text, usable, mem_cons_of_mem _ among⟩

theorem captured_stays {start last : Option JsString}
    (folds : lines.foldlM (pick driverId) start = some last) (some_ : start.isSome) : last.isSome := by
  induction lines generalizing start with
  | nil =>
    cases folds
    exact some_
  | cons first rest ih =>
    rw [foldlM_cons] at folds
    obtain ⟨next, picked, later⟩ := Option.bind_eq_some_iff.mp folds
    obtain ⟨text, found, same⟩ := Option.map_eq_some_iff.mp picked
    apply ih later
    rw [← same]
    split
    · rfl
    · exact some_

theorem quiet_of_lastUsable (nothing : lastUsable driverId lines = some none) :
    ∀ line ∈ lines, extractLine driverId line = some none := by
  rw [lastUsable] at nothing
  induction lines with
  | nil => exact forall_mem_nil _
  | cons first rest ih =>
    rw [foldlM_cons] at nothing
    obtain ⟨next, picked, later⟩ := Option.bind_eq_some_iff.mp nothing
    obtain ⟨text, found, same⟩ := Option.map_eq_some_iff.mp picked
    cases text with
    | some text =>
      rw [← same] at later
      exact absurd (captured_stays later rfl) Bool.false_ne_true
    | none =>
      rw [← same] at later
      exact forall_mem_cons.mpr ⟨found, ih later⟩

theorem lastUsable_quiet (quiet : ∀ line ∈ lines, extractLine driverId line = some none) :
    lastUsable driverId lines = some none := by
  rw [lastUsable]
  induction lines with
  | nil => rfl
  | cons first rest ih =>
    rw [foldlM_cons, pick_quiet (quiet first mem_cons_self)]
    exact ih fun other member => quiet other (mem_cons_of_mem _ member)

end

/-- What `trim` takes off a text is white space of JSON too. -/
def PlainEnds (text : JsString) : Prop :=
  (∀ unit ∈ text.takeWhile isSpace, isJsonSpace unit = true) ∧
    ∀ unit ∈ text.reverse.takeWhile isSpace, isJsonSpace unit = true

variable {text : JsString}

theorem PlainEnds.split (plain : PlainEnds text) :
    ∃ before after, text = before ++ text.trim ++ after ∧
      (∀ unit ∈ before, isJsonSpace unit = true) ∧ ∀ unit ∈ after, isJsonSpace unit = true := by
  have start : text = text.takeWhile isSpace ++ text.trimStart :=
    takeWhile_append_dropWhile.symm
  have stop : text.trimStart = text.trim ++ (text.trimStart.reverse.takeWhile isSpace).reverse := by
    have ends : text.trimStart.reverse =
        text.trimStart.reverse.takeWhile isSpace ++ text.trimStart.reverse.dropWhile isSpace :=
      takeWhile_append_dropWhile.symm
    have turned := congrArg List.reverse ends
    rwa [reverse_reverse, reverse_append] at turned
  refine ⟨_, (text.trimStart.reverse.takeWhile isSpace).reverse, ?_, plain.1, ?_⟩
  · rw [append_assoc, ← stop]
    exact start
  · intro unit member
    apply plain.2
    have turned : text.reverse = text.trimStart.reverse ++ (text.takeWhile isSpace).reverse := by
      rw [← reverse_append, ← start]
    rw [turned, takeWhile_append]
    have among := mem_reverse.mp member
    split
    · exact mem_append_left _ ((takeWhile_sublist _).mem among)
    · exact among

section
variable {driverId : StreamDriver}

theorem loud_empty : loud driverId [[]] = [] := loud_quiet fun line member => by
  rw [mem_singleton.mp member]
  exact extractLine_invalid rfl

theorem loud_spaces_append {spaces : JsString} (blank : ∀ unit ∈ spaces, isJsonSpace unit = true)
    (text : JsString) :
    loud driverId (splitOn 0xA (spaces ++ text)) = loud driverId (splitOn 0xA text) := by
  induction spaces with
  | nil => rfl
  | cons unit rest ih =>
    have later := ih fun other member => blank other (mem_cons_of_mem _ member)
    rw [← later, cons_append, splitOn]
    split
    · exact (@loud_append driverId [[]] _).trans (by rw [loud_empty, nil_append])
    · cases lines : splitOn 0xA (rest ++ text) with
      | nil => exact absurd lines (splitOn_ne_nil 0xA)
      | cons first others =>
        have white : ∀ space ∈ [unit], isJsonSpace space = true :=
          forall_mem_singleton.mpr (blank unit mem_cons_self)
        have same := @loud_single driverId _ _ (parse_spaces_append white first)
        have here := @loud_append driverId [unit :: first] others
        have there := @loud_append driverId [first] others
        exact here.trans ((congrArg (· ++ _) same).trans there.symm)

theorem loud_append_spaces {spaces : JsString} (blank : ∀ unit ∈ spaces, isJsonSpace unit = true)
    (text : JsString) :
    loud driverId (splitOn 0xA (text ++ spaces)) = loud driverId (splitOn 0xA text) := by
  induction spaces using List.reverseRecOn with
  | nil => rw [append_nil]
  | append_singleton rest unit ih =>
    have later := ih fun other member => blank other (mem_append_left _ member)
    obtain ⟨done, piece, lines⟩ := splitOn_last (text ++ rest)
    have white : ∀ space ∈ [unit], isJsonSpace space = true :=
      forall_mem_singleton.mpr (blank unit (mem_append_right _ mem_cons_self))
    rw [← later, ← append_assoc, splitOn_more _ lines, lines, loud_append, loud_append]
    congr 1
    by_cases broken : unit = 0xA
    · rw [broken, splitOn_append, splitOn_single (piece_single lines), loud_append]
      rw [splitOn_single not_mem_nil, loud_empty, append_nil]
    · rw [splitOn_single, loud_single (parse_append_spaces white piece)]
      intro member
      obtain among | same := mem_append.mp member
      · exact piece_single lines among
      · exact broken (mem_singleton.mp same).symm

theorem loud_trim {text : JsString} (plain : PlainEnds text) :
    loud driverId (splitOn 0xA text.trim) = loud driverId (splitOn 0xA text) := by
  obtain ⟨before, after, same, front, back⟩ := plain.split
  have whole : loud driverId (splitOn 0xA text) =
      loud driverId (splitOn 0xA (before ++ text.trim ++ after)) := congrArg _ (congrArg _ same)
  rw [whole, loud_append_spaces back, loud_spaces_append front]

end

theorem extractStream_text {driverId : StreamDriver} (plain : driverId = .grok → PlainEnds text)
    (some_ : lastText (extractLine driverId) (splitOn 0xA text) ≠ some none) :
    extractStream driverId text = lastText (extractLine driverId) (splitOn 0xA text) := by
  by_cases grok : driverId = .grok
  · subst grok
    have lines := lastText_loud (@loud_trim .grok _ (plain rfl))
    have solid : text.trim ≠ [] := by
      intro empty
      rw [empty] at lines
      exact some_ (lines.symm.trans rfl)
    have found : lastText extractGrokLine (splitLines text.trim) =
        lastText extractGrokLine (splitOn 0xA text) :=
      (@lastText_splitLines .grok _).trans lines
    rw [extractStream, extractGrok, if_neg solid, found]
    cases last : lastText extractGrokLine (splitOn 0xA text) with
    | none => exact last.symm
    | some last' =>
      cases last' with
      | none => exact absurd last some_
      | some found => exact last.symm
  · exact extractStream_lines grok text

theorem toText_short {chunks : List (List UInt8)} (fits : chunks.flatten.length ≤ STDOUT_CAP) :
    (collectStdout chunks).toText = decode chunks.flatten := by
  have within : chunks.flatten.length ≤ STDOUT_CAP / 2 + STDOUT_CAP / 2 := fits
  rw [(toText_iff (stdout_collected chunks)).mpr (.inl within),
    keptText, if_pos within]

def cutLines (coll : CappedCollector) : List JsString :=
  [(splitOn 0xA (decode coll.head.flatten)).getLastD [], (splitOn 0xA (decode coll.tail.flatten)).headD []]

def truncationMark (omitted : Nat) : JsString := js "[truncated " ++ ofNat omitted ++ js " bytes]"

theorem parse_truncationMark (omitted : Nat) : parse (truncationMark omitted) = none := by
  have front : ∃ rest, truncationMark omitted = 0x5B :: 0x74 :: 0x72 :: 0x75 :: 0x6E :: rest :=
    ⟨_, rfl⟩
  obtain ⟨rest, same⟩ := front
  have read (fuel : Nat) : readValue fuel (truncationMark omitted) = none := by
    rw [same]
    cases fuel with
    | zero => rfl
    | succ fuel =>
      cases fuel with
      | zero => rfl
      | succ fuel => cases fuel <;> rfl
  rw [parse, read]

theorem not_mem_truncationMark {unit : CodeUnit} {omitted : Nat} (opens : unit ∉ js "[truncated ")
    (closes : unit ∉ js " bytes]") (digit : Regex.isDigit unit = false) : unit ∉ truncationMark omitted := by
  rw [truncationMark]
  intro member
  obtain (among | among) | among := mem_append.mp member |>.imp mem_append.mp id
  · exact opens among
  · rw [isDigit_ofNat among] at digit
    cases digit
  · exact closes among

theorem truncationMark_single (omitted : Nat) : 0xA ∉ truncationMark omitted :=
  not_mem_truncationMark (by decide) (by decide) rfl

variable {coll : CappedCollector}

theorem text_marked (head tail : JsString) (omitted : Nat) :
    head ++ js "\n[truncated " ++ ofNat omitted ++ js " bytes]\n" ++ tail =
      head ++ 0xA :: (truncationMark omitted ++ 0xA :: tail) := by
  have opens : js "\n[truncated " = 0xA :: js "[truncated " := rfl
  have closes : js " bytes]\n" = js " bytes]" ++ [0xA] := rfl
  simp only [opens, closes, truncationMark, append_assoc, cons_append, nil_append]

theorem toText_cut (cut : coll.truncated = true) :
    ∃ omitted, coll.toText = decode coll.head.flatten ++ 0xA ::
      (truncationMark omitted ++ 0xA :: decode coll.tail.flatten) := by
  refine ⟨coll.total - coll.headBytes - coll.tailBytes, ?_⟩
  rw [← text_marked, toText, cut]
  rfl

theorem toText_lines (cut : coll.truncated = true) :
    ∃ omitted, splitOn 0xA coll.toText = splitOn 0xA (decode coll.head.flatten) ++
      truncationMark omitted :: splitOn 0xA (decode coll.tail.flatten) := by
  obtain ⟨omitted, text⟩ := toText_cut cut
  refine ⟨omitted, ?_⟩
  rw [text, splitOn_append, splitOn_append, splitOn_single (truncationMark_single _)]
  rfl

theorem quiet_toText {driverId : StreamDriver} {bytes : List UInt8}
    (keeps : coll.Keeps bytes) (cut : coll.truncated = true)
    (quiet : ∀ line ∈ splitOn 0xA (decode bytes), extractLine driverId line = some none)
    (quietCut : ∀ line ∈ cutLines coll, extractLine driverId line = some none) :
    ∀ line ∈ splitOn 0xA coll.toText, extractLine driverId line = some none := by
  obtain ⟨omitted, lines⟩ := toText_lines cut
  intro line member
  rw [lines] at member
  obtain head | marked := mem_append.mp member
  · obtain ⟨done, piece, split⟩ := splitOn_last (decode coll.head.flatten)
    rw [split] at head
    obtain among | last := mem_append.mp head
    · apply quiet
      have whole : bytes = coll.head.flatten ++ bytes.drop coll.headCap := by
        rw [keeps.head, take_append_drop]
      rw [whole]
      exact lines_take _ _ line (by rw [split, dropLast_concat]; exact among)
    · apply quietCut
      rw [cutLines, split, getLastD_concat, ← mem_singleton.mp last]
      exact mem_cons_self
  · obtain mark | tail := mem_cons.mp marked
    · rw [mark]
      exact extractLine_invalid (parse_truncationMark omitted)
    · cases split : splitOn 0xA (decode coll.tail.flatten) with
      | nil => exact absurd split (splitOn_ne_nil 0xA)
      | cons first rest =>
        rw [split] at tail
        obtain head | among := mem_cons.mp tail
        · apply quietCut
          rw [cutLines, split, head]
          exact mem_cons_of_mem _ mem_cons_self
        · apply quiet
          obtain ⟨before, same⟩ := keeps.tail
          have whole : bytes = (bytes.take coll.headCap ++ before) ++ coll.tail.flatten := by
            rw [append_assoc, same, take_append_drop]
          rw [whole]
          exact lines_drop _ _ line (by rw [split]; exact among)

/-- For every stream of lines within the cap and every split of it into chunks. -/
theorem driver_output (driverId : StreamDriver) (chunks : List (List UInt8))
    (short : ∀ line ∈ splitOn 0xA (decode chunks.flatten), line.length ≤ FINAL_EVENT_LINE_CAP) :
    (collectLine driverId chunks).map (·.lastLine) =
        lastUsable driverId (splitOn 0xA (decode chunks.flatten)) ∧
      ((∃ line ∈ splitOn 0xA (decode chunks.flatten), extractLine driverId line ≠ some none) →
        (driverId = .grok → PlainEnds (decode chunks.flatten)) →
        runnerOutput driverId chunks = extractFinalOutput driverId (decode chunks.flatten) none) ∧
      ((∀ line ∈ splitOn 0xA (decode chunks.flatten), extractLine driverId line = some none) →
        chunks.flatten.length ≤ STDOUT_CAP ∨ (driverId ≠ .grok ∧
          ∀ line ∈ cutLines (collectStdout chunks), extractLine driverId line = some none) →
        runnerOutput driverId chunks = extractFinalOutput driverId (decode chunks.flatten) none) := by
  have collected := collectLine_lastUsable driverId chunks short
  refine ⟨?_, fun loud plain => ?_, fun quiet fits => ?_⟩
  · rw [collected, Option.map_map]
    exact Option.map_id'
  · have text := @lastText_lastUsable driverId (splitOn 0xA (decode chunks.flatten))
    have some_ : lastText (extractLine driverId) (splitOn 0xA (decode chunks.flatten)) ≠ some none := by
      rw [text]
      cases captured : lastUsable driverId (splitOn 0xA (decode chunks.flatten)) with
      | none => exact fun same => by cases same
      | some last =>
        cases last with
        | none =>
          obtain ⟨line, member, noisy⟩ := loud
          exact absurd (quiet_of_lastUsable captured line member) noisy
        | some line =>
          obtain ⟨found, usable, _⟩ := lastUsable_usable captured
          change extractLine driverId line ≠ some none
          rw [usable]
          exact fun same => by cases same
    have whole := extractStream_text plain some_
    rw [extractFinalOutput, whole, text, runnerOutput, collected]
    cases captured : lastUsable driverId (splitOn 0xA (decode chunks.flatten)) with
    | none => rfl
    | some last =>
      cases last with
      | none =>
        obtain ⟨line, member, noisy⟩ := loud
        exact absurd (quiet_of_lastUsable captured line member) noisy
      | some line =>
        obtain ⟨found, usable, _⟩ := lastUsable_usable captured
        simp [extractFinalOutput, textAt, usable]
  · have nothing := lastUsable_quiet quiet
    rw [runnerOutput, collected, nothing]
    change extractStream driverId _ = extractStream driverId _
    by_cases within : chunks.flatten.length ≤ STDOUT_CAP
    · rw [toText_short within]
    · obtain ⟨other, quietCut⟩ := fits.resolve_left within
      obtain ⟨keeps, ⟨cap, -, -⟩, -⟩ := stdout_collected chunks
      have cut : (collectStdout chunks).truncated = true := by
        rw [keeps.truncated, cap]
        exact decide_eq_true (by omega)
      rw [extractStream_lines other, extractStream_lines other, lastText_lastUsable, lastText_lastUsable,
        nothing, lastUsable_quiet (quiet_toText keeps cut quiet quietCut)]

theorem driver_output_split :
    (∀ line ∈ splitOn 0xA (decode [Utf8.ascii "a\n\x7b\"type\":\"result\",\"sub",
        Utf8.ascii "type\":\"success\",\"result\":\"ok\"\x7d"].flatten),
      line.length ≤ FINAL_EVENT_LINE_CAP) ∧
    runnerOutput .claude [Utf8.ascii "a\n\x7b\"type\":\"result\",\"sub",
      Utf8.ascii "type\":\"success\",\"result\":\"ok\"\x7d"] = some (some (js "ok")) := by
  have short : ∀ line ∈ splitOn 0xA (decode [Utf8.ascii "a\n\x7b\"type\":\"result\",\"sub",
      Utf8.ascii "type\":\"success\",\"result\":\"ok\"\x7d"].flatten),
      line.length ≤ FINAL_EVENT_LINE_CAP := by decide +kernel
  refine ⟨short, ((driver_output .claude _ short).2.1 ?_ fun grok => by cases grok).trans ?_⟩
  · exact ⟨_, mem_cons_of_mem _ mem_cons_self, by decide +kernel⟩
  · decide +kernel

theorem parse_noise {text : JsString} (starts : text.head? = some 0x78) : parse text = none := by
  cases text with
  | nil => cases starts
  | cons unit rest =>
    cases starts
    have read (fuel : Nat) : readValue fuel (0x78 :: rest) = none := by
      cases fuel <;> rfl
    rw [parse, read]

theorem extractGrok_noise {text : JsString} (starts : text.head? = some 0x78)
    (ends : text.getLast? = some 0x78) (quiet : ∀ line ∈ splitOn 0xA text, parse line = none) :
    extractGrok text = match parseLoneEmbeddedObject text with
      | some (.object members) => asText (memberOf (.object members) (js "text"))
      | _ => some none := by
  have trims : text.trim = text := by
    apply trim_of_ends
    · intro unit first
      rw [starts] at first
      cases first
      rfl
    · intro unit last
      rw [ends] at last
      cases last
      rfl
  have solid : text ≠ [] := by
    intro empty
    rw [empty] at starts
    cases starts
  have last : lastText extractGrokLine (splitLines text) = some none := by
    have lines := @lastText_splitLines .grok text
    have silent : lastUsable .grok (splitOn 0xA text) = some none :=
      lastUsable_quiet fun line member => extractLine_invalid (quiet line member)
    change lastText (extractLine .grok) (splitLines text) = some none
    rw [lines, lastText_lastUsable, silent]
    rfl
  have invalid := parse_noise starts
  simp only [extractGrok, jsonParseEmbedded, trims, solid, if_false, last, tryParse, invalid,
    Option.bind_eq_bind, Option.bind_none, Option.join_none, Option.or_none, Option.pure_def]
  rfl

def noise : List UInt8 := List.replicate (STDOUT_CAP / 2) 0x78

/-- An object that is no event, and noise on both sides of it that fills the cap. -/
def longObject : List UInt8 := noise ++ Utf8.ascii "\x7b\"text\":\"ok\"\x7d" ++ noise

theorem ascii_noise : ∀ byte ∈ noise, byte < 0x80 := by
  intro byte member
  rw [eq_of_mem_replicate member]
  decide

theorem decode_noise : decode noise = List.replicate (STDOUT_CAP / 2) 0x78 := by
  have letter : (0x78 : UInt8).toUInt16 = 0x78 := rfl
  rw [run_ascii ascii_noise, noise, map_replicate, letter]

theorem decode_longObject : decode longObject =
    decode noise ++ 0x7B :: (js "\"text\":\"ok\"" ++ [0x7D]) ++ decode noise := by
  rw [run_ascii ascii_noise, longObject, run_ascii, map_append, map_append]
  · generalize noise.map (·.toUInt16) = letters
    rfl
  · have plain : ∀ byte ∈ Utf8.ascii "\x7b\"text\":\"ok\"\x7d", byte < 0x80 :=
      List.all_iff_forall_prop.mp (by decide)
    intro byte member
    obtain (among | among) | among := mem_append.mp member |>.imp mem_append.mp id
    · exact ascii_noise byte among
    · exact plain byte among
    · exact ascii_noise byte among

theorem toText_longObject : ∃ omitted, (collectStdout [longObject]).toText =
    decode noise ++ 0xA :: (truncationMark omitted ++ 0xA :: decode noise) := by
  have half : noise.length = STDOUT_CAP / 2 := length_replicate
  have object : (Utf8.ascii "\x7b\"text\":\"ok\"\x7d").length = 13 := rfl
  have length : longObject.length = STDOUT_CAP / 2 + 13 + STDOUT_CAP / 2 := by
    rw [longObject, length_append, length_append, half, object]
  have front : longObject.take (STDOUT_CAP / 2) = noise := by
    rw [longObject, append_assoc]
    exact take_left' half
  have back : longObject.drop (longObject.length - STDOUT_CAP / 2) = noise := by
    apply drop_left'
    rw [length_append, half, object, length]
    omega
  have one : TailMeets (STDOUT_CAP / 2) [longObject] :=
    ⟨[], [longObject], rfl, .inr ⟨longObject, [], rfl, rfl, by omega⟩⟩
  have flat : [longObject].flatten = longObject := by simp
  refine ⟨longObject.length - STDOUT_CAP / 2 - STDOUT_CAP / 2, ?_⟩
  rw [(toText_iff (stdout_collected _)).mpr (.inr one), flat,
    keptText, if_neg (by omega), front, back, text_marked]

/-- A stream over the cap whose one object is no event. -/
theorem long_object_lost :
    ¬ ∀ driverId chunks,
      (∀ line ∈ splitOn 0xA (decode chunks.flatten), line.length ≤ FINAL_EVENT_LINE_CAP) →
        runnerOutput driverId chunks = extractFinalOutput driverId (decode chunks.flatten) none := by
  have flat : [longObject].flatten = longObject := by simp
  have letters : ∀ unit ∈ decode noise, unit = 0x78 := by
    rw [decode_noise]
    exact fun unit member => eq_of_mem_replicate member
  have positive : STDOUT_CAP / 2 ≠ 0 := by decide
  have first : (decode noise).head? = some 0x78 := by
    rw [decode_noise, List.head?_replicate, if_neg positive]
  have last : (decode noise).getLast? = some 0x78 := by
    rw [decode_noise, List.getLast?_replicate, if_neg positive]
  have plain : 0xA ∉ decode noise := fun member => absurd (letters _ member) (by decide)
  have starts (rest : JsString) : (decode noise ++ rest).head? = some 0x78 := by
    rw [List.head?_append, first]
    rfl
  have ends (front : JsString) : (front ++ decode noise).getLast? = some 0x78 := by
    rw [List.getLast?_append, last]
    rfl
  have lines : splitOn 0xA (decode longObject) = [decode longObject] := by
    apply splitOn_single
    rw [decode_longObject, append_assoc]
    intro member
    obtain before | member := mem_append.mp member
    · exact plain before
    · obtain inside | after := mem_append.mp member
      · revert inside
        decide
      · exact plain after
  have short : ∀ line ∈ splitOn 0xA (decode [longObject].flatten), line.length ≤ FINAL_EVENT_LINE_CAP := by
    intro line member
    have object : (js "\"text\":\"ok\"" ++ [0x7D]).length = 12 := rfl
    have room : STDOUT_CAP / 2 + (12 + 1) + STDOUT_CAP / 2 ≤ FINAL_EVENT_LINE_CAP := by decide
    rw [flat, lines, mem_singleton] at member
    rw [member, decode_longObject, length_append, length_append, length_cons, object, decode_noise,
      length_replicate]
    exact room
  intro every
  have same := every .grok [longObject] short
  have grok (stdout : JsString) : extractFinalOutput .grok stdout none = extractGrok stdout := rfl
  have whole : extractGrok (decode longObject) = some (some (js "ok")) := by
    have opens : (decode longObject).head? = some 0x78 := by
      rw [decode_longObject, append_assoc]
      exact starts _
    rw [extractGrok_noise opens (by rw [decode_longObject]; exact ends _)]
    · have lone : parseLoneEmbeddedObject (decode longObject) =
          some (.object [(js "text", .string (js "ok"))]) := by
        rw [decode_longObject]
        apply lone_of_noise
        · intro unit member
          rw [mem_append, or_self] at member
          rw [letters unit member]
          rfl
        · have written : (Json.object [(js "text", .string (js "ok"))]).stringify =
              0x7B :: (js "\"text\":\"ok\"" ++ [0x7D]) := by decide
          rw [← written]
          apply parse_stringify
          simp [Writable, WritableMembers]
      rw [lone]
      rfl
    · intro line member
      rw [lines] at member
      rw [mem_singleton.mp member]
      exact parse_noise opens
  have quiet : lastUsable .grok (splitOn 0xA (decode [longObject].flatten)) = some none := by
    apply lastUsable_quiet
    intro line member
    rw [flat, lines] at member
    rw [mem_singleton.mp member, decode_longObject, append_assoc]
    exact extractLine_invalid (parse_noise (starts _))
  obtain ⟨omitted, text⟩ := toText_longObject
  have cut : extractGrok (decode noise ++ 0xA :: (truncationMark omitted ++ 0xA :: decode noise)) =
      some none := by
    rw [extractGrok_noise (starts _)]
    · split
      · rename_i members lone
        -- no brace is left to close an object
        obtain ⟨_, stop, object, _⟩ := lone_object lone
        have member := mem_of_getElem? object.closes
        have apart : 0x7D ∉ decode noise := fun member => absurd (letters _ member) (by decide)
        simp only [mem_append, mem_cons, apart, false_or, or_false] at member
        obtain clash | among | clash := member
        · cases clash
        · exact absurd among (not_mem_truncationMark (by decide) (by decide) rfl)
        · cases clash
      · rfl
    · have cons : decode noise ++ 0xA :: (truncationMark omitted ++ 0xA :: decode noise) =
          (decode noise ++ 0xA :: (truncationMark omitted ++ [0xA])) ++ decode noise := by simp
      rw [cons]
      exact ends _
    · intro line member
      rw [splitOn_append, splitOn_append, splitOn_single plain, splitOn_single (truncationMark_single _)] at member
      simp only [mem_append, mem_singleton] at member
      obtain head | mark | tail := member
      · rw [head]
        exact parse_noise first
      · rw [mark]
        exact parse_truncationMark omitted
      · rw [tail]
        exact parse_noise first
  rw [flat, grok, whole, runnerOutput, collectLine_lastUsable .grok _ short, quiet, Option.map_some,
    Option.bind_eq_bind, Option.bind_some, grok, text, cut] at same
  cases same

end CouncilKit.Auto
