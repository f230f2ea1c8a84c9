import CouncilKit.Review.ReportSections

namespace CouncilKit.Review

open Data Data.JsString Data.Regex SectionSplit
open List hiding splitOn

variable {line text body title header rest : JsString} {lines : List JsString}
  {fence : Option Fence} {inside : Bool} {entries : List (JsString × Bool)}
  {window : ConclusionWindow} {split : SectionSplit}

def isClosing (title : JsString) : Bool :=
  title = js "过程对比" || title = js "附录:各审查者交付物"

def synthesisSections (sections : List ReviewSection) : List ReviewSection :=
  sections.takeWhile fun part => !isClosing part.title

/-- The verdict of the last conclusion among the sections of the synthesis. -/
def sectionsVerdict [Unicode] (sections : List ReviewSection) : Option AggregatorVerdict :=
  ((synthesisSections sections).filter (·.title = js "结论")).getLast?.bind fun part =>
    conclusionSectionVerdict part.body

/-- The reader finds all lines of a line in the fence that it is in, and the same fence after it. -/
def fencedAlike (fence : Option Fence) (line : JsString) : Bool :=
  (fenceWalk fence (linesOf line)).all (·.2) && fenceAfter fence (linesOf line) == fenceAfterLine fence line

/-- No fence and no heading that the reader stops at or, outside a conclusion, starts at. -/
def unmarked (inside : Bool) (lines : List JsString) : Bool :=
  lines.all fun line => (fenceOpen line).isNone && !APPENDIX line && (inside || !CONCLUSION line)

def ungluedParts (line : JsString) : Bool :=
  (splitOn 0xA (unglue line)).all fun part => (fenceOpen part).isNone &&
    (sectionTitle part).all fun title => title ≠ js "结论" && !isClosing title

/-- Up to the heading that closes the synthesis the walks agree on the headings. -/
def headingsAgree : Option Fence → (inside : Bool) → List JsString → Bool
  | _, _, [] => true
  | fence, inside, line :: rest =>
    if fence.isSome || (fenceOpen line).isSome then
      fencedAlike fence line && headingsAgree (fenceAfterLine fence line) inside rest
    else if test GLUED_HEADING line then
      !inside && unmarked false (linesOf line) && ungluedParts line &&
        headingsAgree none false rest
    else
      match sectionTitle line with
      | none => unmarked inside (linesOf line) && headingsAgree none inside rest
      | some title =>
        if isClosing title then APPENDIX line
        else if title = js "结论" then CONCLUSION line && headingsAgree none true rest
        else headingsAgree none false rest

def plainHeader (header : JsString) : Bool :=
  (markdownLines header).all (fun entry => entry.2 || (!APPENDIX entry.1 && !CONCLUSION entry.1)) &&
    fenceAfter none (linesOf header) == none

def readsNone (text : JsString) : Bool :=
  ((markdownLines text).takeWhile fun entry => entry.2 || !APPENDIX entry.1).all fun entry =>
    entry.2 || !CONCLUSION entry.1

def splitsNone (body : JsString) : Bool :=
  (((markdownLinesLf body).filterMap fun entry =>
      if entry.2 then none else sectionTitle entry.1).takeWhile fun title => !isClosing title).all
    fun title => title ≠ js "结论"

/-- Both walks find no conclusion, or the header is plain and they agree on the headings after
the rule. -/
def HeadingsAgree (text : JsString) : Prop :=
  (readsNone text = true ∧ splitsNone (reportParts text).2 = true) ∨
    ∃ header rest, splitAtRule text = some (header, rest) ∧ plainHeader header = true ∧
      headingsAgree none false (splitOn 0xA rest) = true

theorem unopened_walk (unopened : lines.all (fun line => (fenceOpen line).isNone) = true) :
    fenceWalk none lines = lines.map (fun line => (line, false)) ∧ fenceAfter none lines = none := by
  induction lines with
  | nil => exact ⟨rfl, rfl⟩
  | cons line rest ih =>
    rw [all_cons, Bool.and_eq_true, Option.isNone_iff_eq_none] at unopened
    obtain ⟨walked, after⟩ := ih unopened.2
    have unfenced : fenceAfterLine none line = none := unopened.1
    rw [fenceWalk, unfenced, walked, fenceAfter_cons, unfenced, after, unopened.1]
    exact ⟨rfl, rfl⟩

theorem unmarked_walk (plain : unmarked inside lines = true) :
    fenceWalk none lines = lines.map (fun line => (line, false)) ∧ fenceAfter none lines = none := by
  apply unopened_walk
  rw [all_eq_true]
  intro line member
  have passes := all_eq_true.mp plain line member
  rw [Bool.and_eq_true, Bool.and_eq_true] at passes
  exact passes.1.1

theorem unmarked_apart (plain : unmarked inside lines = true) :
    ¬ ReachesAppendix (fenceWalk none lines) := by
  rw [(unmarked_walk plain).1]
  intro reached
  obtain ⟨entry, member, unfenced, stops⟩ := reached
  obtain ⟨line, among, rfl⟩ := mem_map.mp member
  have passes := all_eq_true.mp plain line among
  simp [stops] at passes

theorem read_passing (idle : window.collecting = false)
    (passing : entries.all (fun entry => entry.2 || (!APPENDIX entry.1 && !CONCLUSION entry.1)) =
      true) : window.read true entries = window ∧ ¬ ReachesAppendix entries := by
  induction entries with
  | nil =>
    refine ⟨rfl, ?_⟩
    intro reached
    obtain ⟨entry, member, -⟩ := reached
    cases member
  | cons entry rest ih =>
    obtain ⟨line, fenced⟩ := entry
    rw [all_cons, Bool.and_eq_true] at passing
    obtain ⟨first, others⟩ := passing
    obtain ⟨same, apart⟩ := ih others
    cases fenced with
    | true =>
      refine ⟨by rw [ConclusionWindow.read, if_pos rfl, same], ?_⟩
      intro reached
      obtain ⟨entry, member, unfenced, stops⟩ := reached
      cases member with
      | head => cases unfenced
      | tail _ later => exact apart ⟨entry, later, unfenced, stops⟩
    | false =>
      rw [Bool.false_or, Bool.and_eq_true, Bool.not_eq_true', Bool.not_eq_true'] at first
      constructor
      · simp only [ConclusionWindow.read, first.1, first.2, idle, Bool.false_eq_true, if_false,
          Bool.and_false]
        split
        · have stays : { window with collecting := false } = window := by rw [← idle]
          rw [stays, same]
        · exact same
      · intro reached
        obtain ⟨entry, member, unfenced, stops⟩ := reached
        cases member with
        | head =>
          rw [first.1] at stops
          cases stops
        | tail _ later => exact apart ⟨entry, later, unfenced, stops⟩

theorem read_unmarked (idle : window.collecting = false) (plain : unmarked false lines = true) :
    window.read true (fenceWalk none lines) = window := by
  rw [(unmarked_walk plain).1]
  refine (read_passing idle ?_).1
  rw [all_map, all_eq_true]
  intro line member
  have passes := all_eq_true.mp plain line member
  rw [Bool.and_eq_true, Bool.and_eq_true, Bool.false_or] at passes
  rw [Function.comp_apply, Bool.false_or, Bool.and_eq_true]
  exact ⟨passes.1.2, passes.2⟩

theorem read_allFenced (fenced : entries.all (·.2) = true) :
    window.read true entries = window ∧ ¬ ReachesAppendix entries := by
  induction entries with
  | nil =>
    refine ⟨rfl, ?_⟩
    intro reached
    obtain ⟨entry, member, -⟩ := reached
    cases member
  | cons entry rest ih =>
    obtain ⟨line, flag⟩ := entry
    rw [all_cons, Bool.and_eq_true] at fenced
    obtain ⟨same, apart⟩ := ih fenced.2
    have inFence : flag = true := fenced.1
    subst inFence
    refine ⟨by rw [ConclusionWindow.read, if_pos rfl, same], ?_⟩
    intro reached
    obtain ⟨entry, member, unfenced, stops⟩ := reached
    cases member with
    | head => cases unfenced
    | tail _ later => exact apart ⟨entry, later, unfenced, stops⟩

section Badge

variable [Unicode]

def conclusionVerdict (lines : List JsString) : Option AggregatorVerdict :=
  (ConclusionWindow.read true ⟨true, true, []⟩ (fenceWalk none lines)).verdict

theorem conclusionSectionVerdict_eq (body : JsString) :
    conclusionSectionVerdict body = conclusionVerdict (linesOf body) := by
  have heading : js "## 结论\n" ++ body = js "## 结论" ++ 0xA :: body := by
    have broken : js "## 结论\n" = js "## 结论" ++ [0xA] := by decide
    rw [broken, append_assoc, singleton_append]
  have open_ : (js "## 结论").getLast? ≠ some 0xD := by decide
  have alone : linesOf (js "## 结论") = [js "## 结论"] := by decide
  have unfenced : fenceOpen (js "## 结论") = none := by decide
  have passes : APPENDIX (js "## 结论") = false := by decide
  have concludes : CONCLUSION (js "## 结论") = true := by decide
  rw [conclusionSectionVerdict, extract_eq, heading, linesOf_append open_, alone, readReport,
    singleton_append, fenceWalk, fenceAfterLine, unfenced]
  simp only [ConclusionWindow.read, passes, concludes, Option.isSome_none, Bool.or_self,
    Bool.false_eq_true, if_false, Bool.and_false, if_true]
  rfl

theorem conclusionVerdict_concat : conclusionVerdict (lines ++ [[]]) = conclusionVerdict lines := read_blank

theorem verdict_lead {saw collecting : Bool} {kept : List JsString} :
    ConclusionWindow.verdict ⟨saw, collecting, [] :: kept⟩ =
      ConclusionWindow.verdict ⟨saw, collecting, kept⟩ := by
  cases saw with
  | false => rfl
  | true =>
    cases kept with
    | nil => rfl
    | cons line rest =>
      have dropped : dropNewlines (joinLines ([] :: line :: rest)) =
          dropNewlines (joinLines (line :: rest)) := by
        rw [joinLines_cons (cons_ne_nil line rest), nil_append]
        rfl
      change verdictOfBody (dropNewlines (joinLines ([] :: line :: rest))) =
        verdictOfBody (dropNewlines (joinLines (line :: rest)))
      rw [dropped]

theorem read_lead {saw collecting : Bool} {kept : List JsString} :
    (ConclusionWindow.read true ⟨saw, collecting, [] :: kept⟩ entries).verdict =
      (ConclusionWindow.read true ⟨saw, collecting, kept⟩ entries).verdict := by
  induction entries generalizing saw collecting kept with
  | nil => exact verdict_lead
  | cons entry rest ih =>
    obtain ⟨line, fenced⟩ := entry
    rw [ConclusionWindow.read, ConclusionWindow.read]
    split
    · exact ih
    · split
      · exact verdict_lead
      · split
        · rfl
        · split
          · exact ih
          · split
            · exact ih
            · exact ih

theorem conclusionVerdict_lead : conclusionVerdict ([] :: lines) = conclusionVerdict lines := by
  have passes : fenceOpen [] = none ∧ APPENDIX [] = false ∧ CONCLUSION [] = false ∧
      NEXT_HEADING [] = false := by decide
  unfold conclusionVerdict
  simp only [fenceWalk, fenceAfterLine, passes.1, passes.2.1, passes.2.2.1, passes.2.2.2,
    ConclusionWindow.read, Option.isSome_none, Bool.or_self, Bool.false_eq_true, if_false,
    Bool.and_false, if_true, nil_append]
  exact read_lead

theorem conclusionVerdict_dropNewlines :
    conclusionVerdict (linesOf (dropNewlines text)) = conclusionVerdict (linesOf text) := by
  induction text with
  | nil => rfl
  | cons unit rest ih =>
    rw [dropNewlines, dropWhile_cons]
    split
    · rename_i newline
      have broken : linesOf (unit :: rest) = [] :: linesOf rest := by
        have joined := @linesOf_break [] rest
        rw [eq_of_beq newline]
        exact joined
      rw [broken, conclusionVerdict_lead]
      exact ih
    · rfl

theorem conclusionVerdict_break :
    conclusionVerdict (linesOf (text ++ [0xA])) = conclusionVerdict (linesOf text) := by
  have broken : linesOf (text ++ [0xA]) = pieces text ++ [[]] := linesOf_break
  rw [broken, conclusionVerdict_concat]
  cases linesOf_pieces text with
  | inl same => rw [same]
  | inr longer => rw [longer, conclusionVerdict_concat]

theorem conclusionVerdict_reversed (back : JsString) :
    conclusionVerdict (linesOf (back.dropWhile (· == 0xA)).reverse) =
      conclusionVerdict (linesOf back.reverse) := by
  induction back with
  | nil => rfl
  | cons last rest ih =>
    rw [dropWhile_cons]
    split
    · rename_i newline
      rw [ih, reverse_cons, eq_of_beq newline, conclusionVerdict_break]
    · rfl

theorem conclusionVerdict_trimNewlines :
    conclusionVerdict (linesOf (trimNewlines text)) = conclusionVerdict (linesOf text) := by
  rw [trimNewlines, conclusionVerdict_reversed, reverse_reverse, conclusionVerdict_dropNewlines]

theorem badge_eq (lines : List JsString) :
    conclusionSectionVerdict (toSection title lines).body = conclusionVerdict (lines.flatMap pieces) := by
  rw [conclusionSectionVerdict_eq, toSection, conclusionVerdict_trimNewlines]
  cases lines with
  | nil => exact @conclusionVerdict_concat [] _
  | cons line rest =>
    cases @linesOf_joined (line :: rest) (cons_ne_nil line rest) with
    | inl same => rw [same]
    | inr longer => rw [longer, conclusionVerdict_concat]

def Opened (sections : List ReviewSection) : Prop :=
  ∀ part ∈ sections, isClosing part.title = false

variable {sections : List ReviewSection}

omit [Unicode] in
theorem Opened.synthesis (opened : Opened sections) :
    synthesisSections sections = sections := by
  unfold synthesisSections
  induction sections with
  | nil => rfl
  | cons first rest ih =>
    have later : Opened rest := fun part member => opened part (mem_cons_of_mem _ member)
    rw [takeWhile_cons, opened first mem_cons_self, Bool.not_false, if_pos rfl, ih later]

variable {part : ReviewSection}

omit [Unicode] in
theorem Opened.concat
    (opened : Opened sections) (last : isClosing part.title = false) : Opened (sections ++ [part]) := by
  intro other member
  cases mem_append.mp member with
  | inl before => exact opened other before
  | inr same =>
    rw [mem_singleton.mp same]
    exact last

theorem sectionsVerdict_closing {more : List ReviewSection} (closing : isClosing part.title = true) :
    sectionsVerdict (sections ++ part :: more) = sectionsVerdict sections := by
  have stopped : synthesisSections (sections ++ part :: more) = synthesisSections sections := by
    unfold synthesisSections
    induction sections with
    | nil => simp [closing]
    | cons first rest ih =>
      rw [cons_append, takeWhile_cons, takeWhile_cons, ih]
  rw [sectionsVerdict, stopped, sectionsVerdict]

theorem sectionsVerdict_other (other : part.title ≠ js "结论") :
    sectionsVerdict (sections ++ [part]) = sectionsVerdict sections := by
  cases closing : isClosing part.title with
  | true => exact sectionsVerdict_closing closing
  | false =>
    have same : (synthesisSections (sections ++ [part])).filter (·.title = js "结论") =
        (synthesisSections sections).filter (·.title = js "结论") := by
      unfold synthesisSections
      induction sections with
      | nil => simp [closing, other]
      | cons first rest ih =>
        rw [cons_append, takeWhile_cons, takeWhile_cons]
        split
        · rw [filter_cons, filter_cons, ih]
        · rfl
    rw [sectionsVerdict, same, sectionsVerdict]

theorem sectionsVerdict_conclusion (opened : Opened sections) :
    sectionsVerdict (sections ++ [toSection (js "结论") lines]) =
      conclusionVerdict (lines.flatMap pieces) := by
  have last : isClosing (js "结论") = false := by decide
  rw [sectionsVerdict, Opened.synthesis (opened.concat last), filter_append]
  have kept : [toSection (js "结论") lines].filter (·.title = js "结论") =
      [toSection (js "结论") lines] := filter_cons_of_pos (decide_eq_true rfl)
  rw [kept, List.getLast?_append, List.getLast?_singleton]
  exact badge_eq lines

omit [Unicode] in
theorem closed_foldl {sections : List ReviewSection} {lead : List JsString} :
    ∃ kept more, (entries.foldl step ⟨sections, lead, some (title, lines)⟩).closed =
      sections ++ toSection title kept :: more := by
  induction entries generalizing sections lead title lines with
  | nil => exact ⟨lines, [], rfl⟩
  | cons entry rest ih =>
    rw [foldl_cons, step]
    split
    · rename_i next _
      obtain ⟨kept, more, closed⟩ :=
        @ih next [] (sections ++ [toSection title lines]) lead
      refine ⟨lines, toSection next kept :: more, ?_⟩
      rw [append_assoc] at closed
      exact closed
    · exact ih

/-- The reader's window and the splitter's state between two lines. -/
inductive Related (fence : Option Fence) : Bool → SectionSplit → ConclusionWindow → Prop
  | outside {split : SectionSplit} {window : ConclusionWindow} (opened : Opened split.closed)
      (idle : window.collecting = false) (same : window.verdict = sectionsVerdict split.closed)
      (other : ∀ current ∈ split.current, current.1 ≠ js "结论") : Related fence false split window
  | within {sections : List ReviewSection} {lead lines : List JsString} (opened : Opened sections)
      (after : fenceAfter none (lines.flatMap pieces) = fence)
      (apart : ¬ ReachesAppendix (fenceWalk none (lines.flatMap pieces))) :
      Related fence true ⟨sections, lead, some (js "结论", lines)⟩
        (ConclusionWindow.read true ⟨true, true, []⟩ (fenceWalk none (lines.flatMap pieces)))

section

variable (related : Related fence inside split window)

include related

theorem Related.verdict : window.verdict = sectionsVerdict split.closed := by
  cases related with
  | outside opened idle same other => exact same
  | within opened after apart => exact (sectionsVerdict_conclusion opened).symm

theorem Related.opened : Opened split.closed := by
  cases related with
  | outside opened idle same other => exact opened
  | within opened after apart =>
    have open_ : isClosing (js "结论") = false := by decide
    exact Opened.concat opened open_

theorem Related.heading {after : ConclusionWindow} {next : Option Fence}
    (idle : after.collecting = false) (same : after.verdict = window.verdict)
    (other : title ≠ js "结论") (open_ : isClosing title = false) :
    Related next false (split.heading title) after := by
  apply Related.outside
  · exact Opened.concat related.opened open_
  · exact idle
  · rw [same, related.verdict]
    exact (sectionsVerdict_other other).symm
  · intro current member
    cases member
    exact other

theorem Related.conclude : Related none true (split.heading (js "结论")) ⟨true, true, []⟩ := by
  apply @Related.within _ none split.closed split.lead [] related.opened rfl
  intro reached
  obtain ⟨entry, member, -⟩ := reached
  cases member

end

theorem Related.push_outside {next : Option Fence} (related : Related fence false split window) :
    Related next false (split.push line) window := by
  cases related with
  | outside opened idle same other =>
    obtain ⟨sections, lead, current⟩ := split
    cases current with
    | none =>
      unfold push
      dsimp only
      split
      · exact Related.outside opened idle same other
      · exact Related.outside opened idle same other
    | some current =>
      obtain ⟨title, lines⟩ := current
      have differs : title ≠ js "结论" := other (title, lines) rfl
      apply Related.outside
      · intro part member
        cases mem_append.mp member with
        | inl before => exact opened part (mem_append_left _ before)
        | inr last =>
          rw [mem_singleton.mp last]
          exact opened (toSection title lines)
            (mem_append_right _ (mem_singleton.mpr rfl))
      · exact idle
      · rw [same]
        exact (sectionsVerdict_other differs).trans (sectionsVerdict_other differs).symm
      · intro current member
        cases member
        exact differs

theorem Related.push_within (related : Related fence true split window)
    (apart : ¬ ReachesAppendix (fenceWalk fence (pieces line))) :
    Related (fenceAfter fence (pieces line)) true (split.push line)
      (window.read true (fenceWalk fence (pieces line))) := by
  cases related with
  | @within sections lead lines opened after before =>
    have longer : (lines ++ [line]).flatMap pieces = lines.flatMap pieces ++ pieces line := by
      rw [flatMap_append, flatMap_singleton]
    have walked : fenceWalk none ((lines ++ [line]).flatMap pieces) =
        fenceWalk none (lines.flatMap pieces) ++ fenceWalk fence (pieces line) := by
      rw [longer, fenceWalk_append, after]
    have read := @read_append _ (fenceWalk fence (pieces line)) ⟨true, true, []⟩ before
    have pushed := @Related.within _ (fenceAfter fence (pieces line)) sections lead
      (lines ++ [line]) opened (by rw [longer, fenceAfter_append, after])
    rw [walked, read] at pushed
    apply pushed
    intro reached
    obtain ⟨entry, member, stops⟩ := reached
    cases mem_append.mp member with
    | inl earlier => exact before ⟨entry, earlier, stops⟩
    | inr later => exact apart ⟨entry, later, stops⟩

omit [Unicode] in
theorem pieces_all {holds : JsString → Bool} (every : (linesOf line).all holds = true) :
    (pieces line).all holds = true := by
  cases linesOf_pieces line with
  | inl same => rw [← same, every]
  | inr longer =>
    rw [longer, all_append, Bool.and_eq_true] at every
    exact every.1

omit [Unicode] in
theorem fencedAlike_pieces (alike : fencedAlike fence line = true) :
    (fenceWalk fence (pieces line)).all (·.2) = true ∧
      fenceAfter fence (pieces line) = fenceAfterLine fence line := by
  rw [fencedAlike, Bool.and_eq_true, beq_iff_eq] at alike
  obtain ⟨fenced, after⟩ := alike
  cases linesOf_pieces line with
  | inl same =>
    rw [same] at fenced after
    exact ⟨fenced, after⟩
  | inr longer =>
    have blank : fenceRun [] = none := rfl
    rw [longer, fenceWalk_append, all_append, Bool.and_eq_true] at fenced
    rw [longer, fenceAfter_append, fenceAfter_cons, fenceAfter_nil, fenceAfterLine_plain blank] at after
    exact ⟨fenced.1, after⟩

def ungluedLines : Option Fence → List JsString → List JsString
  | _, [] => []
  | fence, line :: rest =>
    (if fence.isSome || (fenceOpen line).isSome then [line] else splitOn 0xA (unglue line)) ++
      ungluedLines (fenceAfterLine fence line) rest

omit [Unicode] in
theorem ungluedLines_eq (whole : ∀ line ∈ lines, 0xA ∉ line) :
    ((fenceWalk fence lines).map fun entry => if entry.2 then entry.1 else unglue entry.1).flatMap
      (splitOn 0xA) = ungluedLines fence lines := by
  induction lines generalizing fence with
  | nil => rfl
  | cons line rest ih =>
    rw [forall_mem_cons] at whole
    rw [fenceWalk, map_cons, flatMap_cons, ih whole.2, ungluedLines]
    split
    · rw [splitOn_single whole.1]
    · rfl

omit [Unicode] in
theorem splitter_entries (body : JsString) :
    markdownLinesLf (unglueHeadings body) = fenceWalk none (ungluedLines none (splitOn 0xA body)) := by
  have some_ : (markdownLinesLf body).map (fun entry =>
      if entry.2 then entry.1 else unglue entry.1) ≠ [] := by
    rw [markdownLinesLf]
    cases parts : splitOn 0xA body with
    | nil => exact absurd parts (splitOn_ne_nil 0xA)
    | cons first rest => exact cons_ne_nil _ _
  rw [unglueHeadings, markdownLinesLf, splitOn_joinLines some_, markdownLinesLf,
    ungluedLines_eq splitOn_clean]

theorem Related.parts {parts : List JsString} (related : Related fence false split window)
    (plain : parts.all (fun part => (fenceOpen part).isNone &&
      (sectionTitle part).all fun title => title ≠ js "结论" && !isClosing title) = true) :
    Related fence false ((parts.map fun part => (part, false)).foldl step split)
      window := by
  induction parts generalizing split with
  | nil => exact related
  | cons part rest ih =>
    rw [all_cons, Bool.and_eq_true, Bool.and_eq_true] at plain
    obtain ⟨⟨_, first⟩, others⟩ := plain
    rw [map_cons, foldl_cons, step, if_neg Bool.false_ne_true]
    cases titled : sectionTitle part with
    | none => exact ih related.push_outside others
    | some title =>
      rw [titled, Option.all_some, Bool.and_eq_true, decide_eq_true_eq, Bool.not_eq_true'] at first
      have idle : window.collecting = false := by
        cases related with
        | outside opened idle same other => exact idle
      exact ih (related.heading idle rfl first.1 first.2) others

section

omit [Unicode]

theorem afterPrefix_some {start found : JsString} (after : afterPrefix start line = some found) :
    line = start ++ found := by
  rw [afterPrefix] at after
  split at after
  · rename_i starts
    obtain ⟨rest, rfl⟩ := isPrefixOf_iff_prefix.mp starts
    rw [drop_left, Option.some_inj] at after
    rw [after]
  · cases after

theorem sectionTitle_some (titled : sectionTitle line = some title) :
    ∃ text, line = js "## " ++ text ∧ text.any isLineTerminator = false ∧ title = trim text := by
  unfold sectionTitle at titled
  split at titled
  · cases titled
  · cases titled
  · rename_i text _ after
    split at titled
    · cases titled
    · rename_i single
      rw [Option.some_inj] at titled
      exact ⟨text, afterPrefix_some after, Bool.eq_false_iff.mpr single, titled.symm⟩

theorem sectionTitle_single (titled : sectionTitle line = some title) : line.SingleLine := by
  obtain ⟨text, rfl, single, -⟩ := sectionTitle_some titled
  apply SingleLine.append (by decide)
  rw [any_eq_false] at single
  constructor
  · intro member
    exact single _ member (by decide)
  · intro member
    exact single _ member (by decide)

theorem trimEnd_spaces {spaces : JsString} (blank : spaces.all isSpace = true) :
    trimEnd (text ++ spaces) = trimEnd text := by
  have dropped : ∀ unit ∈ spaces.reverse, isSpace unit = true := by
    intro unit member
    exact all_eq_true.mp blank unit (mem_reverse.mp member)
  rw [trimEnd, reverse_append, dropWhile_append_of_pos dropped, trimEnd]

theorem title_of_heading {name : JsString} (visible : trimStart name = name)
    (trimmed : trim name = name) (heading : isHeadingLine (js "## " ++ name) line = true)
    (some_ : name ≠ []) (titled : sectionTitle line = some title) : title = name := by
  rw [isHeadingLine, Option.any_eq_true] at heading
  obtain ⟨spaces, after, blank⟩ := heading
  obtain ⟨text, same, -, rfl⟩ := sectionTitle_some titled
  rw [afterPrefix_some after, append_assoc] at same
  rw [← append_cancel_left same]
  have space : spaces.all isSpace = true := by
    rw [all_eq_true] at blank ⊢
    intro unit member
    have both := blank unit member
    rw [Bool.and_eq_true] at both
    exact both.1
  have start : trimStart (name ++ spaces) = name ++ spaces := by
    cases name with
    | nil => exact absurd rfl some_
    | cons unit rest =>
      rw [trimStart, dropWhile_cons] at visible
      split at visible
      · rename_i blankHead
        have shorter := (dropWhile_sublist (p := isSpace) (l := rest)).length_le
        rw [visible, length_cons] at shorter
        omega
      · rename_i solid
        rw [trimStart, cons_append, dropWhile_cons_of_neg solid]
  have ended : trimEnd name = name := by
    rw [trim, visible] at trimmed
    exact trimmed
  rw [trim, start, trimEnd_spaces space, ended]

theorem title_of_conclusion (heading : CONCLUSION line = true)
    (titled : sectionTitle line = some title) : title = js "结论" := by
  have spelled : js "## 结论" = js "## " ++ js "结论" := by decide
  rw [CONCLUSION, spelled] at heading
  exact title_of_heading (by decide) (by decide) heading (by decide) titled

theorem title_of_appendix (heading : APPENDIX line = true)
    (titled : sectionTitle line = some title) : isClosing title = true := by
  have process : js "## 过程对比" = js "## " ++ js "过程对比" := by decide
  have deliverables : js "## 附录:各审查者交付物" = js "## " ++ js "附录:各审查者交付物" := by decide
  rw [APPENDIX, process, deliverables, Bool.or_eq_true] at heading
  cases heading with
  | inl first =>
    rw [title_of_heading (by decide) (by decide) first (by decide) titled]
    decide
  | inr second =>
    rw [title_of_heading (by decide) (by decide) second (by decide) titled]
    decide

theorem nextHeading_of_title (titled : sectionTitle line = some title) : NEXT_HEADING line = true := by
  obtain ⟨text, rfl, -, -⟩ := sectionTitle_some titled
  have spelled : js "## " = [0x23, 0x23, 0x20] := by decide
  rw [spelled]
  rfl

end

theorem Related.fenced (related : Related fence inside split window)
    (alike : fencedAlike fence line = true) :
    Related (fenceAfterLine fence line) inside (split.push line) window := by
  obtain ⟨fenced, after⟩ := fencedAlike_pieces alike
  obtain ⟨same, apart⟩ := @read_allFenced _ window fenced
  cases inside with
  | false => exact related.push_outside
  | true =>
    have pushed := related.push_within apart
    rw [after, same] at pushed
    exact pushed

theorem Related.plain (related : Related none inside split window)
    (unmarked_ : unmarked inside (pieces line) = true) :
    Related none inside (split.push line) (window.read true (fenceWalk none (pieces line))) := by
  cases inside with
  | false =>
    have idle : window.collecting = false := by
      cases related with
      | outside opened idle same other => exact idle
    rw [read_unmarked idle unmarked_]
    exact related.push_outside
  | true =>
    have pushed := related.push_within (unmarked_apart unmarked_)
    rw [(unmarked_walk unmarked_).2] at pushed
    exact pushed

theorem walks_agree (whole : ∀ line ∈ lines, 0xA ∉ line) (related : Related fence inside split window)
    (agree : headingsAgree fence inside lines = true) :
    (window.read true (fenceWalk fence (lines.flatMap pieces))).verdict =
      sectionsVerdict
        ((fenceWalk fence (ungluedLines fence lines)).foldl step split).closed := by
  induction lines generalizing fence inside split window with
  | nil => exact related.verdict
  | cons line rest ih =>
    rw [forall_mem_cons] at whole
    rw [headingsAgree] at agree
    rw [flatMap_cons, fenceWalk_append, ungluedLines]
    split at agree
    · -- a line of a fenced block
      rename_i fenced
      rw [Bool.and_eq_true] at agree
      obtain ⟨inFence, after⟩ := fencedAlike_pieces agree.1
      obtain ⟨same, apart⟩ := @read_allFenced _ window inFence
      rw [read_append apart, same, after, if_pos fenced, singleton_append, fenceWalk, foldl_cons, fenced]
      exact ih whole.2 (related.fenced agree.1) agree.2
    · rename_i open_
      rw [Bool.or_eq_true, not_or, Bool.not_eq_true, Option.isSome_eq_false_iff,
        Option.isNone_iff_eq_none, Bool.not_eq_true, Option.isSome_eq_false_iff,
        Option.isNone_iff_eq_none] at open_
      obtain ⟨outer, unopened⟩ := open_
      subst outer
      have bare : ((none : Option Fence).isSome || (fenceOpen line).isSome) = false := by
        rw [unopened]
        rfl
      have next : fenceAfterLine none line = none := unopened
      rw [bare, if_neg Bool.false_ne_true, next]
      split at agree
      · -- headings glued to the line
        rw [Bool.and_eq_true, Bool.and_eq_true, Bool.and_eq_true, Bool.not_eq_true'] at agree
        obtain ⟨⟨⟨outside, unmarked_⟩, parts⟩, others⟩ := agree
        subst outside
        have clear : unmarked false (pieces line) = true := pieces_all unmarked_
        have idle : window.collecting = false := by
          cases related with
          | outside opened idle same other => exact idle
        have unopenedParts :
            (splitOn 0xA (unglue line)).all (fun part => (fenceOpen part).isNone) = true := by
          rw [all_eq_true]
          intro part member
          have both := all_eq_true.mp parts part member
          rw [Bool.and_eq_true] at both
          exact both.1
        obtain ⟨walked, after⟩ := unopened_walk unopenedParts
        rw [read_append (unmarked_apart clear), read_unmarked idle clear, (unmarked_walk clear).2,
          fenceWalk_append, walked, after, foldl_append]
        exact ih whole.2 (related.parts parts) others
      · rename_i absent
        have alone : splitOn 0xA (unglue line) = [line] := by
          rw [unglue_plain (Bool.eq_false_iff.mpr absent), splitOn_single whole.1]
        rw [alone, singleton_append, fenceWalk, next, bare, foldl_cons, step, if_neg Bool.false_ne_true]
        cases titled : sectionTitle line with
        | none =>
          rw [titled, Bool.and_eq_true] at agree
          have clear : unmarked inside (pieces line) = true := pieces_all agree.1
          rw [read_append (unmarked_apart clear), (unmarked_walk clear).2]
          exact ih whole.2 (related.plain clear) agree.2
        | some title =>
          -- a heading is one line for both walks
          have single := sectionTitle_single titled
          have one : pieces line = [line] := by
            rw [pieces, if_neg (SingleLine.open_end single), linesOf_single single]
          rw [titled] at agree
          rw [one, fenceWalk, fenceWalk, fenceAfter_cons, fenceAfter_nil, next, bare, singleton_append]
          dsimp only at agree ⊢
          split at agree
          · rename_i closing
            obtain ⟨kept, more, closed⟩ := @closed_foldl title []
              (fenceWalk none (ungluedLines none rest)) split.closed split.lead
            have stopped : window.read true ((line, false) :: fenceWalk none (rest.flatMap pieces)) =
                window := by
              rw [ConclusionWindow.read, if_neg Bool.false_ne_true, Bool.true_and, if_pos agree]
            rw [stopped, heading, closed, related.verdict]
            exact (sectionsVerdict_closing closing).symm
          · rename_i open_
            have passes : APPENDIX line = false := by
              apply Bool.eq_false_iff.mpr
              exact fun heading => open_ (title_of_appendix heading titled)
            split at agree
            · rename_i conclusion
              rw [Bool.and_eq_true] at agree
              subst conclusion
              have started : window.read true
                  ((line, false) :: fenceWalk none (rest.flatMap pieces)) =
                    ConclusionWindow.read true ⟨true, true, []⟩ (fenceWalk none (rest.flatMap pieces)) := by
                rw [ConclusionWindow.read, if_neg Bool.false_ne_true, passes, Bool.and_false,
                  if_neg Bool.false_ne_true, if_pos agree.1]
              rw [started]
              exact ih whole.2 related.conclude agree.2
            · rename_i other
              have differs : CONCLUSION line = false := by
                apply Bool.eq_false_iff.mpr
                exact fun heading => other (title_of_conclusion heading titled)
              have idled : window.read true
                  ((line, false) :: fenceWalk none (rest.flatMap pieces)) =
                    ConclusionWindow.read true { window with collecting := false }
                      (fenceWalk none (rest.flatMap pieces)) := by
                rw [ConclusionWindow.read, if_neg Bool.false_ne_true, passes, Bool.and_false,
                  if_neg Bool.false_ne_true, differs, if_neg Bool.false_ne_true,
                  if_pos (nextHeading_of_title titled)]
              rw [idled]
              exact ih whole.2
                (related.heading rfl rfl other (Bool.eq_false_iff.mpr open_)) agree

section

omit [Unicode]

theorem splitAtRule_some (found : splitAtRule text = some (header, rest)) :
    text = header ++ 0xA :: (js "---" ++ 0xA :: rest) := by
  induction text generalizing header with
  | nil => cases found
  | cons unit later ih =>
    rw [splitAtRule] at found
    split at found
    · rename_i after taken
      cases found
      have spelled : js "\n---\n" ++ rest = 0xA :: (js "---" ++ 0xA :: rest) := by
        have units : js "\n---\n" = 0xA :: (js "---" ++ [0xA]) := by decide
        rw [units, cons_append, append_assoc, singleton_append]
      rw [afterPrefix_some taken, spelled, nil_append]
    · rw [Option.map_eq_some_iff] at found
      obtain ⟨parts, inner, same⟩ := found
      cases same
      rw [ih inner, cons_append]

theorem read_silent (unseen : window.sawConclusion = false)
    (silent : ((entries.takeWhile fun entry => entry.2 || !APPENDIX entry.1).all fun entry =>
      entry.2 || !CONCLUSION entry.1) = true) :
    (window.read true entries).sawConclusion = false := by
  induction entries generalizing window with
  | nil => exact unseen
  | cons entry rest ih =>
    obtain ⟨line, fenced⟩ := entry
    rw [takeWhile_cons] at silent
    rw [ConclusionWindow.read]
    cases fenced with
    | true =>
      rw [Bool.true_or, if_pos rfl, all_cons, Bool.true_or, Bool.true_and] at silent
      rw [if_pos rfl]
      exact ih unseen silent
    | false =>
      rw [Bool.false_or] at silent
      rw [if_neg Bool.false_ne_true, Bool.true_and]
      cases stops : APPENDIX line with
      | true => exact unseen
      | false =>
        rw [stops, Bool.not_false, if_pos rfl, all_cons, Bool.false_or,
          Bool.and_eq_true, Bool.not_eq_true'] at silent
        rw [if_neg Bool.false_ne_true, silent.1, if_neg Bool.false_ne_true]
        split
        · exact @ih { window with collecting := false } unseen silent.2
        · split
          · exact @ih { window with kept := window.kept ++ [line] } unseen silent.2
          · exact ih unseen silent.2

theorem push_titles :
    (split.push line).closed.map ReviewSection.title = split.closed.map ReviewSection.title := by
  obtain ⟨sections, lead, current⟩ := split
  cases current with
  | none =>
    unfold push
    dsimp only
    split
    · rfl
    · rfl
  | some current =>
    unfold push closed
    rw [map_append, map_append]
    rfl

theorem closed_titles :
    (entries.foldl step split).closed.map ReviewSection.title =
      split.closed.map ReviewSection.title ++
        entries.filterMap fun entry => if entry.2 then none else sectionTitle entry.1 := by
  induction entries generalizing split with
  | nil => exact (append_nil _).symm
  | cons entry rest ih =>
    rw [foldl_cons, ih, filterMap_cons, step]
    cases if entry.2 then none else sectionTitle entry.1 with
    | some title =>
      have closed : (split.heading title).closed = split.closed ++ [toSection title []] := rfl
      dsimp only
      rw [closed, map_append, append_assoc]
      rfl
    | none =>
      dsimp only
      rw [push_titles]

end

theorem sectionsVerdict_splitsNone (silent : splitsNone body = true) :
    sectionsVerdict (splitH2Sections body).2 = none := by
  have titles := @closed_titles (markdownLinesLf body) {}
  have start : (({} : SectionSplit).closed.map ReviewSection.title) = [] := rfl
  rw [start, nil_append] at titles
  rw [splitsNone, ← titles, takeWhile_map, all_map, all_eq_true] at silent
  have none_ : (synthesisSections (splitH2Sections body).2).filter (·.title = js "结论") = [] := by
    rw [filter_eq_nil_iff]
    intro part member
    have other := silent part member
    rw [Function.comp_apply, decide_eq_true_eq] at other
    rw [decide_eq_true_eq]
    exact other
  rw [sectionsVerdict, none_]
  rfl

theorem extract_rest (found : splitAtRule text = some (header, rest)) (plain : plainHeader header = true) :
    extractAggregatorVerdict (some text) =
      (ConclusionWindow.read true {} (fenceWalk none ((splitOn 0xA rest).flatMap pieces))).verdict := by
  rw [plainHeader, Bool.and_eq_true, beq_iff_eq] at plain
  obtain ⟨passing, shut⟩ := plain
  have rule : linesOf (js "---") = [js "---"] := by decide
  have open_ : (js "---").getLast? ≠ some 0xD := by decide
  have inert : ∀ line ∈ [js "---"], isInert line = true := by decide
  have lines : linesOf text = pieces header ++ ([js "---"] ++ linesOf rest) := by
    rw [splitAtRule_some found, linesOf_break, linesOf_append open_, rule]
  have header_ : (fenceWalk none (pieces header)).all
      (fun entry => entry.2 || (!APPENDIX entry.1 && !CONCLUSION entry.1)) = true ∧
        fenceAfter none (pieces header) = none := by
    rw [markdownLines] at passing
    cases linesOf_pieces header with
    | inl same =>
      rw [same] at passing shut
      exact ⟨passing, shut⟩
    | inr longer =>
      have blank : fenceRun [] = none := rfl
      rw [longer, fenceWalk_append, all_append, Bool.and_eq_true] at passing
      rw [longer, fenceAfter_append, fenceAfter_cons, fenceAfter_nil, fenceAfterLine_plain blank] at shut
      exact ⟨passing.1, shut⟩
  obtain ⟨same, apart⟩ := @read_passing _ {} rfl header_.1
  have ruled : fenceAfter none [js "---"] = none := by decide
  rw [extract_eq, readReport, lines, fenceWalk_append, read_append apart, same, header_.2,
    fenceWalk_append, read_inert rfl inert, ruled]
  cases linesOf_eq_pieces rest with
  | inl equal => rw [equal]
  | inr longer => rw [longer, read_blank]

/-- The report's verdict is the one of its last conclusion where the walks agree on the headings. -/
theorem report_verdict {markdown : JsString} {report : ParsedReviewReport}
    (accepted : parseReviewReport markdown = some report)
    (agree : HeadingsAgree (reportText markdown)) :
    report.verdict = sectionsVerdict report.sections := by
  unfold parseReviewReport at accepted
  dsimp only at accepted
  split at accepted
  · rw [Option.some_inj] at accepted
    subst accepted
    dsimp only
    generalize reportText markdown = text at agree
    rcases agree with ⟨unread, unsplit⟩ | ⟨header, rest, found, plain, agree⟩
    · have unseen := @read_silent _ {} rfl unread
      rw [markdownLines] at unseen
      rw [sectionsVerdict_splitsNone unsplit, extract_eq, readReport, ConclusionWindow.verdict,
        ConclusionWindow.body, unseen]
      rfl
    · have opened : Opened ({} : SectionSplit).closed := by
        intro part member
        cases member
      have start : Related none false {} {} := by
        apply Related.outside opened rfl rfl
        intro current member
        cases member
      rw [extract_rest found plain, walks_agree splitOn_clean start agree, reportParts, found]
      dsimp only
      rw [splitH2Sections, splitter_entries]
  · cases accepted

end Badge

/-- A report with an overview glued to its first sentence and a conclusion on lines of its own. -/
def spacedReport : JsString :=
  js "# Autonomous Review Report\n---\nok.## 概览\n\n## 结论\n\nchanges-requested\n\n## 过程对比\n"

theorem spaced_report_verdict :
    letI := Unicode.ascii
    ∃ report, parseReviewReport spacedReport = some report ∧
      report.verdict = sectionsVerdict report.sections := by
  let _ := Unicode.ascii
  have agree : HeadingsAgree (reportText spacedReport) := by
    right
    exact ⟨js "# Autonomous Review Report",
      js "ok.## 概览\n\n## 结论\n\nchanges-requested\n\n## 过程对比\n", by decide +kernel,
      by decide +kernel, by decide +kernel⟩
  exact ⟨_, rfl, report_verdict rfl agree⟩

def gluedReport : JsString := js "# Autonomous Review Report\n---\nok.## 结论\napprove"

/-- The section's badge says approve and the report has no verdict. -/
theorem glued_verdict_lost :
    letI := Unicode.ascii
    ∃ report, parseReviewReport gluedReport = some report ∧ report.verdict = none ∧
      sectionsVerdict report.sections = some .approve := by
  let _ := Unicode.ascii
  exact ⟨_, rfl, by decide +kernel, by decide +kernel⟩

end CouncilKit.Review
