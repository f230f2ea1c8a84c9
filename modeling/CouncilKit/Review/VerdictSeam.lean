import CouncilKit.Review.ReviewReport

namespace CouncilKit.Review

open Data Data.JsString
open List hiding splitOn

variable {line text body : JsString} {lines : List JsString} {input : ReviewReportInput}
  {first second : List (JsString × Bool)} {window : ConclusionWindow}

def isInert (line : JsString) : Bool :=
  (fenceRun line).isNone && !APPENDIX line && !CONCLUSION line && !NEXT_HEADING line

theorem isInert_plain (inert : isInert line = true) : fenceRun line = none := by
  simp only [isInert, Bool.and_eq_true, Option.isNone_iff_eq_none] at inert
  exact inert.1.1.1

variable {unit : CodeUnit}

theorem isHeadingLine_head {heading rest : JsString} {mark : CodeUnit} (other : mark ≠ unit) :
    isHeadingLine (mark :: heading) (unit :: rest) = false := by
  simp [isHeadingLine, afterPrefix, other]

theorem isInert_of_head (unit : CodeUnit) {rest : JsString} (notSpace : unit ≠ 0x20)
    (notFence : isFenceChar unit = false) (notMark : unit ≠ 0x23) :
    isInert (unit :: rest) = true := by
  have heading (tail : JsString) : isHeadingLine (0x23 :: tail) (unit :: rest) = false :=
    isHeadingLine_head fun same => notMark same.symm
  have conclusion : CONCLUSION (unit :: rest) = false := by
    rw [CONCLUSION, js_head (by decide)]
    exact heading _
  have appendix : APPENDIX (unit :: rest) = false := by
    rw [APPENDIX, Bool.or_eq_false_iff, js_head (by decide), js_head (by decide)]
    exact ⟨heading _, heading _⟩
  have next : NEXT_HEADING (unit :: rest) = false := by
    simp [NEXT_HEADING, notMark]
  simp [isInert, fenceRun_plain notSpace notFence, conclusion, appendix, next]

theorem isInert_field (label : String) (value : JsString) : isInert (field label value) = true :=
  isInert_of_head 0x2D (by decide) (by decide) (by decide)

theorem isInert_attemptRow (a : AttemptResult) : isInert (attemptRow a) = true :=
  isInert_of_head 0x7C (by decide) (by decide) (by decide)

theorem forall_headerLines {holds : JsString → Prop} (title : holds (js "# Autonomous Review Report"))
    (blank : holds []) (runs : holds (field "Run" input.runId.val))
    (fields : ∀ label ∈ ["Task", "Focus", "Reason"], ∀ text, holds (field label (oneLine text)))
    (aggregator : holds (field "Aggregator"
      (seat input.aggregator.agentName input.aggregator.driverId input.aggregator.modelId)))
    (columns : ∀ line ∈ renderAttemptsTable [], holds line)
    (rows : ∀ a ∈ input.attempts, holds (attemptRow a))
    (status : holds (field "Status" (statusLabel input)))
    (started : holds (field "Started" input.startedAt.val))
    (ended : holds (field "Ended" input.endedAt.val)) :
    ∀ line ∈ headerLines input, holds line := by
  have focuses : ∀ line ∈ (present input.task.focus).toList.map fun focus =>
      field "Focus" (oneLine focus), holds line := by
    intro line member
    obtain ⟨focus, -, same⟩ := mem_map.mp member
    subst same
    exact fields _ (by simp) _
  have reasons : ∀ line ∈ (present input.reason).toList.map fun reason =>
      field "Reason" (oneLine reason), holds line := by
    intro line member
    obtain ⟨reason, -, same⟩ := mem_map.mp member
    subst same
    exact fields _ (by simp) _
  have table : ∀ line ∈ renderAttemptsTable input.attempts, holds line := by
    rw [renderAttemptsTable, forall_mem_append]
    exact ⟨columns, forall_mem_map.mpr rows⟩
  simp only [headerLines, forall_mem_append, forall_mem_cons]
  exact ⟨⟨⟨⟨⟨⟨⟨title, blank, runs, fields _ (by simp) _, by simp⟩, focuses⟩, aggregator, blank,
    by simp⟩, table⟩, status, by simp⟩, reasons⟩, started, ended, blank, by simp⟩

theorem headerLines_inert : ∀ line ∈ headerLines input, isInert line = true := by
  apply forall_headerLines
  case title => decide
  case blank => decide
  case columns =>
    have both : (renderAttemptsTable []).all isInert = true := by decide
    exact all_eq_true.mp both
  case fields => exact fun label _ text => isInert_field label (oneLine text)
  case rows => exact fun a _ => isInert_attemptRow a
  all_goals exact isInert_field _ _

theorem SingleLine.append {left right : JsString} (first : left.SingleLine)
    (second : right.SingleLine) : (left ++ right).SingleLine := by
  constructor
  · simp [first.1, second.1]
  · simp [first.2, second.2]

theorem trim_subset (member : unit ∈ trim text) : unit ∈ text := by
  rw [trim, trimEnd, mem_reverse] at member
  have inner := (dropWhile_sublist isSpace).subset member
  rw [mem_reverse] at inner
  exact (dropWhile_sublist isSpace).subset inner

theorem collapseSpaces_units (member : unit ∈ collapseSpaces text) :
    unit = 0x20 ∨ isSpace unit = false := by
  induction text with
  | nil => simp [collapseSpaces] at member
  | cons first rest ih =>
    rw [collapseSpaces] at member
    split at member
    · split at member
      · exact ih member
      · rcases mem_cons.mp member with same | later
        · exact .inl same
        · exact ih later
    · rename_i visible
      rcases mem_cons.mp member with same | later
      · exact .inr (by rw [same]; exact Bool.eq_false_iff.mpr visible)
      · exact ih later

theorem oneLine_single (text : JsString) : (oneLine text).SingleLine := by
  constructor
  · intro member
    exact absurd (collapseSpaces_units (trim_subset member)) (by decide)
  · intro member
    exact absurd (collapseSpaces_units (trim_subset member)) (by decide)

theorem collapseBreaks_single (text : JsString) : (collapseBreaks text).SingleLine := by
  induction text with
  | nil => decide
  | cons unit rest ih =>
    rw [collapseBreaks]
    split
    · split
      · exact ih
      · have blank : SingleLine [0x20] := by decide
        exact SingleLine.append blank ih
    · rename_i plain
      rw [not_or] at plain
      constructor
      · simp [Ne.symm plain.1, ih.1]
      · simp [Ne.symm plain.2, ih.2]

theorem seat_single (name driverId modelId : JsString) : (seat name driverId modelId).SingleLine := by
  unfold seat
  repeat' apply SingleLine.append
  all_goals first | exact oneLine_single _ | decide

theorem attemptRow_single (a : AttemptResult) : (attemptRow a).SingleLine := by
  unfold attemptRow
  repeat' apply SingleLine.append
  all_goals first | exact collapseBreaks_single _ | decide

theorem statusLabel_single : (statusLabel input).SingleLine := by
  unfold statusLabel
  split
  · decide
  · decide
  · split <;> decide

theorem headerLines_single : ∀ line ∈ headerLines input, line.SingleLine := by
  have labelled {label : String} {value : JsString} (name : (js label).SingleLine)
      (single : value.SingleLine) : (field label value).SingleLine :=
    SingleLine.append (SingleLine.append (SingleLine.append (by decide) name) (by decide)) single
  apply forall_headerLines
  case title => decide
  case blank => decide
  case columns =>
    have both : (renderAttemptsTable []).all (fun line => decide line.SingleLine) = true := by decide
    exact fun line member => of_decide_eq_true (all_eq_true.mp both line member)
  case fields =>
    have names : ["Task", "Focus", "Reason"].all (fun label => decide (js label).SingleLine) = true := by
      decide
    exact fun label member text =>
      labelled (of_decide_eq_true (all_eq_true.mp names label member)) (oneLine_single text)
  case runs => exact labelled (by decide) input.runId.property
  case aggregator => exact labelled (by decide) (seat_single _ _ _)
  case rows => exact fun a _ => attemptRow_single a
  case status => exact labelled (by decide) statusLabel_single
  case started => exact labelled (by decide) input.startedAt.property
  case ended => exact labelled (by decide) input.endedAt.property

def ReachesAppendix (lines : List (JsString × Bool)) : Prop :=
  ∃ entry ∈ lines, entry.2 = false ∧ APPENDIX entry.1 = true

theorem read_append (apart : ¬ ReachesAppendix first) :
    window.read true (first ++ second) = (window.read true first).read true second := by
  induction first generalizing window with
  | nil => rfl
  | cons entry rest ih =>
    obtain ⟨line, fenced⟩ := entry
    have later : ¬ ReachesAppendix rest := by
      intro reached
      obtain ⟨entry, member, stops⟩ := reached
      exact apart ⟨entry, mem_cons_of_mem _ member, stops⟩
    cases fenced with
    | true => simpa [ConclusionWindow.read] using ih later
    | false =>
      have passes : APPENDIX line = false := by
        apply Bool.eq_false_iff.mpr
        exact fun stops => apart ⟨(line, false), mem_cons_self, rfl, stops⟩
      simp only [cons_append, ConclusionWindow.read, passes, Bool.false_eq_true, if_false,
        Bool.and_false, ih later]
      split
      · rfl
      · split
        · rfl
        · split <;> rfl

theorem read_append_stopped (reached : ReachesAppendix first) :
    window.read true (first ++ second) = window.read true first := by
  induction first generalizing window with
  | nil =>
    obtain ⟨entry, member, -⟩ := reached
    cases member
  | cons entry rest ih =>
    obtain ⟨line, fenced⟩ := entry
    by_cases stops : fenced = false ∧ APPENDIX line = true
    · simp [ConclusionWindow.read, stops.1, stops.2]
    · have later : ReachesAppendix rest := by
        obtain ⟨found, member, appendix⟩ := reached
        rcases mem_cons.mp member with same | inside
        · subst same
          exact absurd appendix stops
        · exact ⟨found, inside, appendix⟩
      cases fenced with
      | true => simpa [ConclusionWindow.read] using ih later
      | false =>
        have passes : APPENDIX line = false :=
          Bool.eq_false_iff.mpr fun appendix => stops ⟨rfl, appendix⟩
        simp only [cons_append, ConclusionWindow.read, passes, Bool.false_eq_true,
          if_false, Bool.and_false, ih later]

theorem read_inert (idle : window.collecting = false) (inert : ∀ line ∈ lines, isInert line = true) :
    window.read true (fenceWalk none lines ++ second) = window.read true second := by
  have plain : ∀ line ∈ lines, fenceRun line = none :=
    fun line member => isInert_plain (inert line member)
  rw [fenceWalk_plain plain]
  induction lines with
  | nil => rfl
  | cons line rest ih =>
    have quiet := inert line mem_cons_self
    simp only [isInert, Bool.and_eq_true, Bool.not_eq_true'] at quiet
    obtain ⟨⟨⟨-, appendix⟩, conclusion⟩, heading⟩ := quiet
    simp only [map_cons, Option.isSome_none, cons_append, ConclusionWindow.read,
      appendix, conclusion, heading, idle, Bool.false_eq_true, if_false, Bool.and_false]
    exact ih (fun line member => inert line (mem_cons_of_mem _ member))
      fun line member => plain line (mem_cons_of_mem _ member)

theorem read_fenced {fence : Fence} (plain : ∀ line ∈ lines, fenceRun line = none) :
    window.read true (fenceWalk (some fence) lines ++ second) = window.read true second := by
  rw [fenceWalk_plain plain]
  induction lines with
  | nil => rfl
  | cons line rest ih =>
    simpa [ConclusionWindow.read] using
      ih fun line member => plain line (mem_cons_of_mem _ member)

theorem dropNewlines_append (text : JsString) :
    dropNewlines (text ++ [0xA]) = dropNewlines text ++ [0xA] ∨
      (dropNewlines text = [] ∧ dropNewlines (text ++ [0xA]) = []) := by
  unfold dropNewlines
  induction text with
  | nil => exact .inr ⟨rfl, rfl⟩
  | cons unit rest ih =>
    by_cases newline : unit = 0xA
    · simpa [newline] using ih
    · left
      simp [newline]

theorem startsWord_append : startsWord (text ++ [0xA]).head? = startsWord text.head? := by
  cases text with
  | nil => decide
  | cons unit rest => rfl

theorem isPrefixOf_append {token : JsString} (whole : 0xA ∉ token) :
    token.isPrefixOf (text ++ [0xA]) = token.isPrefixOf text := by
  rw [Bool.eq_iff_iff, isPrefixOf_iff_prefix, isPrefixOf_iff_prefix,
    prefix_concat_iff]
  constructor
  · intro found
    rcases found with same | inside
    · exact absurd (by simp [same]) whole
    · exact inside
  · exact .inr

theorem verdictAt_append (behind ahead : JsString) :
    verdictAt behind (ahead ++ [0xA]) = verdictAt behind ahead := by
  unfold verdictAt
  congr 1
  funext verdict
  have whole : 0xA ∉ verdict.text := by cases verdict <;> decide
  have lowered : (ahead ++ [0xA]).map lowerAscii = ahead.map lowerAscii ++ [0xA] := by
    rw [map_append]
    rfl
  rw [lowered, isPrefixOf_append whole, startsWord_append]
  cases found : verdict.text.isPrefixOf (ahead.map lowerAscii) with
  | false => rfl
  | true =>
    have fits := ( isPrefixOf_iff_prefix.mp found).length_le
    rw [length_map] at fits
    rw [drop_append_of_le_length fits, startsWord_append]

theorem proseFrom_append {behind ahead : JsString} :
    proseFrom behind (ahead ++ [0xA]) = proseFrom behind ahead := by
  induction ahead generalizing behind with
  | nil =>
    have nothing : verdictAt behind [0xA] = none := by
      have empty := verdictAt_append behind []
      rw [nil_append] at empty
      rw [empty]
      rfl
    simp [proseFrom, nothing]
  | cons unit rest ih =>
    rw [cons_append, proseFrom, proseFrom, ← cons_append, verdictAt_append, ih]

theorem verdictOfBody_append [Unicode] :
    verdictOfBody (text ++ [0xA]) = verdictOfBody text := by
  have blank : asVerdict (trim []) = none := by
    have empty : toLowerCase [] = [] := toLowerCase_ascii [] rfl
    change verdicts.find? (·.text = toLowerCase []) = none
    rw [empty]
    decide
  rw [verdictOfBody, splitOn_append, List.findSome?_append, verdictInProse, proseFrom_append]
  simp [verdictOfBody, verdictInProse, splitOn, blank]

theorem joinLines_blank (some_ : lines ≠ []) : joinLines (lines ++ [[]]) = joinLines lines ++ [0xA] := by
  induction lines with
  | nil => exact absurd rfl some_
  | cons line rest ih =>
    cases rest with
    | nil => simp [joinLines, join]
    | cons next rest =>
      have whole : joinLines (line :: next :: rest) = line ++ 0xA :: joinLines (next :: rest) :=
        joinLines_cons (by simp)
      rw [cons_append, joinLines_cons (by simp), ih (by simp), whole]
      simp

def ConclusionWindow.verdict [Unicode] (window : ConclusionWindow) : Option AggregatorVerdict :=
  window.body.bind verdictOfBody

theorem verdict_blank [Unicode] :
    ConclusionWindow.verdict { window with kept := window.kept ++ [[]] } = window.verdict := by
  obtain ⟨saw, collecting, kept⟩ := window
  cases saw with
  | false => rfl
  | true =>
    change verdictOfBody (dropNewlines (joinLines (kept ++ [[]]))) =
      verdictOfBody (dropNewlines (joinLines kept))
    cases kept with
    | nil => rfl
    | cons line rest =>
      rw [joinLines_blank (by simp)]
      rcases dropNewlines_append (joinLines (line :: rest)) with longer | ⟨empty, same⟩
      · rw [longer, verdictOfBody_append]
      · rw [empty, same]

def tailLines (attempts : List AttemptResult) : List JsString :=
  linesOf (joinLines [renderProcessComparison attempts, renderAppendix attempts])

variable {rest : List JsString}

theorem linesOf_head (some_ : rest ≠ []) (open_ : text.getLast? ≠ some 0xD) :
    linesOf (joinLines (text :: rest)) = linesOf text ++ linesOf (joinLines rest) := by
  rw [joinLines_cons some_, linesOf_append open_]

theorem linesOf_header (some_ : rest ≠ []) :
    linesOf (joinLines (renderHeader input :: rest)) = headerLines input ++ linesOf (joinLines rest) := by
  have clean : (renderHeader input).getLast? ≠ some 0xD :=
    fun last => joinLines_clean headerLines_single (mem_of_getLast? last)
  have filled : headerLines input ≠ [] := by simp [headerLines]
  rw [linesOf_head some_ clean, renderHeader, linesOf_joinLines filled headerLines_single]

theorem linesOf_report (found : synthesis input = some body) (trimmed : body.getLast? ≠ some 0xD) :
    linesOf (renderReviewReport input) =
      (headerLines input ++ [js "---", []]) ++ (linesOf body ++ ([] :: tailLines input.attempts)) := by
  have rule : (js "---").SingleLine := by decide
  have blank : SingleLine [] := by decide
  rw [renderReviewReport, reportSections, found]
  simp only [cons_append, nil_append]
  rw [linesOf_header (by simp), linesOf_head (by simp) (SingleLine.open_end rule),
    linesOf_head (by simp) (SingleLine.open_end blank), linesOf_head (by simp) trimmed,
    linesOf_head (by simp) (SingleLine.open_end blank), linesOf_single rule, linesOf_single blank]
  simp [tailLines]

theorem rawDeliverables_single : rawDeliverables.SingleLine :=
  SingleLine.append (js_single (by decide)) (js_single (by decide))

theorem incompleteBanner_single : (incompleteBanner input).SingleLine := by
  unfold incompleteBanner
  split
  · exact SingleLine.append (js_single (by decide)) rawDeliverables_single
  · split
    · exact SingleLine.append (SingleLine.append (SingleLine.append (js_single (by decide))
        (oneLine_single _)) (js_single (by decide))) rawDeliverables_single
    · split
      · exact SingleLine.append (js_single (by decide)) rawDeliverables_single
      · exact SingleLine.append (SingleLine.append (js_single (by decide)) (js_single (by decide)))
          (js_single (by decide))

theorem incompleteBanner_inert : isInert (incompleteBanner input) = true := by
  obtain ⟨rest, quoted⟩ : ∃ rest, incompleteBanner input = 0x3E :: rest := by
    unfold incompleteBanner
    split
    · rw [js_head (by decide)]
      exact ⟨_, rfl⟩
    · split
      · rw [js_head (by decide)]
        exact ⟨_, rfl⟩
      · split
        · rw [js_head (by decide)]
          exact ⟨_, rfl⟩
        · rw [js_head (by decide)]
          exact ⟨_, rfl⟩
  rw [quoted]
  exact isInert_of_head 0x3E (by decide) (by decide) (by decide)

theorem linesOf_incomplete (missing : synthesis input = none) :
    linesOf (renderReviewReport input) =
      (headerLines input ++ [incompleteBanner input, []]) ++ tailLines input.attempts := by
  have blank : SingleLine [] := by decide
  rw [renderReviewReport, reportSections, missing]
  simp only [cons_append, nil_append]
  rw [linesOf_header (by simp), linesOf_head (by simp) (SingleLine.open_end incompleteBanner_single),
    linesOf_head (by simp) (SingleLine.open_end blank), linesOf_single incompleteBanner_single,
    linesOf_single blank]
  simp [tailLines]

theorem tailLines_heading (attempts : List AttemptResult) :
    ∃ rest, tailLines attempts = PROCESS_HEADING :: rest := by
  have single : PROCESS_HEADING.SingleLine := by decide
  obtain ⟨rest, heading, some_⟩ : ∃ rest, processLines attempts = PROCESS_HEADING :: rest ∧ rest ≠ [] :=
    ⟨_, rfl, by simp⟩
  exists linesOf (joinLines rest ++ 0xA :: joinLines [renderAppendix attempts])
  rw [tailLines, joinLines_cons (by simp), renderProcessComparison, heading, joinLines_cons some_,
    append_assoc, cons_append, linesOf_append (SingleLine.open_end single),
    linesOf_single single]
  rfl

def forgedLines (fence : Fence) (verdict : AggregatorVerdict) : List JsString :=
  [fence.run, js "## 结论", verdict.text, fence.run]

def silentAttempt : AttemptResult where
  agentName := js "r"
  driverId := js "d"
  modelId := js "m"
  status := .success
  output := []
  durationMs := 0

/-- A reviewer whose deliverable is one fenced block with a conclusion inside. -/
def forger (fence : Fence) (verdict : AggregatorVerdict) : AttemptResult :=
  { silentAttempt with output := joinLines (forgedLines fence verdict) }

section

variable {fence : Fence} {verdict : AggregatorVerdict}

theorem char_visible (unit : CodeUnit) (marked : isFenceChar unit = true) :
    isSpace unit = false ∧ unit ≠ 0xA ∧ unit ≠ 0xD := by
  simp only [isFenceChar, Bool.or_eq_true, beq_iff_eq] at marked
  rcases marked with same | same <;> subst same <;> decide

theorem forgedLines_single : ∀ line ∈ forgedLines fence verdict, line.SingleLine := by
  obtain ⟨-, notLf, notCr⟩ := char_visible fence.char fence.marked
  have run : fence.run.SingleLine := by
    constructor
    · exact fun member => notLf (eq_of_mem_replicate member).symm
    · exact fun member => notCr (eq_of_mem_replicate member).symm
  have conclusion : (js "## 结论").SingleLine := by decide
  have text : verdict.text.SingleLine := by cases verdict <;> decide
  intro line member
  simp only [forgedLines, mem_cons, not_mem_nil, or_false] at member
  rcases member with same | same | same | same <;> subst same <;> assumption

theorem forger_end : (forger fence verdict).output.getLast? = some fence.char := by
  obtain ⟨rest, length⟩ : ∃ rest, fence.length = rest + 1 := ⟨fence.length - 1, by have := fence.long; omega⟩
  have last : fence.run.getLast? = some fence.char := by
    rw [Fence.run, length, replicate_succ', List.getLast?_concat]
  have split : (forger fence verdict).output =
      (fence.run ++ 0xA :: (js "## 结论" ++ 0xA :: (verdict.text ++ [0xA]))) ++ fence.run := by
    simp [forger, forgedLines, joinLines, join]
  rw [split, List.getLast?_append, last]
  rfl

theorem forger_deliverable :
    deliverableText (forger fence verdict) = joinLines (forgedLines fence verdict) := by
  have visible := (char_visible fence.char fence.marked).1
  have whole : trimEnd (forger fence verdict).output = joinLines (forgedLines fence verdict) :=
    trimEnd_of_end forger_end visible
  have filled : trim (forger fence verdict).output ≠ [] := trim_of_end forger_end visible
  have kept : downgradeLines none (forgedLines fence verdict) = forgedLines fence verdict := by
    have conclusion : fenceRun (js "## 结论") = none := by decide
    have text : fenceRun verdict.text = none := by cases verdict <;> decide
    have closes := closedBy_run { fence with indent := 0, shallow := by decide }
    have same : Fence.run { fence with indent := 0, shallow := by decide } = fence.run := rfl
    rw [same] at closes
    simp [forgedLines, downgradeLines, fenceAfterLine, fenceOpen_run, closedBy_plain conclusion,
      closedBy_plain text, closes]
  rw [deliverableText, if_pos ⟨rfl, filled⟩, whole, downgradeHeadingsOutsideFences,
    linesOf_joinLines (by simp [forgedLines]) forgedLines_single, kept]

theorem tailLines_forger : tailLines [forger fence verdict] =
    [PROCESS_HEADING, [], js "- r (d/m) — 0s — 无过程数据", [], js "## 附录:各审查者交付物", [],
      js "### r (d/m)", []] ++ forgedLines fence verdict ++ [[]] := by
  have process : processLines [forger fence verdict] =
      [PROCESS_HEADING, [], js "- r (d/m) — 0s — 无过程数据", []] := by
    have line : processLine silentAttempt = js "- r (d/m) — 0s — 无过程数据" := by decide
    have same : processLines [forger fence verdict] =
      [PROCESS_HEADING, [], processLine silentAttempt, []] := rfl
    rw [same, line]
  have processSingle : ∀ line ∈ processLines [forger fence verdict], line.SingleLine := by
    have all : [PROCESS_HEADING, [], js "- r (d/m) — 0s — 无过程数据", []].all
        (fun line => decide (SingleLine line)) = true := by decide
    rw [process]
    exact fun line member => of_decide_eq_true (all_eq_true.mp all line member)
  have entry : appendixEntry (forger fence verdict) =
      [js "### r (d/m)", [], deliverableText (forger fence verdict), []] := rfl
  have appendix : renderAppendix [forger fence verdict] =
      joinLines [js "## 附录:各审查者交付物", [], js "### r (d/m)", [],
        joinLines (forgedLines fence verdict), []] := by
    rw [renderAppendix, if_neg (by simp), flatMap_singleton, entry, forger_deliverable]
    rfl
  have title : (js "## 附录:各审查者交付物").SingleLine := by decide
  have blank : SingleLine [] := by decide
  have name : (js "### r (d/m)").SingleLine := by decide
  have processEnd : (renderProcessComparison [forger fence verdict]).getLast? ≠ some 0xD :=
    fun last => joinLines_clean processSingle (mem_of_getLast? last)
  have deliverableEnd : (joinLines (forgedLines fence verdict)).getLast? ≠ some 0xD :=
    fun last => joinLines_clean forgedLines_single (mem_of_getLast? last)
  rw [tailLines, linesOf_head (by simp) processEnd, renderProcessComparison,
    linesOf_joinLines (by simp [processLines]) processSingle, process, appendix]
  have only : joinLines [joinLines [js "## 附录:各审查者交付物", [], js "### r (d/m)", [],
      joinLines (forgedLines fence verdict), []]] = joinLines [js "## 附录:各审查者交付物", [],
      js "### r (d/m)", [], joinLines (forgedLines fence verdict), []] := rfl
  rw [only, linesOf_head (by simp) (SingleLine.open_end title),
    linesOf_head (by simp) (SingleLine.open_end blank),
    linesOf_head (by simp) (SingleLine.open_end name),
    linesOf_head (by simp) (SingleLine.open_end blank), linesOf_head (by simp) deliverableEnd,
    linesOf_joinLines (by simp [forgedLines]) forgedLines_single, linesOf_single title,
    linesOf_single blank, linesOf_single name]
  rfl

end

variable [Unicode]

/-- The aggregation closes its fences, or has an appendix heading of its own
where no fence is open. -/
def SeamClosed (body : JsString) : Prop :=
  ReachesAppendix (markdownLines body) ∨ fenceAfter none (linesOf body) = none

def readReport (lines : List JsString) : Option AggregatorVerdict :=
  (ConclusionWindow.read true {} (fenceWalk none lines)).verdict

theorem extract_eq : extractAggregatorVerdict (some text) = readReport (linesOf text) := rfl

theorem readReport_inert (inert : ∀ line ∈ lines, isInert line = true) :
    readReport (lines ++ rest) = readReport rest := by
  rw [readReport, fenceWalk_append, fenceAfter_plain fun line member => isInert_plain (inert line member),
    read_inert rfl inert, readReport]

theorem readReport_header :
    readReport ((headerLines input ++ [js "---", []]) ++ rest) = readReport rest := by
  apply readReport_inert
  rw [forall_mem_append]
  have rule : [js "---", []].all isInert = true := by decide
  exact ⟨headerLines_inert, all_eq_true.mp rule⟩

theorem readReport_incomplete :
    readReport ((headerLines input ++ [incompleteBanner input, []]) ++ PROCESS_HEADING :: rest) = none := by
  rw [readReport_inert]
  · have heading : fenceOpen PROCESS_HEADING = none := by decide
    have stops : APPENDIX PROCESS_HEADING = true := by decide
    simp [readReport, fenceWalk, heading, ConclusionWindow.read, stops, ConclusionWindow.verdict,
      ConclusionWindow.body]
  · rw [forall_mem_append]
    simp only [forall_mem_cons]
    exact ⟨headerLines_inert, incompleteBanner_inert, by decide, by simp⟩

theorem readReport_closed (closed : SeamClosed body) :
    readReport (linesOf body ++ [] :: PROCESS_HEADING :: rest) = readReport (linesOf body) := by
  rw [SeamClosed, markdownLines] at closed
  rw [readReport, fenceWalk_append]
  by_cases reached : ReachesAppendix (fenceWalk none (linesOf body))
  · rw [read_append_stopped reached, readReport]
  · have shut := closed.resolve_left reached
    rw [read_append reached, shut, readReport]
    generalize ConclusionWindow.read true {} (fenceWalk none (linesOf body)) = window
    have blank : fenceOpen [] = none := rfl
    have heading : fenceOpen PROCESS_HEADING = none := by decide
    have stops : APPENDIX PROCESS_HEADING = true := by decide
    have passes : APPENDIX [] = false ∧ CONCLUSION [] = false ∧ NEXT_HEADING [] = false := by decide
    simp only [fenceWalk, fenceAfterLine, blank, heading, ConclusionWindow.read, passes.1, passes.2.1,
      passes.2.2, stops, Option.isSome_none, Bool.or_self, Bool.false_eq_true, if_false, if_true,
      Bool.and_false, Bool.and_self]
    split
    · exact verdict_blank
    · rfl

theorem read_verdict_text (verdict : AggregatorVerdict) :
    ConclusionWindow.verdict ⟨true, true, [verdict.text]⟩ = some verdict := by
  have lowered : toLowerCase verdict.text = verdict.text := by
    rw [toLowerCase_ascii _ (by cases verdict <;> decide)]
    cases verdict <;> decide
  have trimmed : trim verdict.text = verdict.text := by cases verdict <;> decide
  have lines : splitOn 0xA (dropNewlines (joinLines [verdict.text])) = [verdict.text] := by
    cases verdict <;> decide
  have bare : asVerdict verdict.text = some verdict := by
    rw [asVerdict, lowered]
    cases verdict <;> decide
  change verdictOfBody (dropNewlines (joinLines [verdict.text])) = some verdict
  rw [verdictOfBody, lines]
  simp [trimmed, bare]

theorem readReport_forged {fence : Fence} {verdict : AggregatorVerdict}
    (apart : ¬ ReachesAppendix (markdownLines body))
    (opened : fenceAfter none (linesOf body) = some fence) :
    readReport (linesOf body ++ [] :: tailLines [forger fence verdict]) = some verdict := by
  have plain : ∀ line ∈ [[], PROCESS_HEADING, [], js "- r (d/m) — 0s — 无过程数据", [],
      js "## 附录:各审查者交付物", [], js "### r (d/m)", []], fenceRun line = none := by
    have all : [[], PROCESS_HEADING, [], js "- r (d/m) — 0s — 无过程数据", [],
        js "## 附录:各审查者交付物", [], js "### r (d/m)", []].all
          (fun line => (fenceRun line).isNone) = true := by decide
    exact fun line member => Option.isNone_iff_eq_none.mp (all_eq_true.mp all line member)
  have parts : [] :: tailLines [forger fence verdict] =
      [[], PROCESS_HEADING, [], js "- r (d/m) — 0s — 无过程数据", [], js "## 附录:各审查者交付物", [],
        js "### r (d/m)", []] ++ (forgedLines fence verdict ++ [[]]) := by
    rw [tailLines_forger]
    rfl
  rw [markdownLines] at apart
  rw [readReport, fenceWalk_append, read_append apart, opened, parts, fenceWalk_append,
    read_fenced plain, fenceAfter_plain plain]
  generalize ConclusionWindow.read true {} (fenceWalk none (linesOf body)) = window
  have conclusion : fenceOpen (js "## 结论") = none ∧ APPENDIX (js "## 结论") = false ∧
      CONCLUSION (js "## 结论") = true := by decide
  have text : fenceOpen verdict.text = none ∧ APPENDIX verdict.text = false ∧
      CONCLUSION verdict.text = false ∧ NEXT_HEADING verdict.text = false := by
    cases verdict <;> decide
  have blank : Fence.closedBy { fence with indent := 0, shallow := by decide } [] = false := rfl
  simp [forgedLines, fenceWalk, fenceAfterLine, closedBy_run, fenceOpen_run, ConclusionWindow.read,
    conclusion, text, read_verdict_text]

def aggregationOutput (input : ReviewReportInput) : Option JsString :=
  (input.aggregation.filter fun aggregation =>
    aggregation.status = .success && trim aggregation.output ≠ []).map (·.output)

/-- Whatever the reviewers deliver, the report has the verdict of the aggregation. -/
def VerdictKept (input : ReviewReportInput) : Prop :=
  ∀ attempts, extractAggregatorVerdict (some (renderReviewReport { input with attempts })) =
    extractAggregatorVerdict (aggregationOutput input)

omit [Unicode] in
theorem synthesis_eq (attempts : List AttemptResult) :
    synthesis { input with attempts } = (aggregationOutput input).map trim := by
  change (input.aggregation.bind fun aggregation =>
    if aggregation.status = .success then present (some aggregation.output) else none) = _
  rw [aggregationOutput]
  cases input.aggregation with
  | none => rfl
  | some aggregation =>
    by_cases success : aggregation.status = .success
    · by_cases blank : trim aggregation.output = [] <;> simp [success, blank, present, Option.filter]
    · simp [success, Option.filter]

theorem extract_report {output : JsString} {attempts : List AttemptResult}
    (found : aggregationOutput input = some output) :
    extractAggregatorVerdict (some (renderReviewReport { input with attempts })) =
      readReport (linesOf (trim output) ++ [] :: tailLines attempts) := by
  have body : synthesis { input with attempts } = some (trim output) := by
    rw [synthesis_eq, found]
    rfl
  rw [extract_eq, linesOf_report body trim_open_end, readReport_header]

/-- The verdict of a report is that of its aggregation for all deliverables exactly
when no fence is open where the aggregation ends and trimming it does not change
how it is read. -/
theorem verdict_kept_iff : VerdictKept input ↔ ∀ output ∈ aggregationOutput input,
    SeamClosed (trim output) ∧
      extractAggregatorVerdict (some (trim output)) = extractAggregatorVerdict (some output) := by
  constructor
  · intro kept output found
    have found : aggregationOutput input = some output := found
    have closed : SeamClosed (trim output) := by
      by_contra opened
      rw [SeamClosed, not_or] at opened
      obtain ⟨apart, notShut⟩ := opened
      obtain ⟨fence, opened⟩ := Option.ne_none_iff_exists'.mp notShut
      have forged (verdict : AggregatorVerdict) :
          extractAggregatorVerdict (aggregationOutput input) = some verdict := by
        rw [← kept [forger fence verdict], extract_report found]
        exact readReport_forged apart opened
      have approved := forged .approve
      rw [forged .comment] at approved
      cases approved
    refine ⟨closed, ?_⟩
    obtain ⟨rest, heading⟩ := tailLines_heading []
    rw [← found, ← kept [], extract_report found, heading, readReport_closed closed]
    rfl
  · intro condition attempts
    cases found : aggregationOutput input with
    | some output =>
      obtain ⟨closed, same⟩ := condition output found
      obtain ⟨rest, heading⟩ := tailLines_heading attempts
      rw [extract_report found, heading, readReport_closed closed, ← same]
      rfl
    | none =>
      obtain ⟨rest, heading⟩ := tailLines_heading attempts
      have missing : synthesis { input with attempts } = none := by
        rw [synthesis_eq, found]
        rfl
      rw [extract_eq, linesOf_incomplete missing, heading]
      exact readReport_incomplete

def unclosedOutput : JsString := js "## 结论\nchanges-requested\n\n```diff\n- retry"

def unclosedInput : ReviewReportInput where
  runId := ⟨js "run-1", by decide⟩
  startedAt := ⟨js "2026-01-01T00:00:00.000Z", by decide⟩
  endedAt := ⟨js "2026-01-01T00:01:00.000Z", by decide⟩
  task := { task := some (js "review the queue") }
  attempts := []
  aggregator := ⟨js "chair", js "codex", js "o3"⟩
  aggregation := some { silentAttempt with output := unclosedOutput }
  status := .completed
  incomplete := false

omit [Unicode] in
theorem verdict_forged : ¬ @VerdictKept Unicode.ascii unclosedInput := by
  intro kept
  have output : aggregationOutput unclosedInput = some unclosedOutput := by decide +kernel
  have apart : ¬ ReachesAppendix (markdownLines (trim unclosedOutput)) := by
    have passes : (markdownLines (trim unclosedOutput)).all (fun entry => !APPENDIX entry.1) = true := by
      decide +kernel
    intro reached
    obtain ⟨entry, member, -, stops⟩ := reached
    have skipped := all_eq_true.mp passes entry member
    rw [stops] at skipped
    cases skipped
  have opened : fenceAfter none (linesOf (trim unclosedOutput)) =
      some ⟨0, 0x60, 3, by decide, by decide, by decide⟩ := by decide +kernel
  have forged := @extract_report _ Unicode.ascii _ [forger ⟨0, 0x60, 3, by decide, by decide,
    by decide⟩ .approve] output
  rw [kept, output, @readReport_forged _ Unicode.ascii _ _ apart opened] at forged
  revert forged
  decide +kernel

theorem read_blank {fence : Option Fence} :
    (window.read true (fenceWalk fence (lines ++ [[]]))).verdict =
      (window.read true (fenceWalk fence lines)).verdict := by
  rw [fenceWalk_append]
  by_cases reached : ReachesAppendix (fenceWalk fence lines)
  · rw [read_append_stopped reached]
  · rw [read_append reached]
    generalize window.read true (fenceWalk fence lines) = after
    have passes : fenceOpen [] = none ∧ APPENDIX [] = false ∧ CONCLUSION [] = false ∧
        NEXT_HEADING [] = false := by decide
    cases fenceAfter fence lines with
    | some open_ => rfl
    | none =>
      simp only [fenceWalk, passes.1, passes.2.1, passes.2.2.1, passes.2.2.2,
        ConclusionWindow.read, Option.isSome_none, Bool.or_self, Bool.false_eq_true, if_false,
        Bool.and_false]
      split
      · exact verdict_blank
      · rfl

end CouncilKit.Review
