import CouncilKit.Observation.PageMerge

namespace CouncilKit.Observation

open Data List JsString TextFold

section

variable [Unicode] [Digest] {records : List RawSourceRecord} {record : RawSourceRecord}
  {op : RepairOperation} {id : JsString}

def textRunsAfter (buffer : List RawSourceRecord) : List RawSourceRecord → List (List RawSourceRecord)
  | [] => [buffer]
  | record :: rest =>
    if record.isPrivate then textRunsAfter buffer rest
    else if toLowerCase record.type = js "assistant" then
      buffer :: [record] :: textRunsAfter [] rest
    else if record.isFragment then
      if otherRun ⟨[], buffer⟩ record then buffer :: textRunsAfter [record] rest
      else textRunsAfter (buffer ++ [record]) rest
    else buffer :: textRunsAfter [] rest

def textRuns (records : List RawSourceRecord) : List (List RawSourceRecord) := textRunsAfter [] records

theorem foldl_textRuns (fold : TextFold) :
    (records.foldl step fold).flush.out =
      fold.out ++ (textRunsAfter fold.buffer records).filterMap textOperation := by
  have cut (buffer : List RawSourceRecord) (rest : List (List RawSourceRecord)) :
      (buffer :: rest).filterMap textOperation =
        (textOperation buffer).toList ++ rest.filterMap textOperation := by
    rw [filterMap_cons]
    cases textOperation buffer <;> rfl
  induction records generalizing fold with
  | nil =>
    rw [textRunsAfter, cut]
    simp [flush]
  | cons record rest ih =>
    rw [foldl_cons, ih, textRunsAfter, step]
    have other : otherRun ⟨[], fold.buffer⟩ record = fold.otherRun record := rfl
    split
    · rfl
    · split
      · rw [cut, cut]
        simp [flush]
      · split
        · rw [other]
          split
          · rw [cut]
            simp [flush]
          · rfl
        · rw [cut]
          simp [flush]

theorem foldPublicText_textRuns : foldPublicText records = (textRuns records).filterMap textOperation := by
  rw [foldPublicText, foldl_textRuns]
  rfl

/-- A record that an operation is named after: one of a tool or a state, or the first of a run of
fragments that are not blank together. -/
def Starts (records : List RawSourceRecord) (record : RawSourceRecord) : Prop :=
  record ∈ records ∧ (toolOperation record).isSome ∨
    ∃ run ∈ textRuns records, run.head? = some record ∧ (textOperation run).isSome

omit [Unicode] in
theorem textOperation_id {run : List RawSourceRecord} (written : textOperation run = some op) :
    ∃ record, run.head? = some record ∧ op.operationId = record.operationId ∧
      op.receivedAt = record.receivedAt := by
  cases run with
  | nil => cases written
  | cons first rest =>
    rw [textOperation] at written
    split at written
    · cases written
    · cases written
      exact ⟨first, rfl, rfl, rfl⟩

theorem toolOperation_id (reported : toolOperation record = some op) :
    op.operationId = record.operationId ∧ op.receivedAt = record.receivedAt := by
  rw [toolOperation] at reported
  split at reported
  · cases reported
  · cases reported
    exact ⟨rfl, rfl⟩

theorem mem_reports_starts : (∃ op ∈ reports records, op.operationId = id) ↔
    ∃ record, Starts records record ∧ record.operationId = id := by
  rw [reports, foldPublicText_textRuns]
  constructor
  · rintro ⟨op, member, rfl⟩
    rcases mem_append.mp member with text | tool
    · obtain ⟨run, inside, written⟩ := mem_filterMap.mp text
      obtain ⟨record, first, named, _⟩ := textOperation_id written
      exact ⟨record, .inr ⟨run, inside, first, by rw [written]; rfl⟩, named.symm⟩
    · obtain ⟨record, inside, reported⟩ := mem_filterMap.mp tool
      exact ⟨record, .inl ⟨inside, by rw [reported]; rfl⟩, (toolOperation_id reported).1.symm⟩
  · rintro ⟨record, starts, rfl⟩
    rcases starts with ⟨inside, reported⟩ | ⟨run, inside, first, written⟩
    · obtain ⟨op, made⟩ := Option.isSome_iff_exists.mp reported
      exact ⟨op, mem_append_right _ (mem_filterMap.mpr ⟨record, inside, made⟩), (toolOperation_id made).1⟩
    · obtain ⟨op, made⟩ := Option.isSome_iff_exists.mp written
      obtain ⟨other, head, named, _⟩ := textOperation_id made
      cases head.symm.trans first
      exact ⟨op, mem_append_left _ (mem_filterMap.mpr ⟨run, inside, made⟩), named⟩

/-- The records of a page are received at once, and lie one behind the other in the source. -/
structure OnePage (records : List RawSourceRecord) : Prop where
  received : ∃ receivedAt, ∀ record ∈ records, record.receivedAt = receivedAt
  placed : records.Pairwise fun early late => early.byteOffset < late.byteOffset

omit [Digest] in
theorem flatten_textRunsAfter (buffer : List RawSourceRecord) :
    (textRunsAfter buffer records).flatten.Sublist (buffer ++ records) := by
  induction records generalizing buffer with
  | nil =>
    rw [textRunsAfter, flatten_singleton, append_nil]
  | cons record rest ih =>
    have skipped := (sublist_cons_self record rest).append_left buffer
    rw [textRunsAfter]
    split
    · exact (ih buffer).trans skipped
    split
    · rw [flatten_cons, flatten_cons]
      exact ((ih []).cons_cons record).append_left buffer
    split
    · split
      · rw [flatten_cons]
        exact (ih [record]).append_left buffer
      · have grown := ih (buffer ++ [record])
        rwa [append_assoc] at grown
    · rw [flatten_cons]
      exact ((ih []).append_left buffer).trans skipped

theorem Starts.member (starts : Starts records record) : record ∈ records := by
  rcases starts with ⟨inside, _⟩ | ⟨run, inside, first, _⟩
  · exact inside
  · have flat : record ∈ (textRuns records).flatten :=
      mem_flatten.mpr ⟨run, inside, mem_of_mem_head? first⟩
    exact (flatten_textRunsAfter []).subset flat

variable {receivedAt : JsString}

theorem received_reports (received : ∀ record ∈ records, record.receivedAt = receivedAt) :
    ∀ op ∈ reports records, op.receivedAt = receivedAt := by
  intro op member
  rw [reports, foldPublicText_textRuns] at member
  rcases mem_append.mp member with text | tool
  · obtain ⟨run, inside, written⟩ := mem_filterMap.mp text
    obtain ⟨record, first, _, same⟩ := textOperation_id written
    have starts : Starts records record := .inr ⟨run, inside, first, by rw [written]; rfl⟩
    exact same.trans (received record starts.member)
  · obtain ⟨record, inside, reported⟩ := mem_filterMap.mp tool
    exact (toolOperation_id reported).2.trans (received record inside)

omit [Unicode] [Digest] in
theorem received_merge {held : Option RepairOperation}
    (before : ∀ row, held = some row → row.receivedAt = receivedAt) (here : op.receivedAt = receivedAt) :
    (mergeOperationRevision held op).receivedAt = receivedAt := by
  cases held with
  | none => exact here
  | some row =>
    have there := before row rfl
    rw [mergeOperationRevision]
    split
    · exact here
    · split
      · dsimp only
        split
        · exact here
        · exact there
      · split
        · exact there
        · exact here

omit [Unicode] [Digest] in
theorem received_foldl_mergeRow {ops : List RepairOperation} (table : OperationTable)
    (before : ∀ row ∈ table.rows, row.receivedAt = receivedAt)
    (more : ∀ op ∈ ops, op.receivedAt = receivedAt) :
    ∀ row ∈ (ops.foldl mergeRow table).rows, row.receivedAt = receivedAt := by
  induction ops generalizing table with
  | nil => exact before
  | cons op rest ih =>
    apply ih
    · intro row member
      rcases Table.mem_put.mp member with here | there
      · rw [here]
        apply received_merge _ (more op mem_cons_self)
        intro held found
        exact before held (Table.get_mem found).1
      · exact before row there.1
    · exact fun other member => more other (mem_cons_of_mem _ member)

variable [Dates] {nowMs : Int} {generation : JsString}

omit [Unicode] [Digest] in
theorem marked_receivedAt : (op.marked nowMs).receivedAt = op.receivedAt := by
  rw [RepairOperation.marked]
  split
  · rfl
  · rfl

theorem received_normalizeRecords (received : ∀ record ∈ records, record.receivedAt = receivedAt) :
    ∀ op ∈ normalizeRecords records generation nowMs, op.receivedAt = receivedAt := by
  intro op member
  have stamped : ∀ record ∈ records.map (·.stamped generation), record.receivedAt = receivedAt := by
    intro record inside
    obtain ⟨raw, there, rfl⟩ := mem_map.mp inside
    exact received raw there
  have reported := received_reports stamped
  obtain ⟨row, held, rfl⟩ := mem_map.mp member
  have rows := (mergeSort_perm _ receivedBefore).mem_iff.mp held
  have same : row.receivedAt = receivedAt := by
    refine received_foldl_mergeRow _ ?_ ?_ row rows
    · intro text put
      rcases mem_foldl_put _ text put with none_ | text
      · cases none_
      · exact reported _ (mem_append_left _ text)
    · refine received_foldl_mergeRow _ nofun fun tool tools => ?_
      exact reported tool (mem_append_right _ tools)
  rw [marked_receivedAt]
  exact same

theorem mem_ids_normalizeRecords : id ∈ ids (normalizeRecords records generation nowMs) ↔
    ∃ record, Starts (records.map (·.stamped generation)) record ∧ record.operationId = id := by
  have shown : (lookup (normalizeRecords records generation nowMs) id).map RepairOperation.shown =
      (said (reports (records.map (·.stamped generation))) nowMs id).map (·.value) :=
    lookup_normalizeRecords generation
  rw [← mem_reports_starts, ← not_iff_not, ← lookup_eq_none, ← Option.map_eq_none_iff, shown,
    Option.map_eq_none_iff, said, Ranked.best_eq_none, map_eq_nil_iff, filter_eq_nil_iff]
  simp only [decide_eq_true_eq, not_exists, not_and]

section

omit [Unicode] [Digest] [Dates]

theorem receivedBefore_iff {left right : RepairOperation} : receivedBefore left right = true ↔
    left.receivedAt.Before right.receivedAt ∨
      left.receivedAt = right.receivedAt ∧ ¬ right.operationId.Before left.operationId := by
  rw [receivedBefore]
  by_cases same : left.receivedAt = right.receivedAt
  · rw [if_neg (not_not.mpr same), same]
    simp [not_before_self]
  · rw [if_pos same]
    simp [same]

theorem receivedBefore_trans (first second third : RepairOperation)
    (earlier : receivedBefore first second = true) (later : receivedBefore second third = true) :
    receivedBefore first third = true := by
  rw [receivedBefore_iff] at earlier later ⊢
  rcases earlier with before | ⟨same, order⟩
  · rcases later with after | ⟨after, _⟩
    · exact .inl (before.trans after)
    · exact .inl (after ▸ before)
  · rcases later with after | ⟨after, more⟩
    · exact .inl (same ▸ after)
    · exact .inr ⟨same.trans after, not_before_trans order more⟩

theorem receivedBefore_total (left right : RepairOperation) :
    (receivedBefore left right || receivedBefore right left) = true := by
  rw [Bool.or_eq_true, receivedBefore_iff, receivedBefore_iff]
  rcases before_or_eq_or_before left.receivedAt right.receivedAt with before | same | after
  · exact .inl (.inl before)
  · by_cases order : right.operationId.Before left.operationId
    · exact .inr (.inr ⟨same.symm, order.asymm⟩)
    · exact .inl (.inr ⟨same, order⟩)
  · exact .inr (.inl after)

end

theorem sorted_normalizeRecords (page : OnePage records) :
    (ids (normalizeRecords records generation nowMs)).Pairwise Before := by
  obtain ⟨receivedAt, received⟩ := page.received
  have together : ∀ op ∈ normalizeRecords records generation nowMs, op.receivedAt = receivedAt :=
    received_normalizeRecords received
  have unique : (ids (normalizeRecords records generation nowMs)).Nodup := nodup_normalizeRecords generation
  have sorted : (normalizeRecords records generation nowMs).Pairwise
      fun early late => receivedBefore early late = true := by
    rw [normalizeRecords, markUnfinishedTools, pairwise_map]
    refine List.Pairwise.imp ?_ (pairwise_mergeSort receivedBefore_trans receivedBefore_total _)
    intro early late order
    rw [receivedBefore_iff] at order ⊢
    rw [marked_receivedAt, marked_receivedAt, marked_id, marked_id]
    exact order
  rw [ids, List.Nodup, pairwise_map] at unique
  rw [ids, pairwise_map]
  refine List.Pairwise.imp_of_mem ?_ (sorted.and unique)
  rintro early late first second ⟨order, apart⟩
  rcases receivedBefore_iff.mp order with before | ⟨_, notAfter⟩
  · rw [together early first, together late second] at before
    exact absurd before (not_before_self _)
  · rcases before_or_eq_or_before early.operationId late.operationId with before | same | after
    · exact before
    · exact absurd same apart
    · exact absurd after notAfter

def First (records : List RawSourceRecord) (record : RawSourceRecord) : Prop :=
  Starts records record ∧ ∀ other, Starts records other →
    other.operationId = record.operationId → record.byteOffset ≤ other.byteOffset

/-- One operation comes before another whose first record lies behind its own. -/
def KeepsFileOrder (records : List RawSourceRecord) (ops : List RepairOperation) : Prop :=
  ∀ early late, First records early → First records late → early.byteOffset < late.byteOffset →
    [early.operationId, late.operationId].Sublist (ids ops)

/-- The ids of the operations increase as texts along their first records. -/
def IdsIncrease (records : List RawSourceRecord) : Prop :=
  ∀ early late, First records early → First records late → early.byteOffset < late.byteOffset →
    early.operationId.Before late.operationId

omit [Unicode] [Digest] [Dates] in
theorem pair_sublist {texts : List JsString} {first second : JsString} (one : first ∈ texts)
    (two : second ∈ texts) (apart : first ≠ second) :
    [first, second].Sublist texts ∨ [second, first].Sublist texts := by
  induction texts with
  | nil => cases one
  | cons text rest ih =>
    rcases mem_cons.mp one with rfl | oneLater
    · have later := (mem_cons.mp two).resolve_left (Ne.symm apart)
      exact .inl ((singleton_sublist.mpr later).cons_cons _)
    · rcases mem_cons.mp two with rfl | twoLater
      · exact .inr ((singleton_sublist.mpr oneLater).cons_cons _)
      · exact (ih oneLater twoLater).imp (·.cons text) (·.cons text)

/-- A page keeps the order of the file exactly when its ids increase along it. -/
theorem page_order (page : OnePage records) :
    KeepsFileOrder (records.map (·.stamped generation)) (normalizeRecords records generation nowMs) ↔
      IdsIncrease (records.map (·.stamped generation)) := by
  have sorted : (ids (normalizeRecords records generation nowMs)).Pairwise Before :=
    sorted_normalizeRecords page
  have ordered {one two : JsString}
      (both : [one, two].Sublist (ids (normalizeRecords records generation nowMs))) : one.Before two := by
    have pair := sorted.sublist both
    exact (pairwise_cons.mp pair).1 two (mem_singleton_self two)
  constructor
  · intro keeps early late first second before
    exact ordered (keeps early late first second before)
  · intro increase early late first second before
    have order := increase early late first second before
    have one : early.operationId ∈ ids (normalizeRecords records generation nowMs) :=
      mem_ids_normalizeRecords.mpr ⟨early, first.1, rfl⟩
    have two : late.operationId ∈ ids (normalizeRecords records generation nowMs) :=
      mem_ids_normalizeRecords.mpr ⟨late, second.1, rfl⟩
    have apart : early.operationId ≠ late.operationId := by
      intro same
      rw [same] at order
      exact not_before_self _ order
    rcases pair_sublist one two apart with forth | back
    · exact forth
    · exact absurd (ordered back) order.asymm

end

def toolAt (byteOffset : Nat) : RawSourceRecord where
  sourceId := js "source"
  sourceGeneration := js "pending"
  executionRef := js "execution"
  round := 1
  roleKey := js "fixer"
  byteOffset
  receivedAt := js "2026-01-01T00:00:00.000Z"
  type := js "tool.started"
  name := some (js "search")

@[reducible] def offsetDigest : Digest where
  sha256 text :=
    if text = js "execution|generation|off:95#1" then
      js "84c53f2e401f6c1cfc113f34f2cf107be888fc336a2201439976e33e111ef220"
    else if text = js "execution|generation|off:104#1" then
      js "0f307f21d49e9a3084e80912f7e2985088a97ad1faa005d758233244153495b0"
    else js "38c1cc1b4bb06e504cb2488ea03585b70d8769a76d72a961d8c923600d0bbce7"

theorem onePage_tools {first second : Nat} (order : first < second) :
    OnePage [toolAt first, toolAt second] := by
  constructor
  · refine ⟨js "2026-01-01T00:00:00.000Z", ?_⟩
    intro record member
    simp only [mem_cons, not_mem_nil, or_false] at member
    obtain rfl | rfl := member
    · rfl
    · rfl
  · apply pairwise_pair.mpr
    exact order

theorem page_order_tools :
    letI := Unicode.ascii
    letI := offsetDigest
    letI := silentClock
    KeepsFileOrder ([toolAt 104, toolAt 195].map (·.stamped (js "generation")))
      (normalizeRecords [toolAt 104, toolAt 195] (js "generation") 0) := by
  let _ := Unicode.ascii
  let _ := offsetDigest
  let _ := silentClock
  apply (page_order (onePage_tools (by decide))).mpr
  have increase : ∀ early ∈ [toolAt 104, toolAt 195].map (·.stamped (js "generation")),
      ∀ late ∈ [toolAt 104, toolAt 195].map (·.stamped (js "generation")),
      early.byteOffset < late.byteOffset → early.operationId.map (·.toNat) < late.operationId.map (·.toNat) := by
    decide +kernel
  intro early late first second before
  exact increase early first.1.member late second.1.member before

/-- The tool call of the line at byte 104 is put before the one at byte 95. -/
theorem longer_offset_first :
    letI := Unicode.ascii
    letI := offsetDigest
    letI := silentClock
    OnePage [toolAt 95, toolAt 104] ∧
      ¬ KeepsFileOrder ([toolAt 95, toolAt 104].map (·.stamped (js "generation")))
        (normalizeRecords [toolAt 95, toolAt 104] (js "generation") 0) := by
  let _ := Unicode.ascii
  let _ := offsetDigest
  let _ := silentClock
  have page : OnePage [toolAt 95, toolAt 104] := onePage_tools (by decide)
  refine ⟨page, ?_⟩
  intro keeps
  have first : ∀ record ∈ [toolAt 95, toolAt 104].map (·.stamped (js "generation")),
      First ([toolAt 95, toolAt 104].map (·.stamped (js "generation"))) record := by
    have alone : ∀ record ∈ [toolAt 95, toolAt 104].map (·.stamped (js "generation")),
        (toolOperation record).isSome ∧
          ∀ other ∈ [toolAt 95, toolAt 104].map (·.stamped (js "generation")),
            other.operationId = record.operationId → record.byteOffset ≤ other.byteOffset := by
      decide +kernel
    intro record member
    obtain ⟨reported, least⟩ := alone record member
    exact ⟨.inl ⟨member, reported⟩, fun other starts same => least other starts.member same⟩
  have both := keeps ((toolAt 95).stamped (js "generation")) ((toolAt 104).stamped (js "generation"))
    (first _ (by simp)) (first _ (by simp)) (by decide)
  have sorted : (ids (normalizeRecords [toolAt 95, toolAt 104] (js "generation") 0)).Pairwise
      Before := sorted_normalizeRecords page
  have order := (pairwise_cons.mp (sorted.sublist both)).1 _ (mem_singleton_self _)
  revert order
  decide +kernel

end CouncilKit.Observation
