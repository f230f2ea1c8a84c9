import CouncilKit.Data.Ranked
import CouncilKit.Observation.Operations

namespace CouncilKit.Observation

open Data List Ranked Table

structure Shown where
  kind : RepairOpKind
  status : RepairOpStatus
  summary : JsString
deriving DecidableEq

def RepairOperation.shown (op : RepairOperation) : Shown := ⟨op.kind, op.status, op.summary⟩

def RepairOperation.rank (op : RepairOperation) : Nat :=
  if op.status = .started then 0 else op.revision

structure RepairOperation.Reported (op : RepairOperation) : Prop where
  started : op.status = .started → op.revision = 1
  ended : op.status ≠ .started → op.revision = 1 ∧ op.status = .completed ∨ op.revision = 2

variable {nowMs : Int} {op next : RepairOperation} {id : JsString}

theorem RepairOperation.Reported.revision_pos (reported : op.Reported) : 1 ≤ op.revision := by
  by_cases started : op.status = .started
  · rw [reported.started started]
  · rcases reported.ended started with text | two
    · omega
    · omega

section

variable [Dates]

def RepairOperation.ranked (nowMs : Int) (op : RepairOperation) : Ranked Shown :=
  ⟨op.rank, (op.marked nowMs).shown⟩

theorem marked_of_ended (ended : op.status ≠ .started) : op.marked nowMs = op := by
  rw [RepairOperation.marked, RepairOperation.aged]
  simp [ended]

@[simp] theorem marked_id : (op.marked nowMs).operationId = op.operationId := by
  rw [RepairOperation.marked]
  split
  · rfl
  · rfl

@[simp] theorem marked_marked : (op.marked nowMs).marked nowMs = op.marked nowMs := by
  by_cases aged : op.aged nowMs = true
  · apply marked_of_ended
    rw [RepairOperation.marked, if_pos aged]
    exact nofun
  · have same : op.marked nowMs = op := by rw [RepairOperation.marked, if_neg aged]
    rw [same, same]

theorem shown_marked : (op.marked nowMs).shown =
    if op.aged nowMs then ⟨op.kind, .unfinished, summaryWithUnfinishedNote op.summary⟩
    else op.shown := by
  rw [RepairOperation.marked]
  split
  · rfl
  · rfl

theorem ranked_eventId (eventId : JsString) :
    ({ op with eventId } : RepairOperation).ranked nowMs = op.ranked nowMs := by
  rw [RepairOperation.ranked, RepairOperation.ranked, shown_marked, shown_marked]
  rfl

theorem ranked_of_ended (ended : op.status ≠ .started) : op.ranked nowMs = ⟨op.revision, op.shown⟩ := by
  rw [RepairOperation.ranked, marked_of_ended ended, RepairOperation.rank, if_neg ended]

theorem rank_of_started (started : op.status = .started) : (op.ranked nowMs).rank = 0 :=
  if_pos started

variable (nowMs) in
theorem mergeOperationRevision_ranked (reported : op.Reported) (other : next.Reported)
    (same : op.operationId = next.operationId) :
    (mergeOperationRevision (some op) next).ranked nowMs = (op.ranked nowMs).pick (next.ranked nowMs) ∧
      (mergeOperationRevision (some op) next).Reported ∧
      (mergeOperationRevision (some op) next).operationId = next.operationId := by
  have positive := reported.revision_pos
  simp only [mergeOperationRevision]
  rw [if_neg (not_not.mpr same)]
  split
  · -- a late start keeps the end that is there
    rename_i late
    simp only [TERMINAL_STATUS, Bool.and_eq_true, Bool.or_eq_true, decide_eq_true_eq] at late
    obtain ⟨terminal, started⟩ := late
    have ended : op.status ≠ .started := by
      rcases terminal with done | failed
      · simp [done]
      · simp [failed]
    have revision : max op.revision next.revision = op.revision := by
      have one := other.started started
      omega
    rw [revision]
    refine ⟨?_, ⟨fun start => absurd start ended, reported.ended⟩, same⟩
    rw [pick_earlier]
    · rw [ranked_of_ended ended]
      exact ranked_of_ended ended
    · rw [rank_of_started started, ranked_of_ended ended]
      exact positive
  split
  · -- an older revision is a start after an end
    rename_i old
    have below : next.rank < op.rank := by
      have ended : op.status ≠ .started := by
        intro started
        have one := reported.started started
        have least := other.revision_pos
        omega
      simp only [RepairOperation.rank, if_neg ended]
      split
      · omega
      · omega
    exact ⟨(pick_earlier below).symm, reported, same⟩
  · rename_i notLate notOld
    have revision : max op.revision next.revision = next.revision := by omega
    have atLeast : op.rank ≤ next.rank := by
      by_cases started : op.status = .started
      · simp [RepairOperation.rank, started]
      by_cases nextStarted : next.status = .started
      · have one := other.started nextStarted
        rcases reported.ended started with text | two
        · simp [TERMINAL_STATUS, text.2, nextStarted] at notLate
        · omega
      · simp only [RepairOperation.rank, if_neg started, if_neg nextStarted]
        omega
    rw [revision]
    refine ⟨?_, ⟨other.started, other.ended⟩, rfl⟩
    rw [pick_later atLeast]
    exact ranked_eventId op.eventId

def said (ops : List RepairOperation) (nowMs : Int) (id : JsString) : Option (Ranked Shown) :=
  best ((ops.filter fun op => op.operationId = id).map (·.ranked nowMs))

variable {ops : List RepairOperation}

theorem said_append {more : List RepairOperation} :
    said (ops ++ more) nowMs id = join (said ops nowMs id) (said more nowMs id) := by
  simp only [said, filter_append, map_append, best_append]

theorem said_cons {rest : List RepairOperation} : said (op :: rest) nowMs id =
    if op.operationId = id then join (some (op.ranked nowMs)) (said rest nowMs id)
    else said rest nowMs id := by
  rw [said, filter_cons]
  split
  · rename_i same
    rw [decide_eq_true_eq] at same
    rw [if_pos same]
    rfl
  · rename_i other
    rw [decide_eq_true_eq] at other
    rw [if_neg other]
    rfl

variable (nowMs id) in
theorem get_mergeRow {table : OperationTable} (reported : ∀ row ∈ table.rows, row.Reported)
    (other : op.Reported) :
    ((mergeRow table op).get id).map (·.ranked nowMs) =
      (if op.operationId = id then
        join ((table.get id).map (·.ranked nowMs)) (some (op.ranked nowMs))
      else (table.get id).map (·.ranked nowMs)) ∧
    ∀ row ∈ (mergeRow table op).rows, row.Reported := by
  have merged : (mergeOperationRevision (table.get op.operationId) op).Reported ∧
      (mergeOperationRevision (table.get op.operationId) op).operationId = op.operationId ∧
      some ((mergeOperationRevision (table.get op.operationId) op).ranked nowMs) =
        join ((table.get op.operationId).map (·.ranked nowMs)) (some (op.ranked nowMs)) := by
    cases found : table.get op.operationId with
    | none => exact ⟨other, rfl, rfl⟩
    | some old =>
      obtain ⟨member, same⟩ := get_mem found
      obtain ⟨picked, kept, sameId⟩ :=
        mergeOperationRevision_ranked nowMs (reported old member) other same
      exact ⟨kept, sameId, congrArg some picked⟩
  obtain ⟨kept, sameId, picked⟩ := merged
  constructor
  · rw [mergeRow, get_put, sameId]
    by_cases same : op.operationId = id
    · rw [if_pos same.symm, if_pos same, ← same]
      exact picked
    · rw [if_neg (Ne.symm same), if_neg same]
  · intro row member
    rcases mem_put.mp member with here | there
    · exact here ▸ kept
    · exact reported row there.1

variable (nowMs id) in
theorem get_foldl_mergeRow (table : OperationTable)
    (reported : ∀ row ∈ table.rows, row.Reported) (others : ∀ op ∈ ops, op.Reported) :
    ((ops.foldl mergeRow table).get id).map (·.ranked nowMs) =
      join ((table.get id).map (·.ranked nowMs)) (said ops nowMs id) ∧
    ∀ row ∈ (ops.foldl mergeRow table).rows, row.Reported := by
  induction ops generalizing table with
  | nil => exact ⟨join_none.symm, reported⟩
  | cons op rest ih =>
    obtain ⟨merged, kept⟩ := get_mergeRow nowMs id reported (others op mem_cons_self)
    obtain ⟨folded, all⟩ := ih (mergeRow table op) kept
      fun other member => others other (mem_cons_of_mem _ member)
    refine ⟨?_, all⟩
    rw [foldl_cons, folded, merged, said_cons]
    split
    · rw [join_assoc]
    · rfl

variable (nowMs id) in
theorem get_foldl_put (table : OperationTable)
    (held : ∀ row ∈ table.rows, row.rank = 1) (texts : ∀ op ∈ ops, op.rank = 1) :
    ((ops.foldl put table).get id).map (·.ranked nowMs) =
      join ((table.get id).map (·.ranked nowMs)) (said ops nowMs id) := by
  induction ops generalizing table with
  | nil => exact join_none.symm
  | cons op rest ih =>
    have one := texts op mem_cons_self
    have next : ∀ row ∈ (table.put op).rows, row.rank = 1 := by
      intro row member
      rcases mem_put.mp member with here | there
      · exact here ▸ one
      · exact held row there.1
    rw [foldl_cons, ih (table.put op) next
      fun other member => texts other (mem_cons_of_mem _ member), said_cons, get_put]
    by_cases same : op.operationId = id
    · rw [if_pos same.symm, if_pos same, ← join_assoc]
      congr 1
      cases found : table.get id with
      | none => rfl
      | some old =>
        have oldRank := held old (get_mem found).1
        apply congrArg some
        exact (pick_later (show old.rank ≤ op.rank by omega)).symm
    · rw [if_neg (Ne.symm same), if_neg same]

end

def lookup (ops : List RepairOperation) (id : JsString) : Option RepairOperation :=
  ops.find? fun op => op.operationId = id

def ids (ops : List RepairOperation) : List JsString := ops.map (·.operationId)

variable {ops : List RepairOperation}

theorem lookup_eq_some (unique : (ids ops).Nodup) :
    lookup ops id = some op ↔ op ∈ ops ∧ op.operationId = id :=
  @Table.get_eq_some _ _ RepairOperation.operationId _ ⟨ops, unique⟩ id op

theorem lookup_eq_none :
    lookup ops id = none ↔ id ∉ ids ops := by
  simp only [lookup, ids, List.find?_eq_none, decide_eq_true_eq, mem_map, not_exists, not_and]

theorem lookup_perm (id : JsString) {other : List RepairOperation} (unique : (ids ops).Nodup)
    (same : ops.Perm other) : lookup other id = lookup ops id := by
  have uniqueOther : (ids other).Nodup := (same.map _).nodup_iff.mp unique
  cases found : lookup ops id with
  | none =>
    rw [lookup_eq_none] at found ⊢
    exact fun inside => found ((same.map _).mem_iff.mpr inside)
  | some op =>
    obtain ⟨member, key⟩ := (lookup_eq_some unique).mp found
    exact (lookup_eq_some uniqueOther).mpr ⟨same.mem_iff.mp member, key⟩

section

variable [Dates]

variable {ops : List RepairOperation}

theorem lookup_marked :
    lookup (markUnfinishedTools ops nowMs) id = (lookup ops id).map (·.marked nowMs) := by
  rw [lookup, markUnfinishedTools, List.find?_map]
  congr 2
  funext op
  simp

theorem ids_marked : ids (markUnfinishedTools ops nowMs) = ids ops := by
  simp [ids, markUnfinishedTools]

theorem said_unique (unique : (ids ops).Nodup) :
    said ops nowMs id = (lookup ops id).map (·.ranked nowMs) := by
  induction ops with
  | nil => rfl
  | cons op rest ih =>
    rw [ids, map_cons, nodup_cons] at unique
    have later := ih unique.2
    rw [said_cons, lookup, List.find?_cons]
    by_cases same : op.operationId = id
    · rw [if_pos same, later]
      have absent : lookup rest id = none := lookup_eq_none.mpr (same ▸ unique.1)
      simp [absent, same]
    · rw [if_neg same, later]
      simp [same, lookup]

end

theorem mem_foldl_put (table : OperationTable) :
    ∀ row ∈ (ops.foldl put table).rows, row ∈ table.rows ∨ row ∈ ops := by
  induction ops generalizing table with
  | nil => exact fun row member => .inl member
  | cons op rest ih =>
    intro row member
    rcases ih (table.put op) row member with put | later
    · rcases mem_put.mp put with here | there
      · exact .inr (here ▸ mem_cons_self)
      · exact .inl there.1
    · exact .inr (mem_cons_of_mem _ later)

variable {records : List RawSourceRecord} {record : RawSourceRecord}

def IsText (op : RepairOperation) : Prop :=
  op.status = .completed ∧ op.revision = 1 ∧ op.kind = .progress

theorem IsText.rank (text : IsText op) : op.rank = 1 := by
  rw [RepairOperation.rank, if_neg (by simp [text.1]), text.2.1]

theorem IsText.reported (text : IsText op) : op.Reported :=
  ⟨fun started => by simp [text.1] at started, fun _ => .inl ⟨text.2.1, text.1⟩⟩

section

variable [Unicode]

theorem opKind_ne : record.opKind ≠ .progress := by
  simp only [RawSourceRecord.opKind]
  split
  · exact nofun
  split
  · exact nofun
  split
  · exact nofun
  · exact nofun

/-- The report of a tool record: a start, or an end at the second revision. -/
structure IsTool (op : RepairOperation) (record : RawSourceRecord) : Prop where
  kind : op.kind = record.opKind
  status : op.status = record.opStatus
  revision : op.revision = if record.opStatus = .started then 1 else 2

theorem IsTool.reported (tool : IsTool op record) : op.Reported := by
  have revision := tool.revision
  rw [← tool.status] at revision
  constructor
  · intro started
    rw [revision, if_pos started]
  · intro ended
    rw [revision, if_neg ended]
    exact .inr rfl

theorem IsTool.rank (tool : IsTool op record) :
    op.rank = if op.status = .started then 0 else 2 := by
  rw [RepairOperation.rank, tool.revision, ← tool.status]
  split
  · rfl
  · rfl

variable [Digest]

omit [Unicode] in
theorem textOperation_some {buffer : List RawSourceRecord} (written : textOperation buffer = some op) :
    op.status = .completed ∧ op.revision = 1 ∧ op.kind = .progress := by
  cases buffer with
  | nil => cases written
  | cons first rest =>
    simp only [textOperation] at written
    split at written
    · cases written
    · cases written
      exact ⟨rfl, rfl, rfl⟩

omit [Unicode] in
theorem flush_texts {fold : TextFold} (texts : ∀ op ∈ fold.out, IsText op) :
    ∀ op ∈ fold.flush.out, IsText op := by
  intro op member
  rcases mem_append.mp member with there | new
  · exact texts op there
  · exact textOperation_some (Option.mem_toList.mp new)

theorem step_texts {fold : TextFold} (texts : ∀ op ∈ fold.out, IsText op) :
    ∀ op ∈ (fold.step record).out, IsText op := by
  rw [TextFold.step]
  split
  · exact texts
  split
  · exact flush_texts (flush_texts texts)
  split
  · dsimp only
    split
    · exact flush_texts texts
    · exact texts
  · exact flush_texts texts

theorem foldPublicText_texts : ∀ op ∈ foldPublicText records, IsText op := by
  have folded (fold : TextFold) (texts : ∀ op ∈ fold.out, IsText op) :
      ∀ op ∈ (records.foldl TextFold.step fold).out, IsText op := by
    induction records generalizing fold with
    | nil => exact texts
    | cons record rest ih => exact ih _ (step_texts texts)
  exact flush_texts (folded {} (by simp))

theorem toolOperation_some (reported : toolOperation record = some op) : IsTool op record := by
  rw [toolOperation] at reported
  split at reported
  · cases reported
  · cases reported
    exact ⟨rfl, rfl, rfl⟩

def reports (records : List RawSourceRecord) : List RepairOperation :=
  foldPublicText records ++ records.filterMap toolOperation

theorem mem_reports (member : op ∈ reports records) : IsText op ∨ ∃ record ∈ records, IsTool op record := by
  rcases mem_append.mp member with text | tool
  · exact .inl (foldPublicText_texts op text)
  · obtain ⟨record, inside, reported⟩ := mem_filterMap.mp tool
    exact .inr ⟨record, inside, toolOperation_some reported⟩

theorem nodup_normalizeToolRecords : (ids (normalizeToolRecords records)).Nodup :=
  unique _

variable [Dates]

theorem said_normalizeToolRecords :
    said (normalizeToolRecords records) nowMs id = said (records.filterMap toolOperation) nowMs id := by
  rw [said_unique nodup_normalizeToolRecords]
  have tools : ∀ op ∈ records.filterMap toolOperation, op.Reported := by
    intro op member
    obtain ⟨record, -, reported⟩ := mem_filterMap.mp member
    exact (toolOperation_some reported).reported
  exact (get_foldl_mergeRow nowMs id empty (by simp [empty]) tools).1

theorem nodup_normalizeRecords (generation : JsString) :
    (ids (normalizeRecords records generation nowMs)).Nodup := by
  rw [normalizeRecords, ids_marked, upsertOperations, ids]
  exact ((mergeSort_perm _ _).map _).nodup_iff.mpr (unique _)

theorem lookup_normalizeRecords (generation : JsString) :
    (lookup (normalizeRecords records generation nowMs) id).map RepairOperation.shown =
      (said (reports (records.map (·.stamped generation))) nowMs id).map (·.value) := by
  rw [normalizeRecords, lookup_marked, upsertOperations, reports]
  generalize records.map (·.stamped generation) = stamped
  have texts : ∀ op ∈ foldPublicText stamped, IsText op := foldPublicText_texts
  have tools : ∀ op ∈ normalizeToolRecords stamped, op.Reported := by
    have all : ∀ op ∈ stamped.filterMap toolOperation, op.Reported := by
      intro op member
      obtain ⟨record, -, reported⟩ := mem_filterMap.mp member
      exact (toolOperation_some reported).reported
    exact (get_foldl_mergeRow nowMs id empty (by simp [empty]) all).2
  have written : ∀ row ∈ ((foldPublicText stamped).foldl put (empty : OperationTable)).rows,
      row.Reported := by
    intro row member
    rcases mem_foldl_put empty row member with empty | text
    · cases empty
    · exact (texts row text).reported
  have put := get_foldl_put nowMs id empty (by simp [empty])
    fun op member => (texts op member).rank
  have merged := (get_foldl_mergeRow nowMs id _ written tools).1
  rw [put, said_normalizeToolRecords] at merged
  have sorted := lookup_perm id
    ((normalizeToolRecords stamped).foldl mergeRow
      ((foldPublicText stamped).foldl Table.put Table.empty)).unique
    (mergeSort_perm _ receivedBefore).symm
  rw [sorted, said_append, Option.map_map]
  have values := congrArg (Option.map (·.value)) merged
  rw [Option.map_map] at values
  exact values

end

end CouncilKit.Observation
