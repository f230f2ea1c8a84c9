import CouncilKit.Discussion.ContextSnapshot

namespace CouncilKit.Host

open Data JsString
open Discussion

def renderItem (item : SnapshotItem) : JsString :=
  match item.role with
  | .user => js "[user]\n" ++ item.content
  | .summary => js "[summary]\n" ++ item.content
  | .participant =>
    js "[participant " ++ item.participantId.getD (js "unknown") ++ js "]\n" ++ item.content

def renderItems (items : List SnapshotItem) : JsString :=
  join (js "\n\n") (items.map renderItem)

def renderTurn (snapshot : ContextSnapshot) (fromIndex : Nat) : JsString × Nat :=
  let items := snapshot.items.drop fromIndex
  let header := join (js "\n")
    ([js "# Discussion context (revision " ++ ofNat snapshot.contextRevision ++ js ")"] ++
      (snapshot.topic.filter (· ≠ [])).toList.map (js "Topic: " ++ ·) ++
      (snapshot.background.filter (· ≠ [])).toList.map (js "Background:\n" ++ ·))
  (join (js "\n\n") ((if fromIndex = 0 then [header] else []) ++
    (if items = [] then [] else [renderItems items]) ++
    [js "# Instruction (" ++ snapshot.instruction.kind.text ++ js ")\n" ++
      snapshot.instruction.text]), snapshot.items.length)

def SESSION_MAX_EXECUTIONS : Nat := 32

def DEFAULT_CONTEXT_WINDOW_TOKENS : Nat := 65536

structure SessionRecord where
  participantId : JsString
  sessionEpoch : Nat
  digestVersion : Int
  contextRevision : Nat
  contextDigest : JsString
  participantSnapshotDigest : JsString
  appliedItemCount : Nat
  itemDigests : List JsString
  topic : JsString
  background : JsString
  executionCount : Nat
  cumulativeInputTokens : Nat
  executionIds : List JsString

inductive RebaseReason where
  | digest_version_changed | history_replaced | shared_context_changed | participant_changed
  | revision_regressed | session_execution_limit | context_window_threshold
deriving DecidableEq

inductive PromptBasis where
  | full | incremental
deriving DecidableEq

inductive ReconcileOutcome where
  | ok (basis : PromptBasis) (prompt : JsString) (appliedItemCount : Nat)
  | needs_rebase (reason : RebaseReason)
deriving DecidableEq

abbrev SessionRecords := Table SessionRecord.participantId

variable [Digest]

def hashItem (item : SnapshotItem) : JsString :=
  (digestOf item.json).get (by
    cases participant : item.participantId <;> cases source : item.sourceExecutionId <;>
      simp [digestOf, Json.canonicalJson, SnapshotItem.json, participant, source, Json.serialize,
        Json.serializeMembers, Json.MAX_DEPTH])

/-- The items applied before are no prefix of these: too few, or one differs. -/
def HistoryReplaced (record : SessionRecord) (items : List SnapshotItem) : Prop :=
  items.length < record.appliedItemCount ∨ ∃ index < record.appliedItemCount,
    items[index]?.map hashItem ≠ record.itemDigests[index]?

instance (record : SessionRecord) (items : List SnapshotItem) :
    Decidable (HistoryReplaced record items) := inferInstanceAs (Decidable (_ ∨ _))

def reconcile (records : SessionRecords) (participantId : JsString) (snapshot : ContextSnapshot)
    (driverSessionEpoch : Nat) (contextWindowTokens : Option Nat) : ReconcileOutcome :=
  match (records.get participantId).filter (·.sessionEpoch = driverSessionEpoch) with
  | none =>
    let (prompt, itemCount) := renderTurn snapshot 0
    .ok .full prompt itemCount
  | some record =>
    if record.executionCount ≥ SESSION_MAX_EXECUTIONS then .needs_rebase .session_execution_limit
    -- The threshold is half of the window.
    else if 2 * record.cumulativeInputTokens ≥
        contextWindowTokens.getD DEFAULT_CONTEXT_WINDOW_TOKENS then
      .needs_rebase .context_window_threshold
    else if snapshot.digestVersion ≠ record.digestVersion then
      .needs_rebase .digest_version_changed
    else if snapshot.contextRevision < record.contextRevision then
      .needs_rebase .revision_regressed
    else if snapshot.participantSnapshotDigest ≠ record.participantSnapshotDigest then
      .needs_rebase .participant_changed
    else if HistoryReplaced record snapshot.items then .needs_rebase .history_replaced
    else if snapshot.topic.getD [] ≠ record.topic ∨
        snapshot.background.getD [] ≠ record.background then
      .needs_rebase .shared_context_changed
    else
      let (prompt, itemCount) := renderTurn snapshot record.appliedItemCount
      .ok .incremental prompt itemCount

def recordApplied (records : SessionRecords) (participantId : JsString)
    (snapshot : ContextSnapshot) (executionId : JsString) (driverSessionEpoch : Nat)
    (inputTokens : Option Nat) : SessionRecords :=
  let existing := (records.get participantId).filter (·.sessionEpoch = driverSessionEpoch)
  records.put {
    participantId
    sessionEpoch := driverSessionEpoch
    digestVersion := snapshot.digestVersion
    contextRevision := snapshot.contextRevision
    contextDigest := snapshot.contextDigest
    participantSnapshotDigest := snapshot.participantSnapshotDigest
    appliedItemCount := snapshot.items.length
    itemDigests := snapshot.items.map hashItem
    topic := snapshot.topic.getD []
    background := snapshot.background.getD []
    executionCount := (existing.map (·.executionCount)).getD 0 + 1
    cumulativeInputTokens :=
      (existing.map (·.cumulativeInputTokens)).getD 0 + inputTokens.getD 0
    executionIds := (existing.map (·.executionIds)).getD [] ++ [executionId] }

omit [Digest] in
def invalidate (records : SessionRecords) (participantId : JsString) : SessionRecords :=
  records.filter (·.participantId ≠ participantId)

/-- The records after turns that applied such snapshots, in any order and for
any participants, and sessions that were lost. -/
inductive AppliedFrom (snapshots : ContextSnapshot → Prop) : SessionRecords → Prop
  | empty : AppliedFrom snapshots .empty
  | applied {records : SessionRecords} {snapshot : ContextSnapshot} (participantId executionId : JsString)
      (epoch : Nat) (inputTokens : Option Nat) (held : AppliedFrom snapshots records)
      (known : snapshots snapshot) :
      AppliedFrom snapshots
        (recordApplied records participantId snapshot executionId epoch inputTokens)
  | invalidated {records : SessionRecords} (participantId : JsString)
      (held : AppliedFrom snapshots records) :
      AppliedFrom snapshots (invalidate records participantId)

variable {records : SessionRecords} {participantId : JsString} {later : ContextSnapshot}
  {epoch : Nat} {window : Option Nat}

theorem historyReplaced_prefix {record : SessionRecord} {applied items : List SnapshotItem}
    (count : record.appliedItemCount = applied.length)
    (digests : record.itemDigests = applied.map hashItem) (grown : applied <+: items) :
    ¬ HistoryReplaced record items := by
  intro replaced
  rcases replaced with fewer | ⟨index, inside, differs⟩
  · have := grown.length_le
    omega
  · rw [count] at inside
    apply differs
    rw [digests, List.getElem?_map, List.prefix_iff_getElem?.mp grown index inside,
      List.getElem?_eq_getElem inside]

theorem reconcile_history_replaced
    (refused : reconcile records participantId later epoch window = .needs_rebase .history_replaced) :
    ∃ record, records.get participantId = some record ∧ HistoryReplaced record later.items := by
  simp only [reconcile] at refused
  split at refused
  · contradiction
  · rename_i record found
    refine ⟨record, (Option.filter_eq_some_iff.mp found).1, ?_⟩
    by_cases replaced : HistoryReplaced record later.items
    · exact replaced
    · rw [if_neg replaced] at refused
      repeat' split at refused
      all_goals contradiction

variable {snapshots : ContextSnapshot → Prop}

theorem AppliedFrom.record
    (applied : AppliedFrom snapshots records) {record : SessionRecord} (member : record ∈ records.rows) :
    ∃ snapshot, snapshots snapshot ∧ record.appliedItemCount = snapshot.items.length ∧
      record.itemDigests = snapshot.items.map hashItem := by
  induction applied with
  | empty => exact absurd member List.not_mem_nil
  | @applied records snapshot participantId executionId epoch inputTokens held known ih =>
    rcases Table.mem_put.mp member with rfl | ⟨old, -⟩
    · exact ⟨snapshot, known, rfl, rfl⟩
    · exact ih old
  | invalidated participantId held ih => exact ih (Table.mem_filter.mp member).1

theorem reconcile_appended (applied : AppliedFrom snapshots records)
    (grown : ∀ snapshot, snapshots snapshot → snapshot.items <+: later.items) :
    reconcile records participantId later epoch window ≠ .needs_rebase .history_replaced := by
  intro refused
  obtain ⟨record, stored, replaced⟩ := reconcile_history_replaced refused
  obtain ⟨snapshot, known, count, digests⟩ := applied.record (Table.get_mem stored).1
  exact historyReplaced_prefix count digests (grown snapshot known) replaced

end CouncilKit.Host
