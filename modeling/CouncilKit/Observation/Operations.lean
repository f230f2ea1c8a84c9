import CouncilKit.Data.Json
import CouncilKit.Data.Table
import CouncilKit.Data.Unicode

namespace CouncilKit.Observation

open Data

inductive RecordAction where
  | read | edit
deriving DecidableEq

structure RawSourceRecord where
  sourceId : JsString
  sourceGeneration : JsString
  executionRef : JsString
  round : Nat
  roleKey : JsString
  byteOffset : Nat
  receivedAt : JsString
  occurredAt : Option JsString := none
  type : JsString
  callId : Option JsString := none
  name : Option JsString := none
  summary : Option JsString := none
  text : Option JsString := none
  path : Option JsString := none
  action : Option RecordAction := none
  status : Option JsString := none
  exitCode : Option Int := none
  detail : Option JsString := none

inductive RepairOpKind where
  | progress | tool | file | command | state
deriving DecidableEq

def RepairOpKind.text : RepairOpKind → JsString
  | .progress => js "progress"
  | .tool => js "tool"
  | .file => js "file"
  | .command => js "command"
  | .state => js "state"

inductive RepairOpStatus where
  | started | completed | failed | unfinished | unknown
deriving DecidableEq

structure RepairOperation where
  eventId : JsString
  sourceId : JsString
  sourceGeneration : JsString
  executionRef : JsString
  round : Nat
  roleKey : JsString
  operationId : JsString
  revision : Nat
  occurredAt : Option JsString
  receivedAt : JsString
  kind : RepairOpKind
  status : RepairOpStatus
  summary : JsString
  detailRef : Option JsString
  truncated : Bool

def REPAIR_OBS_SUMMARY_MAX : Nat := 4 * 1024

def REPAIR_OBS_REDACT : JsString := js "[REDACTED]"

def unfinishedTool : JsString := js "未收到结束记录"

/-- `Date.parse`; `none` is `NaN`. -/
class Dates where
  parse : JsString → Option Int

def buildOperationId (executionRef sourceGeneration : JsString) (callId : Option JsString)
    (byteOffset : Nat) : JsString :=
  let callPart := match callId with
    | some callId => if callId ≠ [] then callId else js "off:" ++ .ofNat byteOffset
    | none => js "off:" ++ .ofNat byteOffset
  executionRef ++ js "|" ++ sourceGeneration ++ js "|" ++ callPart

def RawSourceRecord.operationId (record : RawSourceRecord) : JsString :=
  buildOperationId record.executionRef record.sourceGeneration record.callId record.byteOffset

def buildEventId [Digest] (operationId : JsString) (revision : Nat) : JsString :=
  js "evt_" ++ (Digest.sha256 (operationId ++ js "#" ++ .ofNat revision)).take 24

def TERMINAL_STATUS (status : RepairOpStatus) : Bool := status = .completed || status = .failed

def mergeOperationRevision (existing : Option RepairOperation) (next : RepairOperation) : RepairOperation :=
  match existing with
  | none => next
  | some existing =>
    if existing.operationId ≠ next.operationId then next
    else if TERMINAL_STATUS existing.status && next.status = .started then
      { existing with
        revision := max existing.revision next.revision
        receivedAt := if existing.receivedAt.Before next.receivedAt then next.receivedAt
          else existing.receivedAt }
    else if next.revision < existing.revision then existing
    else { next with
      revision := max existing.revision next.revision
      eventId := existing.eventId }

abbrev OperationTable := Table RepairOperation.operationId

/-- `byOp.set(row.operationId, mergeOperationRevision(byOp.get(row.operationId), row))` -/
def mergeRow (byOp : OperationTable) (row : RepairOperation) : OperationTable :=
  byOp.put (mergeOperationRevision (byOp.get row.operationId) row)

/-- The order of `upsertOperations`. -/
def receivedBefore (left right : RepairOperation) : Bool :=
  if left.receivedAt ≠ right.receivedAt then decide (left.receivedAt.Before right.receivedAt)
  else !decide (right.operationId.Before left.operationId)

def upsertOperations (existing incoming : List RepairOperation) : List RepairOperation :=
  let byOp : OperationTable := existing.foldl Table.put Table.empty
  (incoming.foldl mergeRow byOp).rows.mergeSort receivedBefore

variable [Unicode] [Digest]

def includes (text needle : JsString) : Bool := decide (needle <:+: text)

variable (record : RawSourceRecord)

def RawSourceRecord.isPrivate : Bool :=
  includes (toLowerCase record.type) (js "thinking") || includes (toLowerCase record.type) (js "reasoning")

/-- The operations written so far and the fragments that are not written yet. -/
structure TextFold where
  out : List RepairOperation := []
  buffer : List RawSourceRecord := []

/-- The operation of a run of text fragments, when their text is not blank. -/
def textOperation (buffer : List RawSourceRecord) : Option RepairOperation :=
  match buffer with
  | [] => none
  | first :: _ =>
    let joined : JsString := buffer.flatMap fun record => (record.text.or record.summary).getD []
    let text := joined.trim
    if text = [] then none
    else some {
      eventId := buildEventId first.operationId 1
      sourceId := first.sourceId
      sourceGeneration := first.sourceGeneration
      executionRef := first.executionRef
      round := first.round
      roleKey := first.roleKey
      operationId := first.operationId
      revision := 1
      occurredAt := first.occurredAt
      receivedAt := first.receivedAt
      kind := .progress
      status := .completed
      summary := text.clipUtf16 REPAIR_OBS_SUMMARY_MAX
      detailRef := none
      truncated := REPAIR_OBS_SUMMARY_MAX < text.length }

def TextFold.flush (fold : TextFold) : TextFold :=
  ⟨fold.out ++ (textOperation fold.buffer).toList, []⟩

def RawSourceRecord.isFragment : Bool :=
  [js "text", js "text.delta", js "progress"].contains (toLowerCase record.type)

def TextFold.otherRun (fold : TextFold) (record : RawSourceRecord) : Bool :=
  fold.buffer.head?.any fun first =>
    first.executionRef ≠ record.executionRef || first.roleKey ≠ record.roleKey

def TextFold.step (fold : TextFold) (record : RawSourceRecord) : TextFold :=
  if record.isPrivate then fold
  else if toLowerCase record.type = js "assistant" then
    TextFold.flush { fold.flush with buffer := [record] }
  else if record.isFragment then
    let open_ := if fold.otherRun record then fold.flush else fold
    { open_ with buffer := open_.buffer ++ [record] }
  else fold.flush

def foldPublicText (records : List RawSourceRecord) : List RepairOperation :=
  (records.foldl TextFold.step {}).flush.out

def RawSourceRecord.isTool : Bool :=
  let type := toLowerCase record.type
  (js "tool").isPrefixOf type || type = js "command" || type = js "file" || includes type (js "toolcall")

def RawSourceRecord.opKind : RepairOpKind :=
  let type := toLowerCase record.type
  let toolName := toLowerCase (record.name.getD [])
  if type = js "file" || record.action.isSome || includes toolName (js "read") ||
      includes toolName (js "edit") then .file
  else if type = js "command" || includes type (js "command") || includes toolName (js "shell") ||
      includes toolName (js "command") then .command
  else if type = js "state" then .state
  else .tool

def RawSourceRecord.opStatus : RepairOpStatus :=
  let type := toLowerCase record.type
  if record.status = some (js "unfinished") then .unfinished
  else if (js "failed").isSuffixOf type || record.status = some (js "failed") ||
      0 < record.exitCode.getD 0 then .failed
  else if (js "completed").isSuffixOf type || record.status = some (js "completed") then .completed
  else .started

/-- `record.detail`, when it is not empty. -/
def RawSourceRecord.givenDetail : Option JsString :=
  record.detail.filter (· ≠ [])

def RawSourceRecord.opSummary : JsString :=
  let fileAction := match record.action with
    | some .read => js "读取"
    | some .edit => js "修改"
    | none => js "文件"
  let fileNote := if record.action = some .edit then
      if record.givenDetail.isSome then js "已记录差异" else js "未记录"
    else []
  let baseSummary := if record.opKind = .file then
      (fileAction ++ js " " ++ record.path.getD [] ++ js " " ++ fileNote).trim
    else ((record.summary.or record.name).or record.text).getD record.opKind.text
  let detailNote := (record.givenDetail.filter fun detail =>
    includes detail REPAIR_OBS_REDACT || detail.length ≤ 120).getD []
  (if detailNote ≠ [] then baseSummary ++ js " " ++ detailNote else baseSummary).clipUtf16
    REPAIR_OBS_SUMMARY_MAX

def toolOperation : Option RepairOperation :=
  if record.isPrivate || !record.isTool && toLowerCase record.type ≠ js "state" then none
  else
    let revision := if record.opStatus = .started then 1 else 2
    some {
      eventId := buildEventId record.operationId revision
      sourceId := record.sourceId
      sourceGeneration := record.sourceGeneration
      executionRef := record.executionRef
      round := record.round
      roleKey := record.roleKey
      operationId := record.operationId
      revision
      occurredAt := record.occurredAt
      receivedAt := record.receivedAt
      kind := record.opKind
      status := record.opStatus
      summary := if record.opSummary ≠ [] then record.opSummary else record.opKind.text
      detailRef := record.givenDetail.map fun _ => js "detail:" ++ .ofNat record.byteOffset
      truncated := false }

def normalizeToolRecords (records : List RawSourceRecord) : List RepairOperation :=
  ((records.filterMap toolOperation).foldl mergeRow Table.empty).rows

def summaryWithUnfinishedNote (summary : JsString) : JsString :=
  let note := js " · " ++ unfinishedTool
  if includes summary unfinishedTool then summary
  else if (summary ++ note).length ≤ REPAIR_OBS_SUMMARY_MAX then summary ++ note
  else summary.clipUtf16 (REPAIR_OBS_SUMMARY_MAX - note.length) ++ note

def unfinishedAfterMs : Int := 180000

variable [Dates]

def RepairOperation.aged (op : RepairOperation) (nowMs : Int) : Bool :=
  op.status = .started && (op.kind = .tool || op.kind = .command) &&
    (Dates.parse (op.occurredAt.getD op.receivedAt)).any fun base => unfinishedAfterMs ≤ nowMs - base

def RepairOperation.marked (op : RepairOperation) (nowMs : Int) : RepairOperation :=
  if op.aged nowMs then { op with
    status := .unfinished
    summary := summaryWithUnfinishedNote op.summary
    revision := max op.revision 2 }
  else op

def markUnfinishedTools (ops : List RepairOperation) (nowMs : Int) : List RepairOperation :=
  ops.map fun op => op.marked nowMs

def RawSourceRecord.stamped (generation : JsString) (record : RawSourceRecord) : RawSourceRecord :=
  { record with sourceGeneration := generation }

def normalizeRecords (records : List RawSourceRecord) (generation : JsString) (nowMs : Int) :
    List RepairOperation :=
  let stamped := records.map fun record => record.stamped generation
  markUnfinishedTools (upsertOperations (foldPublicText stamped) (normalizeToolRecords stamped)) nowMs

def unseen (seen : List JsString) : List RepairOperation → List RepairOperation
  | [] => []
  | op :: rest =>
    if op.operationId ∈ seen then unseen seen rest else op :: unseen (op.operationId :: seen) rest

def mergeObservedOperations (existing incoming : List RepairOperation) : List RepairOperation :=
  (existing.map fun op =>
    (lookupLast incoming RepairOperation.operationId op.operationId).getD op) ++
    unseen (existing.map (·.operationId)) incoming

/-- What the client holds after a response; `none` before the first. -/
def mergeObservation (prev : Option (List RepairOperation)) (upserts : List RepairOperation)
    (reset : Bool) (nowMs : Int) : List RepairOperation :=
  match prev with
  | none => markUnfinishedTools upserts nowMs
  | some held =>
    if reset then markUnfinishedTools upserts nowMs
    else markUnfinishedTools (mergeObservedOperations held upserts) nowMs

end CouncilKit.Observation
