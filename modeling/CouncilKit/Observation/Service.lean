import CouncilKit.Observation.SourceReader

namespace CouncilKit.Observation

open Data Repair SourceText

def REPAIR_OBS_CURSOR_MAX : Nat := 4096

/-- `base64UrlEncode` and `base64UrlDecode`, which may throw. -/
class CursorText where
  base64UrlEncode : JsString → JsString
  base64UrlDecode : JsString → Option JsString

structure Watermark where
  sourceId : JsString
  generation : JsString
  offset : Nat
deriving DecidableEq

structure ObservationCursor where
  runId : JsString
  round : Nat
  direction : Direction
  watermarks : List Watermark
deriving DecidableEq

def Direction.text : Direction → JsString
  | .forward => js "forward"
  | .earlier => js "earlier"

def Watermark.json (mark : Watermark) : Json :=
  .object [(js "sourceId", .string mark.sourceId), (js "generation", .string mark.generation),
    (js "offset", .number mark.offset)]

def ObservationCursor.json (cursor : ObservationCursor) : Json :=
  .object [(js "runId", .string cursor.runId), (js "round", .number cursor.round),
    (js "direction", .string cursor.direction.text),
    (js "watermarks", .array (cursor.watermarks.map Watermark.json))]

section

variable [CursorText] [SourceText]

/-- `none` stands for the thrown "cursor too large". -/
def encodeObservationCursor (cursor : ObservationCursor) : Option JsString :=
  let encoded := CursorText.base64UrlEncode cursor.json.stringify
  if REPAIR_OBS_CURSOR_MAX < encoded.length then none else some encoded

def decodeWatermark (item : Json) : Except JsString Watermark :=
  match item with
  | .null => .error (js "invalid watermark")
  | .object row =>
    match stringOf (property row "sourceId"), stringOf (property row "generation") with
    | some sourceId, some generation =>
      match property row "offset" with
      | some (.number offset) =>
        if offset < 0 then .error (js "invalid watermark offset")
        else .ok ⟨sourceId, generation, offset.toNat⟩
      | _ => .error (js "invalid watermark offset")
    | _, _ => .error (js "invalid watermark fields")
  | .array _ => .error (js "invalid watermark fields")
  | _ => .error (js "invalid watermark")

def directionOf (value : Option Json) : Option Direction :=
  match stringOf value with
  | some text =>
    if text = js "forward" then some .forward
    else if text = js "earlier" then some .earlier
    else none
  | none => none

def decodeObservationCursor (raw : Option JsString) (runId : JsString) (round : Nat) :
    Except JsString ObservationCursor :=
  match raw with
  | none => .ok ⟨runId, round, .forward, []⟩
  | some raw =>
    if raw = [] then .ok ⟨runId, round, .forward, []⟩
    else if REPAIR_OBS_CURSOR_MAX < raw.length then .error (js "cursor too large")
    else
      match (CursorText.base64UrlDecode raw).bind parse with
      | none => .error (js "invalid cursor encoding")
      | some (.object row) =>
        if stringOf (property row "runId") ≠ some runId then .error (js "cursor run mismatch")
        else if numberIs (property row "round") round = false then
          .error (js "cursor round mismatch")
        else match directionOf (property row "direction") with
          | none => .error (js "invalid cursor direction")
          | some direction =>
            match property row "watermarks" with
            | some (.array items) =>
              (items.mapM decodeWatermark).map fun watermarks =>
                ⟨runId, round, direction, watermarks⟩
            | _ => .error (js "invalid watermarks")
      | some _ => .error (js "invalid cursor shape")
where
  numberIs (value : Option Json) (wanted : Nat) : Bool :=
    match value with
    | some (.number found) => found = wanted
    | _ => false

/-- `encodeEarlierCursor` on the marks in reverse: the last is left out until the rest fits. -/
def encodePending (runId : JsString) (round : Nat) : List Watermark → Option JsString
  | [] => none
  | last :: rest =>
    (encodeObservationCursor ⟨runId, round, .earlier, (last :: rest).reverse⟩).or
      (encodePending runId round rest)

def encodeEarlierCursor (runId : JsString) (round : Nat) (marks : List Watermark) : Option JsString :=
  encodePending runId round (marks.filter (0 < ·.offset)).reverse

end

inductive TrustedSourceKind where
  | orchestrator_log | adapter_meta | child_review_live | evidence
deriving DecidableEq

/-- A trusted source with the file that stands at its path. -/
structure TrustedSource where
  sourceId : JsString
  kind : TrustedSourceKind
  file : Option SourceFile
  round : Nat
  roleKey : JsString
  executionRef : JsString

def TrustedSource.meta (source : TrustedSource) : SourceMeta :=
  ⟨source.sourceId, source.executionRef, source.round, source.roleKey⟩

def TrustedSource.isRead (source : TrustedSource) : Bool :=
  source.kind ≠ .evidence && source.kind ≠ .adapter_meta

structure SourceWatermark where
  sourceId : JsString
  generation : JsString
  cursor : JsString

structure PollRequest where
  runId : JsString
  round : Nat
  decoded : Except JsString ObservationCursor
  limit : Nat
  now : JsString
  nowMs : Int

structure Poll where
  reset : Bool
  reasons : List JsString
  upserts : List RepairOperation := []
  watermarks : List SourceWatermark := []
  earlierMarks : List Watermark := []
  hasMore : Bool := false
  sourcesExhausted : Bool := true
  anyRecords : Bool := false

def PollRequest.start (request : PollRequest) (reasons : List JsString) : Poll :=
  match request.decoded with
  | .ok _ => { reset := false, reasons }
  | .error reason => { reset := true, reasons := reasons ++ [reason] }

def PollRequest.prev (request : PollRequest) (source : TrustedSource) : Option Watermark :=
  match request.decoded with
  | .ok cursor => cursor.watermarks.find? (·.sourceId = source.sourceId)
  | .error _ => none

def PollRequest.direction (request : PollRequest) (reset : Bool) : Direction :=
  match request.decoded with
  | .ok cursor => if reset then .forward else cursor.direction
  | .error _ => .forward

section

variable [Digest]

def pinUnreadSource (source : TrustedSource) : Option Watermark :=
  source.file.map fun file => ⟨source.sourceId, fingerprintSource file.ino, 0⟩

variable [CursorText] [SourceText]

def PollRequest.watermark (request : PollRequest) (mark : Watermark) : Option SourceWatermark :=
  (encodeObservationCursor ⟨request.runId, request.round, .forward, [mark]⟩).map fun cursor =>
    ⟨mark.sourceId, mark.generation, cursor⟩

def pollFull (request : PollRequest) (poll : Poll) (source : TrustedSource) : Option Poll := do
  let prev := request.prev source
  let held := prev.or (pinUnreadSource source)
  let mark ← match held with
    | some held => (request.watermark { held with sourceId := source.sourceId }).map ([·])
    | none => some []
  let earlier := match prev with
    | some prev =>
      if request.direction poll.reset = .earlier && 0 < prev.offset then
        [⟨source.sourceId, prev.generation, prev.offset⟩]
      else []
    | none => []
  pure { poll with
    hasMore := true
    sourcesExhausted := false
    watermarks := poll.watermarks ++ mark
    earlierMarks := poll.earlierMarks ++ earlier }

def readReasons (source : TrustedSource) (read : SourceReadResult) : List JsString :=
  (if read.unreadable then [js "来源权限不足，部分记录不可读"] else []) ++
    (if 0 < read.partialBadLines then
      [js "坏行已跳过 " ++ .ofNat read.partialBadLines ++ js " 条，后续记录继续"] else []) ++
    (if 0 < read.isolatedOversize then
      [source.sourceId ++ js ": isolated " ++ .ofNat read.isolatedOversize ++ js " oversize lines"]
    else [])

variable [Unicode] [Dates]

variable (request : PollRequest)

def pollRead (poll : Poll) (source : TrustedSource) : SourceReadResult :=
  let prev := request.prev source
  readSourceWindow source.meta request.now source.file
    ⟨prev.map (·.generation), if poll.reset then none else prev.map (·.offset)⟩
    (request.limit - poll.upserts.length) (request.direction poll.reset)

def readOps (read : SourceReadResult) : List RepairOperation :=
  normalizeRecords read.records read.generation request.nowMs

def pollSource (poll : Poll) (source : TrustedSource) : Option Poll :=
  if !source.isRead then some poll
  else if request.limit ≤ poll.upserts.length then pollFull request poll source
  else if request.direction poll.reset = .earlier && (request.prev source).isNone then some poll
  else do
    let read := pollRead request poll source
    let ops := readOps request read
    let room := request.limit - poll.upserts.length
    let mark ← request.watermark ⟨source.sourceId, read.generation, read.nextOffset⟩
    pure {
      reset := poll.reset || read.reset
      reasons := poll.reasons ++ readReasons source read
      upserts := poll.upserts ++ ops.take room
      watermarks := poll.watermarks ++ [mark]
      earlierMarks := poll.earlierMarks ++ (read.earlierOffset.map fun offset =>
        (⟨source.sourceId, read.generation, offset⟩ : Watermark)).toList
      hasMore := poll.hasMore || decide (room < ops.length) || !read.exhausted
      sourcesExhausted := poll.sourcesExhausted && read.exhausted
      anyRecords := poll.anyRecords || !ops.isEmpty }

def pollSources (poll : Poll) (sources : List TrustedSource) : Option Poll :=
  sources.foldlM (pollSource request) poll

structure ObservationPage where
  reasons : List JsString
  sourceWatermarks : List SourceWatermark
  upserts : List RepairOperation
  nextCursor : JsString
  earlierCursor : Option JsString
  hasMore : Bool
  reset : Bool
  sourcesExhausted : Bool

/-- `redactObservationValue` on an operation: every text of it; no key of it is a credential's. -/
def RepairOperation.redacted (op : RepairOperation) : RepairOperation :=
  { op with
    eventId := redactObservationText op.eventId
    sourceId := redactObservationText op.sourceId
    sourceGeneration := redactObservationText op.sourceGeneration
    executionRef := redactObservationText op.executionRef
    roleKey := redactObservationText op.roleKey
    operationId := redactObservationText op.operationId
    occurredAt := op.occurredAt.map redactObservationText
    receivedAt := redactObservationText op.receivedAt
    summary := redactObservationText op.summary
    detailRef := op.detailRef.map redactObservationText }

def innerMark (mark : SourceWatermark) : Watermark :=
  let inner := match decodeObservationCursor (some mark.cursor) request.runId request.round with
    | .ok cursor => cursor.watermarks.head?
    | .error _ => none
  ⟨mark.sourceId, mark.generation, (inner.map (·.offset)).getD 0⟩

def Poll.page (poll : Poll) : Option ObservationPage :=
  (encodeObservationCursor ⟨request.runId, request.round, .forward,
    poll.watermarks.map (innerMark request)⟩).map fun nextCursor =>
      { reasons := poll.reasons.map redactObservationText
        sourceWatermarks := poll.watermarks
        upserts := poll.upserts.map RepairOperation.redacted
        nextCursor
        earlierCursor := encodeEarlierCursor request.runId request.round poll.earlierMarks
        hasMore := poll.hasMore
        reset := poll.reset
        sourcesExhausted := poll.sourcesExhausted && poll.anyRecords }

end

end CouncilKit.Observation
