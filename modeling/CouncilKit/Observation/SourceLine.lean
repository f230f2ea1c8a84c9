import CouncilKit.Observation.Operations
import CouncilKit.Repair.PolicyFreeze

namespace CouncilKit.Observation

open Data Repair

abbrev Bytes := List UInt8

/-- What the reader uses of the engine and of the redaction. -/
class SourceText where
  /-- `Buffer.prototype.toString("utf8")`. -/
  decode : Bytes → JsString
  /-- `JSON.parse`; `none` when it throws. -/
  parse : JsString → Option Json
  redactObservationText : JsString → JsString

variable [Unicode]

/-- `typeof value === "string" && value`, in a chain of `||`. -/
def givenText (value : Option Json) : Option JsString := (stringOf value).filter (· ≠ [])

def objectOf : Option Json → Option (List (JsString × Json))
  | some (.object members) => some members
  | _ => none

def numberOf : Option Json → Option Int
  | some (.number value) => some value
  | some (.fraction literal) => some (if literal.head? = some 0x2D then -1 else 1)
  | _ => none

structure CursorPayload where
  skip : Bool := false
  text : Option JsString := none
  name : Option JsString := none
  summary : Option JsString := none
  path : Option JsString := none
  action : Option RecordAction := none
  detail : Option JsString := none
  exitCode : Option Int := none

def blockType (item : List (JsString × Json)) : JsString :=
  ((stringOf (property item "type")).map toLowerCase).getD []

def hiddenBlock (item : List (JsString × Json)) : Bool :=
  blockType item = js "thinking" || blockType item = js "reasoning"

def blockText (item : List (JsString × Json)) : Option JsString :=
  if blockType item = js "text" then stringOf (property item "text") else none

variable (row : List (JsString × Json))

/-- The content blocks of a message; `none` when they are no public text. -/
def contentPayload : Option CursorPayload :=
  match (objectOf (property row "message")).bind fun message => property message "content" with
  | some (.array content) =>
    let blocks := content.filterMap fun block => objectOf (some block)
    let texts := blocks.filterMap fun item => if hiddenBlock item then none else blockText item
    if texts = [] then if blocks.any hiddenBlock then some { skip := true } else none
    else some { text := some texts.flatten, summary := some texts.flatten }
  | _ => none

def actionOf (lower : JsString) : Option RecordAction :=
  if includes lower (js "read") then some .read
  else if includes lower (js "edit") || includes lower (js "write") then some .edit
  else none

/-- The first entry of `tool_call`. -/
def toolPayload : Option CursorPayload :=
  match (objectOf (property row "tool_call")).bind (·.head?) with
  | none => none
  | some (name, body) =>
    let payload := asRecord body
    let args := (objectOf (property payload "args")).getD payload
    let result := (objectOf (property payload "result")).getD []
    let success := (objectOf (property result "success")).getD []
    let command := ((givenText (property args "command")).or
      (givenText (property result "command"))).or (givenText (property success "command"))
    let path := (((givenText (property args "path")).or
      (givenText (property args "file_path"))).or (givenText (property result "path"))).or (givenText (property success "path"))
    let detail := ((((givenText (property result "stdout")).or
      (givenText (property result "stderr"))).or (givenText (property result "output"))).or
      (givenText (property success "diff"))).or (givenText (property success "content"))
    let exitCode := numberOf (property result "exitCode")
    let action := actionOf (toLowerCase name)
    if path.any fun path => includes path (js "..") || path.contains 0 then
      some { name := some name, summary := some (js "路径不可用"), action, exitCode }
    else
      let summary := JsString.join (js " ")
        ((name :: (command.or path).toList).filter (· ≠ []))
      some { name := some name, summary := some summary, path, action, detail, exitCode }

def readCursorPayload : CursorPayload :=
  ((contentPayload row).or (toolPayload row)).getD {}

structure SourceMeta where
  sourceId : JsString
  executionRef : JsString
  round : Nat
  roleKey : JsString

inductive ParsedLine where
  | skip
  | bad
  | record (record : RawSourceRecord)

def rowAction : Option RecordAction :=
  if stringOf (property row "action") = some (js "read") then some .read
  else if stringOf (property row "action") = some (js "edit") then some .edit
  else none

def rowStatus : Option JsString :=
  (stringOf (property row "status")).or ((stringOf (property row "subtype")).filter fun subtype =>
    [js "completed", js "failed", js "started"].contains subtype)

def parseRow (source : SourceMeta) (byteOffset : Nat)
    (receivedAt : JsString) : ParsedLine :=
  match ((stringOf (property row "type")).or (stringOf (property row "kind"))).filter (· ≠ []) with
  | none => .bad
  | some type =>
    let lower := toLowerCase type
    if includes lower (js "thinking") || includes lower (js "reasoning") then .skip
    else
      let cursor := readCursorPayload row
      if cursor.skip then .skip
      else .record {
        sourceId := source.sourceId
        sourceGeneration := js "pending"
        executionRef := (givenText (property row "executionRef")).getD source.executionRef
        round := source.round
        roleKey := ((givenText (property row "roleKey")).or
          (givenText (property row "role"))).getD source.roleKey
        byteOffset
        receivedAt
        occurredAt := ((givenText (property row "at")).or
          (givenText (property row "occurredAt"))).or (givenText (property row "timestamp"))
        type
        callId := (((givenText (property row "callId")).or
          (givenText (property row "call_id"))).or (givenText (property row "toolCallId"))).or
          (givenText (property row "id"))
        name := cursor.name.or (stringOf (property row "name"))
        summary := cursor.summary.or (stringOf (property row "summary"))
        text := cursor.text.or ((stringOf (property row "text")).or (stringOf (property row "message")))
        path := cursor.path.or ((stringOf (property row "path")).or (stringOf (property row "file")))
        action := ((rowAction row).or cursor.action).or (actionOf lower)
        status := rowStatus row
        exitCode := (numberOf (property row "exitCode")).or cursor.exitCode
        detail := cursor.detail.or ((stringOf (property row "detail")).or
          (stringOf (property row "output"))) }

def parsePublicSourceLine [SourceText] (line : JsString) (source : SourceMeta) (byteOffset : Nat)
    (receivedAt : JsString) : ParsedLine :=
  if line.trim = [] then .skip
  else match SourceText.parse line.trim with
    | some (.object row) => parseRow row source byteOffset receivedAt
    | _ => .bad

/-- `if (parsed.text) parsed.text = redactObservationText(parsed.text)` -/
def redactGiven [SourceText] (text : Option JsString) : Option JsString :=
  text.map fun text => if text = [] then text else SourceText.redactObservationText text

def RawSourceRecord.redacted [SourceText] (record : RawSourceRecord) : RawSourceRecord :=
  { record with
    text := redactGiven record.text
    summary := redactGiven record.summary
    detail := redactGiven record.detail
    path := redactGiven record.path }

def parseLine [SourceText] (source : SourceMeta) (receivedAt : JsString) (start : Nat)
    (line : Bytes) : ParsedLine :=
  match parsePublicSourceLine (SourceText.decode line) source start receivedAt with
  | .record record => .record record.redacted
  | other => other

end CouncilKit.Observation
