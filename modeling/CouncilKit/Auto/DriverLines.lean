import CouncilKit.Auto.DriverOutput
import CouncilKit.Auto.LiveEvents
import CouncilKit.Data.LineCollector
import CouncilKit.Review.CommandText
import CouncilKit.Review.FindingMatch

namespace CouncilKit.Auto

open Data Json JsString Review Auto.LiveEvents

/-- The value of a key that is an array index, which stands before the other keys. -/
def arrayIndex (key : JsString) : Option Nat :=
  let value := decimalValue key
  if key ≠ [] ∧ key.all Regex.isDigit ∧ ofNat value = key ∧ value < 2 ^ 32 - 1 then some value else none

/-- `Object.entries(value)` of a parsed object or array. -/
def ownEntries : Json → List (JsString × Json)
  | .object members =>
    (members.filter fun member => (arrayIndex member.1).isSome).mergeSort
        (fun first second => decimalValue first.1 ≤ decimalValue second.1) ++
      members.filter fun member => (arrayIndex member.1).isNone
  | .array items => items.zipIdx.map fun item => (ofNat item.2, item.1)
  | _ => []

/-- `typeof value === "object" && value !== null` -/
def objectLike : Option Json → Option Json
  | some (.object members) => some (.object members)
  | some (.array items) => some (.array items)
  | _ => none

def asRecord : Option Json → Option Json
  | some (.object members) => some (.object members)
  | _ => none

def itemsOf : Option Json → Option (List Json)
  | some (.array items) => some items
  | _ => none

/-- `typeof value === "string" && value.length > 0` -/
def nonemptyText (value : Option Json) : Option JsString :=
  match value with
  | some (.string text) => if text = [] then none else some text
  | _ => none

/-- `text.replace(/\s+/g, " ").trim()` -/
def folded (text : JsString) : JsString :=
  (Regex.replaceAll (Regex.plus Regex.space) (fun _ => js " ") text).trim

def typeOf (value : Json) : Option Json := memberOf value (js "type")

def ACTIVITY_MAX_COMMANDS : Nat := 10

def ACTIVITY_COMMAND_MAX_CHARS : Nat := 80

def ACTIVITY_LINE_CAP : Nat := 16 * 1024 * 1024

structure Activity where
  toolCalls : Nat := 0
  commands : List JsString := []
  sawEvent : Bool := false
  sawStrippedProxy : Bool := false
  inProgress : Option JsString := none

namespace Activity

def formatCommand : Option Json → Option JsString × Bool
  | some (.string raw) =>
    let (text, stripped) := stripProxyPrefix (trimStart raw)
    let text := folded text
    let chars := codePoints text
    (if text = [] then none
      else some (if ACTIVITY_COMMAND_MAX_CHARS < chars.length then
        (chars.take ACTIVITY_COMMAND_MAX_CHARS).flatten else text), stripped)
  | _ => (none, false)

variable (activity : Activity)

def pushCommand (raw : Option Json) : Activity :=
  let (formatted, stripped) := formatCommand raw
  { activity with
    sawStrippedProxy := activity.sawStrippedProxy || stripped
    commands := match formatted with
      | some text =>
        if ACTIVITY_MAX_COMMANDS ≤ activity.commands.length then activity.commands
        else activity.commands ++ [text]
      | none => activity.commands }

variable (obj : Json)

def cursorToolCall : Option Json := objectLike (memberOf obj (js "tool_call"))

def cursorToolCommand : Option JsString := do
  let call ← cursorToolCall obj
  (ownEntries call).findSome? fun entry => do
    let rec_ ← objectLike (some entry.2)
    let args := memberOf rec_ (js "args")
    (stringOrNull (memberAt args (js "command"))).or (stringOrNull (memberAt args (js "cmd")))

def cursorToolHint : Option JsString :=
  match cursorToolCommand obj with
  | some command => if command.trim = [] then named else some command
  | none => named
where
  named : Option JsString := do
    let call ← cursorToolCall obj
    let (name, _) ← (ownEntries call).head?
    if name = [] then none else some name

def considerCursor : Activity :=
  let activity :=
    if isText (typeOf obj) (js "assistant") || isText (typeOf obj) (js "result") ||
        isText (typeOf obj) (js "system") then { activity with sawEvent := true } else activity
  if !isText (typeOf obj) (js "tool_call") then activity
  else
    let activity := { activity with sawEvent := true }
    if isText (memberOf obj (js "subtype")) (js "started") then
      { activity with inProgress := (cursorToolHint obj).or activity.inProgress }
    else if !isText (memberOf obj (js "subtype")) (js "completed") then activity
    else pushCommand { activity with inProgress := none, toolCalls := activity.toolCalls + 1 }
      ((cursorToolCommand obj).map .string)

/-- The names that `toLowerCase` makes `bash` or `shell` have ASCII letters only. -/
def isShellTool : Option Json → Bool
  | some (.string name) => [js "bash", js "shell"].contains (name.map lowerAscii)
  | _ => false

/-- `input?.command ?? input?.cmd` -/
def commandOf (input : Option Json) : Option Json :=
  (notNull (memberAt input (js "command"))).or (memberAt input (js "cmd"))

def considerClaude : Activity :=
  if !isText (typeOf obj) (js "assistant") && !isText (typeOf obj) (js "result") then activity
  else
    let activity := { activity with sawEvent := true }
    if !isText (typeOf obj) (js "assistant") then activity
    else match itemsOf (memberAt (memberOf obj (js "message")) (js "content")) with
      | none => activity
      | some blocks => blocks.foldl (fun activity block =>
        if !isText (typeOf block) (js "tool_use") then activity
        else
          let activity := { activity with toolCalls := activity.toolCalls + 1 }
          if !isShellTool (memberOf block (js "name")) then activity
          else pushCommand activity (commandOf (memberOf block (js "input")))) activity

def considerKimi : Activity :=
  let role := memberOf obj (js "role")
  if !isText role (js "assistant") && !isText role (js "tool") && !isText role (js "meta") then activity
  else
    let activity := { activity with sawEvent := true }
    if !isText role (js "assistant") then activity
    else match itemsOf (memberOf obj (js "tool_calls")) with
      | none => activity
      | some calls => calls.foldl (fun activity call =>
        let activity := { activity with toolCalls := activity.toolCalls + 1 }
        let command :=
          match commandOf (memberOf call (js "args")) with
          | some command => some command
          | none =>
            match memberAt (memberOf call (js "function")) (js "arguments") with
            | some (.string text) => commandOf (parseJsonLine text)
            | _ => none
        pushCommand activity command) activity

def considerCodex : Activity :=
  match typeOf obj with
  | some (.string type) =>
    if !(js "item.").isPrefixOf type then activity
    else
      let activity := { activity with sawEvent := true }
      let item := memberOf obj (js "item")
      let itemType := memberAt item (js "type")
      let isTool := isText itemType (js "command_execution") || isText itemType (js "mcp_tool_call") ||
        isText itemType (js "web_search")
      let command := memberAt item (js "command")
      if type = js "item.started" then
        if !isTool then activity
        else
          let (formatted, stripped) := formatCommand command
          { activity with
            sawStrippedProxy := activity.sawStrippedProxy || stripped
            inProgress := formatted.or (some ((stringOrNull itemType).getD (js "command_execution"))) }
      else if type ≠ js "item.completed" then activity
      else if !isTool then activity
      else pushCommand { activity with inProgress := none, toolCalls := activity.toolCalls + 1 } command
  | _ => activity

def consider (driverId : JsString) (activity : Activity) (line : JsString) : Activity :=
  match parseJsonLine line with
  | none => activity
  | some obj =>
    if driverId = js "claude-stream-json" ∨ driverId = js "grok-stream-json" then
      considerClaude activity obj
    else if driverId = js "cursor-stream-json" then considerCursor activity obj
    else if driverId = js "kimi-stream-json" then considerKimi activity obj
    else if driverId = js "codex-app-server" then considerCodex activity obj
    else activity

/-- The number of tool calls, the commands, and whether a prefix was stripped. -/
def summary : Option (Nat × List JsString × Bool) :=
  if activity.sawEvent then some (activity.toolCalls, activity.commands, activity.sawStrippedProxy)
  else none

def liveActivity : Option JsString :=
  match activity.inProgress with
  | some (unit :: rest) => some (unit :: rest)
  | _ =>
    if activity.commands ≠ [] then activity.commands.getLast?
    else if 0 < activity.toolCalls then some (ofNat activity.toolCalls ++ js " 次工具调用")
    else none

end Activity

/-- `DriverActivityCollector` over the chunks of a stream, to its end. -/
def driverActivity (driverId : JsString) (chunks : List (List UInt8)) : Activity :=
  (LineCollector.collect (ε := Empty) ACTIVITY_LINE_CAP
    (fun activity line => { state := Activity.consider driverId activity line }) {} chunks).2.state

def LINE_CAP : Nat := 16 * 1024 * 1024

def TOOL_SUMMARY_KEYS : List JsString :=
  [js "command", js "cmd", js "file_path", js "target_file", js "path", js "file", js "query",
    js "pattern", js "glob"]

def formatSummary (raw : JsString) : JsString :=
  clipUtf16 (folded (stripProxyPrefix (trimStart raw)).1) LIVE_SUMMARY_MAX

def pickToolSummary (source : Option Json) : JsString :=
  (TOOL_SUMMARY_KEYS.findSome? fun key =>
    match memberAt source key with
    | some (.string value) => if value.trim = [] then none else some (formatSummary value)
    | _ => none).getD []

def toolName (item : Json) (fallback : JsString) : JsString :=
  ((nonemptyText (memberOf item (js "name"))).or (nonemptyText (memberOf item (js "tool")))).getD
    (if fallback = [] then js "tool" else fallback)

namespace LiveCollector

abbrev Pending := Option JsString

def liveCursor (obj : Json) : List RawLiveEvent :=
  if isText (typeOf obj) (js "assistant") then
    match itemsOf (memberAt (asRecord (memberOf obj (js "message"))) (js "content")) with
    | none => []
    | some blocks => blocks.filterMap fun block => do
      let b ← asRecord (some block)
      if !isText (typeOf b) (js "text") then none
      else (nonemptyText (memberOf b (js "text"))).map (.delta .text)
  else if !isText (typeOf obj) (js "tool_call") then []
  else
    let call := asRecord (memberOf obj (js "tool_call"))
    let name := (call.bind fun call => (ownEntries call).head?.map (·.1)).getD []
    let toolName := if name = [] then js "tool" else name
    let summary := pickToolSummary (asRecord (memberAt (asRecord (memberAt call toolName)) (js "args")))
    if isText (memberOf obj (js "subtype")) (js "started") then [.tool .started toolName summary]
    else if isText (memberOf obj (js "subtype")) (js "completed") then [.tool .completed toolName summary]
    else []

def liveClaude (obj : Json) : List RawLiveEvent :=
  if isText (typeOf obj) (js "stream_event") then
    match asRecord (memberOf obj (js "event")) with
    | none => []
    | some event =>
      if !isText (typeOf event) (js "content_block_delta") then []
      else match asRecord (memberOf event (js "delta")) with
        | none => []
        | some delta =>
          let text := nonemptyText (memberOf delta (js "text"))
          if isText (typeOf delta) (js "text_delta") && text.isSome then
            (text.map (RawLiveEvent.delta .text)).toList
          else if isText (typeOf delta) (js "thinking_delta") then
            let thinking := (stringOrNull (memberOf delta (js "thinking"))).or
              (stringOrNull (memberOf delta (js "text")))
            match thinking.getD [] with
            | [] => []
            | unit :: rest => [.delta .thinking (unit :: rest)]
          else []
  else if !isText (typeOf obj) (js "assistant") then []
  else match itemsOf (memberAt (asRecord (memberOf obj (js "message"))) (js "content")) with
    | none => []
    | some blocks => blocks.filterMap fun block => do
      let b ← asRecord (some block)
      if !isText (typeOf b) (js "tool_use") then none
      else some (.tool .completed ((nonemptyText (memberOf b (js "name"))).getD (js "tool"))
        (pickToolSummary (asRecord (memberOf b (js "input")))))

def kimiCall (call : Json) : Option RawLiveEvent := do
  let c ← asRecord (some call)
  let fn := asRecord (memberOf c (js "function"))
  let name := ((nonemptyText (memberOf c (js "name"))).or
    (nonemptyText (memberAt fn (js "name")))).getD (js "tool")
  let summary := pickToolSummary (asRecord (memberOf c (js "args")))
  let summary :=
    if summary = [] then
      match memberAt fn (js "arguments") with
      | some (.string text) => pickToolSummary (parseJsonLine text)
      | _ => summary
    else summary
  some (.tool .completed name summary)

/-- The content of the frame before is emitted; reading this one's may throw. -/
def liveKimi (pending : Pending) (obj : Json) : Considered Pending RawLiveEvent :=
  if !isText (memberOf obj (js "role")) (js "assistant") then { state := pending }
  else
    let flushed := (pending.map (RawLiveEvent.delta .text)).toList
    match asText (memberOf obj (js "content")) with
    | none => { state := none, thrown := true }
    | some content =>
      { state := content
        out := flushed ++ ((itemsOf (memberOf obj (js "tool_calls"))).getD []).filterMap kimiCall }

def CODEX_TOOLS : List JsString :=
  [js "command_execution", js "mcp_tool_call", js "web_search", js "file_change",
    js "custom_tool_call", js "code_execution"]

/-- `none`: reading the text of an item threw. -/
def liveCodex (obj : Json) : Option (List RawLiveEvent) :=
  match typeOf obj with
  | some (.string type) =>
    if !(js "item.").isPrefixOf type then some []
    else match asRecord (memberOf obj (js "item")) with
      | none => some []
      | some item =>
        let itemType := (stringOrNull (typeOf item)).getD []
        let isTool := CODEX_TOOLS.contains itemType
        if type = js "item.started" then
          some (if isTool then [.tool .started (toolName item itemType) (pickToolSummary (some item))]
            else [])
        else if type ≠ js "item.completed" then some []
        else if isTool then
          some [.tool .completed (toolName item itemType) (pickToolSummary (some item))]
        else if itemType = js "reasoning" then
          (asText (memberOf item (js "text"))).map fun text =>
            (text.map (RawLiveEvent.delta .thinking)).toList
        else if itemType = js "agent_message" then
          (asText (memberOf item (js "text"))).map fun text =>
            (text.map (RawLiveEvent.delta .text)).toList
        else some []
  | _ => some []

def consider (driverId : JsString) (pending : Pending) (line : JsString) :
    Considered Pending RawLiveEvent :=
  match parseJsonLine line with
  | none => { state := pending }
  | some obj =>
    if driverId = js "claude-stream-json" ∨ driverId = js "grok-stream-json" then
      { state := pending, out := liveClaude obj }
    else if driverId = js "cursor-stream-json" then { state := pending, out := liveCursor obj }
    else if driverId = js "kimi-stream-json" then liveKimi pending obj
    else if driverId = js "codex-app-server" then
      match liveCodex obj with
      | none => { state := pending, thrown := true }
      | some events => { state := pending, out := events }
    else { state := pending }

/-- What `end` gives: the last line, and the kimi content that is still pending. -/
def ended (last : Considered Pending RawLiveEvent) : List RawLiveEvent :=
  if last.thrown then [] else last.out ++ (last.state.map (RawLiveEvent.delta .text)).toList

end LiveCollector

/-- `LiveEventCollector` over the chunks of a stream, to its end. -/
def liveEvents (driverId : JsString) (chunks : List (List UInt8)) : List RawLiveEvent :=
  let collected := LineCollector.collect LINE_CAP (LiveCollector.consider driverId) none chunks
  collected.1 ++ LiveCollector.ended collected.2

end CouncilKit.Auto
