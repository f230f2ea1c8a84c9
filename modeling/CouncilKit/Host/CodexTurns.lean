import CouncilKit.Data.JsonValue
import CouncilKit.Host.Events

namespace CouncilKit.Host.Codex

open Data

/-! One app-server process, one thread, one turn at a time.  A call that awaits is a
task with the place it stands at.  A turn keeps what its `emit` got, and frames and
texts keep the execution the server wrote them for.
-/

def CODEX_RPC_ERROR_DETAIL_MAX : Nat := 300

def diagnosticStringBytes : Nat := 4 * 1024

def takeBytes (room : Nat) : JsString → JsString
  | [] => []
  | [unit] => if Json.utf8Length [unit] ≤ room then [unit] else []
  | first :: second :: rest =>
    if isHighSurrogate first && isLowSurrogate second then
      if 4 ≤ room then first :: second :: takeBytes (room - 4) rest else []
    else
      let size := Json.utf8Length [first]
      if size ≤ room then first :: takeBytes (room - size) (second :: rest) else []

def sanitizeString (input : JsString) (maxBytes : Nat) : JsString :=
  let stripped := input.filter fun unit => !(unit < 0x20 || unit == 0x7F)
  if Json.utf8Length stripped ≤ maxBytes then stripped
  else takeBytes maxBytes stripped ++ js "…(truncated)"

/-- `ACTIVITY_ITEM_TYPES[itemType]`.  The names every object inherits find
something too, whose kind is no text. -/
def ACTIVITY_ITEM_TYPES (itemType : JsString) : Option JsString :=
  if itemType = js "commandExecution" then some (js "command")
  else if [js "fileChange", js "mcpToolCall", js "dynamicToolCall", js "collabAgentToolCall",
    js "webSearch"].contains itemType then some (js "tool")
  else if [js "constructor", js "toString", js "toLocaleString", js "valueOf",
    js "hasOwnProperty", js "isPrototypeOf", js "propertyIsEnumerable", js "__proto__",
    js "__defineGetter__", js "__defineSetter__", js "__lookupGetter__",
    js "__lookupSetter__"].contains itemType then some []
  else none

def TEXT_ITEM_TYPES (itemType : JsString) : Bool := itemType = js "agentMessage"

inductive DriverState where
  | cold | starting | ready | busy | closing | closed
deriving DecidableEq

/-- What `emit` got.  `frame` is there for an event that a delta or a completion of
the server made: the execution the server wrote it for. -/
structure Emission where
  event : DriverEvent
  frame : Option (Option Nat) := none

structure ActiveTurn where
  executionId : JsString
  turnId : Option Json := none
  modelId : JsString
  dispatchState : DispatchState := .not_dispatched
  toolState : ToolState := .none
  sawToolActivity : Bool := false
  cancelling : Bool := false
  settled : Bool := false
  /-- The texts of `agentText`, each with the execution it was written for. -/
  agentTexts : List (Option Nat × JsString) := []
  effectiveModel : Option JsString := none
  rerouteReason : Option JsString := none
  lastUsage : Option (Option Json × Option Json) := none
  idleTimer : Bool := false
  turnTimer : Bool := false
  dispatchTimer : Bool := false
  /-- The write callback of its request has not run. -/
  writing : Bool := false
  emitted : List Emission := []

namespace ActiveTurn

variable (turn : ActiveTurn)

def agentText : JsString := turn.agentTexts.flatMap (·.2)

def clearTurnTimers : ActiveTurn :=
  { turn with idleTimer := false, turnTimer := false, dispatchTimer := false }

def emit (event : DriverEvent) (frame : Option (Option Nat)) : ActiveTurn :=
  { turn with emitted := turn.emitted ++ [⟨event, frame⟩] }

def armIdleTimer : ActiveTurn :=
  if turn.cancelling || turn.settled then turn else { turn with idleTimer := true }

def noteToolActivity (kind itemType : JsString) : ActiveTurn :=
  { turn with
    sawToolActivity := true
    toolState := if turn.toolState = ToolState.none then .active else turn.toolState }.emit
      (.activity kind (sanitizeString (js "codex " ++ itemType ++ js " activity") 256)) none

def handleItemCompleted (origin : Option Nat) (params : Json) : ActiveTurn :=
  let item := memberOf params (js "item")
  match stringOrNull (memberAt item (js "type")) with
  | none => turn
  | some itemType =>
    if TEXT_ITEM_TYPES itemType then
      match stringOrNull (memberAt item (js "text")) with
      | some text => { turn with agentTexts := turn.agentTexts ++ [(origin, text)] }
      | none => turn
    else match ACTIVITY_ITEM_TYPES itemType with
      | some kind => { turn.noteToolActivity kind itemType with toolState := .completed }
      | none => turn

def rerouted (params : Json) : ActiveTurn :=
  { turn with
    effectiveModel := stringOrNull (memberOf params (js "toModel"))
    rerouteReason := (stringOrNull (memberOf params (js "reason"))).map (sanitizeString · 256) }

def noteUsage (last : Option Json) : ActiveTurn :=
  if isTruthy last then
    { turn with lastUsage := some (numberOrNull (memberAt last (js "inputTokens")),
        numberOrNull (memberAt last (js "outputTokens"))) }
  else turn

end ActiveTurn

/-- An `Error` with its `runtimeCode`. -/
structure Failure where
  message : JsString
  runtimeCode : Option JsString := none
  catalog : List JsString := []

inductive Answer where
  | waiting
  | resolved (value : Option Json)
  | rejected (failure : Failure)

inductive Request where
  | initializing | account | models | thread
deriving DecidableEq

def Request.method : Request → JsString
  | .initializing => js "initialize"
  | .account => js "account/read"
  | .models => js "model/list"
  | .thread => js "thread/start"

/-- Who runs `spawnProcess` and `handshake`. -/
inductive Purpose where
  | prewarm (modelId : JsString)
  | respawn

inductive Stage where
  /-- The teardown of the process that a respawn replaces. -/
  | shuttingOld
  | makingDir
  | spawning
  /-- The teardown of a process that came after `close`. -/
  | reaping
  | supervising
  | awaiting (request : Request) (modelId : JsString) (answer : Answer)
  | finished (failure : Option Failure)

structure Boot where
  purpose : Purpose
  stage : Stage

inductive CancelStage where
  | interrupting (answer : Answer)
  | polling
  | finished

structure Cancel where
  turn : Nat
  stage : CancelStage

inductive CloseStage where
  | awaitingSpawn (boot : Nat)
  | shutting
  | finished

inductive PendingRequest where
  | turnStart (turn : Nat)
  | boot (boot : Nat)
  | cancel (cancel : Nat)
  | forgotten

structure AppServer where
  exited : Bool := false
  overflow : Bool := false

structure CodexDriver where
  participantId : JsString
  cwd : JsString
  streamIdleMs : Nat
  state : DriverState := .cold
  process : Option Nat := none
  pendingSpawn : Option Nat := none
  sessionEpoch : Nat := 0
  threadId : Option Json := none
  threadModel : Option JsString := none
  catalog : List JsString := []
  reasoningEfforts : List JsString := []
  modelContextWindow : Option Json := none
  requestCounter : Nat := 0
  activeTurn : Option Nat := none
  pending : List (JsString × PendingRequest) := []
  persona : Option JsString := none
  reasoningEffort : Option JsString := none
  lastInstallation : Bool := false
  lastModelId : Option JsString := none
  turns : List ActiveTurn := []
  servers : List AppServer := []
  boots : List Boot := []
  cancels : List Cancel := []
  closes : List CloseStage := []
  /-- What was written to which process. -/
  written : List (Nat × Json) := []
  killed : List Nat := []

namespace CodexDriver

variable (driver : CodexDriver)

def isClosingOrClosed : Bool :=
  driver.state = .closing || driver.state = .closed

variable (place : Nat)

def setTurn (turn : ActiveTurn) : CodexDriver :=
  { driver with turns := driver.turns.set place turn }

def onActive (change : ActiveTurn → ActiveTurn) : CodexDriver :=
  match driver.activeTurn with
  | none => driver
  | some place =>
    match driver.turns[place]? with
    | none => driver
    | some turn => driver.setTurn place (change turn)

def deadlineMaySettle : Bool :=
  match driver.turns[place]? with
  | none => false
  | some turn => driver.activeTurn = some place && !turn.cancelling && !turn.settled

def emitTerminal (event : ActiveTurn → DriverEvent)
    (frame : Option (Option Nat)) : CodexDriver :=
  match driver.turns[place]? with
  | none => driver
  | some turn =>
    if turn.settled then driver
    else
      { driver.setTurn place ({ turn.clearTurnTimers with settled := true }.emit (event turn) frame)
        with
        activeTurn := if driver.activeTurn = some place then none else driver.activeTurn
        state := if driver.state = .busy then .ready else driver.state }

def driverError (code : JsString) (phase : ErrorPhase) (message : JsString)
    (executionId : JsString) : RuntimeError where
  code := .driver code
  phase := phase
  message := message
  driverId := some (js "codex-app-server")
  executionId := some executionId
  participantId := some driver.participantId

def failTurn (error : ActiveTurn → RuntimeError)
    (frame : Option (Option Nat)) : CodexDriver :=
  driver.emitTerminal place (fun turn => .failed (error turn) turn.dispatchState turn.toolState false) frame

def failWith (code : JsString) (phase : ErrorPhase)
    (message : JsString) (frame : Option (Option Nat)) : CodexDriver :=
  driver.failTurn place (fun turn => driver.driverError code phase message turn.executionId) frame

def interruptTurn (reason : JsString)
    (frame : Option (Option Nat)) : CodexDriver :=
  driver.emitTerminal place (fun turn => .interrupted reason turn.dispatchState turn.toolState) frame

def modelVerdict (effective : Option JsString) (modelId : JsString) : JsString :=
  match effective with
  | none => js "unknown"
  | some model => if model = [] then js "unknown" else if model = modelId then js "match"
      else js "mismatch"

def usageJson : Option (Option Json × Option Json) → Json
  | none => .null
  | some usage => .object [(js "inputTokens", usage.1.getD .null),
      (js "outputTokens", usage.2.getD .null)]

def completedEvent (turn : ActiveTurn) : DriverEvent :=
  let effective := match turn.effectiveModel with
    | some model => some model
    | none => driver.threadModel
  .completed turn.agentText turn.modelId turn.toolState
    [(js "effectiveModel", ((effective.map Json.string).getD .null).stringify),
      (js "modelVerdict", (Json.string (modelVerdict effective turn.modelId)).stringify),
      (js "usage", (usageJson turn.lastUsage).stringify), (js "finalSeq", js "0")]

def handleTurnCompleted (origin : Option Nat) (params : Json) :
    CodexDriver :=
  match driver.turns[place]? with
  | none => driver
  | some turn =>
    let status := (notNull (memberAt (memberOf params (js "turn")) (js "status"))).getD
      (.string (js "failed"))
    if turn.cancelling || strictEquals (some status) (some (.string (js "interrupted"))) then
      driver.interruptTurn place (if turn.cancelling then js "user_cancelled" else js "unknown")
        (some origin)
    else if !strictEquals (some status) (some (.string (js "completed"))) then
      match coerceText status with
      | none => driver
      | some text => driver.failWith place (js "DRIVER_CRASH") .stream
          (js "turn completed with status=" ++ text) (some origin)
    else if turn.agentText.trim = [] then
      driver.failWith place (js "EMPTY_OUTPUT") .stream
        (js "Completed with empty normalized output.") (some origin)
    else driver.emitTerminal place driver.completedEvent (some origin)

/-- May a `turn/completed` frame end this turn? -/
def completionMatches (turn : ActiveTurn) (params : Json) : Bool :=
  !isTruthy turn.turnId || strictEquals (memberAt (memberOf params (js "turn")) (js "id")) turn.turnId

def compacted (driver : CodexDriver) : CodexDriver :=
  let settled := match driver.activeTurn with
    | some place =>
      if driver.deadlineMaySettle place then
        driver.failTurn place (fun turn => { driver.driverError [] .stream
          (js "Runtime compacted the session context.") turn.executionId with
            code := .NEEDS_REBASE }) none
      else driver
    | none => driver
  { settled with sessionEpoch := settled.sessionEpoch + 1, threadId := none }

def serverError (params : Json) : CodexDriver :=
  let willRetry := strictEquals (memberAt (memberOf params (js "error")) (js "willRetry"))
    (some (.bool true))
  match driver.activeTurn with
  | some place =>
    if !willRetry && driver.deadlineMaySettle place then
      driver.failWith place (js "DRIVER_CRASH") .stream
        (js "server reported a terminal error") none
    else driver
  | none => driver

def tokenUsage (driver : CodexDriver) (params : Json) : CodexDriver :=
  let usage := memberOf params (js "tokenUsage")
  let noted := driver.onActive fun turn => turn.noteUsage (memberAt usage (js "last"))
  match memberAt usage (js "modelContextWindow") with
  | some (.number window) =>
    if 0 < window then { noted with modelContextWindow := some (.number window) } else noted
  | some (.fraction literal) =>
    if literal.head? = some 0x2D then noted
    else { noted with modelContextWindow := some (.fraction literal) }
  | _ => noted

def handleNotification (origin : Option Nat) (method : JsString)
    (params : Json) : CodexDriver :=
  let driver := driver.onActive (·.armIdleTimer)
  if method = js "item/agentMessage/delta" then
    match stringOrNull (memberOf params (js "delta")) with
    | some delta =>
      if delta = [] then driver
      else driver.onActive fun turn => turn.emit (.outputDelta delta) (some origin)
    | none => driver
  else if method = js "item/started" then
    match stringOrNull (memberAt (memberOf params (js "item")) (js "type")) with
    | some itemType =>
      match ACTIVITY_ITEM_TYPES itemType with
      | some kind => driver.onActive fun turn => turn.noteToolActivity kind itemType
      | none => driver
    | none => driver
  else if method = js "item/completed" then
    driver.onActive fun turn => turn.handleItemCompleted origin params
  else if method = js "model/rerouted" then driver.onActive fun turn => turn.rerouted params
  else if method = js "thread/tokenUsage/updated" then driver.tokenUsage params
  else if method = js "turn/completed" then
    match driver.activeTurn with
    | some place =>
      if driver.turns[place]?.any (completionMatches · params) then
        driver.handleTurnCompleted place origin params
      else driver
    | none => driver
  else if method = js "thread/compacted" then driver.compacted
  else if method = js "error" then driver.serverError params
  else driver

end CodexDriver

end CouncilKit.Host.Codex
