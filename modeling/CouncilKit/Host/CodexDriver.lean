import CouncilKit.Host.CodexTurns

namespace CouncilKit.Host.Codex

open Data

/-! Requests, the app-server process, the handshake, and the steps of the driver in
every order.  An event is a call, a frame, a timer or the answer to an `await`.
-/

namespace CodexDriver

variable (driver : CodexDriver)

variable (place : Nat)

def answerBoot (answer : Answer) : CodexDriver :=
  match driver.boots[place]? with
  | some ⟨purpose, .awaiting request modelId .waiting⟩ =>
    let boot : Boot := ⟨purpose, .awaiting request modelId answer⟩
    { driver with boots := driver.boots.set place boot }
  | _ => driver

def answerCancel (answer : Answer) : CodexDriver :=
  match driver.cancels[place]? with
  | some ⟨turn, .interrupting .waiting⟩ =>
    let cancel : Cancel := ⟨turn, .interrupting answer⟩
    { driver with cancels := driver.cancels.set place cancel }
  | _ => driver

/-- `entry.resolve(result)` -/
def resolve (result : Option Json) : PendingRequest → CodexDriver
  | .turnStart place =>
    match driver.turns[place]? with
    | none => driver
    | some turn => driver.setTurn place { turn with
        turnId := notNull (memberAt (memberAt result (js "turn")) (js "id"))
        dispatchState := .accepted }
  | .boot place => driver.answerBoot place (.resolved result)
  | .cancel place => driver.answerCancel place (.resolved result)
  | .forgotten => driver

/-- `entry.reject(error)` -/
def reject (failure : Failure) : PendingRequest → CodexDriver
  | .turnStart place =>
    if driver.deadlineMaySettle place then
      driver.failWith place (js "DRIVER_CRASH") .dispatch
        (sanitizeString failure.message diagnosticStringBytes) none
    else driver
  | .boot place => driver.answerBoot place (.rejected failure)
  | .cancel place => driver.answerCancel place (.rejected failure)
  | .forgotten => driver

def failAllPending (failure : Failure) : CodexDriver :=
  { driver.pending.foldl (fun driver entry => driver.reject failure entry.2) driver with pending := [] }

def write (message : Json) : CodexDriver :=
  match driver.process with
  | none => driver
  | some server => { driver with written := driver.written ++ [(server, message)] }

def requestId : JsString :=
  js "ck-" ++ driver.participantId ++ js "-" ++ .ofNat (driver.requestCounter + 1)

def request (method : JsString) (params : Json) (who : PendingRequest) :
    CodexDriver :=
  { driver with
    requestCounter := driver.requestCounter + 1
    pending := driver.pending ++ [(driver.requestId, who)] }.write
      (.object [(js "id", .string driver.requestId), (js "method", .string method), (js "params", params)])

def sendRequest (method : JsString) (params : Json) (who : PendingRequest) :
    CodexDriver :=
  match driver.process with
  | none => driver.reject { message := js "app-server not running" } who
  | some _ => driver.request method params who

def handleServerRequest (id : Json) : CodexDriver :=
  driver.write (.object [(js "id", id), (js "result", .object [(js "decision", .string (js "denied"))])])

inductive Route where
  | response (key : JsString) (who : PendingRequest)
  | serverRequest (id : Json)
  | notification (method : JsString) (params : Json)
  | unhandled

def routeMethod (message : Json) (isRequest : Bool) : Route :=
  match stringOrNull (memberOf message (js "method")) with
  | none => .unhandled
  | some method =>
    if isRequest then .serverRequest ((memberOf message (js "id")).getD .null)
    else .notification method ((notNull (memberOf message (js "params"))).getD (.object []))

/-- A `null` line or an id that has no text is a TypeError: nothing happens. -/
def route (message : Json) : Route :=
  let hasResult := (memberOf message (js "result")).isSome || (memberOf message (js "error")).isSome
  match memberOf message (js "id") with
  | none => routeMethod message false
  | some id =>
    if hasResult then
      match coerceText id with
      | none => .unhandled
      | some key =>
        match driver.pending.find? (·.1 = key) with
        | some entry => .response key entry.2
        | none => routeMethod message false
    else routeMethod message true

def rpcFailure (error : Json) : Failure where
  message := sanitizeString (error.stringify.clipUtf16 CODEX_RPC_ERROR_DETAIL_MAX) diagnosticStringBytes

def onFrame (origin : Option Nat) (message : Json) : CodexDriver :=
  match driver.route message with
  | .response key who =>
    let driver := { driver with pending := driver.pending.filter (·.1 ≠ key) }
    if isTruthy (memberOf message (js "error")) then
      driver.reject (rpcFailure ((memberOf message (js "error")).getD .null)) who
    else driver.resolve (memberOf message (js "result")) who
  | .serverRequest id => driver.handleServerRequest id
  | .notification method params => driver.handleNotification origin method params
  | .unhandled => driver

def closedDuringPrewarm : Failure where
  message := js "codex app-server closed during prewarm"
  runtimeCode := some (js "CANCELLED")

def onProcessExit : CodexDriver :=
  let gone := { driver with process := none, threadId := none }
  let gone := if gone.isClosingOrClosed then gone
    else { gone with sessionEpoch := gone.sessionEpoch + 1, state := .cold }
  let failed := gone.failAllPending (if gone.isClosingOrClosed then closedDuringPrewarm
    else { message := js "app-server exited" })
  match failed.activeTurn with
  | none => failed
  | some place =>
    match failed.turns[place]? with
    | none => failed
    | some turn =>
      if turn.cancelling then failed.interruptTurn place (js "user_cancelled") none
      else (failed.setTurn place { turn with
        toolState := if turn.sawToolActivity then .unknown else turn.toolState }).interruptTurn
          place (js "driver_crash") none

def setStage (stage : Stage) : CodexDriver :=
  match driver.boots[place]? with
  | none => driver
  | some boot => { driver with boots := driver.boots.set place { boot with stage } }

def addBoot (purpose : Purpose) (stage : Stage) : CodexDriver :=
  { driver with boots := driver.boots ++ [{ purpose, stage }] }

def mayRespawn : Bool :=
  !driver.isClosingOrClosed && driver.lastInstallation && driver.lastModelId.any fun modelId => modelId ≠ []

/-- `respawn`, up to its first `await`. -/
def respawn : CodexDriver :=
  let gone := { driver with
    process := none, threadId := none, sessionEpoch := driver.sessionEpoch + 1 }
  match driver.process with
  | some _ => gone.addBoot .respawn .shuttingOld
  | none =>
    if gone.mayRespawn then { gone with state := .starting }.addBoot .respawn .makingDir else gone

def oldShutDown : CodexDriver :=
  if driver.mayRespawn then { driver with state := .starting }.setStage place .makingDir
  else driver.setStage place (.finished none)

/-- `spawnProcess` or `handshake` throws. -/
def failBoot (failure : Failure) : CodexDriver :=
  let failed := driver.setStage place (.finished (some failure))
  match driver.boots[place]? with
  | some ⟨.prewarm _, _⟩ =>
    if failed.isClosingOrClosed then failed else { failed with state := .cold }
  | _ => failed

/-- The installation's checks and `mkdir` end; with nothing awaited between the
lifecycle check and `pendingSpawn`. -/
def madeDir (failure : Option Failure) : CodexDriver :=
  match failure with
  | some failure => driver.failBoot place failure
  | none =>
    if driver.isClosingOrClosed then driver.failBoot place closedDuringPrewarm
    else { driver with pendingSpawn := some place }.setStage place .spawning

def clearSpawn : CodexDriver :=
  if driver.pendingSpawn = some place then { driver with pendingSpawn := none } else driver

/-- The supervisor answers, and the guard behind the spawn looks at the state again. -/
def spawned (failure : Option Failure) : CodexDriver :=
  match failure with
  | some failure => (driver.clearSpawn place).failBoot place failure
  | none =>
    if driver.isClosingOrClosed then driver.setStage place .reaping
    else
      let driver := driver.clearSpawn place
      { driver with
        servers := driver.servers ++ [AppServer.mk false false]
        process := some driver.servers.length }.setStage place .supervising

def reaped : CodexDriver :=
  (driver.clearSpawn place).failBoot place closedDuringPrewarm

/-- `await sendRequest(..)` -/
def await (request : Request) (modelId : JsString)
    (params : Json) : CodexDriver :=
  (driver.setStage place (.awaiting request modelId .waiting)).sendRequest request.method params
    (.boot place)

def clientInfo : Json :=
  .object [(js "clientInfo", .object [(js "name", .string (js "councilkit-runtime-host")),
    (js "title", .null), (js "version", .string (js "0.0.1"))]), (js "capabilities", .object [])]

/-- `waitSupervised` ends. -/
def supervised (failure : Option Failure) : CodexDriver :=
  match failure with
  | some failure =>
    driver.failBoot place (if driver.isClosingOrClosed then closedDuringPrewarm else failure)
  | none =>
    let modelId := match driver.boots[place]? with
      | some ⟨.prewarm modelId, _⟩ => modelId
      | _ => driver.lastModelId.getD []
    if driver.process.isNone then
      driver.failBoot place { message := js "app-server not running" }
    else driver.await place .initializing modelId clientInfo

/-- `entries.find((m) => m.model === modelId)`; a `null` before it is a TypeError. -/
def findModel (modelId : JsString) : List Json → Option (Option Json)
  | [] => some none
  | .null :: _ => none
  | entry :: rest =>
    if strictEquals (memberOf entry (js "model")) (some (.string modelId)) then some (some entry)
    else findModel modelId rest

/-- The catalog of an answered `model/list`. -/
def servedModels (entries : List Json) : List JsString :=
  entries.filterMap fun entry =>
    if isTruthy (memberOf entry (js "hidden")) then none
    else stringOrNull (memberOf entry (js "model"))

/-- `reasoningEfforts` of the selected model; `none` is a TypeError. -/
def effortsOf (selected : Option Json) : Option (List JsString) :=
  match notNull (memberAt selected (js "supportedReasoningEfforts")) with
  | none => some []
  | some (.array items) => some (items.filterMap fun item =>
    stringOrNull (memberOf item (js "reasoningEffort")))
  | some _ => none

def entriesOf (models : Option Json) : List Json :=
  match memberAt models (js "data") with
  | some (.array items) => items
  | _ => []

def threadParams (modelId : JsString) : Json :=
  .object [(js "model", .string modelId), (js "cwd", .string driver.cwd),
    (js "sandbox", .string (js "read-only")), (js "approvalPolicy", .string (js "never")),
    (js "ephemeral", .bool true)]

def modelsAnswered (modelId : JsString) (models : Option Json) :
    CodexDriver :=
  let entries := entriesOf models
  let driver := { driver with catalog := servedModels entries }
  if !driver.catalog.contains modelId then
    driver.failBoot place {
      message := js "model " ++ modelId ++ js " not in codex catalog"
      runtimeCode := some (js "MODEL_UNAVAILABLE"), catalog := driver.catalog }
  else match (findModel modelId entries).bind effortsOf with
    | none => driver.failBoot place { message := js "TypeError" }
    | some efforts =>
      { driver with reasoningEfforts := efforts }.await place .thread modelId (driver.threadParams modelId)

def threadAnswered (modelId : JsString) (thread : Option Json) :
    CodexDriver :=
  let id := memberAt (memberAt thread (js "thread")) (js "id")
  if !isTruthy id then
    driver.failBoot place { message := js "thread/start returned no thread id"
                            runtimeCode := some (js "INCOMPATIBLE_DRIVER") }
  else
    { driver with
      threadId := id
      threadModel := some ((stringOrNull (memberAt thread (js "model"))).getD modelId)
      state := .ready }.setStage place (.finished none)

/-- `handshake` goes on with an answer. -/
def goOn (request : Request) (modelId : JsString) :
    Answer → CodexDriver
  | .waiting => driver
  | .rejected failure => driver.failBoot place failure
  | .resolved value =>
    match request with
    | .initializing =>
      (driver.write (.object [(js "method", .string (js "initialized")),
        (js "params", .object [])])).await place .account modelId (.object [])
    | .account =>
      if isTruthy (memberAt value (js "account")) then
        driver.await place .models modelId (.object [])
      else driver.failBoot place { message := js "codex local login not available"
                                   runtimeCode := some (js "AUTH_REQUIRED") }
    | .models => driver.modelsAnswered place modelId value
    | .thread => driver.threadAnswered place modelId value

end CodexDriver

structure PrewarmInput where
  driverId : JsString
  modelId : JsString
  personaPrompt : Option JsString
  reasoningEffort : Option JsString

structure ExecuteInput where
  executionId : JsString
  prompt : JsString
  modelId : JsString
  coldStart : Bool

namespace CodexDriver

variable (driver : CodexDriver)

/-- `prewarm`, up to its first `await`; another driver's profile changes nothing. -/
def prewarm (input : PrewarmInput) : CodexDriver :=
  if input.driverId ≠ js "codex-app-server" then driver
  else
    let driver := { driver with
      persona := input.personaPrompt
      reasoningEffort := input.reasoningEffort
      lastInstallation := true
      lastModelId := some input.modelId }
    if driver.state = .ready || driver.state = .busy then driver
    else { driver with state := .starting }.addBoot (.prewarm input.modelId) .makingDir

def turnParams (threadId : Json) (input : ExecuteInput) : Json :=
  let effort := match driver.reasoningEffort with
    | some effort => if effort = [] then [] else [(js "effort", Json.string effort)]
    | none => []
  let instructions := match driver.persona with
    | some persona => if persona = [] || !input.coldStart then []
        else [(js "developerInstructions", Json.string persona)]
    | none => []
  .object ([(js "threadId", threadId), (js "clientUserMessageId", .string input.executionId),
    (js "input", .array [.object [(js "type", .string (js "text")),
      (js "text", .string input.prompt)]])] ++ effort ++ instructions)

/-- `execute`; on a driver that is not ready the one event is a failure.  A second
execution beside an active turn throws. -/
def execute (input : ExecuteInput) : CodexDriver :=
  match driver.activeTurn with
  | some _ => driver
  | none =>
    match driver.process, driver.threadId, driver.state with
    | some _, some threadId, .ready =>
      let turn : ActiveTurn := {
        executionId := input.executionId, modelId := input.modelId, idleTimer := true
        turnTimer := true, writing := true, emitted := [⟨.started input.modelId, none⟩] }
      { driver with
        state := .busy
        turns := driver.turns ++ [turn]
        activeTurn := some driver.turns.length }.request (js "turn/start")
          (driver.turnParams threadId input) (.turnStart driver.turns.length)
    | _, _, _ =>
      let error := { driver.driverError (js "DRIVER_CRASH") .dispatch
        (js "driver process or thread is not ready") input.executionId with retryable := true }
      let turn : ActiveTurn := {
        executionId := input.executionId, modelId := input.modelId, settled := true
        emitted := [⟨.failed error .not_dispatched .none true, none⟩] }
      { driver with turns := driver.turns ++ [turn] }

variable (place : Nat)

def turnWritten (failed : Option (JsString × JsString)) :
    CodexDriver :=
  match driver.turns[place]? with
  | none => driver
  | some turn =>
    match failed with
    | some (id, message) =>
      let driver := { driver.setTurn place { turn with writing := false } with
        pending := driver.pending.filter (·.1 ≠ id) }
      if driver.deadlineMaySettle place then
        driver.failWith place (js "DRIVER_CRASH") .dispatch (js "stdin write failed: " ++ message) none
      else driver
    | none => driver.setTurn place { turn with
        writing := false
        dispatchState := if turn.dispatchState = DispatchState.not_dispatched then .unknown
          else turn.dispatchState
        dispatchTimer := true }

def idleTimeout : CodexDriver :=
  if driver.deadlineMaySettle place then
    driver.failTurn place (fun turn =>
      { driver.driverError (js "STREAM_IDLE_TIMEOUT") .stream
          (js "No protocol frames within the idle limit.") turn.executionId with
        details := [(js "limitMs", .ofNat driver.streamIdleMs)] }) none
  else driver

def turnTimeout : CodexDriver :=
  if driver.deadlineMaySettle place then
    (driver.interruptTurn place (js "timeout") none).respawn
  else driver

def dispatchTimeout : CodexDriver :=
  if driver.deadlineMaySettle place &&
      driver.turns[place]?.any (·.dispatchState = DispatchState.unknown) then
    driver.failWith place (js "DISPATCH_TIMEOUT") .dispatch
      (js "turn/start was not acknowledged in time.") none
  else driver

/-- The latch that `cancel` and `close` take, and the interrupt they send. -/
def latch (turn : ActiveTurn) : CodexDriver :=
  driver.setTurn place { turn with cancelling := true }.clearTurnTimers

def interruptParams (threadId : Json) (turn : ActiveTurn) : Json :=
  .object [(js "threadId", threadId), (js "turnId", turn.turnId.getD .null)]

/-- `cancel`, up to its first `await`. -/
def cancel (executionId : JsString) : CodexDriver :=
  match driver.activeTurn with
  | none => driver
  | some place =>
    match driver.turns[place]? with
    | none => driver
    | some turn =>
      if turn.executionId ≠ executionId then driver
      else
        let latched := driver.latch place turn
        match isTruthy turn.turnId, latched.threadId with
        | true, some threadId =>
          { latched with
            cancels := latched.cancels ++ [Cancel.mk place (.interrupting .waiting)] }.sendRequest (js "turn/interrupt") (interruptParams threadId turn)
              (.cancel latched.cancels.length)
        | _, _ => { latched with cancels := latched.cancels ++ [Cancel.mk place .polling] }

def setCancel (stage : CancelStage) : CodexDriver :=
  match driver.cancels[place]? with
  | none => driver
  | some cancel => { driver with cancels := driver.cancels.set place { cancel with stage } }

def poll (place turn : Nat) (expired : Bool) : CodexDriver :=
  if driver.activeTurn ≠ some turn then driver.setCancel place .finished
  else if expired then
    let killed := match driver.process with
      | some server => { driver with killed := driver.killed ++ [server] }
      | none => driver
    ((killed.setCancel place .finished).interruptTurn turn (js "user_cancelled") none).respawn
  else driver

def setClose (stage : CloseStage) : CodexDriver :=
  { driver with closes := driver.closes.set place stage }

def closed : CodexDriver :=
  { driver with sessionEpoch := driver.sessionEpoch + 1, state := .closed }.setClose place .finished

/-- `close` behind the pending spawn. -/
def tearDown : CodexDriver :=
  let gone := { driver with process := none, threadId := none }
  match driver.process with
  | some _ => gone.setClose place .shutting
  | none => gone.closed place

/-- What `close` does to the active turn. -/
def latchActive : CodexDriver :=
  match driver.activeTurn with
  | none => driver
  | some place =>
    match driver.turns[place]? with
    | none => driver
    | some turn =>
      match isTruthy turn.turnId, driver.threadId with
      | true, some threadId => (driver.latch place turn).sendRequest (js "turn/interrupt")
          (interruptParams threadId turn) .forgotten
      | _, _ => driver.latch place turn

/-- `close`, up to its first `await`. -/
def close : CodexDriver :=
  let latched := { driver with state := .closing }.latchActive
  match latched.pendingSpawn with
  | some boot => { latched with closes := latched.closes ++ [.awaitingSpawn boot] }
  | none =>
    { latched with closes := latched.closes ++ [CloseStage.shutting] }.tearDown latched.closes.length

def limitExceeded : CodexDriver :=
  match driver.activeTurn with
  | none => driver.respawn
  | some place =>
    if driver.turns[place]?.any (·.cancelling) then driver
    else (driver.failWith place (js "PROTOCOL_LIMIT") .stream
      (js "NDJSON line exceeded the 8 MiB limit.") none).respawn

/-- The state that `capabilityState` reports as ready. -/
def capabilityReady : Bool :=
  driver.state = .ready || driver.state = .busy

end CodexDriver

inductive Event where
  | prewarm (input : PrewarmInput)
  | execute (input : ExecuteInput)
  | cancel (executionId : JsString)
  | close
  | idleTimer (turn : Nat)
  | turnTimer (turn : Nat)
  | dispatchTimer (turn : Nat)
  | turnWritten (turn : Nat) (failed : Option (JsString × JsString))
  /-- A line of a process, written for an execution or for none. -/
  | frame (server : Nat) (origin : Option Nat) (message : Json)
  | limitExceeded (server : Nat)
  | processExit (server : Nat)
  | oldShutDown (boot : Nat)
  | madeDir (boot : Nat) (failure : Option Failure)
  | spawned (boot : Nat) (failure : Option Failure)
  | reaped (boot : Nat)
  | supervised (boot : Nat) (failure : Option Failure)
  /-- The deadline of the awaited request, or the failure of its write. -/
  | requestFailed (boot : Nat) (written : Option JsString) (failure : Failure)
  | goOn (boot : Nat)
  | interruptFailed (cancel : Nat) (written : Option JsString) (failure : Failure)
  | interruptEnded (cancel : Nat)
  | poll (cancel : Nat) (expired : Bool)
  | spawnSettled (close : Nat)
  | closeShutDown (close : Nat)

namespace CodexDriver

variable (driver : CodexDriver)

/-- A failed write also takes its entry out of `pending`. -/
def dropRequest (written : Option JsString) : CodexDriver :=
  match written with
  | some id => { driver with pending := driver.pending.filter (·.1 ≠ id) }
  | none => driver

def setServer (place : Nat) (server : AppServer) : CodexDriver :=
  { driver with servers := driver.servers.set place server }

def timerStep (place : Nat) (timer : ActiveTurn → Bool)
    (fired : ActiveTurn → ActiveTurn) (callback : CodexDriver → CodexDriver) : Option CodexDriver :=
  match driver.turns[place]? with
  | some turn => if timer turn then some (callback (driver.setTurn place (fired turn))) else none
  | none => none

def bootStep (place : Nat) (stands : Stage → Bool)
    (next : CodexDriver → CodexDriver) : Option CodexDriver :=
  match driver.boots[place]? with
  | some boot => if stands boot.stage then some (next driver) else none
  | none => none

def serverStep (place : Nat) (next : AppServer → CodexDriver) : Option CodexDriver :=
  driver.servers[place]?.map next

def step : Event → Option CodexDriver
  | .prewarm input => some (driver.prewarm input)
  | .execute input => some (driver.execute input)
  | .cancel executionId => some (driver.cancel executionId)
  | .close => some driver.close
  | .idleTimer turn => driver.timerStep turn (·.idleTimer) ({ · with idleTimer := false })
      (·.idleTimeout turn)
  | .turnTimer turn => driver.timerStep turn (·.turnTimer) ({ · with turnTimer := false })
      (·.turnTimeout turn)
  | .dispatchTimer turn => driver.timerStep turn (·.dispatchTimer) ({ · with dispatchTimer := false })
      (·.dispatchTimeout turn)
  | .turnWritten turn failed =>
    if driver.turns[turn]?.any (·.writing) then some (driver.turnWritten turn failed) else none
  | .frame place origin message => driver.serverStep place fun server =>
    if server.overflow then driver else driver.onFrame origin message
  | .limitExceeded place => driver.serverStep place fun server =>
    if server.overflow then driver
    else (driver.setServer place { server with overflow := true }).limitExceeded
  | .processExit place => driver.serverStep place fun server =>
    if server.exited then driver
    else (driver.setServer place { server with exited := true }).onProcessExit
  | .oldShutDown boot => driver.bootStep boot (fun stage => stage matches .shuttingOld)
      (·.oldShutDown boot)
  | .madeDir boot failure => driver.bootStep boot (fun stage => stage matches .makingDir)
      (·.madeDir boot failure)
  | .spawned boot failure => driver.bootStep boot (fun stage => stage matches .spawning)
      (·.spawned boot failure)
  | .reaped boot => driver.bootStep boot (fun stage => stage matches .reaping) (·.reaped boot)
  | .supervised boot failure => driver.bootStep boot (fun stage => stage matches .supervising)
      (·.supervised boot failure)
  | .requestFailed boot written failure =>
    driver.bootStep boot (fun stage => stage matches .awaiting _ _ .waiting)
      fun driver => (driver.dropRequest written).answerBoot boot (.rejected failure)
  | .goOn boot =>
    match driver.boots[boot]? with
    | some ⟨_, .awaiting _ _ .waiting⟩ => none
    | some ⟨_, .awaiting request modelId answer⟩ => some (driver.goOn boot request modelId answer)
    | _ => none
  | .interruptFailed place written failure =>
    match driver.cancels[place]? with
    | some ⟨_, .interrupting .waiting⟩ =>
      some ((driver.dropRequest written).answerCancel place (.rejected failure))
    | _ => none
  | .interruptEnded place =>
    match driver.cancels[place]? with
    | some ⟨_, .interrupting .waiting⟩ => none
    | some ⟨_, .interrupting _⟩ => some (driver.setCancel place .polling)
    | _ => none
  | .poll place expired =>
    match driver.cancels[place]? with
    | some ⟨turn, .polling⟩ => some (driver.poll place turn expired)
    | _ => none
  | .spawnSettled place =>
    match driver.closes[place]? with
    | some (.awaitingSpawn boot) =>
      match driver.boots[boot]? with
      | some ⟨_, .spawning⟩ | some ⟨_, .reaping⟩ => none
      | _ => some ({ driver with pendingSpawn := none }.tearDown place)
    | _ => none
  | .closeShutDown place =>
    match driver.closes[place]? with
    | some .shutting => some (driver.closed place)
    | _ => none

/-- Does this step end a `prewarm` with its result? -/
def returnsResult : Event → Bool
  | .prewarm input => input.driverId = js "codex-app-server" && driver.capabilityReady
  | .goOn boot =>
    match driver.boots[boot]? with
    | some ⟨.prewarm _, .awaiting .thread _ (.resolved thread)⟩ =>
      isTruthy (memberAt (memberAt thread (js "thread")) (js "id"))
    | _ => false
  | _ => false

end CodexDriver

end CouncilKit.Host.Codex
