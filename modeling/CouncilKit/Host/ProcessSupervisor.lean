import CouncilKit.Data.JsonParse
import CouncilKit.Data.JsonValue
import CouncilKit.Data.Utf8
import CouncilKit.Host.Events

namespace CouncilKit.Host

open Data

/-! The Host's side of the watchdog protocol.  One record stands for one watchdog
child and the driver below it; its `trace` is what its emitter, its control pipe,
its child and its process group got, in order.  Timers fire as steps of their
own.  The continuation of an awaited shutdown runs in the microtask that follows
the step which resolves it, so it belongs to that step.
-/

def CONTROL_LINE_CAP_BYTES : Nat := 64 * 1024

def WATCHDOG_DIAGNOSTIC_RING_BYTES : Nat := 8 * 1024

def SPAWN_ERROR_DETAIL_MAX : Nat := 512

def spawnFailed (message participantId : JsString) : RuntimeError where
  code := .driver (js "DRIVER_SPAWN_FAILED")
  phase := .prewarm
  message := message.clipUtf16 SPAWN_ERROR_DETAIL_MAX
  participantId := if participantId = [] then none else some participantId

def frameType (message : Json) : Option JsString := stringOrNull (memberOf message (js "type"))

inductive DriverSignal where
  | SIGTERM | SIGKILL

def DriverSignal.text : DriverSignal → JsString
  | .SIGTERM => js "SIGTERM"
  | .SIGKILL => js "SIGKILL"

inductive Act where
  /-- A control frame of the watchdog was handled. -/
  | received (message : Json)
  | sent (message : Json)
  | supervised (pid pgid : Option Json) (startedAt : Option JsString)
  | exit (code : Option Json) (signal : Option JsString)
  | driverExit (participantId : JsString) (code : Option Json) (signal : Option JsString)
  | spawnError (message : JsString)
  | watchdogExit (code : Option Int) (signal : Option JsString)
  /-- A pending `waitSupervised` was answered. -/
  | answered (error : Option RuntimeError)
  /-- The `participantId` slot was given up, if it was still this record's. -/
  | released
  | reapedGroup (pgid : Json)
  | killedWatchdog
  | destroyedControl
  | reapedByWatchdog (reason : JsString)
  | diagnosed (event text : JsString)

namespace Act

def isExit : Act → Bool
  | .exit _ _ => true
  | _ => false

def isRelease : Act → Bool
  | .released => true
  | _ => false

end Act

structure DriverRecord where
  participantId : JsString
  pid : Option Json := none
  pgid : Option Json := none
  supervised : Bool := false
  driverSettled : Bool := false
  spawnError : Option JsString := none
  expectingWatchdogExit : Bool := false
  watchdogHandled : Bool := false
  watchdogExit : Option (Option Int × Option JsString) := none
  controlBuffer : List UInt8 := []
  controlDestroyed : Bool := false
  diagnostics : List UInt8 := []
  /-- `waitSupervised` calls that wait. -/
  waiting : Nat := 0
  /-- Shutdowns that wait for the watchdog's exit before and after killing it. -/
  shutdowns : Nat := 0
  lastWaits : Nat := 0
  /-- Is it in `records`? -/
  tracked : Bool := true
  trace : List Act := []

namespace DriverRecord

variable (record : DriverRecord)

def did (acts : List Act) : DriverRecord :=
  { record with trace := record.trace ++ acts }

/-- An event that every pending `waitSupervised` listens to. -/
def answerWaits (error : Option RuntimeError) : DriverRecord :=
  { record.did (List.replicate record.waiting (.answered error)) with waiting := 0 }

def exitedBeforeSupervised : RuntimeError where
  code := .driver (js "DRIVER_CRASH")
  phase := .prewarm
  message := js "driver exited before it was supervised"
  participantId := some record.participantId

def diedBeforeSupervised : RuntimeError :=
  spawnFailed (js "watchdog exited before reporting supervised") record.participantId

def settleDriver (code : Option Json) (signal : Option JsString) : DriverRecord :=
  if record.driverSettled then record
  else
    ({ record with driverSettled := true }.did [.released, .exit code signal]).answerWaits
      (some record.exitedBeforeSupervised)
    |>.did [.driverExit record.participantId code signal]

def closeAfterProtocolViolation (reason : JsString) : DriverRecord :=
  { record with controlDestroyed := true }.did
    [.diagnosed (js "watchdog-protocol-violation") reason, .destroyedControl, .killedWatchdog]

variable (message : Json)

def sendControl : DriverRecord :=
  if record.watchdogHandled || record.controlDestroyed then record
  else if Json.utf8Length message.stringify + 1 > CONTROL_LINE_CAP_BYTES then
    record.closeAfterProtocolViolation (js "outgoing control frame exceeds 64 KiB")
  else record.did [.sent message]

def reapUnsettled : DriverRecord :=
  match record.pgid, record.driverSettled with
  | some pgid, false => (record.did [.reapedGroup pgid]).settleDriver none (some (js "SIGKILL"))
  | _, _ => record

/-- `case "supervised"` -/
def frameSupervised : DriverRecord :=
  let pid := numberOrNull (memberOf message (js "pid"))
  let pgid := numberOrNull (memberOf message (js "pgid"))
  let startedAt := stringOrNull (memberOf message (js "startedAt"))
  ({ record with pid, pgid, supervised := true }.did [.supervised pid pgid startedAt]).answerWaits none

/-- `String(message.message ?? "unknown spawn error")` -/
def spawnErrorText : Option JsString :=
  match memberOf message (js "message") with
  | none | some .null => some (js "unknown spawn error")
  | some value => coerceText value

/-- `case "spawn-error"`, after its text is known -/
def frameSpawnError (detail : JsString) : DriverRecord :=
  let spawnError := detail.clipUtf16 SPAWN_ERROR_DETAIL_MAX
  -- the watchdog exits itself after spawn-error
  let failed := ({ record with
    spawnError := some spawnError, expectingWatchdogExit := true }.did
      [.spawnError spawnError]).answerWaits (some (spawnFailed spawnError record.participantId))
  if failed.supervised && !failed.driverSettled then failed.settleDriver none none else failed

/-- `case "exit"` -/
def frameExit : DriverRecord :=
  -- the watchdog exits once its driver is gone
  { record with expectingWatchdogExit := true }.settleDriver
    (numberOrNull (memberOf message (js "code"))) (stringOrNull (memberOf message (js "signal")))

/-- `case "reaped"` -/
def frameReaped : DriverRecord :=
  record.did [.reapedByWatchdog ((stringOrNull (memberOf message (js "reason"))).getD (js "unknown"))]

/-- The `switch` on a frame's type; `none` is a TypeError. -/
def handleFrame : Option DriverRecord :=
  let type := frameType message
  if type = some (js "supervised") then some (record.frameSupervised message)
  else if type = some (js "spawn-error") then (spawnErrorText message).map record.frameSpawnError
  else if type = some (js "exit") then some (record.frameExit message)
  else if type = some (js "reaped") then some (record.frameReaped message)
  else some record

def handleControlLine (line : JsString) : Option DriverRecord :=
  let trimmed := line.trim
  if trimmed = [] then some record
  else match Json.parse trimmed with
    | none => some (record.did
        [.diagnosed (js "watchdog-protocol") (js "ignoring malformed control frame")])
    | some .null => none
    | some message => (record.did [.received message]).handleFrame message

def handleControlLines (record : DriverRecord) : List (List UInt8) → DriverRecord
  | [] => record
  | [rest] =>
    let record := { record with controlBuffer := rest }
    if rest.length > CONTROL_LINE_CAP_BYTES then
      record.closeAfterProtocolViolation (js "inbound control frame exceeds 64 KiB")
    else record
  | line :: next :: rest =>
    let record := { record with controlBuffer := [0x0A].intercalate (next :: rest) }
    if line.length > CONTROL_LINE_CAP_BYTES then
      record.closeAfterProtocolViolation (js "inbound control frame exceeds 64 KiB")
    else match record.handleControlLine (Utf8.decode line) with
      | none => record
      | some handled =>
        if handled.watchdogHandled then handled
        else handled.handleControlLines (next :: rest)

def handleControlChunk (chunk : List UInt8) : DriverRecord :=
  if record.watchdogHandled then record
  else record.handleControlLines ((record.controlBuffer ++ chunk).splitOn 0x0A)

/-- The watchdog died while its driver may still be alive: the group is reaped,
when it is known. -/
def unexpectedExit (code : Option Int) (signal : Option JsString) : DriverRecord :=
  let record := match record.pgid, record.driverSettled with
    | some _, false => record.reapUnsettled.did
        [.diagnosed (js "watchdog-exit")
          (js "watchdog died unexpectedly; driver group reaped via pgid")]
    | _, _ => record.did
        [.diagnosed (js "watchdog-exit") (js "watchdog died before supervision completed")]
  (record.did [.watchdogExit code signal]).answerWaits (some record.diedBeforeSupervised)

def expectsExit : Bool :=
  record.expectingWatchdogExit || record.driverSettled || record.spawnError.isSome

def logDiagnostics : DriverRecord :=
  let text := Utf8.decode record.diagnostics
  if text = [] then record else record.did [.diagnosed (js "watchdog-stderr") text]

/-- `waiter()` of every pending shutdown, each of which then falls back to the reap. -/
def resumeShutdowns : DriverRecord :=
  let resumed := { record with shutdowns := 0, lastWaits := 0 }
  if 0 < record.shutdowns + record.lastWaits then resumed.reapUnsettled else resumed

def handleWatchdogExit (code : Option Int) (signal : Option JsString) :
    DriverRecord :=
  if record.watchdogHandled then record
  else
    let handled := { record with watchdogHandled := true, watchdogExit := some (code, signal) }
    let reported := if handled.expectsExit then handled else handled.unexpectedExit code signal
    ({ reported.logDiagnostics with tracked := false }.did [.released]).resumeShutdowns

/-- `waitSupervised(timeoutMs)` -/
def waitSupervised : DriverRecord :=
  if record.supervised then record.did [.answered none]
  else match record.spawnError with
    | some message => record.did [.answered (some (spawnFailed message record.participantId))]
    | none =>
      if record.driverSettled then record.did [.answered (some record.exitedBeforeSupervised)]
      else if record.watchdogHandled then
        record.did [.answered (some record.diedBeforeSupervised)]
      else { record with waiting := record.waiting + 1 }

/-- The timer of a pending `waitSupervised(timeoutMs)`. -/
def supervisionTimeout (timeoutMs : Nat) : DriverRecord :=
  let record := { record with waiting := record.waiting - 1, expectingWatchdogExit := true }
  let record := record.sendControl (.object
    [(js "type", .string (js "kill")), (js "signal", .string (js "SIGKILL"))])
  (record.did [.killedWatchdog]).reapUnsettled.did [.answered (some (spawnFailed
    (js "timed out after " ++ .ofNat timeoutMs ++ js "ms waiting for watchdog \"supervised\"")
    record.participantId))]

def kill (record : DriverRecord) (signal : DriverSignal) (graceMs : Option Int) : DriverRecord :=
  let grace : List (JsString × Json) := match graceMs with
    | none => []
    | some graceMs => [(js "graceMs", .number graceMs)]
  if record.driverSettled then record
  else { record with expectingWatchdogExit := true }.sendControl (.object
    ([(js "type", Json.string (js "kill")), (js "signal", Json.string signal.text)] ++ grace))

def closeStdin : DriverRecord :=
  record.sendControl (.object [(js "type", .string (js "close-stdin"))])

/-- `shutdownRecord` up to its first `await`, and all of it when the watchdog is gone. -/
def shutdownRecord (graceMs : Int) : DriverRecord :=
  if record.watchdogHandled then record.reapUnsettled
  else
    let record := { record with expectingWatchdogExit := true }.sendControl (.object
      [(js "type", .string (js "shutdown")), (js "graceMs", .number graceMs)])
    { record with shutdowns := record.shutdowns + 1 }

/-- The watchdog did not exit in `graceMs + 1000`. -/
def shutdownTimeout : DriverRecord :=
  let record := { record with shutdowns := record.shutdowns - 1 }
  let record := (record.did [.killedWatchdog]).reapUnsettled
  { record with lastWaits := record.lastWaits + 1 }

def lastTimeout : DriverRecord :=
  { record with lastWaits := record.lastWaits - 1 }.reapUnsettled

def appendDiagnostics (chunk : List UInt8) : DriverRecord :=
  let kept := record.diagnostics ++ chunk
  { record with diagnostics := kept.drop (kept.length - WATCHDOG_DIAGNOSTIC_RING_BYTES) }

def hasReleased : Bool := record.trace.any Act.isRelease

end DriverRecord

structure DriverSpawnSpec where
  participantId : JsString
  executable : JsString
  argv : List JsString
  cwd : JsString

def isAbsolute (path : JsString) : Bool := path.head? = some 0x2F

def validateSpec (spec : DriverSpawnSpec) : Except RuntimeError Unit :=
  if spec.participantId = [] then
    .error (spawnFailed (js "participantId is required") spec.participantId)
  else if !isAbsolute spec.executable then
    .error (spawnFailed (js "executable must be an absolute path") spec.participantId)
  else if !isAbsolute spec.cwd then
    .error (spawnFailed (js "cwd must be an absolute path") spec.participantId)
  else .ok ()

/-- Every record ever made, in order; the set `records` of the source is those
that are `tracked`. -/
structure ProcessSupervisor where
  records : List DriverRecord := []
  byParticipant : JsString → Option Nat := fun _ => none

namespace ProcessSupervisor

variable (supervisor : ProcessSupervisor)

/-- The record at a place after a step.  Both deletes of the slot check that it is
still this record's; once it is given up it never becomes this record's again. -/
def put (place : Nat) (record : DriverRecord) : ProcessSupervisor where
  records := supervisor.records.set place record
  byParticipant :=
    if record.hasReleased && supervisor.byParticipant record.participantId = some place then
      Function.update supervisor.byParticipant record.participantId none
    else supervisor.byParticipant

/-- `spawn` of the source's message to the watchdog. -/
def spawnMessage (spec : DriverSpawnSpec) (env : List (JsString × JsString)) : Json :=
  .object [(js "type", .string (js "spawn")), (js "executable", .string spec.executable),
    (js "argv", .array (spec.argv.map .string)), (js "cwd", .string spec.cwd),
    (js "env", .object (env.map fun entry => (entry.1, .string entry.2)))]

/-- `spawnDriver`; what `ensureCwd` answers, the environment and whether the pipes
stand are inputs.  Nothing is awaited between the duplicate check and the end. -/
def spawnDriver (spec : DriverSpawnSpec)
    (env : List (JsString × JsString)) (ensured : Except RuntimeError Unit) (piped : Bool) :
    Except RuntimeError ProcessSupervisor := do
  validateSpec spec
  ensured
  let duplicate := (supervisor.byParticipant spec.participantId).bind (supervisor.records[·]?)
  if duplicate.any fun record => !record.driverSettled then
    .error (spawnFailed (js "participant already has a live driver") spec.participantId)
  else if !piped then
    .error (spawnFailed (js "watchdog stdio pipes were not established") spec.participantId)
  else
    let record : DriverRecord := { participantId := spec.participantId }
    .ok {
      records := supervisor.records ++ [record.sendControl (spawnMessage spec env)]
      byParticipant := Function.update supervisor.byParticipant spec.participantId
        (some supervisor.records.length) }

inductive DriverStep where
  | controlChunk (chunk : List UInt8)
  | diagnosticChunk (chunk : List UInt8)
  /-- The child's `exit` event. -/
  | watchdogExit (code : Option Int) (signal : Option JsString)
  /-- The child's `error` event. -/
  | watchdogError (message : JsString)
  | waitSupervised
  | supervisionTimeout (timeoutMs : Nat)
  | kill (signal : DriverSignal) (graceMs : Option Int)
  | closeStdin
  | shutdown (graceMs : Int)
  | shutdownTimeout
  | lastTimeout

inductive Event where
  | spawnDriver (spec : DriverSpawnSpec) (env : List (JsString × JsString))
      (ensured : Except RuntimeError Unit) (piped : Bool)
  | driver (place : Nat) (action : DriverStep)
  | shutdownAll (graceMs : Int)

def driverStep (record : DriverRecord) : DriverStep → Option DriverRecord
  | .controlChunk chunk => some (record.handleControlChunk chunk)
  | .diagnosticChunk chunk => some (record.appendDiagnostics chunk)
  | .watchdogExit code signal => some (record.handleWatchdogExit code signal)
  | .watchdogError message => some ((record.did [.diagnosed (js "watchdog-spawn")
      (js "watchdog process error: " ++ message)]).handleWatchdogExit none none)
  | .waitSupervised => some record.waitSupervised
  | .supervisionTimeout timeoutMs =>
    if 0 < record.waiting then some (record.supervisionTimeout timeoutMs) else none
  | .kill signal graceMs => some (record.kill signal graceMs)
  | .closeStdin => some record.closeStdin
  | .shutdown graceMs => some (record.shutdownRecord graceMs)
  | .shutdownTimeout => if 0 < record.shutdowns then some record.shutdownTimeout else none
  | .lastTimeout => if 0 < record.lastWaits then some record.lastTimeout else none

/-- Every tracked record shuts down, as far as its first `await`. -/
def shutdownAll (graceMs : Int) : ProcessSupervisor :=
  (List.range supervisor.records.length).foldl (fun supervisor place =>
    match supervisor.records[place]? with
    | some record => if record.tracked then supervisor.put place (record.shutdownRecord graceMs)
        else supervisor
    | none => supervisor) supervisor

def step : Event → Option ProcessSupervisor
  | .spawnDriver spec env ensured piped =>
    match supervisor.spawnDriver spec env ensured piped with
    | .ok next => some next
    | .error _ => some supervisor
  | .driver place action => do
    let record ← supervisor.records[place]?
    let next ← driverStep record action
    pure (supervisor.put place next)
  | .shutdownAll graceMs => some (supervisor.shutdownAll graceMs)

end ProcessSupervisor

end CouncilKit.Host
