import CouncilKit.Auto.DriverOutput
import CouncilKit.Data.Transition

namespace CouncilKit.Auto

open Data JsString

/-! `defaultSpawn` as a step relation: a label is an event of the child, of a timer or of
the abort signal, with what the operating system answers to a signal.  The observers
of activity and live events are left out.
-/

inductive KillReason where
  | timeout
  | abort
  | stream
deriving DecidableEq

/-- `SpawnOutput` as `defaultSpawn` builds it. -/
structure SpawnResult where
  stdout : JsString
  stderr : JsString
  finalEventLine : Option JsString := none
  exitCode : Option Int := none
  timedOut : Bool := false
  aborted : Bool := false
  error : Option JsString := none
deriving DecidableEq

/-- What can be seen of a run: the start of a kill, the two signals to the group and the
answer to the caller. -/
inductive SpawnEffect where
  | killing (reason : KillReason)
  | term (delivered : Bool)
  | sigkill
  | resolve (out : SpawnResult)
deriving DecidableEq

structure SpawnInput where
  /-- The driver, when it is one whose stream is watched. -/
  driverId : Option StreamDriver
  promptStdin : Bool
  prompt : JsString

def STDERR_CAP : Nat := 1 * 1024 * 1024

def stderrColl : CappedCollector where
  cap := STDERR_CAP
  headCap := STDERR_CAP / 2
  tailCap := STDERR_CAP / 2

structure SpawnState where
  input : SpawnInput
  /-- `child.pid` -/
  pid : Option Nat
  /-- The child exists: `spawnFn` returned. -/
  started : Bool := true
  signalAborted : Bool := false
  listening : Bool := true
  spawned : Bool := false
  exited : Bool := false
  closed : Bool := false
  settled : Bool := false
  /-- What waits for `killPromise` to be handed to the caller. -/
  waiting : Option SpawnResult := none
  killReason : Option KillReason := none
  killInitiated : Bool := false
  /-- The SIGKILL step is pending, and `killPromise` with it. -/
  killTimer : Bool := false
  naturalCleanupRan : Bool := false
  leaderExitCode : Option Int := none
  timeoutTimer : Bool := true
  drainTimer : Bool := false
  stdoutColl : CappedCollector := stdoutColl
  stderrColl : CappedCollector := stderrColl
  lineColl : Option FinalEventLineCollector := none
  log : List SpawnEffect := []

/-- What an event does not get back from the system itself: `delivered` says whether the
SIGTERM it may send reaches the group. -/
inductive SpawnLabel where
  | spawn (writeError : Option JsString) (delivered : Bool)
  | stdout (chunk : List UInt8)
  | stderr (chunk : List UInt8)
  | streamError (message : JsString) (delivered : Bool)
  | error (message : JsString)
  | exit (code : Option Int) (delivered : Bool)
  | close (code : Option Int) (delivered : Bool)
  | timeout (delivered : Bool)
  | abort (delivered : Bool)
  | drain
  | kill
deriving DecidableEq

namespace SpawnState

/-- The state behind the listeners that `defaultSpawn` installs. -/
def start (input : SpawnInput) (pid : Option Nat) (signalAborted : Bool) : SpawnState where
  input := input
  pid := pid
  signalAborted := signalAborted
  lineColl := input.driverId.map fun driverId => { driverId }

variable (state : SpawnState)

def effect (effect : SpawnEffect) : SpawnState := { state with log := state.log ++ [effect] }

/-- `spawnFn` threw: the caller is answered at once and nothing listens. -/
def threw (input : SpawnInput) (signalAborted : Bool) (message : JsString) : SpawnState :=
  { start input none signalAborted with
    started := false
    listening := false
    timeoutTimer := false
    settled := true
    log := [.resolve { stdout := [], stderr := [], error := some message }] }

def finish (out : SpawnResult) : SpawnState :=
  if state.settled then state
  else
    let done := { state with
      settled := true
      timeoutTimer := false
      drainTimer := false
      listening := false }
    if state.killInitiated && state.killTimer then { done with waiting := some out }
    else done.effect (.resolve out)

def output : SpawnResult where
  stdout := state.stdoutColl.toText
  stderr := state.stderrColl.toText
  timedOut := state.killReason = some .timeout
  aborted := state.killReason = some .abort

def lastLine : Option JsString := state.lineColl.bind (·.lastLine)

def killGroup (reason : KillReason) (delivered : Bool) : SpawnState :=
  if state.settled then state
  else if state.killInitiated then state
  else
    let killing := { state with killReason := some reason, killInitiated := true }.effect
      (.killing reason)
    match state.pid with
    | none => killing
    | some _ =>
      let sent := killing.effect (.term delivered)
      if delivered then { sent with killTimer := true }
      else if reason = .stream then sent
      else sent.finish { sent.output with
        finalEventLine := sent.lastLine
        timedOut := reason = .timeout
        aborted := reason = .abort }

def onStreamError (message : JsString) (delivered : Bool) : SpawnState :=
  let killed := state.killGroup .stream delivered
  killed.finish { killed.output with error := some message }

def onSpawn (writeError : Option JsString) (delivered : Bool) : SpawnState :=
  let killed := if state.signalAborted then state.killGroup .abort delivered else state
  if state.input.promptStdin ∧ state.input.prompt ≠ [] then
    match writeError with
    | some message => killed.onStreamError message delivered
    | none => killed
  else killed

def onError (message : JsString) : SpawnState :=
  state.finish { state.output with
    timedOut := false
    aborted := false
    error := some message }

def cleanupGroupOnNaturalEnd (delivered : Bool) : SpawnState :=
  if state.naturalCleanupRan || state.killInitiated then state
  else
    let ran := { state with naturalCleanupRan := true }
    match state.pid with
    | none => ran
    | some _ =>
      let sent := ran.effect (.term delivered)
      if delivered then { sent with killInitiated := true, killTimer := true } else sent

def onExit (code : Option Int) (delivered : Bool) : SpawnState :=
  let cleaned := { state with leaderExitCode := code }.cleanupGroupOnNaturalEnd delivered
  if cleaned.settled then cleaned else { cleaned with drainTimer := true }

/-- `lineColl?.end()`; `none` is the TypeError of a content field. -/
def endLine : Option SpawnState :=
  match state.lineColl with
  | none => some state
  | some coll => coll.finish.map fun ended => { state with lineColl := some ended }

def settleAfterDrain : Option SpawnState :=
  state.endLine.map fun ended =>
    ended.finish { ended.output with
      finalEventLine := ended.lastLine
      exitCode := ended.leaderExitCode }

def onClose (code : Option Int) (delivered : Bool) : Option SpawnState :=
  (state.cleanupGroupOnNaturalEnd delivered).endLine.map fun ended =>
    ended.finish { ended.output with
      finalEventLine := ended.lastLine
      exitCode := code }

def onStdout (chunk : List UInt8) : Option SpawnState :=
  let fed := { state with stdoutColl := state.stdoutColl.feed chunk }
  match state.lineColl with
  | none => some fed
  | some coll => (coll.feed chunk).map fun coll => { fed with lineColl := some coll }

def onKill : SpawnState :=
  let sent := { state with killTimer := false }.effect .sigkill
  match state.waiting with
  | none => sent
  | some out => { sent with waiting := none }.effect (.resolve out)

/-- One event.  A timer fires when it is set, the child ends once, and the abort signal
fires once; `none` also when a listener throws. -/
def step (state : SpawnState) (label : SpawnLabel) : Option SpawnState :=
  if !state.started then none
  else match label with
    | .spawn writeError delivered =>
      if state.spawned then none
      else some ({ state with spawned := true }.onSpawn writeError delivered)
    | .stdout chunk => state.onStdout chunk
    | .stderr chunk => some { state with stderrColl := state.stderrColl.feed chunk }
    | .streamError message delivered => some (state.onStreamError message delivered)
    | .error message => some (state.onError message)
    | .exit code delivered =>
      if state.exited then none
      else some ({ state with exited := true }.onExit code delivered)
    | .close code delivered =>
      if state.closed then none
      else { state with closed := true }.onClose code delivered
    | .timeout delivered =>
      if state.timeoutTimer then
        some ({ state with timeoutTimer := false }.killGroup .timeout delivered)
      else none
    | .abort delivered =>
      if state.signalAborted then none
      else
        let fired := { state with signalAborted := true }
        some (if state.listening then { fired with listening := false }.killGroup .abort delivered
          else fired)
    | .drain =>
      if state.drainTimer then { state with drainTimer := false }.settleAfterDrain else none
    | .kill => if state.killTimer then some state.onKill else none

end SpawnState

end CouncilKit.Auto
