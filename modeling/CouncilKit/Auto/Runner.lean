import CouncilKit.Data.Decimal
import CouncilKit.Data.Transition

namespace CouncilKit.Auto

open Data JsString

/-! `runAttempts` as a step relation: a label is what happens between two awaits of a
worker, with the answers its callbacks and subprocesses gave.
-/

structure AttemptSpec where
  attemptId : JsString
  agentId : JsString
  agentName : JsString
  driverId : JsString
  modelId : JsString
  cwd : JsString
  timeoutMs : Option Nat := none

structure AttemptFailure where
  code : JsString
  message : JsString
  errorClass : Option JsString := none
  retryable : Option Bool := none
deriving DecidableEq

/-- `AttemptExitCode`: a number, `"killed"` or `null`. -/
inductive AttemptExitCode where
  | number (code : Int)
  | killed
  | null
deriving DecidableEq

structure AttemptResult where
  attemptId : JsString
  agentId : JsString
  agentName : JsString
  driverId : JsString
  modelId : JsString
  output : JsString
  exitCode : AttemptExitCode
  durationMs : Nat
  workspace : JsString
  failure : Option AttemptFailure
  attemptNumber : Option Nat := none
  retryOf : Option Nat := none
  willRetry : Bool := false
deriving DecidableEq

namespace AttemptResult

/-- `status`: a result with a failure has failed. -/
def success (result : AttemptResult) : Bool := result.failure.isNone

end AttemptResult

structure SpawnOutput where
  stdout : JsString
  stderr : Option JsString := none
  exitCode : Option Int
  timedOut : Bool := false
  aborted : Bool := false
  error : Option JsString := none
deriving DecidableEq

structure DriverTerminal where
  errorClass : JsString
  retryable : Bool
  message : JsString

/-- The readers of a driver's output and texts for its failures. -/
structure DriverReader where
  classifyDriverTerminal : SpawnOutput → Option DriverTerminal
  isCodexReconnectDiagnostic : JsString → Bool
  formatExitFailure : Option Int → Option JsString → JsString
  withLoginHint : JsString → JsString → JsString

def pad2 (value : Nat) : JsString := if value < 10 then js "0" ++ ofNat value else ofNat value

def formatDurationMs (ms : Nat) : JsString :=
  let totalSeconds := ms / 1000
  let seconds := totalSeconds % 60
  let totalMinutes := totalSeconds / 60
  let minutes := totalMinutes % 60
  let hours := totalMinutes / 60
  if 0 < hours then ofNat hours ++ js "h" ++ pad2 minutes ++ js "m" ++ pad2 seconds ++ js "s"
  else if 0 < totalMinutes then ofNat minutes ++ js "m" ++ pad2 seconds ++ js "s"
  else ofNat seconds ++ js "s"

namespace AttemptSpec

variable (spec : AttemptSpec)

def result (output : JsString) (exitCode : AttemptExitCode) (durationMs : Nat)
    (failure : Option AttemptFailure) : AttemptResult where
  attemptId := spec.attemptId
  agentId := spec.agentId
  agentName := spec.agentName
  driverId := spec.driverId
  modelId := spec.modelId
  output := output
  exitCode := exitCode
  durationMs := durationMs
  workspace := spec.cwd
  failure := failure

def abortedAttempt (durationMs : Nat) : AttemptResult :=
  spec.result [] .killed durationMs
    (some ⟨js "ABORTED", js "aborted by cancellation signal", none, some false⟩)

def cancelledAttempt : AttemptResult :=
  spec.result [] .null 0 (some ⟨js "CANCELLED", js "run aborted before this attempt started", none, none⟩)

/-- What `runOne` returns for an executable that is not the frozen one. -/
def driftAttempt (message : JsString) : AttemptResult :=
  spec.result [] .null 0 (some ⟨js "DRIVER_DRIFT", message, some (js "tool_drift"), some false⟩)

def authMessage (reader : DriverReader) (errorClass : Option JsString) (message : JsString) : JsString :=
  if errorClass = some (js "auth") then reader.withLoginHint message spec.driverId else message

def spawnFailure (reader : DriverReader) (timeoutMs : Nat) (out : SpawnOutput)
    (extracted : Option JsString) : Option AttemptFailure :=
  match out.error with
  | some error => some ⟨js "SPAWN_ERROR", error, none, some false⟩
  | none =>
    if out.timedOut then
      some ⟨js "TIMEOUT", js "timed out after " ++ formatDurationMs timeoutMs, none, some false⟩
    else if out.aborted then
      some ⟨js "ABORTED", js "aborted by cancellation signal", none, some false⟩
    else
      let blank := extracted.all (fun output => trim output = [])
      match reader.classifyDriverTerminal out with
      | some terminal =>
        let failure : AttemptFailure := ⟨js "EXIT",
          spec.authMessage reader (some terminal.errorClass) terminal.message,
          some terminal.errorClass, some terminal.retryable⟩
        if out.exitCode ≠ some 0 then some failure
        else if reader.isCodexReconnectDiagnostic terminal.message && !blank then none
        else some failure
      | none =>
        if out.exitCode ≠ some 0 then
          some ⟨js "EXIT", reader.formatExitFailure out.exitCode out.stderr, none, some true⟩
        else if blank then
          some ⟨js "NO_OUTPUT", js "no final output extracted from driver", none, some false⟩
        else none

/-- What `runOneSpawn` returns once the subprocess has ended. -/
def spawnResult (reader : DriverReader) (timeoutMs : Nat) (out : SpawnOutput)
    (extracted : Option JsString) (durationMs : Nat) : AttemptResult :=
  let extracted := if out.error.isSome then none else extracted
  let exitCode := match out.exitCode with
    | some code => .number code
    | none => .null
  spec.result (extracted.getD []) (if out.timedOut || out.aborted then .killed else exitCode)
    durationMs (spec.spawnFailure reader (spec.timeoutMs.getD timeoutMs) out extracted)

end AttemptSpec

def shouldRetry (result : AttemptResult) (aborted : Bool) : Bool :=
  if aborted then false
  else match result.failure with
    | none => false
    | some failure =>
      if failure.retryable = some false then false
      else if failure.code ≠ js "EXIT" then false
      else match result.exitCode with
        | .number code => code ≠ 0 && result.durationMs < 120000
        | .killed | .null => false

inductive Try where
  | first | second
deriving DecidableEq

namespace Try

def number : Try → Nat
  | .first => 1
  | .second => 2

end Try

inductive Worker where
  | fresh
  | running (index : Nat) (attempt : Try)
  | settled (index : Nat) (attempt : Try) (result : AttemptResult)
  | rebuilding (index : Nat) (first : AttemptResult)
  | retrying (index : Nat) (first : AttemptResult)
  | returning (index : Nat) (result : AttemptResult)
  /-- An exception is on its way to the worker's `catch`. -/
  | failing
  | rejected
  | ended
deriving DecidableEq

namespace Worker

/-- The spec that the worker has claimed and whose result is not stored yet. -/
def index? : Worker → Option Nat
  | .running index _ | .settled index _ _ | .rebuilding index _ | .retrying index _
  | .returning index _ => some index
  | .fresh | .failing | .rejected | .ended => none

def isOver : Worker → Bool
  | .rejected | .ended => true
  | .fresh | .running .. | .settled .. | .rebuilding .. | .retrying .. | .returning ..
  | .failing => false

end Worker

/-- What a reader of the callbacks, the subprocesses and the abort signal sees. -/
inductive RunnerEvent where
  | abort
  | start (index : Nat)
  | spawn (index : Nat) (attempt : Try)
  | exited (index : Nat) (attempt : Try)
  | finish (index : Nat) (result : AttemptResult)
  | rebuild (index : Nat)
  | threw
deriving DecidableEq

structure PoolInput where
  specs : List AttemptSpec
  concurrency : Int
  timeoutMs : Nat

def PoolInput.workerCount (input : PoolInput) : Nat :=
  min (max 1 input.concurrency).toNat input.specs.length

inductive PoolStage where
  | pooling
  | filling (index : Nat)
  | returned
  | rejected
deriving DecidableEq

structure Pool where
  input : PoolInput
  stage : PoolStage := .pooling
  aborted : Bool := false
  cursor : Nat := 0
  workers : Nat → Worker := fun _ => .fresh
  results : Nat → Option AttemptResult := fun _ => none
  log : List RunnerEvent := []

/-- What a callback does: it may throw, and it may fire the caller's abort. -/
structure CallbackAnswer where
  aborts : Bool := false
  threw : Bool := false
deriving DecidableEq

/-- How the part of `runOne` before its first await goes. -/
inductive TryStart where
  | drift (message : JsString)
  | launched (elapsedMs : Nat)
  | threw
deriving DecidableEq

inductive PoolLabel where
  | abort
  | next (worker : Nat) (start : CallbackAnswer) (begun : TryStart)
  | exit (worker : Nat) (out : SpawnOutput) (extracted : Option JsString) (durationMs : Nat)
  | crash (worker : Nat)
  | finish (worker : Nat) (answer : CallbackAnswer)
  | rebuilt (worker : Nat) (threw : Bool)
  | retry (worker : Nat) (begun : TryStart)
  | caught (worker : Nat)
  | settle
  | fill (threw : Bool)
deriving DecidableEq

namespace Pool

variable (pool : Pool)

def goto (worker : Nat) (place : Worker) : Pool :=
  { pool with workers := Function.update pool.workers worker place }

def append (events : List RunnerEvent) : Pool := { pool with log := pool.log ++ events }

def abort : Pool := { pool with aborted := true, log := pool.log ++ [.abort] }

def abortIf (aborts : Bool) : Pool := if aborts then pool.abort else pool

def throws (worker : Nat) (place : Worker) : Pool := (pool.append [.threw]).goto worker place

/-- `runOne` up to its first await. -/
def beginTry (worker index : Nat) (spec : AttemptSpec) (attempt : Try) : TryStart → Pool
  | .threw => pool.throws worker .failing
  | .drift message => pool.goto worker (.settled index attempt (spec.driftAttempt message))
  | .launched elapsedMs =>
    if pool.aborted then pool.goto worker (.settled index attempt (spec.abortedAttempt elapsedMs))
    else (pool.append [.spawn index attempt]).goto worker (.running index attempt)

def claim (worker : Nat) (start : CallbackAnswer) (begun : TryStart) : Pool :=
  if pool.aborted then pool.goto worker .ended
  else
    let claimed := { pool with cursor := pool.cursor + 1 }
    match pool.input.specs[pool.cursor]? with
    | none => claimed.goto worker .ended
    | some spec =>
      let told := (claimed.append [.start pool.cursor]).abortIf start.aborts
      -- the throw leaves the worker outside the `try` that kills the pool
      if start.threw then told.throws worker .rejected
      else told.beginTry worker pool.cursor spec .first begun

def store (index : Nat) (result : AttemptResult) : Pool :=
  { pool with results := Function.update pool.results index (some result) }

/-- `onAttemptFinish` on the first execution, with the retry decision around it. -/
def finishFirst (worker index : Nat) (result : AttemptResult) (answer : CallbackAnswer) : Pool :=
  let firstResult := { result with
    attemptNumber := some 1
    willRetry := shouldRetry result pool.aborted }
  let told := (pool.append [.finish index firstResult]).abortIf answer.aborts
  if answer.threw then told.throws worker .failing
  else if shouldRetry firstResult told.aborted then
    (told.append [.rebuild index]).goto worker (.rebuilding index firstResult)
  else told.goto worker (.returning index firstResult)

def finishSecond (worker index : Nat) (result : AttemptResult) (answer : CallbackAnswer) : Pool :=
  let secondResult := { result with attemptNumber := some 2, retryOf := some 1 }
  let told := (pool.append [.finish index secondResult]).abortIf answer.aborts
  if answer.threw then told.throws worker .failing
  else told.goto worker (.returning index secondResult)

def rejects : Prop := ∃ worker < pool.input.workerCount, pool.workers worker = .rejected

instance : Decidable pool.rejects := inferInstanceAs (Decidable (∃ worker < _, _))

def allOver : Prop := ∀ worker < pool.input.workerCount, (pool.workers worker).isOver = true

instance : Decidable pool.allOver := inferInstanceAs (Decidable (∀ worker < _, _))

def fillAt (index : Nat) (threw : Bool) : Pool :=
  match pool.input.specs[index]? with
  | none => { pool with stage := .returned }
  | some spec =>
    match pool.results index with
    | some _ => { pool with stage := .filling (index + 1) }
    | none =>
      let told := (pool.store index spec.cancelledAttempt).append
        [.finish index spec.cancelledAttempt]
      if threw then { told.append [.threw] with stage := .rejected }
      else { told with stage := .filling (index + 1) }

def stepWorker (reader : DriverReader) (worker : Nat) : Worker → PoolLabel → Option Pool
  | .fresh, .next _ start begun => some (pool.claim worker start begun)
  | .returning index result, .next _ start begun =>
    some ((pool.store index result).claim worker start begun)
  | .running index attempt, .exit _ out extracted durationMs =>
    pool.input.specs[index]?.map fun spec =>
      (pool.append [.exited index attempt]).goto worker (.settled index attempt
        (spec.spawnResult reader pool.input.timeoutMs out extracted durationMs))
  | .running index attempt, .crash _ =>
    some ((pool.append [.exited index attempt]).throws worker .failing)
  | .settled index .first result, .finish _ answer =>
    some (pool.finishFirst worker index result answer)
  | .settled index .second result, .finish _ answer =>
    some (pool.finishSecond worker index result answer)
  | .rebuilding index first, .rebuilt _ threw =>
    some (if threw then pool.throws worker .failing
      else if pool.aborted then pool.goto worker (.returning index first)
      else pool.goto worker (.retrying index first))
  | .retrying index _, .retry _ begun =>
    pool.input.specs[index]?.map fun spec => pool.beginTry worker index spec .second begun
  | .failing, .caught _ => some (pool.abort.goto worker .rejected)
  | _, _ => none

def step (reader : DriverReader) (pool : Pool) (label : PoolLabel) : Option Pool :=
  match pool.stage, label with
  | .pooling, .abort => some pool.abort
  | .pooling, .settle =>
    if pool.allOver then
      some { pool with stage := if pool.rejects then .rejected else .filling 0 }
    else none
  | .filling index, .fill threw => some (pool.fillAt index threw)
  | .pooling, .next worker _ _ | .pooling, .exit worker _ _ _ | .pooling, .crash worker
  | .pooling, .finish worker _ | .pooling, .rebuilt worker _ | .pooling, .retry worker _
  | .pooling, .caught worker =>
    if worker < pool.input.workerCount then
      pool.stepWorker reader worker (pool.workers worker) label
    else none
  | _, _ => none

def initial (input : PoolInput) (aborted : Bool) : Pool where
  input := input
  aborted := aborted
  log := if aborted then [.abort] else []

end Pool

end CouncilKit.Auto
