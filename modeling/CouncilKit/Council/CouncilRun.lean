import CouncilKit.Council.ExecuteTurn

namespace CouncilKit.Council

open Data

/-! `runCouncil` with the files it writes: the transcript, rewritten whole each
time, and the reports.  A write that fails leaves the file as it was.
-/

inductive TurnRole where
  | message | report
deriving DecidableEq

inductive RunStatus where
  | completed | failed | interrupted
deriving DecidableEq

structure TurnCompletedRecord where
  seq : Nat
  round : Nat
  turnIndex : Nat
  role : TurnRole
  participantId : JsString
  executionId : ExecutionId
  output : JsString
  durationMs : Nat
deriving DecidableEq

inductive TranscriptRecord where
  | started
  | completed (turn : TurnCompletedRecord)
  | finished (status : RunStatus) (failure : Option TurnError) (incomplete : Bool)
deriving DecidableEq

structure CompletedTurn where
  participantId : JsString
  executionId : ExecutionId
  output : JsString
  round : Nat
  turnIndex : Nat
deriving DecidableEq

/-- What a report renders: the reporter's output, or the turns of an incomplete run. -/
inductive Report where
  | success (reporter : Option (ExecutionId × JsString))
  | partial_ (turns : List CompletedTurn)
deriving DecidableEq

/-- What `assertRunReferences` lets through. -/
structure RunInput where
  agents : List JsString
  reporter : JsString
  rounds : Nat
  limitCode : JsString
  outPath : Bool
  filled : agents ≠ []
  distinct : agents.Nodup
  member : reporter ∈ agents
  positive : 1 ≤ rounds

/-- What the run does to the Host and to its files, in order. -/
inductive CouncilEvent where
  | host (executionId : ExecutionId) (call : HostCall)
  | transcript (records : List TranscriptRecord)
  | report (content : Report)
  | copy (content : Report)
deriving DecidableEq

structure TurnSeat where
  role : TurnRole
  round : Nat
  turnIndex : Nat
  participantId : JsString
deriving DecidableEq

inductive Stage where
  | starting
  | scoping
  | between (round turnIndex : Nat)
  | turning (seat : TurnSeat) (turn : Turn)
  | closing
  | reporting
  | copying (content : Report)
  | finishing
  | reconciling
  | done
deriving DecidableEq

structure CouncilRun where
  input : RunInput
  stage : Stage := .starting
  aborted : Bool := false
  scopeOpen : Bool := false
  /-- The execution ids the run has drawn. -/
  drawn : List ExecutionId := []
  transcript : List TranscriptRecord := []
  completedTurns : List CompletedTurn := []
  status : RunStatus := .completed
  failure : Option TurnError := none
  reporterOutput : Option (ExecutionId × JsString) := none
  reporterSuccess : Option Report := none
  canonicalIsSuccess : Bool := false
  log : List CouncilEvent := []

inductive CouncilLabel where
  | abort
  | raise (error : TurnError)
  | started (ok : Bool)
  | scoped (created : Bool) (error : Option TurnError)
  | begin_ (executionId : ExecutionId)
  | interrupt
  | turn (label : TurnLabel)
  | persist (transcriptOk : Bool) (reportError : Option TurnError)
  | settle (durationMs : Nat) (ok : Bool)
  | closed (ok : Bool)
  | reported (ok : Bool)
  | copied (ok : Bool)
  | finished (ok : Bool)
  | reconciled (ok : Bool)
deriving DecidableEq

namespace CouncilRun

variable (run : CouncilRun)

def goto (stage : Stage) : CouncilRun := { run with stage }

def append (events : List CouncilEvent) : CouncilRun :=
  { run with log := run.log ++ events }

def ABORTED_FAILURE : TurnError := ⟨js "signal", js "INTERRUPTED"⟩

def stop (status : RunStatus) (failure : TurnError) : CouncilRun :=
  { run with stage := .closing, status, failure := some failure }

def interrupted : CouncilRun := run.stop .interrupted ABORTED_FAILURE

def raised (error : TurnError) : CouncilRun :=
  if run.aborted then run.interrupted else run.stop .failed error

/-- `rewriteTranscript`: a write that fails leaves no event. -/
def rewriteTranscript (ok : Bool) : CouncilRun :=
  if ok then run.append [.transcript run.transcript] else run

def completedMessageCount : Nat :=
  run.transcript.countP fun
    | .completed record => record.role = .message
    | _ => false

variable (seat : TurnSeat) (executionId : ExecutionId)

def turnRecord
    (evidence : TerminalEvidence) : TurnCompletedRecord where
  seq := match seat.role with
    | .message => run.completedTurns.length
    | .report => run.completedMessageCount
  round := seat.round
  turnIndex := seat.turnIndex
  role := seat.role
  participantId := seat.participantId
  executionId := executionId
  output := evidence.output
  durationMs := 0

/-- The part that both `makePersist` and `makeReporterPersist` do before their write. -/
def remember
    (evidence : TerminalEvidence) : CouncilRun :=
  { run with
    transcript := run.transcript ++ [.completed (run.turnRecord seat executionId evidence)]
    completedTurns := run.completedTurns ++ match seat.role with
      | .message => [⟨seat.participantId, executionId, evidence.output, seat.round, seat.turnIndex⟩]
      | .report => [] }

def TRANSCRIPT_IO : TurnError := ⟨js "io", js "TRANSCRIPT_IO"⟩

def persist
    (evidence : TerminalEvidence) (transcriptOk : Bool) (reportError : Option TurnError) :
    CouncilRun × Option TurnError :=
  let written := (run.remember seat executionId evidence).rewriteTranscript transcriptOk
  if transcriptOk = false then (written, some TRANSCRIPT_IO)
  else match seat.role with
    | .message => (written, none)
    | .report =>
      let markdown := Report.success (some (executionId, evidence.output))
      match reportError with
      | none => ({ written.append [.report markdown] with reporterSuccess := some markdown }, none)
      | some error => (written, some error)

def patchRecord (executionId : ExecutionId) (durationMs : Nat) : TranscriptRecord → TranscriptRecord
  | .completed record =>
    .completed (if record.executionId = executionId then { record with durationMs } else record)
  | other => other

def hasRecord (executionId : ExecutionId) : TranscriptRecord → Bool
  | .completed record => record.executionId = executionId
  | _ => false

def patchLast (executionId : ExecutionId) (durationMs : Nat) :
    List TranscriptRecord → List TranscriptRecord
  | [] => []
  | record :: rest =>
    if rest.any (hasRecord executionId) then record :: patchLast executionId durationMs rest
    else patchRecord executionId durationMs record :: rest

def patchLastTurnDuration (executionId : ExecutionId) (durationMs : Nat)
    (ok : Bool) : CouncilRun :=
  if run.transcript.any (hasRecord executionId) then
    { run with transcript := patchLast executionId durationMs run.transcript }.rewriteTranscript ok
  else run

def seatAt (input : RunInput) (round turnIndex : Nat) : Option TurnSeat :=
  if round ≤ input.rounds then
    input.agents[turnIndex]?.map fun agent => ⟨.message, round, turnIndex, agent⟩
  else some ⟨.report, input.rounds, input.agents.length, input.reporter⟩

def nextPosition (input : RunInput) (seat : TurnSeat) : Nat × Nat :=
  if seat.turnIndex + 1 < input.agents.length then (seat.round, seat.turnIndex + 1)
  else (seat.round + 1, 0)

def beginTurn : CouncilRun :=
  { run with
    drawn := executionId :: run.drawn
    stage := .turning seat {
      executionId
      limitCode := run.input.limitCode
      abortSource := if run.aborted then some .external else none } }

def stopAfter (seat : TurnSeat) (result : TurnResult) : CouncilRun :=
  if run.aborted then run.interrupted
  else
    let unexplained : TurnError := match seat.role with
      | .message => ⟨js "turn", js "TURN_NOT_COMPLETED"⟩
      | .report => ⟨js "reporter", js "REPORTER_NOT_COMPLETED"⟩
    let softly := seat.role = .message ∧
      (result.verdict = .interrupted ∨ result.verdict = .cancelled)
    run.stop (if softly then .interrupted else .failed) (result.error.getD unexplained)

def DURATION_IO : TurnError := ⟨js "io", js "TRANSCRIPT_DURATION"⟩

def settleTurn (result : TurnResult)
    (durationMs : Nat) (ok : Bool) : CouncilRun :=
  match result.verdict, result.terminal with
  | .completed, some evidence =>
    let patched := run.patchLastTurnDuration executionId durationMs ok
    match seat.role with
    | .message =>
      let (round, turnIndex) := nextPosition run.input seat
      if ok then patched.goto (.between round turnIndex) else patched.stop .failed DURATION_IO
    | .report =>
      let kept := { patched with reporterOutput := some (executionId, evidence.output) }
      if ok then kept.goto .closing else kept.stop .failed DURATION_IO
  | _, _ => run.stopAfter seat result

def CLOSE_FAILED : TurnError := ⟨js "cleanup", js "CLOSE_FAILED"⟩

def afterClose (ok : Bool) : CouncilRun :=
  let closeFailed : Bool := run.scopeOpen && !ok
  let known := { run with stage := .reporting, canonicalIsSuccess := run.reporterSuccess.isSome }
  if run.aborted then
    { known with status := .interrupted, failure := run.failure.or (some ABORTED_FAILURE) }
  else if closeFailed then
    if run.status = .completed then { known with status := .failed, failure := some CLOSE_FAILED }
    else { known with failure := run.failure.or (some CLOSE_FAILED) }
  else known

/-- The report for the status, and whether it has to be written: the fallback keeps
the one on disk. -/
def finalReport : Report × Bool :=
  if run.status = .completed then
    match run.reporterSuccess, run.reporterOutput with
    | some _, some output => (.success (some output), true)
    | some markdown, none => (markdown, false)
    | none, output => (.success output, true)
  else (.partial_ run.completedTurns, true)

def REPORT_IO : TurnError := ⟨js "report", js "REPORT_IO"⟩

def failWith (error : TurnError) : CouncilRun :=
  { run with
    status := if run.status = .completed then .failed else run.status
    failure := run.failure.or (some error) }

def afterReport (ok : Bool) : CouncilRun :=
  let (content, writes) := run.finalReport
  if ok then
    let written := if writes then run.append [.report content] else run
    let known := { written with canonicalIsSuccess := decide (run.status = RunStatus.completed) }
    known.goto (if run.input.outPath then .copying content else .finishing)
  else (run.failWith REPORT_IO).goto .finishing

def afterCopy (content : Report) (ok : Bool) : CouncilRun :=
  if ok then (run.append [.copy content]).goto .finishing
  else { run with
    stage := .finishing
    status := .failed
    failure := run.failure.or (some ⟨js "report", js "REPORT_OUT_COPY"⟩) }

def afterFinish (ok : Bool) : CouncilRun :=
  let ended := { run with
    transcript := run.transcript ++
      [TranscriptRecord.finished run.status run.failure (run.status ≠ RunStatus.completed)] }
  let written := ended.rewriteTranscript ok
  (if ok then written else written.failWith ⟨js "io", js "TRANSCRIPT_FINAL"⟩).goto .reconciling

def afterReconcile (ok : Bool) : CouncilRun :=
  let due := run.status ≠ .completed ∧ run.canonicalIsSuccess = true
  let written := if due ∧ ok = true then run.append [.report (.partial_ run.completedTurns)] else run
  { written with
    stage := .done
    canonicalIsSuccess := if due then false else run.canonicalIsSuccess }

def hostEvents (executionId : ExecutionId) (calls : List HostCall) : List CouncilEvent :=
  calls.map (.host executionId)

def turnStep (seat : TurnSeat) (turn : Turn) (label : TurnLabel) : Option CouncilRun :=
  (turn.step label).map fun (next, calls) =>
    (run.append (hostEvents turn.executionId calls)).goto (.turning seat next)

def isLocal : TurnLabel → Bool
  | .persisted _ | .abort .external => true
  | _ => false

def step (label : CouncilLabel) : Option CouncilRun :=
  match run.stage, label with
  | .turning seat turn, .abort =>
    let aborted := { run with aborted := true }
    some ((aborted.turnStep seat turn (.abort .external)).getD aborted)
  | .done, _ => none
  | _, .abort => some { run with aborted := true }
  | .starting, .started ok =>
    let begun := { run with transcript := run.transcript ++ [TranscriptRecord.started] }.rewriteTranscript ok
    some (if ok then begun.goto .scoping else begun.stop .failed ⟨js "io", js "TRANSCRIPT_INIT"⟩)
  | .starting, .raise error | .between _ _, .raise error => some (run.raised error)
  | .scoping, .scoped created error =>
    let opened := { run with scopeOpen := created || error.isNone }
    some (if run.aborted then opened.interrupted
      else match error with
        | none => opened.goto (.between 1 0)
        | some error => opened.stop .failed error)
  | .between _ _, .interrupt => if run.aborted then some run.interrupted else none
  | .between round turnIndex, .begin_ executionId =>
    if run.aborted = true ∨ executionId ∈ run.drawn then none
    else (seatAt run.input round turnIndex).map fun seat => run.beginTurn seat executionId
  | .turning seat turn, .turn label => if isLocal label then none else run.turnStep seat turn label
  | .turning seat turn, .persist transcriptOk reportError =>
    match turn.phase with
    | .persisting evidence =>
      let (persisted, error) :=
        run.persist seat turn.executionId evidence transcriptOk reportError
      persisted.turnStep seat turn (.persisted error)
    | _ => none
  | .turning seat turn, .settle durationMs ok =>
    match turn.phase with
    | .finished result => some (run.settleTurn seat turn.executionId result durationMs ok)
    | _ => none
  | .turning _ turn, .raise error => if turn.phase = .rejected then some (run.raised error) else none
  | .closing, .closed ok => some (run.afterClose ok)
  | .reporting, .reported ok => some (run.afterReport ok)
  | .copying content, .copied ok => some (run.afterCopy content ok)
  | .finishing, .finished ok => some (run.afterFinish ok)
  | .reconciling, .reconciled ok => some (run.afterReconcile ok)
  | _, _ => none

end CouncilRun

end CouncilKit.Council
