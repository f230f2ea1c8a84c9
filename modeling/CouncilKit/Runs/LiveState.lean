import CouncilKit.Data.JsonRows
import CouncilKit.Runs.ExecutionRef

namespace CouncilKit.Runs

open Data

inductive CliRunKind where
  | review | discuss | squad | ideate | repair | unknown

inductive CliRunStatus where
  | completed | failed | interrupted | running | unknown | awaitingOrchestrator | closed
deriving DecidableEq

inductive CliRunProgressPhase where
  | attempts | proposing | debating | aggregating | done
deriving DecidableEq

inductive IdeateStage where
  | proposing | debating | aggregating
deriving DecidableEq

/-- How a run ends: what `review.finished` and `ideate.finished` say. -/
inductive RunEnd where
  | completed | failed | interrupted

def RunEnd.status : RunEnd → CliRunStatus
  | .completed => .completed
  | .failed => .failed
  | .interrupted => .interrupted

def FinishedStatus.live : FinishedStatus → AttemptLiveStatus
  | .success => .success
  | .failure => .failure

def runEnd (value : Option Json) : Option RunEnd :=
  (stringOrNull value).bind fun status =>
    if status = js "completed" then some .completed
    else if status = js "failed" then some .failed
    else if status = js "interrupted" then some .interrupted
    else none

/-- `Array.isArray(value) ? value : []` -/
def listOr : Option Json → List Json
  | some (.array items) => items
  | _ => []

structure SeatMeta where
  attemptId : JsString
  agentName : JsString
  driverId : JsString
  modelId : JsString

def asMeta (value : Option Json) : Option SeatMeta := do
  let attemptId ← stringOrNull (memberAt value (js "attemptId"))
  let agentName ← stringOrNull (memberAt value (js "agentName"))
  let driverId ← stringOrNull (memberAt value (js "driverId"))
  let modelId ← stringOrNull (memberAt value (js "modelId"))
  pure { attemptId, agentName, driverId, modelId }

def metasOf (items : List Json) : List SeatMeta := items.filterMap fun item => asMeta (some item)

structure StartedRun where
  attempts : List SeatMeta
  aggregator : SeatMeta
  /-- `flow === "ideate"` -/
  ideate : Bool
  debateAttemptIds : List JsString

structure SeatEnd (Result : Type*) where
  status : FinishedStatus
  durationMs : Json
  result : Result

inductive LiveRow (Result : Type*) where
  | started (run : StartedRun)
  | stage (stage : IdeateStage)
  | attempt (attemptId : JsString) (ending : SeatEnd Result) (willRetry : Bool)
  | resumed (rerunAttemptIds : List JsString)
  | aggregation (ending : SeatEnd Result)
  | finished (ending : Option RunEnd)
  | other

def stageOf (value : Option Json) : Option IdeateStage :=
  (stringOrNull value).bind fun stage =>
    if stage = js "proposing" then some .proposing
    else if stage = js "debating" then some .debating
    else if stage = js "aggregating" then some .aggregating
    else none

def ideateRun (row : Json) : StartedRun :=
  let proposals := listOr (memberOf row (js "proposals"))
  let debates := listOr (memberOf row (js "debates"))
  { attempts := metasOf (proposals ++ debates)
    aggregator := (asMeta (memberOf row (js "aggregator"))).getD {
      attemptId := js "aggregate-final"
      agentName := js "aggregator"
      driverId := js "unknown"
      modelId := [] }
    ideate := true
    debateAttemptIds := (metasOf debates).map (·.attemptId) }

def reviewRun (row : Json) : StartedRun where
  attempts := metasOf (listOr (memberOf row (js "attempts")))
  aggregator := (asMeta (memberOf row (js "aggregator"))).getD {
    attemptId := js "aggregator"
    agentName := js "aggregator"
    driverId := js "unknown"
    modelId := [] }
  ideate := false
  debateAttemptIds := []

/-- `value !== null && typeof value === "object"` -/
def isObject : Option Json → Bool
  | some (.array _) | some (.object _) => true
  | _ => false

section Live

variable {Result : Type*} (summarizeSeatOutput : Option JsString → Result)

/-- How a seat ended; `none` when the status says nothing. -/
def seatEnd (row : Json) : Option (SeatEnd Result) :=
  (finishedStatus (memberOf row (js "status"))).map fun status => {
    status
    durationMs := (numberOrNull (memberOf row (js "durationMs"))).getD (.number 0)
    result := summarizeSeatOutput (stringOrNull (memberOf row (js "output"))) }

def readLiveRow (row : Json) : LiveRow Result :=
  let kind := kindOf row
  if kind = js "ideate.started" then .started (ideateRun row)
  else if kind = js "ideate.stage" then
    match stageOf (memberOf row (js "stage")) with
    | some stage => .stage stage
    | none => .other
  else if kind = js "ideate.finished" then .finished (runEnd (memberOf row (js "status")))
  else if kind = js "review.started" then
    if isObject (memberOf row (js "aggregator")) then .started (reviewRun row) else .other
  else if kind = js "attempt.finished" then
    let attemptId := (stringOrNull (memberOf row (js "attemptId"))).getD []
    match seatEnd summarizeSeatOutput row with
    | some ending =>
      if attemptId = [] then .other
      else .attempt attemptId ending
        (strictEquals (memberOf row (js "willRetry")) (some (.bool true)))
    | none => .other
  else if kind = js "review.resumed" then .resumed (stringsOf (memberOf row (js "rerunAttemptIds")))
  else if kind = js "aggregation.finished" then
    match seatEnd summarizeSeatOutput row with
    | some ending => .aggregation ending
    | none => .other
  else if kind = js "review.finished" then .finished (runEnd (memberOf row (js "status")))
  else .other

structure FinishedSeat (Result : Type*) extends SeatEnd Result where
  willRetry : Bool

structure LiveScan (Result : Type*) where
  started : Option StartedRun := none
  finished : JsString → Option (FinishedSeat Result) := fun _ => none
  aggregation : Option (SeatEnd Result) := none
  runStatus : CliRunStatus := .running
  sawFinished : Bool := false
  ideateStage : Option IdeateStage := none

namespace LiveScan

variable {Result : Type*} (scan : LiveScan Result)

def note : LiveRow Result → LiveScan Result
  | .started run => { scan with
      started := some run
      ideateStage := if run.ideate then some .proposing else scan.ideateStage }
  | .stage stage => { scan with ideateStage := some stage }
  | .attempt attemptId ending willRetry => { scan with
      finished := Function.update scan.finished attemptId (some { toSeatEnd := ending, willRetry }) }
  | .resumed rerunAttemptIds => { scan with
      finished := rerunAttemptIds.foldl (fun finished id => Function.update finished id none) scan.finished
      aggregation := none
      sawFinished := false
      runStatus := .running }
  | .aggregation ending => { scan with aggregation := some ending }
  | .finished ending => { scan with
      sawFinished := true
      runStatus := (ending.map RunEnd.status).getD scan.runStatus }
  | .other => scan

end LiveScan

structure CliRunAttemptProgress (Result : Type*) where
  seat : SeatMeta
  role : ExecutionRole
  status : AttemptLiveStatus
  durationMs : Option Json
  lastActivity : Option JsString
  result : Option Result

def CliRunAttemptProgress.isTerminal {Result : Type*} (row : CliRunAttemptProgress Result) : Bool :=
  row.status = .success || row.status = .failure

structure CliRunProgress (Result : Type*) where
  phase : CliRunProgressPhase
  attempts : List (CliRunAttemptProgress Result)
  updatedAt : Option JsString

structure CliRunLiveState (Result : Type*) where
  status : CliRunStatus
  progress : CliRunProgress Result

/-- The aggregator's status and time, and the phase of the run. -/
structure AggregatorView where
  status : AttemptLiveStatus
  durationMs : Option Json
  phase : CliRunProgressPhase

namespace LiveScan

variable {Result : Type*} (scan : LiveScan Result)

def attemptRow (seat : SeatMeta) : CliRunAttemptProgress Result :=
  let done := scan.finished seat.attemptId
  -- A retry was decided on and has not ended yet.
  let followUpOpen := done.any (·.willRetry) && !scan.sawFinished
  { seat
    role := .attempt
    status := if followUpOpen then .running else (done.map (·.status.live)).getD .queued
    durationMs := if followUpOpen then none else done.map (·.durationMs)
    lastActivity := none
    result := if followUpOpen then none else done.map (·.result) }

def aggregated (ending : SeatEnd Result) : AggregatorView where
  status := ending.status.live
  durationMs := some ending.durationMs
  phase := if scan.sawFinished then .done else .aggregating

def ideateView (run : StartedRun) (rows : List (CliRunAttemptProgress Result)) : AggregatorView :=
  let anyAttemptSuccess := rows.any fun row => row.status = .success
  let debateRows := rows.filter fun row => row.seat.attemptId ∈ run.debateAttemptIds
  let proposalRows := rows.filter fun row => row.seat.attemptId ∉ run.debateAttemptIds
  let proposalsTerminal := proposalRows.all (·.isTerminal)
  let debatesTerminal := debateRows.isEmpty || debateRows.all (·.isTerminal)
  match scan.aggregation with
  | some ending => scan.aggregated ending
  | none =>
    if scan.ideateStage = some .aggregating ||
        (proposalsTerminal && debatesTerminal && anyAttemptSuccess) then
      { status := .running, durationMs := none, phase := .aggregating }
    else if scan.ideateStage = some .debating ||
        (proposalsTerminal && !debateRows.isEmpty && !debatesTerminal) then
      { status := .pending, durationMs := none, phase := .debating }
    else if scan.sawFinished then { status := .pending, durationMs := none, phase := .done }
    else { status := .pending, durationMs := none, phase := .proposing }

def reviewView (rows : List (CliRunAttemptProgress Result)) : AggregatorView :=
  let anyAttemptSuccess := rows.any fun row => row.status = .success
  let attemptTerminal := rows.all (·.isTerminal)
  match scan.aggregation with
  | some ending => scan.aggregated ending
  | none =>
    if attemptTerminal && anyAttemptSuccess && !scan.sawFinished then
      { status := .running, durationMs := none, phase := .aggregating }
    else if scan.sawFinished then { status := .pending, durationMs := none, phase := .done }
    else { status := .pending, durationMs := none, phase := .attempts }

def view (run : StartedRun) (rows : List (CliRunAttemptProgress Result)) : AggregatorView :=
  if run.ideate then scan.ideateView run rows else scan.reviewView rows

def liveState (run : StartedRun) (updatedAt : Option JsString) : CliRunLiveState Result :=
  let rows := run.attempts.map scan.attemptRow
  let view := scan.view run rows
  { status := if scan.sawFinished then scan.runStatus else .running
    progress := {
      phase := view.phase
      attempts := rows ++ [{
        seat := run.aggregator
        role := .aggregator
        status := view.status
        durationMs := view.durationMs
        lastActivity := none
        result := scan.aggregation.map (·.result) }]
      updatedAt } }

end LiveScan

def scanLive (records : List Json) : LiveScan Result :=
  (records.map (readLiveRow summarizeSeatOutput)).foldl LiveScan.note {}

def liveStateFromRecords (records : List Json) (updatedAt : Option JsString) :
    Option (CliRunLiveState Result) :=
  let scan := scanLive summarizeSeatOutput records
  scan.started.map fun run => scan.liveState run updatedAt

end Live

/-- `ideateIntegritySchema` -/
structure IntegritySchema (Integrity : Type*) where
  safeParse : Option Json → Option Integrity
  incomplete : Integrity → Bool

structure TranscriptMeta (Integrity : Type*) where
  kind : CliRunKind
  status : CliRunStatus
  title : JsString
  startedAt : Option JsString
  endedAt : Option JsString
  incomplete : Option Bool
  ideateIntegrity : Option Integrity

namespace TranscriptMeta

def stringOrNull (value : Option Json) : Option JsString :=
  (Data.stringOrNull value).bind fun text => if text.trim = [] then none else some text.trim

def titleFromReviewTask (task : Option Json) : Option JsString :=
  stringOrNull (memberAt task (js "pr")) <|> stringOrNull (memberAt task (js "task")) <|>
    stringOrNull (memberAt task (js "councilTopic"))

def titleFromSquadTask (task : Option Json) : Option JsString :=
  stringOrNull (memberAt task (js "taskId")) <|> stringOrNull (memberAt task (js "task")) <|>
    stringOrNull (memberAt task (js "slug"))

def kindOfRunId (runId : JsString) : CliRunKind :=
  if (js "ck-review-").isPrefixOf runId then .review
  else if (js "ck-run-").isPrefixOf runId then .discuss
  else if (js "ck-squad-").isPrefixOf runId then .squad
  else if (js "ck-ideate-").isPrefixOf runId then .ideate
  else if (js "ck-repair-").isPrefixOf runId then .repair
  else .unknown

def ideateStatus (value : Option Json) : Option CliRunStatus :=
  (stringOrNull value).bind fun status =>
    if status = js "completed" then some .completed
    else if status = js "failed" then some .failed
    else if status = js "interrupted" then some .interrupted
    else none

def finishedStatus (value : Option Json) : Option CliRunStatus :=
  (stringOrNull value).bind fun status =>
    if status = js "completed" then some .completed
    else if status = js "failed" then some .failed
    else if status = js "interrupted" then some .interrupted
    else if status = js "awaiting_orchestrator" then some .awaitingOrchestrator
    else if status = js "closed" then some .closed
    else none

variable {Integrity : Type*} (schema : IntegritySchema Integrity)

def begun (told : TranscriptMeta Integrity) (kind : CliRunKind) (row : Json) (title : Option JsString) :
    TranscriptMeta Integrity :=
  { told with
    kind
    startedAt := stringOrNull (memberOf row (js "startedAt")) <|> told.startedAt
    title := title.getD told.title }

def note (told : TranscriptMeta Integrity) (row : Json) : TranscriptMeta Integrity :=
  let kind := kindOf row
  if kind = js "ideate.started" then
    told.begun .ideate row (stringOrNull (memberOf row (js "idea")))
  else if kind = js "ideate.finished" then
    let integrity := schema.safeParse (memberOf row (js "integrity"))
    let flag := match memberOf row (js "incomplete") with
      | some (.bool value) => some value
      | _ => told.incomplete
    { told with
      status := (ideateStatus (memberOf row (js "status"))).getD told.status
      endedAt := stringOrNull (memberOf row (js "endedAt")) <|> told.endedAt
      incomplete := (integrity.map schema.incomplete) <|> flag
      ideateIntegrity := integrity <|> told.ideateIntegrity }
  else if kind = js "review.started" then
    told.begun .review row (titleFromReviewTask (memberOf row (js "task")))
  else if kind = js "squad.started" then
    told.begun .squad row (titleFromSquadTask (memberOf row (js "task")))
  else if kind = js "run.started" then
    told.begun .discuss row (stringOrNull (memberAt (memberOf row (js "council")) (js "topic")))
  else if kind = js "review.finished" ∨ kind = js "run.finished" ∨ kind = js "squad.finished" then
    { told with
      status := (finishedStatus (memberOf row (js "status"))).getD told.status
      endedAt := stringOrNull (memberOf row (js "endedAt")) <|> told.endedAt }
  else told

def settled (told : TranscriptMeta Integrity) : TranscriptMeta Integrity :=
  if told.status = .unknown ∧ told.startedAt ≠ none ∧ told.endedAt = none then
    { told with status := .running }
  else told

end TranscriptMeta

def parseTranscriptMeta {Integrity : Type*} (schema : IntegritySchema Integrity) (text runId : JsString) :
    TranscriptMeta Integrity :=
  let told := (parseRows text).foldl (TranscriptMeta.note schema) {
    kind := TranscriptMeta.kindOfRunId runId
    status := .unknown
    title := runId
    startedAt := none
    endedAt := none
    incomplete := none
    ideateIntegrity := none }
  told.settled

end CouncilKit.Runs
