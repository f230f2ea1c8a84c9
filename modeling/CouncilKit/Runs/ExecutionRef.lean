import CouncilKit.Data.JsonValue

namespace CouncilKit.Runs

open Data

/-! A run journal records terminal records and resumes only; nothing is written when
an attempt starts.  The reference of an execution is derived from the order of the
journal each time it is read.
-/

inductive ExecutionRole where
  | attempt | aggregator
deriving DecidableEq

inductive FinishedStatus where
  | success | failure
deriving DecidableEq

inductive InflightExecutionStatus where
  | pending | queued | running
deriving DecidableEq

inductive TerminalExecutionStatus where
  | success | failure | cancelled
deriving DecidableEq

/-- `CliRunAttemptLiveStatus` -/
inductive AttemptLiveStatus where
  | queued | running | success | failure | cancelled | pending
deriving DecidableEq

structure AttemptFailureInfo where
  code : JsString
  message : JsString
deriving DecidableEq

inductive UnavailableReason where
  | noStartedRecord | noExecutionRecord
deriving DecidableEq

inductive AttemptExecutionResolution where
  | inflight (role : ExecutionRole) (executionRef : JsString)
      (executionStatus : InflightExecutionStatus)
  | terminal (role : ExecutionRole) (executionRef : JsString)
      (executionStatus : TerminalExecutionStatus) (output : Option JsString)
      (failure : Option AttemptFailureInfo) (reusedExecutionRef : Option JsString)
  | unavailable (role : Option ExecutionRole) (executionRef : JsString) (reason : UnavailableReason)
  | unknownAttempt
deriving DecidableEq

def formatExecutionRef (attemptId : JsString) (generation ordinal : Nat) : JsString :=
  attemptId ++ js "#" ++ .ofNat generation ++ js "." ++ .ofNat ordinal

def unavailableExecutionRef (attemptId : JsString) : JsString := attemptId ++ js "#0.0"

def AGGREGATION_KEY : JsString := js "aggregation.finished"

structure FinishedEntry where
  key : JsString
  index : Nat
  generation : Nat
  ordinal : Nat
  status : FinishedStatus
  output : Option JsString
  failure : Option AttemptFailureInfo
  willRetry : Bool

structure Roster where
  attemptIds : List JsString
  aggregatorAttemptId : Option JsString

structure LastResume where
  index : Nat
  reusedAttemptIds : List JsString

def parseFailure (value : Option Json) : Option AttemptFailureInfo :=
  match stringOrNull (memberAt value (js "code")) with
  | some (unit :: rest) => some {
      code := unit :: rest
      message := (stringOrNull (memberAt value (js "message"))).getD [] }
  | _ => none

def idOf (value : Option Json) : Option JsString :=
  (stringOrNull (memberAt value (js "attemptId"))).filter (· ≠ [])

def collect (list : Option Json) : List JsString :=
  match list with
  | some (.array items) => items.filterMap fun item => idOf (some item)
  | _ => []

def parseRoster (row : Json) : Roster where
  attemptIds := collect (memberOf row (js "attempts")) ++ collect (memberOf row (js "proposals")) ++
    collect (memberOf row (js "debates"))
  aggregatorAttemptId := idOf (memberOf row (js "aggregator"))

/-- What the scan takes from one record; a value that is no object has no kind. -/
inductive JournalRow where
  | started (roster : Roster)
  | resumed (reusedAttemptIds : List JsString)
  | finished (key : JsString) (status : FinishedStatus) (output : Option JsString)
      (failure : Option AttemptFailureInfo) (willRetry : Bool)
  | other

def kindOf (record : Json) : JsString := (stringOrNull (memberOf record (js "kind"))).getD []

def stringsOf : Option Json → List JsString
  | some (.array items) => items.filterMap fun item => stringOrNull (some item)
  | _ => []

def finishedStatus (value : Option Json) : Option FinishedStatus :=
  (stringOrNull value).bind fun status =>
    if status = js "success" then some .success
    else if status = js "failure" then some .failure
    else none

def readRow (row : Json) : JournalRow :=
  let kind := kindOf row
  if kind = js "review.started" ∨ kind = js "ideate.started" then .started (parseRoster row)
  else if kind = js "review.resumed" then
    .resumed (stringsOf (memberOf row (js "reusedAttemptIds")))
  else if kind = js "attempt.finished" ∨ kind = js "aggregation.finished" then
    -- A run has one aggregator: its records count whatever id they name.
    let key := if kind = js "aggregation.finished" then some AGGREGATION_KEY
      else stringOrNull (memberOf row (js "attemptId"))
    match key, finishedStatus (memberOf row (js "status")) with
    | some key, some status =>
      .finished key status (stringOrNull (memberOf row (js "output")))
        (parseFailure (memberOf row (js "failure")))
        (strictEquals (memberOf row (js "willRetry")) (some (.bool true)))
    | _, _ => .other
  else .other

structure Scan where
  roster : Option Roster := none
  resumes : Nat := 0
  lastResume : Option LastResume := none
  finished : List FinishedEntry := []
  /-- The generation and the count of the last terminal record of a key. -/
  counters : JsString → Option (Nat × Nat) := fun _ => none

namespace Scan

variable (scan : Scan)

def generation : Nat := scan.resumes + 1

def nextOrdinal (key : JsString) : Nat :=
  match scan.counters key with
  | some (generation, count) => if generation = scan.generation then count + 1 else 1
  | none => 1

def note (index : Nat) : JournalRow → Scan
  | .started roster => { scan with roster := some roster }
  | .resumed reusedAttemptIds => { scan with
      resumes := scan.resumes + 1
      lastResume := some { index, reusedAttemptIds } }
  | .finished key status output failure willRetry => { scan with
      counters := Function.update scan.counters key (some (scan.generation, scan.nextOrdinal key))
      finished := scan.finished ++ [{
        key, index, status, output, failure, willRetry
        generation := scan.generation
        ordinal := scan.nextOrdinal key }] }
  | .other => scan

def mine (key : JsString) : List FinishedEntry := scan.finished.filter (·.key = key)

end Scan

def scanRecords (records : List Json) : Scan :=
  records.zipIdx.foldl (fun scan entry => scan.note entry.2 (readRow entry.1)) {}

namespace Roster

def roleOf (roster : Roster) (attemptId : JsString) : Option ExecutionRole :=
  if roster.aggregatorAttemptId = some attemptId then some .aggregator
  else if attemptId ∈ roster.attemptIds then some .attempt
  else none

end Roster

def ExecutionRole.key (role : ExecutionRole) (attemptId : JsString) : JsString :=
  match role with
  | .aggregator => AGGREGATION_KEY
  | .attempt => attemptId

namespace FinishedEntry

def ref (entry : FinishedEntry) (attemptId : JsString) : JsString :=
  formatExecutionRef attemptId entry.generation entry.ordinal

def isAfter (entry : FinishedEntry) (lastResume : Option LastResume) : Bool :=
  lastResume.all (·.index < entry.index)

/-- `terminalFromEntry` -/
def terminal (entry : FinishedEntry) (attemptId : JsString) (role : ExecutionRole)
    (reusedExecutionRef : Option JsString) : AttemptExecutionResolution :=
  let failure := if entry.status = .failure then entry.failure else none
  let cancelled := failure.any fun info => info.code = js "CANCELLED" ∨ info.code = js "ABORTED"
  .terminal role (entry.ref attemptId)
    (if entry.status = .success then .success else if cancelled then .cancelled else .failure)
    (if entry.status = .success then entry.output else none) failure reusedExecutionRef

end FinishedEntry

namespace Scan

variable (scan : Scan)

def prospective (attemptId : JsString) (role : ExecutionRole) (liveStatus : Option AttemptLiveStatus)
    (runActive : Bool) : AttemptExecutionResolution :=
  let executionRef :=
    formatExecutionRef attemptId scan.generation (scan.nextOrdinal (role.key attemptId))
  let liveTerminal := liveStatus.any fun status =>
    status = .success ∨ status = .failure ∨ status = .cancelled
  if runActive && !liveTerminal then
    .inflight role executionRef (match liveStatus with
      | some .queued => .queued
      | some .running => .running
      | _ => .pending)
  else .unavailable (some role) executionRef .noExecutionRecord

def resolveSeat (attemptId : JsString) (role : ExecutionRole)
    (liveStatus : Option AttemptLiveStatus) (runActive : Bool) : AttemptExecutionResolution :=
  match (scan.mine (role.key attemptId)).getLast? with
  | none => scan.prospective attemptId role liveStatus runActive
  | some last =>
    let reused := role = .attempt && scan.lastResume.any fun resume =>
      attemptId ∈ resume.reusedAttemptIds && last.index < resume.index
    if reused && last.status = .success then
      last.terminal attemptId role (some (last.ref attemptId))
    else if last.isAfter scan.lastResume then
      if runActive && last.willRetry then
        .inflight role (formatExecutionRef attemptId last.generation (last.ordinal + 1)) .running
      else last.terminal attemptId role none
    else scan.prospective attemptId role liveStatus runActive

end Scan

def resolveAttemptExecution (records : List Json) (attemptId : JsString)
    (liveStatus : Option AttemptLiveStatus) (runActive : Bool) : AttemptExecutionResolution :=
  let scan := scanRecords records
  match scan.roster with
  | none => .unavailable none (unavailableExecutionRef attemptId) .noStartedRecord
  | some roster =>
    match roster.roleOf attemptId with
    | none => .unknownAttempt
    | some role => scan.resolveSeat attemptId role liveStatus runActive

end CouncilKit.Runs
