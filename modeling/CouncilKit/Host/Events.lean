import CouncilKit.Data.Json

namespace CouncilKit.Host

open Data

inductive RuntimeErrorCode where
  | BAD_REQUEST | RESOURCE_LIMIT | RATE_LIMITED | INTERNAL | STALE_CONTROLLER | PROFILE_INVALID
  | SCOPE_NOT_FOUND | SCOPE_CLOSED | PARTICIPANT_NOT_FOUND | PARTICIPANT_BUSY | EXECUTION_NOT_FOUND
  | EXECUTION_CONFLICT | PROTOCOL_VIOLATION | NEEDS_REBASE
  /-- Any other code of the vocabulary, which only drivers report. -/
  | driver (name : JsString)
deriving DecidableEq

def RuntimeErrorCode.text : RuntimeErrorCode → JsString
  | .BAD_REQUEST => js "BAD_REQUEST"
  | .RESOURCE_LIMIT => js "RESOURCE_LIMIT"
  | .RATE_LIMITED => js "RATE_LIMITED"
  | .INTERNAL => js "INTERNAL"
  | .STALE_CONTROLLER => js "STALE_CONTROLLER"
  | .PROFILE_INVALID => js "PROFILE_INVALID"
  | .SCOPE_NOT_FOUND => js "SCOPE_NOT_FOUND"
  | .SCOPE_CLOSED => js "SCOPE_CLOSED"
  | .PARTICIPANT_NOT_FOUND => js "PARTICIPANT_NOT_FOUND"
  | .PARTICIPANT_BUSY => js "PARTICIPANT_BUSY"
  | .EXECUTION_NOT_FOUND => js "EXECUTION_NOT_FOUND"
  | .EXECUTION_CONFLICT => js "EXECUTION_CONFLICT"
  | .PROTOCOL_VIOLATION => js "PROTOCOL_VIOLATION"
  | .NEEDS_REBASE => js "NEEDS_REBASE"
  | .driver name => name

inductive ErrorPhase where
  | security | prewarm | dispatch | stream | commit | cancel | close | quota
deriving DecidableEq

def ErrorPhase.text : ErrorPhase → JsString
  | .security => js "security"
  | .prewarm => js "prewarm"
  | .dispatch => js "dispatch"
  | .stream => js "stream"
  | .commit => js "commit"
  | .cancel => js "cancel"
  | .close => js "close"
  | .quota => js "quota"

structure RuntimeError where
  code : RuntimeErrorCode
  phase : ErrorPhase
  message : JsString
  retryable : Bool := false
  driverId : Option JsString := none
  executionId : Option JsString := none
  participantId : Option JsString := none
  retryAfterMs : Option Nat := none
  details : List (JsString × JsString) := []
deriving DecidableEq

inductive DispatchState where
  | not_dispatched | accepted | unknown
deriving DecidableEq

def DispatchState.text : DispatchState → JsString
  | .not_dispatched => js "not_dispatched"
  | .accepted => js "accepted"
  | .unknown => js "unknown"

inductive ToolState where
  | none | active | completed | unknown
deriving DecidableEq

def ToolState.text : ToolState → JsString
  | .none => js "none"
  | .active => js "active"
  | .completed => js "completed"
  | .unknown => js "unknown"

/-- What an event says, without its execution, number and time.  Here and in an
error, `details` holds the JSON text of members the Host passes on unread. -/
inductive DriverEvent where
  | started (requestedModel : JsString)
  | outputDelta (text : JsString)
  | outputSnapshot (text : JsString)
  | activity (kind summary : JsString)
  | usage (details : List (JsString × JsString))
  | completed (output requestedModel : JsString) (toolState : ToolState)
      (details : List (JsString × JsString))
  | failed (error : RuntimeError) (dispatchState : DispatchState) (toolState : ToolState)
      (retryable : Bool)
  | interrupted (reason : JsString) (dispatchState : DispatchState) (toolState : ToolState)
deriving DecidableEq

structure RuntimeEvent where
  executionId : JsString
  seq : Nat
  «at» : JsString
  body : DriverEvent
deriving DecidableEq

namespace DriverEvent

def isTerminalEvent : DriverEvent → Bool
  | .completed .. | .failed .. | .interrupted .. => true
  | _ => false

/-- `runtimeEventSchema`, for the members a driver can get wrong. -/
def accept : DriverEvent → Bool
  | .started requestedModel => requestedModel ≠ []
  | .activity kind summary =>
    [js "tool", js "command", js "other"].contains kind && summary.length ≤ 256
  | .completed _ requestedModel _ _ => requestedModel ≠ []
  | .failed error _ _ _ => error.message.length ≤ 1024
  | .interrupted reason _ _ =>
    [js "user_cancelled", js "driver_crash", js "timeout", js "host_shutdown",
      js "supervisor_lost", js "unknown"].contains reason
  | _ => true

def preview : DriverEvent → Option JsString
  | .outputDelta text | .outputSnapshot text => some text
  | _ => none

def raw (members : List (JsString × JsString)) : List (JsString × Json) :=
  members.map fun entry => (entry.1, .fraction entry.2)

def errorJson (error : RuntimeError) : Json :=
  .object ([(js "code", .string error.code.text), (js "phase", .string error.phase.text),
    (js "message", .string error.message), (js "retryable", .bool error.retryable)] ++
    (error.driverId.toList.map fun id => (js "driverId", .string id)) ++
    (error.executionId.toList.map fun id => (js "executionId", .string id)) ++
    (error.participantId.toList.map fun id => (js "participantId", .string id)) ++
    (error.retryAfterMs.toList.map fun ms => (js "retryAfterMs", .number ms)) ++
    raw error.details)

def members : DriverEvent → List (JsString × Json)
  | .started requestedModel =>
    [(js "type", .string (js "started")), (js "requestedModel", .string requestedModel)]
  | .outputDelta text => [(js "type", .string (js "output.delta")), (js "text", .string text)]
  | .outputSnapshot text =>
    [(js "type", .string (js "output.snapshot")), (js "text", .string text)]
  | .activity kind summary =>
    [(js "type", .string (js "activity")), (js "kind", .string kind),
      (js "summary", .string summary)]
  | .usage details =>
    [(js "type", .string (js "usage")), (js "usage", .object (raw details))]
  | .completed output requestedModel toolState details =>
    [(js "type", .string (js "completed")), (js "output", .string output),
      (js "requestedModel", .string requestedModel), (js "toolState", .string toolState.text),
      (js "dispatchState", .string (js "accepted"))] ++ raw details
  | .failed error dispatchState toolState retryable =>
    [(js "type", .string (js "failed")), (js "error", errorJson error),
      (js "dispatchState", .string dispatchState.text),
      (js "toolState", .string toolState.text), (js "retryable", .bool retryable)]
  | .interrupted reason dispatchState toolState =>
    [(js "type", .string (js "interrupted")), (js "reason", .string reason),
      (js "dispatchState", .string dispatchState.text), (js "toolState", .string toolState.text)]

end DriverEvent

namespace RuntimeEvent

/-- A completed event also carries its own number as `finalSeq`. -/
def finalSeq (event : RuntimeEvent) : Option Nat :=
  match event.body with
  | .completed .. => some event.seq
  | _ => none

def json (event : RuntimeEvent) : Json :=
  .object (event.body.members ++ [(js "executionId", .string event.executionId),
    (js "seq", .number event.seq), (js "at", .string event.at)] ++
    (event.finalSeq.toList.map fun seq => (js "finalSeq", .number seq)))

def eventBytes (event : RuntimeEvent) : Nat := Json.utf8Length event.json.stringify

end RuntimeEvent

end CouncilKit.Host
