import CouncilKit.Data.Fallible
import CouncilKit.Data.Transition
import CouncilKit.Host.ExecutionRegistry

namespace CouncilKit.Host

open Data

/-! A scope owns one driver per participant and one controller.  A handler runs to
its first `await` in one step; what follows an `await` is a step of its own, so
that any other step may come between.
-/

inductive ScopeState where
  | creating | active | closing | closed
deriving DecidableEq

inductive ParticipantRuntimeState where
  | cold | prewarming | ready | busy | failed
deriving DecidableEq

def ParticipantRuntimeState.text : ParticipantRuntimeState → JsString
  | .cold => js "cold"
  | .prewarming => js "prewarming"
  | .ready => js "ready"
  | .busy => js "busy"
  | .failed => js "failed"

structure ProfileReadiness where
  state : JsString
  detail : Option JsString

structure ResolvedBinding where
  bindingDigest : JsString
  driverId : JsString
  installationId : JsString
  installationFingerprint : JsString
  capabilityDigest : JsString
  requestedModel : JsString
  canonicalModelId : JsString
  modelAliases : List JsString
  route : Option JsString
  reasoningEffort : Option JsString

/-- The members of a participant's spec and profile the manager reads itself. -/
structure ParticipantSpec where
  participantId : JsString
  driverId : JsString

/-- `prewarming` and `closing` say whether `driver.prewarm` and `driver.close`
are still awaited; the code holds them as promises. -/
structure ParticipantEntry where
  spec : ParticipantSpec
  binding : Option ResolvedBinding
  runtime : ParticipantRuntimeState
  readiness : Option ProfileReadiness
  busyExecutionId : Option JsString
  prewarming : Bool
  closing : Bool

def ParticipantEntry.participantId (entry : ParticipantEntry) : JsString := entry.spec.participantId

/-- `createPending` says whether the `createScope` call has yet to return. -/
structure Scope where
  scopeId : JsString
  scopeRequestId : JsString
  state : ScopeState
  controllerId : JsString
  leaseEpoch : Nat
  participants : Table ParticipantEntry.participantId
  creatingTimer : Bool
  idleTimer : Bool
  createPending : Bool

structure ScopeRequest where
  scopeRequestId : JsString
  scopeId : JsString

/-- One call of `driver.execute`. -/
structure Dispatch where
  executionId : JsString
  participantId : JsString
  scopeId : JsString
deriving DecidableEq

/-- Besides the manager's and the registry's own state: every `driver.execute`
call so far, those not settled, and the ids `releaseScope` removed. -/
structure ScopeManager where
  scopes : Table Scope.scopeId
  scopeRequestIndex : Table ScopeRequest.scopeRequestId
  scopeCreateTimestamps : List Nat
  executions : Records
  dispatched : List Dispatch
  unsettled : List Dispatch
  released : List JsString

structure HostConfig where
  hostInstanceId : JsString
  /-- The driver ids that have a factory. -/
  driverFactories : List JsString

def ScopeManager.empty : ScopeManager := ⟨.empty, .empty, [], .empty, [], [], []⟩

structure HttpError where
  status : Nat
  error : RuntimeError

structure Controller where
  controllerId : JsString
  leaseEpoch : Nat

structure CreateScopeRequest where
  scopeRequestId : JsString
  participants : List ParticipantSpec

structure ParticipantStatus where
  participantId : JsString
  runtime : ParticipantRuntimeState
  binding : Option ResolvedBinding
  readiness : Option ProfileReadiness

structure ScopeStatus where
  scopeId : JsString
  state : ScopeState
  hostInstanceId : JsString
  leaseEpoch : Nat
  participants : List ParticipantStatus

structure CreateScopeResponse where
  scopeId : JsString
  controllerId : JsString
  leaseEpoch : Nat
  scope : ScopeStatus

structure ExecuteRequest where
  controller : Controller
  executionId : JsString
  participantId : JsString

structure ExecuteOutcome where
  executionId : JsString
  state : ExecutionState
  lastSeq : Nat
deriving DecidableEq

/-- How `prewarmParticipant` ends: the static resolution refuses, the driver
answers and `buildBinding` decides, or something throws. -/
inductive PrewarmAnswer where
  | unresolved (readiness : ProfileReadiness)
  | handshake (binding : Option ResolvedBinding) (readiness : ProfileReadiness)
  | thrown (runtimeCode : Option JsString) (message : Option JsString)

def maxActiveScopes : Nat := 4

def maxParticipantsPerScope : Nat := 8

def maxDriverProcesses : Nat := 16

def maxConcurrentExecutions : Nat := 4

def scopeCreatesPerMinute : Nat := 10

namespace ParticipantEntry

def ofSpec (spec : ParticipantSpec) : ParticipantEntry where
  spec
  binding := none
  runtime := .cold
  readiness := none
  busyExecutionId := none
  prewarming := false
  closing := false

variable (entry : ParticipantEntry)

def isLive : Bool :=
  entry.runtime = .ready || entry.runtime = .busy || entry.runtime = .prewarming

def status : ParticipantStatus :=
  ⟨entry.participantId, entry.runtime, entry.binding, entry.readiness⟩

def cooled : ParticipantEntry :=
  { entry with runtime := .cold, binding := none, readiness := none }

/-- The end of `prewarmParticipant`, in a scope that is `scopeState` by then. -/
def prewarmed (scopeState : ScopeState) :
    PrewarmAnswer → ParticipantEntry
  | .unresolved readiness =>
    { entry with runtime := .failed, readiness := some readiness, prewarming := false }
  | .handshake binding readiness =>
    if scopeState ≠ .creating ∧ scopeState ≠ .active then
      { entry.cooled with prewarming := false }
    else
      { entry with
        binding
        readiness := some readiness
        runtime := if binding.isSome then .ready else .failed
        prewarming := false }
  | .thrown runtimeCode message =>
    if runtimeCode = some (js "CANCELLED") then { entry.cooled with prewarming := false }
    else
      { entry with
        runtime := .failed
        readiness := some ⟨
          if runtimeCode = some (js "MODEL_UNAVAILABLE") then js "model_unavailable"
          else js "runtime_unavailable",
          some ((message.map fun text => text.clipUtf16 256).getD (js "prewarm failed"))⟩
        prewarming := false }

end ParticipantEntry

namespace Scope

def isOpen (scope : Scope) : Bool := scope.state = .creating || scope.state = .active

def toStatus (config : HostConfig) (scope : Scope) : ScopeStatus where
  scopeId := scope.scopeId
  state := scope.state
  hostInstanceId := config.hostInstanceId
  leaseEpoch := scope.leaseEpoch
  participants := scope.participants.rows.map ParticipantEntry.status

def response (config : HostConfig) (scope : Scope) : CreateScopeResponse :=
  ⟨scope.scopeId, scope.controllerId, scope.leaseEpoch, scope.toStatus config⟩

def shut : HttpError :=
  ⟨409, { code := .SCOPE_CLOSED, phase := .close, message := js "Scope is closing or closed." }⟩

def fenced (scope : Scope) (controller : Controller) : Except HttpError Unit :=
  if scope.state = .closed ∨ scope.state = .closing then .error shut
  else if scope.controllerId ≠ controller.controllerId ∨
      scope.leaseEpoch ≠ controller.leaseEpoch then
    .error ⟨409, { code := .STALE_CONTROLLER, phase := .security,
                   message := js "controllerId/leaseEpoch is not current." }⟩
  else .ok ()

def scheduleIdleSweep (scope : Scope) : Scope :=
  if scope.state ≠ .active then scope else { scope with idleTimer := true }

def withEntry (scope : Scope) (entry : ParticipantEntry) : Scope :=
  { scope with participants := scope.participants.put entry }

def mapEntries (scope : Scope) (change : ParticipantEntry → ParticipantEntry)
    (same : ∀ entry, (change entry).participantId = entry.participantId) : Scope :=
  { scope with participants := scope.participants.map change same }

end Scope

namespace ScopeManager

variable (config : HostConfig) (manager : ScopeManager)

def activeScopeCount : Nat := manager.scopes.rows.countP Scope.isOpen

def liveDriverProcessCount : Nat :=
  ((manager.scopes.rows.filter Scope.isOpen).map fun scope =>
    scope.participants.rows.countP ParticipantEntry.isLive).sum

def withScope (scope : Scope) : ScopeManager := { manager with scopes := manager.scopes.put scope }

def limit (message : JsString) : HttpError :=
  ⟨429, { code := .RESOURCE_LIMIT, phase := .quota, message }⟩

/-- `checkScopeCreateRate` drops the old timestamps before it looks. -/
def sweepTimestamps (now : Nat) : ScopeManager :=
  { manager with
    scopeCreateTimestamps := manager.scopeCreateTimestamps.dropWhile (· + 60000 < now) }

def existingScope (scopeRequestId : JsString) : Option Scope :=
  (manager.scopeRequestIndex.get scopeRequestId).bind fun entry =>
    (manager.scopes.get entry.scopeId).filter (·.state ≠ .closed)

def admitScope (request : CreateScopeRequest) : Except HttpError Unit :=
  if manager.scopeCreateTimestamps.length ≥ scopeCreatesPerMinute then
    .error ⟨429, { code := .RATE_LIMITED, phase := .quota,
                   message := js "Scope create rate exceeded (10/min).", retryable := true,
                   retryAfterMs := some 60000 }⟩
  else if manager.activeScopeCount ≥ maxActiveScopes then
    .error (limit (js "Maximum active scopes reached."))
  else if request.participants.length > maxParticipantsPerScope then
    .error (limit (js "Too many participants in one scope."))
  else if manager.liveDriverProcessCount + request.participants.length > maxDriverProcesses then
    .error (limit (js "Global driver process quota reached."))
  else if request.participants.any fun spec => !config.driverFactories.contains spec.driverId then
    .error ⟨400, { code := .PROFILE_INVALID, phase := .prewarm,
                   message := js "unknown driverId in profile" }⟩
  else .ok ()

def openScope (request : CreateScopeRequest) (scopeId controllerId : JsString) : Scope where
  scopeId
  scopeRequestId := request.scopeRequestId
  state := .creating
  controllerId
  leaseEpoch := 1
  participants := request.participants.foldl (fun entries spec =>
    entries.put { ParticipantEntry.ofSpec spec with runtime := .prewarming, prewarming := true })
    .empty
  creatingTimer := true
  idleTimer := false
  createPending := true

/-- `createScope` up to the prewarm; `none` says that the response is to come. -/
def createScope (request : CreateScopeRequest) (scopeId controllerId : JsString) (now : Nat) :
    ScopeManager × Except HttpError (Option CreateScopeResponse) :=
  match manager.existingScope request.scopeRequestId with
  | some existing => (manager, .ok (some (existing.response config)))
  | none =>
    let swept := manager.sweepTimestamps now
    match swept.admitScope config request with
    | .error refusal => (swept, .error refusal)
    | .ok () =>
      ({ swept with
          scopes := swept.scopes.put (openScope request scopeId controllerId)
          scopeRequestIndex := swept.scopeRequestIndex.put ⟨request.scopeRequestId, scopeId⟩
          scopeCreateTimestamps := swept.scopeCreateTimestamps ++ [now] },
        .ok none)

def prewarmed (scopeId participantId : JsString) (answer : PrewarmAnswer) :
    Option ScopeManager := do
  let scope ← manager.scopes.get scopeId
  let entry ← scope.participants.get participantId
  guard (entry.prewarming = true)
  return manager.withScope (scope.withEntry (entry.prewarmed scope.state answer))

variable (scopeId : JsString)

/-- The rest of `createScope`, once every prewarm ended. -/
def createSettled : Option ScopeManager := do
  let scope ← manager.scopes.get scopeId
  guard (scope.createPending = true ∧ ∀ entry ∈ scope.participants.rows, entry.prewarming = false)
  let settled := { scope with createPending := false }
  if scope.isOpen then return manager.withScope settled
  return manager.withScope (settled.mapEntries
    (fun entry => if entry.runtime = .ready ∨ entry.runtime = .prewarming then entry.cooled
      else entry)
    (fun entry => by split <;> rfl))

def getScope : Except HttpError Scope :=
  match manager.scopes.get scopeId with
  | some scope => .ok scope
  | none => .error ⟨404, { code := .SCOPE_NOT_FOUND, phase := .dispatch,
                           message := js "Unknown scope." }⟩

def activated (scope : Scope) : Scope :=
  if scope.state = .creating then
    { scope with state := .active, creatingTimer := false }.scheduleIdleSweep
  else scope

def activateScope (controller : Controller) :
    ScopeManager × Except HttpError ScopeStatus :=
  match (do
    let scope ← manager.getScope scopeId
    scope.fenced controller
    return activated scope) with
  | .error refusal => (manager, .error refusal)
  | .ok scope => (manager.withScope scope, .ok (scope.toStatus config))

def takeover (scopeId newControllerId : JsString) :
    ScopeManager × Except HttpError (JsString × Controller) :=
  match manager.getScope scopeId with
  | .error refusal => (manager, .error refusal)
  | .ok scope =>
    if scope.state = .closed ∨ scope.state = .closing then (manager, .error Scope.shut)
    else
      let taken := { scope with
        controllerId := newControllerId, leaseEpoch := scope.leaseEpoch + 1 }
      (manager.withScope taken, .ok (scopeId, ⟨taken.controllerId, taken.leaseEpoch⟩))

/-- Emit, and restart the idle timer of the scope when that ended the execution. -/
def emitAndSweep (scopeId executionId : JsString) (proto : DriverEvent) (now : JsString) :
    ScopeManager × Option RuntimeEvent :=
  let (executions, event) := manager.executions.emit executionId proto now
  let emitted := { manager with executions }
  match manager.scopes.get scopeId with
  | some scope =>
    if event.any fun event => event.body.isTerminalEvent then
      (emitted.withScope scope.scheduleIdleSweep, event)
    else (emitted, event)
  | none => (emitted, event)

def busy (message : JsString) : HttpError :=
  ⟨409, { code := .PARTICIPANT_BUSY, phase := .dispatch, message }⟩

/-- What `execute` checks before it asks the registry. -/
def admitExecute (request : ExecuteRequest) :
    Except HttpError (Scope × ParticipantEntry) := do
  let scope ← manager.getScope scopeId
  scope.fenced request.controller
  if scope.state ≠ .active then
    throw ⟨409, { code := .SCOPE_CLOSED, phase := .dispatch, message := js "Scope is not active." }⟩
  match scope.participants.get request.participantId with
  | none => throw ⟨404, { code := .PARTICIPANT_NOT_FOUND, phase := .dispatch,
                          message := js "Unknown participant." }⟩
  | some entry =>
    if entry.runtime ≠ .ready then
      throw (busy (js "participant is " ++ entry.runtime.text ++ js ", not ready."))
    if entry.busyExecutionId.isSome then
      throw (busy (js "participant has a running execution."))
    if manager.executions.runningCount ≥ maxConcurrentExecutions then
      throw (limit (js "Concurrent execution quota reached."))
    return (scope, entry)

/-- The checks that `execute` asks of a request for a scope and its participant. -/
structure Admits (scopeId : JsString) (request : ExecuteRequest) (scope : Scope)
    (entry : ParticipantEntry) : Prop where
  found : manager.scopes.get scopeId = some scope
  current : scope.fenced request.controller = .ok ()
  active : scope.state = .active
  participant : scope.participants.get request.participantId = some entry
  ready : entry.runtime = .ready
  idle : entry.busyExecutionId = none
  room : manager.executions.runningCount < maxConcurrentExecutions

theorem admitExecute_ok {manager : ScopeManager} {scopeId : JsString} {request : ExecuteRequest}
    {scope : Scope} {entry : ParticipantEntry} :
    manager.admitExecute scopeId request = .ok (scope, entry) ↔
      manager.Admits scopeId request scope entry := by
  constructor
  · intro admitted
    simp only [admitExecute, except_bind_ok] at admitted
    obtain ⟨known, looked, ⟨⟩, current, rest⟩ := admitted
    have found : manager.scopes.get scopeId = some known := by
      cases present : manager.scopes.get scopeId with
      | none => simp [getScope, present] at looked
      | some other =>
        simp only [getScope, present, Except.ok.injEq] at looked
        rw [looked]
    split at rest
    · contradiction
    · rename_i active
      cases participant : known.participants.get request.participantId with
      | none => simp [participant, throw, throwThe, MonadExceptOf.throw] at rest
      | some other =>
        simp only [participant, bind, Except.bind] at rest
        split at rest
        · contradiction
        · rename_i ready
          split at rest
          · contradiction
          · rename_i idle
            split at rest
            · contradiction
            · rename_i room
              cases rest
              exact ⟨found, current, not_not.mp active, participant, not_not.mp ready,
                by simpa using idle, Nat.lt_of_not_le room⟩
  · intro admits
    have looked : manager.getScope scopeId = .ok scope := by rw [getScope, admits.found]
    have room : ¬ manager.executions.runningCount ≥ maxConcurrentExecutions :=
      Nat.not_le.mpr admits.room
    simp [admitExecute, looked, admits.current, admits.active, admits.participant, admits.ready,
      admits.idle, room, bind, Except.bind, pure, Except.pure]

def failedBeforeDispatch (error : RuntimeError) : DriverEvent :=
  .failed error .not_dispatched .none false

/-- `execute` after a `begin` that made a new record.  `rebase` is the reason the
session reconciler gives when it refuses to go on. -/
def dispatch (scope : Scope) (entry : ParticipantEntry) (executionId : JsString)
    (rebase : Option JsString) (now : JsString) : ScopeManager × ExecuteOutcome :=
  match entry.binding with
  | none =>
    ((manager.emitAndSweep scope.scopeId executionId (failedBeforeDispatch
        { code := .PROFILE_INVALID, phase := .prewarm,
          message := js "participant has no resolved binding" }) now).1,
      ⟨executionId, .failed, 1⟩)
  | some binding =>
    match rebase with
    | some reason =>
      let started := (manager.emitAndSweep scope.scopeId executionId
        (.started binding.requestedModel) now).1
      let failed := (started.emitAndSweep scope.scopeId executionId (failedBeforeDispatch
        { code := .NEEDS_REBASE, phase := .dispatch, message := js "session reconciliation: " ++ reason
          executionId := some executionId
          participantId := some entry.participantId
          driverId := some binding.driverId }) now).1
      (failed, ⟨executionId, .failed,
        ((failed.executions.get executionId).map (·.lastSeq)).getD 2⟩)
    | none =>
      let call : Dispatch := ⟨executionId, entry.participantId, scope.scopeId⟩
      ({ manager.withScope (scope.withEntry
          { entry with busyExecutionId := some executionId, runtime := .busy }) with
          dispatched := manager.dispatched ++ [call]
          unsettled := manager.unsettled ++ [call] },
        ⟨executionId, .running, 0⟩)

def execute (request : ExecuteRequest) (rebase : Option JsString)
    (now : JsString) : ScopeManager × Except HttpError ExecuteOutcome :=
  match manager.admitExecute scopeId request with
  | .error refusal => (manager, .error refusal)
  | .ok (scope, entry) =>
    let (executions, record, created) := manager.executions.begin request.executionId
      request.participantId scopeId now
    if !created then
      (manager, .ok ⟨record.executionId, record.state, record.lastSeq⟩)
    else
      let (next, outcome) := { manager with executions }.dispatch scope entry
        request.executionId rebase now
      (next, .ok outcome)

/-- The driver of a call emits through the callback `execute` gave it. -/
def driverEmits (call : Dispatch) (proto : DriverEvent) (now : JsString) : Option ScopeManager := do
  guard (call ∈ manager.dispatched)
  return (manager.emitAndSweep call.scopeId call.executionId proto now).1

/-- The `.catch` of a call. -/
def executeRejected (call : Dispatch) (message : Option JsString) (now : JsString) : Option ScopeManager :=
  manager.driverEmits call (.failed
    { code := .INTERNAL, phase := .dispatch,
      message := (message.map fun text => text.clipUtf16 256).getD (js "execute failed")
      executionId := some call.executionId
      participantId := some call.participantId } .unknown .unknown false) now

/-- The `.finally` of a call. -/
def executeSettled (call : Dispatch) : Option ScopeManager := do
  guard (call ∈ manager.unsettled)
  let settled := { manager with unsettled := manager.unsettled.erase call }
  match manager.scopes.get call.scopeId with
  | none => return settled
  | some scope =>
    match scope.participants.get call.participantId with
    | none => return settled
    | some entry =>
      return settled.withScope (scope.withEntry { entry with
        busyExecutionId := none
        runtime := if entry.runtime = .busy then .ready else entry.runtime })

/-- The execution `cancel` hands to the driver. -/
def cancelled (scopeId executionId : JsString) (controller : Controller) :
    Except HttpError ExecutionRecord := do
  let scope ← manager.getScope scopeId
  scope.fenced controller
  match (manager.executions.get executionId).filter (·.scopeId = scopeId) with
  | none => throw ⟨404, { code := .EXECUTION_NOT_FOUND, phase := .cancel,
                          message := js "Unknown execution." }⟩
  | some record =>
    if (scope.participants.get record.participantId).isNone then
      throw ⟨404, { code := .PARTICIPANT_NOT_FOUND, phase := .cancel,
                    message := js "Unknown participant." }⟩
    return record

/-- The answer of a `cancel` after the driver's; `none` is `cancelling`. -/
def cancelOutcome (record : ExecutionRecord) : Option ExecutionState :=
  if record.state = .running then none
  else some (((manager.executions.get record.executionId).map (·.state)).getD record.state)

/-- What `ack` checks before it asks the registry. -/
def admitAck (scopeId executionId : JsString) (controller : Controller) :
    Except HttpError Unit := do
  let scope ← manager.getScope scopeId
  scope.fenced controller
  if (manager.executions.get executionId).any (·.scopeId ≠ scopeId) then
    throw ⟨404, { code := .EXECUTION_NOT_FOUND, phase := .commit, message := js "Unknown execution." }⟩

def ack (scopeId executionId : JsString) (finalSeq : Nat) (disposition : AckDisposition)
    (controller : Controller) :
    ScopeManager × Except HttpError (JsString × AckState × Option AckDisposition) :=
  match manager.admitAck scopeId executionId controller with
  | .error refusal => (manager, .error refusal)
  | .ok () =>
    let (executions, result) := manager.executions.ack executionId finalSeq disposition
    let acked := { manager with executions }
    match result.outcome with
    | some outcome => (acked, .ok (executionId, outcome, result.disposition))
    | none => (acked, .error ⟨409, result.error.getD
        { code := .EXECUTION_CONFLICT, phase := .commit, message := js "ACK conflict." }⟩)

/-- `closeScopeInternal` up to the drivers' own closes. -/
def beginClose (scope : Scope) : Scope :=
  if scope.state = .closed ∨ scope.state = .closing then scope
  else { scope with state := .closing, creatingTimer := false, idleTimer := false }.mapEntries
    (fun entry => { entry with closing := true }) (fun _ => rfl)

theorem scopeId_beginClose (scope : Scope) : (beginClose scope).scopeId = scope.scopeId := by
  rw [beginClose]
  split <;> rfl

def participantClosed (scopeId participantId : JsString) : Option ScopeManager := do
  let scope ← manager.scopes.get scopeId
  let entry ← scope.participants.get participantId
  guard (entry.closing = true)
  return manager.withScope (scope.withEntry { entry with runtime := .cold, closing := false })

/-- The rest of `closeScopeInternal`, once every driver is closed. -/
def scopeClosed : Option ScopeManager := do
  let scope ← manager.scopes.get scopeId
  guard (scope.state = .closing ∧ ∀ entry ∈ scope.participants.rows, entry.closing = false)
  return { manager.withScope { scope with state := .closed } with
    executions := manager.executions.releaseScope scopeId
    scopeRequestIndex := manager.scopeRequestIndex.filter (·.scopeRequestId ≠ scope.scopeRequestId)
    released := manager.released ++
      ((manager.executions.rows.filter (·.scopeId = scopeId)).map (·.executionId)) }

/-- `closeScope` up to the drivers' own closes. -/
def closeScope (controller : Controller) : ScopeManager × Except HttpError Unit :=
  match (do
    let scope ← manager.getScope scopeId
    scope.fenced controller
    return beginClose scope) with
  | .error refusal => (manager, .error refusal)
  | .ok scope => (manager.withScope scope, .ok ())

def closeAll : ScopeManager :=
  { manager with scopes := manager.scopes.map beginClose scopeId_beginClose }

def creatingExpired : Option ScopeManager := do
  let scope ← manager.scopes.get scopeId
  guard (scope.creatingTimer = true)
  let fired := { scope with creatingTimer := false }
  return manager.withScope (if scope.state = .creating then beginClose fired else fired)

def idleExpired : Option ScopeManager := do
  let scope ← manager.scopes.get scopeId
  guard (scope.idleTimer = true)
  let fired := { scope with idleTimer := false }
  return manager.withScope (
    if scope.state ≠ .active then fired
    else if ∃ entry ∈ scope.participants.rows,
        entry.busyExecutionId.isSome = true ∨ entry.runtime = .busy then fired.scheduleIdleSweep
    else beginClose fired)

end ScopeManager

/-- What may happen next: a client's request, a driver's answer, or a timer.
The labels carry what the code gets from outside: ids, times and answers. -/
inductive HostAction where
  | createScope (request : CreateScopeRequest) (scopeId controllerId : JsString) (now : Nat)
  | prewarmed (scopeId participantId : JsString) (answer : PrewarmAnswer)
  | createSettled (scopeId : JsString)
  | activateScope (scopeId : JsString) (controller : Controller)
  | takeover (scopeId newControllerId : JsString)
  | execute (scopeId : JsString) (request : ExecuteRequest) (rebase : Option JsString)
      (now : JsString)
  | driverEmits (call : Dispatch) (proto : DriverEvent) (now : JsString)
  | executeRejected (call : Dispatch) (message : Option JsString) (now : JsString)
  | executeSettled (call : Dispatch)
  | cancel (scopeId executionId : JsString) (controller : Controller)
  | ack (scopeId executionId : JsString) (finalSeq : Nat) (disposition : AckDisposition)
      (controller : Controller)
  | closeScope (scopeId : JsString) (controller : Controller)
  | closeAll
  | participantClosed (scopeId participantId : JsString)
  | scopeClosed (scopeId : JsString)
  | creatingExpired (scopeId : JsString)
  | idleExpired (scopeId : JsString)

/-- A refused request is a step too.  A new scope's id is fresh, as a UUID is. -/
def ScopeManager.step (config : HostConfig) (manager : ScopeManager) :
    HostAction → Option ScopeManager
  | .createScope request scopeId controllerId now =>
    if (manager.scopes.get scopeId).isSome then none
    else some (manager.createScope config request scopeId controllerId now).1
  | .prewarmed scopeId participantId answer => manager.prewarmed scopeId participantId answer
  | .createSettled scopeId => manager.createSettled scopeId
  | .activateScope scopeId controller => some (manager.activateScope config scopeId controller).1
  | .takeover scopeId newControllerId => some (manager.takeover scopeId newControllerId).1
  | .execute scopeId request rebase now => some (manager.execute scopeId request rebase now).1
  | .driverEmits call proto now => manager.driverEmits call proto now
  | .executeRejected call message now => manager.executeRejected call message now
  | .executeSettled call => manager.executeSettled call
  | .cancel .. => some manager
  | .ack scopeId executionId finalSeq disposition controller =>
    some (manager.ack scopeId executionId finalSeq disposition controller).1
  | .closeScope scopeId controller => some (manager.closeScope scopeId controller).1
  | .closeAll => some manager.closeAll
  | .participantClosed scopeId participantId => manager.participantClosed scopeId participantId
  | .scopeClosed scopeId => manager.scopeClosed scopeId
  | .creatingExpired scopeId => manager.creatingExpired scopeId
  | .idleExpired scopeId => manager.idleExpired scopeId

end CouncilKit.Host
