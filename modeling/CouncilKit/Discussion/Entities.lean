import CouncilKit.Data.Json
import CouncilKit.Data.Table

namespace CouncilKit.Discussion

open Data

inductive ParticipantState where
  | active | ended
deriving DecidableEq

/-- The join-time snapshot enters through its digest only. -/
structure Participant where
  id : JsString
  roomId : JsString
  agentId : JsString
  modelId : JsString
  participantSnapshotDigest : JsString
  state : ParticipantState
  createdAt : JsString

inductive RoomRunState where
  | idle | running | paused
deriving DecidableEq

inductive RoomStatus where
  | «open» | concluded
deriving DecidableEq

structure DiscussionRoom where
  id : JsString
  topic : JsString
  background : JsString
  facilitatorParticipantId : JsString
  runState : RoomRunState
  activeRoundId : Option JsString
  contextRevision : Nat
  contextDigest : JsString
  status : RoomStatus
  createdAt : JsString
  lastActiveAt : JsString

inductive RoundPhase where
  | pending | prewarming | running | summarizing | paused | completed | aborted
deriving DecidableEq

def RoundPhase.text : RoundPhase → JsString
  | .pending => js "pending"
  | .prewarming => js "prewarming"
  | .running => js "running"
  | .summarizing => js "summarizing"
  | .paused => js "paused"
  | .completed => js "completed"
  | .aborted => js "aborted"

inductive RoundPausedFrom where
  | prewarming | running | summarizing
deriving DecidableEq

def RoundPausedFrom.phase : RoundPausedFrom → RoundPhase
  | .prewarming => .prewarming
  | .running => .running
  | .summarizing => .summarizing

def RoundPhase.pausable : RoundPhase → Option RoundPausedFrom
  | .prewarming => some .prewarming
  | .running => some .running
  | .summarizing => some .summarizing
  | _ => none

inductive RuntimeOutcome where
  | model_mismatch | tool_state_unknown | stale_context | empty_output | needs_rebase
  | user_cancelled
deriving DecidableEq

inductive PauseCode where
  | prewarm_failed | facilitator_unavailable | execution_failed
  | outcome (outcome : RuntimeOutcome)

structure RoundPauseReason where
  code : PauseCode
  participantId : Option JsString := none
  executionId : Option JsString := none
  detail : Option JsString := none

/-- `focusMessageId` is absent on rows that predate it, `null` until the focus
commits. -/
structure DiscussionRound where
  id : JsString
  roomId : JsString
  roundNumber : Nat
  participantOrder : List JsString
  phase : RoundPhase
  pausedFrom : Option RoundPausedFrom
  pauseReason : Option RoundPauseReason
  nextParticipantIndex : Nat
  activeExecutionId : Option JsString
  focusMessageId : Nullish JsString
  createdAt : JsString
  completedAt : Option JsString

inductive MessageRole where
  | user | participant
deriving DecidableEq

structure DiscussionMessage where
  id : JsString
  roomId : JsString
  roundId : JsString
  role : MessageRole
  participantId : Option JsString
  content : JsString
  sourceExecutionId : Option JsString
  createdAt : JsString

structure DiscussionSummary where
  id : JsString
  roomId : JsString
  roundId : JsString
  content : JsString
  sourceExecutionId : JsString
  generatedAt : JsString
deriving DecidableEq

structure DecisionReport where
  id : JsString
  roomId : JsString
  content : JsString
  sourceExecutionId : JsString
  createdAt : JsString

inductive ModelExecutionState where
  | prepared | running | succeeded_uncommitted | committed | discarded | failed | interrupted
deriving DecidableEq

def ModelExecutionState.text : ModelExecutionState → JsString
  | .prepared => js "prepared"
  | .running => js "running"
  | .succeeded_uncommitted => js "succeeded_uncommitted"
  | .committed => js "committed"
  | .discarded => js "discarded"
  | .failed => js "failed"
  | .interrupted => js "interrupted"

def ModelExecutionState.isLive : ModelExecutionState → Bool
  | .prepared | .running | .succeeded_uncommitted => true
  | _ => false

inductive ResultKind where
  | message | summary | focus | report
deriving DecidableEq

def ResultKind.text : ResultKind → JsString
  | .message => js "message"
  | .summary => js "summary"
  | .focus => js "focus"
  | .report => js "report"

inductive CommittedEntityType where
  | message | summary | report

inductive DispatchState where
  | not_dispatched | unknown | accepted

inductive ToolState where
  | none | active | completed | unknown
deriving DecidableEq

inductive AckState where
  | pending | acknowledged | expired
deriving DecidableEq

structure ModelExecutionError where
  code : JsString
  phase : JsString
  message : JsString
  retryable : Bool
  driverId : Option JsString := none
  limitMs : Option Nat := none

structure ModelExecutionUsage where
  inputTokens : Option Nat
  outputTokens : Option Nat
  costUsd : Option JsString

structure ModelExecution where
  executionId : JsString
  roomId : JsString
  roundId : JsString
  participantId : JsString
  resultKind : ResultKind
  state : ModelExecutionState
  hostInstanceId : Option JsString
  executionScopeId : Option JsString
  requestedModel : JsString
  effectiveModel : Option JsString
  dispatchState : DispatchState
  toolState : ToolState
  contextRevision : Nat
  expectedRoomDigest : JsString
  participantSnapshotDigest : JsString
  instructionDigest : JsString
  contentDigest : Option JsString
  committedEntityType : Option CommittedEntityType
  committedEntityId : Option JsString
  runtimeOutcome : Option RuntimeOutcome
  usage : Option ModelExecutionUsage
  error : Option ModelExecutionError
  finalEventSeq : Option Nat
  ackState : Option AckState
  retryOfExecutionId : Option JsString
  createdAt : JsString
  updatedAt : JsString

inductive RuntimeBindingState where
  | creating | active | closing | closed
deriving DecidableEq

def RuntimeBindingState.text : RuntimeBindingState → JsString
  | .creating => js "creating"
  | .active => js "active"
  | .closing => js "closing"
  | .closed => js "closed"

structure RuntimeBinding where
  id : JsString
  roomId : JsString
  scopeRequestId : JsString
  state : RuntimeBindingState
  hostInstanceId : Option JsString
  executionScopeId : Option JsString
  controllerId : Option JsString
  leaseEpoch : Option Nat
  createdAt : JsString
  updatedAt : JsString

structure ModelExecutionInput where
  executionId : JsString
  roomId : JsString
  roundId : JsString
  participantId : JsString
  resultKind : ResultKind
  requestedModel : JsString
  contextRevision : Nat
  expectedRoomDigest : JsString
  participantSnapshotDigest : JsString
  instructionDigest : JsString
  retryOfExecutionId : Option JsString := none

def createModelExecution (input : ModelExecutionInput) (now : JsString) : ModelExecution where
  executionId := input.executionId
  roomId := input.roomId
  roundId := input.roundId
  participantId := input.participantId
  resultKind := input.resultKind
  state := .prepared
  hostInstanceId := none
  executionScopeId := none
  requestedModel := input.requestedModel
  effectiveModel := none
  dispatchState := .not_dispatched
  toolState := .none
  contextRevision := input.contextRevision
  expectedRoomDigest := input.expectedRoomDigest
  participantSnapshotDigest := input.participantSnapshotDigest
  instructionDigest := input.instructionDigest
  contentDigest := none
  committedEntityType := none
  committedEntityId := none
  runtimeOutcome := none
  usage := none
  error := none
  finalEventSeq := none
  ackState := none
  retryOfExecutionId := input.retryOfExecutionId
  createdAt := now
  updatedAt := now

def createRuntimeBinding (roomId scopeRequestId id now : JsString) : RuntimeBinding where
  id
  roomId
  scopeRequestId
  state := .creating
  hostInstanceId := none
  executionScopeId := none
  controllerId := none
  leaseEpoch := none
  createdAt := now
  updatedAt := now

end CouncilKit.Discussion
