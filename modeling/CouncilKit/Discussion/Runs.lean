import CouncilKit.Data.Transition
import CouncilKit.Discussion.Transactions

namespace CouncilKit.Discussion

open Data

/-! Each transaction is one step, and one that throws leaves the database as it
was.  The first three labels are the pages that seed a room.
-/

structure AgentSeat where
  agentId : JsString
  modelId : JsString
  participantSnapshotDigest : JsString

inductive DiscussionAction where
  | createRoom (topic background : JsString) (stamp : Stamp)
  | joinAgent (roomId : JsString) (seat : AgentSeat) (stamp : Stamp)
  | assignFacilitator (roomId participantId : JsString)
  | appendUserMessage (roomId roundId : JsString) (token : ControllerToken) (content : JsString)
      (stamp : Stamp)
  | updateRoomSharedConfig (roomId : JsString) (token : ControllerToken)
      (topic background : Option JsString) (now : JsString)
  | setRoomRunState (roomId : JsString) (token : ControllerToken) (runState : RoomRunState)
      (now : JsString)
  | createRound (roomId : JsString) (token : ControllerToken) (participantOrder : List JsString)
      (stamp : Stamp)
  | transitionRound (roomId roundId : JsString) (token : ControllerToken)
      (target : TransitionTarget)
  | pauseRound (roomId roundId : JsString) (token : ControllerToken) (reason : RoundPauseReason)
  | resumeRound (roomId roundId : JsString) (token : ControllerToken)
  | abortRound (roomId roundId : JsString) (token : ControllerToken) (now : JsString)
  | skipParticipant (roomId roundId : JsString) (token : ControllerToken) (now : JsString)
  | beginExecution (execution : ModelExecutionInput) (token : ControllerToken) (now : JsString)
  | beginFocusExecution (execution : ModelExecutionInput) (token : ControllerToken)
      (now : JsString)
  | beginReportExecution (execution : ModelExecutionInput) (token : ControllerToken)
      (now : JsString)
  | markExecutionDispatched (executionId hostInstanceId executionScopeId : JsString)
      (dispatchState : DispatchState) (now : JsString)
  | markExecutionSucceededUncommitted (executionId : JsString) (effectiveModel : Option JsString)
      (usage : Option ModelExecutionUsage) (finalEventSeq : Nat) (dispatchState : DispatchState)
      (toolState : ToolState) (now : JsString)
  | commitModelMessage (input : CommitInput) (stamp : Stamp)
  | commitSummary (input : CommitInput) (stamp : Stamp)
  | commitFocusMessage (input : CommitInput) (stamp : Stamp)
  | commitReport (input : CommitInput) (stamp : Stamp)
  | discardExecution (input : DiscardInput) (now : JsString)
  | failExecution (executionId : JsString) (token : ControllerToken)
      (error : DiscussionRoom → ModelExecutionError) (kind : FailureKind) (pause : Bool)
      (now : JsString)
  | failUnboundExecution (executionId : JsString) (input : FailureInput) (now : JsString)
  | markAcknowledged (executionId now : JsString)
  | markAckExpired (executionId now : JsString)
  | createRuntimeBindingTx (roomId scopeRequestId : JsString) (stamp : Stamp)
  | activateRuntimeBinding (id hostInstanceId executionScopeId : JsString)
      (token : ControllerToken) (now : JsString)
  | takeoverRuntimeBinding (id : JsString) (token : ControllerToken) (now : JsString)
  | markBindingClosing (id now : JsString)
  | markBindingClosed (id now : JsString)

namespace Database

variable (db : Database)

/-- `createDiscussionRoom` and `initializeRoomDigest`. -/
def createDiscussionRoom [Digest] (topic background : JsString) (stamp : Stamp) :
    Outcome DiscussionRoom := do
  require (topic.trim ≠ []) (fault .INVALID (js "topic required"))
  return {
    id := stamp.uuid
    topic
    background
    facilitatorParticipantId := js "pending"
    runState := .idle
    activeRoundId := none
    contextRevision := 0
    contextDigest := computeContextDigest (projectSharedContext topic background [] [])
    status := .open
    createdAt := stamp.now
    lastActiveAt := stamp.now }

def createRoom [Digest] (topic background : JsString) (stamp : Stamp) : Outcome Database := do
  let room ← createDiscussionRoom topic background stamp
  let rooms ← fetch (db.rooms.add room) constraint
  return { db with rooms }

def createParticipant (roomId : JsString) (seat : AgentSeat) (stamp : Stamp) : Participant where
  id := stamp.uuid
  roomId
  agentId := seat.agentId
  modelId := seat.modelId
  participantSnapshotDigest := seat.participantSnapshotDigest
  state := .active
  createdAt := stamp.now

def joinAgent (roomId : JsString) (seat : AgentSeat) (stamp : Stamp) : Outcome Database :=
  if ∃ participant ∈ db.participants.rows, participant.roomId = roomId ∧
      participant.agentId = seat.agentId ∧ participant.state = .active then
    .ok db
  else (fetch (db.participants.add (createParticipant roomId seat stamp)) constraint).map
    fun participants => { db with participants }

def assignFacilitator (roomId participantId : JsString) : Outcome Database := do
  let room ← db.requireRoom roomId
  return db.putRoom { room with facilitatorParticipantId := participantId }

def settle (work : Outcome Database) : Option Database :=
  match work with
  | .ok next => some next
  | .error _ => some db

def settleWith {α : Type} (work : Outcome (Database × α)) : Option Database :=
  db.settle (work.map (·.1))

end Database

def Database.step [Digest] (db : Database) : DiscussionAction → Option Database
  | .createRoom topic background stamp => db.settle (db.createRoom topic background stamp)
  | .joinAgent roomId seat stamp => db.settle (db.joinAgent roomId seat stamp)
  | .assignFacilitator roomId participantId => db.settle (db.assignFacilitator roomId participantId)
  | .appendUserMessage roomId roundId token content stamp =>
    db.settleWith (db.appendUserMessage roomId roundId token content stamp)
  | .updateRoomSharedConfig roomId token topic background now =>
    db.settleWith (db.updateRoomSharedConfig roomId token topic background now)
  | .setRoomRunState roomId token runState now =>
    db.settle (db.setRoomRunState roomId token runState now)
  | .createRound roomId token participantOrder stamp =>
    db.settleWith (db.createRound roomId token participantOrder stamp)
  | .transitionRound roomId roundId token target =>
    db.settle (db.transitionRound roomId roundId token target)
  | .pauseRound roomId roundId token reason =>
    db.settle (db.pauseRound roomId roundId token reason)
  | .resumeRound roomId roundId token => db.settle (db.resumeRound roomId roundId token)
  | .abortRound roomId roundId token now => db.settle (db.abortRound roomId roundId token now)
  | .skipParticipant roomId roundId token now =>
    db.settleWith (db.skipParticipant roomId roundId token now)
  | .beginExecution input token now =>
    db.settle (db.beginExecution (createModelExecution input now) token)
  | .beginFocusExecution input token now =>
    db.settle (db.beginFocusExecution (createModelExecution input now) token)
  | .beginReportExecution input token now =>
    db.settle (db.beginReportExecution (createModelExecution input now) token now)
  | .markExecutionDispatched executionId hostInstanceId executionScopeId dispatchState now =>
    db.settle (db.markExecutionDispatched executionId hostInstanceId executionScopeId
      dispatchState now)
  | .markExecutionSucceededUncommitted executionId effectiveModel usage finalEventSeq
      dispatchState toolState now =>
      db.settle (db.markExecutionSucceededUncommitted executionId effectiveModel usage
        finalEventSeq dispatchState toolState now)
  | .commitModelMessage input stamp => db.settleWith (db.commitModelMessage input stamp)
  | .commitSummary input stamp => db.settleWith (db.commitSummary input stamp)
  | .commitFocusMessage input stamp => db.settleWith (db.commitFocusMessage input stamp)
  | .commitReport input stamp => db.settleWith (db.commitReport input stamp)
  | .discardExecution input now => db.settleWith (db.discardExecution input now)
  | .failExecution executionId token error kind pause now =>
    db.settleWith (db.failExecution executionId token error kind pause now)
  | .failUnboundExecution executionId input now =>
    db.settleWith (db.failUnboundExecution executionId input now)
  | .markAcknowledged executionId now => db.settle (db.markAcknowledged executionId now)
  | .markAckExpired executionId now => db.settle (db.markAckExpired executionId now)
  | .createRuntimeBindingTx roomId scopeRequestId stamp =>
    db.settleWith (db.createRuntimeBindingTx roomId scopeRequestId stamp)
  | .activateRuntimeBinding id hostInstanceId executionScopeId token now =>
    db.settleWith (db.activateRuntimeBinding id hostInstanceId executionScopeId token now)
  | .takeoverRuntimeBinding id token now => db.settle (db.takeoverRuntimeBinding id token now)
  | .markBindingClosing id now => db.settle (db.markBindingClosing id now)
  | .markBindingClosed id now => db.settle (db.markBindingClosed id now)

namespace Database

variable {db : Database} {holds : Database → Prop}

theorem settle_keeps {work : Outcome Database} {next : Database}
    (before : holds db) (keep : ∀ {after}, work = .ok after → holds after)
    (settled : db.settle work = some next) : holds next := by
  cases work with
  | error failure =>
    cases settled
    exact before
  | ok after =>
    cases settled
    exact keep rfl

theorem settleWith_keeps {α : Type} {work : Outcome (Database × α)}
    {next : Database} (before : holds db)
    (keep : ∀ {after value}, work = .ok (after, value) → holds after)
    (settled : db.settleWith work = some next) : holds next := by
  refine settle_keeps before (fun {after} mapped => ?_) settled
  cases work with
  | error failure => contradiction
  | ok result =>
    cases mapped
    exact keep rfl

end Database

end CouncilKit.Discussion
