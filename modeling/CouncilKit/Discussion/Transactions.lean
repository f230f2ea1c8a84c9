import CouncilKit.Discussion.Database

namespace CouncilKit.Discussion

open Data

/-! Every clock reading of one transaction is the same `now`.  An execution row is
what its caller passes: `createModelExecution` makes it before the transaction.
-/

/-- The phases `transitionRound` can enter. -/
inductive TransitionTarget where
  | prewarming | running

def TransitionTarget.phase : TransitionTarget → RoundPhase
  | .prewarming => .prewarming
  | .running => .running

def TransitionTarget.expectedFrom : TransitionTarget → RoundPhase
  | .prewarming => .pending
  | .running => .prewarming

/-- Why an execution ended without a terminal the Host waits an ACK for. -/
inductive FailureKind where
  | failed | interrupted

def FailureKind.state : FailureKind → ModelExecutionState
  | .failed => .failed
  | .interrupted => .interrupted

def FailureKind.text : FailureKind → JsString
  | .failed => js "failed"
  | .interrupted => js "interrupted"

structure CommitInput where
  executionId : JsString
  token : ControllerToken
  content : JsString
  effectiveModel : Option JsString
  usage : Option ModelExecutionUsage
  finalEventSeq : Nat
  dispatchState : DispatchState
  toolState : ToolState

inductive CommitOutcome where
  | committed (entityId : JsString) (roundPhase : RoundPhase)
  | replayed (entityId : Option JsString)
  | discarded (runtimeOutcome : RuntimeOutcome)

inductive DiscardOutcome where
  | discarded (runtimeOutcome : RuntimeOutcome)
  | replayed

inductive UnboundFailureResult where
  | settled | ownedByController

structure DiscardInput where
  executionId : JsString
  token : ControllerToken
  outcome : RuntimeOutcome
  finalEventSeq : Nat
  error : Option ModelExecutionError

/-- A failure to record; `pause := false` leaves the round to a retry. -/
structure FailureInput where
  error : ModelExecutionError
  kind : FailureKind
  pause : Bool := true

def abortedByUser : ModelExecutionError where
  code := js "USER_CANCELLED"
  phase := js "dispatch"
  message := js "round aborted by user"
  retryable := false

namespace Database

variable (db : Database)

def unknownRound (roundId : JsString) : TransactionError :=
  fault .ROUND_NOT_FOUND (js "unknown round " ++ roundId)

def foreignRound : TransactionError := fault .ROUND_NOT_FOUND (js "unknown round for this room")

def appendUserMessage [Digest] (roomId roundId : JsString) (token : ControllerToken)
    (content : JsString) (stamp : Stamp) : Outcome (Database × DiscussionMessage) := do
  let room ← db.requireRoom roomId
  db.requireController roomId token
  let _ ← fetch ((db.rounds.get roundId).filter (·.roomId = roomId)) foreignRound
  require (content.trim ≠ []) (fault .INVALID (js "content must be non-empty"))
  let message : DiscussionMessage := {
    id := stamp.uuid, roomId, roundId, role := .user, participantId := none, content,
    sourceExecutionId := none, createdAt := stamp.now }
  let added ← db.addMessage message
  return (added.bumpRoomContext room stamp.now, message)

def updateRoomSharedConfig [Digest] (roomId : JsString) (token : ControllerToken)
    (topic background : Option JsString) (now : JsString) : Outcome (Database × Bool) := do
  let room ← db.requireRoom roomId
  db.requireController roomId token
  let nextTopic := topic.getD room.topic
  let nextBackground := background.getD room.background
  if nextTopic = room.topic ∧ nextBackground = room.background then return (db, false)
  return (db.bumpRoomContext { room with topic := nextTopic, background := nextBackground } now, true)

variable (roomId : JsString)

def setRoomRunState (token : ControllerToken) (runState : RoomRunState)
    (now : JsString) : Outcome Database := do
  let room ← db.requireRoom roomId
  db.requireController roomId token
  return db.putRoom { room with runState, lastActiveAt := now }

def LiveReport : Prop :=
  ∃ execution ∈ db.modelExecutions.rows, execution.roomId = roomId ∧
    execution.resultKind = .report ∧ execution.state.isLive = true

instance (roomId : JsString) : Decidable (db.LiveReport roomId) :=
  inferInstanceAs (Decidable (∃ execution ∈ db.modelExecutions.rows, _))

def nextRoundNumber : Nat :=
  (db.rounds.rows.filter (·.roomId = roomId)).foldl (fun most round => max most round.roundNumber) 0 + 1

def newRound (participantOrder : List JsString) (stamp : Stamp) : DiscussionRound where
  id := stamp.uuid
  roomId
  roundNumber := db.nextRoundNumber roomId
  participantOrder
  phase := .pending
  pausedFrom := none
  pauseReason := none
  nextParticipantIndex := 0
  activeExecutionId := none
  focusMessageId := .null
  createdAt := stamp.now
  completedAt := none

def createRound (token : ControllerToken) (participantOrder : List JsString)
    (stamp : Stamp) : Outcome (Database × DiscussionRound) := do
  let room ← db.requireRoom roomId
  db.requireController roomId token
  require (room.runState ≠ .paused) (fault .ROOM_PAUSED (js "room is paused by the user"))
  require (room.status ≠ .concluded)
    (fault .ROOM_CONCLUDED (js "room is concluded; duplicate the room to continue"))
  require (room.activeRoundId = none)
    (fault .ROUND_ACTIVE_EXISTS (js "room already has an unfinalized round"))
  require (¬ db.LiveReport room.id) (fault .REPORT_IN_PROGRESS
    (js "a report execution is in flight; cannot start a new round"))
  let round := db.newRound roomId participantOrder stamp
  let added ← db.addRound round
  return (added.putRoom { room with
    activeRoundId := some round.id, runState := .running, lastActiveAt := stamp.now }, round)

variable (roundId : JsString) (token : ControllerToken)

def transitionRound
    (target : TransitionTarget) : Outcome Database := do
  let _ ← db.requireRoom roomId
  db.requireController roomId token
  let round ← fetch (db.rounds.get roundId) (unknownRound roundId)
  require (round.phase = target.expectedFrom) (fault .ROUND_PHASE
    (js "cannot enter " ++ target.phase.text ++ js " from phase " ++ round.phase.text))
  return db.putRound { round with phase := target.phase }

def pauseRound
    (reason : RoundPauseReason) : Outcome Database := do
  let _ ← db.requireRoom roomId
  db.requireController roomId token
  let round ← fetch (db.rounds.get roundId) (unknownRound roundId)
  let pausedFrom ← fetch round.phase.pausable
    (fault .ROUND_PHASE (js "cannot pause from phase " ++ round.phase.text))
  return db.putRound { round with
    pausedFrom := some pausedFrom, phase := .paused, pauseReason := some reason }

def resumeRound : Outcome Database := do
  let _ ← db.requireRoom roomId
  db.requireController roomId token
  let round ← fetch (db.rounds.get roundId) (unknownRound roundId)
  let refusal := fault .ROUND_PHASE (js "cannot resume from phase " ++ round.phase.text)
  require (round.phase = .paused) refusal
  let pausedFrom ← fetch round.pausedFrom refusal
  return db.putRound { round with
    phase := pausedFrom.phase, pausedFrom := none, pauseReason := none }

def abortedRound (round : DiscussionRound) (now : JsString) : DiscussionRound :=
  { round with
    phase := .aborted
    pausedFrom := none
    pauseReason := none
    activeExecutionId := none
    completedAt := some now }

def liveExecution (round : DiscussionRound) : Option ModelExecution :=
  (round.activeExecutionId.bind db.modelExecutions.get).filter (·.state.isLive)

variable (execution : ModelExecution)

def interruptedByAbort (now : JsString) : ModelExecution :=
  { execution with
    state := .interrupted, error := some abortedByUser, ackState := none, updatedAt := now }

/-- The database after an abort has dealt with the round's live execution. -/
def afterInterrupt (round : DiscussionRound) (now : JsString) : Database :=
  match db.liveExecution round with
  | some execution => db.putExecution (interruptedByAbort execution now)
  | none => db

def abortRound (now : JsString) :
    Outcome Database := do
  let room ← db.requireRoom roomId
  db.requireController roomId token
  let round ← fetch (db.rounds.get roundId) (unknownRound roundId)
  require (round.phase ≠ .completed)
    (fault .ROUND_FINAL (js "a completed round cannot be aborted"))
  if round.phase = .aborted then return db
  return ((db.afterInterrupt round now).putRound (abortedRound round now)).putRoom { room with
    activeRoundId := none, runState := .idle, lastActiveAt := now }

/-- What `skipParticipant` checks: the room, the round and the one to skip. -/
def admitSkip :
    Outcome (DiscussionRoom × DiscussionRound × JsString) := do
  let room ← db.requireRoom roomId
  db.requireController roomId token
  let round ← fetch ((db.rounds.get roundId).filter (·.roomId = roomId)) foreignRound
  require (room.activeRoundId = some round.id)
    (fault .STALE_EXECUTION (js "round is not the room's active round"))
  require (round.phase = .paused) (fault .ROUND_PHASE (js "cannot skip from phase " ++ round.phase.text))
  let skipped ← fetch ((round.pauseReason.bind (·.participantId)).filter (· ≠ []))
    (fault .SKIP_NOT_APPLICABLE (js "pause has no participant at the cursor (e.g. prewarm)"))
  require (skipped ≠ room.facilitatorParticipantId) (fault .FACILITATOR_NOT_SKIPPABLE
    (js "the facilitator cannot be skipped; repair or terminate instead"))
  require (round.pausedFrom = some .running)
    (fault .ROUND_PHASE (js "only a speaker cursor can be skipped"))
  require (round.participantOrder[round.nextParticipantIndex]? = some skipped)
    (fault .STALE_EXECUTION (js "the pause reason does not point at the round cursor"))
  return (room, round, skipped)

/-- The phase of a round whose cursor moved to `index`. -/
def cursorPhase (round : DiscussionRound) (index : Nat) : RoundPhase :=
  if index ≥ round.participantOrder.length then .summarizing else .running

def skippedRound (round : DiscussionRound) : DiscussionRound :=
  { round with
    nextParticipantIndex := round.nextParticipantIndex + 1
    activeExecutionId := none
    pausedFrom := none
    pauseReason := none
    phase := cursorPhase round (round.nextParticipantIndex + 1) }

def skipParticipant (now : JsString) :
    Outcome (Database × JsString × RoundPhase) := do
  let (room, round, skipped) ← db.admitSkip roomId roundId token
  return ((db.putRound (skippedRound round)).putRoom { room with lastActiveAt := now },
    skipped, (skippedRound round).phase)

def staleRound : TransactionError :=
  fault .STALE_EXECUTION (js "round is not the room's active round")

/-- What both begins ask of the round and the participant, in the source's order
up to the checks of their own. -/
def admitBegin (token : ControllerToken) (phase : RoundPhase)
    (label : JsString) : Outcome (DiscussionRound × DiscussionRoom) := do
  let round ← fetch (db.rounds.get execution.roundId) (fault .ROUND_NOT_FOUND (js "unknown round"))
  let room ← db.requireRoom round.roomId
  db.requireController round.roomId token
  require (room.activeRoundId = some round.id) staleRound
  require (round.phase = phase) (fault .ROUND_PHASE
    (js "cannot start a " ++ label ++ js " execution in phase " ++ round.phase.text))
  require (round.activeExecutionId = none)
    (fault .EXECUTION_ACTIVE (js "round already has an active execution"))
  require ((db.participants.get execution.participantId).any (·.state = .active))
    (fault .PARTICIPANT_INACTIVE (js "participant is not active"))
  return (round, room)

def begun (round : DiscussionRound) (execution : ModelExecution) : Outcome Database :=
  (db.addExecution execution).map fun added =>
    added.putRound { round with activeExecutionId := some execution.executionId }

def beginExecution (token : ControllerToken) : Outcome Database :=
  withConflictTranslation do
    let (round, room) ← db.admitBegin execution token
      (if execution.resultKind = .summary then .summarizing else .running) execution.resultKind.text
    if execution.resultKind = .summary then
      require (execution.participantId = room.facilitatorParticipantId) (fault .FACILITATOR_MISMATCH
        (js "summary execution must belong to the room facilitator"))
    else
      require (round.participantOrder[round.nextParticipantIndex]? = some execution.participantId)
        (fault .STALE_EXECUTION (js "participant is not at the round cursor"))
    require (¬ ((execution.resultKind = .message ∨ execution.resultKind = .summary) ∧
        round.focusMessageId = .null)) (fault .FOCUS_REQUIRED
      (js "round awaits its facilitator focus before any participant may speak"))
    db.begun round execution

def beginFocusExecution (token : ControllerToken) :
    Outcome Database :=
  withConflictTranslation do
    let (round, room) ← db.admitBegin execution token .running (js "focus")
    require (execution.participantId = room.facilitatorParticipantId) (fault .FACILITATOR_MISMATCH
      (js "focus execution must belong to the room facilitator"))
    require (round.focusMessageId = .null)
      (fault .STALE_EXECUTION (js "round already has a committed focus"))
    db.begun round execution

def getExecution (executionId : JsString) : Outcome ModelExecution :=
  fetch (db.modelExecutions.get executionId)
    (fault .EXECUTION_NOT_FOUND (js "unknown execution"))

def markExecutionDispatched (executionId hostInstanceId executionScopeId : JsString)
    (dispatchState : DispatchState) (now : JsString) : Outcome Database := do
  let execution ← db.getExecution executionId
  require (execution.state = .prepared) (fault .EXECUTION_STATE
    (js "cannot mark dispatched from state " ++ execution.state.text))
  return db.putExecution { execution with
    state := .running
    hostInstanceId := some hostInstanceId
    executionScopeId := some executionScopeId
    dispatchState
    updatedAt := now }

def markExecutionSucceededUncommitted (executionId : JsString) (effectiveModel : Option JsString)
    (usage : Option ModelExecutionUsage) (finalEventSeq : Nat) (dispatchState : DispatchState)
    (toolState : ToolState) (now : JsString) : Outcome Database := do
  let execution ← db.getExecution executionId
  require (execution.state = .running) (fault .EXECUTION_STATE
    (js "cannot mark succeeded from state " ++ execution.state.text))
  return db.putExecution { execution with
    state := .succeeded_uncommitted
    effectiveModel
    usage
    finalEventSeq := some finalEventSeq
    dispatchState
    toolState
    updatedAt := now }

structure CommitContext where
  execution : ModelExecution
  round : DiscussionRound
  room : DiscussionRoom
  participant : Participant

def getParticipant (participantId : JsString) : Outcome Participant :=
  fetch (db.participants.get participantId) (fault .PARTICIPANT_NOT_FOUND (js "unknown participant"))

def loadCommitContext (executionId : JsString) (token : ControllerToken) :
    Outcome CommitContext := do
  let execution ← db.getExecution executionId
  let round ← fetch (db.rounds.get execution.roundId) (fault .ROUND_NOT_FOUND (js "unknown round"))
  let room ← db.requireRoom round.roomId
  db.requireController round.roomId token
  let participant ← db.getParticipant execution.participantId
  return ⟨execution, round, room, participant⟩

/-- The row `persistCommittedExecution` puts. -/
def committedExecution [Digest] (execution : ModelExecution) (input : CommitInput)
    (entityType : CommittedEntityType) (entityId now : JsString) : ModelExecution :=
  { execution with
    state := .committed
    contentDigest := some (contentDigestOf input.content)
    committedEntityType := some entityType
    committedEntityId := some entityId
    effectiveModel := input.effectiveModel
    usage := input.usage
    finalEventSeq := some input.finalEventSeq
    dispatchState := input.dispatchState
    toolState := input.toolState
    ackState := some .pending
    updatedAt := now }

def replayOrThrow [Digest] (execution : ModelExecution) (expectedKind : ResultKind)
    (content : JsString) (finalEventSeq : Nat) : Outcome CommitOutcome := do
  require (execution.resultKind = expectedKind ∧ execution.finalEventSeq = some finalEventSeq ∧
      execution.contentDigest = some (contentDigestOf content))
    (fault .IDEMPOTENCY_CONFLICT (js "same executionId replayed with different facts"))
  return .replayed execution.committedEntityId

def assertCommittable (expectedKind : ResultKind) : Outcome Unit := do
  require (execution.resultKind = expectedKind) (fault .IDEMPOTENCY_CONFLICT
    (js "execution resultKind is " ++ execution.resultKind.text ++ js ", not " ++ expectedKind.text))
  require (execution.state = .running ∨ execution.state = .succeeded_uncommitted)
    (fault .EXECUTION_NOT_COMMITTABLE (js "cannot commit from state " ++ execution.state.text))

def ContextDrifted (room : DiscussionRoom)
    (participant : Participant) : Prop :=
  execution.expectedRoomDigest ≠ room.contextDigest ∨ execution.contextRevision ≠ room.contextRevision ∨
    execution.participantSnapshotDigest ≠ participant.participantSnapshotDigest

instance (execution : ModelExecution) (room : DiscussionRoom) (participant : Participant) :
    Decidable (ContextDrifted execution room participant) :=
  inferInstanceAs (Decidable (_ ∨ _))

def discardedExecution (outcome : RuntimeOutcome)
    (finalEventSeq : Nat) (error : Option ModelExecutionError) (now : JsString) : ModelExecution :=
  { execution with
    state := .discarded
    runtimeOutcome := some outcome
    finalEventSeq := some finalEventSeq
    ackState := some .pending
    error := error <|> execution.error
    updatedAt := now }

def releasedRound (round : DiscussionRound) (reason : RoundPauseReason) : DiscussionRound :=
  let released := { round with activeExecutionId := none }
  match round.phase with
  | .running => { released with
      pausedFrom := some .running, phase := .paused, pauseReason := some reason }
  | .summarizing => { released with
      pausedFrom := some .summarizing, phase := .paused, pauseReason := some reason }
  | _ => released

def discardLockedExecution (round : DiscussionRound)
    (outcome : RuntimeOutcome) (finalEventSeq : Nat) (error : Option ModelExecutionError)
    (now : JsString) : Database :=
  let discarded := db.putExecution (discardedExecution execution outcome finalEventSeq error now)
  if round.activeExecutionId = some execution.executionId then
    discarded.putRound (releasedRound round {
      code := .outcome outcome
      participantId := some execution.participantId
      executionId := some execution.executionId })
  else discarded

/-- The checks on the round that the three commits of a round's execution share. -/
def requireActive (room : DiscussionRoom) (round : DiscussionRound) (execution : ModelExecution)
    (phase : RoundPhase) (idle : JsString) : Outcome Unit := do
  require (room.activeRoundId = some round.id ∧ round.phase = phase) (fault .STALE_EXECUTION idle)
  require (round.activeExecutionId = some execution.executionId)
    (fault .STALE_EXECUTION (js "execution is not the round's active one"))

def participantMessage (context : CommitContext) (input : CommitInput) (stamp : Stamp) :
    DiscussionMessage where
  id := stamp.uuid
  roomId := context.room.id
  roundId := context.round.id
  role := .participant
  participantId := some context.participant.id
  content := input.content
  sourceExecutionId := some context.execution.executionId
  createdAt := stamp.now

def newSummary (context : CommitContext) (input : CommitInput) (stamp : Stamp) : DiscussionSummary where
  id := stamp.uuid
  roomId := context.room.id
  roundId := context.round.id
  content := input.content
  sourceExecutionId := context.execution.executionId
  generatedAt := stamp.now

variable [Digest]

/-- The end of a commit: insert the entity, mark the execution, bump the room. -/
def commitEntity (added : Database) (context : CommitContext) (input : CommitInput)
    (entityType : CommittedEntityType) (stamp : Stamp) : Database :=
  (added.putExecution (committedExecution context.execution input entityType stamp.uuid
    stamp.now)).bumpRoomContext context.room stamp.now

def spokenRound (round : DiscussionRound) : DiscussionRound :=
  { round with
    activeExecutionId := none
    nextParticipantIndex := round.nextParticipantIndex + 1
    phase := if round.nextParticipantIndex + 1 ≥ round.participantOrder.length then .summarizing
      else round.phase }

variable (input : CommitInput) (stamp : Stamp)

def commitModelMessage : Outcome (Database × CommitOutcome) :=
  withConflictTranslation do
    let context ← db.loadCommitContext input.executionId input.token
    let { execution, round, room, participant } := context
    if execution.state = .committed then
      let replayed ← replayOrThrow execution .message input.content input.finalEventSeq
      return (db, replayed)
    assertCommittable execution .message
    require (round.focusMessageId ≠ .null) (fault .FOCUS_REQUIRED (js "round has no committed focus yet"))
    requireActive room round execution .running (js "round is not actively running")
    if ContextDrifted execution room participant then
      return (db.discardLockedExecution execution round .stale_context input.finalEventSeq none
        stamp.now, .discarded .stale_context)
    let added ← db.addMessage (participantMessage context input stamp)
    return ((commitEntity added context input .message stamp).putRound (spokenRound round),
      .committed stamp.uuid (spokenRound round).phase)

def completedRound (round : DiscussionRound) (now : JsString) : DiscussionRound :=
  { round with phase := .completed, activeExecutionId := none, completedAt := some now }

def commitSummary : Outcome (Database × CommitOutcome) :=
  withConflictTranslation do
    let context ← db.loadCommitContext input.executionId input.token
    let { execution, round, room, participant } := context
    if execution.state = .committed then
      let replayed ← replayOrThrow execution .summary input.content input.finalEventSeq
      return (db, replayed)
    assertCommittable execution .summary
    requireActive room round execution .summarizing (js "round is not summarizing")
    require (¬ round.nextParticipantIndex < round.participantOrder.length) (fault .ROUND_INVARIANT
      (js "completed requires the cursor at the end of the participant order"))
    if ContextDrifted execution room participant then
      return (db.discardLockedExecution execution round .stale_context input.finalEventSeq none
        stamp.now, .discarded .stale_context)
    let added ← db.addSummary (newSummary context input stamp)
    let bumped := added.bumped room stamp.now
    return (((commitEntity added context input .summary stamp).putRound
        (completedRound round stamp.now)).putRoom
        { bumped with activeRoundId := none, runState := .idle },
      .committed stamp.uuid .completed)

def focusedRound (round : DiscussionRound) (messageId : JsString) : DiscussionRound :=
  { round with activeExecutionId := none, focusMessageId := .value messageId }

def commitFocusMessage :
    Outcome (Database × CommitOutcome) :=
  withConflictTranslation do
    let context ← db.loadCommitContext input.executionId input.token
    let { execution, round, room, participant } := context
    if execution.state = .committed then
      let replayed ← replayOrThrow execution .focus input.content input.finalEventSeq
      return (db, replayed)
    assertCommittable execution .focus
    require (execution.participantId = room.facilitatorParticipantId) (fault .FACILITATOR_MISMATCH
      (js "focus execution must belong to the room facilitator"))
    requireActive room round execution .running (js "round is not actively running")
    require (round.focusMessageId = .null)
      (fault .STALE_EXECUTION (js "round already has a committed focus"))
    if ContextDrifted execution room participant then
      return (db.discardLockedExecution execution round .stale_context input.finalEventSeq none
        stamp.now, .discarded .stale_context)
    let added ← db.addMessage (participantMessage context input stamp)
    return ((commitEntity added context input .message stamp).putRound (focusedRound round stamp.uuid),
      .committed stamp.uuid round.phase)

/-- The round `beginReportExecution` aborts on its way, if the room has one. -/
def reportAbort (room : DiscussionRoom) (now : JsString) : Outcome (Database × DiscussionRoom) :=
  match room.activeRoundId with
  | none => .ok (db, room)
  | some roundId => do
    let idle := { room with activeRoundId := none, runState := .idle }
    match db.rounds.get roundId with
    | none => return (db, idle)
    | some activeRound =>
      require (activeRound.activeExecutionId = none) (fault .ROUND_ACTIVE_EXISTS
        (js "cannot conclude while an execution is running"))
      if activeRound.phase = .completed ∨ activeRound.phase = .aborted then return (db, idle)
      return (db.putRound (abortedRound activeRound now), idle)

def beginReportExecution (execution : ModelExecution) (token : ControllerToken)
    (now : JsString) : Outcome Database :=
  withConflictTranslation do
    require (execution.resultKind = .report) (fault .INVALID (js "expected a report execution"))
    let room ← db.requireRoom execution.roomId
    db.requireController execution.roomId token
    require (room.status ≠ .concluded) (fault .ROOM_CONCLUDED (js "room is already concluded"))
    let (aborted, idle) ← db.reportAbort room now
    let anchorRound ← fetch ((aborted.rounds.get execution.roundId).filter (·.roomId = room.id))
      (fault .ROUND_NOT_FOUND (js "unknown anchor round for this room"))
    require (anchorRound.phase = .completed)
      (fault .ROUND_PHASE (js "report must anchor on a completed round"))
    require (execution.participantId = room.facilitatorParticipantId) (fault .FACILITATOR_MISMATCH
      (js "report execution must belong to the room facilitator"))
    require ((db.participants.get execution.participantId).any (·.state = .active))
      (fault .PARTICIPANT_INACTIVE (js "facilitator is not active"))
    require (¬ db.LiveReport room.id)
      (fault .EXECUTION_ACTIVE (js "a report execution is already in flight"))
    (aborted.putRoom { idle with lastActiveAt := now }).addExecution execution

def createDecisionReport (roomId content sourceExecutionId : JsString) (stamp : Stamp) :
    Outcome DecisionReport := do
  require (roomId ≠ []) (fault .INVALID (js "roomId required"))
  require (content.trim ≠ []) (fault .INVALID (js "content is required"))
  require (sourceExecutionId ≠ []) (fault .INVALID (js "sourceExecutionId required"))
  return ⟨stamp.uuid, roomId, content, sourceExecutionId, stamp.now⟩

def commitReport : Outcome (Database × CommitOutcome) :=
  withConflictTranslation do
    let execution ← db.getExecution input.executionId
    let room ← db.requireRoom execution.roomId
    db.requireController execution.roomId input.token
    let participant ← db.getParticipant execution.participantId
    if execution.state = .committed then
      let replayed ← replayOrThrow execution .report input.content input.finalEventSeq
      return (db, replayed)
    assertCommittable execution .report
    require (∀ report ∈ db.reports.rows, report.roomId ≠ room.id)
      (fault .IDEMPOTENCY_CONFLICT (js "a report already exists for this room"))
    require (room.status ≠ .concluded) (fault .ROOM_CONCLUDED (js "room is already concluded"))
    if ContextDrifted execution room participant then
      return (db.putExecution (discardedExecution execution .stale_context input.finalEventSeq none
        stamp.now), .discarded .stale_context)
    let report ← createDecisionReport room.id input.content execution.executionId stamp
    let added ← db.addReport report
    return ((added.putExecution (committedExecution execution input .report report.id
        stamp.now)).putRoom { room with
          status := .concluded, runState := .idle, lastActiveAt := stamp.now },
      .committed report.id .completed)

omit [Digest]

def discardExecution (input : DiscardInput) (now : JsString) :
    Outcome (Database × DiscardOutcome) := do
  let { execution, round, .. } ← db.loadCommitContext input.executionId input.token
  require (execution.state ≠ .committed) (fault .IDEMPOTENCY_CONFLICT
    (js "a committed execution cannot become discarded"))
  if execution.state = .discarded then
    require (execution.runtimeOutcome = some input.outcome ∧
        execution.finalEventSeq = some input.finalEventSeq)
      (fault .IDEMPOTENCY_CONFLICT (js "same executionId discarded with different facts"))
    return (db, .replayed)
  require (execution.state = .running ∨ execution.state = .succeeded_uncommitted)
    (fault .EXECUTION_STATE (js "cannot discard from state " ++ execution.state.text))
  return (db.discardLockedExecution execution round input.outcome input.finalEventSeq input.error
    now, .discarded input.outcome)

def failedExecution (input : FailureInput) (now : JsString) : ModelExecution :=
  { execution with
    state := input.kind.state, error := some input.error, ackState := none, updatedAt := now }

def failureReason (input : FailureInput) : RoundPauseReason where
  code := if input.error.code = js "USER_CANCELLED" then .outcome .user_cancelled
    else .execution_failed
  participantId := some execution.participantId
  executionId := some execution.executionId
  detail := some (input.error.message.clipUtf16 256)

/-- The end of a failure: the execution row, and the round if it pointed there. -/
def recordExecutionFailure (round : DiscussionRound)
    (input : FailureInput) (now : JsString) : Database :=
  let failed := db.putExecution (failedExecution execution input now)
  if round.activeExecutionId ≠ some execution.executionId then failed
  else if input.pause then failed.putRound (releasedRound round (failureReason execution input))
  else failed.putRound { round with activeExecutionId := none }

def becomes (kind : FailureKind) : TransactionError :=
  fault .IDEMPOTENCY_CONFLICT
    (js "a " ++ execution.state.text ++ js " execution cannot become " ++ kind.text)

def failExecution (executionId : JsString) (token : ControllerToken)
    (error : DiscussionRoom → ModelExecutionError) (kind : FailureKind) (pause : Bool)
    (now : JsString) : Outcome (Database × DiscussionRoom) := do
  let { execution, round, room, .. } ← db.loadCommitContext executionId token
  require (execution.state ≠ .committed ∧ execution.state ≠ .discarded) (becomes execution kind)
  if execution.state = .failed ∨ execution.state = .interrupted then return (db, room)
  return (db.recordExecutionFailure execution round ⟨error room, kind, pause⟩ now, room)

def failUnboundExecution (executionId : JsString) (input : FailureInput) (now : JsString) :
    Outcome (Database × UnboundFailureResult) := do
  let execution ← db.getExecution executionId
  if (db.activeBinding execution.roomId).isSome then return (db, .ownedByController)
  require (execution.state ≠ .committed ∧ execution.state ≠ .discarded) (becomes execution input.kind)
  if execution.state = .failed ∨ execution.state = .interrupted then return (db, .settled)
  let round ← fetch (db.rounds.get execution.roundId) (fault .ROUND_NOT_FOUND (js "unknown round"))
  return (db.recordExecutionFailure execution round input now, .settled)

/-- `markAcknowledged` and `markAckExpired`. -/
def settleAck (executionId : JsString) (settled : AckState) (now : JsString) :
    Outcome Database := do
  let execution ← db.getExecution executionId
  if execution.ackState = some .pending then
    return db.putExecution { execution with ackState := some settled, updatedAt := now }
  return db

def markAcknowledged (executionId now : JsString) : Outcome Database :=
  db.settleAck executionId .acknowledged now

def markAckExpired (executionId now : JsString) : Outcome Database :=
  db.settleAck executionId .expired now

def createRuntimeBindingTx (roomId scopeRequestId : JsString) (stamp : Stamp) :
    Outcome (Database × RuntimeBinding) := do
  let _ ← db.requireRoom roomId
  match db.runtimeBindings.rows.find? (·.scopeRequestId = scopeRequestId) with
  | some existing =>
    require (existing.roomId = roomId) (fault .IDEMPOTENCY_CONFLICT
      (js "scopeRequestId already used for another room"))
    return (db, existing)
  | none =>
    require (∀ binding ∈ db.runtimeBindings.rows, binding.roomId = roomId →
        binding.state ≠ .creating ∧ binding.state ≠ .active)
      (fault .BINDING_ACTIVE_EXISTS (js "room already has a live runtime binding"))
    require (scopeRequestId ≠ []) (fault .INVALID (js "scopeRequestId required"))
    let binding := createRuntimeBinding roomId scopeRequestId stamp.uuid stamp.now
    let added ← db.addBinding binding
    return (added, binding)

def getBinding (id : JsString) : Outcome RuntimeBinding :=
  fetch (db.runtimeBindings.get id) (fault .BINDING_NOT_FOUND (js "unknown binding"))

def activateRuntimeBinding (id hostInstanceId executionScopeId : JsString)
    (token : ControllerToken) (now : JsString) : Outcome (Database × RuntimeBinding) := do
  let binding ← db.getBinding id
  let _ ← db.requireRoom binding.roomId
  require (binding.state = .creating) (fault .BINDING_STALE
    (js "cannot activate a binding in state " ++ binding.state.text))
  let active : RuntimeBinding := { binding with
    state := .active
    hostInstanceId := some hostInstanceId
    executionScopeId := some executionScopeId
    controllerId := some token.controllerId
    leaseEpoch := some token.leaseEpoch
    updatedAt := now }
  return (db.putBinding active, active)

def takeoverRuntimeBinding (id : JsString) (token : ControllerToken) (now : JsString) :
    Outcome Database := do
  let binding ← db.getBinding id
  require (binding.state = .active) (fault .BINDING_STALE
    (js "cannot take over a " ++ binding.state.text ++ js " binding"))
  return db.putBinding { binding with
    controllerId := some token.controllerId, leaseEpoch := some token.leaseEpoch, updatedAt := now }

def markBindingClosing (id now : JsString) : Outcome Database := do
  let binding ← db.getBinding id
  if binding.state = .creating ∨ binding.state = .active then
    return db.putBinding { binding with state := .closing, updatedAt := now }
  return db

def markBindingClosed (id now : JsString) : Outcome Database := do
  let binding ← db.getBinding id
  if binding.state ≠ .closed then
    return db.putBinding { binding with state := .closed, updatedAt := now }
  return db

end Database

end CouncilKit.Discussion
