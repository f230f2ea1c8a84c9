import CouncilKit.Discussion.Runs
import CouncilKit.Discussion.SkipAnnotations

namespace CouncilKit.Discussion

open Data

/-! `dispatchTurn` awaits every read of the database, so a turn is a sequence of
steps and anything may happen between two of them: the reads, one table at a
time; the execution row; the transaction that begins it; the request to the
Host.  All other transactions are steps of their own.  The clock does not run
backwards, and may stand still.
-/

/-- The shape of `crypto.randomUUID()`. -/
def IsUuid (id : JsString) : Prop :=
  id.length = 36 ∧ ∀ unit ∈ id, unit ∈ js "0123456789abcdef-"

-- Over the units of the id, not over all code units.
instance (id : JsString) : Decidable (IsUuid id) :=
  @instDecidableAnd _ _ inferInstance (List.decidableBAll _ id)

namespace DiscussionAction

def now : DiscussionAction → Option JsString
  | .createRoom _ _ stamp | .joinAgent _ _ stamp | .appendUserMessage _ _ _ _ stamp
  | .createRound _ _ _ stamp | .commitModelMessage _ stamp | .commitSummary _ stamp
  | .commitFocusMessage _ stamp | .commitReport _ stamp | .createRuntimeBindingTx _ _ stamp =>
    some stamp.now
  | .updateRoomSharedConfig _ _ _ _ now | .setRoomRunState _ _ _ now | .abortRound _ _ _ now
  | .skipParticipant _ _ _ now | .beginExecution _ _ now | .beginFocusExecution _ _ now
  | .beginReportExecution _ _ now | .markExecutionDispatched _ _ _ _ now
  | .markExecutionSucceededUncommitted _ _ _ _ _ _ now | .discardExecution _ now
  | .failExecution _ _ _ _ _ now | .failUnboundExecution _ _ now | .markAcknowledged _ now
  | .markAckExpired _ now | .activateRuntimeBinding _ _ _ _ now | .takeoverRuntimeBinding _ _ now
  | .markBindingClosing _ now | .markBindingClosed _ now => some now
  | .assignFacilitator _ _ | .transitionRound _ _ _ _ | .pauseRound _ _ _ _
  | .resumeRound _ _ _ => none

def uuid : DiscussionAction → Option JsString
  | .createRoom _ _ stamp | .joinAgent _ _ stamp | .appendUserMessage _ _ _ _ stamp
  | .createRound _ _ _ stamp | .commitModelMessage _ stamp | .commitSummary _ stamp
  | .commitFocusMessage _ stamp | .commitReport _ stamp | .createRuntimeBindingTx _ _ stamp =>
    some stamp.uuid
  | _ => none

/-- How the orchestrator calls the transactions.  A round takes the room's
participants, each once; only prewarming is paused from outside; an abort names
a round of its room; and only a turn begins executions. -/
def Called (db : Database) : DiscussionAction → Prop
  | .createRound roomId _ participantOrder _ => participantOrder.Nodup ∧
      ∀ participantId ∈ participantOrder, ∃ participant ∈ db.participants.rows,
        participant.id = participantId ∧ participant.roomId = roomId
  | .pauseRound _ roundId _ _ => ∀ round ∈ db.rounds.get roundId, round.phase = .prewarming
  | .abortRound roomId roundId _ _ => ∀ round ∈ db.rounds.get roundId, round.roomId = roomId
  | .beginExecution .. | .beginFocusExecution .. | .beginReportExecution .. => False
  | _ => True

instance (db : Database) : (action : DiscussionAction) → Decidable (action.Called db)
  | .createRound .. => inferInstanceAs (Decidable (_ ∧ _))
  | .pauseRound _ roundId .. | .abortRound _ roundId .. =>
    inferInstanceAs (Decidable (∀ round ∈ db.rounds.get roundId, _))
  | .beginExecution .. | .beginFocusExecution .. | .beginReportExecution .. => .isFalse id
  | .createRoom .. | .joinAgent .. | .assignFacilitator .. | .appendUserMessage ..
  | .updateRoomSharedConfig .. | .setRoomRunState .. | .transitionRound .. | .resumeRound ..
  | .skipParticipant .. | .markExecutionDispatched .. | .markExecutionSucceededUncommitted ..
  | .commitModelMessage .. | .commitSummary .. | .commitFocusMessage .. | .commitReport ..
  | .discardExecution .. | .failExecution .. | .failUnboundExecution .. | .markAcknowledged ..
  | .markAckExpired .. | .createRuntimeBindingTx .. | .activateRuntimeBinding ..
  | .takeoverRuntimeBinding .. | .markBindingClosing .. | .markBindingClosed .. =>
    .isTrue trivial

def FreshUuid (db : Database) (action : DiscussionAction) : Prop :=
  ∀ uuid ∈ action.uuid, IsUuid uuid ∧ db.messages.get uuid = none ∧ db.summaries.get uuid = none

instance (db : Database) (action : DiscussionAction) : Decidable (action.FreshUuid db) :=
  inferInstanceAs (Decidable (∀ uuid ∈ action.uuid, _))

def inserts (db : Database) : DiscussionAction → Option (JsString × Stamp)
  | .appendUserMessage roomId _ _ _ stamp => some (roomId, stamp)
  | .commitModelMessage input stamp | .commitFocusMessage input stamp
  | .commitSummary input stamp =>
    (db.modelExecutions.get input.executionId).bind fun execution =>
      (db.rounds.get execution.roundId).map fun round => (round.roomId, stamp)
  | _ => none

theorem inserts_stamp {db : Database} {action : DiscussionAction} {inRoom : JsString}
    {stamp : Stamp} (inserts : action.inserts db = some (inRoom, stamp)) :
    action.now = some stamp.now ∧ action.uuid = some stamp.uuid := by
  cases action with
  | appendUserMessage roomId roundId token content given =>
    cases inserts
    exact ⟨rfl, rfl⟩
  | commitModelMessage input given | commitFocusMessage input given | commitSummary input given =>
    simp only [DiscussionAction.inserts, Option.bind_eq_some_iff, Option.map_eq_some_iff,
      Prod.mk.injEq] at inserts
    obtain ⟨-, -, -, -, -, rfl⟩ := inserts
    exact ⟨rfl, rfl⟩
  | _ => contradiction

end DiscussionAction

def Database.roomRows (db : Database) (roomId : JsString) : RoomRows where
  messages := db.messages.rows.filter (·.roomId = roomId)
  summaries := db.summaries.rows.filter (·.roomId = roomId)
  executions := db.modelExecutions.rows.filter (·.roomId = roomId)
  rounds := db.rounds.rows.filter (·.roomId = roomId)
  participants := db.participants.rows.filter (·.roomId = roomId)

structure Reading where
  messages : Option (List DiscussionMessage) := none
  summaries : Option (List DiscussionSummary) := none
  executions : Option (List ModelExecution) := none
  rounds : Option (List DiscussionRound) := none
  participants : Option (List Participant) := none

namespace Reading

variable (reading : Reading) (rows : RoomRows)

def advance : Reading :=
  if reading.messages = none then { reading with messages := some rows.messages }
  else if reading.summaries = none then { reading with summaries := some rows.summaries }
  else if reading.executions = none then { reading with executions := some rows.executions }
  else if reading.rounds = none then { reading with rounds := some rows.rounds }
  else if reading.participants = none then { reading with participants := some rows.participants }
  else reading

/-- All a turn reads.  Rounds and participants are read when an execution has failed. -/
def gathered : Option RoomRows := do
  let messages ← reading.messages
  let summaries ← reading.summaries
  let executions ← reading.executions
  if executions.any terminalExecutionStates then
    let rounds ← reading.rounds
    let participants ← reading.participants
    return ⟨messages, summaries, executions, rounds, participants⟩
  else return ⟨messages, summaries, executions, [], []⟩

def filled : RoomRows where
  messages := reading.messages.getD rows.messages
  summaries := reading.summaries.getD rows.summaries
  executions := reading.executions.getD rows.executions
  rounds := reading.rounds.getD rows.rounds
  participants := reading.participants.getD rows.participants

end Reading

structure PreparedTurn where
  snapshot : ContextSnapshot
  execution : ModelExecution

/-- One call of `dispatchTurn`.  The last member is no state of the program: it
records that since the first read another dispatch of the room was sent, a slot
of the room passed, or a summary committed. -/
structure Turn where
  id : Nat
  room : DiscussionRoom
  round : DiscussionRound
  participant : Participant
  resultKind : ResultKind
  retryOfExecutionId : Option JsString
  reading : Reading
  prepared : Option PreparedTurn
  begun : Bool
  overtaken : Bool

structure Dispatch where
  roomId : JsString
  rows : RoomRows
  snapshot : ContextSnapshot

structure System where
  db : Database
  clock : JsString
  turns : Table Turn.id
  /-- Oldest first. -/
  sent : List Dispatch

inductive SystemAction where
  | transact (action : DiscussionAction)
  | start (turnId : Nat) (roomId roundId participantId : JsString) (resultKind : ResultKind)
      (retryOfExecutionId : Option JsString)
  | read (turnId : Nat)
  | create (turnId : Nat) (instructionText executionId now : JsString)
  | persist (turnId : Nat) (token : ControllerToken) (now : JsString)
  | send (turnId : Nat)

/-- A message turn is for the speaker at the cursor of a focused round, or
retries an execution. -/
def Database.AsksTurn (db : Database) (round : DiscussionRound) (participantId : JsString)
    (resultKind : ResultKind) : Prop :=
  resultKind = .message →
    round.focusMessageId ≠ .null ∧
        round.participantOrder[round.nextParticipantIndex]? = some participantId ∨
      ∃ execution ∈ db.modelExecutions.rows, execution.Speaks round.id participantId

instance (db : Database) (round : DiscussionRound) (participantId : JsString)
    (resultKind : ResultKind) : Decidable (db.AsksTurn round participantId resultKind) :=
  inferInstanceAs (Decidable (_ → _))

/-- Between two databases, a slot of the room was passed or a summary committed. -/
def Database.Advanced (db next : Database) (roomId : JsString) : Prop :=
  (∃ round ∈ next.rounds.rows, round.roomId = roomId ∧
      ((db.rounds.get round.id).map (·.nextParticipantIndex)).getD 0 < round.nextParticipantIndex) ∨
    ∃ summary ∈ next.summaries.rows, summary.roomId = roomId ∧ db.summaries.get summary.id = none

instance (db next : Database) (roomId : JsString) : Decidable (db.Advanced next roomId) :=
  inferInstanceAs (Decidable (_ ∨ _))

namespace Turn

def overtake (turn : Turn) (happened : JsString → Bool) : Turn :=
  if turn.reading.messages.isSome ∧ happened turn.room.id then { turn with overtaken := true }
  else turn

theorem overtake_id (happened : JsString → Bool) (turn : Turn) : (turn.overtake happened).id = turn.id := by
  rw [overtake]
  split <;> rfl

/-- The row `createModelExecution` makes for a turn. -/
def newExecution [Digest] (turn : Turn) (instruction : Instruction) (executionId now : JsString) :
    ModelExecution :=
  createModelExecution {
    executionId
    roomId := turn.room.id
    roundId := turn.round.id
    participantId := turn.participant.id
    resultKind := turn.resultKind
    requestedModel := turn.participant.modelId
    contextRevision := turn.room.contextRevision
    expectedRoomDigest := turn.room.contextDigest
    participantSnapshotDigest := turn.participant.participantSnapshotDigest
    instructionDigest := computeInstructionDigest instruction
    retryOfExecutionId := turn.retryOfExecutionId } now

end Turn

namespace System

def initial : System := ⟨.empty, [], .empty, []⟩

variable (s : System)

def tick (reading : Option JsString) : Option JsString :=
  match reading with
  | none => some s.clock
  | some now => if now.Before s.clock then none else some now

def passOver (turns : Table Turn.id) (next : Database) : Table Turn.id :=
  turns.map (·.overtake fun roomId => s.db.Advanced next roomId) (Turn.overtake_id _)

def transact [Digest] (action : DiscussionAction) : Option System :=
  if action.Called s.db ∧ action.FreshUuid s.db then do
    let clock ← s.tick action.now
    let next ← s.db.step action
    return { s with db := next, clock, turns := s.passOver s.turns next }
  else none

def startTurn (turnId : Nat) (roomId roundId participantId : JsString) (resultKind : ResultKind)
    (retryOfExecutionId : Option JsString) : Option System := do
  let room ← s.db.rooms.get roomId
  let round ← (s.db.rounds.get roundId).filter (·.roomId = roomId)
  let participant ← s.db.participants.get participantId
  if s.db.AsksTurn round participantId resultKind then
    let turns ← s.turns.add {
      id := turnId, room, round, participant, resultKind, retryOfExecutionId, reading := {}
      prepared := none, begun := false, overtaken := false }
    return { s with turns }
  else none

def readNext (turnId : Nat) : Option System := do
  let turn ← (s.turns.get turnId).filter (·.prepared.isNone)
  let reading := turn.reading.advance (s.db.roomRows turn.room.id)
  return { s with turns := s.turns.put { turn with reading } }

def createExecution [Digest] (turnId : Nat) (instructionText executionId now : JsString) :
    Option System := do
  let turn ← (s.turns.get turnId).filter (·.prepared.isNone)
  let rows ← turn.reading.gathered
  let clock ← s.tick (some now)
  let instruction : Instruction := ⟨wireKindOf turn.resultKind, instructionText⟩
  let snapshot ← buildContextSnapshot turn.room turn.participant instruction (rows.items turn.room)
  let execution := turn.newExecution instruction executionId now
  let turns := s.turns.put { turn with prepared := some ⟨snapshot, execution⟩ }
  return { s with clock, turns }

def beginTurn (execution : ModelExecution) (token : ControllerToken) (now : JsString) : Outcome Database :=
  match execution.resultKind with
  | .focus => s.db.beginFocusExecution execution token
  | .report => s.db.beginReportExecution execution token now
  | .message | .summary => s.db.beginExecution execution token

def persist (turnId : Nat) (token : ControllerToken) (now : JsString) : Option System := do
  let turn ← (s.turns.get turnId).filter (¬ ·.begun)
  let prepared ← turn.prepared
  let clock ← s.tick (some now)
  match s.beginTurn prepared.execution token now with
  | .error _ => return { s with clock }
  | .ok next =>
    let turns := s.passOver (s.turns.put { turn with begun := true }) next
    return { s with db := next, clock, turns }

def send (turnId : Nat) : Option System := do
  let turn ← (s.turns.get turnId).filter (·.begun)
  let rows ← turn.reading.gathered
  let prepared ← turn.prepared
  return { s with
    sent := s.sent ++ [⟨turn.room.id, rows, prepared.snapshot⟩]
    turns := (s.turns.filter (·.id ≠ turnId)).map (·.overtake (· = turn.room.id)) (Turn.overtake_id _) }

end System

def System.step [Digest] (s : System) : SystemAction → Option System
  | .transact action => s.transact action
  | .start turnId roomId roundId participantId resultKind retryOfExecutionId =>
    s.startTurn turnId roomId roundId participantId resultKind retryOfExecutionId
  | .read turnId => s.readNext turnId
  | .create turnId instructionText executionId now =>
    s.createExecution turnId instructionText executionId now
  | .persist turnId token now => s.persist turnId token now
  | .send turnId => s.send turnId

end CouncilKit.Discussion
