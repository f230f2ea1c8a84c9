import CouncilKit.Discussion.Effects
import CouncilKit.Discussion.RoomAdmin

namespace CouncilKit.Discussion

open Data Table

namespace DiscussionRound

def Final (round : DiscussionRound) : Prop := round.phase = .completed ∨ round.phase = .aborted

def Working (round : DiscussionRound) : Prop := round.phase = .running ∨ round.phase = .summarizing

end DiscussionRound

structure ExecutionStep (old new : ModelExecution) : Prop where
  executionId : new.executionId = old.executionId
  roomId : new.roomId = old.roomId
  roundId : new.roundId = old.roundId
  participantId : new.participantId = old.participantId
  resultKind : new.resultKind = old.resultKind
  createdAt : new.createdAt = old.createdAt
  state : old.state.isLive = true ∨ new.state = old.state

theorem ExecutionStep.refl (execution : ModelExecution) : ExecutionStep execution execution :=
  ⟨rfl, rfl, rfl, rfl, rfl, rfl, .inr rfl⟩

theorem ExecutionStep.live {old new : ModelExecution} (step : ExecutionStep old new)
    (live : new.state.isLive = true) : old.state.isLive = true := by
  rcases step.state with was | same
  · exact was
  · rw [← same]
    exact live

def RoomAction.joins : RoomAction → Option JsString
  | .discussion (.joinAgent _ _ stamp) => some stamp.uuid
  | _ => none

/-- A room row changed in none of the shared context, the status and the round. -/
structure RoomKept (old new : DiscussionRoom) : Prop where
  id : new.id = old.id
  topic : new.topic = old.topic
  background : new.background = old.background
  activeRoundId : new.activeRoundId = old.activeRoundId
  contextRevision : new.contextRevision = old.contextRevision
  contextDigest : new.contextDigest = old.contextDigest
  status : new.status = old.status

/-- How a call makes a round row, with the other tables as they are. -/
inductive RoundMoves : DiscussionAction → DiscussionRound → DiscussionRound → Prop where
  | transition {roomId roundId : JsString} {token : ControllerToken} {target : TransitionTarget}
      {round : DiscussionRound} (phase : round.phase = target.expectedFrom) :
      RoundMoves (.transitionRound roomId roundId token target) round
        { round with phase := target.phase }
  | pause {roomId roundId : JsString} {token : ControllerToken} {reason : RoundPauseReason}
      {round : DiscussionRound} {pausedFrom : RoundPausedFrom}
      (phase : round.phase.pausable = some pausedFrom) :
      RoundMoves (.pauseRound roomId roundId token reason) round
        { round with pausedFrom := some pausedFrom, phase := .paused, pauseReason := some reason }
  | resume {roomId roundId : JsString} {token : ControllerToken} {round : DiscussionRound}
      {pausedFrom : RoundPausedFrom} (phase : round.phase = .paused)
      (saved : round.pausedFrom = some pausedFrom) :
      RoundMoves (.resumeRound roomId roundId token) round
        { round with phase := pausedFrom.phase, pausedFrom := none, pauseReason := none }

/-- A round that loses its execution: paused, or left to a retry. -/
inductive Releases (round : DiscussionRound) : DiscussionRound → Prop where
  | paused (reason : RoundPauseReason) : Releases round (Database.releasedRound round reason)
  | retried : Releases round { round with activeExecutionId := none }

theorem Releases.id {round released : DiscussionRound} (releases : Releases round released) :
    released.id = round.id := by
  cases releases with
  | paused reason =>
    rw [Database.releasedRound]
    split <;> rfl
  | retried => rfl

namespace Database

def Acked (row after : ModelExecution) : Prop :=
  ∃ ackState updatedAt, after = { row with ackState, updatedAt }

section Rows

variable {db next : Database} {execution : ModelExecution} {round : DiscussionRound} {now : JsString}

variable {round : DiscussionRound}

theorem afterInterrupt_rounds {now : JsString} :
    (db.afterInterrupt round now).rounds = db.rounds := by
  rw [afterInterrupt]
  split <;> rfl

theorem afterInterrupt_rooms {now : JsString} :
    (db.afterInterrupt round now).rooms = db.rooms := by
  rw [afterInterrupt]
  split <;> rfl

variable {state : ModelExecutionState}

theorem endsLive (unsettled : state ≠ .committed ∧ state ≠ .discarded)
    (going : ¬ (state = .failed ∨ state = .interrupted)) : state.isLive = true := by
  cases state <;> simp_all [ModelExecutionState.isLive]

theorem Committable.live {kind : ResultKind} (committable : Committable execution kind) :
    execution.state.isLive = true := by
  rcases committable.2 with state | state <;> rw [state] <;> rfl

theorem not_committed_of_live (live : state.isLive = true) :
    state ≠ .committed := by
  intro committed
  simp [committed, ModelExecutionState.isLive] at live

theorem ReportAborts.executions {room idle : DiscussionRoom} {aborted : Database}
    (aborts : db.ReportAborts room now aborted idle) :
    aborted.modelExecutions = db.modelExecutions := by
  cases aborts <;> rfl

theorem addMessage_put {message : DiscussionMessage} (added : db.addMessage message = .ok next) :
    db.messages.get message.id = none ∧ next = { db with messages := db.messages.put message } := by
  obtain ⟨messages, inserted, rfl⟩ := addMessage_ok added
  obtain ⟨absent, rfl⟩ := add_eq_some.mp inserted
  exact ⟨absent, rfl⟩

theorem addExecution_put (added : db.addExecution execution = .ok next) :
    db.modelExecutions.get execution.executionId = none ∧ next = db.putExecution execution := by
  obtain ⟨executions, inserted, rfl⟩ := addExecution_ok added
  obtain ⟨absent, rfl⟩ := add_eq_some.mp inserted
  exact ⟨absent, rfl⟩

theorem begun_put (began : db.begun round execution = .ok next) :
    db.modelExecutions.get execution.executionId = none ∧
      next = (db.putExecution execution).putRound
        { round with activeExecutionId := some execution.executionId } := by
  obtain ⟨added, inserted, rfl⟩ := begun_ok began
  obtain ⟨absent, rfl⟩ := addExecution_put inserted
  exact ⟨absent, rfl⟩

end Rows

def Joined (db : Database) (action : RoomAction) (participants : Table Participant.id) : Prop :=
  participants = db.participants ∨ ∃ participant, action.joins = some participant.id ∧
    db.participants.get participant.id = none ∧ participants = db.participants.put participant

/-- The commit of a round's execution: what it loaded and what it checked. -/
structure Commits (db : Database) (input : CommitInput) (stamp : Stamp) (kind : ResultKind)
    (phase : RoundPhase) (context : CommitContext) : Prop where
  loaded : db.CommitLoaded input.executionId input.token context
  committable : Committable context.execution kind
  runs : Runs context.room context.round context.execution phase

def commitRows [Digest] (added : Database) (context : CommitContext) (input : CommitInput)
    (entityType : CommittedEntityType) (stamp : Stamp) (round : DiscussionRound) : Database :=
  (commitEntity added context input entityType stamp).putRound round

inductive Writes [Digest] (db : Database) : RoomAction → Database → Prop where
  | aside {action : RoomAction} (participants : Table Participant.id)
      (runtimeBindings : Table RuntimeBinding.id) (joined : db.Joined action participants) :
      db.Writes action { db with participants, runtimeBindings }
  | createRoom {topic background : JsString} {stamp : Stamp} {room : DiscussionRoom}
      (made : createDiscussionRoom topic background stamp = .ok room)
      (absent : db.rooms.get room.id = none) :
      db.Writes (.discussion (.createRoom topic background stamp)) (db.putRoom room)
  | room {action : RoomAction} {roomId : JsString} {old new : DiscussionRoom}
      (stored : db.rooms.get roomId = some old) (kept : RoomKept old new)
      (led : new.facilitatorParticipantId = old.facilitatorParticipantId ∨
        ∃ participantId, action = .discussion (.assignFacilitator roomId participantId)) :
      db.Writes action (db.putRoom new)
  | appendUserMessage {roomId roundId content : JsString} {token : ControllerToken}
      {stamp : Stamp} {room : DiscussionRoom} {round : DiscussionRound}
      {message : DiscussionMessage} (authorised : db.Authorised roomId token room)
      (stored : db.rounds.get roundId = some round) (own : round.roomId = roomId)
      (said : message = {
        id := stamp.uuid, roomId, roundId, role := .user, participantId := none, content,
        sourceExecutionId := none, createdAt := stamp.now })
      (absent : db.messages.get message.id = none) :
      db.Writes (.discussion (.appendUserMessage roomId roundId token content stamp))
        ({ db with messages := db.messages.put message }.bumpRoomContext room stamp.now)
  | updateRoomSharedConfig {roomId : JsString} {token : ControllerToken}
      {topic background : Option JsString} {now : JsString} {room : DiscussionRoom}
      (authorised : db.Authorised roomId token room)
      (different : ¬ (topic.getD room.topic = room.topic ∧
        background.getD room.background = room.background)) :
      db.Writes (.discussion (.updateRoomSharedConfig roomId token topic background now))
        (db.bumpRoomContext { room with
          topic := topic.getD room.topic, background := background.getD room.background } now)
  | renameRoom {roomId topic now : JsString} {room : DiscussionRoom}
      (stored : db.rooms.get roomId = some room) (different : room.topic ≠ topic) :
      db.Writes (.renameRoom roomId topic now) (db.bumpRoomContext { room with topic } now)
  | createRound {roomId : JsString} {token : ControllerToken} {participantOrder : List JsString}
      {stamp : Stamp} {room : DiscussionRoom} {round : DiscussionRound}
      (authorised : db.Authorised roomId token room) (opened : room.status ≠ .concluded)
      (idle : room.activeRoundId = none) (quiet : ¬ db.LiveReport room.id)
      (made : round = db.newRound roomId participantOrder stamp)
      (absent : db.rounds.get round.id = none) :
      db.Writes (.discussion (.createRound roomId token participantOrder stamp))
        ({ db with rounds := db.rounds.put round }.putRoom { room with
          activeRoundId := some round.id, runState := .running, lastActiveAt := stamp.now })
  | round {action : DiscussionAction} {roundId : JsString} {old new : DiscussionRound}
      (stored : db.rounds.get roundId = some old) (moves : RoundMoves action old new)
      (named : ∀ roomId other token reason,
        action = .pauseRound roomId other token reason → other = roundId) :
      db.Writes (.discussion action) (db.putRound new)
  | abortRound {roomId roundId : JsString} {token : ControllerToken} {now : JsString}
      {room : DiscussionRoom} {round : DiscussionRound}
      (authorised : db.Authorised roomId token room)
      (stored : db.rounds.get roundId = some round) (going : ¬ round.Final) :
      db.Writes (.discussion (.abortRound roomId roundId token now))
        (((db.afterInterrupt round now).putRound (abortedRound round now)).putRoom { room with
          activeRoundId := none, runState := .idle, lastActiveAt := now })
  | skipParticipant {roomId roundId : JsString} {token : ControllerToken} {now skipped : JsString}
      {room : DiscussionRoom} {round : DiscussionRound}
      (admitted : db.SkipAdmitted roomId roundId token room round skipped)
      (admits : db.admitSkip roomId roundId token = .ok (room, round, skipped)) :
      db.Writes (.discussion (.skipParticipant roomId roundId token now))
        ((db.putRound (skippedRound round)).putRoom { room with lastActiveAt := now })
  | beginExecution {input : ModelExecutionInput} {token : ControllerToken} {now : JsString}
      {execution : ModelExecution} {round : DiscussionRound} {room : DiscussionRoom}
      (made : execution = createModelExecution input now)
      (admitted : db.BeginAdmitted execution token
        (if execution.resultKind = .summary then .summarizing else .running) round room)
      (turn : if execution.resultKind = .summary then
          execution.participantId = room.facilitatorParticipantId
        else round.participantOrder[round.nextParticipantIndex]? = some execution.participantId)
      (absent : db.modelExecutions.get execution.executionId = none) :
      db.Writes (.discussion (.beginExecution input token now)) ((db.putExecution execution).putRound
        { round with activeExecutionId := some execution.executionId })
  | beginFocusExecution {input : ModelExecutionInput} {token : ControllerToken} {now : JsString}
      {execution : ModelExecution} {round : DiscussionRound} {room : DiscussionRoom}
      (made : execution = createModelExecution input now)
      (admitted : db.BeginAdmitted execution token .running round room)
      (unfocused : round.focusMessageId = .null)
      (absent : db.modelExecutions.get execution.executionId = none) :
      db.Writes (.discussion (.beginFocusExecution input token now))
        ((db.putExecution execution).putRound
          { round with activeExecutionId := some execution.executionId })
  | beginReportExecution {input : ModelExecutionInput} {token : ControllerToken} {now : JsString}
      {execution : ModelExecution} {room idle : DiscussionRoom} {aborted : Database}
      (made : execution = createModelExecution input now) (kind : execution.resultKind = .report)
      (authorised : db.Authorised execution.roomId token room) (opened : room.status ≠ .concluded)
      (aborts : db.ReportAborts room now aborted idle) (quiet : ¬ db.LiveReport room.id)
      (absent : db.modelExecutions.get execution.executionId = none)
      {anchor : DiscussionRound} (anchored : aborted.rounds.get execution.roundId = some anchor)
      (own : anchor.roomId = room.id)
      (led : execution.participantId = room.facilitatorParticipantId)
      (speaker : (db.participants.get execution.participantId).any (·.state = .active) = true) :
      db.Writes (.discussion (.beginReportExecution input token now))
        ((aborted.putRoom { idle with lastActiveAt := now }).putExecution execution)
  | execution {action : RoomAction} {executionId : JsString} {old new : ModelExecution}
      (stored : db.modelExecutions.get executionId = some old) (step : ExecutionStep old new)
      (moves : old.state.isLive = true ∧ new.state ≠ .committed ∨ Acked old new) :
      db.Writes action (db.putExecution new)
  | release {action : RoomAction} {executionId : JsString} {old new : ModelExecution}
      {round released : DiscussionRound} (found : db.modelExecutions.get executionId = some old)
      (step : ExecutionStep old new) (stored : db.rounds.get old.roundId = some round)
      (points : round.activeExecutionId = some old.executionId) (releases : Releases round released)
      (live : old.state.isLive = true) (ended : new.state.isLive = false)
      (uncommitted : new.state ≠ .committed) :
      db.Writes action ((db.putExecution new).putRound released)
  | commitModelMessage {input : CommitInput} {stamp : Stamp} {context : CommitContext}
      (commits : db.Commits input stamp .message .running context)
      (focused : context.round.focusMessageId ≠ .null)
      (absent : db.messages.get stamp.uuid = none) :
      db.Writes (.discussion (.commitModelMessage input stamp))
        (commitRows { db with messages := db.messages.put (participantMessage context input stamp) }
          context input .message stamp (spokenRound context.round))
  | commitFocusMessage {input : CommitInput} {stamp : Stamp} {context : CommitContext}
      (commits : db.Commits input stamp .focus .running context)
      (unfocused : context.round.focusMessageId = .null)
      (absent : db.messages.get stamp.uuid = none) :
      db.Writes (.discussion (.commitFocusMessage input stamp))
        (commitRows { db with messages := db.messages.put (participantMessage context input stamp) }
          context input .message stamp (focusedRound context.round stamp.uuid))
  | commitSummary {input : CommitInput} {stamp : Stamp} {context : CommitContext}
      {bumped : DiscussionRoom} (commits : db.Commits input stamp .summary .summarizing context)
      (first : ∀ other ∈ db.summaries.rows, other.roundId ≠ context.round.id)
      (absent : db.summaries.get stamp.uuid = none)
      (bump : bumped = { db with
        summaries := db.summaries.put (newSummary context input stamp) }.bumped context.room stamp.now) :
      db.Writes (.discussion (.commitSummary input stamp))
        ((commitRows { db with summaries := db.summaries.put (newSummary context input stamp) }
          context input .summary stamp (completedRound context.round stamp.now)).putRoom
          { bumped with activeRoundId := none, runState := .idle })
  | commitReport {input : CommitInput} {stamp : Stamp} {execution : ModelExecution}
      {room : DiscussionRoom} {report : DecisionReport}
      (found : db.modelExecutions.get input.executionId = some execution)
      (authorised : db.Authorised execution.roomId input.token room)
      (committable : Committable execution .report)
      (first : ∀ report ∈ db.reports.rows, report.roomId ≠ room.id)
      (opened : room.status ≠ .concluded)
      (made : createDecisionReport room.id input.content execution.executionId stamp = .ok report)
      (absent : db.reports.get report.id = none) :
      db.Writes (.discussion (.commitReport input stamp))
        (({ db with reports := db.reports.put report }.putExecution
          (committedExecution execution input .report report.id stamp.now)).putRoom { room with
            status := .concluded, runState := .idle, lastActiveAt := stamp.now })
  | deleteRoom {roomId : JsString} :
      db.Writes (.deleteRoomCascade roomId) (db.withoutRoom roomId)

variable [Digest] {db next : Database}

theorem Writes.same {action : RoomAction} : db.Writes action db :=
  .aside db.participants db.runtimeBindings (.inl rfl)

theorem Writes.bindings {action : RoomAction} {runtimeBindings : Table RuntimeBinding.id} :
    db.Writes action { db with runtimeBindings } :=
  .aside db.participants runtimeBindings (.inl rfl)

section Parts

variable {action : RoomAction} {executionId : JsString} {execution : ModelExecution}
  {round : DiscussionRound} {now : JsString} {stamp : Stamp} {input : CommitInput}
  {context : CommitContext}

section

variable (found : db.modelExecutions.get executionId = some execution)
  (stored : db.rounds.get execution.roundId = some round) (live : execution.state.isLive = true)

include found stored live

theorem Writes.discardLocked {outcome : RuntimeOutcome} {finalEventSeq : Nat}
    {error : Option ModelExecutionError} :
    db.Writes action (db.discardLockedExecution execution round outcome finalEventSeq error now) := by
  have step : ExecutionStep execution (discardedExecution execution outcome finalEventSeq error now) :=
    ⟨rfl, rfl, rfl, rfl, rfl, rfl, .inl live⟩
  rw [discardLockedExecution]
  split
  · rename_i points
    exact .release found step stored points (.paused _) live rfl (by simp [discardedExecution])
  · exact .execution found step (.inl ⟨live, by simp [discardedExecution]⟩)

theorem Writes.recordFailure {input : FailureInput} :
    db.Writes action (db.recordExecutionFailure execution round input now) := by
  have step : ExecutionStep execution (failedExecution execution input now) :=
    ⟨rfl, rfl, rfl, rfl, rfl, rfl, .inl live⟩
  have ended : (failedExecution execution input now).state.isLive = false ∧
      (failedExecution execution input now).state ≠ .committed := by
    rw [failedExecution]
    cases input.kind <;> exact ⟨rfl, nofun⟩
  simp only [recordExecutionFailure]
  split
  · exact .execution found step (.inl ⟨live, ended.2⟩)
  · rename_i pointing
    have points := Decidable.not_not.mp pointing
    split
    · exact .release found step stored points (.paused _) live ended.1 ended.2
    · exact .release found step stored points .retried live ended.1 ended.2

end

theorem Writes.drifts {kind : ResultKind} {outcome : CommitOutcome}
    (loaded : db.CommitLoaded input.executionId input.token context)
    (committable : Committable context.execution kind)
    (drifts : db.Drifts context input now next outcome) : db.Writes action next := by
  rw [drifts.discarded]
  exact .discardLocked loaded.execution loaded.round committable.live

theorem Writes.settleAck {settled : AckState}
    (ended : db.settleAck executionId settled now = .ok next) : db.Writes action next := by
  obtain ⟨execution, found, ⟨-, rfl⟩ | ⟨-, rfl⟩⟩ := settleAck_ok ended
  · exact .execution found ⟨rfl, rfl, rfl, rfl, rfl, rfl, .inr rfl⟩ (.inr ⟨some settled, now, rfl⟩)
  · exact .same

end Parts

section Transactions

variable {roomId roundId : JsString} {token : ControllerToken} {now : JsString} {stamp : Stamp}
  {input : CommitInput} {outcome : CommitOutcome}

theorem Writes.ofJoin {seat : AgentSeat} (ended : db.joinAgent roomId seat stamp = .ok next) :
    db.Writes (.discussion (.joinAgent roomId seat stamp)) next := by
  simp only [joinAgent] at ended
  split at ended
  · cases ended
    exact .same
  · simp only [Except.map] at ended
    split at ended
    · contradiction
    · rename_i participants inserted
      cases ended
      obtain ⟨absent, rfl⟩ := add_eq_some.mp (fetch_ok.mp inserted)
      exact .aside _ db.runtimeBindings (.inr ⟨_, rfl, absent, rfl⟩)

theorem Writes.ofMessage (ended : db.commitModelMessage input stamp = .ok (next, outcome)) :
    db.Writes (.discussion (.commitModelMessage input stamp)) next := by
  obtain ⟨context, loaded, replays | ⟨committable, focused, runs, drifts |
    ⟨-, added, inserted, rfl, -⟩⟩⟩ := commitModelMessage_ok ended
  · rw [replays.unchanged]
    exact .same
  · exact .drifts loaded committable drifts
  · obtain ⟨absent, rfl⟩ := addMessage_put inserted
    exact .commitModelMessage ⟨loaded, committable, runs⟩ focused absent

theorem Writes.ofFocus (ended : db.commitFocusMessage input stamp = .ok (next, outcome)) :
    db.Writes (.discussion (.commitFocusMessage input stamp)) next := by
  obtain ⟨context, loaded, replays | ⟨committable, -, runs, unfocused, drifts |
    ⟨-, added, inserted, rfl, -⟩⟩⟩ := commitFocusMessage_ok ended
  · rw [replays.unchanged]
    exact .same
  · exact .drifts loaded committable drifts
  · obtain ⟨absent, rfl⟩ := addMessage_put inserted
    exact .commitFocusMessage ⟨loaded, committable, runs⟩ unfocused absent

theorem Writes.ofSummary (ended : db.commitSummary input stamp = .ok (next, outcome)) :
    db.Writes (.discussion (.commitSummary input stamp)) next := by
  obtain ⟨context, loaded, replays | ⟨committable, runs, -, drifts |
    ⟨-, added, inserted, rfl, -⟩⟩⟩ := commitSummary_ok ended
  · rw [replays.unchanged]
    exact .same
  · exact .drifts loaded committable drifts
  · simp only [addSummary, except_bind_ok, require_ok, fetch_ok, exists_const, ok_pure] at inserted
    obtain ⟨first, summaries, stored, rfl⟩ := inserted
    obtain ⟨absent, rfl⟩ := add_eq_some.mp stored
    exact .commitSummary ⟨loaded, committable, runs⟩ (fun other member => (first other member).1) absent rfl

theorem Writes.ofReport (ended : db.commitReport input stamp = .ok (next, outcome)) :
    db.Writes (.discussion (.commitReport input stamp)) next := by
  obtain ⟨execution, room, participant, found, authorised, -, replays |
    ⟨committable, first, opened, ⟨-, rfl, -⟩ | ⟨-, report, added, made, inserted, rfl, -⟩⟩⟩ :=
    commitReport_ok ended
  · rw [replays.unchanged]
    exact .same
  · exact .execution found ⟨rfl, rfl, rfl, rfl, rfl, rfl, .inl committable.live⟩
      (.inl ⟨committable.live, by simp [discardedExecution]⟩)
  · obtain ⟨reports, stored, rfl⟩ := addReport_ok inserted
    obtain ⟨absent, rfl⟩ := add_eq_some.mp stored
    exact .commitReport found authorised committable first opened made absent

theorem Writes.ofBindingTx {scopeRequestId : JsString} {binding : RuntimeBinding} {action : RoomAction}
    (ended : db.createRuntimeBindingTx roomId scopeRequestId stamp = .ok (next, binding)) :
    db.Writes action next := by
  simp only [createRuntimeBindingTx, except_bind_ok] at ended
  obtain ⟨room, -, ended⟩ := ended
  split at ended
  · simp only [except_bind_ok, require_ok, exists_const, ok_pure, Prod.mk.injEq] at ended
    obtain ⟨-, rfl, -⟩ := ended
    exact .same
  · simp only [addBinding, except_bind_ok, require_ok, fetch_ok, exists_const, ok_pure,
      Prod.mk.injEq] at ended
    obtain ⟨-, -, added, ⟨-, bindings, -, rfl⟩, rfl, -⟩ := ended
    exact .bindings

end Transactions

theorem step_writes {action : DiscussionAction} (stepped : db.step action = some next) :
    db.Writes (.discussion action) next := by
  have same : db.Writes (.discussion action) db := .same
  cases action with
  | createRoom topic background stamp =>
    refine settle_keeps same (fun {after} ended => ?_) stepped
    simp only [Database.createRoom, except_bind_ok, fetch_ok, ok_pure] at ended
    obtain ⟨room, made, rooms, inserted, rfl⟩ := ended
    obtain ⟨absent, rfl⟩ := add_eq_some.mp inserted
    exact .createRoom made absent
  | joinAgent roomId seat stamp => exact settle_keeps same (fun ended => .ofJoin ended) stepped
  | assignFacilitator roomId participantId =>
    refine settle_keeps same (fun {after} ended => ?_) stepped
    simp only [Database.assignFacilitator, except_bind_ok, requireRoom_ok, ok_pure] at ended
    obtain ⟨room, found, rfl⟩ := ended
    exact .room found ⟨rfl, rfl, rfl, rfl, rfl, rfl, rfl⟩ (.inr ⟨participantId, rfl⟩)
  | appendUserMessage roomId roundId token content stamp =>
    refine settleWith_keeps same (fun {after message} ended => ?_) stepped
    obtain ⟨room, round, added, authorised, stored, own, -, said, inserted, rfl⟩ :=
      appendUserMessage_ok ended
    obtain ⟨absent, rfl⟩ := addMessage_put inserted
    exact .appendUserMessage authorised stored own said absent
  | updateRoomSharedConfig roomId token topic background now =>
    refine settleWith_keeps same (fun {after changed} ended => ?_) stepped
    obtain ⟨room, authorised, ⟨-, -, -, rfl⟩ | ⟨different, -, rfl⟩⟩ :=
      updateRoomSharedConfig_ok ended
    · exact same
    · exact .updateRoomSharedConfig authorised different
  | setRoomRunState roomId token runState now =>
    refine settle_keeps same (fun {after} ended => ?_) stepped
    obtain ⟨room, authorised, rfl⟩ := setRoomRunState_ok ended
    exact .room authorised.found ⟨rfl, rfl, rfl, rfl, rfl, rfl, rfl⟩ (.inl rfl)
  | createRound roomId token participantOrder stamp =>
    refine settleWith_keeps same (fun {after round} ended => ?_) stepped
    obtain ⟨room, added, authorised, -, opened, idle, quiet, made, inserted, rfl⟩ :=
      createRound_ok ended
    obtain ⟨rounds, stored, rfl⟩ := addRound_ok inserted
    obtain ⟨absent, rfl⟩ := add_eq_some.mp stored
    exact .createRound authorised opened idle quiet made absent
  | transitionRound roomId roundId token target =>
    refine settle_keeps same (fun {after} ended => ?_) stepped
    obtain ⟨room, round, -, stored, phase, rfl⟩ := transitionRound_ok ended
    exact .round stored (.transition phase) fun _ _ _ _ same => by cases same
  | pauseRound roomId roundId token reason =>
    refine settle_keeps same (fun {after} ended => ?_) stepped
    obtain ⟨room, round, pausedFrom, -, stored, phase, rfl⟩ := pauseRound_ok ended
    exact .round stored (.pause phase) fun _ _ _ _ same => by cases same; rfl
  | resumeRound roomId roundId token =>
    refine settle_keeps same (fun {after} ended => ?_) stepped
    obtain ⟨room, round, pausedFrom, -, stored, phase, saved, rfl⟩ := resumeRound_ok ended
    exact .round stored (.resume phase saved) fun _ _ _ _ same => by cases same
  | abortRound roomId roundId token now =>
    refine settle_keeps same (fun {after} ended => ?_) stepped
    obtain ⟨room, round, authorised, stored, completed, ⟨-, rfl⟩ | ⟨aborted, rfl⟩⟩ :=
      abortRound_ok ended
    · exact same
    · exact .abortRound authorised stored fun final => final.elim completed aborted
  | skipParticipant roomId roundId token now =>
    refine settleWith_keeps same (fun {after result} ended => ?_) stepped
    obtain ⟨room, round, skipped, admitted, rfl, -⟩ := skipParticipant_ok ended
    exact .skipParticipant (admitSkip_ok admitted) admitted
  | beginExecution input token now =>
    refine settle_keeps same (fun {after} ended => ?_) stepped
    obtain ⟨round, room, admitted, turn, -, began⟩ := beginExecution_ok ended
    obtain ⟨absent, rfl⟩ := begun_put began
    exact .beginExecution rfl admitted turn absent
  | beginFocusExecution input token now =>
    refine settle_keeps same (fun {after} ended => ?_) stepped
    obtain ⟨round, room, admitted, -, unfocused, began⟩ := beginFocusExecution_ok ended
    obtain ⟨absent, rfl⟩ := begun_put began
    exact .beginFocusExecution rfl admitted unfocused absent
  | beginReportExecution input token now =>
    refine settle_keeps same (fun {after} ended => ?_) stepped
    obtain ⟨room, aborted, idle, anchor, kind, authorised, opened, aborts, anchored, own, -, led,
      speaker, quiet, began⟩ := beginReportExecution_ok ended
    obtain ⟨absent, rfl⟩ := addExecution_put began
    rw [putRoom, aborts.executions] at absent
    exact .beginReportExecution rfl kind authorised opened aborts quiet absent anchored own led
      speaker
  | markExecutionDispatched executionId hostInstanceId executionScopeId dispatchState now =>
    refine settle_keeps same (fun {after} ended => ?_) stepped
    obtain ⟨execution, found, state, rfl⟩ := markExecutionDispatched_ok ended
    have live : execution.state.isLive = true := by rw [state]; rfl
    exact .execution found ⟨rfl, rfl, rfl, rfl, rfl, rfl, .inl live⟩ (.inl ⟨live, fun same => by cases same⟩)
  | markExecutionSucceededUncommitted executionId effectiveModel usage finalEventSeq dispatchState
      toolState now =>
      refine settle_keeps same (fun {after} ended => ?_) stepped
      obtain ⟨execution, found, state, rfl⟩ := markExecutionSucceededUncommitted_ok ended
      have live : execution.state.isLive = true := by rw [state]; rfl
      exact .execution found ⟨rfl, rfl, rfl, rfl, rfl, rfl, .inl live⟩ (.inl ⟨live, fun same => by cases same⟩)
  | commitModelMessage input stamp =>
    exact settleWith_keeps same (fun ended => .ofMessage ended) stepped
  | commitSummary input stamp =>
    exact settleWith_keeps same (fun ended => .ofSummary ended) stepped
  | commitFocusMessage input stamp =>
    exact settleWith_keeps same (fun ended => .ofFocus ended) stepped
  | commitReport input stamp =>
    exact settleWith_keeps same (fun ended => .ofReport ended) stepped
  | discardExecution input now =>
    refine settleWith_keeps same (fun {after outcome} ended => ?_) stepped
    obtain ⟨context, loaded, -, ⟨-, -, rfl, -⟩ | ⟨-, running, rfl, -⟩⟩ := discardExecution_ok ended
    · exact same
    · have live : context.execution.state.isLive = true := by
        rcases running with state | state <;> rw [state] <;> rfl
      exact .discardLocked loaded.execution loaded.round live
  | failExecution executionId token error kind pause now =>
    refine settleWith_keeps same (fun {after room} ended => ?_) stepped
    obtain ⟨context, loaded, -, unsettled, ⟨-, rfl⟩ | ⟨going, rfl⟩⟩ := failExecution_ok ended
    · exact same
    · exact .recordFailure loaded.execution loaded.round (endsLive unsettled going)
  | failUnboundExecution executionId input now =>
    refine settleWith_keeps same (fun {after result} ended => ?_) stepped
    obtain ⟨execution, found, rfl | ⟨-, unsettled, going, round, stored, rfl⟩⟩ :=
      failUnboundExecution_ok ended
    · exact same
    · exact .recordFailure found stored (endsLive unsettled going)
  | markAcknowledged executionId now =>
    exact settle_keeps same (fun ended => .settleAck ended) stepped
  | markAckExpired executionId now =>
    exact settle_keeps same (fun ended => .settleAck ended) stepped
  | createRuntimeBindingTx roomId scopeRequestId stamp =>
    exact settleWith_keeps same (fun ended => .ofBindingTx ended) stepped
  | activateRuntimeBinding id hostInstanceId executionScopeId token now =>
    refine settleWith_keeps same (fun {after binding} ended => ?_) stepped
    simp only [Database.activateRuntimeBinding, except_bind_ok, getBinding_ok, require_ok,
      exists_const, ok_pure, Prod.mk.injEq] at ended
    obtain ⟨binding, -, room, -, -, rfl, -⟩ := ended
    exact .bindings
  | takeoverRuntimeBinding id token now =>
    refine settle_keeps same (fun {after} ended => ?_) stepped
    simp only [Database.takeoverRuntimeBinding, except_bind_ok, getBinding_ok, require_ok,
      exists_const, ok_pure] at ended
    obtain ⟨binding, -, -, rfl⟩ := ended
    exact .bindings
  | markBindingClosing id now =>
    refine settle_keeps same (fun {after} ended => ?_) stepped
    simp only [Database.markBindingClosing, except_bind_ok, getBinding_ok] at ended
    obtain ⟨binding, -, ended⟩ := ended
    split at ended <;> cases ended
    · exact .bindings
    · exact .same
  | markBindingClosed id now =>
    refine settle_keeps same (fun {after} ended => ?_) stepped
    simp only [Database.markBindingClosed, except_bind_ok, getBinding_ok] at ended
    obtain ⟨binding, -, ended⟩ := ended
    split at ended <;> cases ended
    · exact .bindings
    · exact .same

theorem roomStep_writes {action : RoomAction} (stepped : db.roomStep action = some next) :
    db.Writes action next := by
  cases action with
  | discussion action => exact step_writes stepped
  | renameRoom roomId topic now =>
    refine settleWith_keeps .same (fun {after changed} ended => ?_) stepped
    obtain ⟨room, found, rfl | ⟨different, rfl⟩⟩ := renameRoom_ok ended
    · exact .same
    · exact .renameRoom found different
  | deleteRoomCascade roomId =>
    refine settle_keeps .same (fun {after} ended => ?_) stepped
    rcases deleteRoomCascade_ok ended with rfl | rfl
    · exact .same
    · exact .deleteRoom

inductive RoundWrite (db : Database) : RoomAction → DiscussionRound → DiscussionRound → Prop where
  | moves {action : DiscussionAction} {old new : DiscussionRound} (moves : RoundMoves action old new) :
      db.RoundWrite (.discussion action) old new
  | abort {action : RoomAction} {old : DiscussionRound} (now : JsString) (going : ¬ old.Final) :
      db.RoundWrite action old (abortedRound old now)
  | skip {roomId roundId : JsString} {token : ControllerToken} {now skipped : JsString}
      {room : DiscussionRoom} {old : DiscussionRound}
      (admitted : db.SkipAdmitted roomId roundId token room old skipped) :
      db.RoundWrite (.discussion (.skipParticipant roomId roundId token now)) old
        (skippedRound old)
  | begin {action : RoomAction} {old : DiscussionRound} (executionId : JsString)
      (working : old.Working) (free : old.activeExecutionId = none) :
      db.RoundWrite action old { old with activeExecutionId := some executionId }
  | release {action : RoomAction} {old new : DiscussionRound} {executionId : JsString}
      (points : old.activeExecutionId = some executionId) (releases : Releases old new) :
      db.RoundWrite action old new
  | speak {input : CommitInput} {stamp : Stamp} {context : CommitContext}
      (commits : db.Commits input stamp .message .running context)
      (focused : context.round.focusMessageId ≠ .null) :
      db.RoundWrite (.discussion (.commitModelMessage input stamp)) context.round
        (spokenRound context.round)
  | focus {input : CommitInput} {stamp : Stamp} {context : CommitContext}
      (commits : db.Commits input stamp .focus .running context)
      (unfocused : context.round.focusMessageId = .null) :
      db.RoundWrite (.discussion (.commitFocusMessage input stamp)) context.round
        (focusedRound context.round stamp.uuid)
  | complete {input : CommitInput} {stamp : Stamp} {context : CommitContext}
      (commits : db.Commits input stamp .summary .summarizing context) :
      db.RoundWrite (.discussion (.commitSummary input stamp)) context.round
        (completedRound context.round stamp.now)

inductive RoundsStep (db : Database) (action : RoomAction) (next : Database) : Prop where
  | same (rounds : next.rounds = db.rounds)
  | fresh {roomId : JsString} {token : ControllerToken} {participantOrder : List JsString}
      {stamp : Stamp} {room : DiscussionRoom} {round : DiscussionRound}
      (made : action = .discussion (.createRound roomId token participantOrder stamp))
      (found : db.rooms.get roomId = some room) (opened : room.status ≠ .concluded)
      (row : round = db.newRound roomId participantOrder stamp)
      (absent : db.rounds.get round.id = none) (rounds : next.rounds = db.rounds.put round)
  | changed {roundId : JsString} {old new : DiscussionRound}
      (stored : db.rounds.get roundId = some old) (write : db.RoundWrite action old new)
      (rounds : next.rounds = db.rounds.put new)
  | deleted {roomId : JsString} (gone : next = db.withoutRoom roomId)

inductive RoundOrigin (db : Database) (action : RoomAction) (round : DiscussionRound) : Prop where
  | kept (member : round ∈ db.rounds.rows)
  | fresh {roomId : JsString} {token : ControllerToken} {participantOrder : List JsString}
      {stamp : Stamp} {room : DiscussionRoom}
      (made : action = .discussion (.createRound roomId token participantOrder stamp))
      (found : db.rooms.get roomId = some room) (opened : room.status ≠ .concluded)
      (row : round = db.newRound roomId participantOrder stamp)
      (absent : db.rounds.get round.id = none)
  | changed {old : DiscussionRound} (stored : db.rounds.get old.id = some old)
      (write : db.RoundWrite action old round)

variable {action : RoomAction} {round : DiscussionRound}

theorem Writes.rounds_step (writes : db.Writes action next) : db.RoundsStep action next := by
  cases writes with
  | aside | createRoom | room | appendUserMessage | updateRoomSharedConfig | renameRoom | execution
  | commitReport => exact .same rfl
  | createRound authorised opened idle quiet made absent =>
    exact .fresh rfl authorised.found opened made absent rfl
  | round stored moves => exact .changed stored (.moves moves) rfl
  | abortRound authorised stored going =>
    exact .changed stored (.abort _ going) (by rw [putRoom, putRound, afterInterrupt_rounds])
  | skipParticipant admitted => exact .changed admitted.stored (.skip admitted) rfl
  | beginExecution made admitted turn absent =>
    refine .changed admitted.stored (.begin _ ?_ admitted.free) rfl
    rw [DiscussionRound.Working, admitted.phase]
    split
    · exact .inr rfl
    · exact .inl rfl
  | beginFocusExecution made admitted unfocused absent =>
    exact .changed admitted.stored (.begin _ (.inl admitted.phase) admitted.free) rfl
  | beginReportExecution made kind authorised opened aborts quiet absent =>
    cases aborts with
    | idle | gone | ended => exact .same rfl
    | aborted active stored free going => exact .changed stored (.abort _ going) rfl
  | release found step stored points releases => exact .changed stored (.release points releases) rfl
  | commitModelMessage commits focused absent =>
    exact .changed commits.loaded.round (.speak commits focused) rfl
  | commitFocusMessage commits unfocused absent =>
    exact .changed commits.loaded.round (.focus commits unfocused) rfl
  | commitSummary commits first absent bump =>
    exact .changed commits.loaded.round (.complete commits) rfl
  | deleteRoom => exact .deleted rfl

theorem Writes.round_origin (writes : db.Writes action next) (member : round ∈ next.rounds.rows) :
    db.RoundOrigin action round := by
  cases writes.rounds_step with
  | same rounds =>
    rw [rounds] at member
    exact .kept member
  | fresh made found opened row absent rounds =>
    rw [rounds] at member
    rcases mem_put.mp member with rfl | ⟨kept, -⟩
    · exact .fresh made found opened row absent
    · exact .kept kept
  | changed stored write rounds =>
    rw [rounds] at member
    rcases mem_put.mp member with rfl | ⟨kept, -⟩
    · exact .changed (get_of_mem (get_mem stored).1) write
    · exact .kept kept
  | deleted gone =>
    rw [gone] at member
    exact .kept (mem_filter.mp member).1

def CommitsTurn (db : Database) (context : CommitContext) : Prop :=
  ∃ input stamp kind phase, db.Commits input stamp kind phase context ∧
    (phase = .running ∨ phase = .summarizing)

inductive MessagesStep (db : Database) (action : RoomAction) (next : Database) : Prop where
  | same (messages : next.messages = db.messages)
  | appended {roomId roundId content : JsString} {token : ControllerToken} {stamp : Stamp}
      {message : DiscussionMessage} {room : DiscussionRoom}
      (made : action = .discussion (.appendUserMessage roomId roundId token content stamp))
      (found : db.rooms.get roomId = some room) (own : message.roomId = roomId)
      (absent : db.messages.get message.id = none)
      (messages : next.messages = db.messages.put message)
  | committed {context : CommitContext} {message : DiscussionMessage}
      (commits : db.CommitsTurn context) (own : message.roomId = context.room.id)
      (absent : db.messages.get message.id = none)
      (messages : next.messages = db.messages.put message)
  | deleted {roomId : JsString} (gone : next = db.withoutRoom roomId)

inductive SummariesStep (db : Database) (next : Database) : Prop where
  | same (summaries : next.summaries = db.summaries)
  | committed {context : CommitContext} {summary : DiscussionSummary}
      (commits : db.CommitsTurn context) (own : summary.roomId = context.room.id)
      (absent : db.summaries.get summary.id = none)
      (summaries : next.summaries = db.summaries.put summary)
  | deleted {roomId : JsString} (gone : next = db.withoutRoom roomId)

inductive RoomWrite (db : Database) : RoomAction → DiscussionRoom → DiscussionRoom → Prop where
  | steady {action : RoomAction} {old new : DiscussionRoom} (topic : new.topic = old.topic)
      (background : new.background = old.background)
      (contextRevision : new.contextRevision = old.contextRevision)
      (status : new.status = old.status) : db.RoomWrite action old new
  | append {roomId roundId content : JsString} {token : ControllerToken} {stamp : Stamp}
      {old new : DiscussionRoom} (own : old.id = roomId) (status : new.status = old.status) :
      db.RoomWrite (.discussion (.appendUserMessage roomId roundId token content stamp)) old new
  | configure {roomId : JsString} {token : ControllerToken} {topic background : Option JsString}
      {now : JsString} {old new : DiscussionRoom} (own : old.id = roomId)
      (different : ¬ (topic.getD old.topic = old.topic ∧
        background.getD old.background = old.background)) (status : new.status = old.status) :
      db.RoomWrite (.discussion (.updateRoomSharedConfig roomId token topic background now)) old new
  | rename {roomId topic now : JsString} {old new : DiscussionRoom} (own : old.id = roomId)
      (different : old.topic ≠ topic) (status : new.status = old.status) :
      db.RoomWrite (.renameRoom roomId topic now) old new
  | commit {action : RoomAction} {context : CommitContext} {new : DiscussionRoom}
      (commits : db.CommitsTurn context) (status : new.status = context.room.status) :
      db.RoomWrite action context.room new
  | conclude {input : CommitInput} {stamp : Stamp} {execution : ModelExecution}
      {old new : DiscussionRoom}
      (found : db.modelExecutions.get input.executionId = some execution)
      (own : old.id = execution.roomId) (opened : old.status ≠ .concluded) :
      db.RoomWrite (.discussion (.commitReport input stamp)) old new

inductive RoomsStep (db : Database) (action : RoomAction) (next : Database) : Prop where
  | same (rooms : next.rooms = db.rooms)
  | created {topic background : JsString} {stamp : Stamp} {room : DiscussionRoom}
      (made : action = .discussion (.createRoom topic background stamp)) (key : room.id = stamp.uuid)
      (opened : room.status = .open) (absent : db.rooms.get room.id = none)
      (rooms : next.rooms = db.rooms.put room)
  | changed {roomId : JsString} {old new : DiscussionRoom}
      (stored : db.rooms.get roomId = some old) (rooms : next.rooms = db.rooms.put new)
      (key : new.id = old.id) (write : db.RoomWrite action old new)
  | deleted {roomId : JsString} (gone : next = db.withoutRoom roomId)

theorem Writes.messages_step (writes : db.Writes action next) : db.MessagesStep action next := by
  cases writes with
  | aside | createRoom | room | updateRoomSharedConfig | renameRoom | createRound | round
  | skipParticipant | beginExecution | beginFocusExecution | execution | release | commitSummary
  | commitReport => exact .same rfl
  | appendUserMessage authorised stored own said absent =>
    subst said
    exact .appended rfl authorised.found rfl absent rfl
  | abortRound =>
    refine .same ?_
    simp only [putRoom, putRound, afterInterrupt]
    split <;> rfl
  | beginReportExecution made kind authorised opened aborts =>
    cases aborts <;> exact .same rfl
  | commitModelMessage commits focused absent =>
    exact .committed ⟨_, _, _, _, commits, .inl rfl⟩ rfl absent rfl
  | commitFocusMessage commits unfocused absent =>
    exact .committed ⟨_, _, _, _, commits, .inl rfl⟩ rfl absent rfl
  | deleteRoom => exact .deleted rfl

theorem Writes.summaries_step (writes : db.Writes action next) : db.SummariesStep next := by
  cases writes with
  | aside | createRoom | room | appendUserMessage | updateRoomSharedConfig | renameRoom | createRound
  | round | skipParticipant | beginExecution | beginFocusExecution | execution | release
  | commitModelMessage | commitFocusMessage | commitReport => exact .same rfl
  | abortRound =>
    refine .same ?_
    simp only [putRoom, putRound, afterInterrupt]
    split <;> rfl
  | beginReportExecution made kind authorised opened aborts =>
    cases aborts <;> exact .same rfl
  | commitSummary commits first absent bump =>
    exact .committed ⟨_, _, _, _, commits, .inr rfl⟩ rfl absent rfl
  | deleteRoom => exact .deleted rfl

theorem createDiscussionRoom_ok {topic background : JsString} {stamp : Stamp} {room : DiscussionRoom}
    (made : createDiscussionRoom topic background stamp = .ok room) :
    room.id = stamp.uuid ∧ room.status = .open ∧ room.activeRoundId = none := by
  simp only [createDiscussionRoom, except_bind_ok, require_ok, exists_const, ok_pure] at made
  obtain ⟨-, rfl⟩ := made
  exact ⟨rfl, rfl, rfl⟩

theorem Writes.rooms_step (writes : db.Writes action next) : db.RoomsStep action next := by
  cases writes with
  | aside | round | beginExecution | beginFocusExecution | execution | release => exact .same rfl
  | createRoom made absent =>
    obtain ⟨key, opened, -⟩ := createDiscussionRoom_ok made
    exact .created rfl key opened absent rfl
  | room stored kept =>
    exact .changed stored rfl kept.id
      (.steady kept.topic kept.background kept.contextRevision kept.status)
  | appendUserMessage authorised stored own said absent =>
    exact .changed authorised.found rfl rfl (.append (get_mem authorised.found).2 rfl)
  | updateRoomSharedConfig authorised different =>
    exact .changed authorised.found rfl rfl
      (.configure (get_mem authorised.found).2 different rfl)
  | renameRoom stored different =>
    exact .changed stored rfl rfl (.rename (get_mem stored).2 different rfl)
  | createRound authorised opened idle quiet made absent =>
    exact .changed authorised.found rfl rfl (.steady rfl rfl rfl rfl)
  | @abortRound _ _ _ now room round authorised stored going =>
    have rooms (row : DiscussionRoom) : (((db.afterInterrupt round now).putRound
        (abortedRound round now)).putRoom row).rooms = db.rooms.put row := by
      simp only [putRoom, putRound, afterInterrupt_rooms]
    exact .changed authorised.found (rooms _) rfl (.steady rfl rfl rfl rfl)
  | skipParticipant admitted =>
    exact .changed admitted.authorised.found rfl rfl (.steady rfl rfl rfl rfl)
  | beginReportExecution made kind authorised opened aborts quiet absent =>
    cases aborts with
    | idle | gone | ended | aborted =>
      exact .changed authorised.found rfl rfl (.steady rfl rfl rfl rfl)
  | commitModelMessage commits focused absent =>
    exact .changed commits.loaded.authorised.found rfl rfl
      (.commit ⟨_, _, _, _, commits, .inl rfl⟩ rfl)
  | commitFocusMessage commits unfocused absent =>
    exact .changed commits.loaded.authorised.found rfl rfl
      (.commit ⟨_, _, _, _, commits, .inl rfl⟩ rfl)
  | commitSummary commits first absent bump =>
    subst bump
    -- The room is put twice: bumped, and let go of by its round.
    exact .changed commits.loaded.authorised.found (put_put rfl) rfl
      (.commit ⟨_, _, _, _, commits, .inr rfl⟩ rfl)
  | commitReport found authorised committable first opened made absent =>
    exact .changed authorised.found rfl rfl
      (.conclude found (get_mem authorised.found).2 opened)
  | deleteRoom => exact .deleted rfl

end Database

end CouncilKit.Discussion
