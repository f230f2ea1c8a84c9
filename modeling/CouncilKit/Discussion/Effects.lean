import CouncilKit.Discussion.Transactions

namespace CouncilKit.Discussion

open Data

namespace Database

variable {db next : Database} {roomId roundId executionId : JsString} {token : ControllerToken}
  {now : JsString} {stamp : Stamp}

variable {room : DiscussionRoom}

@[simp] theorem requireRoom_ok :
    db.requireRoom roomId = .ok room ↔ db.rooms.get roomId = some room := fetch_ok

variable {done : Unit}

@[simp] theorem requireController_ok :
    db.requireController roomId token = .ok done ↔ db.Controls roomId token := require_ok

variable {execution : ModelExecution}

@[simp] theorem getExecution_ok :
    db.getExecution executionId = .ok execution ↔
      db.modelExecutions.get executionId = some execution := fetch_ok

@[simp] theorem getParticipant_ok {participantId : JsString} {participant : Participant} :
    db.getParticipant participantId = .ok participant ↔
      db.participants.get participantId = some participant := fetch_ok

@[simp] theorem getBinding_ok {id : JsString} {binding : RuntimeBinding} :
    db.getBinding id = .ok binding ↔ db.runtimeBindings.get id = some binding := fetch_ok

theorem ok_pure {α : Type} {value result : α} :
    (pure value : Outcome α) = .ok result ↔ value = result := Except.ok.injEq ..|>.to_iff

variable {round : DiscussionRound}

theorem addRound_ok (added : db.addRound round = .ok next) :
    ∃ rounds, db.rounds.add round = some rounds ∧ next = { db with rounds } := by
  simp only [addRound, Except.map] at added
  split at added
  · contradiction
  · rename_i rounds inserted
    cases added
    exact ⟨rounds, fetch_ok.mp inserted, rfl⟩

theorem addExecution_ok (added : db.addExecution execution = .ok next) :
    ∃ modelExecutions, db.modelExecutions.add execution = some modelExecutions ∧
      next = { db with modelExecutions } := by
  simp only [addExecution, Except.map] at added
  split at added
  · contradiction
  · rename_i modelExecutions inserted
    cases added
    exact ⟨modelExecutions, fetch_ok.mp inserted, rfl⟩

theorem addMessage_ok {message : DiscussionMessage} (added : db.addMessage message = .ok next) :
    ∃ messages, db.messages.add message = some messages ∧ next = { db with messages } := by
  simp only [addMessage, except_bind_ok, require_ok, fetch_ok, exists_const, ok_pure] at added
  obtain ⟨-, messages, inserted, rfl⟩ := added
  exact ⟨messages, inserted, rfl⟩

theorem addSummary_ok {summary : DiscussionSummary} (added : db.addSummary summary = .ok next) :
    ∃ summaries, db.summaries.add summary = some summaries ∧ next = { db with summaries } := by
  simp only [addSummary, except_bind_ok, require_ok, fetch_ok, exists_const, ok_pure] at added
  obtain ⟨-, summaries, inserted, rfl⟩ := added
  exact ⟨summaries, inserted, rfl⟩

theorem addReport_ok {report : DecisionReport} (added : db.addReport report = .ok next) :
    ∃ reports, db.reports.add report = some reports ∧ next = { db with reports } := by
  simp only [addReport, except_bind_ok, require_ok, fetch_ok, exists_const, ok_pure] at added
  obtain ⟨-, reports, inserted, rfl⟩ := added
  exact ⟨reports, inserted, rfl⟩

/-- The room and its controller, as a transaction for `roomId` read them. -/
structure Authorised (db : Database) (roomId : JsString) (token : ControllerToken)
    (room : DiscussionRoom) : Prop where
  found : db.rooms.get roomId = some room
  controls : db.Controls roomId token

theorem appendUserMessage_ok [Digest] {content : JsString} {message : DiscussionMessage}
    (ended : db.appendUserMessage roomId roundId token content stamp = .ok (next, message)) :
    ∃ room round added, db.Authorised roomId token room ∧ db.rounds.get roundId = some round ∧
      round.roomId = roomId ∧ content.trim ≠ [] ∧ message = {
        id := stamp.uuid, roomId, roundId, role := .user, participantId := none, content,
        sourceExecutionId := none, createdAt := stamp.now } ∧
      db.addMessage message = .ok added ∧ next = added.bumpRoomContext room stamp.now := by
  simp only [appendUserMessage, except_bind_ok, requireRoom_ok, requireController_ok, require_ok,
    fetch_ok, exists_const, ok_pure, Option.filter_eq_some_iff, Prod.mk.injEq] at ended
  obtain ⟨room, found, controls, round, ⟨stored, own⟩, said, added, inserted, rfl, rfl⟩ := ended
  exact ⟨room, round, added, ⟨found, controls⟩, stored, by simpa using own, said, rfl, inserted, rfl⟩

theorem updateRoomSharedConfig_ok [Digest] {topic background : Option JsString} {changed : Bool}
    (ended : db.updateRoomSharedConfig roomId token topic background now = .ok (next, changed)) :
    ∃ room, db.Authorised roomId token room ∧
      (topic.getD room.topic = room.topic ∧ background.getD room.background = room.background ∧
          changed = false ∧ next = db ∨
        ¬ (topic.getD room.topic = room.topic ∧ background.getD room.background = room.background) ∧
          changed = true ∧ next = db.bumpRoomContext { room with
            topic := topic.getD room.topic, background := background.getD room.background } now) := by
  simp only [updateRoomSharedConfig, except_bind_ok, requireRoom_ok, requireController_ok,
    exists_const] at ended
  obtain ⟨room, found, controls, ended⟩ := ended
  refine ⟨room, ⟨found, controls⟩, ?_⟩
  split at ended
  · rename_i same
    cases ended
    exact .inl ⟨same.1, same.2, rfl, rfl⟩
  · rename_i different
    cases ended
    exact .inr ⟨different, rfl, rfl⟩

theorem setRoomRunState_ok {runState : RoomRunState}
    (ended : db.setRoomRunState roomId token runState now = .ok next) :
    ∃ room, db.Authorised roomId token room ∧
      next = db.putRoom { room with runState, lastActiveAt := now } := by
  simp only [setRoomRunState, except_bind_ok, requireRoom_ok, requireController_ok, exists_const,
    ok_pure] at ended
  obtain ⟨room, found, controls, rfl⟩ := ended
  exact ⟨room, ⟨found, controls⟩, rfl⟩

theorem createRound_ok {participantOrder : List JsString}
    (ended : db.createRound roomId token participantOrder stamp = .ok (next, round)) :
    ∃ room added, db.Authorised roomId token room ∧ room.runState ≠ .paused ∧
      room.status ≠ .concluded ∧ room.activeRoundId = none ∧ ¬ db.LiveReport room.id ∧
      round = db.newRound roomId participantOrder stamp ∧ db.addRound round = .ok added ∧
      next = added.putRoom { room with
        activeRoundId := some round.id, runState := .running, lastActiveAt := stamp.now } := by
  simp only [createRound, except_bind_ok, requireRoom_ok, requireController_ok, require_ok,
    exists_const, ok_pure, Prod.mk.injEq] at ended
  obtain ⟨room, found, controls, awake, opened, idle, quiet, added, inserted, rfl, rfl⟩ := ended
  exact ⟨room, added, ⟨found, controls⟩, awake, opened, idle, quiet, rfl, inserted, rfl⟩

theorem transitionRound_ok {target : TransitionTarget}
    (ended : db.transitionRound roomId roundId token target = .ok next) :
    ∃ room round, db.Authorised roomId token room ∧ db.rounds.get roundId = some round ∧
      round.phase = target.expectedFrom ∧
      next = db.putRound { round with phase := target.phase } := by
  simp only [transitionRound, except_bind_ok, requireRoom_ok, requireController_ok, require_ok,
    fetch_ok, exists_const, ok_pure] at ended
  obtain ⟨room, found, controls, round, stored, phase, rfl⟩ := ended
  exact ⟨room, round, ⟨found, controls⟩, stored, phase, rfl⟩

theorem pauseRound_ok {reason : RoundPauseReason}
    (ended : db.pauseRound roomId roundId token reason = .ok next) :
    ∃ room round pausedFrom, db.Authorised roomId token room ∧
      db.rounds.get roundId = some round ∧ round.phase.pausable = some pausedFrom ∧
      next = db.putRound { round with
        pausedFrom := some pausedFrom, phase := .paused, pauseReason := some reason } := by
  simp only [pauseRound, except_bind_ok, requireRoom_ok, requireController_ok, fetch_ok,
    exists_const, ok_pure] at ended
  obtain ⟨room, found, controls, round, stored, pausedFrom, phase, rfl⟩ := ended
  exact ⟨room, round, pausedFrom, ⟨found, controls⟩, stored, phase, rfl⟩

theorem resumeRound_ok (ended : db.resumeRound roomId roundId token = .ok next) :
    ∃ room round pausedFrom, db.Authorised roomId token room ∧
      db.rounds.get roundId = some round ∧ round.phase = .paused ∧
      round.pausedFrom = some pausedFrom ∧
      next = db.putRound { round with
        phase := pausedFrom.phase, pausedFrom := none, pauseReason := none } := by
  simp only [resumeRound, except_bind_ok, requireRoom_ok, requireController_ok, require_ok,
    fetch_ok, exists_const, ok_pure] at ended
  obtain ⟨room, found, controls, round, stored, phase, pausedFrom, saved, rfl⟩ := ended
  exact ⟨room, round, pausedFrom, ⟨found, controls⟩, stored, phase, saved, rfl⟩

theorem abortRound_ok (ended : db.abortRound roomId roundId token now = .ok next) :
    ∃ room round, db.Authorised roomId token room ∧ db.rounds.get roundId = some round ∧
      round.phase ≠ .completed ∧ (round.phase = .aborted ∧ next = db ∨ round.phase ≠ .aborted ∧
        next = ((db.afterInterrupt round now).putRound (abortedRound round now)).putRoom { room with
          activeRoundId := none, runState := .idle, lastActiveAt := now }) := by
  simp only [abortRound, except_bind_ok, requireRoom_ok, requireController_ok, require_ok,
    fetch_ok, exists_const] at ended
  obtain ⟨room, found, controls, round, stored, phase, ended⟩ := ended
  refine ⟨room, round, ⟨found, controls⟩, stored, phase, ?_⟩
  split at ended
  · rename_i aborted
    cases ended
    exact .inl ⟨aborted, rfl⟩
  · rename_i going
    cases ended
    exact .inr ⟨going, rfl⟩

/-- A skip goes through on the paused speaker at the cursor. -/
structure SkipAdmitted (db : Database) (roomId roundId : JsString) (token : ControllerToken)
    (room : DiscussionRoom) (round : DiscussionRound) (skipped : JsString) : Prop where
  authorised : db.Authorised roomId token room
  stored : db.rounds.get roundId = some round
  own : round.roomId = roomId
  active : room.activeRoundId = some round.id
  paused : round.phase = .paused
  reason : (round.pauseReason.bind (·.participantId)) = some skipped
  facilitates : skipped ≠ room.facilitatorParticipantId
  pausedFrom : round.pausedFrom = some .running
  cursor : round.participantOrder[round.nextParticipantIndex]? = some skipped

theorem admitSkip_ok {skipped : JsString}
    (admitted : db.admitSkip roomId roundId token = .ok (room, round, skipped)) :
    db.SkipAdmitted roomId roundId token room round skipped := by
  simp only [admitSkip, except_bind_ok, requireRoom_ok, requireController_ok, require_ok,
    fetch_ok, exists_const, ok_pure, Option.filter_eq_some_iff, Prod.mk.injEq,
    decide_eq_true_eq] at admitted
  obtain ⟨room, found, controls, round, ⟨stored, own⟩, active, paused, skipped,
    ⟨reason, -⟩, facilitates, pausedFrom, cursor, rfl, rfl, rfl⟩ := admitted
  exact ⟨⟨found, controls⟩, stored, own, active, paused, reason, facilitates, pausedFrom, cursor⟩

theorem skipParticipant_ok {result : JsString × RoundPhase}
    (ended : db.skipParticipant roomId roundId token now = .ok (next, result)) :
    ∃ room round skipped, db.admitSkip roomId roundId token = .ok (room, round, skipped) ∧
      next = (db.putRound (skippedRound round)).putRoom { room with lastActiveAt := now } ∧
      result = (skipped, (skippedRound round).phase) := by
  simp only [skipParticipant, except_bind_ok, ok_pure, Prod.mk.injEq] at ended
  obtain ⟨⟨room, round, skipped⟩, admitted, rfl, rfl⟩ := ended
  exact ⟨room, round, skipped, admitted, rfl, rfl⟩

/-- What both begins find: a free round of the right phase and its room. -/
structure BeginAdmitted (db : Database) (execution : ModelExecution) (token : ControllerToken)
    (phase : RoundPhase) (round : DiscussionRound) (room : DiscussionRoom) : Prop where
  stored : db.rounds.get execution.roundId = some round
  authorised : db.Authorised round.roomId token room
  active : room.activeRoundId = some round.id
  phase : round.phase = phase
  free : round.activeExecutionId = none
  participant : (db.participants.get execution.participantId).any (·.state = .active) = true

theorem admitBegin_ok {phase : RoundPhase} {label : JsString}
    (admitted : db.admitBegin execution token phase label = .ok (round, room)) :
    db.BeginAdmitted execution token phase round room := by
  simp only [admitBegin, except_bind_ok, requireRoom_ok, requireController_ok, require_ok,
    fetch_ok, exists_const, ok_pure, Prod.mk.injEq] at admitted
  obtain ⟨round, stored, room, found, controls, active, phase, free, participant, rfl, rfl⟩ :=
    admitted
  exact ⟨stored, ⟨found, controls⟩, active, phase, free, participant⟩

theorem begun_ok (began : db.begun round execution = .ok next) :
    ∃ added, db.addExecution execution = .ok added ∧
      next = added.putRound { round with activeExecutionId := some execution.executionId } := by
  simp only [begun, Except.map] at began
  split at began
  · contradiction
  · rename_i added inserted
    cases began
    exact ⟨added, inserted, rfl⟩

theorem beginExecution_ok (ended : db.beginExecution execution token = .ok next) :
    ∃ round room, db.BeginAdmitted execution token
        (if execution.resultKind = .summary then .summarizing else .running) round room ∧
      (if execution.resultKind = .summary then
          execution.participantId = room.facilitatorParticipantId
        else round.participantOrder[round.nextParticipantIndex]? = some execution.participantId) ∧
      ¬ ((execution.resultKind = .message ∨ execution.resultKind = .summary) ∧
        round.focusMessageId = .null) ∧
      db.begun round execution = .ok next := by
  simp only [beginExecution, withConflictTranslation_ok, except_bind_ok] at ended
  obtain ⟨⟨round, room⟩, admitted, ended⟩ := ended
  refine ⟨round, room, admitBegin_ok admitted, ?_⟩
  split at ended
  · rename_i summary
    simp only [except_bind_ok, require_ok, exists_const] at ended
    rw [if_pos summary]
    exact ended
  · rename_i other
    simp only [except_bind_ok, require_ok, exists_const] at ended
    rw [if_neg other]
    exact ended

theorem beginFocusExecution_ok (ended : db.beginFocusExecution execution token = .ok next) :
    ∃ round room, db.BeginAdmitted execution token .running round room ∧
      execution.participantId = room.facilitatorParticipantId ∧ round.focusMessageId = .null ∧
      db.begun round execution = .ok next := by
  simp only [beginFocusExecution, withConflictTranslation_ok, except_bind_ok, require_ok,
    exists_const] at ended
  obtain ⟨⟨round, room⟩, admitted, facilitator, unfocused, begun⟩ := ended
  exact ⟨round, room, admitBegin_ok admitted, facilitator, unfocused, begun⟩

theorem markExecutionDispatched_ok {hostInstanceId executionScopeId : JsString}
    {dispatchState : DispatchState}
    (ended : db.markExecutionDispatched executionId hostInstanceId executionScopeId dispatchState
      now = .ok next) :
    ∃ execution, db.modelExecutions.get executionId = some execution ∧
      execution.state = .prepared ∧ next = db.putExecution { execution with
        state := .running
        hostInstanceId := some hostInstanceId
        executionScopeId := some executionScopeId
        dispatchState
        updatedAt := now } := by
  simp only [markExecutionDispatched, except_bind_ok, getExecution_ok, require_ok, exists_const,
    ok_pure] at ended
  obtain ⟨execution, found, state, rfl⟩ := ended
  exact ⟨execution, found, state, rfl⟩

theorem markExecutionSucceededUncommitted_ok {effectiveModel : Option JsString}
    {usage : Option ModelExecutionUsage} {finalEventSeq : Nat} {dispatchState : DispatchState}
    {toolState : ToolState}
    (ended : db.markExecutionSucceededUncommitted executionId effectiveModel usage finalEventSeq
      dispatchState toolState now = .ok next) :
    ∃ execution, db.modelExecutions.get executionId = some execution ∧
      execution.state = .running ∧ next = db.putExecution { execution with
        state := .succeeded_uncommitted
        effectiveModel
        usage
        finalEventSeq := some finalEventSeq
        dispatchState
        toolState
        updatedAt := now } := by
  simp only [markExecutionSucceededUncommitted, except_bind_ok, getExecution_ok, require_ok,
    exists_const, ok_pure] at ended
  obtain ⟨execution, found, state, rfl⟩ := ended
  exact ⟨execution, found, state, rfl⟩

/-- The rows `loadCommitContext` reads belong together. -/
structure CommitLoaded (db : Database) (executionId : JsString) (token : ControllerToken)
    (context : CommitContext) : Prop where
  execution : db.modelExecutions.get executionId = some context.execution
  round : db.rounds.get context.execution.roundId = some context.round
  authorised : db.Authorised context.round.roomId token context.room
  participant : db.participants.get context.execution.participantId = some context.participant

theorem loadCommitContext_ok {context : CommitContext}
    (loaded : db.loadCommitContext executionId token = .ok context) :
    db.CommitLoaded executionId token context := by
  simp only [loadCommitContext, except_bind_ok, getExecution_ok, fetch_ok, requireRoom_ok,
    requireController_ok, getParticipant_ok, exists_const, ok_pure] at loaded
  obtain ⟨execution, found, round, stored, room, inRoom, controls, participant, speaker, rfl⟩ :=
    loaded
  exact ⟨found, stored, ⟨inRoom, controls⟩, speaker⟩

def Committable (execution : ModelExecution) (kind : ResultKind) : Prop :=
  execution.resultKind = kind ∧ (execution.state = .running ∨ execution.state = .succeeded_uncommitted)

theorem assertCommittable_ok {kind : ResultKind} :
    assertCommittable execution kind = .ok done ↔ Committable execution kind := by
  simp only [assertCommittable, except_bind_ok, require_ok, exists_const, Committable]

def Runs (room : DiscussionRoom) (round : DiscussionRound) (execution : ModelExecution)
    (phase : RoundPhase) : Prop :=
  (room.activeRoundId = some round.id ∧ round.phase = phase) ∧
    round.activeExecutionId = some execution.executionId

theorem requireActive_ok {phase : RoundPhase} {idle : JsString} :
    requireActive room round execution phase idle = .ok done ↔
      Runs room round execution phase := by
  simp only [requireActive, except_bind_ok, require_ok, exists_const, Runs]

def ReplayMatches [Digest] (execution : ModelExecution) (kind : ResultKind) (content : JsString)
    (finalEventSeq : Nat) : Prop :=
  execution.resultKind = kind ∧ execution.finalEventSeq = some finalEventSeq ∧
    execution.contentDigest = some (contentDigestOf content)

variable [Digest] {input : CommitInput} {outcome : CommitOutcome}

structure Replays (db : Database) (execution : ModelExecution) (kind : ResultKind)
    (input : CommitInput) (next : Database) (outcome : CommitOutcome) : Prop where
  committed : execution.state = .committed
  facts : ReplayMatches execution kind input.content input.finalEventSeq
  unchanged : next = db
  outcome : outcome = .replayed execution.committedEntityId

theorem replayed_ok {kind : ResultKind} (committed : execution.state = .committed) (ended : (do
      let replayed ← replayOrThrow execution kind input.content input.finalEventSeq
      return (db, replayed) : Outcome (Database × CommitOutcome)) = .ok (next, outcome)) :
    db.Replays execution kind input next outcome := by
  simp only [replayOrThrow, except_bind_ok, require_ok, exists_const, ok_pure, Prod.mk.injEq] at ended
  obtain ⟨result, ⟨facts, rfl⟩, rfl, rfl⟩ := ended
  exact ⟨committed, facts, rfl, rfl⟩

/-- A commit that finds another context drops the execution. -/
structure Drifts (db : Database) (context : CommitContext) (input : CommitInput) (now : JsString)
    (next : Database) (outcome : CommitOutcome) : Prop where
  drifted : ContextDrifted context.execution context.room context.participant
  discarded : next = db.discardLockedExecution context.execution context.round .stale_context
    input.finalEventSeq none now
  outcome : outcome = .discarded .stale_context

theorem commitModelMessage_ok
    (ended : db.commitModelMessage input stamp = .ok (next, outcome)) :
    ∃ context, db.CommitLoaded input.executionId input.token context ∧
      (db.Replays context.execution .message input next outcome ∨
        Committable context.execution .message ∧ context.round.focusMessageId ≠ .null ∧
          Runs context.room context.round context.execution .running ∧
          (db.Drifts context input stamp.now next outcome ∨
            ¬ ContextDrifted context.execution context.room context.participant ∧
            ∃ added, db.addMessage (participantMessage context input stamp) = .ok added ∧
              next = (commitEntity added context input .message stamp).putRound
                (spokenRound context.round) ∧
              outcome = .committed stamp.uuid (spokenRound context.round).phase)) := by
  simp only [commitModelMessage, withConflictTranslation_ok, except_bind_ok] at ended
  obtain ⟨context, loaded, ended⟩ := ended
  refine ⟨context, loadCommitContext_ok loaded, ?_⟩
  split at ended
  · rename_i committed
    exact .inl (replayed_ok committed ended)
  · simp only [except_bind_ok, assertCommittable_ok, require_ok, requireActive_ok, exists_const] at ended
    obtain ⟨committable, focused, runs, ended⟩ := ended
    refine .inr ⟨committable, focused, runs, ?_⟩
    split at ended
    · rename_i drifted
      cases ended
      exact .inl ⟨drifted, rfl, rfl⟩
    · rename_i current
      simp only [except_bind_ok, ok_pure, Prod.mk.injEq] at ended
      obtain ⟨added, inserted, rfl, rfl⟩ := ended
      exact .inr ⟨current, added, inserted, rfl, rfl⟩

theorem commitSummary_ok (ended : db.commitSummary input stamp = .ok (next, outcome)) :
    ∃ context, db.CommitLoaded input.executionId input.token context ∧
      (db.Replays context.execution .summary input next outcome ∨
        Committable context.execution .summary ∧
          Runs context.room context.round context.execution .summarizing ∧
          ¬ context.round.nextParticipantIndex < context.round.participantOrder.length ∧
          (db.Drifts context input stamp.now next outcome ∨
            ¬ ContextDrifted context.execution context.room context.participant ∧
            ∃ added, db.addSummary (newSummary context input stamp) = .ok added ∧
              next = ((commitEntity added context input .summary stamp).putRound
                (completedRound context.round stamp.now)).putRoom
                { added.bumped context.room stamp.now with
                  activeRoundId := none, runState := .idle } ∧
              outcome = .committed stamp.uuid .completed)) := by
  simp only [commitSummary, withConflictTranslation_ok, except_bind_ok] at ended
  obtain ⟨context, loaded, ended⟩ := ended
  refine ⟨context, loadCommitContext_ok loaded, ?_⟩
  split at ended
  · rename_i committed
    exact .inl (replayed_ok committed ended)
  · simp only [except_bind_ok, assertCommittable_ok, require_ok, requireActive_ok, exists_const] at ended
    obtain ⟨committable, runs, cursor, ended⟩ := ended
    refine .inr ⟨committable, runs, cursor, ?_⟩
    split at ended
    · rename_i drifted
      cases ended
      exact .inl ⟨drifted, rfl, rfl⟩
    · rename_i current
      simp only [except_bind_ok, ok_pure, Prod.mk.injEq] at ended
      obtain ⟨added, inserted, rfl, rfl⟩ := ended
      exact .inr ⟨current, added, inserted, rfl, rfl⟩

theorem commitFocusMessage_ok (ended : db.commitFocusMessage input stamp = .ok (next, outcome)) :
    ∃ context, db.CommitLoaded input.executionId input.token context ∧
      (db.Replays context.execution .focus input next outcome ∨
        Committable context.execution .focus ∧
          context.execution.participantId = context.room.facilitatorParticipantId ∧
          Runs context.room context.round context.execution .running ∧
          context.round.focusMessageId = .null ∧
          (db.Drifts context input stamp.now next outcome ∨
            ¬ ContextDrifted context.execution context.room context.participant ∧
            ∃ added, db.addMessage (participantMessage context input stamp) = .ok added ∧
              next = (commitEntity added context input .message stamp).putRound
                (focusedRound context.round stamp.uuid) ∧
              outcome = .committed stamp.uuid context.round.phase)) := by
  simp only [commitFocusMessage, withConflictTranslation_ok, except_bind_ok] at ended
  obtain ⟨context, loaded, ended⟩ := ended
  refine ⟨context, loadCommitContext_ok loaded, ?_⟩
  split at ended
  · rename_i committed
    exact .inl (replayed_ok committed ended)
  · simp only [except_bind_ok, assertCommittable_ok, require_ok, requireActive_ok, exists_const] at ended
    obtain ⟨committable, facilitator, runs, unfocused, ended⟩ := ended
    refine .inr ⟨committable, facilitator, runs, unfocused, ?_⟩
    split at ended
    · rename_i drifted
      cases ended
      exact .inl ⟨drifted, rfl, rfl⟩
    · rename_i current
      simp only [except_bind_ok, ok_pure, Prod.mk.injEq] at ended
      obtain ⟨added, inserted, rfl, rfl⟩ := ended
      exact .inr ⟨current, added, inserted, rfl, rfl⟩

omit [Digest]

/-- The room's own round was free, and is aborted unless it had ended. -/
inductive ReportAborts (db : Database) (room : DiscussionRoom) (now : JsString) :
    Database → DiscussionRoom → Prop where
  | idle (noRound : room.activeRoundId = none) : ReportAborts db room now db room
  | gone {roundId : JsString} (active : room.activeRoundId = some roundId)
      (absent : db.rounds.get roundId = none) :
      ReportAborts db room now db { room with activeRoundId := none, runState := .idle }
  | ended {roundId : JsString} {round : DiscussionRound}
      (active : room.activeRoundId = some roundId) (stored : db.rounds.get roundId = some round)
      (free : round.activeExecutionId = none)
      (final : round.phase = .completed ∨ round.phase = .aborted) :
      ReportAborts db room now db { room with activeRoundId := none, runState := .idle }
  | aborted {roundId : JsString} {round : DiscussionRound}
      (active : room.activeRoundId = some roundId) (stored : db.rounds.get roundId = some round)
      (free : round.activeExecutionId = none)
      (going : ¬ (round.phase = .completed ∨ round.phase = .aborted)) :
      ReportAborts db room now (db.putRound (abortedRound round now))
        { room with activeRoundId := none, runState := .idle }

theorem reportAbort_ok {idle : DiscussionRoom} {aborted : Database}
    (ended : db.reportAbort room now = .ok (aborted, idle)) :
    db.ReportAborts room now aborted idle := by
  simp only [reportAbort] at ended
  split at ended
  · rename_i noRound
    cases ended
    exact .idle noRound
  · rename_i roundId active
    split at ended
    · rename_i absent
      cases ended
      exact .gone active absent
    · rename_i round stored
      simp only [except_bind_ok, require_ok, exists_const] at ended
      obtain ⟨free, ended⟩ := ended
      split at ended
      · rename_i final
        cases ended
        exact .ended active stored free final
      · rename_i going
        cases ended
        exact .aborted active stored free going

theorem beginReportExecution_ok (ended : db.beginReportExecution execution token now = .ok next) :
    ∃ room aborted idle anchorRound, execution.resultKind = .report ∧
      db.Authorised execution.roomId token room ∧ room.status ≠ .concluded ∧
      db.ReportAborts room now aborted idle ∧
      aborted.rounds.get execution.roundId = some anchorRound ∧ anchorRound.roomId = room.id ∧
      anchorRound.phase = .completed ∧
      execution.participantId = room.facilitatorParticipantId ∧
      (db.participants.get execution.participantId).any (·.state = .active) = true ∧
      ¬ db.LiveReport room.id ∧
      (aborted.putRoom { idle with lastActiveAt := now }).addExecution execution = .ok next := by
  simp only [beginReportExecution, withConflictTranslation_ok, except_bind_ok, require_ok,
    requireRoom_ok, requireController_ok, fetch_ok, exists_const, Option.filter_eq_some_iff,
    decide_eq_true_eq] at ended
  obtain ⟨kind, room, found, controls, opened, ⟨aborted, idle⟩, aborts, anchorRound,
    ⟨anchored, own⟩, completed, facilitator, participant, quiet, added⟩ := ended
  exact ⟨room, aborted, idle, anchorRound, kind, ⟨found, controls⟩, opened, reportAbort_ok aborts,
    anchored, own, completed, facilitator, participant, quiet, added⟩

theorem commitReport_ok [Digest] (ended : db.commitReport input stamp = .ok (next, outcome)) :
    ∃ execution room participant,
      db.modelExecutions.get input.executionId = some execution ∧
      db.Authorised execution.roomId input.token room ∧
      db.participants.get execution.participantId = some participant ∧
      (db.Replays execution .report input next outcome ∨
        Committable execution .report ∧ (∀ report ∈ db.reports.rows, report.roomId ≠ room.id) ∧
          room.status ≠ .concluded ∧
          (ContextDrifted execution room participant ∧
              next = db.putExecution (discardedExecution execution .stale_context
                input.finalEventSeq none stamp.now) ∧
              outcome = .discarded .stale_context ∨
            ¬ ContextDrifted execution room participant ∧
            ∃ report added,
              createDecisionReport room.id input.content execution.executionId stamp = .ok report ∧
              db.addReport report = .ok added ∧
              next = (added.putExecution (committedExecution execution input .report report.id
                stamp.now)).putRoom { room with
                  status := .concluded, runState := .idle, lastActiveAt := stamp.now } ∧
              outcome = .committed report.id .completed)) := by
  simp only [commitReport, withConflictTranslation_ok, except_bind_ok, getExecution_ok,
    requireRoom_ok, requireController_ok, getParticipant_ok, exists_const] at ended
  obtain ⟨execution, found, room, inRoom, controls, participant, facilitator, ended⟩ := ended
  refine ⟨execution, room, participant, found, ⟨inRoom, controls⟩, facilitator, ?_⟩
  split at ended
  · rename_i committed
    exact .inl (replayed_ok committed ended)
  · simp only [except_bind_ok, assertCommittable_ok, require_ok, exists_const] at ended
    obtain ⟨committable, first, opened, ended⟩ := ended
    refine .inr ⟨committable, first, opened, ?_⟩
    split at ended
    · rename_i drifted
      cases ended
      exact .inl ⟨drifted, rfl, rfl⟩
    · rename_i current
      simp only [except_bind_ok, ok_pure, Prod.mk.injEq] at ended
      obtain ⟨report, made, added, inserted, rfl, rfl⟩ := ended
      exact .inr ⟨current, report, added, made, inserted, rfl, rfl⟩

theorem discardExecution_ok {input : DiscardInput} {outcome : DiscardOutcome}
    (ended : db.discardExecution input now = .ok (next, outcome)) :
    ∃ context, db.CommitLoaded input.executionId input.token context ∧
      context.execution.state ≠ .committed ∧
      (context.execution.state = .discarded ∧
          (context.execution.runtimeOutcome = some input.outcome ∧
            context.execution.finalEventSeq = some input.finalEventSeq) ∧
          next = db ∧ outcome = .replayed ∨
        context.execution.state ≠ .discarded ∧
          (context.execution.state = .running ∨
            context.execution.state = .succeeded_uncommitted) ∧
          next = db.discardLockedExecution context.execution context.round input.outcome
            input.finalEventSeq input.error now ∧
          outcome = .discarded input.outcome) := by
  simp only [discardExecution, except_bind_ok, require_ok, exists_const] at ended
  obtain ⟨context, loaded, uncommitted, ended⟩ := ended
  refine ⟨context, loadCommitContext_ok loaded, uncommitted, ?_⟩
  split at ended
  · rename_i discarded
    simp only [except_bind_ok, require_ok, exists_const, ok_pure, Prod.mk.injEq] at ended
    obtain ⟨facts, rfl, rfl⟩ := ended
    exact .inl ⟨discarded, facts, rfl, rfl⟩
  · rename_i undiscarded
    simp only [except_bind_ok, require_ok, exists_const, ok_pure, Prod.mk.injEq] at ended
    obtain ⟨state, rfl, rfl⟩ := ended
    exact .inr ⟨undiscarded, state, rfl, rfl⟩

theorem failExecution_ok {error : DiscussionRoom → ModelExecutionError} {kind : FailureKind} {pause : Bool}
    (ended : db.failExecution executionId token error kind pause now = .ok (next, room)) :
    ∃ context, db.CommitLoaded executionId token context ∧ room = context.room ∧
      (context.execution.state ≠ .committed ∧ context.execution.state ≠ .discarded) ∧
      ((context.execution.state = .failed ∨ context.execution.state = .interrupted) ∧ next = db ∨
        ¬ (context.execution.state = .failed ∨ context.execution.state = .interrupted) ∧
          next = db.recordExecutionFailure context.execution context.round
            ⟨error context.room, kind, pause⟩ now) := by
  simp only [failExecution, except_bind_ok, require_ok, exists_const] at ended
  obtain ⟨context, loaded, unsettled, ended⟩ := ended
  refine ⟨context, loadCommitContext_ok loaded, ?_⟩
  split at ended
  · rename_i settled
    cases ended
    exact ⟨rfl, unsettled, .inl ⟨settled, rfl⟩⟩
  · rename_i going
    cases ended
    exact ⟨rfl, unsettled, .inr ⟨going, rfl⟩⟩

theorem failUnboundExecution_ok {input : FailureInput} {result : UnboundFailureResult}
    (ended : db.failUnboundExecution executionId input now = .ok (next, result)) :
    ∃ execution, db.modelExecutions.get executionId = some execution ∧
      (next = db ∨ db.activeBinding execution.roomId = none ∧
        (execution.state ≠ .committed ∧ execution.state ≠ .discarded) ∧
        ¬ (execution.state = .failed ∨ execution.state = .interrupted) ∧ ∃ round,
        db.rounds.get execution.roundId = some round ∧
          next = db.recordExecutionFailure execution round input now) := by
  simp only [failUnboundExecution, except_bind_ok, getExecution_ok] at ended
  obtain ⟨execution, found, ended⟩ := ended
  refine ⟨execution, found, ?_⟩
  split at ended
  · cases ended
    exact .inl rfl
  · rename_i unbound
    simp only [except_bind_ok, require_ok, exists_const] at ended
    obtain ⟨unsettled, ended⟩ := ended
    split at ended
    · cases ended
      exact .inl rfl
    · rename_i going
      simp only [except_bind_ok, fetch_ok, ok_pure, Prod.mk.injEq] at ended
      obtain ⟨round, stored, rfl, -⟩ := ended
      exact .inr ⟨Option.not_isSome_iff_eq_none.mp unbound, unsettled, going, round, stored, rfl⟩

theorem settleAck_ok {settled : AckState} (ended : db.settleAck executionId settled now = .ok next) :
    ∃ execution, db.modelExecutions.get executionId = some execution ∧
      (execution.ackState = some .pending ∧
          next = db.putExecution { execution with ackState := some settled, updatedAt := now } ∨
        execution.ackState ≠ some .pending ∧ next = db) := by
  simp only [settleAck, except_bind_ok, getExecution_ok] at ended
  obtain ⟨execution, found, ended⟩ := ended
  refine ⟨execution, found, ?_⟩
  split at ended
  · rename_i pending
    cases ended
    exact .inl ⟨pending, rfl⟩
  · rename_i settled
    cases ended
    exact .inr ⟨settled, rfl⟩

end Database

end CouncilKit.Discussion
