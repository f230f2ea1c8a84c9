import CouncilKit.Data.JsonText
import CouncilKit.Discussion.CommitExecution
import CouncilKit.Discussion.RoundPhases

namespace CouncilKit.Discussion

open Data Table Json
open List hiding mem_filter

structure SourcedEntity where
  entityType : CommittedEntityType
  id : JsString
  sourceExecutionId : JsString
  roomId : JsString
  content : JsString

def DiscussionMessage.sourced (message : DiscussionMessage) : Option SourcedEntity :=
  message.sourceExecutionId.map fun source =>
    ⟨.message, message.id, source, message.roomId, message.content⟩

def DiscussionSummary.sourced (summary : DiscussionSummary) : SourcedEntity :=
  ⟨.summary, summary.id, summary.sourceExecutionId, summary.roomId, summary.content⟩

def DecisionReport.sourced (report : DecisionReport) : SourcedEntity :=
  ⟨.report, report.id, report.sourceExecutionId, report.roomId, report.content⟩

def ResultKind.entityType : ResultKind → CommittedEntityType
  | .message | .focus => .message
  | .summary => .summary
  | .report => .report

def DiscussionAction.begins : DiscussionAction → Option ModelExecutionInput
  | .beginExecution input _ _ | .beginFocusExecution input _ _ | .beginReportExecution input _ _ =>
    some input
  | _ => none

namespace Database

def sourced (db : Database) : List SourcedEntity :=
  db.messages.rows.filterMap (·.sourced) ++ db.summaries.rows.map (·.sourced) ++
    db.reports.rows.map (·.sourced)

/-- A turn begins its execution in the room of the round, for a participant of it. -/
def BeginsInRoom (db : Database) : RoomAction → Prop
  | .discussion action => ∀ input ∈ action.begins,
      (∀ round ∈ db.rounds.get input.roundId, round.roomId = input.roomId) ∧
        ∀ participant ∈ db.participants.get input.participantId,
          participant.roomId = input.roomId
  | _ => True

instance (db : Database) : (action : RoomAction) → Decidable (db.BeginsInRoom action)
  | .discussion action => inferInstanceAs (Decidable (∀ input ∈ action.begins, _ ∧ _))
  | .renameRoom .. | .deleteRoomCascade .. => .isTrue trivial

/-- What a step that commits nothing makes of the executions. -/
inductive ExecutionsMove (db : Database) (action : RoomAction) (next : Database) : Prop where
  | same (rows : next.modelExecutions = db.modelExecutions)
  | begun {discussion : DiscussionAction} {input : ModelExecutionInput} {now : JsString}
      {round : DiscussionRound} {room : DiscussionRoom} {participant : Participant}
      (made : action = .discussion discussion) (begins : discussion.begins = some input)
      (absent : db.modelExecutions.get input.executionId = none)
      (inRound : db.rounds.get input.roundId = some round)
      (inRoom : db.rooms.get round.roomId = some room)
      (speaker : db.participants.get input.participantId = some participant)
      (rows : next.modelExecutions = db.modelExecutions.put (createModelExecution input now))
  | moved {executionId : JsString} {old new : ModelExecution}
      (stored : db.modelExecutions.get executionId = some old) (step : ExecutionStep old new)
      (before : old.state ≠ .committed) (after : new.state ≠ .committed)
      (rows : next.modelExecutions = db.modelExecutions.put new)
  | acked {executionId : JsString} {old new : ModelExecution}
      (stored : db.modelExecutions.get executionId = some old) (acked : Acked old new)
      (rows : next.modelExecutions = db.modelExecutions.put new)

/-- The commit of an execution that was not committed, with its entity. -/
structure Commission [Digest] (db : Database) (old : ModelExecution) (input : CommitInput)
    (entity : SourcedEntity) (now : JsString) (next : Database) : Prop where
  stored : db.modelExecutions.get old.executionId = some old
  uncommitted : old.state ≠ .committed
  kind : entity.entityType = old.resultKind.entityType
  source : entity.sourceExecutionId = old.executionId
  place : entity.roomId = old.roomId ∨
    ∃ round, db.rounds.get old.roundId = some round ∧ entity.roomId = round.roomId
  content : entity.content = input.content
  executions : next.modelExecutions = db.modelExecutions.put
    (committedExecution old input entity.entityType entity.id now)
  entities : ∀ other, other ∈ next.sourced ↔ other = entity ∨ other ∈ db.sourced

def ParticipantsJoin (db next : Database) : Prop :=
  ∀ participant ∈ db.participants.rows, participant ∈ next.participants.rows

inductive SourceStep [Digest] (db : Database) (action : RoomAction) (next : Database) : Prop where
  | quiet (entities : next.sourced = db.sourced) (executions : db.ExecutionsMove action next)
      (participants : db.ParticipantsJoin next)
  | committed {old : ModelExecution} {input : CommitInput} {entity : SourcedEntity}
      {now : JsString} (commits : db.Commission old input entity now next)
      (participants : db.ParticipantsJoin next)
  | deleted {roomId : JsString} (gone : next = db.withoutRoom roomId)

variable [Digest] {db next : Database} {action : RoomAction}

omit [Digest] in
theorem ParticipantsJoin.same (participants : next.participants = db.participants) :
    db.ParticipantsJoin next := by
  intro participant member
  rw [participants]
  exact member

theorem SourceStep.aside (entities : next.sourced = db.sourced)
    (executions : next.modelExecutions = db.modelExecutions)
    (participants : next.participants = db.participants) : db.SourceStep action next :=
  .quiet entities (.same executions) (.same participants)

variable {old new : ModelExecution}

theorem SourceStep.moves {executionId : JsString}
    (stored : db.modelExecutions.get executionId = some old) (step : ExecutionStep old new)
    (before : old.state ≠ .committed) (after : new.state ≠ .committed)
    (entities : next.sourced = db.sourced)
    (rows : next.modelExecutions = db.modelExecutions.put new)
    (participants : next.participants = db.participants) : db.SourceStep action next :=
  .quiet entities (.moved stored step before after rows) (.same participants)

variable {now : JsString}

theorem SourceStep.abort {round aborted : DiscussionRound} {room : DiscussionRoom} :
    db.SourceStep action (((db.afterInterrupt round now).putRound aborted).putRoom room) := by
  rw [afterInterrupt]
  split
  · rename_i live found
    simp only [liveExecution, Option.filter_eq_some_iff, Option.bind_eq_some_iff] at found
    obtain ⟨⟨executionId, -, stored⟩, running⟩ := found
    have step : ExecutionStep live (interruptedByAbort live now) :=
      ⟨rfl, rfl, rfl, rfl, rfl, rfl, .inl running⟩
    have after : (interruptedByAbort live now).state ≠ .committed := by simp [interruptedByAbort]
    exact .moves stored step (not_committed_of_live running) after rfl rfl rfl
  · exact .aside rfl rfl rfl

section Commits

variable {input : CommitInput} {stamp : Stamp} {outcome : CommitOutcome}

omit [Digest] in
theorem sourced_putMessage {message : DiscussionMessage} {entity : SourcedEntity}
    (absent : db.messages.get message.id = none) (sourced : message.sourced = some entity)
    (other : SourcedEntity)
    (messages : next.messages = db.messages.put message)
    (summaries : next.summaries = db.summaries) (reports : next.reports = db.reports) :
    other ∈ next.sourced ↔ other = entity ∨ other ∈ db.sourced := by
  simp only [Database.sourced, messages, summaries, reports, rows_put absent, mem_append,
    filterMap_append, filterMap_cons, sourced, filterMap_nil, mem_singleton]
  tauto

omit [Digest] in
theorem sourced_putSummary {summary : DiscussionSummary}
    (absent : db.summaries.get summary.id = none) (other : SourcedEntity)
    (messages : next.messages = db.messages)
    (summaries : next.summaries = db.summaries.put summary) (reports : next.reports = db.reports) :
    other ∈ next.sourced ↔ other = summary.sourced ∨ other ∈ db.sourced := by
  simp only [Database.sourced, messages, summaries, reports, rows_put absent, mem_append,
    map_append, map_cons, map_nil, mem_singleton]
  tauto

variable {report : DecisionReport}

omit [Digest] in
theorem sourced_putReport
    (absent : db.reports.get report.id = none) (other : SourcedEntity)
    (messages : next.messages = db.messages) (summaries : next.summaries = db.summaries)
    (reports : next.reports = db.reports.put report) :
    other ∈ next.sourced ↔ other = report.sourced ∨ other ∈ db.sourced := by
  simp only [Database.sourced, messages, summaries, reports, rows_put absent, mem_append,
    map_append, map_cons, map_nil, mem_singleton]
  tauto

variable {context : CommitContext} {round : DiscussionRound}

theorem Commits.message {kind : ResultKind} {phase : RoundPhase}
    (commits : db.Commits input stamp kind phase context)
    (type : kind.entityType = .message)
    (absent : db.messages.get (participantMessage context input stamp).id = none) :
    db.Commission context.execution input
      ⟨.message, stamp.uuid, context.execution.executionId, context.room.id, input.content⟩
      stamp.now
      (commitRows { db with messages := db.messages.put (participantMessage context input stamp) }
        context input .message stamp round) where
  stored := by
    rw [commits.loaded.executionId]
    exact commits.loaded.execution
  uncommitted := not_committed_of_live commits.committable.live
  kind := by rw [commits.committable.1, type]
  source := rfl
  place := .inr ⟨_, commits.loaded.round, (get_mem commits.loaded.authorised.found).2⟩
  content := rfl
  executions := rfl
  entities other := sourced_putMessage absent rfl other rfl rfl rfl

theorem Commits.summary {phase : RoundPhase}
    {room : DiscussionRoom} (commits : db.Commits input stamp .summary phase context)
    (absent : db.summaries.get (newSummary context input stamp).id = none) :
    db.Commission context.execution input
      ⟨.summary, stamp.uuid, context.execution.executionId, context.room.id, input.content⟩
      stamp.now
      ((commitRows { db with summaries := db.summaries.put (newSummary context input stamp) }
        context input .summary stamp round).putRoom room) where
  stored := by
    rw [commits.loaded.executionId]
    exact commits.loaded.execution
  uncommitted := not_committed_of_live commits.committable.live
  kind := by
    rw [commits.committable.1]
    rfl
  source := rfl
  place := .inr ⟨_, commits.loaded.round, (get_mem commits.loaded.authorised.found).2⟩
  content := rfl
  executions := rfl
  entities other := sourced_putSummary absent other rfl rfl rfl

theorem commission_report {old : ModelExecution}
    {room concluded : DiscussionRoom} (found : db.modelExecutions.get input.executionId = some old)
    (authorised : db.Authorised old.roomId input.token room)
    (committable : Committable old .report)
    (made : createDecisionReport room.id input.content old.executionId stamp = .ok report)
    (absent : db.reports.get report.id = none) :
    db.Commission old input report.sourced stamp.now
      (({ db with reports := db.reports.put report }.putExecution
        (committedExecution old input .report report.id stamp.now)).putRoom concluded) := by
  have own : room.id = old.roomId := (get_mem authorised.found).2
  have name : old.executionId = input.executionId := (get_mem found).2
  simp only [createDecisionReport, except_bind_ok, require_ok, exists_const, ok_pure] at made
  obtain ⟨-, -, -, rfl⟩ := made
  refine ⟨name ▸ found, not_committed_of_live committable.live, ?_, rfl, .inl own, rfl, rfl,
    fun other => sourced_putReport absent other rfl rfl rfl⟩
  rw [committable.1]
  rfl

end Commits

omit [Digest] in
theorem ReportAborts.round {room idle : DiscussionRoom} {aborted : Database}
    {round : DiscussionRound} {roundId now : JsString}
    (aborts : db.ReportAborts room now aborted idle)
    (stored : aborted.rounds.get roundId = some round) :
    ∃ old, db.rounds.get roundId = some old ∧ old.roomId = round.roomId := by
  cases aborts with
  | idle | gone | ended => exact ⟨round, stored, rfl⟩
  | @aborted activeId active points found free going =>
    simp only [putRound, get_put] at stored
    split at stored
    · rename_i same
      cases stored
      refine ⟨active, ?_, rfl⟩
      rw [same]
      exact get_of_mem (get_mem found).1
    · exact ⟨round, stored, rfl⟩

theorem Writes.sources (writes : db.Writes action next) : db.SourceStep action next := by
  cases writes with
  | aside _ _ joined =>
    refine .quiet rfl (.same rfl) fun participant member => ?_
    rcases joined with rfl | ⟨joining, -, absent, rfl⟩
    · exact member
    · rw [rows_put absent]
      exact mem_append_left _ member
  | createRoom | room | updateRoomSharedConfig | renameRoom | createRound | round
  | skipParticipant => exact .aside rfl rfl rfl
  | @appendUserMessage _ _ _ _ _ _ _ message authorised stored own said absent =>
    -- A user message names no execution.
    have unsourced : message.sourced = none := by rw [said]; rfl
    refine .aside ?_ rfl rfl
    simp only [sourced, bumpRoomContext, putRoom, rows_put absent, filterMap_append,
      filterMap_cons, unsourced, filterMap_nil, append_nil]
  | abortRound => exact .abort
  | beginExecution made admitted turn absent =>
    subst made
    obtain ⟨participant, speaker, -⟩ := (Option.any_eq_true _ _).mp admitted.participant
    exact .quiet rfl (.begun rfl rfl absent admitted.stored admitted.authorised.found speaker rfl)
      (.same rfl)
  | beginFocusExecution made admitted unfocused absent =>
    subst made
    obtain ⟨participant, speaker, -⟩ := (Option.any_eq_true _ _).mp admitted.participant
    exact .quiet rfl (.begun rfl rfl absent admitted.stored admitted.authorised.found speaker rfl)
      (.same rfl)
  | @beginReportExecution input _ now _ room _ aborted made kind authorised opened aborts quiet absent
      anchor anchored own led speaker =>
      subst made
      obtain ⟨participant, speaker, -⟩ := (Option.any_eq_true _ _).mp speaker
      obtain ⟨round, stored, inRoom⟩ := aborts.round anchored
      have key : room.id = (createModelExecution input now).roomId :=
        (get_mem authorised.found).2
      have found : db.rooms.get round.roomId = some room := by
        rw [inRoom, own, key]
        exact authorised.found
      have tables : aborted.sourced = db.sourced ∧ aborted.participants = db.participants := by
        cases aborts <;> exact ⟨rfl, rfl⟩
      have rows : aborted.modelExecutions.put (createModelExecution input now) =
          db.modelExecutions.put (createModelExecution input now) := by rw [aborts.executions]
      exact .quiet tables.1 (.begun rfl rfl absent stored found speaker rows) (.same tables.2)
  | execution stored step moves =>
    rcases moves with ⟨live, uncommitted⟩ | acked
    · exact .moves stored step (not_committed_of_live live) uncommitted rfl rfl rfl
    · exact .quiet rfl (.acked stored acked rfl) (.same rfl)
  | release found step stored points releases live ended uncommitted =>
    exact .moves found step (not_committed_of_live live) uncommitted rfl rfl rfl
  | commitModelMessage commits focused absent | commitFocusMessage commits unfocused absent =>
    exact .committed (Commits.message commits rfl absent) (.same rfl)
  | commitSummary commits first absent =>
    exact .committed (Commits.summary commits absent) (.same rfl)
  | commitReport found authorised committable first opened made absent =>
    exact .committed (commission_report found authorised committable made absent) (.same rfl)
  | deleteRoom => exact .deleted rfl

theorem roomStep_sources (stepped : db.roomStep action = some next) : db.SourceStep action next :=
  (roomStep_writes stepped).sources

/-- The rows an execution belongs to are there, in one room. -/
structure Seated (db : Database) (execution : ModelExecution) : Prop where
  round : ∃ round, db.rounds.get execution.roundId = some round ∧
    round.roomId = execution.roomId
  room : ∃ room, db.rooms.get execution.roomId = some room
  participant : ∃ participant, db.participants.get execution.participantId = some participant ∧
    participant.roomId = execution.roomId

structure CommittedAs (execution : ModelExecution) (entity : SourcedEntity) : Prop where
  state : execution.state = .committed
  kind : entity.entityType = execution.resultKind.entityType
  id : execution.committedEntityId = some entity.id
  source : entity.sourceExecutionId = execution.executionId
  room : entity.roomId = execution.roomId
  digest : execution.contentDigest = some (contentDigestOf entity.content)
  final : ∃ finalEventSeq, execution.finalEventSeq = some finalEventSeq

structure Sourced (db : Database) : Prop where
  seated : ∀ execution ∈ db.modelExecutions.rows, db.Seated execution
  entities : ∀ entity ∈ db.sourced, ∃ execution ∈ db.modelExecutions.rows, CommittedAs execution entity
  executions : ∀ execution ∈ db.modelExecutions.rows, execution.state = .committed →
    ∃ entity ∈ db.sourced, CommittedAs execution entity

/-- The rows of rooms, rounds and participants are there after a step, or the step
deleted a room. -/
structure SeatsKept (db next : Database) : Prop where
  rounds : ∀ {roundId : JsString} {round : DiscussionRound},
    db.rounds.get roundId = some round →
      ∃ kept, next.rounds.get roundId = some kept ∧ kept.roomId = round.roomId
  rooms : ∀ {roomId : JsString} {room : DiscussionRoom},
    db.rooms.get roomId = some room → ∃ kept, next.rooms.get roomId = some kept
  participants : db.ParticipantsJoin next

variable {execution : ModelExecution}

section

omit [Digest]

theorem SeatsKept.seated (kept : db.SeatsKept next)
    (seated : db.Seated execution) (roomId : new.roomId = execution.roomId)
    (roundId : new.roundId = execution.roundId)
    (participantId : new.participantId = execution.participantId) : next.Seated new := by
  obtain ⟨⟨round, inRound, own⟩, ⟨room, inRoom⟩, ⟨participant, speaker, seat⟩⟩ := seated
  obtain ⟨again, stored, same⟩ := kept.rounds inRound
  refine ⟨⟨again, ?_, ?_⟩, ?_, ⟨participant, ?_, ?_⟩⟩
  · rw [roundId, stored]
  · rw [same, own, roomId]
  · rw [roomId]
    exact kept.rooms inRoom
  · obtain ⟨member, key⟩ := get_mem speaker
    rw [participantId, ← key]
    exact get_of_mem (kept.participants participant member)
  · rw [seat, roomId]

theorem RoundsStep.keeps {round : DiscussionRound} {roundId : JsString}
    (step : db.RoundsStep action next) (found : db.rounds.get roundId = some round) :
    (∃ kept, next.rounds.get roundId = some kept ∧ kept.roomId = round.roomId) ∨
      ∃ roomId, next = db.withoutRoom roomId := by
  cases step with
  | same rounds => exact .inl ⟨round, rounds ▸ found, rfl⟩
  | fresh made inRoom opened row absent rounds =>
    refine .inl ⟨round, ?_, rfl⟩
    rw [rounds, get_put_other, found]
    intro same
    rw [same, absent] at found
    contradiction
  | @changed changedId old new stored write rounds =>
    have keeps := write.keeps
    have key : old.id = changedId := (get_mem stored).2
    left
    rw [rounds, get_put]
    split
    · rename_i same
      rw [same, keeps.1, key, stored] at found
      cases found
      exact ⟨new, rfl, keeps.2⟩
    · exact ⟨round, found, rfl⟩
  | deleted gone => exact .inr ⟨_, gone⟩

theorem RoomsStep.keeps {room : DiscussionRoom} {roomId : JsString}
    (step : db.RoomsStep action next) (found : db.rooms.get roomId = some room) :
    (∃ kept, next.rooms.get roomId = some kept) ∨ ∃ roomId, next = db.withoutRoom roomId := by
  have put (new : DiscussionRoom) : ∃ kept, (db.rooms.put new).get roomId = some kept := by
    rw [get_put]
    split
    · exact ⟨new, rfl⟩
    · exact ⟨room, found⟩
  cases step with
  | same rooms => exact .inl ⟨room, rooms ▸ found⟩
  | created made key opened absent rooms =>
    rw [rooms]
    exact .inl (put _)
  | changed stored rooms =>
    rw [rooms]
    exact .inl (put _)
  | deleted gone => exact .inr ⟨_, gone⟩

end

theorem Writes.seats (writes : db.Writes action next) (joins : db.ParticipantsJoin next) :
    db.SeatsKept next ∨ ∃ roomId, next = db.withoutRoom roomId := by
  by_cases deleted : ∃ roomId, next = db.withoutRoom roomId
  · exact .inr deleted
  · left
    refine ⟨fun {roundId round} found => ?_, fun {roomId room} found => ?_, joins⟩
    · exact (writes.rounds_step.keeps found).resolve_right deleted
    · exact (writes.rooms_step.keeps found).resolve_right deleted

theorem Sourced.empty : Database.empty.Sourced where
  seated execution member := by cases member
  entities entity member := by cases member
  executions execution member := by cases member

theorem Acked.committedAs (acked : Acked old new)
    (entity : SourcedEntity) : CommittedAs new entity ↔ CommittedAs old entity := by
  obtain ⟨ackState, updatedAt, rfl⟩ := acked
  constructor
  · intro committed
    obtain ⟨state, kind, id, source, room, digest, final⟩ := committed
    exact ⟨state, kind, id, source, room, digest, final⟩
  · intro committed
    obtain ⟨state, kind, id, source, room, digest, final⟩ := committed
    exact ⟨state, kind, id, source, room, digest, final⟩

theorem Sourced.put {executionId : JsString} (sourced : db.Sourced)
    (kept : db.SeatsKept next) (entities : next.sourced = db.sourced)
    (stored : db.modelExecutions.get executionId = some old)
    (rows : next.modelExecutions = db.modelExecutions.put new) (step : ExecutionStep old new)
    (committed : ∀ entity, CommittedAs new entity ↔ CommittedAs old entity)
    (state : new.state = .committed → old.state = .committed) : next.Sourced := by
  have member : old ∈ db.modelExecutions.rows := (get_mem stored).1
  have here : new ∈ next.modelExecutions.rows := by
    rw [rows]
    exact mem_put.mpr (.inl rfl)
  constructor
  · intro execution listed
    rw [rows] at listed
    rcases mem_put.mp listed with rfl | ⟨before, -⟩
    · exact kept.seated (sourced.seated old member) step.roomId step.roundId step.participantId
    · exact kept.seated (sourced.seated execution before) rfl rfl rfl
  · intro entity listed
    rw [entities] at listed
    obtain ⟨execution, before, names⟩ := sourced.entities entity listed
    by_cases same : execution.executionId = old.executionId
    · obtain rfl := eq_of_key before member same
      exact ⟨new, here, (committed entity).mpr names⟩
    · refine ⟨execution, ?_, names⟩
      rw [rows]
      exact mem_put.mpr (.inr ⟨before, fun key => same (key.trans step.executionId)⟩)
  · intro execution listed done
    rw [rows] at listed
    rw [entities]
    rcases mem_put.mp listed with rfl | ⟨before, -⟩
    · obtain ⟨entity, known, names⟩ := sourced.executions old member (state done)
      exact ⟨entity, known, (committed entity).mpr names⟩
    · exact sourced.executions execution before done

theorem Sourced.quiet (sourced : db.Sourced) (called : db.BeginsInRoom action)
    (kept : db.SeatsKept next) (entities : next.sourced = db.sourced)
    (moves : db.ExecutionsMove action next) : next.Sourced := by
  cases moves with
  | same rows =>
    refine ⟨?_, ?_, ?_⟩
    · rw [rows]
      exact fun execution member =>
        kept.seated (sourced.seated execution member) rfl rfl rfl
    · rw [entities, rows]
      exact sourced.entities
    · rw [entities, rows]
      exact sourced.executions
  | @begun discussion input now round room participant made begins absent inRound inRoom speaker
      rows =>
      rw [made] at called
      obtain ⟨own, seat⟩ := called input begins
      rw [own round inRound] at inRoom
      have fresh : db.Seated (createModelExecution input now) :=
        ⟨⟨round, inRound, own round inRound⟩, ⟨room, inRoom⟩,
          ⟨participant, speaker, seat participant speaker⟩⟩
      have listed (execution : ModelExecution) : execution ∈ next.modelExecutions.rows ↔
          execution ∈ db.modelExecutions.rows ∨ execution = createModelExecution input now := by
        rw [rows, rows_put absent, mem_append, mem_singleton]
      refine ⟨fun execution member => ?_, fun entity member => ?_, fun execution member done => ?_⟩
      · rcases (listed execution).mp member with before | rfl
        · exact kept.seated (sourced.seated execution before) rfl rfl rfl
        · exact kept.seated fresh rfl rfl rfl
      · rw [entities] at member
        obtain ⟨execution, before, names⟩ := sourced.entities entity member
        exact ⟨execution, (listed execution).mpr (.inl before), names⟩
      · rw [entities]
        rcases (listed execution).mp member with before | rfl
        · exact sourced.executions execution before done
        · contradiction
  | moved stored step before after rows =>
    refine sourced.put kept entities stored rows step (fun entity => ?_) (fun done => absurd done after)
    exact ⟨fun names => absurd names.state after, fun names => absurd names.state before⟩
  | @acked executionId old new stored acked rows =>
    have step : ExecutionStep old new := by
      obtain ⟨ackState, updatedAt, rfl⟩ := acked
      exact ⟨rfl, rfl, rfl, rfl, rfl, rfl, .inr rfl⟩
    refine sourced.put kept entities stored rows step acked.committedAs fun done => ?_
    obtain ⟨ackState, updatedAt, rfl⟩ := acked
    exact done

variable {entity : SourcedEntity}

theorem Sourced.commit {input : CommitInput} (sourced : db.Sourced) (kept : db.SeatsKept next)
    (commits : db.Commission old input entity now next) : next.Sourced := by
  have member : old ∈ db.modelExecutions.rows := (get_mem commits.stored).1
  have seated := sourced.seated old member
  have own : entity.roomId = old.roomId := by
    rcases commits.place with same | ⟨round, stored, same⟩
    · exact same
    · obtain ⟨⟨other, again, room⟩, -, -⟩ := seated
      obtain rfl := Option.some.inj (again.symm.trans stored)
      exact same.trans room
  have named : CommittedAs (committedExecution old input entity.entityType entity.id now) entity :=
    ⟨rfl, commits.kind, rfl, commits.source, own, by rw [commits.content]; rfl, ⟨_, rfl⟩⟩
  have listed (execution : ModelExecution) : execution ∈ next.modelExecutions.rows ↔
      execution = committedExecution old input entity.entityType entity.id now ∨
        execution ∈ db.modelExecutions.rows ∧ execution.executionId ≠ old.executionId := by
    rw [commits.executions]
    exact mem_put
  refine ⟨fun execution row => ?_, fun other row => ?_, fun execution row done => ?_⟩
  · rcases (listed execution).mp row with rfl | ⟨before, -⟩
    · exact kept.seated seated rfl rfl rfl
    · exact kept.seated (sourced.seated execution before) rfl rfl rfl
  · rcases (commits.entities other).mp row with rfl | before
    · exact ⟨_, (listed _).mpr (.inl rfl), named⟩
    · obtain ⟨execution, stored, names⟩ := sourced.entities other before
      refine ⟨execution, (listed execution).mpr (.inr ⟨stored, fun same => ?_⟩), names⟩
      rw [eq_of_key stored member same] at names
      exact commits.uncommitted names.state
  · rcases (listed execution).mp row with rfl | ⟨before, -⟩
    · exact ⟨entity, (commits.entities entity).mpr (.inl rfl), named⟩
    · obtain ⟨other, known, names⟩ := sourced.executions execution before done
      exact ⟨other, (commits.entities other).mpr (.inr known), names⟩

omit [Digest] in
theorem mem_sourced : entity ∈ db.sourced ↔
    (∃ message ∈ db.messages.rows, message.sourced = some entity) ∨
      (∃ summary ∈ db.summaries.rows, summary.sourced = entity) ∨
        ∃ report ∈ db.reports.rows, report.sourced = entity := by
  simp only [sourced, mem_append, mem_filterMap, mem_map, or_assoc]

variable {message : DiscussionMessage}

omit [Digest] in
theorem sourced_room
    (sourced : message.sourced = some entity) : entity.roomId = message.roomId := by
  simp only [DiscussionMessage.sourced, Option.map_eq_some_iff] at sourced
  obtain ⟨source, -, rfl⟩ := sourced
  rfl

omit [Digest] in
theorem mem_sourced_withoutRoom {roomId : JsString} :
    entity ∈ (db.withoutRoom roomId).sourced ↔ entity ∈ db.sourced ∧ entity.roomId ≠ roomId := by
  simp only [mem_sourced, withoutRoom, mem_filter, decide_eq_true_eq]
  constructor
  · intro listed
    rcases listed with ⟨message, ⟨member, elsewhere⟩, sourced⟩ | ⟨summary, ⟨member, elsewhere⟩, rfl⟩ |
      ⟨report, ⟨member, elsewhere⟩, rfl⟩
    · exact ⟨.inl ⟨message, member, sourced⟩, sourced_room sourced ▸ elsewhere⟩
    · exact ⟨.inr (.inl ⟨summary, member, rfl⟩), elsewhere⟩
    · exact ⟨.inr (.inr ⟨report, member, rfl⟩), elsewhere⟩
  · intro listed
    obtain ⟨⟨message, member, sourced⟩ | ⟨summary, member, rfl⟩ | ⟨report, member, rfl⟩,
      elsewhere⟩ := listed
    · exact .inl ⟨message, ⟨member, sourced_room sourced ▸ elsewhere⟩, sourced⟩
    · exact .inr (.inl ⟨summary, ⟨member, elsewhere⟩, rfl⟩)
    · exact .inr (.inr ⟨report, ⟨member, elsewhere⟩, rfl⟩)

theorem Sourced.withoutRoom (sourced : db.Sourced) (roomId : JsString) :
    (db.withoutRoom roomId).Sourced := by
  have kept (execution : ModelExecution) :
      execution ∈ (db.withoutRoom roomId).modelExecutions.rows ↔
        execution ∈ db.modelExecutions.rows ∧ execution.roomId ≠ roomId := by
    simp only [Database.withoutRoom, mem_filter, decide_eq_true_eq]
  refine ⟨fun execution member => ?_, fun entity member => ?_, fun execution member done => ?_⟩
  · obtain ⟨before, elsewhere⟩ := (kept execution).mp member
    obtain ⟨⟨round, inRound, own⟩, ⟨room, inRoom⟩, ⟨participant, speaker, seat⟩⟩ :=
      sourced.seated execution before
    have key : room.id = execution.roomId := (get_mem inRoom).2
    refine ⟨⟨round, ?_, own⟩, ⟨room, ?_⟩, ⟨participant, ?_, seat⟩⟩ <;>
      simp only [Database.withoutRoom, get_filter, Option.filter_eq_some_iff,
        decide_eq_true_eq]
    · exact ⟨inRound, own ▸ elsewhere⟩
    · exact ⟨inRoom, key ▸ elsewhere⟩
    · exact ⟨speaker, seat ▸ elsewhere⟩
  · obtain ⟨before, elsewhere⟩ := mem_sourced_withoutRoom.mp member
    obtain ⟨execution, stored, names⟩ := sourced.entities entity before
    exact ⟨execution, (kept execution).mpr ⟨stored, names.room ▸ elsewhere⟩, names⟩
  · obtain ⟨before, elsewhere⟩ := (kept execution).mp member
    obtain ⟨entity, known, names⟩ := sourced.executions execution before done
    exact ⟨entity, mem_sourced_withoutRoom.mpr ⟨known, names.room ▸ elsewhere⟩, names⟩

theorem Sourced.step (sourced : db.Sourced) (called : db.BeginsInRoom action)
    (stepped : db.roomStep action = some next) : next.Sourced := by
  have writes := roomStep_writes stepped
  cases roomStep_sources stepped with
  | quiet entities executions participants =>
    obtain kept | ⟨roomId, rfl⟩ := writes.seats participants
    · exact sourced.quiet called kept entities executions
    · exact sourced.withoutRoom roomId
  | committed commits participants =>
    obtain kept | ⟨roomId, rfl⟩ := writes.seats participants
    · exact sourced.commit kept commits
    · exact sourced.withoutRoom roomId
  | deleted gone =>
    rw [gone]
    exact sourced.withoutRoom _

omit [Digest] in
theorem sourced_message (sourced : message.sourced = some entity) :
    entity.entityType = .message ∧ entity.id = message.id := by
  simp only [DiscussionMessage.sourced, Option.map_eq_some_iff] at sourced
  obtain ⟨source, -, rfl⟩ := sourced
  exact ⟨rfl, rfl⟩

omit [Digest] in
theorem sourced_apart : db.sourced.Pairwise fun entity other =>
    entity.entityType = other.entityType → entity.id ≠ other.id := by
  have messages := pairwise_map.mp db.messages.unique
  have summaries := pairwise_map.mp db.summaries.unique
  have reports := pairwise_map.mp db.reports.unique
  have said {entity : SourcedEntity}
      (member : entity ∈ db.messages.rows.filterMap (·.sourced)) :
      entity.entityType = .message := by
    obtain ⟨message, -, sourced⟩ := mem_filterMap.mp member
    exact (sourced_message sourced).1
  have summed {entity : SourcedEntity} (member : entity ∈ db.summaries.rows.map (·.sourced)) :
      entity.entityType = .summary := by
    obtain ⟨summary, -, rfl⟩ := mem_map.mp member
    rfl
  have reported {entity : SourcedEntity} (member : entity ∈ db.reports.rows.map (·.sourced)) :
      entity.entityType = .report := by
    obtain ⟨report, -, rfl⟩ := mem_map.mp member
    rfl
  refine pairwise_append.mpr ⟨pairwise_append.mpr ⟨?_, ?_, ?_⟩, ?_, ?_⟩
  · refine pairwise_filterMap.mpr (messages.imp ?_)
    intro message other apart entity named otherEntity otherNamed _
    rw [(sourced_message named).2, (sourced_message otherNamed).2]
    exact apart
  · refine pairwise_map.mpr (summaries.imp ?_)
    intro entity other apart _
    exact apart
  · intro entity member other otherMember same
    rw [said member, summed otherMember] at same
    contradiction
  · refine pairwise_map.mpr (reports.imp ?_)
    intro entity other apart _
    exact apart
  · intro entity member other otherMember same
    rw [reported otherMember] at same
    rcases mem_append.mp member with message | summary
    · rw [said message] at same
      contradiction
    · rw [summed summary] at same
      contradiction

theorem CommittedAs.unique {other : SourcedEntity}
    (first : CommittedAs execution entity) (second : CommittedAs execution other) :
    entity.entityType = other.entityType ∧ entity.id = other.id :=
  ⟨first.kind.trans second.kind.symm, Option.some.inj (first.id.symm.trans second.id)⟩

theorem Sourced.unique (sourced : db.Sourced) (executionId : JsString) :
    (db.sourced.filter (·.sourceExecutionId = executionId)).length ≤ 1 := by
  refine length_le_one_of_apart (sourced_apart.sublist filter_sublist)
    fun entity member other otherMember apart => ?_
  simp only [List.mem_filter, decide_eq_true_eq] at member otherMember
  obtain ⟨execution, stored, names⟩ := sourced.entities entity member.1
  obtain ⟨second, otherStored, otherNames⟩ := sourced.entities other otherMember.1
  have same : execution.executionId = second.executionId := by
    rw [← names.source, ← otherNames.source, member.2, otherMember.2]
  obtain rfl := eq_of_key stored otherStored same
  obtain ⟨kind, id⟩ := names.unique otherNames
  exact apart kind id

/-- What `contentDigestOf` hashes. -/
def contentText (content : JsString) : JsString :=
  js "\x7b" ++ (quote (js "content") ++ (js ":" ++ (quote content ++
    (js "," ++ (quote (js "digestVersion") ++ (js ":" ++ (decimal 1 ++ js "\x7d")))))))

omit [Digest] in
theorem contentText_injective {content other : JsString}
    (same : contentText content = contentText other) : content = other := by
  have keys := (quote_append_inj (append_cancel_left same)).2
  exact (quote_append_inj (append_cancel_left keys)).1

theorem contentDigestOf_eq (content : JsString) :
    contentDigestOf content = Digest.sha256 (contentText content) := by
  have order : (js "content").Before (js "digestVersion") ∧
      ¬ (js "digestVersion").Before (js "content") := by decide
  simp [contentDigestOf, digestOf, canonicalJson, serialize, serializeMembers,
    MAX_DEPTH, KeyOrder, order, JsString.join, contentText]

variable {execution : ModelExecution} {input : CommitInput} {stamp : Stamp} {kind : ResultKind}

instance (execution : ModelExecution) (kind : ResultKind) (content : JsString)
    (finalEventSeq : Nat) : Decidable (ReplayMatches execution kind content finalEventSeq) :=
  inferInstanceAs (Decidable (_ ∧ _))

def replayConflict : TransactionError :=
  fault .IDEMPOTENCY_CONFLICT (js "same executionId replayed with different facts")

section

variable (seated : db.Seated execution)
  (stored : db.modelExecutions.get input.executionId = some execution)

include seated stored

theorem Seated.commits_again (committed : execution.state = .committed)
    (controls : db.Controls execution.roomId input.token) : db.commitOfKind kind input stamp =
      if ReplayMatches execution kind input.content input.finalEventSeq then
        .ok (db, .replayed execution.committedEntityId)
      else .error replayConflict := by
  obtain ⟨⟨round, inRound, own⟩, ⟨room, inRoom⟩, ⟨participant, speaker, -⟩⟩ := seated
  have replay : replayOrThrow execution kind input.content input.finalEventSeq =
      if ReplayMatches execution kind input.content input.finalEventSeq then
        .ok (.replayed execution.committedEntityId)
      else .error replayConflict := by
    by_cases facts : ReplayMatches execution kind input.content input.finalEventSeq
    all_goals
      simp only [facts, if_true, if_false]
      simp only [ReplayMatches] at facts
      simp only [replayOrThrow, require, facts, and_self, if_true, if_false, bind, Except.bind,
        pure, Except.pure, replayConflict]
  have found := getExecution_ok.mpr stored
  have places := requireRoom_ok.mpr inRoom
  have speaks := getParticipant_ok.mpr speaker
  have authorises : db.requireController execution.roomId input.token = .ok () :=
    requireController_ok.mpr controls
  rw [← own] at inRoom controls
  have loaded : db.loadCommitContext input.executionId input.token =
      .ok ⟨execution, round, room, participant⟩ :=
    loadCommitContext_eq ⟨stored, inRound, ⟨inRoom, controls⟩, speaker⟩
  by_cases facts : ReplayMatches execution kind input.content input.finalEventSeq
  all_goals
    simp only [facts, if_true, if_false] at replay ⊢
    cases kind <;>
      simp [commitOfKind, commitModelMessage, commitFocusMessage, commitSummary, commitReport,
        withConflictTranslation, loaded, found, places, speaks, authorises, committed, replay,
        replayConflict, fault, bind, Except.bind, pure, Except.pure]

theorem Seated.commit_controls {outcome : CommitOutcome}
    (ended : db.commitOfKind kind input stamp = .ok (next, outcome)) :
    db.Controls execution.roomId input.token := by
  obtain ⟨⟨round, inRound, own⟩, -, -⟩ := seated
  have loads {context : CommitContext} (loaded : db.CommitLoaded input.executionId input.token context) :
      db.Controls execution.roomId input.token := by
    obtain rfl := Option.some.inj (loaded.execution.symm.trans stored)
    obtain rfl := Option.some.inj (loaded.round.symm.trans inRound)
    rw [← own]
    exact loaded.authorised.controls
  cases kind with
  | message =>
    obtain ⟨context, loaded, -⟩ := commitModelMessage_ok ended
    exact loads loaded
  | focus =>
    obtain ⟨context, loaded, -⟩ := commitFocusMessage_ok ended
    exact loads loaded
  | summary =>
    obtain ⟨context, loaded, -⟩ := commitSummary_ok ended
    exact loads loaded
  | report =>
    obtain ⟨same, room, participant, found, authorised, -⟩ := commitReport_ok ended
    obtain rfl := Option.some.inj (found.symm.trans stored)
    exact authorised.controls

end

omit [Digest] in
theorem Seated.discards_again (seated : db.Seated execution) {input : DiscardInput}
    (stored : db.modelExecutions.get input.executionId = some execution)
    (committed : execution.state = .committed)
    (controls : db.Controls execution.roomId input.token) :
    db.discardExecution input now = .error (fault .IDEMPOTENCY_CONFLICT
      (js "a committed execution cannot become discarded")) := by
  obtain ⟨⟨round, inRound, own⟩, ⟨room, inRoom⟩, ⟨participant, speaker, -⟩⟩ := seated
  rw [← own] at inRoom controls
  have loaded : db.loadCommitContext input.executionId input.token =
      .ok ⟨execution, round, room, participant⟩ :=
    loadCommitContext_eq ⟨stored, inRound, ⟨inRoom, controls⟩, speaker⟩
  simp [discardExecution, loaded, committed, require, bind, Except.bind]

/-- A committed execution stays what it became, whoever calls. -/
structure Idempotent (db : Database) (execution : ModelExecution) (entity : SourcedEntity) :
    Prop where
  replays : ∀ input stamp, input.executionId = execution.executionId →
    db.Controls execution.roomId input.token → input.content = entity.content →
    execution.finalEventSeq = some input.finalEventSeq →
    db.commitOfKind execution.resultKind input stamp = .ok (db, .replayed (some entity.id))
  conflicts : ∀ kind input stamp, input.executionId = execution.executionId →
    db.Controls execution.roomId input.token →
    (Digest.sha256 (contentText input.content) = Digest.sha256 (contentText entity.content) →
      contentText input.content = contentText entity.content) →
    (kind ≠ execution.resultKind ∨ execution.finalEventSeq ≠ some input.finalEventSeq ∨
      input.content ≠ entity.content) →
    db.commitOfKind kind input stamp = .error replayConflict
  discards : ∀ (input : DiscardInput) now, input.executionId = execution.executionId →
    db.Controls execution.roomId input.token →
    db.discardExecution input now = .error (fault .IDEMPOTENCY_CONFLICT
      (js "a committed execution cannot become discarded"))
  fenced : ∀ (input : CommitInput), input.executionId = execution.executionId →
    ¬ db.Controls execution.roomId input.token →
    ∀ kind stamp, ∃ error, db.commitOfKind kind input stamp = .error error
  discardsFenced : ∀ (input : DiscardInput), input.executionId = execution.executionId →
    ¬ db.Controls execution.roomId input.token →
    ∀ now, ∃ error, db.discardExecution input now = .error error

omit [Digest] in
theorem Seated.discard_controls (seated : db.Seated execution) {input : DiscardInput}
    {outcome : DiscardOutcome} (stored : db.modelExecutions.get input.executionId = some execution)
    (ended : db.discardExecution input now = .ok (next, outcome)) :
    db.Controls execution.roomId input.token := by
  obtain ⟨⟨round, inRound, own⟩, -, -⟩ := seated
  obtain ⟨context, loaded, -⟩ := discardExecution_ok ended
  obtain rfl := Option.some.inj (loaded.execution.symm.trans stored)
  obtain rfl := Option.some.inj (loaded.round.symm.trans inRound)
  rw [← own]
  exact loaded.authorised.controls

omit [Digest] in
theorem error_of_not_ok {α : Type} {result : Outcome α} (never : ∀ value, result ≠ .ok value) :
    ∃ error, result = .error error := by
  cases result with
  | error error => exact ⟨error, rfl⟩
  | ok value => exact absurd rfl (never value)

theorem Seated.idempotent (seated : db.Seated execution)
    (stored : db.modelExecutions.get execution.executionId = some execution)
    (committed : execution.state = .committed)
    (named : CommittedAs execution entity) : db.Idempotent execution entity := by
  have at_ {executionId : JsString} (own : executionId = execution.executionId) :
      db.modelExecutions.get executionId = some execution := by rw [own, stored]
  refine ⟨fun input stamp own controls content final => ?_,
    fun kind input stamp own controls apart differs => ?_,
    fun input now own controls => seated.discards_again (at_ own) committed controls,
    fun input own fenced kind stamp => ?_, fun input own fenced now => ?_⟩
  · have facts : ReplayMatches execution execution.resultKind input.content
        input.finalEventSeq := ⟨rfl, final, by rw [named.digest, content]⟩
    rw [seated.commits_again (at_ own) committed controls, if_pos facts, named.id]
  · rw [seated.commits_again (at_ own) committed controls, if_neg]
    intro facts
    obtain ⟨same, final, digest⟩ := facts
    have hashes : Digest.sha256 (contentText entity.content) =
        Digest.sha256 (contentText input.content) := by
      have digests := Option.some.inj (named.digest.symm.trans digest)
      rwa [contentDigestOf_eq, contentDigestOf_eq] at digests
    rcases differs with kinds | finals | contents
    · exact kinds same.symm
    · exact finals final
    · exact contents (contentText_injective (apart hashes.symm))
  · refine error_of_not_ok fun result ended => fenced ?_
    exact seated.commit_controls (at_ own) ended
  · refine error_of_not_ok fun result ended => fenced ?_
    exact seated.discard_controls (at_ own) ended

/-- An execution has one entity at most; once committed, no commit or discard of it
changes anything, and its controller's same commit gives that entity. -/
theorem commits_idempotent {actions : List RoomAction}
    (run : Run Database.roomStep BeginsInRoom .empty actions db) :
    (∀ executionId, (db.sourced.filter (·.sourceExecutionId = executionId)).length ≤ 1) ∧
      ∀ execution ∈ db.modelExecutions.rows, execution.state = .committed →
        ∃ entity ∈ db.sourced, entity.sourceExecutionId = execution.executionId ∧
          db.Idempotent execution entity := by
  have sourced : db.Sourced := run.invariant Sourced.step Sourced.empty
  refine ⟨sourced.unique, fun execution member committed => ?_⟩
  obtain ⟨entity, known, named⟩ := sourced.executions execution member committed
  exact ⟨entity, known, named.source, (sourced.seated execution member).idempotent
    (get_of_mem member) committed named⟩

end Database

def committedActions : List DiscussionAction :=
  dispatchedActions ++ [.commitFocusMessage (reply (js "e1")) (stamp (js "m1"))]

theorem commits_idempotent_focus :
    ∃ db, Run (@Database.roomStep sampleDigest) Database.BeginsInRoom .empty
        (committedActions.map .discussion) db ∧
      ∃ execution ∈ db.modelExecutions.rows, execution.state = .committed ∧
        ∃ entity ∈ db.sourced, @Database.Idempotent sampleDigest db execution entity := by
  have facts : (execute (guarded (@Database.roomStep sampleDigest) Database.BeginsInRoom) .empty
      (committedActions.map .discussion)).map (fun db =>
        db.modelExecutions.rows.any fun execution => execution.state = .committed) =
          some true := by decide +kernel
  obtain ⟨db, ran, some_⟩ := Option.map_eq_some_iff.mp facts
  obtain ⟨execution, member, committed⟩ := any_eq_true.mp some_
  have run := execute_guarded ran
  obtain ⟨entity, known, -, idempotent⟩ :=
    (@Database.commits_idempotent sampleDigest db _ run).2 execution member (of_decide_eq_true committed)
  exact ⟨db, run, execution, member, of_decide_eq_true committed, entity, known, idempotent⟩

def takenActions : List DiscussionAction :=
  committedActions ++ [.takeoverRuntimeBinding (js "binding") ⟨js "other", 2⟩ (js "t")]

def commitAgain (db : Database) : Outcome (Database × CommitOutcome) :=
  @Database.commitFocusMessage db sampleDigest (reply (js "e1")) (stamp (js "m1"))

def errorCode {α : Type} : Outcome α → Option TransactionErrorCode
  | .error error => some error.code
  | .ok _ => none

/-- The same commit of the focus, when another controller has taken the room over. -/
theorem commit_again_after_takeover :
    ∃ db, Run (@Database.roomStep sampleDigest) Database.BeginsInRoom .empty
        (takenActions.map .discussion) db ∧
      (db.modelExecutions.get (js "e1")).any (fun execution => execution.state = .committed ∧
        @Database.ReplayMatches sampleDigest execution .focus (reply (js "e1")).content
          (reply (js "e1")).finalEventSeq) ∧
      errorCode (commitAgain db) = some .STALE_CONTROLLER := by
  have facts : (execute (guarded (@Database.roomStep sampleDigest) Database.BeginsInRoom) .empty
      (takenActions.map .discussion)).map (fun db =>
        ((db.modelExecutions.get (js "e1")).any (fun execution => execution.state = .committed ∧
          @Database.ReplayMatches sampleDigest execution .focus (reply (js "e1")).content
            (reply (js "e1")).finalEventSeq), errorCode (commitAgain db))) =
      some (true, some .STALE_CONTROLLER) := by decide +kernel
  obtain ⟨db, ran, found⟩ := Option.map_eq_some_iff.mp facts
  obtain ⟨row, code⟩ := Prod.mk.inj found
  exact ⟨db, execute_guarded ran, row, code⟩

end CouncilKit.Discussion
