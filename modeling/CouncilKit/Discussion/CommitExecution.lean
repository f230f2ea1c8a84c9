import CouncilKit.Discussion.ControllerFence

namespace CouncilKit.Discussion

open Data Table Option

inductive ModelVerdict where
  | match | mismatch | unknown
deriving DecidableEq

def ModelVerdict.text : ModelVerdict → JsString
  | .match => js "match"
  | .mismatch => js "mismatch"
  | .unknown => js "unknown"

/-- The `dispatchState` of the event is always `accepted`. -/
structure CompletedEvent where
  output : JsString
  effectiveModel : Option JsString
  modelVerdict : ModelVerdict
  toolState : ToolState
  usage : Option ModelExecutionUsage
  finalSeq : Nat

structure CommitPipelineDeps where
  scopeId : JsString
  token : ControllerToken
  currentHostInstanceId : JsString

inductive AckDisposition where
  | committed | discarded
deriving DecidableEq

structure AckRequest where
  scopeId : JsString
  executionId : JsString
  token : ControllerToken
  finalSeq : Nat
  disposition : AckDisposition
deriving DecidableEq

/-- What `client.ack` gives: an ACK state, a 404 or another error. -/
inductive AckAnswer where
  | answered (ackState : AckState)
  | notFound
  | failed

inductive CompletedHandling where
  | committed (entityId : JsString) (roundPhase : RoundPhase)
  | discarded (runtimeOutcome : RuntimeOutcome)
  | replayed (entityId : Option JsString)
deriving DecidableEq

inductive HandlingFailure where
  | unknownExecution (message : JsString)
  | transaction (failure : TransactionError)
deriving DecidableEq

/-- The database after a handling, how it ended, the disposition it settled the
execution with, and the request it sent. -/
structure Handled where
  db : Database
  result : Except HandlingFailure CompletedHandling
  disposition : Option AckDisposition
  ack : Option AckRequest

def structuredError (code message : JsString) : ModelExecutionError where
  code
  phase := js "stream"
  message
  retryable := false

inductive CompletedVerdict where
  | commit
  | discard (outcome : RuntimeOutcome) (error : ModelExecutionError)

def classifyCompleted (execution : ModelExecution) (event : CompletedEvent) : CompletedVerdict :=
  if event.effectiveModel = none ∨ event.modelVerdict ≠ .match then
    .discard .model_mismatch (structuredError (js "MODEL_MISMATCH")
      (js "requested " ++ execution.requestedModel ++ js ", effective " ++
        event.effectiveModel.getD (js "unknown") ++ js ", verdict " ++ event.modelVerdict.text))
  else if event.toolState = .unknown then
    .discard .tool_state_unknown (structuredError (js "TOOL_STATE_UNKNOWN")
      (js "tool activity can no longer be proven; preview dropped"))
  else if event.output.trim = [] then
    .discard .empty_output (structuredError (js "EMPTY_OUTPUT")
      (js "completed with empty normalized output"))
  else .commit

namespace Database

variable (db : Database)

/-- What the Host's answer to an ACK settles; what the `catch` swallows changes
nothing. -/
def settleAnswer (executionId : JsString) (answer : AckAnswer) (now : JsString) : Outcome Database :=
  match answer with
  | .answered .acknowledged => .ok ((db.markAcknowledged executionId now).toOption.getD db)
  | .answered .expired => .ok ((db.markAckExpired executionId now).toOption.getD db)
  | .notFound => db.markAckExpired executionId now
  | .answered .pending | .failed => .ok db

/-- `execution` is the row as it was before its last transaction. -/
def ackAfterPersist (deps : CommitPipelineDeps) (execution : ModelExecution)
    (disposition : AckDisposition) (answer : AckAnswer) (now : JsString) :
    Outcome Database × Option AckRequest :=
  match execution.finalEventSeq with
  | none => (.ok db, none)
  | some finalSeq =>
    if execution.hostInstanceId ≠ some deps.currentHostInstanceId then
      (db.markAckExpired execution.executionId now, none)
    else
      (db.settleAnswer execution.executionId answer now,
        some ⟨deps.scopeId, execution.executionId, deps.token, finalSeq, disposition⟩)

/-- The first transaction of the pipeline, of an execution that still runs. -/
def markCompleted (executionId : JsString) (event : CompletedEvent) (now : JsString) :
    Outcome (Database × ModelExecution) := do
  let current ← db.getExecution executionId
  if current.state = .running then
    let marked ← db.markExecutionSucceededUncommitted executionId event.effectiveModel event.usage
      event.finalSeq .accepted event.toolState now
    let execution ← marked.getExecution executionId
    return (marked, execution)
  else return (db, current)

def completedInput (deps : CommitPipelineDeps) (executionId : JsString) (event : CompletedEvent) :
    CommitInput where
  executionId
  token := deps.token
  content := event.output
  effectiveModel := event.effectiveModel
  usage := event.usage
  finalEventSeq := event.finalSeq
  dispatchState := .accepted
  toolState := event.toolState

section

variable [Digest]

def commitOfKind (kind : ResultKind) (input : CommitInput) (stamp : Stamp) :
    Outcome (Database × CommitOutcome) :=
  match kind with
  | .summary => db.commitSummary input stamp
  | .focus => db.commitFocusMessage input stamp
  | .report => db.commitReport input stamp
  | .message => db.commitModelMessage input stamp

def settleCompleted (deps : CommitPipelineDeps) (execution : ModelExecution)
    (event : CompletedEvent) (stamp : Stamp) :
    Outcome (Database × AckDisposition × CompletedHandling) :=
  match classifyCompleted execution event with
  | .discard outcome error => do
    let (next, discarded) ← db.discardExecution
      ⟨execution.executionId, deps.token, outcome, event.finalSeq, some error⟩ stamp.now
    match discarded with
    | .discarded _ => return (next, .discarded, .discarded outcome)
    | .replayed =>
      return (next, .discarded,
        .replayed (some (execution.committedEntityId.getD execution.executionId)))
  | .commit => do
    let (next, result) ← db.commitOfKind execution.resultKind
      (completedInput deps execution.executionId event) stamp
    match result with
    | .discarded outcome => return (next, .discarded, .discarded outcome)
    | .replayed entityId => return (next, .committed, .replayed entityId)
    | .committed entityId roundPhase =>
      return (next, .committed, .committed entityId roundPhase)

/-- What a handling takes from outside: clocks, a random id and the Host's answer. -/
structure HandlingInput where
  markedAt : JsString
  stamp : Stamp
  answer : AckAnswer
  settledAt : JsString

def handleCompletedExecution (deps : CommitPipelineDeps) (executionId : JsString)
    (event : CompletedEvent) (outside : HandlingInput) : Handled :=
  if (db.modelExecutions.get executionId).isNone then
    ⟨db, .error (.unknownExecution (js "handleCompletedExecution: unknown execution " ++
      executionId)), none, none⟩
  else match db.markCompleted executionId event outside.markedAt with
  | .error failure => ⟨db, .error (.transaction failure), none, none⟩
  | .ok (marked, execution) =>
    match marked.settleCompleted deps execution event outside.stamp with
    | .error failure => ⟨marked, .error (.transaction failure), none, none⟩
    | .ok (next, disposition, handling) =>
      match next.ackAfterPersist deps execution disposition outside.answer
          outside.settledAt with
      | (.error failure, ack) => ⟨next, .error (.transaction failure), some disposition, ack⟩
      | (.ok acked, ack) => ⟨acked, .ok handling, some disposition, ack⟩

end

variable {now : JsString} {execution : ModelExecution} {event : CompletedEvent}

theorem markCompleted_ok {marked : Database} {executionId : JsString} {db : Database}
    (ended : db.markCompleted executionId event now = .ok (marked, execution)) :
    ∃ current, db.modelExecutions.get executionId = some current ∧
      (current.state ≠ .running ∧ marked = db ∧ execution = current ∨
        current.state = .running ∧ marked = db.putExecution execution ∧ execution = { current with
          state := .succeeded_uncommitted
          effectiveModel := event.effectiveModel
          usage := event.usage
          finalEventSeq := some event.finalSeq
          dispatchState := .accepted
          toolState := event.toolState
          updatedAt := now }) := by
  simp only [markCompleted, except_bind_ok, getExecution_ok] at ended
  obtain ⟨current, found, ended⟩ := ended
  refine ⟨current, found, ?_⟩
  have name : current.executionId = executionId := (get_eq_some.mp found).2
  split at ended
  · rename_i running
    simp only [except_bind_ok, getExecution_ok, ok_pure, Prod.mk.injEq] at ended
    obtain ⟨after, marks, row, stored, rfl, rfl⟩ := ended
    obtain ⟨same, again, -, rfl⟩ := markExecutionSucceededUncommitted_ok marks
    obtain rfl := some.inj (again.symm.trans found)
    rw [putExecution, ← name, get_put, if_pos rfl] at stored
    cases stored
    exact .inr ⟨running, rfl, rfl⟩
  · rename_i going
    cases ended
    exact .inl ⟨going, rfl, rfl⟩

/-- The rows a second settlement reads besides the execution. -/
structure PlacesKept (db next : Database) : Prop where
  participants : next.participants = db.participants
  runtimeBindings : next.runtimeBindings = db.runtimeBindings
  rounds : ∀ {roundId : JsString} {round : DiscussionRound},
    db.rounds.get roundId = some round →
      ∃ kept, next.rounds.get roundId = some kept ∧ kept.roomId = round.roomId
  rooms : ∀ {roomId : JsString} {room : DiscussionRoom},
    db.rooms.get roomId = some room → ∃ kept, next.rooms.get roomId = some kept

variable {db next : Database}

theorem PlacesKept.refl : db.PlacesKept db where
  participants := rfl
  runtimeBindings := rfl
  rounds := fun stored => ⟨_, stored, rfl⟩
  rooms := fun stored => ⟨_, stored⟩

theorem PlacesKept.trans {last : Database} (first : db.PlacesKept next)
    (second : next.PlacesKept last) : db.PlacesKept last where
  participants := second.participants.trans first.participants
  runtimeBindings := second.runtimeBindings.trans first.runtimeBindings
  rounds := by
    intro roundId round stored
    obtain ⟨kept, found, same⟩ := first.rounds stored
    obtain ⟨again, refound, still⟩ := second.rounds found
    exact ⟨again, refound, still.trans same⟩
  rooms := by
    intro roomId room stored
    obtain ⟨kept, found⟩ := first.rooms stored
    exact second.rooms found

theorem PlacesKept.putExecution (kept : db.PlacesKept next) : db.PlacesKept (next.putExecution execution) :=
  ⟨kept.participants, kept.runtimeBindings, kept.rounds, kept.rooms⟩

theorem PlacesKept.putRound (kept : db.PlacesKept next) {roundId : JsString}
    {old new : DiscussionRound} (stored : next.rounds.get roundId = some old)
    (id : new.id = old.id) (room : new.roomId = old.roomId) : db.PlacesKept (next.putRound new) where
  participants := kept.participants
  runtimeBindings := kept.runtimeBindings
  rounds := by
    intro other round found
    obtain ⟨row, looked, same⟩ := kept.rounds found
    have name : old.id = roundId := (get_eq_some.mp stored).2
    simp only [Database.putRound, get_put]
    split
    · rename_i own
      rw [own, id, name, stored] at looked
      cases looked
      exact ⟨new, rfl, room.trans same⟩
    · exact ⟨row, looked, same⟩
  rooms := kept.rooms

theorem PlacesKept.putRoom (kept : db.PlacesKept next) {room : DiscussionRoom} :
    db.PlacesKept (next.putRoom room) where
  participants := kept.participants
  runtimeBindings := kept.runtimeBindings
  rounds := kept.rounds
  rooms := by
    intro roomId other found
    simp only [Database.putRoom, get_put]
    split
    · exact ⟨room, rfl⟩
    · exact kept.rooms found

variable {token : ControllerToken}

theorem PlacesKept.controls (kept : db.PlacesKept next) {roomId : JsString}
    : next.Controls roomId token ↔ db.Controls roomId token := by
  simp only [Controls, activeBinding, kept.runtimeBindings]

theorem PlacesKept.authorised (kept : db.PlacesKept next) {roomId : JsString}
    {room : DiscussionRoom} (authorised : db.Authorised roomId token room) :
    ∃ room, next.Authorised roomId token room := by
  obtain ⟨other, found⟩ := kept.rooms authorised.found
  exact ⟨other, found, kept.controls.mpr authorised.controls⟩

variable {context : CommitContext} {row : ModelExecution}

theorem PlacesKept.loaded (kept : db.PlacesKept next) {executionId : JsString}
    (loaded : db.CommitLoaded executionId token context)
    (stored : next.modelExecutions.get executionId = some row)
    (round : row.roundId = context.execution.roundId)
    (participant : row.participantId = context.execution.participantId) :
    ∃ other, next.CommitLoaded executionId token other ∧ other.execution = row := by
  obtain ⟨inRound, found, same⟩ := kept.rounds loaded.round
  obtain ⟨room, authorised⟩ := kept.authorised loaded.authorised
  refine ⟨⟨row, inRound, room, context.participant⟩, ⟨stored, ?_, ?_, ?_⟩, rfl⟩
  · rw [round, found]
  · rw [same]
    exact authorised
  · rw [participant, kept.participants]
    exact loaded.participant

/-- An execution ended as `row`, which stays readable in its places. -/
structure Settles (db : Database) (executionId : JsString) (row : ModelExecution)
    (next : Database) : Prop where
  stored : next.modelExecutions.get executionId = some row
  places : db.PlacesKept next

theorem loadCommitContext_eq {executionId : JsString} (loaded : db.CommitLoaded executionId token context) :
    db.loadCommitContext executionId token = .ok context := by
  have room := requireRoom_ok.mpr loaded.authorised.found
  have controls : db.requireController context.round.roomId token = .ok () :=
    requireController_ok.mpr loaded.authorised.controls
  have participant := getParticipant_ok.mpr loaded.participant
  have execution := getExecution_ok.mpr loaded.execution
  simp [loadCommitContext, execution, loaded.round, room, controls, participant, fetch, bind,
    Except.bind, pure, Except.pure]

theorem CommitLoaded.discards {executionId : JsString} {token : ControllerToken}
    {context : CommitContext} (loaded : db.CommitLoaded executionId token context)
    {outcome : RuntimeOutcome} {finalEventSeq : Nat} {error : Option ModelExecutionError}
    {now : JsString} :
    db.Settles executionId (discardedExecution context.execution outcome finalEventSeq error now)
      (db.discardLockedExecution context.execution context.round outcome finalEventSeq error now) := by
  have name : context.execution.executionId = executionId :=
    (get_eq_some.mp loaded.execution).2
  have stored : (db.putExecution (discardedExecution context.execution outcome finalEventSeq error
      now)).modelExecutions.get executionId =
        some (discardedExecution context.execution outcome finalEventSeq error now) := by
    simp only [putExecution, get_put, discardedExecution, name, if_true]
  rw [discardLockedExecution]
  split
  · refine ⟨stored, PlacesKept.refl.putExecution.putRound loaded.round ?_ ?_⟩
    all_goals
      simp only [releasedRound]
      split <;> rfl
  · exact ⟨stored, PlacesKept.refl.putExecution⟩

theorem CommitLoaded.executionId {executionId : JsString}
    (loaded : db.CommitLoaded executionId token context) :
    context.execution.executionId = executionId := (get_eq_some.mp loaded.execution).2

variable [Digest] {input : CommitInput} {stamp : Stamp}

theorem CommitLoaded.commits {added : Database} {entityType : CommittedEntityType} {round : DiscussionRound}
    (loaded : db.CommitLoaded input.executionId input.token context)
    (kept : db.PlacesKept added) (rounds : added.rounds = db.rounds)
    (id : round.id = context.round.id) (room : round.roomId = context.round.roomId) :
    db.Settles input.executionId
      (committedExecution context.execution input entityType stamp.uuid stamp.now)
      ((commitEntity added context input entityType stamp).putRound round) := by
  constructor
  · simp only [commitEntity, Database.putRound, bumpRoomContext, Database.putRoom,
      Database.putExecution, get_put, committedExecution, loaded.executionId, if_true]
  · have stored : added.rounds.get context.execution.roundId = some context.round := by
      rw [rounds]
      exact loaded.round
    exact PlacesKept.putRound kept.putExecution.putRoom stored id room

/-- The room a commit reads: that of the round, or of the execution for a report. -/
def commitRoom (db : Database) (execution : ModelExecution) : Option DiscussionRoom :=
  if execution.resultKind = .report then db.rooms.get execution.roomId
  else (db.rounds.get execution.roundId).bind fun round => db.rooms.get round.roomId

inductive CommitEnds (db : Database) (input : CommitInput) (stamp : Stamp)
    (execution : ModelExecution) (next : Database) : CommitOutcome → Prop where
  | replayed (committed : execution.state = .committed)
      (facts : ReplayMatches execution execution.resultKind input.content input.finalEventSeq)
      (unchanged : next = db) :
      CommitEnds db input stamp execution next (.replayed execution.committedEntityId)
  | drifted {room : DiscussionRoom} {participant : Participant}
      (committable : Committable execution execution.resultKind)
      (inRoom : db.commitRoom execution = some room)
      (speaker : db.participants.get execution.participantId = some participant)
      (drifted : ContextDrifted execution room participant)
      (settles : db.Settles input.executionId (discardedExecution execution .stale_context
        input.finalEventSeq none stamp.now) next) :
      CommitEnds db input stamp execution next (.discarded .stale_context)
  | committed {room : DiscussionRoom} {participant : Participant} {entityId : JsString}
      {roundPhase : RoundPhase} (entityType : CommittedEntityType)
      (committable : Committable execution execution.resultKind)
      (inRoom : db.commitRoom execution = some room)
      (speaker : db.participants.get execution.participantId = some participant)
      (current : ¬ ContextDrifted execution room participant)
      (settles : db.Settles input.executionId (committedExecution execution input entityType
        entityId stamp.now) next) :
      CommitEnds db input stamp execution next (.committed entityId roundPhase)

omit [Digest] in
theorem CommitLoaded.commitRoom {executionId : JsString}
    (loaded : db.CommitLoaded executionId token context)
    (kind : context.execution.resultKind ≠ .report) :
    db.commitRoom context.execution = some context.room := by
  rw [Database.commitRoom, if_neg kind, loaded.round]
  exact loaded.authorised.found

variable {outcome : CommitOutcome}

theorem Replays.ends {kind : ResultKind}
    (replays : db.Replays execution kind input next outcome) (same : execution.resultKind = kind) :
    db.CommitEnds input stamp execution next outcome := by
  obtain ⟨committed, facts, unchanged, rfl⟩ := replays
  exact .replayed committed (same ▸ facts) unchanged

theorem Drifts.ends {kind : ResultKind} (drifts : db.Drifts context input stamp.now next outcome)
    (loaded : db.CommitLoaded input.executionId input.token context)
    (committable : Committable context.execution kind) (round : kind ≠ .report) :
    db.CommitEnds input stamp context.execution next outcome := by
  obtain ⟨drifted, rfl, rfl⟩ := drifts
  exact .drifted ⟨rfl, committable.2⟩ (loaded.commitRoom (committable.1 ▸ round))
    loaded.participant drifted loaded.discards

theorem commitOfKind_ok (stored : db.modelExecutions.get input.executionId = some execution)
    (ended : db.commitOfKind execution.resultKind input stamp = .ok (next, outcome)) :
    db.CommitEnds input stamp execution next outcome := by
  have tables {added : Database} (participants : added.participants = db.participants)
      (bindings : added.runtimeBindings = db.runtimeBindings) (rounds : added.rounds = db.rounds)
      (rooms : added.rooms = db.rooms) : db.PlacesKept added := by
    refine ⟨participants, bindings, ?_, ?_⟩
    · rw [rounds]
      exact PlacesKept.refl.rounds
    · rw [rooms]
      exact PlacesKept.refl.rooms
  cases kind : execution.resultKind with
  | message =>
    simp only [kind, commitOfKind] at ended
    obtain ⟨context, loaded, ended⟩ := commitModelMessage_ok ended
    obtain rfl := some.inj (loaded.execution.symm.trans stored)
    obtain replays | ⟨committable, -, -, drifts | ⟨current, added, inserted, rfl, rfl⟩⟩ := ended
    · exact replays.ends kind
    · exact drifts.ends loaded committable (by decide)
    · obtain ⟨messages, -, rfl⟩ := addMessage_ok inserted
      exact .committed .message ⟨rfl, committable.2⟩ (loaded.commitRoom (by simp [kind]))
        loaded.participant current (loaded.commits (tables rfl rfl rfl rfl) rfl rfl rfl)
  | focus =>
    simp only [kind, commitOfKind] at ended
    obtain ⟨context, loaded, ended⟩ := commitFocusMessage_ok ended
    obtain rfl := some.inj (loaded.execution.symm.trans stored)
    obtain replays | ⟨committable, -, -, -, drifts | ⟨current, added, inserted, rfl, rfl⟩⟩ := ended
    · exact replays.ends kind
    · exact drifts.ends loaded committable (by decide)
    · obtain ⟨messages, -, rfl⟩ := addMessage_ok inserted
      exact .committed .message ⟨rfl, committable.2⟩ (loaded.commitRoom (by simp [kind]))
        loaded.participant current (loaded.commits (tables rfl rfl rfl rfl) rfl rfl rfl)
  | summary =>
    simp only [kind, commitOfKind] at ended
    obtain ⟨context, loaded, ended⟩ := commitSummary_ok ended
    obtain rfl := some.inj (loaded.execution.symm.trans stored)
    obtain replays | ⟨committable, -, -, drifts | ⟨current, added, inserted, rfl, rfl⟩⟩ := ended
    · exact replays.ends kind
    · exact drifts.ends loaded committable (by decide)
    · obtain ⟨summaries, -, rfl⟩ := addSummary_ok inserted
      have settles : db.Settles input.executionId
          (committedExecution context.execution input .summary stamp.uuid stamp.now)
          ((commitEntity { db with summaries } context input .summary stamp).putRound
            (completedRound context.round stamp.now)) :=
        loaded.commits (tables rfl rfl rfl rfl) rfl rfl rfl
      exact .committed .summary ⟨rfl, committable.2⟩ (loaded.commitRoom (by simp [kind]))
        loaded.participant current ⟨settles.stored, settles.places.putRoom⟩
  | report =>
    simp only [kind, commitOfKind] at ended
    obtain ⟨same, room, participant, found, authorised, speaker, ended⟩ := commitReport_ok ended
    obtain rfl := some.inj (found.symm.trans stored)
    have inRoom : db.commitRoom same = some room := by
      rw [commitRoom, if_pos kind]
      exact authorised.found
    have name : same.executionId = input.executionId := (get_eq_some.mp found).2
    obtain replays | ⟨committable, -, -, ⟨drifted, rfl, rfl⟩ | ⟨current, report, added, -,
      inserted, rfl, rfl⟩⟩ := ended
    · exact replays.ends kind
    · refine .drifted ⟨rfl, committable.2⟩ inRoom speaker drifted ⟨?_, ?_⟩
      · simp [putExecution, discardedExecution, name]
      · exact PlacesKept.refl.putExecution
    · obtain ⟨reports, -, rfl⟩ := addReport_ok inserted
      have kept : db.PlacesKept { db with reports } := tables rfl rfl rfl rfl
      refine .committed .report ⟨rfl, committable.2⟩ inRoom speaker current ⟨?_, kept.putExecution.putRoom⟩
      simp [putExecution, putRoom, committedExecution, name]

structure CommitReads (db : Database) (executionId : JsString) (token : ControllerToken)
    (execution : ModelExecution) : Prop where
  stored : db.modelExecutions.get executionId = some execution
  participant : ∃ participant, db.participants.get execution.participantId = some participant
  place : if execution.resultKind = .report then ∃ room, db.Authorised execution.roomId token room
    else ∃ round room, db.rounds.get execution.roundId = some round ∧ db.Authorised round.roomId token room

omit [Digest] in
theorem CommitLoaded.reads {executionId : JsString} (loaded : db.CommitLoaded executionId token context)
    (kind : context.execution.resultKind ≠ .report) :
    db.CommitReads executionId token context.execution := by
  refine ⟨loaded.execution, ⟨_, loaded.participant⟩, ?_⟩
  rw [if_neg kind]
  exact ⟨_, _, loaded.round, loaded.authorised⟩

theorem commitOfKind_reads (stored : db.modelExecutions.get input.executionId = some execution)
    (ended : db.commitOfKind execution.resultKind input stamp = .ok (next, outcome)) :
    db.CommitReads input.executionId input.token execution := by
  cases kind : execution.resultKind with
  | report =>
    simp only [kind, commitOfKind] at ended
    obtain ⟨same, room, participant, found, authorised, speaker, -⟩ := commitReport_ok ended
    obtain rfl := some.inj (found.symm.trans stored)
    refine ⟨found, ⟨_, speaker⟩, ?_⟩
    rw [if_pos kind]
    exact ⟨room, authorised⟩
  | message =>
    simp only [kind, commitOfKind] at ended
    obtain ⟨context, loaded, -⟩ := commitModelMessage_ok ended
    obtain rfl := some.inj (loaded.execution.symm.trans stored)
    exact loaded.reads (by simp [kind])
  | focus =>
    simp only [kind, commitOfKind] at ended
    obtain ⟨context, loaded, -⟩ := commitFocusMessage_ok ended
    obtain rfl := some.inj (loaded.execution.symm.trans stored)
    exact loaded.reads (by simp [kind])
  | summary =>
    simp only [kind, commitOfKind] at ended
    obtain ⟨context, loaded, -⟩ := commitSummary_ok ended
    obtain rfl := some.inj (loaded.execution.symm.trans stored)
    exact loaded.reads (by simp [kind])

omit [Digest] in
theorem PlacesKept.reads (kept : db.PlacesKept next) {executionId : JsString}
    (reads : db.CommitReads executionId token execution)
    (stored : next.modelExecutions.get executionId = some row)
    (room : row.roomId = execution.roomId) (round : row.roundId = execution.roundId)
    (participant : row.participantId = execution.participantId)
    (kind : row.resultKind = execution.resultKind) : next.CommitReads executionId token row := by
  obtain ⟨-, ⟨speaker, found⟩, place⟩ := reads
  refine ⟨stored, ⟨speaker, ?_⟩, ?_⟩
  · rw [participant, kept.participants, found]
  · rw [kind, room, round]
    split at place
    · rename_i report
      obtain ⟨inRoom, authorised⟩ := place
      rw [if_pos report]
      exact kept.authorised authorised
    · rename_i report
      obtain ⟨inRound, inRoom, at_, authorised⟩ := place
      obtain ⟨again, refound, same⟩ := kept.rounds at_
      obtain ⟨other, still⟩ := kept.authorised authorised
      rw [if_neg report]
      exact ⟨again, other, refound, same ▸ still⟩

theorem CommitReads.replays (reads : db.CommitReads input.executionId input.token execution)
    (committed : execution.state = .committed)
    (facts : ReplayMatches execution execution.resultKind input.content input.finalEventSeq) :
    db.commitOfKind execution.resultKind input stamp = .ok (db, .replayed execution.committedEntityId) := by
  obtain ⟨stored, ⟨participant, speaker⟩, place⟩ := reads
  have again : replayOrThrow execution execution.resultKind input.content input.finalEventSeq =
      .ok (.replayed execution.committedEntityId) := by
    rw [replayOrThrow, except_bind_ok]
    exact ⟨(), require_ok.mpr facts, rfl⟩
  cases kind : execution.resultKind with
  | report =>
    rw [if_pos kind] at place
    obtain ⟨room, authorised⟩ := place
    have inRoom := requireRoom_ok.mpr authorised.found
    have controls : db.requireController execution.roomId input.token = .ok () :=
      requireController_ok.mpr authorised.controls
    have found := getExecution_ok.mpr stored
    have facilitator := getParticipant_ok.mpr speaker
    rw [kind] at again
    simp [commitOfKind, commitReport, withConflictTranslation, found, inRoom, controls,
      facilitator, committed, again, bind, Except.bind, pure, Except.pure]
  | _ =>
    rw [if_neg (by simp [kind])] at place
    obtain ⟨round, room, at_, authorised⟩ := place
    have loaded : db.loadCommitContext input.executionId input.token =
        .ok ⟨execution, round, room, participant⟩ :=
      loadCommitContext_eq ⟨stored, at_, authorised, speaker⟩
    rw [kind] at again
    simp [commitOfKind, commitModelMessage, commitFocusMessage, commitSummary,
      withConflictTranslation, loaded, committed, again, bind, Except.bind, pure, Except.pure]

theorem CommitReads.refuses (reads : db.CommitReads input.executionId input.token execution)
    (discarded : execution.state = .discarded) (result : Database × CommitOutcome) :
    db.commitOfKind execution.resultKind input stamp ≠ .ok result := by
  intro ended
  obtain ⟨next, outcome⟩ := result
  cases commitOfKind_ok reads.stored ended with
  | replayed committed => simp [discarded] at committed
  | drifted committable | committed entityType committable =>
    have states := committable.2
    simp [discarded] at states

/-- The row of an execution keeps what says where it belongs. -/
structure SameExecution (execution row : ModelExecution) : Prop where
  executionId : row.executionId = execution.executionId
  roomId : row.roomId = execution.roomId
  roundId : row.roundId = execution.roundId
  participantId : row.participantId = execution.participantId
  resultKind : row.resultKind = execution.resultKind
  requestedModel : row.requestedModel = execution.requestedModel
  hostInstanceId : row.hostInstanceId = execution.hostInstanceId

omit [Digest] in
theorem SameExecution.classify (same : SameExecution execution row)
    (event : CompletedEvent) : classifyCompleted row event = classifyCompleted execution event := by
  simp only [classifyCompleted, same.requestedModel]

/-- The context an execution was dispatched with is no longer the room's when it
comes to commit. -/
def DriftsFrom (db : Database) (execution : ModelExecution) : Prop :=
  execution.state ≠ .committed ∧ ∃ room participant, db.commitRoom execution = some room ∧
    db.participants.get execution.participantId = some participant ∧
    ContextDrifted execution room participant

instance (db : Database) (execution : ModelExecution) : Decidable (db.DriftsFrom execution) :=
  decidable_of_iff (execution.state ≠ .committed ∧
      ((db.commitRoom execution).any fun room =>
        (db.participants.get execution.participantId).any fun participant =>
          ContextDrifted execution room participant) = true) (by
    simp [DriftsFrom, any_eq_true])

/-- How a settlement left the row, by the verdict on the event. -/
inductive SettledAs (db : Database) (deps : CommitPipelineDeps) (execution : ModelExecution)
    (event : CompletedEvent) (row : ModelExecution) : AckDisposition → Prop where
  | dropped {context : CommitContext} {outcome : RuntimeOutcome} {error : ModelExecutionError}
      (verdict : classifyCompleted execution event = .discard outcome error)
      (loaded : db.CommitLoaded execution.executionId deps.token context)
      (own : context.execution = execution) (state : row.state = .discarded)
      (facts : row.runtimeOutcome = some outcome ∧ row.finalEventSeq = some event.finalSeq) :
      SettledAs db deps execution event row .discarded
  | committed (verdict : classifyCompleted execution event = .commit)
      (reads : db.CommitReads execution.executionId deps.token execution)
      (state : row.state = .committed)
      (facts : ReplayMatches row row.resultKind event.output event.finalSeq)
      (current : ¬ db.DriftsFrom execution) : SettledAs db deps execution event row .committed
  | drifted (verdict : classifyCompleted execution event = .commit)
      (reads : db.CommitReads execution.executionId deps.token execution)
      (state : row.state = .discarded) (drifts : db.DriftsFrom execution)
      (final : row.finalEventSeq = some event.finalSeq) :
      SettledAs db deps execution event row .discarded

variable {deps : CommitPipelineDeps} {disposition : AckDisposition} {handling : CompletedHandling}

theorem settleCompleted_ok
    (stored : db.modelExecutions.get execution.executionId = some execution)
    (ended : db.settleCompleted deps execution event stamp = .ok (next, disposition, handling)) :
    ∃ row, db.Settles execution.executionId row next ∧ SameExecution execution row ∧
      db.SettledAs deps execution event row disposition := by
  have itself : SameExecution execution execution := ⟨rfl, rfl, rfl, rfl, rfl, rfl, rfl⟩
  cases verdict : classifyCompleted execution event with
  | discard outcome error =>
    simp only [settleCompleted, verdict, except_bind_ok] at ended
    obtain ⟨⟨dropped, result⟩, discards, ended⟩ := ended
    have settled : next = dropped ∧ disposition = .discarded := by
      cases result <;> cases ended <;> exact ⟨rfl, rfl⟩
    obtain ⟨rfl, rfl⟩ := settled
    obtain ⟨context, loaded, -, replays⟩ := discardExecution_ok discards
    have own : context.execution = execution :=
      some.inj (loaded.execution.symm.trans stored)
    rw [own] at replays
    obtain ⟨state, facts, rfl, -⟩ | ⟨-, -, rfl, -⟩ := replays
    · exact ⟨execution, ⟨stored, .refl⟩, itself, .dropped verdict loaded own state facts⟩
    · have settles := @CommitLoaded.discards _ _ _ _ loaded outcome event.finalSeq (some error) stamp.now
      rw [own] at settles
      exact ⟨_, settles, ⟨rfl, rfl, rfl, rfl, rfl, rfl, rfl⟩,
        .dropped verdict loaded own rfl ⟨rfl, rfl⟩⟩
  | commit =>
    simp only [settleCompleted, verdict, except_bind_ok] at ended
    obtain ⟨⟨committed, result⟩, commits, ended⟩ := ended
    have reads := commitOfKind_reads stored commits
    cases commitOfKind_ok stored commits with
    | replayed state facts unchanged =>
      cases ended
      subst unchanged
      exact ⟨execution, ⟨stored, .refl⟩, itself,
        .committed verdict reads state facts fun drifts => drifts.1 state⟩
    | drifted committable inRoom speaker drifted settles =>
      cases ended
      refine ⟨_, settles, ⟨rfl, rfl, rfl, rfl, rfl, rfl, rfl⟩,
        .drifted verdict reads rfl ⟨?_, _, _, inRoom, speaker, drifted⟩ rfl⟩
      obtain ⟨-, running | succeeded⟩ := committable
      · simp [running]
      · simp [succeeded]
    | committed entityType committable inRoom speaker current settles =>
      cases ended
      refine ⟨_, settles, ⟨rfl, rfl, rfl, rfl, rfl, rfl, rfl⟩,
        .committed verdict reads rfl ⟨rfl, rfl, rfl⟩ fun drifts => ?_⟩
      obtain ⟨-, room, participant, again, sameSpeaker, drifted⟩ := drifts
      obtain rfl := some.inj (again.symm.trans inRoom)
      obtain rfl := some.inj (sameSpeaker.symm.trans speaker)
      exact current drifted

variable {deps : CommitPipelineDeps}

theorem SettledAs.again {execution row : ModelExecution}
    {event : CompletedEvent} {disposition : AckDisposition}
    (settled : db.SettledAs deps execution event row disposition)
    (stored : next.modelExecutions.get execution.executionId = some row)
    (places : db.PlacesKept next) (same : SameExecution execution row) :
    (db.DriftsFrom execution ∧ classifyCompleted execution event = .commit →
        ∀ result, next.settleCompleted deps row event stamp ≠ .ok result) ∧
      (¬ (db.DriftsFrom execution ∧ classifyCompleted execution event = .commit) →
        ∃ handling, next.settleCompleted deps row event stamp = .ok (next, disposition, handling)) := by
  have own : row.executionId = execution.executionId := same.executionId
  have verdicts := same.classify event
  have reread (reads : db.CommitReads execution.executionId deps.token execution) :
      next.CommitReads row.executionId deps.token row := by
    rw [own]
    exact places.reads reads stored same.roomId same.roundId same.participantId same.resultKind
  cases settled with
  | @dropped context outcome error verdict loaded whole state facts =>
    refine ⟨fun stale => by simp [verdict] at stale, fun _ => ?_⟩
    obtain ⟨other, reloaded, rfl⟩ := places.loaded loaded stored
      (whole ▸ same.roundId) (whole ▸ same.participantId)
    have loads : next.loadCommitContext other.execution.executionId deps.token = .ok other := by
      rw [own]
      exact loadCommitContext_eq reloaded
    rw [settleCompleted, verdicts, verdict]
    simp [discardExecution, loads, state, facts, require, bind, Except.bind, pure,
      Except.pure]
  | committed verdict reads state facts current =>
    refine ⟨fun stale => absurd stale.1 current, fun _ => ?_⟩
    have replays : next.commitOfKind row.resultKind (completedInput deps row.executionId event)
        stamp = .ok (next, .replayed row.committedEntityId) :=
      (reread reads).replays state facts
    rw [settleCompleted, verdicts, verdict]
    exact ⟨_, by rw [replays]; rfl⟩
  | drifted verdict reads state drifts =>
    refine ⟨fun _ result settled => ?_, fun current => absurd ⟨drifts, verdict⟩ current⟩
    have refuses : ∀ result, next.commitOfKind row.resultKind
        (completedInput deps row.executionId event) stamp ≠ .ok result :=
      (reread reads).refuses state
    rw [settleCompleted, verdicts, verdict] at settled
    simp only [except_bind_ok] at settled
    obtain ⟨result, commits, -⟩ := settled
    exact refuses result commits

/-- An ACK that is settled leaves the row and the discussion facts. -/
structure AckSettles (db : Database) (executionId : JsString) (row : ModelExecution)
    (acked : Database) : Prop where
  stored : ∃ after, acked.modelExecutions.get executionId = some after ∧ Acked row after
  facts : db.FactsKept acked
  places : db.PlacesKept acked

omit [Digest]

variable {executionId : JsString}

section

variable (stored : db.modelExecutions.get executionId = some row)

include stored

theorem AckSettles.refl : db.AckSettles executionId row db :=
  ⟨⟨row, stored, row.ackState, row.updatedAt, rfl⟩, .refl, .refl⟩

theorem settleAck_eq (settled : AckState) (now : JsString) :
    ∃ acked, db.settleAck executionId settled now = .ok acked ∧ db.AckSettles executionId row acked := by
  have name : row.executionId = executionId := (get_eq_some.mp stored).2
  by_cases pending : row.ackState = some .pending
  · refine ⟨db.putExecution { row with ackState := some settled, updatedAt := now }, ?_,
      ⟨_, ?_, some settled, now, rfl⟩, .putExecution, PlacesKept.refl.putExecution⟩
    · simp [settleAck, getExecution, stored, pending, fetch, bind, Except.bind, pure, Except.pure]
    · simp only [putExecution, get_put, name, if_true]
  · refine ⟨db, ?_, .refl stored⟩
    simp [settleAck, getExecution, stored, pending, fetch, bind, Except.bind, pure, Except.pure]

theorem settleAnswer_eq (answer : AckAnswer) (now : JsString) :
    ∃ acked, db.settleAnswer executionId answer now = .ok acked ∧ db.AckSettles executionId row acked := by
  obtain ⟨acknowledged, marks, settles⟩ := settleAck_eq stored .acknowledged now
  obtain ⟨expired, expires, lapses⟩ := settleAck_eq stored .expired now
  rcases answer with (_ | _ | _) | _ | _
  · exact ⟨db, rfl, .refl stored⟩
  · refine ⟨acknowledged, ?_, settles⟩
    rw [settleAnswer, markAcknowledged, marks]
    rfl
  · refine ⟨expired, ?_, lapses⟩
    rw [settleAnswer, markAckExpired, expires]
    rfl
  · exact ⟨expired, expires, lapses⟩
  · exact ⟨db, rfl, .refl stored⟩

end

def ackRequest (deps : CommitPipelineDeps) (execution : ModelExecution)
    (disposition : AckDisposition) : Option AckRequest :=
  (execution.finalEventSeq.filter fun _ =>
    execution.hostInstanceId = some deps.currentHostInstanceId).map fun finalSeq =>
      ⟨deps.scopeId, execution.executionId, deps.token, finalSeq, disposition⟩

theorem ackAfterPersist_eq (deps : CommitPipelineDeps)
    (stored : db.modelExecutions.get execution.executionId = some row)
    (disposition : AckDisposition) (answer : AckAnswer) (now : JsString) :
    ∃ acked, db.ackAfterPersist deps execution disposition answer now =
        (.ok acked, ackRequest deps execution disposition) ∧
      db.AckSettles execution.executionId row acked := by
  cases final : execution.finalEventSeq with
  | none => exact ⟨db, by simp [ackAfterPersist, ackRequest, final], .refl stored⟩
  | some finalSeq =>
    by_cases host : execution.hostInstanceId = some deps.currentHostInstanceId
    · obtain ⟨acked, answered, settles⟩ := settleAnswer_eq stored answer now
      exact ⟨acked, by simp [ackAfterPersist, ackRequest, final, host, answered], settles⟩
    · obtain ⟨acked, expires, settles⟩ := settleAck_eq stored .expired now
      refine ⟨acked, ?_, settles⟩
      simp [ackAfterPersist, ackRequest, final, host, markAckExpired, expires]

/-- What a second handling of the same event owes to the first. -/
structure Repeats (first second : Handled) : Prop where
  ends : ∃ handling, second.result = .ok handling
  facts : first.db.FactsKept second.db
  disposition : second.disposition = first.disposition
  ack : ∀ request, first.ack = some request →
    ∃ again, second.ack = some again ∧ again.disposition = request.disposition

def CommitFindsDrift (db : Database) (executionId : JsString) (event : CompletedEvent) : Prop :=
  ∃ execution, db.modelExecutions.get executionId = some execution ∧
    classifyCompleted execution event = .commit ∧ db.DriftsFrom execution

theorem markCompleted_marks {marked : Database}
    (ended : db.markCompleted executionId event now = .ok (marked, execution)) :
    execution.executionId = executionId ∧
      marked.modelExecutions.get execution.executionId = some execution ∧
      (db.CommitFindsDrift executionId event ↔
        marked.DriftsFrom execution ∧ classifyCompleted execution event = .commit) := by
  obtain ⟨current, found, changes⟩ := markCompleted_ok ended
  have name : current.executionId = executionId := (get_eq_some.mp found).2
  have drift : db.CommitFindsDrift executionId event ↔
      db.DriftsFrom current ∧ classifyCompleted current event = .commit := by
    constructor
    · intro finds
      obtain ⟨other, again, verdict, drifts⟩ := finds
      obtain rfl := some.inj (again.symm.trans found)
      exact ⟨drifts, verdict⟩
    · intro finds
      exact ⟨current, found, finds.2, finds.1⟩
  rw [drift]
  obtain ⟨-, rfl, rfl⟩ | ⟨running, rfl, marks⟩ := changes
  · exact ⟨name, name ▸ found, Iff.rfl⟩
  · have own : execution.executionId = executionId := by rw [marks, name]
    refine ⟨own, get_put_self, ?_⟩
    rw [marks]
    simp [DriftsFrom, commitRoom, putExecution, ContextDrifted, classifyCompleted, running]

variable [Digest]

theorem handled_ok {executionId : JsString} {outside : HandlingInput}
    (ended : (db.handleCompletedExecution deps executionId event outside).result = .ok handling) :
    ∃ marked execution settled disposition row acked,
      db.markCompleted executionId event outside.markedAt = .ok (marked, execution) ∧
      marked.Settles execution.executionId row settled ∧ SameExecution execution row ∧
      marked.SettledAs deps execution event row disposition ∧
      settled.AckSettles execution.executionId row acked ∧
      db.handleCompletedExecution deps executionId event outside =
        ⟨acked, .ok handling, some disposition, ackRequest deps execution disposition⟩ := by
  generalize made : db.handleCompletedExecution deps executionId event outside = handled at ended ⊢
  rw [handleCompletedExecution] at made
  split at made
  · subst made
    contradiction
  · split at made
    · subst made
      contradiction
    · rename_i marked execution marks
      obtain ⟨-, stored, -⟩ := markCompleted_marks marks
      split at made
      · subst made
        contradiction
      · rename_i settled disposition result settles
        obtain ⟨row, kept, same, as⟩ := settleCompleted_ok stored settles
        obtain ⟨acked, sent, acks⟩ := ackAfterPersist_eq deps kept.stored disposition
          outside.answer outside.settledAt
        rw [sent] at made
        subst made
        cases ended
        exact ⟨marked, execution, settled, disposition, row, acked, marks, kept, same, as, acks, rfl⟩

variable {execution row after : ModelExecution}

theorem SettledAs.acked
    {event : CompletedEvent} {disposition : AckDisposition}
    (settled : db.SettledAs deps execution event row disposition) (acked : Acked row after) :
    db.SettledAs deps execution event after disposition := by
  obtain ⟨ackState, updatedAt, rfl⟩ := acked
  cases settled with
  | dropped verdict loaded own state facts => exact .dropped verdict loaded own state facts
  | committed verdict reads state facts current =>
    exact .committed verdict reads state facts current
  | drifted verdict reads state drifts final => exact .drifted verdict reads state drifts final

theorem SettledAs.final (settled : db.SettledAs deps execution event row disposition) :
    row.finalEventSeq = some event.finalSeq := by
  cases settled with
  | dropped verdict loaded own state facts => exact facts.2
  | committed verdict reads state facts => exact facts.2.1
  | drifted verdict reads state drifts final => exact final

theorem SettledAs.marks {other : CompletedEvent} {executionId : JsString}
    (settled : db.SettledAs deps execution event row disposition)
    (stored : next.modelExecutions.get executionId = some row) :
    next.markCompleted executionId other now = .ok (next, row) := by
  have ended : row.state ≠ .running := by
    cases settled with
    | dropped verdict loaded own state => simp [state]
    | committed verdict reads state => simp [state]
    | drifted verdict reads state => simp [state]
  simp [markCompleted, getExecution, stored, ended, fetch, bind, Except.bind, pure, Except.pure]

omit [Digest] in
theorem SameExecution.acked
    (same : SameExecution execution row) (acked : Acked row after) : SameExecution execution after := by
  obtain ⟨ackState, updatedAt, rfl⟩ := acked
  exact ⟨same.executionId, same.roomId, same.roundId, same.participantId, same.resultKind,
    same.requestedModel, same.hostInstanceId⟩

omit [Digest] in
theorem ackRequest_again {request : AckRequest} {finalSeq : Nat}
    (sent : ackRequest deps execution disposition = some request)
    (same : SameExecution execution row) (final : row.finalEventSeq = some finalSeq) :
    ∃ again, ackRequest deps row disposition = some again ∧ again.disposition = request.disposition := by
  simp only [ackRequest, map_eq_some_iff, filter_eq_some_iff, decide_eq_true_eq] at sent
  obtain ⟨first, ⟨-, host⟩, rfl⟩ := sent
  have current : row.hostInstanceId = some deps.currentHostInstanceId :=
    same.hostInstanceId.trans host
  exact ⟨⟨deps.scopeId, row.executionId, deps.token, finalSeq, disposition⟩,
    by simp [ackRequest, final, current], rfl⟩

/-- After a first handling that succeeds, a second handling of the event does not
throw, changes no discussion fact and sends the ACK of the first, exactly when the
first was no commit that found another context. -/
theorem completed_repeats_iff {deps : CommitPipelineDeps} {executionId : JsString}
    {event : CompletedEvent} {outside : HandlingInput} {handling : CompletedHandling}
    (ended : (db.handleCompletedExecution deps executionId event outside).result = .ok handling) :
    (∀ again, Repeats (db.handleCompletedExecution deps executionId event outside)
        ((db.handleCompletedExecution deps executionId event outside).db.handleCompletedExecution
          deps executionId event again)) ↔
      ¬ db.CommitFindsDrift executionId event := by
  obtain ⟨marked, execution, settled, disposition, row, acked, marks, kept, same, as, acks,
    whole⟩ := handled_ok ended
  obtain ⟨name, -, drift⟩ := markCompleted_marks marks
  obtain ⟨after, stored, ackOnly⟩ := acks.stored
  have still := as.acked ackOnly
  have turn := same.acked ackOnly
  have remarks {now : JsString} : acked.markCompleted executionId event now = .ok (acked, after) :=
    still.marks (name ▸ stored)
  have present : ¬ (acked.modelExecutions.get executionId).isNone = true := by
    rw [← name, stored]
    simp
  have second (stamp : Stamp) :=
    @SettledAs.again marked acked _ stamp deps execution after event disposition still stored
      (kept.places.trans acks.places) turn
  rw [drift, whole]
  constructor
  · intro repeats stale
    obtain ⟨⟨outcome, result⟩, -, -, -⟩ := repeats outside
    rw [handleCompletedExecution, if_neg present, remarks] at result
    have refuses := (second outside.stamp).1 stale
    simp only at result
    split at result
    · contradiction
    · rename_i settles
      exact refuses _ settles
  · intro current again
    obtain ⟨outcome, settles⟩ := (second again.stamp).2 current
    have refound : acked.modelExecutions.get after.executionId = some after := by
      rw [turn.executionId, stored]
    obtain ⟨last, sent, lasts⟩ := ackAfterPersist_eq deps refound disposition again.answer again.settledAt
    rw [handleCompletedExecution, if_neg present, remarks]
    simp only [settles, sent]
    exact ⟨⟨outcome, rfl⟩, lasts.facts, rfl, fun request first =>
      ackRequest_again first turn still.final⟩

end Database

def dispatchedActions : List DiscussionAction :=
  seedActions ++ [.markExecutionDispatched (js "e1") (js "host") (js "scope") .accepted (js "t")]

def sampleDeps : CommitPipelineDeps := ⟨js "scope", sampleToken, js "host"⟩

def sampleEvent : CompletedEvent where
  output := js "frame"
  effectiveModel := some (js "m")
  modelVerdict := .match
  toolState := .none
  usage := none
  finalSeq := 3

def sampleOutside : Database.HandlingInput := ⟨js "t", stamp (js "message"), .failed, js "t"⟩

def handleFocus (db : Database) : Handled :=
  @Database.handleCompletedExecution db sampleDigest sampleDeps (js "e1") sampleEvent sampleOutside

theorem completed_repeats_committed :
    ∃ db handling, execute (@Database.step sampleDigest) .empty dispatchedActions = some db ∧
      (handleFocus db).result = .ok handling ∧ ∀ again,
        Database.Repeats (handleFocus db) (@Database.handleCompletedExecution (handleFocus db).db
          sampleDigest sampleDeps (js "e1") sampleEvent again) := by
  have facts : (execute (@Database.step sampleDigest) .empty dispatchedActions).map (fun db =>
      ((handleFocus db).result, (db.modelExecutions.get (js "e1")).map fun execution =>
        decide (db.DriftsFrom execution))) =
        some (.ok (.committed (js "message") .running), some false) := by decide +kernel
  obtain ⟨db, ran, found⟩ := map_eq_some_iff.mp facts
  simp only [Prod.mk.injEq] at found
  obtain ⟨ended, current⟩ := found
  refine ⟨db, _, ran, ended, (@Database.completed_repeats_iff db sampleDigest sampleDeps (js "e1")
    sampleEvent sampleOutside _ ended).mpr fun drifts => ?_⟩
  obtain ⟨execution, stored, -, drifted⟩ := drifts
  simp [stored, drifted] at current

def driftedActions : List DiscussionAction :=
  dispatchedActions ++ [.appendUserMessage (js "room") (js "round") sampleToken (js "wait")
    (stamp (js "user"))]

theorem drifted_commit_throws_again :
    ∃ db, execute (@Database.step sampleDigest) .empty driftedActions = some db ∧
      (handleFocus db).result = .ok (.discarded .stale_context) ∧
      (handleFocus (handleFocus db).db).result = .error (.transaction
        ⟨.EXECUTION_NOT_COMMITTABLE, js "cannot commit from state discarded"⟩) ∧
      (handleFocus (handleFocus db).db).ack = none := by
  have facts : (execute (@Database.step sampleDigest) .empty driftedActions).map (fun db =>
      ((handleFocus db).result, (handleFocus (handleFocus db).db).result,
        (handleFocus (handleFocus db).db).ack)) =
        some (.ok (.discarded .stale_context), .error (.transaction
          ⟨.EXECUTION_NOT_COMMITTABLE, js "cannot commit from state discarded"⟩), none) := by
    decide +kernel
  obtain ⟨db, ran, found⟩ := map_eq_some_iff.mp facts
  simp only [Prod.mk.injEq] at found
  exact ⟨db, ran, found⟩

end CouncilKit.Discussion
