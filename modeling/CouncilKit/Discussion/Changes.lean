import CouncilKit.Discussion.LiveExecutions
import CouncilKit.Discussion.Orchestrator

namespace CouncilKit.Discussion

open Data Table DiscussionRound DiscussionAction

namespace DiscussionRound

def Spoken (round : DiscussionRound) : Prop :=
  round.phase = .summarizing ∨ round.pausedFrom = some .summarizing →
    round.participantOrder.length ≤ round.nextParticipantIndex

def Freed (round : DiscussionRound) : Prop := ¬ round.Working → round.activeExecutionId = none

end DiscussionRound

structure RoundStep (old new : DiscussionRound) : Prop where
  id : new.id = old.id
  roomId : new.roomId = old.roomId
  roundNumber : new.roundNumber = old.roundNumber
  participantOrder : new.participantOrder = old.participantOrder
  cursor : old.nextParticipantIndex ≤ new.nextParticipantIndex
  focus : old.focusMessageId ≠ .null → new.focusMessageId ≠ .null
  final : old.Final → new.Final ∧ new.nextParticipantIndex = old.nextParticipantIndex
  passes : new.nextParticipantIndex = old.nextParticipantIndex ∨ new.activeExecutionId = none
  freed : old.Freed → new.Freed
  spoken : old.Spoken → new.Spoken

theorem RoundStep.refl (round : DiscussionRound) : RoundStep round round :=
  ⟨rfl, rfl, rfl, rfl, le_refl _, fun focused => focused, fun final => ⟨final, rfl⟩, .inl rfl,
    fun freed => freed, fun spoken => spoken⟩

section RoundRows

open Database

variable {round : DiscussionRound} {now : JsString}

theorem RoundStep.transition {target : TransitionTarget} (phase : round.phase = target.expectedFrom) :
    RoundStep round { round with phase := target.phase } where
  __ := RoundStep.refl round
  final final := by
    cases target <;> simp [Final, phase, TransitionTarget.expectedFrom] at final
  freed freed idle := by
    refine freed ?_
    cases target <;> simp [Working, phase, TransitionTarget.expectedFrom]
  spoken spoken summarizes := by
    rcases summarizes with entered | paused
    · cases target <;> simp [TransitionTarget.phase] at entered
    · exact spoken (.inr paused)

theorem RoundStep.prewarmPause {reason : RoundPauseReason} (phase : round.phase = .prewarming) :
    RoundStep round { round with
      pausedFrom := some .prewarming, phase := .paused, pauseReason := some reason } where
  __ := RoundStep.refl round
  final final := by simp [Final, phase] at final
  freed freed _ := freed (by simp [Working, phase])
  spoken _ summarizes := by simp at summarizes

theorem RoundStep.resume {pausedFrom : RoundPausedFrom} (phase : round.phase = .paused)
    (saved : round.pausedFrom = some pausedFrom) :
    RoundStep round { round with
      phase := pausedFrom.phase, pausedFrom := none, pauseReason := none } where
  __ := RoundStep.refl round
  final final := by simp [Final, phase] at final
  freed freed _ := freed (by simp [Working, phase])
  spoken spoken summarizes := by
    cases pausedFrom with
    | summarizing => exact spoken (.inr saved)
    | prewarming | running => simp [RoundPausedFrom.phase] at summarizes

theorem RoundStep.abort : RoundStep round (abortedRound round now) where
  __ := RoundStep.refl round
  final _ := ⟨.inr rfl, rfl⟩
  passes := .inl rfl
  freed _ _ := rfl
  spoken _ summarizes := by simp [abortedRound] at summarizes

theorem RoundStep.complete (phase : round.phase = .summarizing) :
    RoundStep round (completedRound round now) where
  __ := RoundStep.refl round
  final _ := ⟨.inl rfl, rfl⟩
  passes := .inl rfl
  freed _ _ := rfl
  spoken spoken _ := spoken (.inl phase)

theorem RoundStep.commitFocus {messageId : JsString} : RoundStep round (focusedRound round messageId) where
  __ := RoundStep.refl round
  focus _ := by simp [focusedRound]
  final final := ⟨final, rfl⟩
  passes := .inl rfl
  freed _ _ := rfl
  spoken spoken := spoken

theorem RoundStep.skip (phase : round.phase = .paused) : RoundStep round (skippedRound round) where
  __ := RoundStep.refl round
  cursor := Nat.le_succ _
  final final := by simp [Final, phase] at final
  passes := .inr rfl
  freed _ _ := rfl
  spoken _ summarizes := by
    simp only [skippedRound, cursorPhase, reduceCtorEq, or_false] at summarizes ⊢
    split at summarizes
    · rename_i past
      exact past
    · contradiction

theorem RoundStep.speak (phase : round.phase = .running) : RoundStep round (spokenRound round) where
  __ := RoundStep.refl round
  cursor := Nat.le_succ _
  final final := by simp [Final, phase] at final
  passes := .inr rfl
  freed _ _ := rfl
  spoken spoken summarizes := by
    simp only [spokenRound] at summarizes ⊢
    rcases summarizes with entered | paused
    · split at entered
      · rename_i past
        exact past
      · rw [phase] at entered
        contradiction
    · exact Nat.le_succ_of_le (spoken (.inr paused))

theorem RoundStep.release : RoundStep round { round with activeExecutionId := none } where
  __ := RoundStep.refl round
  passes := .inl rfl
  freed _ _ := rfl

theorem RoundStep.releasePaused {reason : RoundPauseReason} :
    RoundStep round (releasedRound round reason) := by
  cases phase : round.phase with
  | running =>
    simp only [releasedRound, phase]
    exact {
      RoundStep.refl round with
      final := fun final => by simp [Final, phase] at final
      passes := .inl rfl
      freed := fun _ _ => rfl
      spoken := fun _ summarizes => by simp at summarizes }
  | summarizing =>
    simp only [releasedRound, phase]
    exact {
      RoundStep.refl round with
      final := fun final => by simp [Final, phase] at final
      passes := .inl rfl
      freed := fun _ _ => rfl
      spoken := fun spoken _ => spoken (.inl phase) }
  | pending | prewarming | paused | completed | aborted =>
    simp only [releasedRound, phase]
    have step : RoundStep round { round with activeExecutionId := none } := .release
    rwa [phase] at step

theorem RoundStep.point {executionId : JsString} (working : round.Working) :
    RoundStep round { round with activeExecutionId := some executionId } where
  __ := RoundStep.refl round
  passes := .inl rfl
  freed _ idle := absurd working idle

theorem Releases.step {released : DiscussionRound} (releases : Releases round released) :
    RoundStep round released := by
  cases releases with
  | paused reason => exact .releasePaused
  | retried => exact .release

end RoundRows

/-- A round as `createRound` makes it, of participants of its room. -/
structure FreshRound (db : Database) (round : DiscussionRound) : Prop where
  uuid : IsUuid round.id
  nodup : round.participantOrder.Nodup
  seated : ∀ participantId ∈ round.participantOrder, ∃ participant ∈ db.participants.rows,
    participant.id = participantId ∧ participant.roomId = round.roomId
  cursor : round.nextParticipantIndex = 0
  free : round.activeExecutionId = none
  phase : round.phase = .pending
  pausedFrom : round.pausedFrom = none

namespace Database

def Opened (db : Database) : Prop :=
  ∀ round ∈ db.rounds.rows, ¬ round.Final →
    ∃ room, db.rooms.get round.roomId = some room ∧ room.activeRoundId = some round.id

variable {db mid next : Database}

theorem Opened.unique {first second : DiscussionRound} (held : db.Opened)
    (member : first ∈ db.rounds.rows) (other : second ∈ db.rounds.rows)
    (going : ¬ first.Final) (alsoGoing : ¬ second.Final) (room : first.roomId = second.roomId) :
    first.id = second.id := by
  obtain ⟨row, found, active⟩ := held first member going
  obtain ⟨row', found', active'⟩ := held second other alsoGoing
  rw [room, found'] at found
  cases found
  rw [active'] at active
  exact (Option.some.inj active).symm

/-- From `db` to `next`: `entry` is the message or summary that may come in,
`began` the message execution. -/
structure Change (db : Database) (entry : Option (JsString × Stamp))
    (began : ModelExecution → Prop) (next : Database) : Prop where
  participants : ∀ participant ∈ db.participants.rows, participant ∈ next.participants.rows
  rounds : ∀ round ∈ next.rounds.rows,
    (∃ old, db.rounds.get round.id = some old ∧ RoundStep old round) ∨
      db.rounds.get round.id = none ∧ FreshRound db round
  keptRounds : ∀ old ∈ db.rounds.rows, ∃ round, next.rounds.get old.id = some round
  executions : ∀ execution ∈ next.modelExecutions.rows,
    (∃ old, db.modelExecutions.get execution.executionId = some old ∧
        ExecutionStep old execution) ∨
      db.modelExecutions.get execution.executionId = none ∧
        (execution.resultKind = .message → began execution)
  keptExecutions : ∀ old ∈ db.modelExecutions.rows,
    ∃ execution, next.modelExecutions.get old.executionId = some execution
  messages : ∀ message ∈ next.messages.rows, message ∈ db.messages.rows ∨
    entry = some (message.roomId, ⟨message.createdAt, message.id⟩)
  keptMessages : ∀ message ∈ db.messages.rows, message ∈ next.messages.rows
  summaries : ∀ summary ∈ next.summaries.rows, summary ∈ db.summaries.rows ∨
    entry = some (summary.roomId, ⟨summary.generatedAt, summary.id⟩)
  keptSummaries : ∀ summary ∈ db.summaries.rows, summary ∈ next.summaries.rows
  single : next.messages = db.messages ∨ next.summaries = db.summaries
  opened : db.Opened → next.Opened

variable {entry : Option (JsString × Stamp)} {began : ModelExecution → Prop}

theorem Change.refl (db : Database) : db.Change entry began db where
  participants _ member := member
  rounds round member := .inl ⟨round, get_of_mem member, .refl round⟩
  keptRounds round member := ⟨round, get_of_mem member⟩
  executions execution member := .inl ⟨execution, get_of_mem member, .refl execution⟩
  keptExecutions execution member := ⟨execution, get_of_mem member⟩
  messages _ member := .inl member
  keptMessages _ member := member
  summaries _ member := .inl member
  keptSummaries _ member := member
  single := .inl rfl
  opened held := held

theorem Change.frame (held : db.Change entry began mid)
    (participants : ∀ participant ∈ mid.participants.rows, participant ∈ next.participants.rows)
    (rounds : next.rounds = mid.rounds) (executions : next.modelExecutions = mid.modelExecutions)
    (messages : next.messages = mid.messages) (summaries : next.summaries = mid.summaries)
    (opened : db.Opened → mid.Opened → next.Opened) : db.Change entry began next where
  participants participant member := participants participant (held.participants participant member)
  rounds := by rw [rounds]; exact held.rounds
  keptRounds := by rw [rounds]; exact held.keptRounds
  executions := by rw [executions]; exact held.executions
  keptExecutions := by rw [executions]; exact held.keptExecutions
  messages := by rw [messages]; exact held.messages
  keptMessages := by rw [messages]; exact held.keptMessages
  summaries := by rw [summaries]; exact held.summaries
  keptSummaries := by rw [summaries]; exact held.keptSummaries
  single := by rw [messages, summaries]; exact held.single
  opened before := opened before (held.opened before)

variable {room old : DiscussionRoom} {roomId : JsString}

theorem Opened.putRoom (held : db.Opened) (stored : db.rooms.get roomId = some old) (key : room.id = old.id)
    (active : room.activeRoundId = old.activeRoundId) : (db.putRoom room).Opened := by
  intro round member going
  obtain ⟨row, found, runs⟩ := held round member going
  simp only [Database.putRoom, get_put]
  split
  · rename_i same
    rw [same, key, (get_mem stored).2, stored] at found
    cases found
    exact ⟨room, rfl, active.trans runs⟩
  · exact ⟨row, found, runs⟩

section

variable (held : db.Change entry began mid)

include held

theorem Change.putRoom (stored : mid.rooms.get roomId = some old) (key : room.id = old.id)
    (active : room.activeRoundId = old.activeRoundId) : db.Change entry began (mid.putRoom room) :=
  held.frame (fun _ member => member) rfl rfl rfl rfl fun _ opened => opened.putRoom stored key active

theorem Change.closeRoom
    (final : db.Opened → ∀ round ∈ mid.rounds.rows, round.roomId = room.id → round.Final) :
    db.Change entry began (mid.putRoom room) := by
  refine held.frame (fun _ member => member) rfl rfl rfl rfl fun before opened round member going => ?_
  obtain ⟨row, found, runs⟩ := opened round member going
  refine ⟨row, ?_, runs⟩
  simp only [Database.putRoom, get_put]
  rw [if_neg fun same => going (final before round member same)]
  exact found

theorem Change.putRound {round old : DiscussionRound} {roundId : JsString}
    (same : mid.rounds = db.rounds) (stored : db.rounds.get roundId = some old)
    (step : RoundStep old round) : db.Change entry began (mid.putRound round) where
  participants := held.participants
  rounds other member := by
    simp only [Database.putRound, same] at member
    rcases mem_put.mp member with rfl | ⟨kept, -⟩
    · refine .inl ⟨old, ?_, step⟩
      rw [step.id, (get_mem stored).2]
      exact stored
    · exact .inl ⟨other, get_of_mem kept, .refl other⟩
  keptRounds other member := by
    simp only [Database.putRound, same, get_put]
    split
    · exact ⟨round, rfl⟩
    · exact ⟨other, get_of_mem member⟩
  executions := held.executions
  keptExecutions := held.keptExecutions
  messages := held.messages
  keptMessages := held.keptMessages
  summaries := held.summaries
  keptSummaries := held.keptSummaries
  single := held.single
  opened before other member going := by
    have opened := held.opened before
    simp only [Database.putRound, same] at member
    rcases mem_put.mp member with rfl | ⟨kept, -⟩
    · have oldMember : old ∈ mid.rounds.rows := by
        rw [same]
        exact (get_mem stored).1
      obtain ⟨row, found, runs⟩ := opened old oldMember fun final => going (step.final final).1
      exact ⟨row, by rw [step.roomId]; exact found, by rw [step.id]; exact runs⟩
    · exact opened other (by rw [same]; exact kept) going

theorem Change.putExecution {execution old : ModelExecution} {executionId : JsString}
    (same : mid.modelExecutions = db.modelExecutions)
    (stored : db.modelExecutions.get executionId = some old) (step : ExecutionStep old execution) :
    db.Change entry began (mid.putExecution execution) where
  participants := held.participants
  rounds := held.rounds
  keptRounds := held.keptRounds
  executions other member := by
    simp only [Database.putExecution, same] at member
    rcases mem_put.mp member with rfl | ⟨kept, -⟩
    · refine .inl ⟨old, ?_, step⟩
      rw [step.executionId, (get_mem stored).2]
      exact stored
    · exact .inl ⟨other, get_of_mem kept, .refl other⟩
  keptExecutions other member := by
    simp only [Database.putExecution, same, get_put]
    split
    · exact ⟨execution, rfl⟩
    · exact ⟨other, get_of_mem member⟩
  messages := held.messages
  keptMessages := held.keptMessages
  summaries := held.summaries
  keptSummaries := held.keptSummaries
  single := held.single
  opened := held.opened

theorem Change.addExecution {execution : ModelExecution}
    (same : mid.modelExecutions = db.modelExecutions)
    (fresh : execution.resultKind = .message → began execution)
    (added : mid.addExecution execution = .ok next) : db.Change entry began next := by
  obtain ⟨executions, inserted, rfl⟩ := addExecution_ok added
  rw [same] at inserted
  obtain ⟨absent, rfl⟩ := add_eq_some.mp inserted
  exact {
    held with
    executions := by
      intro other member
      rcases mem_put.mp member with rfl | ⟨kept, -⟩
      · exact .inr ⟨absent, fresh⟩
      · exact .inl ⟨other, get_of_mem kept, .refl other⟩
    keptExecutions := by
      intro other member
      simp only [get_put]
      split
      · exact ⟨execution, rfl⟩
      · exact ⟨other, get_of_mem member⟩ }

end

theorem Change.addMessage (message : DiscussionMessage) (absent : db.messages.get message.id = none) :
    db.Change (some (message.roomId, ⟨message.createdAt, message.id⟩)) began
      { db with messages := db.messages.put message } where
  __ := Change.refl db
  messages other member := by
    rcases mem_put.mp member with rfl | ⟨kept, -⟩
    · exact .inr rfl
    · exact .inl kept
  keptMessages other member := mem_put.mpr (.inr ⟨member, fun same => by
    rw [← same, get_of_mem member] at absent
    contradiction⟩)
  single := .inr rfl

theorem Change.addSummary (summary : DiscussionSummary) (absent : db.summaries.get summary.id = none) :
    db.Change (some (summary.roomId, ⟨summary.generatedAt, summary.id⟩)) began
      { db with summaries := db.summaries.put summary } where
  __ := Change.refl db
  summaries other member := by
    rcases mem_put.mp member with rfl | ⟨kept, -⟩
    · exact .inr rfl
    · exact .inl kept
  keptSummaries other member := mem_put.mpr (.inr ⟨member, fun same => by
    rw [← same, get_of_mem member] at absent
    contradiction⟩)
  single := .inl rfl

theorem Change.openRound {round : DiscussionRound}
    (stored : db.rooms.get roomId = some old) (key : room.id = old.id)
    (own : round.roomId = roomId) (idle : old.activeRoundId = none)
    (active : room.activeRoundId = some round.id) (fresh : FreshRound db round)
    (absent : db.rounds.get round.id = none) :
    db.Change entry began ({ db with rounds := db.rounds.put round }.putRoom room) := by
  have roomKey : room.id = roomId := key.trans (get_mem stored).2
  exact {
    Change.refl db with
    rounds := by
      intro other member
      rcases mem_put.mp member with rfl | ⟨kept, -⟩
      · exact .inr ⟨absent, fresh⟩
      · exact .inl ⟨other, get_of_mem kept, .refl other⟩
    keptRounds := by
      intro other member
      simp only [Database.putRoom, get_put]
      split
      · exact ⟨round, rfl⟩
      · exact ⟨other, get_of_mem member⟩
    opened := by
      intro opened other member going
      simp only [Database.putRoom, get_put]
      rcases mem_put.mp member with rfl | ⟨kept, -⟩
      · rw [if_pos (own.trans roomKey.symm)]
        exact ⟨room, rfl, active⟩
      · obtain ⟨row, found, runs⟩ := opened other kept going
        split
        · rename_i same
          rw [same, roomKey, stored] at found
          cases found
          rw [idle] at runs
          contradiction
        · exact ⟨row, found, runs⟩ }

section Transactions

variable {roomId roundId executionId : JsString} {token : ControllerToken} {now : JsString}
  {stamp : Stamp} {execution : ModelExecution} {round : DiscussionRound}

theorem Change.interrupt (round : DiscussionRound) (now : JsString) :
    db.Change entry began (db.afterInterrupt round now) := by
  rw [afterInterrupt]
  split
  · rename_i execution live
    obtain ⟨pointed, alive⟩ := Option.filter_eq_some_iff.mp live
    obtain ⟨id, -, found⟩ := Option.bind_eq_some_iff.mp pointed
    exact (Change.refl db).putExecution rfl found ⟨rfl, rfl, rfl, rfl, rfl, rfl, .inl alive⟩
  · exact .refl db

variable {room : DiscussionRoom}

theorem Change.abort {closed : DiscussionRoom}
    (own : ∀ round ∈ db.rounds.get roundId, round.roomId = roomId)
    (authorised : db.Authorised roomId token room) (stored : db.rounds.get roundId = some round)
    (unfinished : ¬ round.Final) (key : closed.id = room.id) : db.Change entry began
      (((db.afterInterrupt round now).putRound (abortedRound round now)).putRoom closed) := by
  have rounds : (db.afterInterrupt round now).rounds = db.rounds := afterInterrupt_rounds
  have roomKey : room.id = roomId := (get_mem authorised.found).2
  refine ((Change.interrupt round now).putRound rounds stored .abort).closeRoom
    fun opened other member inRoom => ?_
  simp only [Database.putRound, rounds] at member
  rcases mem_put.mp member with rfl | ⟨kept, different⟩
  · exact .inr rfl
  · by_contra going
    have sameRoom : other.roomId = round.roomId := by
      rw [inRoom, own round stored, key]
      exact roomKey
    have same : other.id = round.id :=
      opened.unique kept (get_mem stored).1 going unfinished sameRoom
    exact different same

section Commits

variable [Digest] {input : CommitInput} {context : CommitContext} {kind : ResultKind} {phase : RoundPhase}

theorem Change.commitRows {entityType : CommittedEntityType} {added : Database}
    {new : DiscussionRound} (held : db.Change entry began added)
    (commits : db.Commits input stamp kind phase context)
    (executions : added.modelExecutions = db.modelExecutions) (rooms : added.rooms = db.rooms)
    (rounds : added.rounds = db.rounds) (step : RoundStep context.round new) :
    db.Change entry began (commitRows added context input entityType stamp new) := by
  have loaded := commits.loaded
  have committed : db.Change entry began (added.putExecution
      (committedExecution context.execution input entityType stamp.uuid stamp.now)) :=
    held.putExecution executions loaded.execution
      ⟨rfl, rfl, rfl, rfl, rfl, rfl, .inl commits.committable.live⟩
  have room : added.rooms.get context.round.roomId = some context.room := by
    rw [rooms]
    exact loaded.authorised.found
  have bumped : db.Change entry began (Database.commitEntity added context input entityType stamp) :=
    committed.putRoom room rfl rfl
  exact bumped.putRound rounds loaded.round step

omit [Digest] in
theorem inserts_commit (loaded : db.CommitLoaded input.executionId input.token context) (stamp : Stamp) :
    inserts db (.commitModelMessage input stamp) = some (context.room.id, stamp) ∧
      inserts db (.commitFocusMessage input stamp) = some (context.room.id, stamp) ∧
      inserts db (.commitSummary input stamp) = some (context.room.id, stamp) := by
  have room : context.room.id = context.round.roomId :=
    (get_mem loaded.authorised.found).2
  simp [inserts, loaded.execution, loaded.round, room]

theorem Change.summary {closed : DiscussionRoom}
    (commits : db.Commits input stamp .summary .summarizing context)
    (absent : db.summaries.get stamp.uuid = none) (key : closed.id = context.room.id) :
    db.Change (some (context.room.id, stamp)) began
      ((Database.commitRows { db with summaries := db.summaries.put (newSummary context input stamp) }
        context input .summary stamp (completedRound context.round stamp.now)).putRoom closed) := by
  have loaded := commits.loaded
  have grown : db.Change (some (context.room.id, stamp)) began
      { db with summaries := db.summaries.put (newSummary context input stamp) } :=
    .addSummary (newSummary context input stamp) absent
  have completed : db.Change (some (context.room.id, stamp)) began (Database.commitRows
      { db with summaries := db.summaries.put (newSummary context input stamp) } context input
        .summary stamp (completedRound context.round stamp.now)) :=
    grown.commitRows commits rfl rfl rfl (.complete commits.runs.1.2)
  refine completed.closeRoom fun opened other member inRoom => ?_
  rcases mem_put.mp member with rfl | ⟨kept, different⟩
  · exact .inl rfl
  · by_contra going
    have sameRoom : other.roomId = context.round.roomId :=
      (inRoom.trans key).trans (get_mem loaded.authorised.found).2
    have unfinished : ¬ context.round.Final := by simp [Final, commits.runs.1.2]
    have same : other.id = context.round.id :=
      opened.unique kept (get_mem loaded.round).1 going unfinished sameRoom
    exact different same

theorem Change.report {execution : ModelExecution} {room concluded : DiscussionRoom}
    {reports : Table DecisionReport.id} {entityId : JsString}
    (found : db.modelExecutions.get executionId = some execution)
    (authorised : db.Authorised execution.roomId token room)
    (live : execution.state.isLive = true) (key : concluded.id = room.id)
    (active : concluded.activeRoundId = room.activeRoundId) : db.Change entry began
      (({ db with reports }.putExecution
        (committedExecution execution input .report entityId stamp.now)).putRoom concluded) := by
  have framed : db.Change entry began { db with reports } :=
    (Change.refl db).frame (fun _ member => member) rfl rfl rfl rfl fun _ opened => opened
  have committed : db.Change entry began (Database.putExecution { db with reports }
      (committedExecution execution input .report entityId stamp.now)) :=
    framed.putExecution rfl found ⟨rfl, rfl, rfl, rfl, rfl, rfl, .inl live⟩
  exact committed.putRoom authorised.found key active

end Commits

theorem Change.begun {phase : RoundPhase} {room : DiscussionRoom}
    (admitted : db.BeginAdmitted execution token phase round room)
    (working : phase = .running ∨ phase = .summarizing)
    (fresh : execution.resultKind = .message → began execution)
    (stored : db.begun round execution = .ok next) : db.Change entry began next := by
  obtain ⟨added, inserted, rfl⟩ := begun_ok stored
  have grown : db.Change entry began added := (Change.refl db).addExecution rfl fresh inserted
  obtain ⟨executions, -, rfl⟩ := addExecution_ok inserted
  refine grown.putRound rfl admitted.stored (.point ?_)
  rw [Working, admitted.phase]
  exact working

theorem Change.beginExecution (ended : db.beginExecution execution token = .ok next) :
    db.Change entry (fun began => began = execution ∧ execution.resultKind = .message) next := by
  obtain ⟨round, room, admitted, -, -, begun⟩ := beginExecution_ok ended
  refine Change.begun admitted ?_ (fun message => ⟨rfl, message⟩) begun
  split
  · exact .inr rfl
  · exact .inl rfl

theorem Change.beginFocusExecution (other : execution.resultKind ≠ .message)
    (ended : db.beginFocusExecution execution token = .ok next) : db.Change entry began next := by
  obtain ⟨round, room, admitted, -, -, begun⟩ := beginFocusExecution_ok ended
  exact Change.begun admitted (.inl rfl) (fun message => absurd message other) begun

theorem ReportAborts.change {idle : DiscussionRoom} {aborted : Database}
    (found : db.rooms.get roomId = some room) (aborts : db.ReportAborts room now aborted idle) :
    db.Change entry began (aborted.putRoom { idle with lastActiveAt := now }) := by
  have roomKey : room.id = roomId := (get_mem found).2
  -- Whatever round still goes on in the room is the one it points at.
  have active : db.Opened → ∀ round ∈ db.rounds.rows, round.roomId = room.id → ¬ round.Final →
      room.activeRoundId = some round.id := by
    intro opened round member inRoom going
    obtain ⟨row, stored, runs⟩ := opened round member going
    rw [inRoom, roomKey, found] at stored
    cases stored
    exact runs
  cases aborts with
  | idle noRound => exact (Change.refl db).putRoom found rfl rfl
  | gone points absent =>
    refine (Change.refl db).closeRoom fun opened round member inRoom => ?_
    by_contra going
    rw [active opened round member inRoom going] at points
    cases points
    rw [get_of_mem member] at absent
    contradiction
  | ended points stored free final =>
    refine (Change.refl db).closeRoom fun opened round member inRoom => ?_
    by_contra going
    rw [active opened round member inRoom going] at points
    cases points
    rw [get_of_mem member] at stored
    cases stored
    exact going final
  | aborted points stored free unfinished =>
    refine ((Change.refl db).putRound rfl stored .abort).closeRoom fun opened round member inRoom => ?_
    rcases mem_put.mp member with rfl | ⟨kept, different⟩
    · exact .inr rfl
    · by_contra going
      rw [active opened round kept inRoom going] at points
      cases points
      exact different (get_mem stored).2.symm

theorem Change.beginReportExecution (ended : db.beginReportExecution execution token now = .ok next) :
    db.Change entry began next := by
  obtain ⟨room, aborted, idle, anchorRound, kind, authorised, -, aborts, -, -, -, -, -, -, added⟩ :=
    beginReportExecution_ok ended
  refine (aborts.change authorised.found).addExecution aborts.executions (fun message => ?_) added
  rw [kind] at message
  contradiction

theorem Change.join {action : RoomAction} {participants : Table Participant.id}
    {runtimeBindings : Table RuntimeBinding.id} (joined : db.Joined action participants) :
    db.Change entry began { db with participants, runtimeBindings } := by
  refine (Change.refl db).frame (fun other member => ?_) rfl rfl rfl rfl fun _ opened => opened
  rcases joined with rfl | ⟨participant, -, absent, rfl⟩
  · exact member
  · refine mem_put.mpr (.inr ⟨member, fun same => ?_⟩)
    rw [← same, get_of_mem member] at absent
    contradiction

theorem Change.addRoom (absent : db.rooms.get room.id = none) :
    db.Change entry began (db.putRoom room) := by
  refine (Change.refl db).frame (fun _ member => member) rfl rfl rfl rfl
    fun opened _ round member going => ?_
  obtain ⟨row, found, runs⟩ := opened round member going
  refine ⟨row, ?_, runs⟩
  simp only [Database.putRoom]
  rw [get_put_other fun same => by rw [← same, found] at absent; contradiction]
  exact found

theorem Change.step [Digest] {action : DiscussionAction} (called : action.Called db)
    (fresh : action.FreshUuid db) (stepped : db.step action = some next) :
    db.Change (action.inserts db) (fun _ => False) next := by
  have same : db.Change (action.inserts db) (fun _ => False) db := .refl db
  cases step_writes stepped with
  | aside _ _ joined => exact .join joined
  | createRoom made absent => exact .addRoom absent
  | room stored kept => exact same.putRoom stored kept.id kept.activeRoundId
  | @appendUserMessage roomId _ _ _ stamp _ _ message authorised stored own said absent =>
    subst said
    have grown : db.Change (some (roomId, stamp)) (fun _ => False)
        { db with messages := db.messages.put _ } := .addMessage _ absent
    exact grown.putRoom authorised.found rfl rfl
  | updateRoomSharedConfig authorised => exact same.putRoom authorised.found rfl rfl
  | @createRound _ _ _ stamp _ _ authorised opened idle quiet made absent =>
    subst made
    exact .openRound authorised.found rfl rfl idle rfl
      ⟨(fresh stamp.uuid rfl).1, called.1, called.2, rfl, rfl, rfl, rfl⟩ absent
  | @round _ _ old _ stored moves named =>
    cases moves with
    | transition phase => exact same.putRound rfl stored (.transition phase)
    | pause pausable =>
      have own := named _ _ _ _ rfl
      have phase : old.phase = .prewarming := called old (own ▸ stored)
      rw [phase] at pausable
      cases pausable
      exact same.putRound rfl stored (.prewarmPause phase)
    | resume phase saved => exact same.putRound rfl stored (.resume phase saved)
  | abortRound authorised stored going => exact .abort called authorised stored going rfl
  | skipParticipant admitted =>
    exact (same.putRound rfl admitted.stored (.skip admitted.paused)).putRoom
      admitted.authorised.found rfl rfl
  | beginExecution | beginFocusExecution | beginReportExecution => exact called.elim
  | execution stored step => exact same.putExecution rfl stored step
  | release found step stored points releases =>
    exact (same.putExecution rfl found step).putRound rfl stored releases.step
  | @commitModelMessage input stamp context commits focused absent =>
    rw [(inserts_commit commits.loaded stamp).1]
    have grown : db.Change (some (context.room.id, stamp)) (fun _ => False)
        { db with messages := db.messages.put (participantMessage context input stamp) } :=
      .addMessage (participantMessage context input stamp) absent
    exact grown.commitRows commits rfl rfl rfl (.speak commits.runs.1.2)
  | @commitFocusMessage input stamp context commits unfocused absent =>
    rw [(inserts_commit commits.loaded stamp).2.1]
    have grown : db.Change (some (context.room.id, stamp)) (fun _ => False)
        { db with messages := db.messages.put (participantMessage context input stamp) } :=
      .addMessage (participantMessage context input stamp) absent
    exact grown.commitRows commits rfl rfl rfl .commitFocus
  | @commitSummary input stamp context _ commits first absent bump =>
    rw [(inserts_commit commits.loaded stamp).2.2]
    subst bump
    exact .summary commits absent rfl
  | commitReport found authorised committable =>
    exact .report found authorised committable.live rfl rfl

end Transactions

end Database

end CouncilKit.Discussion
