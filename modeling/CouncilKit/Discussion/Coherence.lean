import CouncilKit.Discussion.Changes

namespace CouncilKit.Discussion

open Data List Table

namespace Database

def Reached (db : Database) (roomId roundId participantId : JsString) : Prop :=
  ∃ round, db.rounds.get roundId = some round ∧ round.roomId = roomId ∧ round.focusMessageId ≠ .null ∧
    participantId ∈ round.participantOrder.take (round.nextParticipantIndex + 1)

def AtCursor (db : Database) (execution : ModelExecution) : Prop :=
  ∃ round, db.rounds.get execution.roundId = some round ∧ round.roomId = execution.roomId ∧
    round.focusMessageId ≠ .null ∧
    round.participantOrder[round.nextParticipantIndex]? = some execution.participantId

structure Coherent (db : Database) : Prop where
  pointed : db.Pointed
  freed : ∀ round ∈ db.rounds.rows, round.Freed
  spoken : ∀ round ∈ db.rounds.rows, round.Spoken
  opened : db.Opened
  uuids : ∀ round ∈ db.rounds.rows, IsUuid round.id
  nodup : ∀ round ∈ db.rounds.rows, round.participantOrder.Nodup
  seated : ∀ round ∈ db.rounds.rows, ∀ participantId ∈ round.participantOrder,
    ∃ participant ∈ db.participants.rows, participant.id = participantId ∧ participant.roomId = round.roomId
  reached : ∀ execution ∈ db.modelExecutions.rows, execution.resultKind = .message →
    db.Reached execution.roomId execution.roundId execution.participantId
  aimed : ∀ execution ∈ db.modelExecutions.rows, execution.resultKind = .message →
    execution.state.isLive = true → db.AtCursor execution
  messageUuids : ∀ message ∈ db.messages.rows, IsUuid message.id
  summaryUuids : ∀ summary ∈ db.summaries.rows, IsUuid summary.id
  apart : ∀ message ∈ db.messages.rows, ∀ summary ∈ db.summaries.rows, message.id ≠ summary.id

theorem Coherent.empty : Database.empty.Coherent where
  pointed := .empty
  freed _ member := absurd member not_mem_nil
  spoken _ member := absurd member not_mem_nil
  opened _ member := absurd member not_mem_nil
  uuids _ member := absurd member not_mem_nil
  nodup _ member := absurd member not_mem_nil
  seated _ member := absurd member not_mem_nil
  reached _ member := absurd member not_mem_nil
  aimed _ member := absurd member not_mem_nil
  messageUuids _ member := absurd member not_mem_nil
  summaryUuids _ member := absurd member not_mem_nil
  apart _ member := absurd member not_mem_nil

variable {db next : Database} {entry : Option (JsString × Stamp)}
  {began : ModelExecution → Prop} {roomId roundId participantId : JsString}

theorem Change.round {old : DiscussionRound} (change : db.Change entry began next)
    (found : db.rounds.get roundId = some old) :
    ∃ round, next.rounds.get roundId = some round ∧ RoundStep old round := by
  obtain ⟨member, key⟩ := get_mem found
  obtain ⟨round, stored⟩ := change.keptRounds old member
  rw [key] at stored
  obtain ⟨roundMember, roundKey⟩ := get_mem stored
  rcases change.rounds round roundMember with ⟨other, otherFound, step⟩ | ⟨absent, -⟩
  · rw [roundKey, found] at otherFound
    cases otherFound
    exact ⟨round, stored, step⟩
  · rw [roundKey, found] at absent
    contradiction

theorem Change.execution {old : ModelExecution} (change : db.Change entry began next)
    (member : old ∈ db.modelExecutions.rows) :
    ∃ execution ∈ next.modelExecutions.rows, ExecutionStep old execution := by
  obtain ⟨execution, stored⟩ := change.keptExecutions old member
  obtain ⟨newMember, key⟩ := get_mem stored
  rcases change.executions execution newMember with ⟨other, otherFound, step⟩ | ⟨absent, -⟩
  · rw [key, Table.get_of_mem member] at otherFound
    cases otherFound
    exact ⟨execution, newMember, step⟩
  · rw [key, Table.get_of_mem member] at absent
    contradiction

variable {execution : ModelExecution}

theorem Change.message (change : db.Change entry began next)
    (member : execution ∈ next.modelExecutions.rows) (message : execution.resultKind = .message) :
    (∃ old ∈ db.modelExecutions.rows, ExecutionStep old execution) ∨ began execution := by
  rcases change.executions execution member with ⟨old, found, step⟩ | ⟨-, fresh⟩
  · exact .inl ⟨old, (get_mem found).1, step⟩
  · exact .inr (fresh message)

theorem Reached.change (reached : db.Reached roomId roundId participantId)
    (change : db.Change entry began next) : next.Reached roomId roundId participantId := by
  obtain ⟨old, found, own, focused, inOrder⟩ := reached
  obtain ⟨round, stored, step⟩ := change.round found
  refine ⟨round, stored, step.roomId.trans own, step.focus focused, ?_⟩
  rw [step.participantOrder]
  exact (take_subset_take_left _ (Nat.succ_le_succ step.cursor)) inOrder

theorem AtCursor.reached (aims : db.AtCursor execution) :
    db.Reached execution.roomId execution.roundId execution.participantId := by
  obtain ⟨round, found, own, focused, cursor⟩ := aims
  refine ⟨round, found, own, focused, ?_⟩
  obtain ⟨inside, same⟩ := List.getElem?_eq_some_iff.mp cursor
  rw [← same]
  exact mem_take_iff_getElem.mpr ⟨_, by omega, rfl⟩

theorem AtCursor.change (aims : db.AtCursor execution) (change : db.Change entry began next)
    (points : ∃ round, next.rounds.get execution.roundId = some round ∧
      round.activeExecutionId = some execution.executionId) : next.AtCursor execution := by
  obtain ⟨old, found, own, focused, cursor⟩ := aims
  obtain ⟨round, stored, step⟩ := change.round found
  obtain ⟨other, otherStored, active⟩ := points
  rw [stored] at otherStored
  cases otherStored
  refine ⟨round, stored, step.roomId.trans own, step.focus focused, ?_⟩
  rcases step.passes with same | free
  · rw [step.participantOrder, same]
    exact cursor
  · rw [free] at active
    contradiction

theorem Coherent.change (held : db.Coherent) (change : db.Change entry began next) (pointed : next.Pointed)
    (fresh : ∀ inRoom stamp, entry = some (inRoom, stamp) → IsUuid stamp.uuid ∧
      db.messages.get stamp.uuid = none ∧ db.summaries.get stamp.uuid = none)
    (begins : ∀ execution, began execution → db.AtCursor execution) : next.Coherent where
  pointed
  freed round member := by
    rcases change.rounds round member with ⟨old, found, step⟩ | ⟨-, made⟩
    · exact step.freed (held.freed old (get_mem found).1)
    · exact fun _ => made.free
  spoken round member := by
    rcases change.rounds round member with ⟨old, found, step⟩ | ⟨-, made⟩
    · exact step.spoken (held.spoken old (get_mem found).1)
    · intro summarizes
      simp [made.phase, made.pausedFrom] at summarizes
  opened := change.opened held.opened
  uuids round member := by
    rcases change.rounds round member with ⟨old, found, step⟩ | ⟨-, made⟩
    · rw [step.id]
      exact held.uuids old (get_mem found).1
    · exact made.uuid
  nodup round member := by
    rcases change.rounds round member with ⟨old, found, step⟩ | ⟨-, made⟩
    · rw [step.participantOrder]
      exact held.nodup old (get_mem found).1
    · exact made.nodup
  seated round member participantId inOrder := by
    rcases change.rounds round member with ⟨old, found, step⟩ | ⟨-, made⟩
    · rw [step.participantOrder] at inOrder
      obtain ⟨participant, stored, facts⟩ :=
        held.seated old (get_mem found).1 participantId inOrder
      rw [step.roomId]
      exact ⟨participant, change.participants participant stored, facts⟩
    · obtain ⟨participant, stored, facts⟩ := made.seated participantId inOrder
      exact ⟨participant, change.participants participant stored, facts⟩
  reached execution member message := by
    rcases change.message member message with ⟨old, stored, step⟩ | fresh
    · rw [step.roomId, step.roundId, step.participantId]
      exact (held.reached old stored (step.resultKind ▸ message)).change change
    · exact (begins execution fresh).reached.change change
  aimed execution member message live := by
    have points := pointed execution member ⟨by rw [message]; decide, live⟩
    rcases change.message member message with ⟨old, stored, step⟩ | fresh
    · obtain ⟨round, found, own, focused, cursor⟩ :=
        held.aimed old stored (step.resultKind ▸ message) (step.live live)
      rw [← step.roundId] at found
      rw [← step.roomId] at own
      rw [← step.participantId] at cursor
      exact AtCursor.change ⟨round, found, own, focused, cursor⟩ change points
    · exact (begins execution fresh).change change points
  messageUuids message member := by
    rcases change.messages message member with old | made
    · exact held.messageUuids message old
    · exact (fresh _ _ made).1
  summaryUuids summary member := by
    rcases change.summaries summary member with old | made
    · exact held.summaryUuids summary old
    · exact (fresh _ _ made).1
  apart message member summary summaryMember same := by
    rcases change.single with messages | summaries
    · rw [messages] at member
      rcases change.summaries summary summaryMember with old | made
      · exact held.apart message member summary old same
      · have absent := (fresh _ _ made).2.1
        simp only at absent
        rw [← same, Table.get_of_mem member] at absent
        contradiction
    · rw [summaries] at summaryMember
      rcases change.messages message member with old | made
      · exact held.apart message old summary summaryMember same
      · have absent := (fresh _ _ made).2.2
        simp only at absent
        rw [same, Table.get_of_mem summaryMember] at absent
        contradiction

theorem Coherent.skipsSettled (held : db.Coherent) (action : DiscussionAction) :
    skipsSettled db action := by
  cases action with
  | skipParticipant roomId roundId token now =>
    intro room round skipped admitted execution live
    have facts := admitSkip_ok admitted
    have free : round.activeExecutionId = none :=
      held.freed round (get_mem facts.stored).1
        (by simp [DiscussionRound.Working, facts.paused])
    simp [liveExecution, free] at live
  | _ => trivial

end Database

end CouncilKit.Discussion
