import CouncilKit.Discussion.Coherence

namespace CouncilKit.Discussion

open Data List Table

theorem lookupLast_of_mem {α κ : Type} [DecidableEq κ] {entries : List α} {keyOf : α → κ}
    {entry : α} (unique : (entries.map keyOf).Nodup) (member : entry ∈ entries) :
    lookupLast entries keyOf (keyOf entry) = some entry := by
  cases found : lookupLast entries keyOf (keyOf entry) with
  | none => exact absurd rfl (lookupLast_none.mp found entry member)
  | some other =>
    obtain ⟨stored, same⟩ := lookupLast_some found
    rw [inj_on_of_nodup_map unique stored member same]

variable {roundId participantId : JsString}

theorem skipId_injective {otherRound other : JsString} (lengths : roundId.length = otherRound.length)
    (same : skipId roundId participantId = skipId otherRound other) :
    roundId = otherRound ∧ participantId = other := by
  simp only [skipId, append_assoc] at same
  obtain ⟨rounds, rest⟩ := append_inj (append_cancel_left same) lengths
  exact ⟨rounds, append_cancel_left rest⟩

theorem skipId_not_uuid : ¬ IsUuid (skipId roundId participantId) := by
  intro uuid
  have first : (0x73 : CodeUnit) ∈ skipId roundId participantId := by
    simp only [skipId, mem_append]
    exact .inl (.inl (.inl (by decide)))
  exact absurd (uuid.2 _ first) (by decide)

namespace RoomRows

variable {rows current later : RoomRows} {roundId participantId : JsString} {roundNumber : Nat}
  {note : TimedItem}

def Passes (rows : RoomRows) (roundId : JsString) (roundNumber : Nat) (participantId : JsString) : Prop :=
  ∃ round ∈ rows.rounds, round.id = roundId ∧ round.roundNumber = roundNumber ∧
    participantId ∈ round.participantOrder.take round.nextParticipantIndex

theorem mem_annotations :
    note ∈ rows.annotations ↔ ∃ roundId roundNumber participantId time,
      rows.Passes roundId roundNumber participantId ∧ SlotShows rows.executions roundId participantId time ∧
        note = ⟨time, skipItem rows.participants roundId roundNumber participantId⟩ := by
  rw [annotations, mem_deriveSkipAnnotations]
  constructor
  · intro derived
    obtain ⟨round, member, participantId, passed, shown⟩ := derived
    obtain ⟨time, shows, same⟩ := slotNote_some.mp shown
    exact ⟨round.id, round.roundNumber, participantId, time, ⟨round, member, rfl, rfl, passed⟩, shows, same⟩
  · intro given
    obtain ⟨_, _, participantId, time, ⟨round, member, rfl, rfl, passed⟩, shows, same⟩ := given
    exact ⟨round, member, participantId, passed, slotNote_some.mpr ⟨time, shows, same⟩⟩

theorem mem_projected {entry : TimedItem} :
    entry ∈ rows.projected ↔
      (∃ message ∈ rows.messages, entry = ⟨message.createdAt, messageToItem message⟩) ∨
        ∃ summary ∈ rows.summaries, entry = ⟨summary.generatedAt, summaryToItem summary⟩ := by
  simp only [projected, timedItems, mem_append, mem_map, eq_comm]

structure Keyed (rows : RoomRows) : Prop where
  messages : (rows.messages.map (·.id)).Nodup
  messageUuids : ∀ message ∈ rows.messages, IsUuid message.id
  summaries : (rows.summaries.map (·.id)).Nodup
  summaryUuids : ∀ summary ∈ rows.summaries, IsUuid summary.id
  apart : ∀ message ∈ rows.messages, ∀ summary ∈ rows.summaries, message.id ≠ summary.id
  rounds : (rows.rounds.map (·.id)).Nodup
  roundUuids : ∀ round ∈ rows.rounds, IsUuid round.id
  orders : ∀ round ∈ rows.rounds, round.participantOrder.Nodup

theorem projected_ids : rows.projected.map (fun timed => timed.item.id) =
    rows.messages.map (·.id) ++ rows.summaries.map (·.id) := by
  rw [projected, timedItems, map_append, map_map, map_map]
  rfl

theorem annotations_ids_nodup (keyed : rows.Keyed) :
    (rows.annotations.map fun timed => timed.item.id).Nodup := by
  -- Each annotation carries the id of its slot, and each slot is visited once.
  have named : ∀ round participantId note,
      slotNote rows.executions rows.participants round participantId = some note →
      note.item.id = skipId round.id participantId := by
    intro round participantId note shown
    obtain ⟨time, -, rfl⟩ := slotNote_some.mp shown
    rfl
  rw [annotations, deriveSkipAnnotations, map_flatMap]
  refine nodup_flatMap.mpr ⟨fun round member => ?_, ?_⟩
  · refine List.Nodup.map_on ?_ ((keyed.orders round member).sublist (take_sublist ..) |>.filterMap ?_)
    · intro first firstMember second secondMember same
      obtain ⟨participantId, -, shown⟩ := mem_filterMap.mp firstMember
      obtain ⟨other, -, otherShown⟩ := mem_filterMap.mp secondMember
      rw [named _ _ _ shown, named _ _ _ otherShown] at same
      obtain ⟨-, rfl⟩ := skipId_injective rfl same
      rw [shown] at otherShown
      exact Option.some.inj otherShown
    · intro first second note firstShown secondShown
      have same := (named _ _ _ firstShown).symm.trans (named _ _ _ secondShown)
      exact (skipId_injective rfl same).2
  · refine (pairwise_map.mp keyed.rounds).imp_of_mem
      fun {first second} member other different => ?_
    intro id inFirst inSecond
    obtain ⟨note, noteMember, rfl⟩ := mem_map.mp inFirst
    obtain ⟨otherNote, otherMember, same⟩ := mem_map.mp inSecond
    obtain ⟨participantId, -, shown⟩ := mem_filterMap.mp noteMember
    obtain ⟨otherId, -, otherShown⟩ := mem_filterMap.mp otherMember
    rw [named _ _ _ shown, named _ _ _ otherShown] at same
    have lengths : second.id.length = first.id.length :=
      (keyed.roundUuids second other).1.trans (keyed.roundUuids first member).1.symm
    exact different (skipId_injective lengths same).1.symm

theorem Keyed.distinct (keyed : rows.Keyed) : rows.Distinct where
  projected := by
    rw [projected_ids]
    refine nodup_append.mpr ⟨keyed.messages, keyed.summaries, ?_⟩
    intro id messageId other summaryId same
    obtain ⟨message, member, rfl⟩ := mem_map.mp messageId
    obtain ⟨summary, summaryMember, rfl⟩ := mem_map.mp summaryId
    exact keyed.apart message member summary summaryMember same
  annotations := annotations_ids_nodup keyed
  apart projection member note noted same := by
    obtain ⟨roundId, roundNumber, participantId, time, -, -, rfl⟩ := mem_annotations.mp noted
    have uuid : IsUuid projection.item.id := by
      rcases mem_projected.mp member with ⟨message, stored, rfl⟩ | ⟨summary, stored, rfl⟩
      · exact keyed.messageUuids message stored
      · exact keyed.summaryUuids summary stored
    rw [same] at uuid
    exact skipId_not_uuid uuid

/-- Rows that were read from a room bit by bit show what the room shows now,
but for messages that came in since. -/
structure Agrees (rows current : RoomRows) : Prop where
  messages : ∀ message ∈ rows.messages, message ∈ current.messages
  messageIds : (rows.messages.map (·.id)).Nodup
  summaries : ∀ summary, summary ∈ rows.summaries ↔ summary ∈ current.summaries
  summaryIds : (rows.summaries.map (·.id)).Nodup
  roundIds : (rows.rounds.map (·.id)).Nodup
  roundUuids : ∀ round ∈ rows.rounds, IsUuid round.id
  orders : ∀ round ∈ rows.rounds, round.participantOrder.Nodup
  passes : ∀ roundId roundNumber participantId,
    rows.Passes roundId roundNumber participantId ↔
      current.Passes roundId roundNumber participantId
  shows : ∀ roundId roundNumber participantId,
    current.Passes roundId roundNumber participantId → ∀ time,
      SlotShows rows.executions roundId participantId time ↔
        SlotShows current.executions roundId participantId time
  names : ∀ roundId roundNumber participantId,
    current.Passes roundId roundNumber participantId →
      lookupLast rows.participants Participant.id participantId =
        lookupLast current.participants Participant.id participantId

theorem Keyed.agrees (keyed : rows.Keyed) : rows.Agrees rows where
  messages _ member := member
  messageIds := keyed.messages
  summaries _ := .rfl
  summaryIds := keyed.summaries
  roundIds := keyed.rounds
  roundUuids := keyed.roundUuids
  orders := keyed.orders
  passes _ _ _ := .rfl
  shows _ _ _ _ _ := .rfl
  names _ _ _ _ := rfl

theorem Agrees.keyed (agrees : rows.Agrees current) (keyed : current.Keyed) : rows.Keyed where
  messages := agrees.messageIds
  messageUuids message member := keyed.messageUuids message (agrees.messages message member)
  summaries := agrees.summaryIds
  summaryUuids summary member :=
    keyed.summaryUuids summary ((agrees.summaries summary).mp member)
  apart message member summary summaryMember := keyed.apart message
    (agrees.messages message member) summary ((agrees.summaries summary).mp summaryMember)
  rounds := agrees.roundIds
  roundUuids := agrees.roundUuids
  orders := agrees.orders

theorem Agrees.mem_annotations (agrees : rows.Agrees current) :
    note ∈ rows.annotations ↔ note ∈ current.annotations := by
  rw [RoomRows.mem_annotations, RoomRows.mem_annotations]
  constructor
  · intro given
    obtain ⟨roundId, roundNumber, participantId, time, passed, shows, rfl⟩ := given
    have now := (agrees.passes ..).mp passed
    exact ⟨roundId, roundNumber, participantId, time, now, (agrees.shows _ _ _ now time).mp shows,
      by simp only [skipItem, agrees.names _ _ _ now]⟩
  · intro given
    obtain ⟨roundId, roundNumber, participantId, time, now, shows, rfl⟩ := given
    exact ⟨roundId, roundNumber, participantId, time, (agrees.passes ..).mpr now,
      (agrees.shows _ _ _ now time).mpr shows, by simp only [skipItem, agrees.names _ _ _ now]⟩

end RoomRows

theorem RoomRows.Agrees.refill {reading : Reading} {current next : RoomRows}
    (agrees : (reading.filled current).Agrees current) (grows : current.Agrees next)
    (keyed : next.Keyed) : (reading.filled next).Agrees next := by
  obtain ⟨messages, summaries, executions, rounds, participants⟩ := reading
  have passed : ∀ roundId roundNumber participantId,
      next.Passes roundId roundNumber participantId →
        current.Passes roundId roundNumber participantId :=
    fun roundId roundNumber participantId => (grows.passes ..).mpr
  exact {
    messages := by
      cases messages with
      | none => exact fun _ member => member
      | some read => exact fun message member => grows.messages _ (agrees.messages _ member)
    messageIds := by
      cases messages with
      | none => exact keyed.messages
      | some read => exact agrees.messageIds
    summaries := by
      cases summaries with
      | none => exact fun _ => .rfl
      | some read => exact fun summary => (agrees.summaries summary).trans (grows.summaries summary)
    summaryIds := by
      cases summaries with
      | none => exact keyed.summaries
      | some read => exact agrees.summaryIds
    roundIds := by
      cases rounds with
      | none => exact keyed.rounds
      | some read => exact agrees.roundIds
    roundUuids := by
      cases rounds with
      | none => exact keyed.roundUuids
      | some read => exact agrees.roundUuids
    orders := by
      cases rounds with
      | none => exact keyed.orders
      | some read => exact agrees.orders
    passes := by
      cases rounds with
      | none => exact fun _ _ _ => .rfl
      | some read => exact fun _ _ _ => (agrees.passes ..).trans (grows.passes ..)
    shows := by
      cases executions with
      | none => exact fun _ _ _ _ _ => .rfl
      | some read =>
        exact fun _ _ _ now time => (agrees.shows _ _ _ (passed _ _ _ now) time).trans
          (grows.shows _ _ _ now time)
    names := by
      cases participants with
      | none => exact fun _ _ _ _ => rfl
      | some read =>
        exact fun _ _ _ now => (agrees.names _ _ _ (passed _ _ _ now)).trans (grows.names _ _ _ now) }

theorem SlotShows.of_matching {executions others : List ModelExecution} {time : JsString}
    (forward : ∀ execution ∈ executions, execution.Speaks roundId participantId →
      ∃ other ∈ others, other.Speaks roundId participantId ∧ other.state = execution.state ∧
        other.createdAt = execution.createdAt)
    (backward : ∀ other ∈ others, other.Speaks roundId participantId →
      ∃ execution ∈ executions, execution.Speaks roundId participantId ∧
        other.state = execution.state ∧ other.createdAt = execution.createdAt)
    (shows : SlotShows executions roundId participantId time) :
    SlotShows others roundId participantId time where
  uncommitted other member speaks := by
    obtain ⟨execution, stored, own, state, -⟩ := backward other member speaks
    rw [state]
    exact shows.uncommitted execution stored own
  failed := by
    obtain ⟨execution, stored, speaks, ended, rfl⟩ := shows.failed
    obtain ⟨other, member, own, state, created⟩ := forward execution stored speaks
    exact ⟨other, member, own, by rwa [terminalExecutionStates, state], created⟩
  last other member speaks ended := by
    obtain ⟨execution, stored, own, state, created⟩ := backward other member speaks
    rw [created]
    exact shows.last execution stored own (by rwa [terminalExecutionStates, ← state])

theorem ExecutionStep.speaks {old new : ModelExecution} (step : ExecutionStep old new) :
    new.Speaks roundId participantId ↔ old.Speaks roundId participantId := by
  simp only [ModelExecution.Speaks, step.roundId, step.participantId, step.resultKind]

namespace Database

variable {db next : Database} {entry : Option (JsString × Stamp)}
  {began : ModelExecution → Prop} {roomId roundId participantId : JsString}

def context (db : Database) (roomId : JsString) : List TimedItem := (db.roomRows roomId).context

theorem Coherent.keyed (held : db.Coherent) : (db.roomRows roomId).Keyed where
  messages := db.messages.unique.sublist (filter_sublist.map _)
  messageUuids message member := held.messageUuids message (mem_of_mem_filter member)
  summaries := db.summaries.unique.sublist (filter_sublist.map _)
  summaryUuids summary member := held.summaryUuids summary (mem_of_mem_filter member)
  apart message member summary summaryMember := held.apart message
    (mem_of_mem_filter member) summary (mem_of_mem_filter summaryMember)
  rounds := db.rounds.unique.sublist (filter_sublist.map _)
  roundUuids round member := held.uuids round (mem_of_mem_filter member)
  orders round member := held.nodup round (mem_of_mem_filter member)

variable {round : DiscussionRound}

theorem mem_rounds :
    round ∈ (db.roomRows roomId).rounds ↔ round ∈ db.rounds.rows ∧ round.roomId = roomId := by
  simp [roomRows]

variable {execution : ModelExecution}

theorem mem_executions :
    execution ∈ (db.roomRows roomId).executions ↔
      execution ∈ db.modelExecutions.rows ∧ execution.roomId = roomId := by
  simp [roomRows]

theorem mem_messages {message : DiscussionMessage} :
    message ∈ (db.roomRows roomId).messages ↔ message ∈ db.messages.rows ∧ message.roomId = roomId := by
  simp [roomRows]

theorem mem_summaries {summary : DiscussionSummary} :
    summary ∈ (db.roomRows roomId).summaries ↔ summary ∈ db.summaries.rows ∧ summary.roomId = roomId := by
  simp [roomRows]

theorem participants_unique : ((db.roomRows roomId).participants.map Participant.id).Nodup :=
  db.participants.unique.sublist (filter_sublist.map _)

theorem passed_not_at_cursor (nodup : round.participantOrder.Nodup)
    (passed : participantId ∈ round.participantOrder.take round.nextParticipantIndex) :
    round.participantOrder[round.nextParticipantIndex]? ≠ some participantId := by
  intro cursor
  obtain ⟨inside, same⟩ := List.getElem?_eq_some_iff.mp cursor
  obtain ⟨index, before, alike⟩ := mem_take_iff_getElem.mp passed
  have equal : index = round.nextParticipantIndex :=
    nodup.getElem_inj_iff.mp (alike.trans same.symm)
  omega

theorem Coherent.ended (held : db.Coherent) (member : round ∈ db.rounds.rows)
    (passed : participantId ∈ round.participantOrder.take round.nextParticipantIndex)
    (stored : execution ∈ db.modelExecutions.rows) (speaks : execution.Speaks round.id participantId) :
    execution.state.isLive = false := by
  obtain ⟨own, speaker, message⟩ := speaks
  by_contra live
  obtain ⟨other, found, -, -, cursor⟩ :=
    held.aimed execution stored message (Bool.eq_true_of_not_eq_false live)
  rw [own, Table.get_of_mem member] at found
  cases found
  rw [speaker] at cursor
  exact passed_not_at_cursor (held.nodup round member) passed cursor

section Change

variable (held : db.Coherent) (change : db.Change entry began next)
  (begins : ∀ execution, began execution → db.AtCursor execution)

include held change begins

variable {round : DiscussionRound}

theorem slotShows_change {time : JsString} (member : round ∈ db.rounds.rows)
    (passed : participantId ∈ round.participantOrder.take round.nextParticipantIndex) :
    SlotShows (db.roomRows roomId).executions round.id participantId time ↔
      SlotShows (next.roomRows roomId).executions round.id participantId time := by
  have unchanged : ∀ {old new : ModelExecution}, old ∈ db.modelExecutions.rows →
      old.Speaks round.id participantId → ExecutionStep old new → new.state = old.state := by
    intro old new stored speaks step
    rcases step.state with live | same
    · rw [held.ended member passed stored speaks] at live
      contradiction
    · exact same
  have forward : ∀ execution ∈ (db.roomRows roomId).executions, execution.Speaks round.id participantId →
      ∃ other ∈ (next.roomRows roomId).executions, other.Speaks round.id participantId ∧
        other.state = execution.state ∧ other.createdAt = execution.createdAt := by
    intro execution stored speaks
    obtain ⟨inTable, own⟩ := mem_executions.mp stored
    obtain ⟨other, otherMember, step⟩ := change.execution inTable
    exact ⟨other, mem_executions.mpr ⟨otherMember, step.roomId.trans own⟩, step.speaks.mpr speaks,
      unchanged inTable speaks step, step.createdAt⟩
  have backward : ∀ other ∈ (next.roomRows roomId).executions,
      other.Speaks round.id participantId →
      ∃ execution ∈ (db.roomRows roomId).executions, execution.Speaks round.id participantId ∧
        other.state = execution.state ∧ other.createdAt = execution.createdAt := by
    intro other otherMember speaks
    obtain ⟨inTable, own⟩ := mem_executions.mp otherMember
    rcases change.message inTable speaks.2.2 with ⟨execution, stored, step⟩ | fresh
    · have speaking := step.speaks.mp speaks
      exact ⟨execution, mem_executions.mpr ⟨stored, step.roomId.symm.trans own⟩, speaking,
        unchanged stored speaking step, step.createdAt⟩
    · obtain ⟨cursorRound, found, -, -, cursor⟩ := begins other fresh
      rw [speaks.1, Table.get_of_mem member] at found
      cases found
      rw [speaks.2.1] at cursor
      exact absurd cursor (passed_not_at_cursor (held.nodup round member) passed)
  constructor
  · exact SlotShows.of_matching forward backward
  · refine SlotShows.of_matching ?_ ?_
    · intro other otherMember speaks
      obtain ⟨execution, stored, own, state, created⟩ := backward other otherMember speaks
      exact ⟨execution, stored, own, state.symm, created.symm⟩
    · intro execution stored speaks
      obtain ⟨other, otherMember, own, state, created⟩ := forward execution stored speaks
      exact ⟨other, otherMember, own, state.symm, created.symm⟩

omit begins in
theorem names_change (member : round ∈ db.rounds.rows)
    (own : round.roomId = roomId) (inOrder : participantId ∈ round.participantOrder) :
    lookupLast (db.roomRows roomId).participants Participant.id participantId =
      lookupLast (next.roomRows roomId).participants Participant.id participantId := by
  obtain ⟨participant, stored, rfl, inRoom⟩ := held.seated round member participantId inOrder
  have here : participant ∈ (db.roomRows roomId).participants := by
    simpa [roomRows] using ⟨stored, inRoom.trans own⟩
  have there : participant ∈ (next.roomRows roomId).participants := by
    simpa [roomRows] using ⟨change.participants participant stored, inRoom.trans own⟩
  rw [lookupLast_of_mem participants_unique here, lookupLast_of_mem participants_unique there]

omit held begins in
theorem passes_change (member : round ∈ next.rounds.rows)
    (passed : participantId ∈ round.participantOrder.take round.nextParticipantIndex) :
    ∃ old ∈ db.rounds.rows, RoundStep old round := by
  rcases change.rounds round member with ⟨old, found, step⟩ | ⟨-, made⟩
  · exact ⟨old, (get_mem found).1, step⟩
  · rw [made.cursor, take_zero] at passed
    exact absurd passed not_mem_nil

theorem context_kept {timed : TimedItem} (shown : timed ∈ db.context roomId) :
    timed ∈ next.context roomId := by
  refine RoomRows.mem_context.mpr ?_
  rcases RoomRows.mem_context.mp shown with projected | noted
  · refine .inl (RoomRows.mem_projected.mpr ?_)
    rcases RoomRows.mem_projected.mp projected with ⟨message, stored, rfl⟩ | ⟨summary, stored, rfl⟩
    · obtain ⟨inTable, own⟩ := mem_messages.mp stored
      exact .inl ⟨message, mem_messages.mpr ⟨change.keptMessages message inTable, own⟩, rfl⟩
    · obtain ⟨inTable, own⟩ := mem_summaries.mp stored
      exact .inr ⟨summary, mem_summaries.mpr ⟨change.keptSummaries summary inTable, own⟩, rfl⟩
  · obtain ⟨_, _, participantId, time, ⟨old, member, rfl, rfl, passed⟩, shows, rfl⟩ :=
      RoomRows.mem_annotations.mp noted
    obtain ⟨inTable, own⟩ := mem_rounds.mp member
    obtain ⟨round, stored, step⟩ := change.round (get_of_mem inTable)
    have still : participantId ∈ round.participantOrder.take round.nextParticipantIndex := by
      rw [step.participantOrder]
      exact take_subset_take_left _ step.cursor passed
    refine .inr (RoomRows.mem_annotations.mpr ⟨old.id, old.roundNumber, participantId, time,
      ⟨round, mem_rounds.mpr ⟨(get_mem stored).1, step.roomId.trans own⟩, step.id,
        step.roundNumber, still⟩, (slotShows_change held change begins inTable passed).mp shows, ?_⟩)
    simp only [skipItem, names_change held change inTable own (mem_of_mem_take passed)]

/-- A slot that the cursor of an open round comes to pass, and what it then shows. -/
structure NewlyShown (db next : Database) (roomId : JsString) (timed : TimedItem)
    (round : DiscussionRound) (participantId : JsString) : Prop where
  stored : round ∈ db.rounds.rows
  own : round.roomId = roomId
  going : ¬ round.Final
  unpassed : participantId ∈ round.participantOrder.drop round.nextParticipantIndex
  passed : ∃ later ∈ next.rounds.rows, RoundStep round later ∧
    participantId ∈ later.participantOrder.take later.nextParticipantIndex
  moved : db.Advanced next roomId
  shows : SlotShows (next.roomRows roomId).executions round.id participantId timed.at
  id : timed.item.id = skipId round.id participantId

/-- What a room shows after a change it showed before, or it is the entry that
came in, or the annotation of a slot just passed. -/
theorem context_grown {timed : TimedItem} (shown : timed ∈ next.context roomId) :
    timed ∈ db.context roomId ∨ entry = some (roomId, ⟨timed.at, timed.item.id⟩) ∨
      ∃ round participantId, NewlyShown db next roomId timed round participantId := by
  rcases RoomRows.mem_context.mp shown with projected | noted
  · rcases RoomRows.mem_projected.mp projected with ⟨message, stored, rfl⟩ | ⟨summary, stored, rfl⟩
    · obtain ⟨inTable, rfl⟩ := mem_messages.mp stored
      rcases change.messages message inTable with old | made
      · exact .inl (RoomRows.mem_context.mpr (.inl (RoomRows.mem_projected.mpr
          (.inl ⟨message, mem_messages.mpr ⟨old, rfl⟩, rfl⟩))))
      · exact .inr (.inl made)
    · obtain ⟨inTable, rfl⟩ := mem_summaries.mp stored
      rcases change.summaries summary inTable with old | made
      · exact .inl (RoomRows.mem_context.mpr (.inl (RoomRows.mem_projected.mpr
          (.inr ⟨summary, mem_summaries.mpr ⟨old, rfl⟩, rfl⟩))))
      · exact .inr (.inl made)
  · obtain ⟨_, _, participantId, time, ⟨round, member, rfl, rfl, passed⟩, shows, rfl⟩ :=
      RoomRows.mem_annotations.mp noted
    obtain ⟨inTable, own⟩ := mem_rounds.mp member
    obtain ⟨old, stored, step⟩ := passes_change change inTable passed
    rw [step.id] at shows ⊢
    rw [step.participantOrder] at passed
    by_cases before : participantId ∈ old.participantOrder.take old.nextParticipantIndex
    · refine .inl (RoomRows.mem_context.mpr (.inr (RoomRows.mem_annotations.mpr
        ⟨old.id, old.roundNumber, participantId, time,
          ⟨old, mem_rounds.mpr ⟨stored, step.roomId.symm.trans own⟩, rfl, rfl, before⟩,
          (slotShows_change held change begins stored before).mpr shows, ?_⟩)))
      simp only [skipItem, step.roundNumber, names_change held change stored
        (step.roomId.symm.trans own) (mem_of_mem_take before)]
    · have unpassed : participantId ∈ old.participantOrder.drop old.nextParticipantIndex := by
        have whole := mem_of_mem_take passed
        rw [← take_append_drop old.nextParticipantIndex old.participantOrder] at whole
        exact (mem_append.mp whole).resolve_left before
      have further : old.nextParticipantIndex < round.nextParticipantIndex := by
        by_contra still
        have same : round.nextParticipantIndex = old.nextParticipantIndex :=
          Nat.le_antisymm (Nat.le_of_not_lt still) step.cursor
        rw [same] at passed
        exact before passed
      have going : ¬ old.Final := fun final => by
        have same := (step.final final).2
        omega
      refine .inr (.inr ⟨old, participantId, {
        stored
        own := step.roomId.symm.trans own
        going
        unpassed
        passed := ⟨round, inTable, step, by rw [step.participantOrder]; exact passed⟩
        moved := .inl ⟨round, inTable, own, ?_⟩
        shows
        id := rfl }⟩)
      rw [step.id, Table.get_of_mem stored]
      exact further

theorem agrees_change (quiet : ¬ db.Advanced next roomId) :
    (db.roomRows roomId).Agrees (next.roomRows roomId) := by
  have keyed : (db.roomRows roomId).Keyed := held.keyed
  have cursor : ∀ {old round : DiscussionRound}, old ∈ db.rounds.rows → round ∈ next.rounds.rows →
      RoundStep old round → round.roomId = roomId →
      round.nextParticipantIndex = old.nextParticipantIndex := by
    intro old round stored member step own
    refine Nat.le_antisymm (Nat.le_of_not_lt fun further => quiet (.inl ⟨round, member, own, ?_⟩))
      step.cursor
    rw [step.id, Table.get_of_mem stored]
    exact further
  have passes : ∀ roundId roundNumber participantId,
      (db.roomRows roomId).Passes roundId roundNumber participantId ↔
        (next.roomRows roomId).Passes roundId roundNumber participantId := by
    intro roundId roundNumber participantId
    constructor
    · intro passed
      obtain ⟨old, member, rfl, rfl, passed⟩ := passed
      obtain ⟨stored, own⟩ := mem_rounds.mp member
      obtain ⟨round, found, step⟩ := change.round (get_of_mem stored)
      obtain ⟨inTable, -⟩ := get_mem found
      have here := step.roomId.trans own
      refine ⟨round, mem_rounds.mpr ⟨inTable, here⟩, step.id, step.roundNumber, ?_⟩
      rw [step.participantOrder, cursor stored inTable step here]
      exact passed
    · intro passed
      obtain ⟨round, member, rfl, rfl, passed⟩ := passed
      obtain ⟨inTable, own⟩ := mem_rounds.mp member
      obtain ⟨old, stored, step⟩ := passes_change change inTable passed
      refine ⟨old, mem_rounds.mpr ⟨stored, step.roomId.symm.trans own⟩, step.id.symm,
        step.roundNumber.symm, ?_⟩
      rw [step.participantOrder, cursor stored inTable step own] at passed
      exact passed
  exact {
    messages := by
      intro message member
      obtain ⟨stored, own⟩ := mem_messages.mp member
      exact mem_messages.mpr ⟨change.keptMessages message stored, own⟩
    messageIds := keyed.messages
    summaries := by
      intro summary
      rw [mem_summaries, mem_summaries]
      constructor
      · exact fun given => ⟨change.keptSummaries summary given.1, given.2⟩
      · intro given
        refine ⟨?_, given.2⟩
        by_contra absent
        refine quiet (.inr ⟨summary, given.1, given.2, get_eq_none.mpr fun other stored same => ?_⟩)
        exact absent (eq_of_key (change.keptSummaries other stored) given.1 same ▸ stored)
    summaryIds := keyed.summaries
    roundIds := keyed.rounds
    roundUuids := keyed.roundUuids
    orders := keyed.orders
    passes
    shows := by
      intro roundId roundNumber participantId passed time
      obtain ⟨old, member, rfl, -, before⟩ := (passes ..).mpr passed
      exact slotShows_change held change begins (mem_rounds.mp member).1 before
    names := by
      intro roundId roundNumber participantId passed
      obtain ⟨old, member, rfl, -, before⟩ := (passes ..).mpr passed
      obtain ⟨stored, own⟩ := mem_rounds.mp member
      exact names_change held change stored own (mem_of_mem_take before) }

end Change

end Database

end CouncilKit.Discussion
