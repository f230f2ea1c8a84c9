import CouncilKit.Discussion.RoundPhases

namespace CouncilKit.Discussion

open Data Table
open List hiding get_of_mem mem_filter

structure SameTurn (old new : DiscussionRound) : Prop where
  id : new.id = old.id
  roomId : new.roomId = old.roomId
  participantOrder : new.participantOrder = old.participantOrder
  cursor : new.nextParticipantIndex = old.nextParticipantIndex
  focus : new.focusMessageId = old.focusMessageId

theorem SameTurn.refl {round : DiscussionRound} : SameTurn round round := ⟨rfl, rfl, rfl, rfl, rfl⟩

namespace Database

variable {db mid next : Database} {round old new : DiscussionRound} {action : RoomAction}

theorem RoundMoves.sameTurn {call : DiscussionAction} (moves : RoundMoves call old new) :
    SameTurn old new ∧ new.activeExecutionId = old.activeExecutionId := by
  cases moves <;> exact ⟨⟨rfl, rfl, rfl, rfl, rfl⟩, rfl⟩

theorem Releases.sameTurn (releases : Releases old new) :
    SameTurn old new ∧ new.activeExecutionId = none := by
  cases releases with
  | retried => exact ⟨⟨rfl, rfl, rfl, rfl, rfl⟩, rfl⟩
  | paused reason =>
    simp only [releasedRound]
    split <;> exact ⟨⟨rfl, rfl, rfl, rfl, rfl⟩, rfl⟩

def spoken (db : Database) (round : DiscussionRound) : List DiscussionMessage :=
  db.messages.rows.filter fun message => message.roundId = round.id ∧
    message.role = .participant ∧ round.focusMessageId ≠ .value message.id

/-- The order of a round's messages, given its number of skips. -/
structure SpeakingOrder (db : Database) (skips : Nat) (round : DiscussionRound) : Prop where
  speakers : ∃ speakers : List JsString,
    (db.spoken round).map (·.participantId) = speakers.map some ∧
      speakers.Sublist (round.participantOrder.take round.nextParticipantIndex)
  counted : round.nextParticipantIndex = (db.spoken round).length + skips
  unfocused : round.focusMessageId = .null → db.spoken round = []

/-- A message execution that a round points at is of the speaker at the cursor. -/
def Pending (db : Database) : Prop :=
  ∀ round ∈ db.rounds.rows, ∀ execution ∈ db.modelExecutions.rows,
    round.focusMessageId ≠ .null → execution.roundId = round.id →
    execution.resultKind = .message → round.activeExecutionId = some execution.executionId →
    round.participantOrder[round.nextParticipantIndex]? = some execution.participantId

structure Turns (db : Database) (skips : List JsString) : Prop where
  order : ∀ round ∈ db.rounds.rows, db.SpeakingOrder (skips.count round.id) round
  pending : db.Pending
  homes : ∀ message ∈ db.messages.rows, ∃ round ∈ db.rounds.rows,
    round.id = message.roundId ∧ round.roomId = message.roomId
  focus : ∀ round ∈ db.rounds.rows, ∀ id, round.focusMessageId = .value id →
    ∃ message ∈ db.messages.rows, message.id = id ∧ message.roomId = round.roomId
  known : ∀ roundId ∈ skips, db.rounds.get roundId ≠ none

structure SameSlot (old new : ModelExecution) : Prop where
  executionId : new.executionId = old.executionId
  roundId : new.roundId = old.roundId
  participantId : new.participantId = old.participantId
  resultKind : new.resultKind = old.resultKind

/-- The message executions are as before, up to what a turn does not look at. -/
def SameSlots (db next : Database) : Prop :=
  ∀ execution ∈ next.modelExecutions.rows, execution.resultKind = .message →
    ∃ old ∈ db.modelExecutions.rows, SameSlot old execution

theorem SameSlots.same (executions : next.modelExecutions = db.modelExecutions) : SameSlots db next := by
  intro execution member _
  rw [executions] at member
  exact ⟨execution, member, rfl, rfl, rfl, rfl⟩

theorem SameSlots.step {executionId : JsString} {execution was : ModelExecution}
    (stored : db.modelExecutions.get executionId = some was) (step : ExecutionStep was execution)
    (executions : next.modelExecutions = db.modelExecutions.put execution) :
    SameSlots db next := by
  intro other member _
  rw [executions] at member
  rcases mem_put.mp member with rfl | ⟨kept, -⟩
  · exact ⟨was, (get_mem stored).1, step.executionId, step.roundId, step.participantId, step.resultKind⟩
  · exact ⟨other, kept, rfl, rfl, rfl, rfl⟩

theorem SameSlots.interrupted {now : JsString} : SameSlots db (db.afterInterrupt round now) := by
  rw [afterInterrupt]
  split
  · rename_i execution live
    obtain ⟨stored, alive⟩ := liveExecution_stored live
    have step : ExecutionStep execution (interruptedByAbort execution now) :=
      ⟨rfl, rfl, rfl, rfl, rfl, rfl, .inl alive⟩
    exact .step stored step rfl
  · exact .same rfl

variable {execution : ModelExecution}

theorem SameSlots.withoutMessage (other : execution.resultKind ≠ .message)
    (executions : next.modelExecutions = db.modelExecutions.put execution) :
    SameSlots db next := by
  intro row member message
  rw [executions] at member
  rcases mem_put.mp member with rfl | ⟨kept, -⟩
  · exact absurd message other
  · exact ⟨row, kept, rfl, rfl, rfl, rfl⟩

def SamePointers (db next : Database) : Prop :=
  ∀ round ∈ next.rounds.rows, round.activeExecutionId = none ∨ ∃ old ∈ db.rounds.rows,
    SameTurn old round ∧ round.activeExecutionId = old.activeExecutionId

theorem SamePointers.same (rounds : next.rounds = db.rounds) : SamePointers db next := by
  intro round member
  rw [rounds] at member
  exact .inr ⟨round, member, .refl, rfl⟩

variable {roundId : JsString}

theorem SamePointers.put (stored : db.rounds.get roundId = some old)
    (points : new.activeExecutionId = none ∨
      SameTurn old new ∧ new.activeExecutionId = old.activeExecutionId)
    (rounds : next.rounds = db.rounds.put new) : SamePointers db next := by
  intro round member
  rw [rounds] at member
  rcases mem_put.mp member with rfl | ⟨kept, -⟩
  · rcases points with none | turn
    · exact .inl none
    · exact .inr ⟨old, (get_mem stored).1, turn⟩
  · exact .inr ⟨round, kept, .refl, rfl⟩

theorem Pending.keep (held : db.Pending) (slots : SameSlots db next)
    (pointers : SamePointers db next) : next.Pending := by
  intro round member execution running focused own message points
  rcases pointers round member with none | ⟨old, present, turn, kept⟩
  · rw [none] at points
    contradiction
  · obtain ⟨was, ran, slot⟩ := slots execution running message
    rw [turn.participantOrder, turn.cursor, slot.participantId]
    apply held old present was ran
    · rw [← turn.focus]
      exact focused
    · rw [← slot.roundId, ← turn.id]
      exact own
    · rw [← slot.resultKind]
      exact message
    · rw [← slot.executionId, ← kept]
      exact points

theorem Pending.begin (held : db.Pending) (stored : db.rounds.get execution.roundId = some old)
    (absent : db.modelExecutions.get execution.executionId = none)
    (turn : execution.resultKind = .message → old.focusMessageId ≠ .null →
      old.participantOrder[old.nextParticipantIndex]? = some execution.participantId) :
    ((db.putExecution execution).putRound
      { old with activeExecutionId := some execution.executionId }).Pending := by
  have key : old.id = execution.roundId := (get_mem stored).2
  intro round member other running focused own message points
  rcases mem_put.mp member with rfl | ⟨kept, different⟩
  · rcases mem_put.mp running with rfl | ⟨ran, elsewhere⟩
    · exact turn message focused
    · exact absurd (Option.some.inj points).symm elsewhere
  · rcases mem_put.mp running with rfl | ⟨ran, -⟩
    · exact absurd (own.symm.trans key.symm) different
    · exact held round kept other ran focused own message points

variable {skips : List JsString} {count : Nat}

theorem SpeakingOrder.keep (held : db.SpeakingOrder count old) (turn : SameTurn old new)
    (messages : next.spoken old = db.spoken old) : next.SpeakingOrder count new := by
  have same : next.spoken new = db.spoken old := by
    rw [← messages]
    simp only [spoken, turn.id, turn.focus]
  constructor
  · rw [same, turn.participantOrder, turn.cursor]
    exact held.speakers
  · rw [same, turn.cursor]
    exact held.counted
  · intro unfocused
    rw [same]
    rw [turn.focus] at unfocused
    exact held.unfocused unfocused

def KeepsRounds (db next : Database) : Prop :=
  ∀ old ∈ db.rounds.rows, ∃ round ∈ next.rounds.rows, round.id = old.id ∧ round.roomId = old.roomId

theorem KeepsRounds.same (rounds : next.rounds = db.rounds) : KeepsRounds db next := by
  intro old member
  rw [rounds]
  exact ⟨old, member, rfl, rfl⟩

theorem KeepsRounds.put (stored : db.rounds.get roundId = some old)
    (rounds : next.rounds = db.rounds.put new) (keeps : new.id = old.id ∧ new.roomId = old.roomId) :
    KeepsRounds db next := by
  intro other member
  rw [rounds]
  by_cases same : other.id = new.id
  · have present : old = other :=
      eq_of_key (get_mem stored).1 member (keeps.1.symm.trans same.symm)
    exact ⟨new, mem_put.mpr (.inl rfl), same.symm, present ▸ keeps.2⟩
  · exact ⟨other, mem_put.mpr (.inr ⟨member, same⟩), rfl, rfl⟩

theorem KeepsRounds.get (keeps : KeepsRounds db next)
    (known : db.rounds.get roundId ≠ none) : next.rounds.get roundId ≠ none := by
  obtain ⟨old, found⟩ := Option.ne_none_iff_exists'.mp known
  obtain ⟨member, key⟩ := get_mem found
  obtain ⟨round, present, same, -⟩ := keeps old member
  rw [← key, ← same, get_of_mem present]
  nofun

section

variable (held : db.Turns skips) (messages : next.messages = db.messages)

include held messages

theorem Turns.continues (pending : next.Pending)
    (turns : ∀ round ∈ next.rounds.rows, ∃ old ∈ db.rounds.rows, SameTurn old round)
    (keeps : KeepsRounds db next) : next.Turns skips where
  order round member := by
    obtain ⟨old, present, turn⟩ := turns round member
    rw [turn.id]
    exact (held.order old present).keep turn (by rw [spoken, spoken, messages])
  pending := pending
  homes message member := by
    rw [messages] at member
    obtain ⟨old, present, own, inRoom⟩ := held.homes message member
    obtain ⟨round, kept, same, room⟩ := keeps old present
    exact ⟨round, kept, same.trans own, room.trans inRoom⟩
  focus round member id focused := by
    obtain ⟨old, present, turn⟩ := turns round member
    rw [messages, turn.roomId]
    exact held.focus old present id (turn.focus ▸ focused)
  known roundId member := keeps.get (held.known roundId member)

theorem Turns.same (slots : SameSlots db next) (rounds : next.rounds = db.rounds) :
    next.Turns skips := by
  refine held.continues messages (held.pending.keep slots (.same rounds)) (fun round member => ?_)
    (.same rounds)
  rw [rounds] at member
  exact ⟨round, member, .refl⟩

theorem Turns.putRound (slots : SameSlots db next) (stored : db.rounds.get roundId = some old)
    (turn : SameTurn old new)
    (points : new.activeExecutionId = none ∨ new.activeExecutionId = old.activeExecutionId)
    (rounds : next.rounds = db.rounds.put new) : next.Turns skips := by
  have pointers : SamePointers db next := .put stored (points.imp_right fun same => ⟨turn, same⟩) rounds
  refine held.continues messages (held.pending.keep slots pointers) (fun round member => ?_)
    (.put stored rounds ⟨turn.id, turn.roomId⟩)
  rw [rounds] at member
  rcases mem_put.mp member with rfl | ⟨kept, -⟩
  · exact ⟨old, (get_mem stored).1, turn⟩
  · exact ⟨round, kept, .refl⟩

end

theorem Turns.begin (held : db.Turns skips) (stored : db.rounds.get execution.roundId = some old)
    (absent : db.modelExecutions.get execution.executionId = none)
    (turn : execution.resultKind = .message → old.focusMessageId ≠ .null →
      old.participantOrder[old.nextParticipantIndex]? = some execution.participantId)
    (row : new = { old with activeExecutionId := some execution.executionId }) :
    ((db.putExecution execution).putRound new).Turns skips := by
  have same : SameTurn old new := by
    rw [row]
    exact ⟨rfl, rfl, rfl, rfl, rfl⟩
  have pending : ((db.putExecution execution).putRound new).Pending := by
    rw [row]
    exact held.pending.begin stored absent turn
  refine held.continues rfl pending (fun round member => ?_) (.put stored rfl ⟨same.id, same.roomId⟩)
  rcases mem_put.mp member with rfl | ⟨kept, -⟩
  · exact ⟨old, (get_mem stored).1, same⟩
  · exact ⟨round, kept, .refl⟩

theorem Turns.createRound (held : db.Turns skips) (absent : db.rounds.get new.id = none)
    (cursor : new.nextParticipantIndex = 0) (focus : new.focusMessageId = .null)
    (idle : new.activeExecutionId = none) (messages : next.messages = db.messages)
    (executions : next.modelExecutions = db.modelExecutions)
    (rounds : next.rounds = db.rounds.put new) : next.Turns skips := by
  have keeps : KeepsRounds db next := by
    intro old member
    refine ⟨old, ?_, rfl, rfl⟩
    rw [rounds]
    refine mem_put.mpr (.inr ⟨member, fun same => ?_⟩)
    rw [← same, get_of_mem member] at absent
    contradiction
  have silent : next.spoken new = [] := by
    rw [spoken, messages, filter_eq_nil_iff]
    intro message member facts
    obtain ⟨round, present, own, -⟩ := held.homes message member
    rw [← (of_decide_eq_true facts).1, ← own, get_of_mem present] at absent
    contradiction
  have fresh : skips.count new.id = 0 :=
    count_eq_zero.mpr fun member => held.known new.id member absent
  constructor
  · intro round member
    rw [rounds] at member
    rcases mem_put.mp member with rfl | ⟨kept, -⟩
    · rw [fresh]
      exact ⟨⟨[], by rw [silent]; rfl, nil_sublist _⟩, by rw [silent, cursor]; rfl,
        fun _ => silent⟩
    · exact (held.order round kept).keep .refl (by rw [spoken, spoken, messages])
  · intro round member execution running focused own message points
    rw [rounds] at member
    rw [executions] at running
    rcases mem_put.mp member with rfl | ⟨kept, -⟩
    · exact absurd focus focused
    · exact held.pending round kept execution running focused own message points
  · intro message member
    rw [messages] at member
    obtain ⟨old, present, own, inRoom⟩ := held.homes message member
    obtain ⟨round, kept, same, room⟩ := keeps old present
    exact ⟨round, kept, same.trans own, room.trans inRoom⟩
  · intro round member id focused
    rw [rounds] at member
    rw [messages]
    rcases mem_put.mp member with rfl | ⟨kept, -⟩
    · rw [focus] at focused
      contradiction
    · exact held.focus round kept id focused
  · intro roundId member
    exact keeps.get (held.known roundId member)

section Messages

variable {message : DiscussionMessage}

theorem spoken_add (messages : next.messages = db.messages.put message)
    (absent : db.messages.get message.id = none) :
    next.spoken round = db.spoken round ++ (if message.roundId = round.id ∧
      message.role = .participant ∧ round.focusMessageId ≠ .value message.id then [message]
      else []) := by
  rw [spoken, messages, rows_put absent, filter_append, filter_singleton,
    Bool.cond_decide, spoken]

theorem Turns.homes_add (held : db.Turns skips) (keeps : KeepsRounds db next)
    (messages : next.messages = db.messages.put message)
    (home : ∃ round ∈ db.rounds.rows, round.id = message.roundId ∧ round.roomId = message.roomId) :
    ∀ other ∈ next.messages.rows, ∃ round ∈ next.rounds.rows,
      round.id = other.roundId ∧ round.roomId = other.roomId := by
  intro other member
  rw [messages] at member
  have before : ∃ round ∈ db.rounds.rows, round.id = other.roundId ∧ round.roomId = other.roomId := by
    rcases mem_put.mp member with rfl | ⟨kept, -⟩
    · exact home
    · exact held.homes other kept
  obtain ⟨old, present, own, inRoom⟩ := before
  obtain ⟨round, kept, same, room⟩ := keeps old present
  exact ⟨round, kept, same.trans own, room.trans inRoom⟩

theorem kept_message {other : DiscussionMessage} (absent : db.messages.get message.id = none)
    (member : other ∈ db.messages.rows) : other ∈ (db.messages.put message).rows := by
  refine mem_put.mpr (.inr ⟨member, fun same => ?_⟩)
  rw [← same, get_of_mem member] at absent
  contradiction

theorem Turns.addUser {roundId : JsString} (held : db.Turns skips) (user : message.role = .user)
    (stored : db.rounds.get roundId = some round) (own : round.id = message.roundId)
    (inRoom : round.roomId = message.roomId) (absent : db.messages.get message.id = none)
    (messages : next.messages = db.messages.put message) (rounds : next.rounds = db.rounds)
    (executions : next.modelExecutions = db.modelExecutions) : next.Turns skips := by
  have silent : ∀ other : DiscussionRound, next.spoken other = db.spoken other := by
    intro other
    rw [spoken_add messages absent, if_neg, append_nil]
    rw [user]
    simp
  constructor
  · intro other member
    rw [rounds] at member
    exact (held.order other member).keep .refl (silent other)
  · exact held.pending.keep (.same executions) (.same rounds)
  · exact held.homes_add (.same rounds) messages ⟨round, (get_mem stored).1, own, inRoom⟩
  · intro other member id focused
    rw [rounds] at member
    obtain ⟨present, said, same, room⟩ := held.focus other member id focused
    rw [messages]
    exact ⟨present, kept_message absent said, same, room⟩
  · intro roundId member
    rw [rounds]
    exact held.known roundId member

theorem Turns.speak {p : JsString} (held : db.Turns skips) (stored : db.rounds.get old.id = some old)
    (focused : old.focusMessageId ≠ .null)
    (cursor : old.participantOrder[old.nextParticipantIndex]? = some p)
    (role : message.role = .participant) (speaker : message.participantId = some p)
    (own : message.roundId = old.id) (inRoom : message.roomId = old.roomId)
    (absent : db.messages.get message.id = none) (slots : SameSlots db next)
    (messages : next.messages = db.messages.put message)
    (rounds : next.rounds = db.rounds.put (spokenRound old)) : next.Turns skips := by
  have member : old ∈ db.rounds.rows := (get_mem stored).1
  have keeps : KeepsRounds db next := .put stored rounds ⟨rfl, rfl⟩
  -- The focus of the round came in before, so the new message is not it.
  have unlike : old.focusMessageId ≠ .value message.id := by
    intro same
    obtain ⟨present, said, key, -⟩ := held.focus old member message.id same
    rw [← key, get_of_mem said] at absent
    contradiction
  have grown : next.spoken (spokenRound old) = db.spoken old ++ [message] := by
    rw [spoken_add messages absent, if_pos ⟨own, role, unlike⟩]
    rfl
  constructor
  · intro round present
    rw [rounds] at present
    rcases mem_put.mp present with rfl | ⟨kept, different⟩
    · obtain ⟨speakers, names, order⟩ := (held.order old member).speakers
      have counted := (held.order old member).counted
      constructor
      · refine ⟨speakers ++ [p], ?_, ?_⟩
        · rw [grown, map_append, names, map_append]
          simp [speaker]
        · change (speakers ++ [p]).Sublist (old.participantOrder.take (old.nextParticipantIndex + 1))
          rw [take_add_one, cursor]
          exact order.append (List.Sublist.refl _)
      · rw [grown, length_append]
        change old.nextParticipantIndex + 1 = (db.spoken old).length + 1 + skips.count old.id
        omega
      · intro unfocused
        exact absurd unfocused focused
    · refine (held.order round kept).keep .refl ?_
      rw [spoken_add messages absent, if_neg, append_nil]
      intro facts
      exact different (facts.1.symm.trans own)
  · exact held.pending.keep slots (.put stored (.inl rfl) rounds)
  · exact held.homes_add keeps messages ⟨old, member, own.symm, inRoom.symm⟩
  · intro round present id focus
    rw [rounds] at present
    rw [messages]
    have before : ∃ was ∈ db.rounds.rows, was.focusMessageId = .value id ∧ was.roomId = round.roomId := by
      rcases mem_put.mp present with rfl | ⟨kept, -⟩
      · exact ⟨old, member, focus, rfl⟩
      · exact ⟨round, kept, focus, rfl⟩
    obtain ⟨was, kept, focus, room⟩ := before
    obtain ⟨other, said, same, home⟩ := held.focus was kept id focus
    exact ⟨other, kept_message absent said, same, home.trans room⟩
  · intro roundId known
    exact keeps.get (held.known roundId known)

theorem Turns.focusIn (held : db.Turns skips) (stored : db.rounds.get old.id = some old)
    (unfocused : old.focusMessageId = .null) (own : message.roundId = old.id)
    (inRoom : message.roomId = old.roomId) (absent : db.messages.get message.id = none)
    (slots : SameSlots db next) (messages : next.messages = db.messages.put message)
    (rounds : next.rounds = db.rounds.put (focusedRound old message.id)) : next.Turns skips := by
  have member : old ∈ db.rounds.rows := (get_mem stored).1
  have keeps : KeepsRounds db next := .put stored rounds ⟨rfl, rfl⟩
  have silent := (held.order old member).unfocused unfocused
  have none : next.spoken (focusedRound old message.id) = [] := by
    rw [spoken_add messages absent, if_neg fun facts => facts.2.2 rfl, append_nil, spoken,
      filter_eq_nil_iff]
    rw [spoken, filter_eq_nil_iff] at silent
    intro other said facts
    obtain ⟨home, role, -⟩ := of_decide_eq_true facts
    apply silent other said
    simp only [decide_eq_true_eq]
    refine ⟨home, role, ?_⟩
    rw [unfocused]
    nofun
  constructor
  · intro round present
    rw [rounds] at present
    rcases mem_put.mp present with rfl | ⟨kept, different⟩
    · have counted := (held.order old member).counted
      rw [silent] at counted
      exact ⟨⟨[], by rw [none]; rfl, nil_sublist _⟩, by rw [none]; exact counted,
        fun _ => none⟩
    · refine (held.order round kept).keep .refl ?_
      rw [spoken_add messages absent, if_neg, append_nil]
      intro facts
      exact different (facts.1.symm.trans own)
  · exact held.pending.keep slots (.put stored (.inl rfl) rounds)
  · exact held.homes_add keeps messages ⟨old, member, own.symm, inRoom.symm⟩
  · intro round present id focus
    rw [rounds] at present
    rw [messages]
    rcases mem_put.mp present with rfl | ⟨kept, -⟩
    · cases focus
      exact ⟨message, mem_put.mpr (.inl rfl), rfl, inRoom⟩
    · obtain ⟨other, said, same, home⟩ := held.focus round kept id focus
      exact ⟨other, kept_message absent said, same, home⟩
  · intro roundId known
    exact keeps.get (held.known roundId known)

end Messages

theorem Turns.skip (held : db.Turns skips) (stored : db.rounds.get old.id = some old)
    (messages : next.messages = db.messages) (executions : next.modelExecutions = db.modelExecutions)
    (rounds : next.rounds = db.rounds.put (skippedRound old)) : next.Turns (skips ++ [old.id]) := by
  have member : old ∈ db.rounds.rows := (get_mem stored).1
  have keeps : KeepsRounds db next := .put stored rounds ⟨rfl, rfl⟩
  have silent : ∀ round : DiscussionRound, next.spoken round = db.spoken round := by
    intro round
    rw [spoken, spoken, messages]
  have same : db.spoken (skippedRound old) = db.spoken old := rfl
  constructor
  · intro round present
    rw [rounds] at present
    rw [count_append]
    rcases mem_put.mp present with rfl | ⟨kept, different⟩
    · obtain ⟨speakers, names, order⟩ := (held.order old member).speakers
      have counted := (held.order old member).counted
      have further : (skippedRound old).nextParticipantIndex = old.nextParticipantIndex + 1 := rfl
      constructor
      · refine ⟨speakers, by rw [silent, same]; exact names, order.trans ?_⟩
        exact take_sublist_take_left (Nat.le_succ _)
      · rw [silent, same, further, show (skippedRound old).id = old.id from rfl, count_singleton_self]
        omega
      · intro unfocused
        rw [silent, same]
        exact (held.order old member).unfocused unfocused
    · have other : [old.id].count round.id = 0 :=
        count_eq_zero.mpr fun single => different (mem_singleton.mp single)
      rw [other]
      exact (held.order round kept).keep .refl (silent round)
  · exact held.pending.keep (.same executions) (.put stored (.inl rfl) rounds)
  · intro message said
    rw [messages] at said
    obtain ⟨was, present, own, inRoom⟩ := held.homes message said
    obtain ⟨round, kept, same, room⟩ := keeps was present
    exact ⟨round, kept, same.trans own, room.trans inRoom⟩
  · intro round present id focus
    rw [rounds] at present
    rw [messages]
    rcases mem_put.mp present with rfl | ⟨kept, -⟩
    · exact held.focus old member id focus
    · exact held.focus round kept id focus
  · intro roundId known
    rcases mem_append.mp known with before | now
    · exact keeps.get (held.known roundId before)
    · rw [mem_singleton.mp now]
      exact keeps.get (by rw [stored]; nofun)

def known (db : Database) (skips : List JsString) : List JsString :=
  skips.filter fun roundId => (db.rounds.get roundId).isSome

theorem Turns.known_eq (held : db.Turns skips) : db.known skips = skips := by
  apply filter_eq_self.mpr
  intro roundId member
  exact Option.isSome_iff_ne_none.mpr (held.known roundId member)

theorem Turns.withoutRoom (held : db.Turns skips) (roomId : JsString) :
    (db.withoutRoom roomId).Turns ((db.withoutRoom roomId).known skips) where
  order round member := by
    obtain ⟨kept, elsewhere⟩ := mem_filter.mp member
    have counted : ((db.withoutRoom roomId).known skips).count round.id = skips.count round.id := by
      apply count_filter
      rw [get_of_mem member]
      rfl
    rw [counted]
    refine (held.order round kept).keep .refl ?_
    have rows : (db.withoutRoom roomId).messages.rows = db.messages.rows.filter (·.roomId ≠ roomId) := rfl
    rw [spoken, spoken, rows, filter_filter]
    apply filter_congr
    intro message said
    by_cases own : message.roundId = round.id
    · obtain ⟨home, present, same, inRoom⟩ := held.homes message said
      have there : home = round := eq_of_key present kept (same.trans own)
      rw [there] at inRoom
      simp only [decide_eq_true_eq] at elsewhere
      simp [← inRoom, elsewhere]
    · simp [own]
  pending := by
    apply held.pending.keep
    · intro execution member _
      exact ⟨execution, (mem_filter.mp member).1, rfl, rfl, rfl, rfl⟩
    · intro round member
      exact .inr ⟨round, (mem_filter.mp member).1, .refl, rfl⟩
  homes message member := by
    obtain ⟨said, elsewhere⟩ := mem_filter.mp member
    obtain ⟨round, present, same, inRoom⟩ := held.homes message said
    refine ⟨round, mem_filter.mpr ⟨present, ?_⟩, same, inRoom⟩
    rw [inRoom]
    exact elsewhere
  focus round member id focused := by
    obtain ⟨kept, elsewhere⟩ := mem_filter.mp member
    obtain ⟨message, said, same, home⟩ := held.focus round kept id focused
    refine ⟨message, mem_filter.mpr ⟨said, ?_⟩, same, home⟩
    rw [home]
    exact elsewhere
  known roundId member := Option.isSome_iff_ne_none.mp (List.mem_filter.mp member).2

theorem Turns.empty : Database.empty.Turns [] where
  order _ member := absurd member not_mem_nil
  pending _ member := absurd member not_mem_nil
  homes _ member := absurd member not_mem_nil
  focus _ member := absurd member not_mem_nil
  known _ member := absurd member not_mem_nil

def Skips (action : RoomAction) : Prop :=
  ∃ roomId roundId token now, action = .discussion (.skipParticipant roomId roundId token now)

variable [Digest]

theorem SameSlots.commits {input : CommitInput} {stamp : Stamp} {kind : ResultKind}
    {phase : RoundPhase} {context : CommitContext} {entityType : CommittedEntityType}
    (commits : db.Commits input stamp kind phase context)
    (executions : next.modelExecutions = db.modelExecutions.put
      (committedExecution context.execution input entityType stamp.uuid stamp.now)) :
    SameSlots db next := by
  have step : ExecutionStep context.execution
      (committedExecution context.execution input entityType stamp.uuid stamp.now) :=
    ⟨rfl, rfl, rfl, rfl, rfl, rfl, .inl commits.committable.live⟩
  exact .step commits.loaded.execution step executions

theorem Turns.write (held : db.Turns skips) (writes : db.Writes action next)
    (other : ¬ Skips action) : next.Turns (next.known skips) := by
  have settled : next.Turns skips → next.Turns (next.known skips) := by
    intro turns
    rw [turns.known_eq]
    exact turns
  cases writes with
  | aside | createRoom | room | updateRoomSharedConfig | renameRoom =>
    exact settled (held.same rfl (.same rfl) rfl)
  | execution stored step => exact settled (held.same rfl (.step stored step rfl) rfl)
  | appendUserMessage authorised stored own said absent =>
    subst said
    exact settled (held.addUser rfl stored (get_mem stored).2 own absent rfl rfl rfl)
  | createRound authorised opened idle quiet made absent =>
    subst made
    exact settled (held.createRound absent rfl rfl rfl rfl rfl rfl)
  | round stored moves =>
    obtain ⟨turn, points⟩ := RoundMoves.sameTurn moves
    exact settled (held.putRound rfl (.same rfl) stored turn (.inr points) rfl)
  | @abortRound _ _ _ now _ round authorised stored going =>
    have messages : (db.afterInterrupt round now).messages = db.messages := by
      rw [afterInterrupt]
      split <;> rfl
    have rounds : ((db.afterInterrupt round now).putRound (abortedRound round now)).rounds =
        db.rounds.put (abortedRound round now) := by
      rw [Database.putRound, afterInterrupt_rounds]
    have turn : SameTurn round (abortedRound round now) := ⟨rfl, rfl, rfl, rfl, rfl⟩
    exact settled (held.putRound messages .interrupted stored turn (.inl rfl) rounds)
  | skipParticipant admitted => exact absurd ⟨_, _, _, _, rfl⟩ other
  | beginExecution made admitted turn absent =>
    refine settled (held.begin admitted.stored absent (fun message _ => ?_) rfl)
    rw [if_neg (by rw [message]; simp)] at turn
    exact turn
  | beginFocusExecution made admitted unfocused absent =>
    exact settled (held.begin admitted.stored absent
      (fun _ focused => absurd unfocused focused) rfl)
  | @beginReportExecution _ _ now execution room idle aborted made kind authorised opened aborts quiet
      absent =>
      have silent : execution.resultKind ≠ .message := by
        rw [kind]
        simp
      have executions : ((aborted.putRoom { idle with lastActiveAt := now }).putExecution
          execution).modelExecutions = db.modelExecutions.put execution := by
        rw [putExecution, putRoom, aborts.executions]
      have slots : SameSlots db ((aborted.putRoom { idle with lastActiveAt := now }).putExecution
          execution) := .withoutMessage silent executions
      cases aborts with
      | idle | gone | ended => exact settled (held.same rfl slots rfl)
      | @aborted _ round active stored free going =>
        have turn : SameTurn round (abortedRound round now) := ⟨rfl, rfl, rfl, rfl, rfl⟩
        exact settled (held.putRound rfl slots stored turn (.inl rfl) rfl)
  | release found step stored points releases =>
    obtain ⟨turn, none⟩ := Releases.sameTurn releases
    exact settled (held.putRound rfl (.step found step rfl) stored turn (.inl none) rfl)
  | @commitModelMessage _ _ context commits focused absent =>
    have inRoom : context.room.id = context.round.roomId :=
      (get_mem commits.loaded.authorised.found).2
    have cursor := held.pending context.round (get_mem commits.loaded.round).1
      context.execution (get_mem commits.loaded.execution).1 focused
      (get_mem commits.loaded.round).2.symm commits.committable.1 commits.runs.2
    rw [← (get_mem commits.loaded.participant).2] at cursor
    exact settled (held.speak commits.stored focused cursor rfl rfl rfl inRoom absent
      (.commits commits rfl) rfl rfl)
  | @commitFocusMessage _ _ context commits unfocused absent =>
    have inRoom : context.room.id = context.round.roomId :=
      (get_mem commits.loaded.authorised.found).2
    exact settled (held.focusIn commits.stored unfocused rfl inRoom absent (.commits commits rfl)
      rfl rfl)
  | @commitSummary _ stamp context _ commits first absent bump =>
    have turn : SameTurn context.round (completedRound context.round stamp.now) :=
      ⟨rfl, rfl, rfl, rfl, rfl⟩
    exact settled (held.putRound rfl (.commits commits rfl) commits.stored turn (.inl rfl) rfl)
  | @commitReport input stamp execution _ report found authorised committable first opened made
      absent =>
      have step : ExecutionStep execution
          (committedExecution execution input .report report.id stamp.now) :=
        ⟨rfl, rfl, rfl, rfl, rfl, rfl, .inl committable.live⟩
      exact settled (held.same rfl (.step found step rfl) rfl)
  | deleteRoom => exact held.withoutRoom _

omit [Digest] in
def skipped (db : Database) : RoomAction → List JsString
  | .discussion (.skipParticipant roomId roundId token _) =>
    match db.admitSkip roomId roundId token with
    | .ok _ => [roundId]
    | .error _ => []
  | _ => []

theorem Turns.step (held : db.Turns skips) (stepped : db.roomStep action = some next) :
    next.Turns (next.known (skips ++ db.skipped action)) := by
  by_cases skip : Skips action
  · obtain ⟨roomId, roundId, token, now, rfl⟩ := skip
    have turns : next.Turns (skips ++ db.skipped
        (.discussion (.skipParticipant roomId roundId token now))) := by
      simp only [roomStep, Database.step, settleWith, skipParticipant] at stepped
      simp only [skipped]
      cases admitted : db.admitSkip roomId roundId token with
      | error failure =>
        rw [admitted] at stepped
        cases stepped
        rw [append_nil]
        exact held
      | ok facts =>
        obtain ⟨room, round, participant⟩ := facts
        have stored := (admitSkip_ok admitted).stored
        rw [admitted] at stepped
        cases stepped
        have key : round.id = roundId := (get_mem stored).2
        rw [← key] at stored ⊢
        exact held.skip stored rfl rfl rfl
    rw [turns.known_eq]
    exact turns
  · have silent : db.skipped action = [] := by
      unfold skipped
      split
      · exact absurd ⟨_, _, _, _, rfl⟩ skip
      · rfl
    rw [silent, append_nil]
    exact held.write (roomStep_writes stepped) skip

end Database

/-- A database, and the rounds of the skips that went through, as long as the
rounds are there. -/
structure SkipLog where
  db : Database
  skips : List JsString

def SkipLog.step [Digest] (log : SkipLog) (action : RoomAction) : Option SkipLog :=
  (log.db.roomStep action).map fun next =>
    ⟨next, next.known (log.skips ++ log.db.skipped action)⟩

def SkipLog.Held (log : SkipLog) : Prop := log.db.Turns log.skips

theorem SkipLog.Held.step [Digest] {log next : SkipLog} {action : RoomAction} (held : log.Held)
    (stepped : log.step action = some next) : next.Held := by
  simp only [SkipLog.step, Option.map_eq_some_iff] at stepped
  obtain ⟨after, stepped, rfl⟩ := stepped
  exact Database.Turns.step held stepped

/-- In every state of a run the messages of a round's speakers are in its order
below the cursor, the cursor counts them and the skips, and none is there before
the focus. -/
theorem Database.speaking_order [Digest] {actions : List RoomAction} {log : SkipLog}
    (run : Run SkipLog.step anyStep ⟨.empty, []⟩ actions log) :
    ∀ round ∈ log.db.rounds.rows, log.db.SpeakingOrder (log.skips.count round.id) round := by
  have base : SkipLog.Held ⟨.empty, []⟩ := Database.Turns.empty
  have held : log.Held := run.invariant (fun turns _ stepped => turns.step stepped) base
  exact held.order

theorem speaking_order_skipped :
    ∃ log, Run (@SkipLog.step sampleDigest) anyStep ⟨.empty, []⟩ (completedActions.map .discussion) log ∧
      ∃ round ∈ log.db.rounds.rows, (round.nextParticipantIndex, log.skips) = (2, [round.id]) ∧
        (log.db.spoken round).map (·.participantId) = [some (js "p")] ∧
        log.db.SpeakingOrder (log.skips.count round.id) round := by
  have ended : (execute (@SkipLog.step sampleDigest) ⟨.empty, []⟩
      (completedActions.map .discussion)).any (fun log =>
        (log.db.rounds.get (js "round")).any fun round =>
          (round.nextParticipantIndex, log.skips) = (2, [round.id]) ∧
            (log.db.spoken round).map (·.participantId) = [some (js "p")]) = true := by
    decide +kernel
  obtain ⟨log, ran, facts⟩ := (Option.any_eq_true _ _).mp ended
  obtain ⟨round, found, counts⟩ := (Option.any_eq_true _ _).mp facts
  obtain ⟨cursor, spoke⟩ := of_decide_eq_true counts
  have run : Run (@SkipLog.step sampleDigest) anyStep ⟨.empty, []⟩
      (completedActions.map .discussion) log := execute_run ran fun _ _ _ => trivial
  have member := (get_mem found).1
  exact ⟨log, run, round, member, cursor, spoke,
    @Database.speaking_order sampleDigest (completedActions.map .discussion) log run round member⟩

end CouncilKit.Discussion
