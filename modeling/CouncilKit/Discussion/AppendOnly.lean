import CouncilKit.Discussion.SharedContext
import CouncilKit.Host.SessionReconciler

namespace CouncilKit.Discussion

open Data Database Table JsString Option
open List hiding mem_filter get_of_mem
open Host

/-! A list that went to the Host is a prefix of every later list of its room, when
no entry comes to stand before an item of a list already taken.  That can
happen in two ways only: at a time that such an item has too, where the random
ids decide; and to a turn that is overtaken between its first read and its
request.  In particular the annotation of a skip, which has the time of an
execution that failed long before, never comes too early.
-/

namespace TimedItem

theorem before_of_not_after {left right : TimedItem} (times : ¬ right.at.Before left.at)
    (tie : left.at = right.at → left.item.id.Before right.item.id) : left.Before right := by
  simp only [Before]
  split
  · rename_i same
    exact tie same
  · rename_i apart
    rcases before_or_eq_or_before left.at right.at with earlier | same | later
    · exact earlier
    · exact absurd same apart
    · exact absurd later times

theorem Before.later {old mark later : TimedItem} (before : old.Before mark)
    (times : ¬ later.at.Before mark.at) (ids : later.item.id = mark.item.id) : old.Before later := by
  rcases before_or_eq_or_before mark.at later.at with earlier | same | after
  · have next : mark.Before later := by
      simp only [Before]
      rw [if_neg fun same => not_before_self _ (same ▸ earlier)]
      exact earlier
    exact before.trans next
  · simp only [Before] at before ⊢
    rw [← same, ids]
    exact before
  · exact absurd after times

end TimedItem

def slotMark (execution : ModelExecution) : TimedItem :=
  ⟨execution.createdAt, {
    id := skipId execution.roundId execution.participantId, role := .user, content := [] }⟩

namespace System

variable (s : System)

/-- The lists of a room that were sent, and those of the turns that are reading. -/
def handed (roomId : JsString) : List (List TimedItem) :=
  ((s.sent.filter (·.roomId = roomId)).map (·.rows.context)) ++
    (s.turns.rows.filter fun turn => turn.room.id = roomId ∧
        turn.reading.messages.isSome = true ∧ turn.overtaken = false).map
      fun turn => (turn.reading.filled (s.db.roomRows roomId)).context

def FreeAt (roomId now id : JsString) : Prop :=
  ∀ list ∈ s.handed roomId, ∀ timed ∈ list, timed.at = now → timed.item.id.Before id

instance (s : System) (roomId now id : JsString) : Decidable (s.FreeAt roomId now id) :=
  inferInstanceAs (Decidable (∀ list ∈ s.handed roomId, _))

/-- The ids of what comes in at a time that a list already has sort after that
list, and the turn that sends was not overtaken. -/
def Orderly : SystemAction → Prop
  | .transact action => ∀ entry ∈ action.inserts s.db,
      s.FreeAt entry.1 entry.2.now entry.2.uuid
  | .create turnId _ _ now => ∀ turn ∈ s.turns.get turnId, turn.resultKind = .message →
      s.FreeAt turn.room.id now (skipId turn.round.id turn.participant.id)
  | .send turnId => ∀ turn ∈ s.turns.get turnId, turn.overtaken = false
  | _ => True

instance (s : System) : (action : SystemAction) → Decidable (s.Orderly action)
  | .transact action => inferInstanceAs (Decidable (∀ entry ∈ action.inserts s.db, _))
  | .create turnId .. | .send turnId =>
    inferInstanceAs (Decidable (∀ turn ∈ s.turns.get turnId, _))
  | .start .. | .read .. | .persist .. => .isTrue trivial

def Candidate (execution : ModelExecution) : Prop :=
  execution ∈ s.db.modelExecutions.rows ∨
    ∃ turn ∈ s.turns.rows, ∃ prepared, turn.prepared = some prepared ∧ prepared.execution = execution

/-- Whichever slot of the room may yet be passed, its annotation comes after the
list: some execution of the slot does, or all of them do. -/
def Clear (roomId : JsString) (list : List TimedItem) : Prop :=
  ∀ round ∈ s.db.rounds.rows, round.roomId = roomId → ¬ round.Final →
    ∀ participantId ∈ round.participantOrder.drop round.nextParticipantIndex,
      (∃ execution ∈ s.db.modelExecutions.rows, execution.Speaks round.id participantId ∧
        ∀ timed ∈ list, timed.Before (slotMark execution)) ∨
      ∀ execution, s.Candidate execution → execution.Speaks round.id participantId →
        ∀ timed ∈ list, timed.Before (slotMark execution)

/-- What a turn has read of its room, and for the rest what it would read now. -/
def rowsOf (turn : Turn) : RoomRows :=
  turn.reading.filled (s.db.roomRows turn.room.id)

/-- The list of a turn that is reading or has read, and was not overtaken. -/
structure ListHeld (s : System) (turn : Turn) : Prop where
  agrees : (s.rowsOf turn).Agrees (s.db.roomRows turn.room.id)
  start : (s.rowsOf turn).context <+: s.db.context turn.room.id
  sent : ∀ dispatch ∈ s.sent, dispatch.roomId = turn.room.id →
    dispatch.rows.context <+: (s.rowsOf turn).context
  made : ∀ prepared ∈ turn.prepared, turn.resultKind = .message →
    ∀ timed ∈ (s.rowsOf turn).context, timed.Before (slotMark prepared.execution)
  clear : turn.begun = true → s.Clear turn.room.id (s.rowsOf turn).context

structure Made (s : System) (turn : Turn) (prepared : PreparedTurn) : Prop where
  roomId : prepared.execution.roomId = turn.room.id
  roundId : prepared.execution.roundId = turn.round.id
  participantId : prepared.execution.participantId = turn.participant.id
  resultKind : prepared.execution.resultKind = turn.resultKind
  time : ¬ s.clock.Before prepared.execution.createdAt
  read : turn.reading.messages.isSome = true
  items : ∀ rows, turn.reading.gathered = some rows →
    prepared.snapshot.items = rows.items turn.room

structure TurnHeld (s : System) (turn : Turn) : Prop where
  own : ∃ round, s.db.rounds.get turn.round.id = some round ∧ round.roomId = turn.room.id
  reached : turn.resultKind = .message →
    s.db.Reached turn.room.id turn.round.id turn.participant.id
  unread : turn.reading.messages = none → turn.reading = {}
  made : ∀ prepared ∈ turn.prepared, s.Made turn prepared
  begun : turn.begun = true → turn.prepared.isSome = true
  list : turn.reading.messages.isSome = true → turn.overtaken = false → s.ListHeld turn

structure SentHeld (s : System) (dispatch : Dispatch) : Prop where
  start : dispatch.rows.context <+: s.db.context dispatch.roomId
  clear : s.Clear dispatch.roomId dispatch.rows.context
  items : dispatch.snapshot.items = dispatch.rows.context.map (·.item)

structure Timely (s : System) : Prop where
  messages : ∀ message ∈ s.db.messages.rows, ¬ s.clock.Before message.createdAt
  summaries : ∀ summary ∈ s.db.summaries.rows, ¬ s.clock.Before summary.generatedAt
  executions : ∀ execution ∈ s.db.modelExecutions.rows, execution.resultKind = .message →
    ¬ s.clock.Before execution.createdAt

def Appended : Prop :=
  s.sent.Pairwise fun earlier later => earlier.roomId = later.roomId →
    earlier.rows.context <+: later.rows.context

structure Held (s : System) : Prop where
  coherent : s.db.Coherent
  timely : s.Timely
  turns : ∀ turn ∈ s.turns.rows, s.TurnHeld turn
  sent : ∀ dispatch ∈ s.sent, s.SentHeld dispatch
  appended : s.Appended

variable {s next : System} {entry : Option (JsString × Stamp)} {began : ModelExecution → Prop}
  {roomId : JsString} {list : List TimedItem} {turn : Turn} {dispatch : Dispatch}

variable {timed : TimedItem}

theorem Timely.context (timely : s.Timely)
    (shown : timed ∈ s.db.context roomId) : ¬ s.clock.Before timed.at := by
  rcases RoomRows.mem_context.mp shown with projected | noted
  · rcases RoomRows.mem_projected.mp projected with ⟨message, stored, rfl⟩ | ⟨summary, stored, rfl⟩
    · exact timely.messages message (mem_messages.mp stored).1
    · exact timely.summaries summary (mem_summaries.mp stored).1
  · obtain ⟨_, _, _, time, -, shows, rfl⟩ := RoomRows.mem_annotations.mp noted
    obtain ⟨execution, stored, speaks, -, rfl⟩ := shows.failed
    exact timely.executions execution (mem_executions.mp stored).1 speaks.2.2

theorem mem_handed_sent (member : dispatch ∈ s.sent) : dispatch.rows.context ∈ s.handed dispatch.roomId :=
  mem_append_left _ (mem_map_of_mem (List.mem_filter.mpr ⟨member, by simp⟩))

theorem mem_handed_turn (member : turn ∈ s.turns.rows)
    (reads : turn.reading.messages.isSome = true) (ahead : turn.overtaken = false) :
    (s.rowsOf turn).context ∈ s.handed turn.room.id :=
  mem_append_right _ (mem_map.mpr
    ⟨turn, List.mem_filter.mpr ⟨member, by simp [reads, ahead]⟩, rfl⟩)

/-- What every step but the request to the Host does: change the database, let
the clock go on, and perhaps make one execution. -/
structure Moves (s next : System) (entry : Option (JsString × Stamp))
    (began : ModelExecution → Prop) : Prop where
  change : s.db.Change entry began next.db
  coherent : next.db.Coherent
  begins : ∀ execution, began execution → s.db.AtCursor execution ∧ s.Candidate execution ∧
    ¬ next.clock.Before execution.createdAt
  clock : ¬ next.clock.Before s.clock
  entry : ∀ inRoom stamp, entry = some (inRoom, stamp) →
    stamp.now = next.clock ∧ s.FreeAt inRoom stamp.now stamp.uuid
  candidates : ∀ execution, next.Candidate execution → execution.resultKind = .message →
    (∃ old, s.Candidate old ∧ ExecutionStep old execution) ∨
      s.db.Reached execution.roomId execution.roundId execution.participantId ∧
        execution.createdAt = next.clock ∧
        s.FreeAt execution.roomId execution.createdAt (skipId execution.roundId execution.participantId)

theorem Moves.timely (moves : Moves s next entry began) (timely : s.Timely) : next.Timely where
  messages message member := by
    rcases moves.change.messages message member with old | made
    · exact not_before_trans (timely.messages message old) moves.clock
    · have now := (moves.entry _ _ made).1
      simp only at now
      rw [now]
      exact not_before_self _
  summaries summary member := by
    rcases moves.change.summaries summary member with old | made
    · exact not_before_trans (timely.summaries summary old) moves.clock
    · have now := (moves.entry _ _ made).1
      simp only at now
      rw [now]
      exact not_before_self _
  executions execution member message := by
    rcases moves.change.message member message with ⟨old, stored, step⟩ | fresh
    · rw [step.createdAt]
      exact not_before_trans (timely.executions old stored (step.resultKind ▸ message))
        moves.clock
    · exact (moves.begins execution fresh).2.2

theorem after_list (timely : s.Timely) (clock : ¬ next.clock.Before s.clock)
    (start : list <+: s.db.context roomId) (handed : list ∈ s.handed roomId)
    (now : timed.at = next.clock) (free : s.FreeAt roomId timed.at timed.item.id) :
    ∀ old ∈ list, old.Before timed := by
  intro old member
  refine TimedItem.before_of_not_after ?_ fun same => free list handed old member same
  rw [now]
  exact not_before_trans (timely.context (start.subset member)) clock

theorem Moves.start (moves : Moves s next entry began) (coherent : s.db.Coherent)
    (timely : s.Timely) (start : list <+: s.db.context roomId) (handed : list ∈ s.handed roomId)
    (notes : ∀ timed round participantId,
      NewlyShown s.db next.db roomId timed round participantId →
        ∀ old ∈ list, old.Before timed) :
    list <+: next.db.context roomId := by
  have begins : ∀ execution, began execution → s.db.AtCursor execution :=
    fun execution fresh => (moves.begins execution fresh).1
  refine prefix_grows TimedItem.Before.asymm coherent.keyed.distinct.sorted
    moves.coherent.keyed.distinct.sorted start
    (fun timed shown => context_kept coherent moves.change begins shown)
    fun timed shown => ?_
  rcases context_grown coherent moves.change begins shown with
    old | made | ⟨round, participantId, noted⟩
  · exact .inl old
  · obtain ⟨now, free⟩ := moves.entry _ _ made
    exact .inr (after_list timely moves.clock start handed now free)
  · exact .inr (notes timed round participantId noted)

theorem Moves.note (moves : Moves s next entry began) (clear : s.Clear roomId list)
    {round : DiscussionRound} {participantId : JsString}
    (noted : NewlyShown s.db next.db roomId timed round participantId) :
    ∀ old ∈ list, old.Before timed := by
  obtain ⟨later, laterMember, step, passed⟩ := noted.passed
  -- The executions of the slot have ended now, and the annotation has the latest time.
  have after : ∀ execution ∈ next.db.modelExecutions.rows,
      execution.Speaks round.id participantId →
      (∀ old ∈ list, old.Before (slotMark execution)) → ∀ old ∈ list, old.Before timed := by
    intro execution member speaks before old oldMember
    have inRoom : execution.roomId = roomId := by
      obtain ⟨other, found, own, -, -⟩ := moves.coherent.reached execution member speaks.2.2
      rw [speaks.1, ← step.id, get_of_mem laterMember] at found
      cases found
      rw [← own, step.roomId, noted.own]
    have stored := mem_executions.mpr ⟨member, inRoom⟩
    have ended : terminalExecutionStates execution = true := by
      have dead := moves.coherent.ended laterMember passed member (step.id ▸ speaks)
      have uncommitted := noted.shows.uncommitted execution stored speaks
      cases state : execution.state <;>
        simp_all [terminalExecutionStates, ModelExecutionState.isLive]
    have latest := noted.shows.last execution stored speaks ended
    refine (before old oldMember).later latest ?_
    rw [noted.id, slotMark, speaks.1, speaks.2.1]
  rcases clear round noted.stored noted.own noted.going participantId noted.unpassed with
    some | all
  · obtain ⟨execution, member, speaks, before⟩ := some
    obtain ⟨new, newMember, executionStep⟩ := moves.change.execution member
    refine after new newMember (executionStep.speaks.mpr speaks) ?_
    simpa only [slotMark, executionStep.createdAt, executionStep.roundId,
      executionStep.participantId] using before
  · obtain ⟨execution, stored, speaks, -, -⟩ := noted.shows.failed
    have member := (mem_executions.mp stored).1
    refine after execution member speaks ?_
    rcases moves.change.message member speaks.2.2 with ⟨old, oldMember, executionStep⟩ | fresh
    · have before := all old (.inl oldMember) (executionStep.speaks.mp speaks)
      simpa only [slotMark, executionStep.createdAt, executionStep.roundId,
        executionStep.participantId] using before
    · exact all execution (moves.begins execution fresh).2.1 speaks

variable {execution : ModelExecution}

theorem Candidate.reached (candidate : s.Candidate execution)
    (coherent : s.db.Coherent) (turns : ∀ turn ∈ s.turns.rows, s.TurnHeld turn)
    (message : execution.resultKind = .message) :
    s.db.Reached execution.roomId execution.roundId execution.participantId := by
  rcases candidate with stored | ⟨turn, member, prepared, made, rfl⟩
  · exact coherent.reached execution stored message
  · have facts := (turns turn member).made prepared made
    rw [facts.roomId, facts.roundId, facts.participantId]
    exact (turns turn member).reached (facts.resultKind.symm.trans message)

theorem Moves.placed (moves : Moves s next entry began)
    (coherent : s.db.Coherent) (turns : ∀ turn ∈ s.turns.rows, s.TurnHeld turn)
    (candidate : next.Candidate execution) (message : execution.resultKind = .message) :
    s.db.Reached execution.roomId execution.roundId execution.participantId := by
  rcases moves.candidates execution candidate message with ⟨old, known, step⟩ | ⟨reached, -⟩
  · rw [step.roomId, step.roundId, step.participantId]
    exact known.reached coherent turns (step.resultKind ▸ message)
  · exact reached

theorem Moves.clear (moves : Moves s next entry began) (coherent : s.db.Coherent)
    (timely : s.Timely) (turns : ∀ turn ∈ s.turns.rows, s.TurnHeld turn)
    (start : list <+: s.db.context roomId) (handed : list ∈ s.handed roomId)
    (clear : s.Clear roomId list) : next.Clear roomId list := by
  -- Every execution that comes up for a slot belongs to a round that is on disk.
  have placed : ∀ execution, next.Candidate execution → execution.resultKind = .message →
      s.db.Reached execution.roomId execution.roundId execution.participantId :=
    fun execution candidate message => moves.placed coherent turns candidate message
  intro round member inRoom going participantId unpassed
  rcases moves.change.rounds round member with ⟨old, found, step⟩ | ⟨absent, -⟩
  · have stored := (get_mem found).1
    have still : participantId ∈ old.participantOrder.drop old.nextParticipantIndex := by
      rw [step.participantOrder] at unpassed
      exact drop_subset_drop_left _ step.cursor unpassed
    have before := clear old stored (step.roomId.symm.trans inRoom)
      (fun final => going (step.final final).1) participantId still
    rw [step.id]
    rcases before with ⟨execution, executionMember, speaks, after⟩ | all
    · obtain ⟨new, newMember, executionStep⟩ := moves.change.execution executionMember
      refine .inl ⟨new, newMember, executionStep.speaks.mpr speaks, ?_⟩
      simpa only [slotMark, executionStep.createdAt, executionStep.roundId,
        executionStep.participantId] using after
    · refine .inr fun execution candidate speaks => ?_
      rcases moves.candidates execution candidate speaks.2.2 with
        ⟨known, was, executionStep⟩ | ⟨-, now, free⟩
      · have after := all known was (executionStep.speaks.mp speaks)
        simpa only [slotMark, executionStep.createdAt, executionStep.roundId,
          executionStep.participantId] using after
      · obtain ⟨own, foundOwn, same, -⟩ := placed execution candidate speaks.2.2
        rw [speaks.1, get_of_mem stored] at foundOwn
        cases foundOwn
        rw [← same, ← step.roomId, inRoom] at free
        exact after_list timely moves.clock start handed now free
  · refine .inr fun execution candidate speaks => ?_
    obtain ⟨other, found, -⟩ := placed execution candidate speaks.2.2
    rw [speaks.1, absent] at found
    contradiction

theorem SentHeld.moves (held : s.Held) (moves : Moves s next entry began)
    (member : dispatch ∈ s.sent) : next.SentHeld dispatch where
  start := by
    have sent := held.sent dispatch member
    exact moves.start held.coherent held.timely sent.start (mem_handed_sent member)
      fun _ _ _ noted => moves.note sent.clear noted
  clear := moves.clear held.coherent held.timely held.turns (held.sent dispatch member).start
    (mem_handed_sent member) (held.sent dispatch member).clear
  items := (held.sent dispatch member).items

theorem rowsOf_context (coherent : s.db.Coherent) (nextCoherent : next.db.Coherent)
    (agrees : (s.rowsOf turn).Agrees (s.db.roomRows turn.room.id))
    (grows : (s.db.roomRows turn.room.id).Agrees (next.db.roomRows turn.room.id))
    (reads : turn.reading.messages.isSome = true) :
    (next.rowsOf turn).Agrees (next.db.roomRows turn.room.id) ∧
      (next.rowsOf turn).context = (s.rowsOf turn).context := by
  have refilled : (next.rowsOf turn).Agrees (next.db.roomRows turn.room.id) :=
    agrees.refill grows nextCoherent.keyed
  refine ⟨refilled, eq_of_members TimedItem.Before.asymm (refilled.keyed nextCoherent.keyed).distinct.sorted
    (agrees.keyed coherent.keyed).distinct.sorted fun timed => ?_⟩
  have messages : (next.rowsOf turn).messages = (s.rowsOf turn).messages := by
    obtain ⟨read, found⟩ := isSome_iff_exists.mp reads
    simp [rowsOf, Reading.filled, found]
  have summaries : ∀ summary, summary ∈ (next.rowsOf turn).summaries ↔
      summary ∈ (s.rowsOf turn).summaries := fun summary =>
    (refilled.summaries summary).trans ((grows.summaries summary).symm.trans
      (agrees.summaries summary).symm)
  have annotations : timed ∈ (next.rowsOf turn).annotations ↔ timed ∈ (s.rowsOf turn).annotations :=
    refilled.mem_annotations.trans (grows.mem_annotations.symm.trans agrees.mem_annotations.symm)
  rw [RoomRows.mem_context, RoomRows.mem_context, RoomRows.mem_projected, RoomRows.mem_projected,
    messages, annotations]
  simp only [summaries]

theorem TurnHeld.moves {overtaken : Bool} (held : s.Held) (moves : Moves s next entry began)
    (member : turn ∈ s.turns.rows)
    (ahead : turn.reading.messages.isSome = true → overtaken = false → turn.overtaken = false ∧
      ¬ s.db.Advanced next.db turn.room.id ∧
      ∀ dispatch ∈ next.sent, dispatch.roomId = turn.room.id → dispatch ∈ s.sent) :
    next.TurnHeld { turn with overtaken } := by
  have turnHeld := held.turns turn member
  exact {
    own := by
      obtain ⟨round, found, own⟩ := turnHeld.own
      obtain ⟨later, stored, step⟩ := moves.change.round found
      exact ⟨later, stored, step.roomId.trans own⟩
    reached := fun message => (turnHeld.reached message).change moves.change
    unread := turnHeld.unread
    made := fun prepared made => by
      have facts := turnHeld.made prepared made
      exact { facts with time := not_before_trans facts.time moves.clock }
    begun := turnHeld.begun
    list := fun reads stillAhead => by
      obtain ⟨wasAhead, quiet, sent⟩ := ahead reads stillAhead
      have list := turnHeld.list reads wasAhead
      have handed := mem_handed_turn member reads wasAhead
      have begins : ∀ execution, began execution → s.db.AtCursor execution :=
        fun execution fresh => (moves.begins execution fresh).1
      obtain ⟨agrees, same⟩ := rowsOf_context held.coherent moves.coherent list.agrees
        (agrees_change held.coherent moves.change begins quiet) reads
      exact {
        agrees
        start := by
          refine same.symm ▸ moves.start held.coherent held.timely list.start handed
            fun _ _ _ noted => absurd noted.moved quiet
        sent := fun dispatch other own => same.symm ▸ list.sent dispatch (sent dispatch other own) own
        made := same.symm ▸ list.made
        clear := fun begun => same.symm ▸ moves.clear held.coherent held.timely held.turns
          list.start handed (list.clear begun) } }

theorem tick_some {reading : Option JsString} {clock : JsString} (ticked : s.tick reading = some clock) :
    ¬ clock.Before s.clock ∧ ∀ now ∈ reading, now = clock := by
  cases reading with
  | none =>
    cases ticked
    exact ⟨not_before_self _, fun _ given => by contradiction⟩
  | some now =>
    simp only [tick, ite_none_left_eq_some, Option.some.injEq] at ticked
    obtain ⟨ahead, rfl⟩ := ticked
    exact ⟨ahead, fun other given => (Option.some.inj given).symm⟩

theorem not_advanced_self (db : Database) (roomId : JsString) : ¬ db.Advanced db roomId := by
  intro advanced
  rcases advanced with ⟨round, member, -, further⟩ | ⟨summary, member, -, absent⟩
  · rw [get_of_mem member] at further
    simp at further
  · rw [get_of_mem member] at absent
    contradiction

theorem Moves.still (coherent : s.db.Coherent) (db : next.db = s.db) (clock : ¬ next.clock.Before s.clock)
    (candidates : ∀ turn ∈ next.turns.rows, ∀ prepared ∈ turn.prepared,
      (∃ old ∈ s.turns.rows, old.prepared = some prepared) ∨
        (prepared.execution.resultKind = .message →
          s.db.Reached prepared.execution.roomId prepared.execution.roundId
              prepared.execution.participantId ∧
            prepared.execution.createdAt = next.clock ∧
            s.FreeAt prepared.execution.roomId prepared.execution.createdAt
              (skipId prepared.execution.roundId prepared.execution.participantId))) :
    Moves s next none (fun _ => False) where
  change := db ▸ .refl _
  coherent := db ▸ coherent
  begins _ fresh := fresh.elim
  clock
  entry _ _ given := by contradiction
  candidates execution candidate message := by
    rcases candidate with stored | ⟨turn, member, prepared, made, rfl⟩
    · rw [db] at stored
      exact .inl ⟨execution, .inl stored, .refl _⟩
    · rcases candidates turn member prepared made with ⟨old, oldMember, same⟩ | fresh
      · exact .inl ⟨_, .inr ⟨old, oldMember, prepared, same, rfl⟩, .refl _⟩
      · exact .inr (fresh message)

theorem TurnHeld.still (held : s.Held) (moves : Moves s next none (fun _ => False))
    (db : next.db = s.db) (sent : next.sent = s.sent) (member : turn ∈ s.turns.rows) :
    next.TurnHeld turn := by
  have kept : next.TurnHeld { turn with overtaken := turn.overtaken } :=
    TurnHeld.moves held moves member fun _ ahead => ⟨ahead, db ▸ not_advanced_self _ _,
      fun dispatch other _ => sent ▸ other⟩
  exact kept

theorem overtake_eq (turn : Turn) (happened : JsString → Bool) :
    turn.overtake happened = { turn with
      overtaken := turn.overtaken || turn.reading.messages.isSome && happened turn.room.id } := by
  rw [Turn.overtake]
  split
  · rename_i both
    simp [both.1, both.2]
  · rename_i apart
    have flag : (turn.reading.messages.isSome && happened turn.room.id) = false := by
      simpa using apart
    rw [flag, Bool.or_false]

theorem TurnHeld.passOver (held : s.Held) (moves : Moves s next entry began)
    (sent : next.sent = s.sent) (member : turn ∈ s.turns.rows) :
    next.TurnHeld (turn.overtake fun roomId => s.db.Advanced next.db roomId) := by
  rw [overtake_eq]
  refine TurnHeld.moves held moves member fun reads ahead => ?_
  simp only [Bool.or_eq_false_iff, reads, Bool.true_and, decide_eq_false_iff_not] at ahead
  exact ⟨ahead.1, ahead.2, fun dispatch other _ => sent ▸ other⟩

theorem Held.transact [Digest] {action : DiscussionAction} (held : s.Held)
    (orderly : s.Orderly (.transact action)) (stepped : s.transact action = some next) :
    next.Held := by
  simp only [System.transact, ite_none_right_eq_some, bind_eq_bind,
    Option.bind_eq_some_iff, Option.pure_def, Option.some.injEq] at stepped
  obtain ⟨⟨called, fresh⟩, clock, ticked, after, moved, rfl⟩ := stepped
  obtain ⟨ahead, now⟩ := tick_some ticked
  have change := Change.step called fresh moved
  have coherent : after.Coherent := by
    refine held.coherent.change change
      (held.coherent.pointed.step (held.coherent.skipsSettled action) moved)
      (fun inRoom stamp inserts => ?_) fun _ never => never.elim
    exact fresh stamp.uuid (DiscussionAction.inserts_stamp inserts).2
  have moves : Moves s { s with db := after, clock, turns := s.passOver s.turns after }
      (action.inserts s.db) (fun _ => False) := {
    change
    coherent
    begins := fun _ never => never.elim
    clock := ahead
    entry := fun inRoom stamp inserts =>
      ⟨now _ (DiscussionAction.inserts_stamp inserts).1, orderly (inRoom, stamp) inserts⟩
    candidates := fun execution candidate message => by
      rcases candidate with stored | ⟨turn, member, prepared, made, rfl⟩
      · rcases change.message stored message with ⟨old, oldStored, step⟩ | never
        · exact .inl ⟨old, .inl oldStored, step⟩
        · exact never.elim
      · obtain ⟨old, oldMember, rfl⟩ := mem_map.mp member
        rw [overtake_eq] at made
        exact .inl ⟨_, .inr ⟨old, oldMember, prepared, made, rfl⟩, .refl _⟩ }
  exact {
    coherent
    timely := moves.timely held.timely
    turns := fun turn member => by
      obtain ⟨old, oldMember, rfl⟩ := mem_map.mp member
      exact TurnHeld.passOver held moves rfl oldMember
    sent := fun dispatch member => SentHeld.moves held moves member
    appended := held.appended }

theorem Held.still (held : s.Held) (moves : Moves s next none (fun _ => False))
    (sent : next.sent = s.sent) (turns : ∀ turn ∈ next.turns.rows, next.TurnHeld turn) :
    next.Held where
  coherent := moves.coherent
  timely := moves.timely held.timely
  turns
  sent dispatch member := SentHeld.moves held moves (sent ▸ member)
  appended := by
    rw [Appended, sent]
    exact held.appended

theorem Held.putTurn {clock : JsString} (held : s.Held) (ahead : ¬ clock.Before s.clock)
    (made : ∀ prepared ∈ turn.prepared,
      (∃ old ∈ s.turns.rows, old.prepared = some prepared) ∨
        (prepared.execution.resultKind = .message →
          s.db.Reached prepared.execution.roomId prepared.execution.roundId
              prepared.execution.participantId ∧
            prepared.execution.createdAt = clock ∧
            s.FreeAt prepared.execution.roomId prepared.execution.createdAt
              (skipId prepared.execution.roundId prepared.execution.participantId)))
    (kept : Moves s { s with clock, turns := s.turns.put turn } none (fun _ => False) →
      TurnHeld { s with clock, turns := s.turns.put turn } turn) :
    Held { s with clock, turns := s.turns.put turn } := by
  have moves : Moves s { s with clock, turns := s.turns.put turn } none (fun _ => False) := by
    refine Moves.still held.coherent rfl ahead fun other member prepared given => ?_
    rcases mem_put.mp member with rfl | ⟨old, -⟩
    · exact made prepared given
    · exact .inl ⟨other, old, given⟩
  refine held.still moves rfl fun other member => ?_
  rcases mem_put.mp member with rfl | ⟨old, -⟩
  · exact kept moves
  · exact TurnHeld.still held moves rfl rfl old

variable {turnId : Nat}

theorem Held.startTurn {roundId participantId : JsString} {resultKind : ResultKind}
    {retryOfExecutionId : Option JsString} (held : s.Held)
    (stepped : s.startTurn turnId roomId roundId participantId resultKind retryOfExecutionId =
      some next) : next.Held := by
  simp only [System.startTurn, bind_eq_bind, Option.bind_eq_some_iff,
    Option.filter_eq_some_iff, decide_eq_true_eq, ite_none_right_eq_some,
    Option.pure_def, Option.some.injEq] at stepped
  obtain ⟨room, inRoom, round, ⟨stored, own⟩, participant, seat, asks, turns, added, rfl⟩ := stepped
  obtain ⟨-, rfl⟩ := add_eq_some.mp added
  have roundKey : round.id = roundId := (get_mem stored).2
  have roomKey : room.id = roomId := (get_mem inRoom).2
  have seatKey : participant.id = participantId := (get_mem seat).2
  have reached : resultKind = .message → s.db.Reached roomId roundId participantId := by
    intro message
    rcases asks message with ⟨focused, cursor⟩ | ⟨execution, known, speaks⟩
    · obtain ⟨inside, same⟩ := List.getElem?_eq_some_iff.mp cursor
      exact ⟨round, stored, own, focused, same ▸ mem_take_iff_getElem.mpr ⟨_, by omega, rfl⟩⟩
    · obtain ⟨other, found, -, rest⟩ := held.coherent.reached execution known speaks.2.2
      rw [speaks.1, roundKey, stored] at found
      cases found
      rw [speaks.2.1] at rest
      exact ⟨round, stored, own, rest⟩
  refine held.putTurn (not_before_self _) (fun _ made => by contradiction) fun _ => {
    own := ⟨round, by rw [roundKey]; exact stored, own.trans roomKey.symm⟩
    reached := fun message => by
      rw [roomKey, roundKey, seatKey]
      exact reached message
    unread := fun _ => rfl
    made := fun _ made => by contradiction
    begun := fun begun => by contradiction
    list := fun reads => by contradiction }

theorem advance_messages (reading : Reading) (rows : RoomRows) :
    (reading.advance rows).messages.isSome = true := by
  obtain ⟨messages, summaries, executions, rounds, participants⟩ := reading
  cases messages with
  | none => rfl
  | some read =>
    simp only [Reading.advance, reduceCtorEq, if_false]
    repeat' split
    all_goals rfl

theorem filled_advance (reading : Reading) (rows : RoomRows) :
    (reading.advance rows).filled rows = reading.filled rows := by
  obtain ⟨messages, summaries, executions, rounds, participants⟩ := reading
  cases messages <;> cases summaries <;> cases executions <;> cases rounds <;>
    cases participants <;> rfl

theorem ListHeld.first (held : s.Held) (whole : s.rowsOf turn = s.db.roomRows turn.room.id)
    (unmade : turn.prepared = none) (idle : turn.begun = false) : s.ListHeld turn where
  agrees := by
    rw [whole]
    exact held.coherent.keyed.agrees
  start := by
    rw [whole]
    exact prefix_refl _
  sent dispatch member own := by
    rw [whole, ← own]
    exact (held.sent dispatch member).start
  made prepared made := by
    rw [unmade] at made
    contradiction
  clear begun := by
    rw [idle] at begun
    contradiction

theorem Held.readNext (held : s.Held) (stepped : s.readNext turnId = some next) :
    next.Held := by
  simp only [System.readNext, bind_eq_bind, Option.bind_eq_some_iff,
    Option.filter_eq_some_iff, Option.isNone_iff_eq_none, Option.pure_def,
    Option.some.injEq] at stepped
  obtain ⟨turn, ⟨found, unmade⟩, rfl⟩ := stepped
  have member := (get_mem found).1
  have turnHeld := held.turns turn member
  have idle : turn.begun = false := by
    by_contra begun
    have made := turnHeld.begun (Bool.eq_true_of_not_eq_false begun)
    rw [unmade] at made
    contradiction
  let read : Turn := { turn with reading := turn.reading.advance (s.db.roomRows turn.room.id) }
  have rows : s.rowsOf read = s.rowsOf turn := filled_advance ..
  -- What the turn has read is the same before the step and after it.
  have list : read.overtaken = false → s.ListHeld read := by
    intro ahead
    cases unread : turn.reading.messages with
    | none =>
      refine ListHeld.first held ?_ unmade idle
      rw [rows, rowsOf, turnHeld.unread unread]
      rfl
    | some messages =>
      have before := turnHeld.list (by rw [unread]; rfl) ahead
      exact {
        agrees := by rw [rows]; exact before.agrees
        start := by rw [rows]; exact before.start
        sent := by rw [rows]; exact before.sent
        made := fun prepared made => by
          rw [unmade] at made
          contradiction
        clear := fun begun => by
          rw [idle] at begun
          contradiction }
  refine held.putTurn (not_before_self _) (fun prepared made => ?_) fun moves => ?_
  · exact .inl ⟨turn, member, made⟩
  · have still := TurnHeld.still held moves rfl rfl member
    exact {
      own := still.own
      reached := still.reached
      unread := fun unread => by
        have some := advance_messages turn.reading (s.db.roomRows turn.room.id)
        rw [unread] at some
        contradiction
      made := fun prepared made => by
        rw [unmade] at made
        contradiction
      begun := still.begun
      list := fun _ ahead => {
        agrees := (list ahead).agrees
        start := (list ahead).start
        sent := (list ahead).sent
        made := (list ahead).made
        clear := fun begun => by
          rw [idle] at begun
          contradiction } }

theorem messages_gathered {reading : Reading} {rows : RoomRows}
    (gathered : reading.gathered = some rows) : reading.messages.isSome = true := by
  obtain ⟨messages, messagesRead, -⟩ := Option.bind_eq_some_iff.mp gathered
  rw [messagesRead]
  rfl

theorem Held.createExecution [Digest] {instructionText executionId now : JsString}
    (held : s.Held) (orderly : s.Orderly (.create turnId instructionText executionId now))
    (stepped : s.createExecution turnId instructionText executionId now = some next) :
    next.Held := by
  simp only [System.createExecution, bind_eq_bind, Option.bind_eq_some_iff,
    Option.filter_eq_some_iff, Option.isNone_iff_eq_none, Option.pure_def,
    Option.some.injEq] at stepped
  obtain ⟨turn, ⟨found, unmade⟩, rows, gathered, clock, ticked, snapshot, built, rfl⟩ := stepped
  obtain ⟨ahead, same⟩ := tick_some ticked
  obtain rfl : now = clock := same now rfl
  have member := (get_mem found).1
  have turnHeld := held.turns turn member
  have free : turn.resultKind = .message →
      s.FreeAt turn.room.id now (skipId turn.round.id turn.participant.id) := orderly turn found
  have read := messages_gathered gathered
  refine held.putTurn ahead (fun prepared made => ?_) fun moves => ?_
  · cases made
    exact .inr fun message => ⟨turnHeld.reached message, rfl, free message⟩
  · have still := TurnHeld.still held moves rfl rfl member
    exact {
      own := still.own
      reached := still.reached
      unread := still.unread
      made := fun prepared made => by
        cases made
        exact {
          roomId := rfl
          roundId := rfl
          participantId := rfl
          resultKind := rfl
          time := not_before_self _
          read
          items := fun other otherGathered => by
            rw [gathered] at otherGathered
            cases otherGathered
            exact buildContextSnapshot_items built }
      begun := fun _ => rfl
      list := fun reads notOvertaken => by
        have list := still.list reads notOvertaken
        have before := turnHeld.list reads notOvertaken
        exact {
          agrees := list.agrees
          start := list.start
          sent := list.sent
          made := fun prepared made message => by
            cases made
            exact after_list held.timely moves.clock before.start
              (mem_handed_turn member reads notOvertaken) rfl (free message)
          clear := fun begun => list.clear begun } }

section Begin

variable {execution : ModelExecution} {token : ControllerToken} {now : JsString}
  {after : Database}

theorem beginTurn_change (ended : s.beginTurn execution token now = .ok after) :
    s.db.Change none (fun began => began = execution ∧ execution.resultKind = .message) after := by
  rw [beginTurn] at ended
  split at ended
  · rename_i kind
    exact .beginFocusExecution (by rw [kind]; decide) ended
  · exact .beginReportExecution ended
  · exact .beginExecution ended
  · exact .beginExecution ended

theorem beginTurn_pointed (pointed : s.db.Pointed)
    (ended : s.beginTurn execution token now = .ok after) : after.Pointed := by
  have turn (began : s.db.beginExecution execution token = .ok after) : after.Pointed := by
    obtain ⟨round, room, admitted, -, -, began⟩ := beginExecution_ok began
    obtain ⟨-, rfl⟩ := begun_put began
    exact pointed.begun admitted.stored admitted.free
  rw [beginTurn] at ended
  split at ended
  · obtain ⟨round, room, admitted, -, -, began⟩ := beginFocusExecution_ok ended
    obtain ⟨-, rfl⟩ := begun_put began
    exact pointed.begun admitted.stored admitted.free
  · obtain ⟨room, aborted, idle, anchor, kind, -, -, aborts, -, -, -, -, -, -, added⟩ :=
      beginReportExecution_ok ended
    obtain ⟨-, rfl⟩ := addExecution_put added
    exact pointed.beginReport aborts kind
  · exact turn ended
  · exact turn ended

theorem beginTurn_cursor (ended : s.beginTurn execution token now = .ok after)
    (message : execution.resultKind = .message)
    (own : ∃ round, s.db.rounds.get execution.roundId = some round ∧
      round.roomId = execution.roomId) : s.db.AtCursor execution := by
  simp only [beginTurn, message] at ended
  obtain ⟨round, room, admitted, cursor, focused, -⟩ := beginExecution_ok ended
  obtain ⟨other, found, inRoom⟩ := own
  rw [admitted.stored] at found
  cases found
  rw [message] at cursor
  exact ⟨round, admitted.stored, inRoom, fun absent => focused ⟨.inl message, absent⟩,
    by simpa using cursor⟩

theorem report_closes {db : Database} (opened : after.Opened)
    (ended : db.beginReportExecution execution token now = .ok after) :
    ∀ round ∈ after.rounds.rows, round.roomId = execution.roomId → round.Final := by
  obtain ⟨room, aborted, idle, anchorRound, -, authorised, -, aborts, -, -, -, -, -, -, added⟩ :=
    beginReportExecution_ok ended
  obtain ⟨executions, -, rfl⟩ := addExecution_ok added
  intro round member inRoom
  by_contra going
  obtain ⟨row, found, runs⟩ := opened round member going
  have key : room.id = execution.roomId := (get_mem authorised.found).2
  have noRound : idle.activeRoundId = none ∧ idle.id = room.id := by
    cases aborts with
    | idle noRound => exact ⟨noRound, rfl⟩
    | gone | ended | aborted => exact ⟨rfl, rfl⟩
  simp only [putRoom, get_put, inRoom, ← key, noRound.2, if_true,
    Option.some.injEq] at found
  rw [← found, noRound.1] at runs
  contradiction

theorem begun_sole {db : Database} {phase : RoundPhase} {anchor round : DiscussionRound}
    {room : DiscussionRoom} (admitted : db.BeginAdmitted execution token phase anchor room)
    (working : phase = .running ∨ phase = .summarizing)
    (begun : db.begun anchor execution = .ok after) (opened : after.Opened)
    (member : round ∈ after.rounds.rows) (own : round.roomId = anchor.roomId)
    (going : ¬ round.Final) :
    round = { anchor with activeExecutionId := some execution.executionId } := by
  obtain ⟨added, inserted, rfl⟩ := begun_ok begun
  obtain ⟨executions, -, rfl⟩ := addExecution_ok inserted
  have pointing := mem_put.mpr (.inl rfl : { anchor with
    activeExecutionId := some execution.executionId } = _ ∨ _ ∈ db.rounds.rows ∧ _)
  have anchorGoing : ¬ anchor.Final := by
    rcases working with phase | phase <;> simp [DiscussionRound.Final, admitted.phase, phase]
  exact eq_of_key member pointing (opened.unique member pointing going anchorGoing own)

theorem begun_clear (moves : Moves s next none began) (coherent : s.db.Coherent)
    (turns : ∀ turn ∈ s.turns.rows, s.TurnHeld turn)
    (ended : s.beginTurn execution token now = .ok next.db)
    (own : ∃ round, s.db.rounds.get execution.roundId = some round ∧ round.roomId = execution.roomId)
    (before : execution.resultKind = .message →
      ∀ timed ∈ list, timed.Before (slotMark execution)) :
    next.Clear execution.roomId list := by
  obtain ⟨row, found, inRoom⟩ := own
  intro round member ownRoom going participantId unpassed
  -- A candidate for a slot finds the round at its slot, with a focus.
  have reached : ∀ candidate, next.Candidate candidate → candidate.Speaks round.id participantId →
      round.focusMessageId ≠ .null ∧
        participantId ∈ round.participantOrder.take (round.nextParticipantIndex + 1) := by
    intro candidate known speaks
    obtain ⟨other, otherFound, -, rest⟩ :=
      (moves.placed coherent turns known speaks.2.2).change moves.change
    rw [speaks.1, get_of_mem member] at otherFound
    cases otherFound
    rw [speaks.2.1] at rest
    exact rest
  have sole : ∀ {phase : RoundPhase} {anchor : DiscussionRound} {room : DiscussionRoom},
      s.db.BeginAdmitted execution token phase anchor room →
      phase = .running ∨ phase = .summarizing → s.db.begun anchor execution = .ok next.db →
      round = { anchor with activeExecutionId := some execution.executionId } := by
    intro phase anchor room admitted working begun
    have anchored := admitted.stored
    rw [found] at anchored
    cases anchored
    exact begun_sole admitted working begun moves.coherent.opened member (ownRoom.trans inRoom.symm) going
  cases kind : execution.resultKind with
  | focus =>
    simp only [beginTurn, kind] at ended
    obtain ⟨anchor, room, admitted, -, unfocused, begun⟩ := beginFocusExecution_ok ended
    obtain rfl := sole admitted (.inl rfl) begun
    exact .inr fun candidate known speaks => absurd unfocused (reached candidate known speaks).1
  | report =>
    simp only [beginTurn, kind] at ended
    exact absurd (report_closes moves.coherent.opened ended round member ownRoom) going
  | summary =>
    simp only [beginTurn, kind] at ended
    obtain ⟨anchor, room, admitted, -, -, begun⟩ := beginExecution_ok ended
    rw [if_pos kind] at admitted
    obtain rfl := sole admitted (.inr rfl) begun
    have spoken := coherent.spoken anchor (get_mem admitted.stored).1 (.inl admitted.phase)
    rw [drop_eq_nil_of_le spoken] at unpassed
    exact absurd unpassed not_mem_nil
  | message =>
    simp only [beginTurn, kind] at ended
    obtain ⟨anchor, room, admitted, cursor, -, begun⟩ := beginExecution_ok ended
    have notSummary : ¬ execution.resultKind = .summary := by
      rw [kind]
      decide
    rw [if_neg notSummary] at admitted cursor
    obtain rfl := sole admitted (.inl rfl) begun
    have nodup := coherent.nodup anchor (get_mem admitted.stored).1
    by_cases speaker : participantId = execution.participantId
    · have stored : execution ∈ next.db.modelExecutions.rows := by
        obtain ⟨added, inserted, same⟩ := begun_ok begun
        obtain ⟨executions, made, rfl⟩ := addExecution_ok inserted
        obtain ⟨-, rfl⟩ := add_eq_some.mp made
        rw [same]
        exact mem_put.mpr (.inl rfl)
      refine .inl ⟨execution, stored, ⟨?_, speaker.symm, kind⟩, before kind⟩
      exact (get_mem admitted.stored).2.symm
    · refine .inr fun candidate known speaks => ?_
      have early := (reached candidate known speaks).2
      obtain ⟨inside, same⟩ := List.getElem?_eq_some_iff.mp cursor
      simp only [drop_eq_getElem_cons inside, mem_cons, same] at unpassed
      have late := unpassed.resolve_left speaker
      exact absurd late (disjoint_take_drop nodup (le_refl _) early)

end Begin

theorem Held.persist [Digest] {token : ControllerToken} {now : JsString}
    (held : s.Held) (stepped : s.persist turnId token now = some next) : next.Held := by
  simp only [System.persist, bind_eq_bind, Option.bind_eq_some_iff,
    Option.filter_eq_some_iff, Option.pure_def] at stepped
  obtain ⟨turn, ⟨found, idle⟩, prepared, made, clock, ticked, stepped⟩ := stepped
  obtain ⟨ahead, same⟩ := tick_some ticked
  obtain rfl : now = clock := same now rfl
  have member := (get_mem found).1
  have turnHeld := held.turns turn member
  have facts := turnHeld.made prepared made
  split at stepped
  · cases stepped
    have moves : Moves s { s with clock := now } none (fun _ => False) :=
      Moves.still held.coherent rfl ahead fun other otherMember _ given =>
        .inl ⟨other, otherMember, given⟩
    exact held.still moves rfl fun other otherMember =>
      TurnHeld.still held moves rfl rfl otherMember
  · rename_i after ended
    cases stepped
    have change := beginTurn_change ended
    have own : ∃ round, s.db.rounds.get prepared.execution.roundId = some round ∧
        round.roomId = prepared.execution.roomId := by
      rw [facts.roundId, facts.roomId]
      exact turnHeld.own
    have cursor : prepared.execution.resultKind = .message →
        s.db.AtCursor prepared.execution := fun message => beginTurn_cursor ended message own
    have coherent : after.Coherent := held.coherent.change change
      (beginTurn_pointed held.coherent.pointed ended) (fun _ _ given => by contradiction)
      fun execution fresh => fresh.1 ▸ cursor fresh.2
    have known : s.Candidate prepared.execution := .inr ⟨turn, member, prepared, made, rfl⟩
    have moves : Moves s { s with
        db := after, clock := now
        turns := s.passOver (s.turns.put { turn with begun := true }) after } none
        (fun began => began = prepared.execution ∧
          prepared.execution.resultKind = .message) := {
      change
      coherent
      begins := fun execution fresh => by
        obtain ⟨rfl, message⟩ := fresh
        exact ⟨cursor message, known, not_before_trans facts.time ahead⟩
      clock := ahead
      entry := fun _ _ given => by contradiction
      candidates := fun execution candidate message => by
        rcases candidate with stored | ⟨turn, otherMember, other, otherMade, rfl⟩
        · rcases change.message stored message with ⟨old, oldStored, step⟩ | ⟨rfl, -⟩
          · exact .inl ⟨old, .inl oldStored, step⟩
          · exact .inl ⟨_, known, .refl _⟩
        · obtain ⟨old, oldMember, rfl⟩ := mem_map.mp otherMember
          rw [overtake_eq] at otherMade
          rcases mem_put.mp oldMember with rfl | ⟨oldMember, -⟩
          · exact .inl ⟨_, .inr ⟨_, member, other, otherMade, rfl⟩, .refl _⟩
          · exact .inl ⟨_, .inr ⟨old, oldMember, other, otherMade, rfl⟩, .refl _⟩ }
    exact {
      coherent
      timely := moves.timely held.timely
      turns := fun other otherMember => by
        obtain ⟨old, oldMember, rfl⟩ := mem_map.mp otherMember
        rcases mem_put.mp oldMember with rfl | ⟨oldMember, -⟩
        · have kept := TurnHeld.passOver held moves rfl member
          rw [overtake_eq] at kept ⊢
          exact {
            own := kept.own
            reached := kept.reached
            unread := kept.unread
            made := fun other otherMade => { kept.made other otherMade with }
            begun := fun _ => by
              rw [made]
              rfl
            list := fun reads ahead => by
              have list := kept.list reads ahead
              exact {
                agrees := list.agrees
                start := list.start
                sent := list.sent
                made := list.made
                clear := fun _ => facts.roomId ▸ begun_clear moves held.coherent held.turns ended
                  own fun message =>
                    list.made prepared made (facts.resultKind.symm.trans message) } }
        · exact TurnHeld.passOver held moves rfl oldMember
      sent := fun dispatch member => SentHeld.moves held moves member
      appended := held.appended }

theorem filled_gathered {reading : Reading} {rows current : RoomRows}
    (gathered : reading.gathered = some rows) :
    rows.projected = (reading.filled current).projected ∧
      rows.context = (reading.filled current).context := by
  obtain ⟨messages, summaries, executions, rounds, participants⟩ := reading
  simp only [Reading.gathered, bind_eq_bind, Option.bind_eq_some_iff] at gathered
  obtain ⟨_, rfl, _, rfl, executions, rfl, rest⟩ := gathered
  split at rest
  · simp only [Option.bind_eq_some_iff, Option.pure_def, Option.some.injEq] at rest
    obtain ⟨_, rfl, _, rfl, rfl⟩ := rest
    exact ⟨rfl, rfl⟩
  · rename_i quiet
    cases rest
    have silent : ∀ rounds participants,
        (RoomRows.mk ‹_› ‹_› executions rounds participants).annotations = [] :=
      fun _ _ => RoomRows.annotations_nil quiet
    simp only [Reading.filled, getD_some, RoomRows.context, silent]
    exact ⟨rfl, rfl⟩

theorem Held.send (held : s.Held) (orderly : s.Orderly (.send turnId))
    (stepped : s.send turnId = some next) : next.Held := by
  simp only [System.send, bind_eq_bind, Option.bind_eq_some_iff,
    Option.filter_eq_some_iff, Option.pure_def, Option.some.injEq] at stepped
  obtain ⟨turn, ⟨found, begun⟩, rows, gathered, prepared, made, rfl⟩ := stepped
  have member := (get_mem found).1
  have turnHeld := held.turns turn member
  have reads := messages_gathered gathered
  have ahead : turn.overtaken = false := orderly turn found
  have list := turnHeld.list reads ahead
  have handed := mem_handed_turn member reads ahead
  obtain ⟨projected, context⟩ : rows.projected = (s.rowsOf turn).projected ∧
      rows.context = (s.rowsOf turn).context := filled_gathered gathered
  have moves : Moves s { s with
      sent := s.sent ++ [⟨turn.room.id, rows, prepared.snapshot⟩]
      turns := (s.turns.filter (·.id ≠ turnId)).map (·.overtake (· = turn.room.id))
        (Turn.overtake_id _) } none (fun _ => False) := by
    refine Moves.still held.coherent rfl (not_before_self _) fun other otherMember _ given => .inl ?_
    obtain ⟨old, oldMember, rfl⟩ := mem_map.mp otherMember
    rw [overtake_eq] at given
    exact ⟨old, (mem_filter.mp oldMember).1, given⟩
  exact {
    coherent := held.coherent
    timely := moves.timely held.timely
    turns := fun other otherMember => by
      obtain ⟨old, oldMember, rfl⟩ := mem_map.mp otherMember
      rw [overtake_eq]
      refine TurnHeld.moves held moves (mem_filter.mp oldMember).1 fun otherReads still => ?_
      simp only [Bool.or_eq_false_iff, otherReads, Bool.true_and, decide_eq_false_iff_not] at still
      refine ⟨still.1, not_advanced_self _ _, fun dispatch sent own => ?_⟩
      rcases mem_append.mp sent with before | new
      · exact before
      · rw [mem_singleton.mp new] at own
        exact absurd own.symm still.2
    sent := fun dispatch sent => by
      rcases mem_append.mp sent with before | new
      · exact SentHeld.moves held moves before
      · rw [mem_singleton.mp new]
        exact {
          start := by
            rw [context]
            exact list.start
          clear := by
            rw [context]
            exact moves.clear held.coherent held.timely held.turns list.start handed (list.clear begun)
          items := by
            refine ((turnHeld.made prepared made).items rows gathered).trans
              (RoomRows.items_eq ?_ turn.room)
            rw [projected]
            exact (list.agrees.keyed held.coherent.keyed).distinct.projected }
    appended := by
      refine pairwise_append.mpr ⟨held.appended, pairwise_singleton _ _, ?_⟩
      intro earlier before later new own
      rw [mem_singleton.mp new] at own ⊢
      rw [context]
      exact list.sent earlier before own }

theorem Held.initial : System.initial.Held where
  coherent := .empty
  timely := ⟨fun _ member => absurd member not_mem_nil,
    fun _ member => absurd member not_mem_nil, fun _ member => absurd member not_mem_nil⟩
  turns _ member := absurd member not_mem_nil
  sent _ member := absurd member not_mem_nil
  appended := List.Pairwise.nil

theorem Held.step [Digest] {action : SystemAction} (held : s.Held) (orderly : s.Orderly action)
    (stepped : s.step action = some next) : next.Held := by
  cases action with
  | transact action => exact held.transact orderly stepped
  | start turnId => exact held.startTurn stepped
  | read turnId => exact held.readNext stepped
  | create turnId => exact held.createExecution orderly stepped
  | persist turnId => exact held.persist stepped
  | send turnId => exact held.send orderly stepped

end System

end CouncilKit.Discussion
