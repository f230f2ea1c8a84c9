import CouncilKit.Discussion.RoundPhases

namespace CouncilKit.Discussion

open Data Database Table

instance (round : DiscussionRound) : Decidable round.Final := inferInstanceAs (Decidable (_ ∨ _))

/-- The facts of a room that are not its messages, summaries and rounds. -/
structure SameFacts (old new : DiscussionRoom) : Prop where
  topic : new.topic = old.topic
  background : new.background = old.background
  contextRevision : new.contextRevision = old.contextRevision
  status : new.status = old.status

def RoomAction.creates : RoomAction → Option JsString
  | .discussion (.createRoom _ _ stamp) => some stamp.uuid
  | _ => none

namespace Database

/-- No facts of the room are added or changed, and none is lost while it is there. -/
structure FactsFrozen (roomId : JsString) (db next : Database) : Prop where
  room : ∀ room, next.rooms.get roomId = some room →
    ∃ old, db.rooms.get roomId = some old ∧ SameFacts old room
  rounds : ∀ round : DiscussionRound, round.roomId = roomId → round ∈ next.rounds.rows →
    round ∈ db.rounds.rows
  messages : ∀ message : DiscussionMessage, message.roomId = roomId → message ∈ next.messages.rows →
    message ∈ db.messages.rows
  summaries : ∀ summary : DiscussionSummary, summary.roomId = roomId →
    summary ∈ next.summaries.rows → summary ∈ db.summaries.rows
  keptRounds : next.rooms.get roomId ≠ none → ∀ round ∈ db.rounds.rows, round.roomId = roomId →
    round ∈ next.rounds.rows
  keptMessages : next.rooms.get roomId ≠ none → ∀ message ∈ db.messages.rows,
    message.roomId = roomId → message ∈ next.messages.rows
  keptSummaries : next.rooms.get roomId ≠ none → ∀ summary ∈ db.summaries.rows,
    summary.roomId = roomId → summary ∈ next.summaries.rows

def permits (db : Database) : RoomAction → Bool
  | .discussion (.appendUserMessage roomId _ _ _ _) =>
    (db.rooms.get roomId).all fun room => room.status ≠ .concluded
  | .discussion (.updateRoomSharedConfig roomId _ topic background _) =>
    (db.rooms.get roomId).all fun room => room.status = .concluded →
      topic.getD room.topic = room.topic ∧ background.getD room.background = room.background
  | .renameRoom roomId topic _ =>
    (db.rooms.get roomId).all fun room => room.status = .concluded → room.topic = topic
  | .discussion (.commitReport input _) =>
    (db.modelExecutions.get input.executionId).all fun execution =>
      ∀ round ∈ db.rounds.rows, round.roomId = execution.roomId → round.Final
  | _ => true

def Permitted (db : Database) (action : RoomAction) : Prop := db.permits action = true

instance : ∀ db action, Decidable (Permitted db action) :=
  fun _ _ => inferInstanceAs (Decidable (_ = true))

/-- A room that is concluded, or gone, and every round of it over. -/
structure Settled (db : Database) (roomId : JsString) : Prop where
  concluded : ∀ room, db.rooms.get roomId = some room → room.status = .concluded
  final : ∀ round ∈ db.rounds.rows, round.roomId = roomId → round.Final

variable {db mid next : Database} {roomId : JsString} {action : RoomAction}

theorem FactsFrozen.refl : FactsFrozen roomId db db where
  room room found := ⟨room, found, rfl, rfl, rfl, rfl⟩
  rounds _ _ member := member
  messages _ _ member := member
  summaries _ _ member := member
  keptRounds _ _ member _ := member
  keptMessages _ _ member _ := member
  keptSummaries _ _ member _ := member

theorem FactsFrozen.present (frozen : FactsFrozen roomId db next)
    (present : next.rooms.get roomId ≠ none) : db.rooms.get roomId ≠ none := by
  obtain ⟨room, found⟩ := Option.ne_none_iff_exists'.mp present
  obtain ⟨old, stored, -⟩ := frozen.room room found
  rw [stored]
  nofun

theorem FactsFrozen.trans (first : FactsFrozen roomId db mid) (second : FactsFrozen roomId mid next) :
    FactsFrozen roomId db next where
  room room found := by
    obtain ⟨between, stored, late⟩ := second.room room found
    obtain ⟨old, start, early⟩ := first.room between stored
    exact ⟨old, start, late.topic.trans early.topic, late.background.trans early.background,
      late.contextRevision.trans early.contextRevision, late.status.trans early.status⟩
  rounds round own member := first.rounds round own (second.rounds round own member)
  messages message own member := first.messages message own (second.messages message own member)
  summaries summary own member := first.summaries summary own (second.summaries summary own member)
  keptRounds present round member own :=
    second.keptRounds present round (first.keptRounds (second.present present) round member own) own
  keptMessages present message member own := second.keptMessages present message
    (first.keptMessages (second.present present) message member own) own
  keptSummaries present summary member own := second.keptSummaries present summary
    (first.keptSummaries (second.present present) summary member own) own

theorem get_withoutRoom {gone : JsString} {room : DiscussionRoom}
    (found : (db.withoutRoom gone).rooms.get roomId = some room) :
    db.rooms.get roomId = some room ∧ roomId ≠ gone := by
  rw [withoutRoom, get_filter, Option.filter_eq_some_iff] at found
  obtain ⟨stored, elsewhere⟩ := found
  rw [(get_mem stored).2] at elsewhere
  exact ⟨stored, of_decide_eq_true elsewhere⟩

theorem present_withoutRoom {gone : JsString}
    (present : (db.withoutRoom gone).rooms.get roomId ≠ none) : roomId ≠ gone := by
  obtain ⟨room, found⟩ := Option.ne_none_iff_exists'.mp present
  exact (get_withoutRoom found).2

theorem Settled.silent {context : CommitContext} (settled : db.Settled roomId)
    (commits : db.CommitsTurn context) : context.room.id ≠ roomId := by
  intro own
  obtain ⟨input, stamp, kind, phase, commits, working⟩ := commits
  have inRoom : context.room.id = context.round.roomId :=
    (get_mem commits.loaded.authorised.found).2
  have going : ¬ context.round.Final := by
    apply DiscussionRound.Working.going
    rw [DiscussionRound.Working, commits.runs.1.2]
    exact working
  exact going (settled.final context.round (get_mem commits.loaded.round).1
    (inRoom.symm.trans own))

section Steps

variable [Digest] (writes : db.Writes action next)

include writes

variable {round : DiscussionRound}

theorem Writes.frozen_rounds (sound : db.RowsSound)
    (final : ∀ round ∈ db.rounds.rows, round.roomId = roomId → round.Final)
    (closed : ∀ room, db.rooms.get roomId = some room → room.status ≠ .concluded →
      ∀ token participantOrder stamp,
        action ≠ .discussion (.createRound roomId token participantOrder stamp))
    (own : round.roomId = roomId) (member : round ∈ next.rounds.rows) :
    round ∈ db.rounds.rows := by
  cases writes.round_origin member with
  | kept old => exact old
  | fresh made found opened row absent =>
    rw [row] at own
    cases own
    exact absurd made (closed _ found opened _ _ _)
  | changed stored write =>
    have old := (get_mem stored).1
    exact absurd (final _ old (write.keeps.2.symm.trans own)) (write.going (sound _ old))

theorem Writes.kept_rounds (sound : db.RowsSound) (present : next.rooms.get roomId ≠ none)
    (member : round ∈ db.rounds.rows) (own : round.roomId = roomId)
    (final : round.Final) : round ∈ next.rounds.rows := by
  cases writes.rounds_step with
  | same rounds =>
    rw [rounds]
    exact member
  | fresh made found opened row absent rounds =>
    rw [rounds]
    refine mem_put.mpr (.inr ⟨member, fun same => ?_⟩)
    rw [← same, get_of_mem member] at absent
    contradiction
  | changed stored write rounds =>
    rw [rounds]
    refine mem_put.mpr (.inr ⟨member, fun same => ?_⟩)
    have old := (get_mem stored).1
    have replaced := eq_of_key old member (write.keeps.1.symm.trans same.symm)
    rw [replaced] at write
    exact write.going (sound round member) final
  | deleted gone =>
    rw [gone] at present ⊢
    refine mem_filter.mpr ⟨member, ?_⟩
    rw [own]
    exact decide_eq_true (present_withoutRoom present)

section

variable (settled : db.Settled roomId)

include settled

theorem Writes.frozen_messages (permitted : db.Permitted action) {message : DiscussionMessage}
    (own : message.roomId = roomId) : (message ∈ next.messages.rows → message ∈ db.messages.rows) ∧
      (next.rooms.get roomId ≠ none → message ∈ db.messages.rows → message ∈ next.messages.rows) := by
  cases writes.messages_step with
  | same messages =>
    rw [messages]
    exact ⟨fun member => member, fun _ member => member⟩
  | appended made found inRoom absent messages =>
    rename_i other room
    have opened : room.status ≠ .concluded := by
      rw [made] at permitted
      simpa [Permitted, permits, found] using permitted
    rw [messages]
    have elsewhere : message ≠ other := by
      intro same
      rw [← inRoom, ← same, own] at found
      exact opened (settled.concluded room found)
    have same := mem_put_elsewhere elsewhere (by rw [absent]; nofun)
    exact ⟨same.mp, fun _ => same.mpr⟩
  | committed commits inRoom absent messages =>
    rename_i other
    rw [messages]
    have elsewhere : message ≠ other := by
      intro same
      exact settled.silent commits (inRoom.symm.trans (same ▸ own))
    have same := mem_put_elsewhere elsewhere (by rw [absent]; nofun)
    exact ⟨same.mp, fun _ => same.mpr⟩
  | deleted gone =>
    rw [gone]
    refine ⟨fun member => (mem_filter.mp member).1, fun present member => ?_⟩
    refine mem_filter.mpr ⟨member, ?_⟩
    rw [own]
    exact decide_eq_true (present_withoutRoom present)

theorem Writes.frozen_summaries {summary : DiscussionSummary} (own : summary.roomId = roomId) :
    (summary ∈ next.summaries.rows → summary ∈ db.summaries.rows) ∧
      (next.rooms.get roomId ≠ none → summary ∈ db.summaries.rows → summary ∈ next.summaries.rows) := by
  cases writes.summaries_step with
  | same summaries =>
    rw [summaries]
    exact ⟨fun member => member, fun _ member => member⟩
  | committed commits inRoom absent summaries =>
    rename_i other
    rw [summaries]
    have elsewhere : summary ≠ other := by
      intro same
      exact settled.silent commits (inRoom.symm.trans (same ▸ own))
    have same := mem_put_elsewhere elsewhere (by rw [absent]; nofun)
    exact ⟨same.mp, fun _ => same.mpr⟩
  | deleted gone =>
    rw [gone]
    refine ⟨fun member => (mem_filter.mp member).1, fun present member => ?_⟩
    refine mem_filter.mpr ⟨member, ?_⟩
    rw [own]
    exact decide_eq_true (present_withoutRoom present)

theorem Writes.frozen_room (permitted : db.Permitted action)
    (new : db.rooms.get roomId = none → action.creates ≠ some roomId) {room : DiscussionRoom}
    (found : next.rooms.get roomId = some room) :
    ∃ old, db.rooms.get roomId = some old ∧ SameFacts old room := by
  cases writes.rooms_step with
  | same rooms =>
    rw [rooms] at found
    exact ⟨room, found, rfl, rfl, rfl, rfl⟩
  | created made key opened absent rooms =>
    rw [rooms, get_put] at found
    split at found
    · rename_i same
      rw [← same] at absent key
      rw [made] at new
      exact absurd (congrArg some key.symm) (new absent)
    · exact ⟨room, found, rfl, rfl, rfl, rfl⟩
  | changed stored rooms key write =>
    rw [rooms, get_put] at found
    split at found
    · rename_i old new same
      cases found
      have own : old.id = roomId := key.symm.trans same.symm
      have here : db.rooms.get roomId = some old := by
        rw [← own]
        exact get_of_mem (get_mem stored).1
      have concluded := settled.concluded old here
      refine ⟨old, here, ?_⟩
      cases write with
      | steady topic background contextRevision status =>
        exact ⟨topic, background, contextRevision, status⟩
      | append inRoom status =>
        rw [own] at inRoom
        simp [Permitted, permits, ← inRoom, here, concluded] at permitted
      | configure inRoom different status =>
        rw [own] at inRoom
        rw [Permitted, permits, ← inRoom, here] at permitted
        exact absurd (of_decide_eq_true permitted concluded) different
      | rename inRoom different status =>
        rw [own] at inRoom
        rw [Permitted, permits, ← inRoom, here] at permitted
        exact absurd (of_decide_eq_true permitted concluded) different
      | commit commits status => exact absurd own (settled.silent commits)
      | conclude stored inRoom opened => exact absurd concluded opened
    · exact ⟨room, found, rfl, rfl, rfl, rfl⟩
  | deleted gone =>
    rw [gone] at found
    exact ⟨room, (get_withoutRoom found).1, rfl, rfl, rfl, rfl⟩

theorem Settled.frozen (sound : db.RowsSound) (permitted : db.Permitted action)
    (new : db.rooms.get roomId = none → action.creates ≠ some roomId) :
    FactsFrozen roomId db next where
  room _ found := writes.frozen_room settled permitted new found
  rounds _ own member := writes.frozen_rounds sound settled.final
    (fun room found opened => absurd (settled.concluded room found) opened) own member
  messages _ own member := (writes.frozen_messages settled permitted own).1 member
  summaries _ own member := (writes.frozen_summaries settled own).1 member
  keptRounds present _ member own :=
    writes.kept_rounds sound present member own (settled.final _ member own)
  keptMessages present _ member own := (writes.frozen_messages settled permitted own).2 present member
  keptSummaries present _ member own := (writes.frozen_summaries settled own).2 present member

end

omit [Digest] writes in
theorem Settled.after (settled : db.Settled roomId) (frozen : FactsFrozen roomId db next) :
    next.Settled roomId where
  concluded room found := by
    obtain ⟨old, stored, same⟩ := frozen.room room found
    rw [same.status]
    exact settled.concluded old stored
  final round member own := settled.final round (frozen.rounds round own member) own

/-- Every concluded room is settled, in every run of permitted steps. -/
structure ConclusionHeld (db : Database) : Prop where
  sound : db.RowsSound
  settled : ∀ roomId room, db.rooms.get roomId = some room → room.status = .concluded → db.Settled roomId

omit [Digest] writes in
theorem ConclusionHeld.empty : empty.ConclusionHeld :=
  ⟨fun _ member => absurd member List.not_mem_nil, fun _ _ found => by contradiction⟩

theorem Writes.concludes {room : DiscussionRoom} (permitted : db.Permitted action)
    (found : next.rooms.get roomId = some room) (concluded : room.status = .concluded) :
    (∃ old, db.rooms.get roomId = some old ∧ old.status = .concluded) ∨
      (∀ round ∈ db.rounds.rows, round.roomId = roomId → round.Final) ∧
        ∃ input stamp, action = .discussion (.commitReport input stamp) := by
  cases writes.rooms_step with
  | same rooms =>
    rw [rooms] at found
    exact .inl ⟨room, found, concluded⟩
  | created made key opened absent rooms =>
    rw [rooms, get_put] at found
    split at found
    · cases found
      rw [concluded] at opened
      contradiction
    · exact .inl ⟨room, found, concluded⟩
  | changed stored rooms key write =>
    rw [rooms, get_put] at found
    split at found
    · rename_i old new same
      cases found
      have own : old.id = roomId := key.symm.trans same.symm
      have here : db.rooms.get roomId = some old := by
        rw [← own]
        exact get_of_mem (get_mem stored).1
      cases write with
      | steady topic background contextRevision status =>
        exact .inl ⟨old, here, status.symm.trans concluded⟩
      | append inRoom status | configure inRoom different status | rename inRoom different status
      | commit commits status => exact .inl ⟨_, here, status.symm.trans concluded⟩
      | conclude found inRoom opened =>
        refine .inr ⟨?_, _, _, rfl⟩
        rw [Permitted, permits, found] at permitted
        have final := of_decide_eq_true permitted
        rw [← inRoom, own] at final
        exact final
    · exact .inl ⟨room, found, concluded⟩
  | deleted gone =>
    rw [gone] at found
    exact .inl ⟨room, (get_withoutRoom found).1, concluded⟩

end Steps

theorem ConclusionHeld.step [Digest] (held : db.ConclusionHeld) (permitted : db.Permitted action)
    (stepped : db.roomStep action = some next) : next.ConclusionHeld := by
  have writes := roomStep_writes stepped
  refine ⟨held.sound.step writes, fun roomId room found concluded => ?_⟩
  rcases writes.concludes permitted found concluded with ⟨old, stored, was⟩ | ⟨final, input, stamp, rfl⟩
  · have settled := held.settled roomId old stored was
    exact settled.after (Settled.frozen writes settled held.sound permitted fun absent => by
      rw [stored] at absent
      contradiction)
  · constructor
    · intro other stored
      rw [found] at stored
      cases stored
      exact concluded
    · intro round member own
      have before := writes.frozen_rounds held.sound final (fun _ _ _ _ _ _ => nofun) own member
      exact final round before own

/-- From the conclusion of a room on, permitted steps that create no room of its
id keep its facts. -/
def After (roomId : JsString) (db : Database) (action : RoomAction) : Prop :=
  db.Permitted action ∧ action.creates ≠ some roomId

instance (roomId : JsString) : ∀ db action, Decidable (After roomId db action) :=
  fun _ _ => inferInstanceAs (Decidable (_ ∧ _))

theorem concluded_room_frozen [Digest] {actions more : List RoomAction} {room : DiscussionRoom}
    (reached : Run roomStep Permitted .empty actions db)
    (found : db.rooms.get roomId = some room) (concluded : room.status = .concluded)
    (run : Run roomStep (After roomId) db more next) : FactsFrozen roomId db next := by
  have held : db.ConclusionHeld := reached.invariant ConclusionHeld.step ConclusionHeld.empty
  have base : db.Settled roomId ∧ db.RowsSound :=
    ⟨held.settled roomId room found concluded, held.sound⟩
  have keep : ∀ {state action after}, Settled state roomId ∧ state.RowsSound →
      After roomId state action → state.roomStep action = some after →
      (after.Settled roomId ∧ after.RowsSound) ∧ FactsFrozen roomId state after := by
    intro state action after held met stepped
    have writes := roomStep_writes stepped
    have frozen := Settled.frozen writes held.1 held.2 met.1 fun _ => met.2
    exact ⟨⟨held.1.after frozen, held.2.step writes⟩, frozen⟩
  exact run.relates (fun _ => FactsFrozen.refl) FactsFrozen.trans keep base

end Database

def concludedActions : List RoomAction :=
  (completedActions ++ [ .beginReportExecution (turn (js "e5") (js "f") .report 3) sampleToken (js "t"),
    dispatched (js "e5"), .commitReport (reply (js "e5")) (stamp (js "r1"))]).map .discussion

/-- A round that is refused, the runtime's end, and a rename to the same topic. -/
def afterConclusion : List RoomAction :=
  [.discussion (.createRound (js "room") sampleToken [js "p"] (stamp (js "round-2"))),
    .discussion (.markBindingClosed (js "binding") (js "t")),
    .renameRoom (js "room") (js "topic") (js "t2")]

def roomConcluded (db : Database) : Bool :=
  (db.rooms.get (js "room")).any (·.status = .concluded)

theorem roomConcluded_found {db : Database} (concluded : roomConcluded db = true) :
    ∃ room, db.rooms.get (js "room") = some room ∧ room.status = .concluded := by
  obtain ⟨room, found, status⟩ := (Option.any_eq_true _ _).mp concluded
  exact ⟨room, found, of_decide_eq_true status⟩

theorem concluded_room_frozen_renamed :
    ∃ db next, Run (@roomStep sampleDigest) Permitted .empty concludedActions db ∧ roomConcluded db = true ∧
      Run (@roomStep sampleDigest) (After (js "room")) db afterConclusion next ∧
      FactsFrozen (js "room") db next := by
  have ended : (execute (guarded (@roomStep sampleDigest) Permitted) .empty
      concludedActions).any roomConcluded = true := by decide +kernel
  have goes : ((execute (guarded (@roomStep sampleDigest) Permitted) .empty
      concludedActions).bind fun db =>
        execute (guarded (@roomStep sampleDigest) (After (js "room"))) db
          afterConclusion).isSome = true := by decide +kernel
  obtain ⟨db, ran, concluded⟩ := (Option.any_eq_true _ _).mp ended
  rw [ran] at goes
  obtain ⟨next, went⟩ := Option.isSome_iff_exists.mp goes
  obtain ⟨room, found, status⟩ := roomConcluded_found concluded
  have reached := execute_guarded ran
  have run := execute_guarded went
  exact ⟨db, next, reached, concluded, run, @concluded_room_frozen db next (js "room")
    sampleDigest concludedActions afterConclusion room reached found status run⟩

def lateMessage : RoomAction :=
  .discussion (.appendUserMessage (js "room") (js "round") sampleToken (js "one more") (stamp (js "m9")))

theorem concluded_room_answered :
    ∃ db next, Run (@roomStep sampleDigest) anyStep .empty concludedActions db ∧ roomConcluded db = true ∧
      Run (@roomStep sampleDigest) anyStep db [lateMessage] next ∧
      ¬ FactsFrozen (js "room") db next := by
  have ended : (execute (@roomStep sampleDigest) .empty concludedActions).any
      roomConcluded = true := by decide +kernel
  have new : ((execute (@roomStep sampleDigest) .empty concludedActions).bind fun db =>
      db.messages.get (js "m9")) = none := by decide +kernel
  have answers : ((execute (@roomStep sampleDigest) .empty concludedActions).bind fun db =>
      execute (@roomStep sampleDigest) db [lateMessage]).any (fun next =>
        (next.messages.get (js "m9")).any (·.roomId = js "room")) = true := by decide +kernel
  obtain ⟨db, ran, concluded⟩ := (Option.any_eq_true _ _).mp ended
  rw [ran] at new answers
  obtain ⟨next, went, answered⟩ := (Option.any_eq_true _ _).mp answers
  obtain ⟨message, found, own⟩ := (Option.any_eq_true _ _).mp answered
  refine ⟨db, next, execute_run ran fun _ _ _ => trivial, concluded,
    execute_run went fun _ _ _ => trivial, fun frozen => ?_⟩
  obtain ⟨stored, key⟩ := get_mem found
  have old := frozen.messages message (of_decide_eq_true own) stored
  have present := get_of_mem old
  rw [key] at present
  exact absurd (new.symm.trans present) nofun

end CouncilKit.Discussion
