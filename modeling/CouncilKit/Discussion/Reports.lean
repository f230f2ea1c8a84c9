import CouncilKit.Discussion.Conclusion
import CouncilKit.Discussion.RoomPages

namespace CouncilKit.Discussion

open Data Table RoomPages

def ModelExecution.Reporting (execution : ModelExecution) : Prop :=
  execution.resultKind = .report ∧ execution.state.isLive = true

instance (execution : ModelExecution) : Decidable execution.Reporting :=
  inferInstanceAs (Decidable (_ ∧ _))

namespace Database

structure Concluding (db : Database) : Prop where
  reported : ∀ report ∈ db.reports.rows,
    ∃ room, db.rooms.get report.roomId = some room ∧ room.status = .concluded
  single : ∀ report ∈ db.reports.rows, ∀ other ∈ db.reports.rows,
    report.roomId = other.roomId → report.id = other.id
  idle : ∀ room ∈ db.rooms.rows, room.status = .concluded → room.activeRoundId = none
  answered : ∀ room ∈ db.rooms.rows, room.status = .concluded →
    ∃ report ∈ db.reports.rows, report.roomId = room.id
  quiet : ∀ execution ∈ db.modelExecutions.rows, execution.Reporting →
    ∃ room, db.rooms.get execution.roomId = some room ∧ room.activeRoundId = none
  alone : ∀ execution ∈ db.modelExecutions.rows, ∀ other ∈ db.modelExecutions.rows,
    execution.Reporting → other.Reporting → execution.roomId = other.roomId →
      execution.executionId = other.executionId

structure RoomsStay (db next : Database) : Prop where
  rows : ∀ room ∈ next.rooms.rows, ∃ old, db.rooms.get room.id = some old ∧
    room.status = old.status ∧ (room.activeRoundId = old.activeRoundId ∨ room.activeRoundId = none)
  there : ∀ {roomId : JsString} {old : DiscussionRoom}, db.rooms.get roomId = some old →
    ∃ room, next.rooms.get roomId = some room

def NoReportBegins (db next : Database) : Prop :=
  ∀ execution ∈ next.modelExecutions.rows, execution.Reporting →
    ∃ old ∈ db.modelExecutions.rows, old.Reporting ∧
      old.executionId = execution.executionId ∧ old.roomId = execution.roomId

variable {db next : Database} {room old new : DiscussionRoom} {roomId : JsString}

theorem RoomsStay.same (rooms : next.rooms = db.rooms) : db.RoomsStay next where
  rows room member := by
    rw [rooms] at member
    exact ⟨room, get_of_mem member, rfl, .inl rfl⟩
  there found := ⟨_, rooms ▸ found⟩

theorem RoomsStay.put (stored : db.rooms.get roomId = some old)
    (rooms : next.rooms = db.rooms.put new) (id : new.id = old.id)
    (status : new.status = old.status)
    (active : new.activeRoundId = old.activeRoundId ∨ new.activeRoundId = none) :
    db.RoomsStay next where
  rows room member := by
    rw [rooms] at member
    rcases mem_put.mp member with rfl | ⟨before, -⟩
    · exact ⟨old, id ▸ get_of_mem (get_mem stored).1, status, active⟩
    · exact ⟨room, get_of_mem before, rfl, .inl rfl⟩
  there found := by
    rw [rooms, get_put]
    split
    · exact ⟨_, rfl⟩
    · exact ⟨_, found⟩

theorem NoReportBegins.same (executions : next.modelExecutions = db.modelExecutions) :
    db.NoReportBegins next := by
  intro execution member reporting
  rw [executions] at member
  exact ⟨execution, member, reporting, rfl, rfl⟩

variable {execution : ModelExecution}

theorem NoReportBegins.put
    (executions : next.modelExecutions = db.modelExecutions.put execution)
    (other : ¬ execution.Reporting) : db.NoReportBegins next := by
  intro row member reporting
  rw [executions] at member
  rcases mem_put.mp member with rfl | ⟨before, -⟩
  · exact absurd reporting other
  · exact ⟨row, before, reporting, rfl, rfl⟩

theorem NoReportBegins.moved {executionId : JsString} {before after : ModelExecution}
    (stored : db.modelExecutions.get executionId = some before)
    (executions : next.modelExecutions = db.modelExecutions.put after)
    (step : ExecutionStep before after) : db.NoReportBegins next := by
  intro row member reporting
  rw [executions] at member
  rcases mem_put.mp member with rfl | ⟨kept, -⟩
  · exact ⟨before, (get_mem stored).1, ⟨step.resultKind ▸ reporting.1, step.live reporting.2⟩,
      step.executionId.symm, step.roomId.symm⟩
  · exact ⟨row, kept, reporting, rfl, rfl⟩

theorem Concluding.empty : Database.empty.Concluding where
  reported _ member := absurd member List.not_mem_nil
  single _ member := absurd member List.not_mem_nil
  idle _ member := absurd member List.not_mem_nil
  answered _ member := absurd member List.not_mem_nil
  quiet _ member := absurd member List.not_mem_nil
  alone _ member := absurd member List.not_mem_nil

variable (held : db.Concluding)

include held

theorem Concluding.quiet_stays (executions : db.NoReportBegins next)
    (rooms : ∀ {roomId : JsString} {old : DiscussionRoom}, db.rooms.get roomId = some old → old.activeRoundId = none → ∃ room, next.rooms.get roomId = some room ∧ room.activeRoundId = none) :
    ∀ execution ∈ next.modelExecutions.rows, execution.Reporting →
      ∃ room, next.rooms.get execution.roomId = some room ∧ room.activeRoundId = none := by
  intro execution member reporting
  obtain ⟨old, before, was, -, place⟩ := executions execution member reporting
  obtain ⟨room, stored, idle⟩ := held.quiet old before was
  exact rooms (place ▸ stored) idle

theorem Concluding.alone_stays (executions : db.NoReportBegins next) :
    ∀ execution ∈ next.modelExecutions.rows, ∀ other ∈ next.modelExecutions.rows,
      execution.Reporting → other.Reporting → execution.roomId = other.roomId →
        execution.executionId = other.executionId := by
  intro execution member other otherMember reporting otherReporting place
  obtain ⟨first, before, was, name, inRoom⟩ := executions execution member reporting
  obtain ⟨second, earlier, also, otherName, otherRoom⟩ :=
    executions other otherMember otherReporting
  rw [← name, ← otherName]
  exact held.alone first before second earlier was also (inRoom.trans (place.trans otherRoom.symm))

theorem Concluding.stays (reports : next.reports = db.reports) (rooms : db.RoomsStay next)
    (executions : db.NoReportBegins next) : next.Concluding where
  reported report member := by
    rw [reports] at member
    obtain ⟨old, stored, status⟩ := held.reported report member
    obtain ⟨room, found⟩ := rooms.there stored
    obtain ⟨row, name⟩ := get_mem found
    obtain ⟨before, was, same, -⟩ := rooms.rows room row
    rw [name, stored] at was
    exact ⟨room, found, same.trans (Option.some.inj was ▸ status)⟩
  single report member other otherMember := by
    rw [reports] at member otherMember
    exact held.single report member other otherMember
  idle room member status := by
    obtain ⟨old, stored, same, active⟩ := rooms.rows room member
    rcases active with kept | none_
    · rw [kept]
      exact held.idle old (get_mem stored).1 (same.symm.trans status)
    · exact none_
  answered room member status := by
    obtain ⟨old, stored, same, -⟩ := rooms.rows room member
    obtain ⟨row, name⟩ := get_mem stored
    rw [reports, ← name]
    exact held.answered old row (same.symm.trans status)
  quiet := by
    refine held.quiet_stays executions fun {roomId old} stored idle => ?_
    obtain ⟨room, found⟩ := rooms.there stored
    obtain ⟨row, name⟩ := get_mem found
    obtain ⟨earlier, known, -, active⟩ := rooms.rows room row
    rw [name, stored] at known
    obtain rfl := Option.some.inj known
    refine ⟨room, found, ?_⟩
    rcases active with kept | none_
    · rw [kept, idle]
    · exact none_
  alone := held.alone_stays executions

theorem Concluding.opens (absent : db.rooms.get room.id = none) (status : room.status = .open)
    (idle : room.activeRoundId = none) (rooms : next.rooms = db.rooms.put room)
    (reports : next.reports = db.reports) (executions : next.modelExecutions = db.modelExecutions) :
    next.Concluding := by
  have kept {roomId : JsString} {old : DiscussionRoom} (stored : db.rooms.get roomId = some old) :
      next.rooms.get roomId = some old := by
    have other : roomId ≠ room.id := by
      intro same
      rw [same, absent] at stored
      contradiction
    rw [rooms, get_put_other other, stored]
  refine ⟨fun report member => ?_, ?_, fun row member concluded => ?_,
    fun row member concluded => ?_, ?_, held.alone_stays (.same executions)⟩
  · rw [reports] at member
    obtain ⟨old, stored, was⟩ := held.reported report member
    exact ⟨old, kept stored, was⟩
  · rw [reports]
    exact held.single
  · rw [rooms] at member
    rcases mem_put.mp member with rfl | ⟨before, -⟩
    · exact idle
    · exact held.idle row before concluded
  · rw [rooms] at member
    rcases mem_put.mp member with rfl | ⟨before, -⟩
    · rw [status] at concluded
      contradiction
    · rw [reports]
      exact held.answered row before concluded
  · exact held.quiet_stays (.same executions) fun stored was => ⟨_, kept stored, was⟩

theorem Concluding.starts (stored : db.rooms.get roomId = some old)
    (opened : old.status ≠ .concluded) (quiet : ¬ db.LiveReport old.id)
    (rooms : next.rooms = db.rooms.put new) (reports : next.reports = db.reports)
    (executions : next.modelExecutions = db.modelExecutions) (id : new.id = old.id)
    (status : new.status = old.status) : next.Concluding := by
  have key : roomId = old.id := (get_mem stored).2.symm
  have kept {other : JsString} {row : DiscussionRoom} (found : db.rooms.get other = some row)
      (elsewhere : other ≠ old.id) : next.rooms.get other = some row := by
    rw [rooms, get_put_other (id ▸ elsewhere), found]
  refine ⟨fun report member => ?_, ?_, fun row member concluded => ?_,
    fun row member concluded => ?_, fun execution member reporting => ?_,
    held.alone_stays (.same executions)⟩
  · rw [reports] at member
    obtain ⟨row, found, was⟩ := held.reported report member
    refine ⟨row, kept found fun same => ?_, was⟩
    rw [same, ← key, stored] at found
    exact opened (Option.some.inj found ▸ was)
  · rw [reports]
    exact held.single
  · rw [rooms] at member
    rcases mem_put.mp member with rfl | ⟨before, -⟩
    · exact absurd (status.symm.trans concluded) opened
    · exact held.idle row before concluded
  · rw [rooms] at member
    rcases mem_put.mp member with rfl | ⟨before, -⟩
    · exact absurd (status.symm.trans concluded) opened
    · rw [reports]
      exact held.answered row before concluded
  · rw [executions] at member
    obtain ⟨row, found, idle⟩ := held.quiet execution member reporting
    exact ⟨row, kept found fun same => quiet ⟨execution, member, same, reporting.1, reporting.2⟩, idle⟩

theorem Concluding.begins (stored : db.rooms.get execution.roomId = some room)
    (idle : room.activeRoundId = none) (quiet : ¬ db.LiveReport room.id)
    (absent : db.modelExecutions.get execution.executionId = none) :
    (db.putExecution execution).Concluding := by
  have key : room.id = execution.roomId := (get_mem stored).2
  have listed {row : ModelExecution} (member : row ∈ (db.putExecution execution).modelExecutions.rows) :
      row ∈ db.modelExecutions.rows ∨ row = execution := by
    simpa [putExecution, rows_put absent] using member
  have none_ {row : ModelExecution} (member : row ∈ db.modelExecutions.rows)
      (reporting : row.Reporting) : row.roomId ≠ execution.roomId := by
    intro same
    exact quiet ⟨row, member, same.trans key.symm, reporting.1, reporting.2⟩
  refine ⟨held.reported, held.single, held.idle, held.answered, fun row member reporting => ?_,
    fun row member other otherMember reporting otherReporting place => ?_⟩
  · rcases listed member with before | rfl
    · exact held.quiet row before reporting
    · exact ⟨room, stored, idle⟩
  · rcases listed member with before | rfl <;> rcases listed otherMember with earlier | rfl
    · exact held.alone row before other earlier reporting otherReporting place
    · exact absurd place (none_ before reporting)
    · exact absurd place.symm (none_ earlier otherReporting)
    · rfl

theorem Concluding.begun {aborted : Database} (stored : db.rooms.get execution.roomId = some old)
    (quiet : ¬ db.LiveReport old.id) (absent : db.modelExecutions.get execution.executionId = none)
    (rooms : aborted.rooms = db.rooms) (reports : aborted.reports = db.reports)
    (executions : aborted.modelExecutions = db.modelExecutions) (id : new.id = old.id)
    (status : new.status = old.status) (idle : new.activeRoundId = none) :
    ((aborted.putRoom new).putExecution execution).Concluding := by
  have puts : (aborted.putRoom new).rooms = db.rooms.put new := by rw [putRoom, rooms]
  have stays : (aborted.putRoom new).Concluding :=
    held.stays reports (.put stored puts id status (.inr idle)) (.same executions)
  have place : (aborted.putRoom new).rooms.get execution.roomId = some new := by
    rw [putRoom, ← (get_mem stored).2, ← id]
    exact get_put_self
  refine stays.begins place idle ?_ (executions ▸ absent)
  intro live
  obtain ⟨other, member, own, kind, running⟩ := live
  exact quiet ⟨other, executions ▸ member, own.trans id, kind, running⟩

theorem Concluding.concludes {execution committed : ModelExecution} {report : DecisionReport}
    (found : db.modelExecutions.get execution.executionId = some execution)
    (reporting : execution.Reporting) (stored : db.rooms.get execution.roomId = some old)
    (first : ∀ other ∈ db.reports.rows, other.roomId ≠ old.id)
    (absent : db.reports.get report.id = none) (own : report.roomId = old.id)
    (rooms : next.rooms = db.rooms.put new) (reports : next.reports = db.reports.put report)
    (executions : next.modelExecutions = db.modelExecutions.put committed)
    (step : ExecutionStep execution committed) (id : new.id = old.id)
    (status : new.status = .concluded) (active : new.activeRoundId = old.activeRoundId) :
    next.Concluding := by
  obtain ⟨row, key⟩ := get_mem stored
  have idle : old.activeRoundId = none := by
    obtain ⟨room, again, idle⟩ := held.quiet execution (get_mem found).1 reporting
    obtain rfl := Option.some.inj (again.symm.trans stored)
    exact idle
  have moved : db.NoReportBegins next := .moved found executions step
  have listed {other : DecisionReport} (member : other ∈ next.reports.rows) :
      other ∈ db.reports.rows ∨ other = report := by
    simpa [reports, rows_put absent] using member
  have concluded {room : DiscussionRoom} (member : room ∈ next.rooms.rows) :
      room = new ∨ room ∈ db.rooms.rows := by
    rw [rooms] at member
    exact (mem_put.mp member).imp_right (·.1)
  refine ⟨fun other member => ?_, fun one member other otherMember same => ?_,
    fun room member ended => ?_, fun room member ended => ?_, ?_, held.alone_stays moved⟩
  · rw [rooms, get_put]
    split
    · exact ⟨new, rfl, status⟩
    · rename_i elsewhere
      rcases listed member with before | rfl
      · exact held.reported other before
      · exact absurd (own.trans id.symm) elsewhere
  · rcases listed member with before | rfl <;> rcases listed otherMember with earlier | rfl
    · exact held.single one before other earlier same
    · exact absurd (same.trans own) (first one before)
    · exact absurd (same.symm.trans own) (first other earlier)
    · rfl
  · rcases concluded member with rfl | before
    · rw [active, idle]
    · exact held.idle room before ended
  · rw [reports, rows_put absent]
    rcases concluded member with rfl | before
    · exact ⟨report, by simp, own.trans id.symm⟩
    · obtain ⟨other, there, place⟩ := held.answered room before ended
      exact ⟨other, List.mem_append_left _ there, place⟩
  · refine held.quiet_stays moved fun {roomId room} found was => ?_
    rw [rooms, get_put]
    split
    · exact ⟨new, rfl, active.trans idle⟩
    · exact ⟨room, found, was⟩

theorem Concluding.withoutRoom (gone : JsString) : (db.withoutRoom gone).Concluding := by
  have kept {other : JsString} (elsewhere : decide (other ≠ gone) = true)
      {row : DiscussionRoom} (found : db.rooms.get other = some row) :
      (db.withoutRoom gone).rooms.get other = some row := by
    rw [Database.withoutRoom, get_filter, found]
    simp [(get_mem found).2, of_decide_eq_true elsewhere]
  refine ⟨fun report member => ?_, fun report member other otherMember => ?_,
    fun row member => ?_, fun row member concluded => ?_, fun execution member reporting => ?_,
    fun execution member other otherMember => ?_⟩
  · obtain ⟨before, elsewhere⟩ := mem_filter.mp member
    obtain ⟨row, found, was⟩ := held.reported report before
    exact ⟨row, kept elsewhere found, was⟩
  · exact held.single report (mem_filter.mp member).1 other (mem_filter.mp otherMember).1
  · exact held.idle row (mem_filter.mp member).1
  · obtain ⟨before, elsewhere⟩ := mem_filter.mp member
    obtain ⟨report, there, own⟩ := held.answered row before concluded
    exact ⟨report, mem_filter.mpr ⟨there, own ▸ elsewhere⟩, own⟩
  · obtain ⟨before, elsewhere⟩ := mem_filter.mp member
    obtain ⟨row, found, idle⟩ := held.quiet execution before reporting
    exact ⟨row, kept elsewhere found, idle⟩
  · exact held.alone execution (mem_filter.mp member).1 other
      (mem_filter.mp otherMember).1

end Database

def RoomAction.beginsItsKind : RoomAction → Bool
  | .discussion (.beginExecution input _ _) =>
    input.resultKind = .message ∨ input.resultKind = .summary
  | .discussion (.beginFocusExecution input _ _) => input.resultKind = .focus
  | _ => true

namespace Database

/-- What a step makes of reports and of the rooms and executions they hang on. -/
inductive ReportsStep (db next : Database) : Prop where
  | stays (reports : next.reports = db.reports) (rooms : db.RoomsStay next)
      (executions : db.NoReportBegins next)
  | opens {room : DiscussionRoom} (absent : db.rooms.get room.id = none)
      (status : room.status = .open) (idle : room.activeRoundId = none)
      (rooms : next.rooms = db.rooms.put room) (reports : next.reports = db.reports)
      (executions : next.modelExecutions = db.modelExecutions)
  | starts {roomId : JsString} {old new : DiscussionRoom} (stored : db.rooms.get roomId = some old)
      (opened : old.status ≠ .concluded) (quiet : ¬ db.LiveReport old.id)
      (rooms : next.rooms = db.rooms.put new) (reports : next.reports = db.reports)
      (executions : next.modelExecutions = db.modelExecutions) (id : new.id = old.id)
      (status : new.status = old.status)
  | begins {execution : ModelExecution} {aborted : Database} {old new : DiscussionRoom}
      (made : next = (aborted.putRoom new).putExecution execution)
      (stored : db.rooms.get execution.roomId = some old)
      (facilitator : execution.participantId = old.facilitatorParticipantId)
      (speaker : ∃ participant, db.participants.get execution.participantId = some participant)
      (quiet : ¬ db.LiveReport old.id)
      (absent : db.modelExecutions.get execution.executionId = none)
      (rooms : aborted.rooms = db.rooms) (reports : aborted.reports = db.reports)
      (executions : aborted.modelExecutions = db.modelExecutions) (id : new.id = old.id)
      (status : new.status = old.status) (idle : new.activeRoundId = none)
  | concludes {execution committed : ModelExecution} {report : DecisionReport}
      {old new : DiscussionRoom}
      (found : db.modelExecutions.get execution.executionId = some execution)
      (reporting : execution.Reporting) (stored : db.rooms.get execution.roomId = some old)
      (first : ∀ other ∈ db.reports.rows, other.roomId ≠ old.id)
      (absent : db.reports.get report.id = none) (own : report.roomId = old.id)
      (rooms : next.rooms = db.rooms.put new) (reports : next.reports = db.reports.put report)
      (executions : next.modelExecutions = db.modelExecutions.put committed)
      (step : ExecutionStep execution committed) (id : new.id = old.id)
      (status : new.status = .concluded) (active : new.activeRoundId = old.activeRoundId)
  | deleted {roomId : JsString} (gone : next = db.withoutRoom roomId)

variable {db next : Database} {action : RoomAction}

theorem Concluding.step (held : db.Concluding) (step : db.ReportsStep next) : next.Concluding := by
  cases step with
  | stays reports rooms executions => exact held.stays reports rooms executions
  | opens absent status idle rooms reports executions =>
    exact held.opens absent status idle rooms reports executions
  | starts stored opened quiet rooms reports executions id status =>
    exact held.starts stored opened quiet rooms reports executions id status
  | begins made stored facilitator speaker quiet absent rooms reports executions id status idle =>
    rw [made]
    exact held.begun stored quiet absent rooms reports executions id status idle
  | concludes found reporting stored first absent own rooms reports executions step id status
      active =>
      exact held.concludes found reporting stored first absent own rooms reports executions step id
        status active
  | deleted gone =>
    rw [gone]
    exact held.withoutRoom _

theorem Writes.reports_step [Digest] (kinds : action.beginsItsKind = true)
    (writes : db.Writes action next) : db.ReportsStep next := by
  cases writes with
  | aside | round => exact .stays rfl (.same rfl) (.same rfl)
  | createRoom made absent =>
    have opening := createDiscussionRoom_opening made
    exact .opens absent opening.status opening.idle rfl rfl rfl
  | room stored kept =>
    exact .stays rfl (.put stored rfl kept.id kept.status (.inl kept.activeRoundId)) (.same rfl)
  | appendUserMessage authorised | updateRoomSharedConfig authorised =>
    exact .stays rfl (.put authorised.found rfl rfl rfl (.inl rfl)) (.same rfl)
  | renameRoom stored =>
    exact .stays rfl (.put stored rfl rfl rfl (.inl rfl)) (.same rfl)
  | createRound authorised opened idle quiet =>
    exact .starts authorised.found opened quiet rfl rfl rfl rfl rfl
  | @abortRound _ _ _ now room round authorised stored going =>
    simp only [afterInterrupt]
    split
    · rename_i live found
      simp only [liveExecution, Option.filter_eq_some_iff, Option.bind_eq_some_iff] at found
      obtain ⟨⟨executionId, -, stored⟩, running⟩ := found
      have step : ExecutionStep live (interruptedByAbort live now) :=
        ⟨rfl, rfl, rfl, rfl, rfl, rfl, .inl running⟩
      exact .stays rfl (.put authorised.found rfl rfl rfl (.inr rfl)) (.moved stored rfl step)
    · exact .stays rfl (.put authorised.found rfl rfl rfl (.inr rfl)) (.same rfl)
  | skipParticipant admitted =>
    exact .stays rfl (.put admitted.authorised.found rfl rfl rfl (.inl rfl)) (.same rfl)
  | beginExecution made =>
    subst made
    refine .stays rfl (.same rfl) (.put rfl fun reporting => ?_)
    rcases of_decide_eq_true kinds with message | summary
    · exact absurd (message.symm.trans reporting.1) (by decide)
    · exact absurd (summary.symm.trans reporting.1) (by decide)
  | beginFocusExecution made =>
    subst made
    exact .stays rfl (.same rfl)
      (.put rfl fun reporting => absurd ((of_decide_eq_true kinds).symm.trans reporting.1) (by decide))
  | beginReportExecution made kind authorised opened aborts quiet absent anchored own led speaker =>
    obtain ⟨participant, seated, -⟩ := (Option.any_eq_true _ _).mp speaker
    cases aborts with
    | idle noRound =>
      exact .begins rfl authorised.found led ⟨participant, seated⟩ quiet absent rfl rfl rfl rfl rfl
        noRound
    | gone | ended | aborted =>
      exact .begins rfl authorised.found led ⟨participant, seated⟩ quiet absent rfl rfl rfl rfl rfl
        rfl
  | execution stored step => exact .stays rfl (.same rfl) (.moved stored rfl step)
  | release found step => exact .stays rfl (.same rfl) (.moved found rfl step)
  | commitModelMessage commits | commitFocusMessage commits =>
    exact .stays rfl (.put commits.loaded.authorised.found rfl rfl rfl (.inl rfl))
      (.moved commits.loaded.execution rfl ⟨rfl, rfl, rfl, rfl, rfl, rfl,
        .inl commits.committable.live⟩)
  | commitSummary commits first absent bump =>
    subst bump
    exact .stays rfl (.put commits.loaded.authorised.found (put_put rfl) rfl rfl (.inr rfl))
      (.moved commits.loaded.execution rfl ⟨rfl, rfl, rfl, rfl, rfl, rfl,
        .inl commits.committable.live⟩)
  | commitReport found authorised committable first opened made absent =>
    simp only [createDecisionReport, except_bind_ok, require_ok, exists_const, ok_pure] at made
    obtain ⟨-, -, -, rfl⟩ := made
    have name := (get_mem found).2
    exact .concludes (name ▸ found) ⟨committable.1, committable.live⟩ authorised.found first
      absent rfl rfl rfl rfl ⟨rfl, rfl, rfl, rfl, rfl, rfl, .inl committable.live⟩ rfl rfl rfl
  | deleteRoom => exact .deleted rfl

theorem roomStep_reports [Digest] (kinds : action.beginsItsKind = true)
    (stepped : db.roomStep action = some next) : db.ReportsStep next :=
  (roomStep_writes stepped).reports_step kinds

end Database

namespace Database

/-- Facilitators stay, and participants join by one call only. -/
structure CastKept (db : Database) (action : RoomAction) (next : Database) : Prop where
  rooms : ∀ room ∈ next.rooms.rows, ∃ old, db.rooms.get room.id = some old ∧
    room.facilitatorParticipantId = old.facilitatorParticipantId
  participants : ∀ participant ∈ next.participants.rows,
    participant ∈ db.participants.rows ∨ action.joins = some participant.id

section Cast

variable {db next : Database} {action : RoomAction} {old new : DiscussionRoom} {roomId : JsString}

theorem CastKept.aside (rooms : next.rooms = db.rooms)
    (participants : next.participants = db.participants) : db.CastKept action next where
  rooms room member := by
    rw [rooms] at member
    exact ⟨room, get_of_mem member, rfl⟩
  participants participant member := by
    rw [participants] at member
    exact .inl member

theorem CastKept.put (stored : db.rooms.get roomId = some old)
    (rooms : next.rooms = db.rooms.put new) (participants : next.participants = db.participants)
    (id : new.id = old.id)
    (facilitator : new.facilitatorParticipantId = old.facilitatorParticipantId) :
    db.CastKept action next where
  rooms room member := by
    rw [rooms] at member
    rcases mem_put.mp member with rfl | ⟨before, -⟩
    · exact ⟨old, id ▸ get_of_mem (get_mem stored).1, facilitator⟩
    · exact ⟨room, get_of_mem before, rfl⟩
  participants participant member := by
    rw [participants] at member
    exact .inl member

theorem CastKept.withoutRoom : db.CastKept action (db.withoutRoom roomId) where
  rooms room member := ⟨room, get_of_mem (mem_filter.mp member).1, rfl⟩
  participants _ member := .inl (mem_filter.mp member).1

theorem Writes.cast [Digest] (page : action.isPage = false) (writes : db.Writes action next) :
    db.CastKept action next := by
  cases writes with
  | aside _ _ joined =>
    refine ⟨fun room member => ⟨room, get_of_mem member, rfl⟩, fun participant member => ?_⟩
    rcases joined with rfl | ⟨joining, joins, -, rfl⟩
    · exact .inl member
    · rcases mem_put.mp member with rfl | ⟨before, -⟩
      · exact .inr joins
      · exact .inl before
  | createRoom => contradiction
  | room stored kept led =>
    rcases led with same | ⟨participantId, rfl⟩
    · exact .put stored rfl rfl kept.id same
    · contradiction
  | appendUserMessage authorised | updateRoomSharedConfig authorised | createRound authorised
  | commitReport _ authorised => exact .put authorised.found rfl rfl rfl rfl
  | renameRoom stored => exact .put stored rfl rfl rfl rfl
  | round | beginExecution | beginFocusExecution | execution | release => exact .aside rfl rfl
  | abortRound authorised =>
    simp only [afterInterrupt]
    split <;> exact .put authorised.found rfl rfl rfl rfl
  | skipParticipant admitted => exact .put admitted.authorised.found rfl rfl rfl rfl
  | beginReportExecution made kind authorised opened aborts =>
    cases aborts <;> exact .put authorised.found rfl rfl rfl rfl
  | commitModelMessage commits | commitFocusMessage commits =>
    exact .put commits.loaded.authorised.found rfl rfl rfl rfl
  | commitSummary commits first absent bump =>
    subst bump
    exact .put commits.loaded.authorised.found (put_put rfl) rfl rfl rfl
  | deleteRoom => exact .withoutRoom

theorem roomStep_cast [Digest] (page : action.isPage = false)
    (stepped : db.roomStep action = some next) : db.CastKept action next :=
  (roomStep_writes stepped).cast page

end Cast

end Database

namespace Database

variable {db next : Database} {action : RoomAction} {roomId : JsString}

structure Unreported (db : Database) (roomId : JsString) : Prop where
  reports : ∀ report ∈ db.reports.rows, report.roomId ≠ roomId
  executions : ∀ execution ∈ db.modelExecutions.rows, execution.Reporting → execution.roomId ≠ roomId

theorem Concluding.unreported (held : db.Concluding) (absent : db.rooms.get roomId = none) :
    db.Unreported roomId where
  reports report member same := by
    obtain ⟨room, stored, -⟩ := held.reported report member
    rw [same, absent] at stored
    contradiction
  executions execution member reporting same := by
    obtain ⟨room, stored, -⟩ := held.quiet execution member reporting
    rw [same, absent] at stored
    contradiction

theorem Unreported.same (unreported : db.Unreported roomId) (reports : next.reports = db.reports)
    (executions : next.modelExecutions = db.modelExecutions) : next.Unreported roomId :=
  ⟨reports ▸ unreported.reports, executions ▸ unreported.executions⟩

theorem Unreported.step (unreported : db.Unreported roomId) (step : db.ReportsStep next)
    (unled : ∀ room, db.rooms.get roomId = some room →
      db.participants.get room.facilitatorParticipantId = none) : next.Unreported roomId := by
  cases step with
  | stays reports rooms executions =>
    refine ⟨reports ▸ unreported.reports, fun execution member reporting => ?_⟩
    obtain ⟨old, before, was, -, place⟩ := executions execution member reporting
    rw [← place]
    exact unreported.executions old before was
  | opens absent status idle rooms reports executions
  | starts stored opened quiet rooms reports executions id status =>
    exact unreported.same reports executions
  | @begins execution aborted old new made stored facilitator speaker quiet absent rooms reports
      executions =>
      subst made
      refine ⟨?_, fun row member reporting => ?_⟩
      · have same : ((aborted.putRoom new).putExecution execution).reports = db.reports := reports
        exact same ▸ unreported.reports
      · have rows : ((aborted.putRoom new).putExecution execution).modelExecutions =
            db.modelExecutions.put execution := by rw [← executions]; rfl
        rw [rows] at member
        rcases mem_put.mp member with rfl | ⟨before, -⟩
        · intro same
          obtain ⟨participant, seated⟩ := speaker
          rw [facilitator, unled old (same ▸ stored)] at seated
          contradiction
        · exact unreported.executions row before reporting
  | @concludes execution committed report old new found reporting stored first absent own rooms
      reports executions step =>
      have moved : db.NoReportBegins next := .moved found executions step
      refine ⟨fun other member => ?_, fun row member began => ?_⟩
      · rw [reports, rows_put absent] at member
        rcases List.mem_append.mp member with before | last
        · exact unreported.reports other before
        · rw [List.mem_singleton.mp last, own, (get_mem stored).2]
          exact unreported.executions execution (get_mem found).1 reporting
      · obtain ⟨before, there, was, -, place⟩ := moved row member began
        rw [← place]
        exact unreported.executions before there was
  | deleted gone =>
    subst gone
    refine ⟨fun report member => ?_, fun execution member reporting => ?_⟩
    · exact unreported.reports report (mem_filter.mp member).1
    · exact unreported.executions execution (mem_filter.mp member).1 reporting

end Database

namespace RoomPages

open Database

/-- Executions begin by the transaction of their kind, and no random id is the word
that stands for a facilitator to come. -/
def callsRight : PageAction → Bool
  | .room action => action.beginsItsKind ∧ ∀ id ∈ action.joins, id ≠ js "pending"
  | .make .. | .finish .. => true

def CallsRight (_ : RoomPages) (action : PageAction) : Prop := callsRight action = true

instance (pages : RoomPages) (action : PageAction) : Decidable (pages.CallsRight action) :=
  inferInstanceAs (Decidable (_ = true))

structure Unfinished (pages : RoomPages) : Prop where
  concluding : pages.db.Concluding
  named : ∀ participant ∈ pages.db.participants.rows, participant.id ≠ js "pending"
  rows : ∀ row ∈ pages.held.rows, row.status = .open ∧ row.activeRoundId = none
  pending : ∀ row ∈ pages.held.rows, ∀ room, pages.db.rooms.get row.id = some room →
    room.facilitatorParticipantId = js "pending"
  unreported : ∀ row ∈ pages.held.rows, pages.db.Unreported row.id

variable [Digest] {pages next : RoomPages} {action : PageAction}

omit [Digest] in
theorem Unfinished.initial : initial.Unfinished where
  concluding := .empty
  named _ member := absurd member List.not_mem_nil
  rows _ member := absurd member List.not_mem_nil
  pending _ member := absurd member List.not_mem_nil
  unreported _ member := absurd member List.not_mem_nil

variable (held : pages.Unfinished)

include held

theorem Unfinished.room {action : RoomAction} (called : pages.CallsRight (.room action))
    (stepped : pages.step (.room action) = some next) : next.Unfinished := by
  obtain ⟨page, ran, rest⟩ := room_step stepped
  obtain ⟨kinds, joins⟩ := of_decide_eq_true called
  have step := roomStep_reports kinds ran
  have cast := roomStep_cast page ran
  refine ⟨held.concluding.step step, fun participant member => ?_, rest ▸ held.rows,
    fun row member room found => ?_, fun row member => ?_⟩
  · rcases cast.participants participant member with before | joined
    · exact held.named participant before
    · exact joins participant.id joined
  · rw [rest] at member
    obtain ⟨inTable, name⟩ := get_mem found
    obtain ⟨old, stored, facilitator⟩ := cast.rooms room inTable
    rw [facilitator]
    exact held.pending row member old (name ▸ stored)
  · rw [rest] at member
    refine (held.unreported row member).step step fun room stored => ?_
    rw [held.pending row member room stored]
    exact get_eq_none.mpr fun listed participant => held.named listed participant

theorem Unfinished.make {topic background : JsString} {stamp : Stamp}
    (stepped : pages.make topic background stamp = some next) : next.Unfinished := by
  obtain rfl | ⟨row, made, absent, fresh, rfl⟩ := make_ok stepped
  · exact held
  · have opening := createDiscussionRoom_opening made
    have unreported := held.concluding.unreported absent
    refine ⟨held.concluding.opens absent opening.status opening.idle rfl rfl rfl, held.named,
      fun other member => ?_, fun other member room found => ?_, fun other member => ?_⟩
    · rcases mem_put.mp member with rfl | ⟨before, -⟩
      · exact ⟨opening.status, opening.idle⟩
      · exact held.rows other before
    · simp only [putRoom, get_put] at found
      split at found
      · cases found
        exact opening.facilitator
      · rename_i elsewhere
        rcases mem_put.mp member with rfl | ⟨before, -⟩
        · exact absurd rfl elsewhere
        · exact held.pending other before room found
    · rcases mem_put.mp member with rfl | ⟨before, -⟩
      · exact unreported.same rfl rfl
      · exact (held.unreported other before).same rfl rfl

theorem Unfinished.finish {roomId participantId : JsString}
    (stepped : pages.step (.finish roomId participantId) = some next) : next.Unfinished := by
  obtain ⟨row, member, own, put, rest⟩ := finish_step stepped
  subst own
  obtain ⟨status, idle⟩ := held.rows row member
  have unreported := held.unreported row member
  have rooms : next.db.rooms = pages.db.rooms.put (finished row participantId) := by rw [put]; rfl
  have later {other : DiscussionRoom} (kept : other ∈ next.held.rows) :
      other ∈ pages.held.rows ∧ other.id ≠ row.id := by
    rw [rest] at kept
    obtain ⟨before, elsewhere⟩ := mem_filter.mp kept
    exact ⟨before, of_decide_eq_true elsewhere⟩
  refine ⟨?_, ?_, fun other kept => held.rows other (later kept).1, fun other kept room found => ?_,
    fun other kept => ?_⟩
  · cases stored : pages.db.rooms.get row.id with
    | none =>
      have absent : pages.db.rooms.get (finished row participantId).id = none := stored
      exact held.concluding.opens absent status idle rooms (by rw [put]; rfl) (by rw [put]; rfl)
    | some room =>
      obtain ⟨there, name⟩ := get_mem stored
      have opened : room.status = .open := by
        cases ended : room.status with
        | «open» => rfl
        | concluded =>
          obtain ⟨report, listed, place⟩ := held.concluding.answered room there ended
          exact absurd (place.trans name) (unreported.reports report listed)
      exact held.concluding.stays (by rw [put]; rfl)
        (.put stored rooms name.symm (status.trans opened.symm) (.inr idle))
        (.same (by rw [put]; rfl))
  · rw [put]
    exact held.named
  · have elsewhere : other.id ≠ (finished row participantId).id := (later kept).2
    rw [rooms, get_put_other elsewhere] at found
    exact held.pending other (later kept).1 room found
  · exact (held.unreported other (later kept).1).same (by rw [put]; rfl) (by rw [put]; rfl)

theorem Unfinished.step (called : pages.CallsRight action) (stepped : pages.step action = some next) :
    next.Unfinished := by
  cases action with
  | room action => exact held.room called stepped
  | make topic background stamp => exact held.make stepped
  | finish roomId participantId => exact held.finish stepped

end RoomPages

namespace Database

def reportsOf (db : Database) (roomId : JsString) : List DecisionReport :=
  db.reports.rows.filter (·.roomId = roomId)

structure ReportsConclude (db : Database) : Prop where
  one : ∀ roomId, (db.reportsOf roomId).length ≤ 1
  concluded : ∀ room ∈ db.rooms.rows,
    room.status = .concluded ↔ (db.reportsOf room.id).length = 1
  idle : ∀ room ∈ db.rooms.rows, room.status = .concluded → room.activeRoundId = none
  apart : ∀ execution ∈ db.modelExecutions.rows, execution.Reporting →
    ∀ room ∈ db.rooms.rows, room.id = execution.roomId → room.activeRoundId = none
  alone : ∀ roomId, (db.modelExecutions.rows.filter fun execution =>
    execution.roomId = roomId ∧ execution.Reporting).length ≤ 1

theorem Concluding.conclude {db : Database} (held : db.Concluding) : db.ReportsConclude := by
  have one (roomId : JsString) : (db.reportsOf roomId).length ≤ 1 := by
    refine length_filter_le_one fun report member other otherMember own alsoOwn => ?_
    have place : report.roomId = other.roomId :=
      (of_decide_eq_true own).trans (of_decide_eq_true alsoOwn).symm
    exact held.single report member other otherMember place
  refine ⟨one, fun room member => ⟨fun ended => ?_, fun reported => ?_⟩, held.idle,
    fun execution member reporting room there own => ?_, fun roomId => ?_⟩
  · obtain ⟨report, listed, own⟩ := held.answered room member ended
    have some_ : 0 < (db.reportsOf room.id).length :=
      List.length_pos_of_mem (List.mem_filter.mpr ⟨listed, decide_eq_true own⟩)
    have most := one room.id
    omega
  · obtain ⟨report, only⟩ := List.length_eq_one_iff.mp reported
    have listed : report ∈ db.reportsOf room.id := by
      rw [only]
      exact List.mem_cons_self
    obtain ⟨stored, own⟩ := List.mem_filter.mp listed
    obtain ⟨other, found, ended⟩ := held.reported report stored
    rw [of_decide_eq_true own, get_of_mem member] at found
    rw [Option.some.inj found]
    exact ended
  · obtain ⟨other, found, idle⟩ := held.quiet execution member reporting
    rw [← own, get_of_mem there] at found
    rw [Option.some.inj found]
    exact idle
  · refine length_filter_le_one fun execution member other otherMember own alsoOwn => ?_
    obtain ⟨place, reporting⟩ := of_decide_eq_true own
    obtain ⟨otherPlace, otherReporting⟩ := of_decide_eq_true alsoOwn
    exact held.alone execution member other otherMember reporting otherReporting
      (place.trans otherPlace.symm)

end Database

/-- Over every order of transactions, room administration and pages. -/
theorem RoomPages.reports_conclude [Digest] {pages : RoomPages} {actions : List PageAction}
    (run : Run step CallsRight .initial actions pages) :
    pages.db.ReportsConclude := by
  have held : pages.Unfinished :=
    run.invariant (fun held called stepped => held.step called stepped) Unfinished.initial
  exact held.concluding.conclude

/-- The calls of `concludedActions`, but for those its page makes. -/
def reportedActions : List PageAction :=
  [.make (js "topic") [] (stamp (js "room"))] ++
    ((concludedActions.drop 1).take 3).map .room ++
    [.finish (js "room") (js "f")] ++ (concludedActions.drop 5).map .room

theorem reports_conclude_reported :
    ∃ pages, Run (@step sampleDigest) CallsRight .initial reportedActions pages ∧
      roomConcluded pages.db = true ∧ pages.db.ReportsConclude := by
  have ended : (execute (guarded (@step sampleDigest) CallsRight) .initial
      reportedActions).any (fun pages => roomConcluded pages.db) = true := by decide +kernel
  obtain ⟨pages, ran, concluded⟩ := (Option.any_eq_true _ _).mp ended
  have run := execute_guarded ran
  exact ⟨pages, run, concluded, @reports_conclude sampleDigest pages reportedActions run⟩

end CouncilKit.Discussion
