import CouncilKit.Discussion.Runs

namespace CouncilKit.Discussion

open Data

namespace Database

variable (db : Database)

def renameRoom [Digest] (roomId topic now : JsString) : Outcome (Database × Bool) := do
  require (topic.trim ≠ []) (fault .INVALID (js "topic required"))
  let room ← db.requireRoom roomId
  require (db.activeBinding roomId = none) (fault .STALE_CONTROLLER (js "房间运行时已预热，请重试"))
  if room.topic = topic then return (db, false)
  return (db.bumpRoomContext { room with topic } now, true)

def unresolvedRound (room : DiscussionRoom) : Option DiscussionRound :=
  ((room.activeRoundId.filter (· ≠ [])).bind db.rounds.get).filter fun round =>
    round.phase ≠ .completed ∧ round.phase ≠ .aborted

def withoutRoom (roomId : JsString) : Database where
  participants := db.participants.filter (·.roomId ≠ roomId)
  rooms := db.rooms.filter (·.id ≠ roomId)
  rounds := db.rounds.filter (·.roomId ≠ roomId)
  messages := db.messages.filter (·.roomId ≠ roomId)
  summaries := db.summaries.filter (·.roomId ≠ roomId)
  reports := db.reports.filter (·.roomId ≠ roomId)
  modelExecutions := db.modelExecutions.filter (·.roomId ≠ roomId)
  runtimeBindings := db.runtimeBindings.filter (·.roomId ≠ roomId)

def deleteRoomCascade (roomId : JsString) : Outcome Database :=
  match db.rooms.get roomId with
  | none => .ok db
  | some room => do
    require (∀ execution ∈ db.modelExecutions.rows, execution.roomId = roomId →
        execution.state.isLive = false)
      (fault .ROOM_LIVE (js "cannot delete while an execution is running"))
    require (db.unresolvedRound room = none)
      (fault .ROOM_LIVE (js "cannot delete: an unresolved round remains"))
    require (∀ binding ∈ db.runtimeBindings.rows, binding.roomId = roomId →
        binding.state = .closed)
      (fault .ROOM_LIVE (js "cannot delete: a runtime binding is active or being created"))
    return db.withoutRoom roomId

end Database

/-- What changes the discussion database: a transaction or room admin. -/
inductive RoomAction where
  | discussion (action : DiscussionAction)
  | renameRoom (roomId topic now : JsString)
  | deleteRoomCascade (roomId : JsString)

def Database.roomStep [Digest] (db : Database) : RoomAction → Option Database
  | .discussion action => db.step action
  | .renameRoom roomId topic now => db.settleWith (db.renameRoom roomId topic now)
  | .deleteRoomCascade roomId => db.settle (db.deleteRoomCascade roomId)

namespace Database

variable {db next : Database} {roomId topic now : JsString}

theorem renameRoom_ok [Digest] {changed : Bool}
    (ended : db.renameRoom roomId topic now = .ok (next, changed)) :
    ∃ room, db.rooms.get roomId = some room ∧
      (next = db ∨ room.topic ≠ topic ∧ next = db.bumpRoomContext { room with topic } now) := by
  simp only [renameRoom, except_bind_ok, require_ok, requireRoom, fetch_ok, exists_const] at ended
  obtain ⟨-, room, found, -, ended⟩ := ended
  refine ⟨room, found, ?_⟩
  split at ended
  · cases ended
    exact .inl rfl
  · rename_i different
    cases ended
    exact .inr ⟨different, rfl⟩

theorem deleteRoomCascade_ok (ended : db.deleteRoomCascade roomId = .ok next) :
    next = db ∨ next = db.withoutRoom roomId := by
  simp only [deleteRoomCascade] at ended
  split at ended
  · cases ended
    exact .inl rfl
  · simp only [except_bind_ok, require_ok, exists_const] at ended
    obtain ⟨-, -, -, ended⟩ := ended
    cases ended
    exact .inr rfl

end Database

end CouncilKit.Discussion
