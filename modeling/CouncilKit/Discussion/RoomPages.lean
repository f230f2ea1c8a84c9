import CouncilKit.Discussion.Writes

namespace CouncilKit.Discussion

open Data

structure RoomPages where
  db : Database
  held : Table DiscussionRoom.id

inductive PageAction where
  | room (action : RoomAction)
  /-- `rooms.add(room)`; the page keeps `room`. -/
  | make (topic background : JsString) (stamp : Stamp)
  /-- `room.facilitatorParticipantId = …` and `rooms.put(room)`. -/
  | finish (roomId participantId : JsString)

def RoomAction.isPage : RoomAction → Bool
  | .discussion (.createRoom ..) | .discussion (.assignFacilitator ..) => true
  | _ => false

namespace RoomPages

def initial : RoomPages := ⟨.empty, .empty⟩

def finished (row : DiscussionRoom) (participantId : JsString) : DiscussionRoom :=
  { row with facilitatorParticipantId := participantId }

variable [Digest]

def make (pages : RoomPages) (topic background : JsString) (stamp : Stamp) : Option RoomPages :=
  match Database.createDiscussionRoom topic background stamp with
  | .error _ => some pages
  | .ok row =>
    match pages.db.rooms.add row with
    | none => some pages
    | some rooms => (pages.held.add row).map fun held => ⟨{ pages.db with rooms }, held⟩

def step (pages : RoomPages) : PageAction → Option RoomPages
  | .room action =>
    if action.isPage then none else (pages.db.roomStep action).map fun db => { pages with db }
  | .make topic background stamp => pages.make topic background stamp
  | .finish roomId participantId => (pages.held.get roomId).map fun row =>
    ⟨pages.db.putRoom (finished row participantId), pages.held.filter (·.id ≠ roomId)⟩

variable {pages next : RoomPages}

theorem make_ok {topic background : JsString} {stamp : Stamp}
    (stepped : pages.make topic background stamp = some next) :
    next = pages ∨ ∃ row, Database.createDiscussionRoom topic background stamp = .ok row ∧
      pages.db.rooms.get row.id = none ∧ pages.held.get row.id = none ∧
      next = ⟨pages.db.putRoom row, pages.held.put row⟩ := by
  simp only [make] at stepped
  split at stepped
  · cases stepped
    exact .inl rfl
  · rename_i row made
    split at stepped
    · cases stepped
      exact .inl rfl
    · rename_i rooms added
      obtain ⟨held, kept, rfl⟩ := Option.map_eq_some_iff.mp stepped
      obtain ⟨absent, rfl⟩ := Table.add_eq_some.mp added
      obtain ⟨fresh, rfl⟩ := Table.add_eq_some.mp kept
      exact .inr ⟨row, made, absent, fresh, rfl⟩

theorem room_step {action : RoomAction} (stepped : pages.step (.room action) = some next) :
    action.isPage = false ∧ pages.db.roomStep action = some next.db ∧ next.held = pages.held := by
  simp only [step] at stepped
  split at stepped
  · contradiction
  · rename_i page
    obtain ⟨db, ran, rfl⟩ := Option.map_eq_some_iff.mp stepped
    exact ⟨by simpa using page, ran, rfl⟩

theorem finish_step {roomId participantId : JsString}
    (stepped : pages.step (.finish roomId participantId) = some next) :
    ∃ row ∈ pages.held.rows, row.id = roomId ∧ next.db = pages.db.putRoom (finished row participantId) ∧
      next.held = pages.held.filter (·.id ≠ roomId) := by
  obtain ⟨row, found, rfl⟩ := Option.map_eq_some_iff.mp stepped
  obtain ⟨member, own⟩ := Table.get_eq_some.mp found
  exact ⟨row, member, own, rfl, rfl⟩

end RoomPages

namespace Database

variable [Digest] {topic background : JsString} {stamp : Stamp} {room : DiscussionRoom}

structure Opening (room : DiscussionRoom) : Prop where
  facilitator : room.facilitatorParticipantId = js "pending"
  status : room.status = .open
  idle : room.activeRoundId = none
  revision : room.contextRevision = 0
  digest : room.contextDigest = computeContextDigest (projectSharedContext room.topic room.background [] [])

theorem createDiscussionRoom_opening
    (made : createDiscussionRoom topic background stamp = .ok room) : Opening room := by
  simp only [createDiscussionRoom, except_bind_ok] at made
  obtain ⟨-, -, made⟩ := made
  cases made
  exact ⟨rfl, rfl, rfl, rfl, rfl⟩

end Database

end CouncilKit.Discussion
