import CouncilKit.Discussion.LiveExecutions
import CouncilKit.Discussion.RoomPages

namespace CouncilKit.Discussion

open Data Table RoomPages

namespace Database

variable {db next : Database} {room old new : DiscussionRoom} {message : DiscussionMessage}
  {summary : DiscussionSummary}

structure Placed (db : Database) : Prop where
  messages : ∀ message ∈ db.messages.rows, ∃ room, db.rooms.get message.roomId = some room
  summaries : ∀ summary ∈ db.summaries.rows, ∃ room, db.rooms.get summary.roomId = some room

structure SameContext (old new : DiscussionRoom) : Prop where
  topic : new.topic = old.topic
  background : new.background = old.background
  contextRevision : new.contextRevision = old.contextRevision
  contextDigest : new.contextDigest = old.contextDigest

instance (old new : DiscussionRoom) : Decidable (SameContext old new) :=
  decidable_of_iff (new.topic = old.topic ∧ new.background = old.background ∧
    new.contextRevision = old.contextRevision ∧ new.contextDigest = old.contextDigest)
    ⟨fun same => ⟨same.1, same.2.1, same.2.2.1, same.2.2.2⟩, fun same => ⟨same.1, same.2, same.3, same.4⟩⟩

/-- How many changes of the shared context lie between two rows of a room. -/
def contextChanges (db next : Database) (old new : DiscussionRoom) : Nat :=
  if next.sharedContext new = db.sharedContext old then 0 else 1

/-- Each revision counts exactly the changes of its room's shared context. -/
def RevisionsCount (db next : Database) : Prop :=
  ∀ old ∈ db.rooms.rows, ∀ new ∈ next.rooms.rows, new.id = old.id →
    new.contextRevision = old.contextRevision + db.contextChanges next old new

theorem sharedContext_eq (messages : next.messages = db.messages)
    (summaries : next.summaries = db.summaries) (id : new.id = old.id)
    (topic : new.topic = old.topic) (background : new.background = old.background) :
    next.sharedContext new = db.sharedContext old := by
  rw [sharedContext, sharedContext, messages, summaries, id, topic, background]

theorem projectSharedContext_length {topic background : JsString}
    {messages : List DiscussionMessage} {summaries : List DiscussionSummary} :
    (projectSharedContext topic background messages summaries).items.length =
      messages.length + summaries.length := by
  simp [projectSharedContext, timedItems, List.length_insertionSort]

theorem sharedContext_ne
    (lengths : (next.sharedContext new).items.length ≠ (db.sharedContext old).items.length) :
    next.sharedContext new ≠ db.sharedContext old := by
  intro same
  rw [same] at lengths
  exact lengths rfl

theorem sharedContext_length : (db.sharedContext room).items.length =
    (db.messages.rows.filter fun message => message.roomId = room.id).length +
      (db.summaries.rows.filter fun summary => summary.roomId = room.id).length :=
  projectSharedContext_length

variable [Digest]

def DigestsCurrent (db : Database) : Prop :=
  ∀ room ∈ db.rooms.rows, room.contextDigest = computeContextDigest (db.sharedContext room)

/-- The bump of one room, after a change of what it shows. -/
structure Bumps (db next : Database) (old new : DiscussionRoom) : Prop where
  stored : db.rooms.get old.id = some old
  id : new.id = old.id
  rooms : next.rooms = db.rooms.put new
  revision : new.contextRevision = old.contextRevision + 1
  digest : new.contextDigest = computeContextDigest (next.sharedContext new)
  changed : next.sharedContext new ≠ db.sharedContext old
  others : ∀ room, room.id ≠ old.id → next.sharedContext room = db.sharedContext room
  messages : ∀ message ∈ next.messages.rows,
    message ∈ db.messages.rows ∨ message.roomId = old.id
  summaries : ∀ summary ∈ next.summaries.rows,
    summary ∈ db.summaries.rows ∨ summary.roomId = old.id

inductive ContextStep (db next : Database) : Prop where
  | aside (rooms : next.rooms = db.rooms) (messages : next.messages = db.messages)
      (summaries : next.summaries = db.summaries)
  | kept {old new : DiscussionRoom} (rooms : next.rooms = db.rooms.put new)
      (messages : next.messages = db.messages) (summaries : next.summaries = db.summaries)
      (stored : db.rooms.get old.id = some old) (id : new.id = old.id) (same : SameContext old new)
  | opened {room : DiscussionRoom} (absent : db.rooms.get room.id = none)
      (digest : room.contextDigest =
        computeContextDigest (projectSharedContext room.topic room.background [] []))
      (rooms : next.rooms = db.rooms.put room) (messages : next.messages = db.messages)
      (summaries : next.summaries = db.summaries)
  | bumped {old new : DiscussionRoom} (bumps : db.Bumps next old new)
  | deleted {roomId : JsString} (gone : next = db.withoutRoom roomId)

theorem Bumps.configure (stored : db.rooms.get old.id = some old) {topic background now : JsString}
    (different : ¬ (topic = old.topic ∧ background = old.background)) :
    db.Bumps (db.bumpRoomContext { old with topic, background } now) old
      (db.bumped { old with topic, background } now) where
  stored := stored
  id := rfl
  rooms := rfl
  revision := rfl
  digest := rfl
  changed same := different
    ⟨congrArg SharedProjection.topic same, congrArg SharedProjection.background same⟩
  others _ _ := rfl
  messages _ member := .inl member
  summaries _ member := .inl member

theorem Bumps.grown {said : List DiscussionMessage} {summed : List DiscussionSummary}
    (stored : db.rooms.get old.id = some old) (id : new.id = old.id)
    (rooms : next.rooms = db.rooms.put new)
    (revision : new.contextRevision = old.contextRevision + 1)
    (digest : new.contextDigest = computeContextDigest (next.sharedContext new))
    (messages : next.messages.rows = db.messages.rows ++ said)
    (summaries : next.summaries.rows = db.summaries.rows ++ summed)
    (own : ∀ message ∈ said, message.roomId = old.id)
    (ownSummed : ∀ summary ∈ summed, summary.roomId = old.id)
    (grows : 0 < said.length + summed.length) : db.Bumps next old new := by
  refine ⟨stored, id, rooms, revision, digest, sharedContext_ne ?_, fun room elsewhere => ?_,
    fun message member => ?_, fun summary member => ?_⟩
  · have all : (said.filter fun message => message.roomId = old.id) = said :=
      List.filter_eq_self.mpr fun message member => by simp [own message member]
    have allSummed : (summed.filter fun summary => summary.roomId = old.id) = summed :=
      List.filter_eq_self.mpr fun summary member => by simp [ownSummed summary member]
    simp only [sharedContext_length, messages, summaries, List.filter_append, List.length_append,
      id, all, allSummed]
    omega
  · have none_ : (said.filter fun message => message.roomId = room.id) = [] :=
      List.filter_eq_nil_iff.mpr fun message member => by
        simp [own message member, Ne.symm elsewhere]
    have noneSummed : (summed.filter fun summary => summary.roomId = room.id) = [] :=
      List.filter_eq_nil_iff.mpr fun summary member => by
        simp [ownSummed summary member, Ne.symm elsewhere]
    simp only [sharedContext, messages, summaries, List.filter_append, none_, noneSummed, List.append_nil]
  · rw [messages] at member
    exact (List.mem_append.mp member).imp_right (own message)
  · rw [summaries] at member
    exact (List.mem_append.mp member).imp_right (ownSummed summary)

omit [Digest] in
theorem SameContext.refl (room : DiscussionRoom) : SameContext room room := ⟨rfl, rfl, rfl, rfl⟩

variable {added : Database}

theorem bumped_digest {now : JsString} (messages : next.messages = added.messages)
    (summaries : next.summaries = added.summaries)
    (same : SameContext (added.bumped old now) new) (id : new.id = old.id) :
    new.contextDigest = computeContextDigest (next.sharedContext new) := by
  rw [same.contextDigest]
  exact congrArg computeContextDigest
    (sharedContext_eq messages summaries id same.topic same.background).symm

section

variable (now : JsString) (stored : db.rooms.get old.id = some old)
  (rooms : next.rooms = db.rooms.put new) (row : SameContext (added.bumped old now) new)
  (id : new.id = old.id)

include now stored rooms row id

theorem Bumps.said (absent : db.messages.get message.id = none) (own : message.roomId = old.id)
    (put : added.messages = db.messages.put message) (same : added.summaries = db.summaries)
    (messages : next.messages = added.messages) (summaries : next.summaries = added.summaries) :
    db.Bumps next old new := by
  have listed : next.messages.rows = db.messages.rows ++ [message] := by
    rw [messages, put, rows_put absent]
  have unchanged : next.summaries.rows = db.summaries.rows ++ [] := by
    rw [summaries, same, List.append_nil]
  exact .grown stored id rooms row.contextRevision (bumped_digest messages summaries row id) listed
    unchanged (by simp [own]) (by simp) (by simp)

theorem Bumps.summed (absent : db.summaries.get summary.id = none) (own : summary.roomId = old.id)
    (put : added.summaries = db.summaries.put summary) (same : added.messages = db.messages)
    (messages : next.messages = added.messages) (summaries : next.summaries = added.summaries) :
    db.Bumps next old new := by
  have listed : next.summaries.rows = db.summaries.rows ++ [summary] := by
    rw [summaries, put, rows_put absent]
  have unchanged : next.messages.rows = db.messages.rows ++ [] := by
    rw [messages, same, List.append_nil]
  exact .grown stored id rooms row.contextRevision (bumped_digest messages summaries row id)
    unchanged listed (by simp) (by simp [own]) (by simp)

end

omit [Digest] in
theorem stored_self {roomId : JsString} (found : db.rooms.get roomId = some room) :
    db.rooms.get room.id = some room := by
  rw [(get_mem found).2]
  exact found

theorem Writes.context_step {action : RoomAction} (writes : db.Writes action next) :
    db.ContextStep next := by
  cases writes with
  | aside | round | beginExecution | beginFocusExecution | execution | release =>
    exact .aside rfl rfl rfl
  | createRoom made absent =>
    exact .opened absent (createDiscussionRoom_opening made).digest rfl rfl rfl
  | room stored kept =>
    have same : SameContext _ _ :=
      ⟨kept.topic, kept.background, kept.contextRevision, kept.contextDigest⟩
    exact .kept rfl rfl rfl (stored_self stored) kept.id same
  | appendUserMessage authorised stored own said absent =>
    have key := (get_mem authorised.found).2
    subst said
    exact .bumped (.said _ (stored_self authorised.found) rfl (.refl _) rfl absent key.symm rfl rfl
      rfl rfl)
  | updateRoomSharedConfig authorised different =>
    exact .bumped (.configure (stored_self authorised.found) different)
  | @renameRoom roomId topic now room stored different =>
    have changed : ¬ (topic = room.topic ∧ room.background = room.background) :=
      fun same => different same.1.symm
    exact .bumped (.configure (stored_self stored) changed)
  | createRound authorised opened idle quiet made absent =>
    exact .kept rfl rfl rfl (stored_self authorised.found) rfl ⟨rfl, rfl, rfl, rfl⟩
  | abortRound authorised stored going =>
    simp only [afterInterrupt]
    split <;> exact .kept rfl rfl rfl (stored_self authorised.found) rfl ⟨rfl, rfl, rfl, rfl⟩
  | skipParticipant admitted =>
    exact .kept rfl rfl rfl (stored_self admitted.authorised.found) rfl ⟨rfl, rfl, rfl, rfl⟩
  | beginReportExecution made kind authorised opened aborts quiet absent =>
    cases aborts <;>
      exact .kept rfl rfl rfl (stored_self authorised.found) rfl ⟨rfl, rfl, rfl, rfl⟩
  | commitModelMessage commits focused absent | commitFocusMessage commits unfocused absent =>
    exact .bumped (.said _ (stored_self commits.loaded.authorised.found) rfl (.refl _) rfl absent
      rfl rfl rfl rfl rfl)
  | @commitSummary input stamp context bumped commits first absent bump =>
    subst bump
    exact .bumped (.summed stamp.now (stored_self commits.loaded.authorised.found) (put_put rfl)
      ⟨rfl, rfl, rfl, rfl⟩ rfl absent rfl rfl rfl rfl rfl)
  | commitReport found authorised committable first opened made absent =>
    exact .kept rfl rfl rfl (stored_self authorised.found) rfl ⟨rfl, rfl, rfl, rfl⟩
  | deleteRoom => exact .deleted rfl

/-- A room of the next database, with its digest and its revision. -/
inductive RowStep (db next : Database) (new : DiscussionRoom) : Prop where
  | shown {old : DiscussionRoom} (stored : db.rooms.get new.id = some old)
      (digest : new.contextDigest = computeContextDigest (next.sharedContext new))
      (revision : new.contextRevision = old.contextRevision + db.contextChanges next old new)
  | fresh (absent : db.rooms.get new.id = none)
      (digest : new.contextDigest = computeContextDigest (next.sharedContext new))

theorem rows_keep (rows : ∀ new ∈ next.rooms.rows, db.RowStep next new) :
    next.DigestsCurrent ∧ db.RevisionsCount next := by
  constructor
  · intro new member
    cases rows new member with
    | shown stored digest revision => exact digest
    | fresh absent digest => exact digest
  · intro old member new after same
    have found : db.rooms.get new.id = some old := by
      rw [same]
      exact get_of_mem member
    cases rows new after with
    | shown stored digest revision =>
      obtain rfl := Option.some.inj (stored.symm.trans found)
      exact revision
    | fresh absent digest =>
      rw [absent] at found
      contradiction

theorem RowStep.steady (current : db.DigestsCurrent) (stored : db.rooms.get old.id = some old)
    (id : new.id = old.id) (same : SameContext old new)
    (shows : next.sharedContext new = db.sharedContext old) : db.RowStep next new := by
  refine .shown (id ▸ stored) ?_ ?_
  · rw [same.contextDigest, shows]
    exact current old (get_mem stored).1
  · rw [same.contextRevision, contextChanges, if_pos shows, Nat.add_zero]

omit [Digest] in
theorem Placed.unshown (placed : db.Placed) (absent : db.rooms.get room.id = none)
    (messages : next.messages = db.messages) (summaries : next.summaries = db.summaries) :
    next.sharedContext room = projectSharedContext room.topic room.background [] [] := by
  have silent : (next.messages.rows.filter fun message => message.roomId = room.id) = [] := by
    refine List.filter_eq_nil_iff.mpr fun message member => ?_
    rw [messages] at member
    obtain ⟨other, found⟩ := placed.messages message member
    intro own
    rw [of_decide_eq_true own, absent] at found
    contradiction
  have unsummed : (next.summaries.rows.filter fun summary => summary.roomId = room.id) = [] := by
    refine List.filter_eq_nil_iff.mpr fun summary member => ?_
    rw [summaries] at member
    obtain ⟨other, found⟩ := placed.summaries summary member
    intro own
    rw [of_decide_eq_true own, absent] at found
    contradiction
  rw [sharedContext, silent, unsummed]

theorem rows_put_keep (current : db.DigestsCurrent) (rooms : next.rooms = db.rooms.put new)
    (row : db.RowStep next new)
    (others : ∀ room ∈ db.rooms.rows, room.id ≠ new.id → next.sharedContext room = db.sharedContext room) :
    ∀ room ∈ next.rooms.rows, db.RowStep next room := by
  intro room member
  rw [rooms] at member
  rcases mem_put.mp member with rfl | ⟨before, other⟩
  · exact row
  · exact .steady current (get_of_mem before) rfl (.refl room) (others room before other)

theorem ContextStep.rows (step : db.ContextStep next) (current : db.DigestsCurrent)
    (placed : db.Placed) : ∀ room ∈ next.rooms.rows, db.RowStep next room := by
  cases step with
  | aside rooms messages summaries =>
    intro room member
    rw [rooms] at member
    exact .steady current (get_of_mem member) rfl (.refl room)
      (sharedContext_eq messages summaries rfl rfl rfl)
  | kept rooms messages summaries stored id same =>
    have shows := sharedContext_eq messages summaries id same.topic same.background
    exact rows_put_keep current rooms (.steady current stored id same shows)
      fun room _ _ => sharedContext_eq messages summaries rfl rfl rfl
  | opened absent digest rooms messages summaries =>
    have empty := placed.unshown absent messages summaries
    exact rows_put_keep current rooms (.fresh absent (digest.trans (by rw [empty])))
      fun room _ _ => sharedContext_eq messages summaries rfl rfl rfl
  | bumped bumps =>
    refine rows_put_keep current bumps.rooms (.shown (bumps.id ▸ bumps.stored) bumps.digest ?_)
      fun room _ other => bumps.others room (bumps.id ▸ other)
    rw [bumps.revision, contextChanges, if_neg bumps.changed]
  | @deleted roomId gone =>
    subst gone
    intro room member
    obtain ⟨before, elsewhere⟩ := mem_filter.mp member
    have shows : (db.withoutRoom roomId).sharedContext room = db.sharedContext room := by
      have other : ¬ room.id = roomId := of_decide_eq_true elsewhere
      simp only [sharedContext, withoutRoom, filter, List.filter_filter]
      congr 1 <;> refine List.filter_congr fun row _ => ?_
      all_goals
        by_cases own : row.roomId = room.id <;> simp [own, other]
    exact .steady current (get_of_mem before) rfl (.refl room) shows

omit [Digest] in
theorem room_withoutRoom {roomId other : JsString} (elsewhere : decide (other ≠ roomId) = true)
    (there : ∃ room, db.rooms.get other = some room) :
    ∃ room, (db.withoutRoom roomId).rooms.get other = some room := by
  obtain ⟨room, found⟩ := there
  refine ⟨room, ?_⟩
  rw [withoutRoom, get_filter, found]
  simp [(get_mem found).2, of_decide_eq_true elsewhere]

theorem ContextStep.placed (step : db.ContextStep next) (placed : db.Placed) : next.Placed := by
  have put {new : DiscussionRoom} (rooms : next.rooms = db.rooms.put new) {roomId : JsString}
      (there : ∃ room, db.rooms.get roomId = some room) : ∃ room, next.rooms.get roomId = some room := by
    rw [rooms, get_put]
    split
    · exact ⟨_, rfl⟩
    · exact there
  cases step with
  | aside rooms messages summaries =>
    refine ⟨fun message member => ?_, fun summary member => ?_⟩
    · rw [messages] at member
      rw [rooms]
      exact placed.messages message member
    · rw [summaries] at member
      rw [rooms]
      exact placed.summaries summary member
  | kept rooms messages summaries | opened _ _ rooms messages summaries =>
    refine ⟨fun message member => ?_, fun summary member => ?_⟩
    · rw [messages] at member
      exact put rooms (placed.messages message member)
    · rw [summaries] at member
      exact put rooms (placed.summaries summary member)
  | bumped bumps =>
    refine ⟨fun message member => ?_, fun summary member => ?_⟩
    · rcases bumps.messages message member with before | own
      · exact put bumps.rooms (placed.messages message before)
      · exact put bumps.rooms ⟨_, own ▸ bumps.stored⟩
    · rcases bumps.summaries summary member with before | own
      · exact put bumps.rooms (placed.summaries summary before)
      · exact put bumps.rooms ⟨_, own ▸ bumps.stored⟩
  | @deleted roomId gone =>
    subst gone
    refine ⟨fun message member => ?_, fun summary member => ?_⟩
    · obtain ⟨before, elsewhere⟩ := mem_filter.mp member
      exact room_withoutRoom elsewhere (placed.messages message before)
    · obtain ⟨before, elsewhere⟩ := mem_filter.mp member
      exact room_withoutRoom elsewhere (placed.summaries summary before)

end Database

namespace RoomPages

open Database

def FindsOwn (pages : RoomPages) : PageAction → Prop
  | .finish roomId _ => ∀ row ∈ pages.held.get roomId, ∀ room ∈ pages.db.rooms.get roomId,
      SameContext room row
  | _ => True

instance (pages : RoomPages) : (action : PageAction) → Decidable (pages.FindsOwn action)
  | .finish roomId _ => inferInstanceAs (Decidable (∀ row ∈ pages.held.get roomId, _))
  | .room _ | .make .. => .isTrue trivial

variable [Digest] {pages next : RoomPages} {action : PageAction}

/-- The digests are current before the step and after, and the step counts. -/
def CountsContext (pages : RoomPages) (action : PageAction) : Prop :=
  pages.db.DigestsCurrent ∧ ∀ next, pages.step action = some next →
    next.db.DigestsCurrent ∧ pages.db.RevisionsCount next.db

structure Counted (pages : RoomPages) : Prop where
  current : pages.db.DigestsCurrent
  placed : pages.db.Placed
  revisions : ∀ row ∈ pages.held.rows, row.contextRevision = 0
  digests : ∀ row ∈ pages.held.rows, row.contextDigest =
    computeContextDigest (projectSharedContext row.topic row.background [] [])

theorem Counted.initial : initial.Counted :=
  ⟨fun _ member => absurd member List.not_mem_nil,
    ⟨fun _ member => absurd member List.not_mem_nil, fun _ member => absurd member List.not_mem_nil⟩,
    fun _ member => absurd member List.not_mem_nil, fun _ member => absurd member List.not_mem_nil⟩

section

variable (counted : pages.Counted)

include counted

theorem Counted.goes (step : pages.db.ContextStep next.db)
    (revisions : ∀ row ∈ next.held.rows, row.contextRevision = 0)
    (digests : ∀ row ∈ next.held.rows, row.contextDigest = computeContextDigest (projectSharedContext row.topic row.background [] [])) :
    next.Counted ∧ pages.db.RevisionsCount next.db := by
  obtain ⟨current, count⟩ := rows_keep (step.rows counted.current counted.placed)
  exact ⟨⟨current, step.placed counted.placed, revisions, digests⟩, count⟩

theorem Counted.make {topic background : JsString} {stamp : Stamp}
    (stepped : pages.make topic background stamp = some next) :
    next.Counted ∧ pages.db.RevisionsCount next.db := by
  obtain rfl | ⟨row, made, absent, fresh, rfl⟩ := make_ok stepped
  · exact counted.goes (.aside rfl rfl rfl) counted.revisions counted.digests
  · have opening := createDiscussionRoom_opening made
    refine counted.goes (.opened absent opening.digest rfl rfl rfl) ?_ ?_
    · intro other member
      rcases mem_put.mp member with rfl | ⟨before, -⟩
      · exact opening.revision
      · exact counted.revisions other before
    · intro other member
      rcases mem_put.mp member with rfl | ⟨before, -⟩
      · exact opening.digest
      · exact counted.digests other before

theorem Counted.finish {roomId participantId : JsString}
    (stepped : pages.step (.finish roomId participantId) = some next) :
    (pages.FindsOwn (.finish roomId participantId) → next.Counted ∧ pages.db.RevisionsCount next.db) ∧
      (next.db.DigestsCurrent ∧ pages.db.RevisionsCount next.db →
        pages.FindsOwn (.finish roomId participantId)) := by
  obtain ⟨row, member, own, put, rest⟩ := finish_step stepped
  subst own
  have held : pages.held.get row.id = some row := get_of_mem member
  have rooms : next.db.rooms = pages.db.rooms.put (finished row participantId) := by rw [put]; rfl
  have later {other : DiscussionRoom} (kept : other ∈ next.held.rows) : other ∈ pages.held.rows := by
    rw [rest] at kept
    exact (mem_filter.mp kept).1
  have revisions : ∀ other ∈ next.held.rows, other.contextRevision = 0 :=
    fun other kept => counted.revisions other (later kept)
  have digests : ∀ other ∈ next.held.rows, other.contextDigest =
      computeContextDigest (projectSharedContext other.topic other.background [] []) :=
    fun other kept => counted.digests other (later kept)
  constructor
  · intro finds
    cases stored : pages.db.rooms.get row.id with
    | none =>
      have absent : pages.db.rooms.get (finished row participantId).id = none := stored
      refine counted.goes (.opened absent ?_ rooms (by rw [put]; rfl) (by rw [put]; rfl)) revisions
        digests
      exact counted.digests row member
    | some room =>
      have same := finds row held room stored
      have name : room.id = row.id := (get_mem stored).2
      refine counted.goes (.kept rooms (by rw [put]; rfl) (by rw [put]; rfl) (stored_self stored)
        name.symm ?_) revisions digests
      exact ⟨same.topic, same.background, same.contextRevision, same.contextDigest⟩
  · intro counts
    obtain ⟨current, count⟩ := counts
    intro other again room stored
    obtain rfl := Option.some.inj (held.symm.trans again)
    obtain ⟨before, name⟩ := get_mem stored
    have after : finished row participantId ∈ next.db.rooms.rows := by
      rw [rooms]
      exact mem_put.mpr (.inl rfl)
    have revision := count room before _ after name.symm
    have start : (finished row participantId).contextRevision = 0 :=
      counted.revisions row member
    have changes : pages.db.contextChanges next.db room (finished row participantId) = 0 := by omega
    have shows : next.db.sharedContext (finished row participantId) = pages.db.sharedContext room := by
      simp only [contextChanges] at changes
      split at changes
      · assumption
      · contradiction
    have digest := current _ after
    rw [shows, ← counted.current room before] at digest
    have zero : row.contextRevision = room.contextRevision := by
      have own : row.contextRevision = 0 := start
      omega
    exact ⟨congrArg SharedProjection.topic shows, congrArg SharedProjection.background shows, zero, digest⟩

theorem Counted.step (stepped : pages.step action = some next) :
    (pages.FindsOwn action → next.Counted ∧ pages.db.RevisionsCount next.db) ∧
      (next.db.DigestsCurrent ∧ pages.db.RevisionsCount next.db → pages.FindsOwn action) := by
  cases action with
  | room action =>
    obtain ⟨-, ran, rest⟩ := room_step stepped
    have held : next.Counted ∧ pages.db.RevisionsCount next.db :=
      counted.goes (roomStep_writes ran).context_step (rest ▸ counted.revisions) (rest ▸ counted.digests)
    exact ⟨fun _ => held, fun _ => trivial⟩
  | make topic background stamp => exact ⟨fun _ => counted.make stepped, fun _ => trivial⟩
  | finish roomId participantId => exact counted.finish stepped

end

/-- Over every order of transactions, room administration and pages: the digests
stay current and each step counts its change of a shared context, exactly when
every page that finishes finds the shared context it made. -/
theorem context_counted_iff {actions : List PageAction} :
    Run step CountsContext initial actions pages ∧ pages.db.DigestsCurrent ↔
      Run step FindsOwn initial actions pages := by
  constructor
  · intro counts
    refine counts.1.transfer (fun counted counts stepped => ?_) Counted.initial
    have finds := (Counted.step counted stepped).2 (counts.2 _ stepped)
    exact ⟨finds, ((counted.step stepped).1 finds).1⟩
  · intro run
    have counted : pages.Counted := run.invariant
      (fun counted finds stepped => ((Counted.step counted stepped).1 finds).1) Counted.initial
    refine ⟨run.transfer (fun counted finds stepped => ?_) Counted.initial, counted.current⟩
    obtain ⟨after, count⟩ := (Counted.step counted stepped).1 finds
    refine ⟨⟨counted.current, fun next again => ?_⟩, after⟩
    obtain rfl := Option.some.inj (stepped.symm.trans again)
    exact ⟨after.current, count⟩

end RoomPages

def makeRoom : List PageAction :=
  [.make (js "topic") [] (stamp (js "room")),
    .room (.discussion (.joinAgent (js "room") ⟨js "agent-f", js "m", js "s"⟩ (stamp (js "f")))),
    .room (.discussion (.joinAgent (js "room") ⟨js "agent-p", js "m", js "s"⟩ (stamp (js "p"))))]

def renameIt : PageAction := .room (.renameRoom (js "room") (js "renamed") (js "t"))

def finishRoom : PageAction := .finish (js "room") (js "f")

def contextOf (pages : RoomPages) : Option (JsString × Nat) :=
  (pages.db.rooms.get (js "room")).map fun room => (room.topic, room.contextRevision)

/-- Renamed when its page is done. -/
theorem context_counted_renamed :
    ∃ pages, Run (@step sampleDigest) (@CountsContext sampleDigest) .initial
        (makeRoom ++ [finishRoom, renameIt]) pages ∧
      contextOf pages = some (js "renamed", 1) ∧ @Database.DigestsCurrent sampleDigest pages.db := by
  have ended : (execute (guarded (@step sampleDigest) FindsOwn) .initial
      (makeRoom ++ [finishRoom, renameIt])).map contextOf = some (some (js "renamed", 1)) := by
    decide +kernel
  obtain ⟨pages, ran, shows⟩ := Option.map_eq_some_iff.mp ended
  obtain ⟨counts, current⟩ := (@context_counted_iff sampleDigest pages _).mpr
    (execute_guarded ran)
  exact ⟨pages, counts, shows, current⟩

/-- Renamed before: the put of the page takes the topic and the revision back. -/
theorem finish_reverts_rename :
    ∃ pages next, Run (@step sampleDigest) anyStep .initial (makeRoom ++ [renameIt])
        pages ∧ @step sampleDigest pages finishRoom = some next ∧
      contextOf pages = some (js "renamed", 1) ∧ contextOf next = some (js "topic", 0) ∧
      ¬ pages.db.RevisionsCount next.db := by
  have ended : (execute (@step sampleDigest) .initial (makeRoom ++ [renameIt])).bind
      (fun pages => (@step sampleDigest pages finishRoom).map fun next =>
        (contextOf pages, contextOf next)) =
      some (some (js "renamed", 1), some (js "topic", 0)) := by decide +kernel
  obtain ⟨pages, ran, went⟩ := Option.bind_eq_some_iff.mp ended
  obtain ⟨next, stepped, shows⟩ := Option.map_eq_some_iff.mp went
  obtain ⟨before, after⟩ := Prod.mk.inj shows
  refine ⟨pages, next, execute_run ran fun _ _ _ => trivial, stepped, before, after, fun count => ?_⟩
  obtain ⟨old, stored, was⟩ := Option.map_eq_some_iff.mp before
  obtain ⟨new, found, is⟩ := Option.map_eq_some_iff.mp after
  obtain ⟨member, name⟩ := get_mem stored
  obtain ⟨there, same⟩ := get_mem found
  have revision := count old member new there (same.trans name.symm)
  rw [(Prod.mk.inj was).2, (Prod.mk.inj is).2] at revision
  omega

end CouncilKit.Discussion
