import CouncilKit.Discussion.Changes
import CouncilKit.Discussion.RoundFrames

namespace CouncilKit.Discussion

open Data Table DiscussionRound

namespace DiscussionRound

structure Sound (round : DiscussionRound) : Prop where
  paused : round.phase = .paused ↔ round.pausedFrom ≠ none
  spoken : round.Spoken
  freed : round.Final → round.activeExecutionId = none

variable {round new : DiscussionRound}

theorem Sound.unpaused (sound : round.Sound) (going : round.phase ≠ .paused) : round.pausedFrom = none := by
  by_contra saved
  exact going (sound.paused.mpr saved)

theorem Sound.pointing {executionId : JsString} (sound : round.Sound)
    (points : round.activeExecutionId = some executionId) : ¬ round.Final := by
  intro final
  rw [sound.freed final] at points
  contradiction

theorem Working.going (working : round.Working) : ¬ round.Final := by
  rcases working with phase | phase <;> simp [Final, phase]

theorem Sound.point {executionId : JsString} (sound : round.Sound) (working : round.Working) :
    Sound { round with activeExecutionId := some executionId } where
  paused := sound.paused
  spoken := sound.spoken
  freed final := absurd final working.going

theorem Sound.transition {target : TransitionTarget} (sound : round.Sound)
    (phase : round.phase = target.expectedFrom) : Sound { round with phase := target.phase } := by
  have none : round.pausedFrom = none := by
    apply sound.unpaused
    rw [phase]
    cases target <;> simp [TransitionTarget.expectedFrom]
  constructor
  · cases target <;> simp [TransitionTarget.phase, none]
  · exact (RoundStep.transition phase).spoken sound.spoken
  · intro final
    cases target <;> simp [Final, TransitionTarget.phase] at final

variable {pausedFrom : RoundPausedFrom}

theorem Sound.pause {reason : RoundPauseReason}
    (sound : round.Sound) (phase : round.phase.pausable = some pausedFrom) :
    Sound { round with
      pausedFrom := some pausedFrom, phase := .paused, pauseReason := some reason } where
  paused := by simp
  spoken summarizes := by
    simp only [reduceCtorEq, Option.some.injEq, false_or] at summarizes
    rw [summarizes] at phase
    apply sound.spoken
    cases was : round.phase <;> simp [RoundPhase.pausable, was] at phase ⊢
  freed final := by simp [Final] at final

theorem Sound.resume (sound : round.Sound)
    (phase : round.phase = .paused) (saved : round.pausedFrom = some pausedFrom) :
    Sound { round with phase := pausedFrom.phase, pausedFrom := none, pauseReason := none } where
  paused := by cases pausedFrom <;> simp [RoundPausedFrom.phase]
  spoken := (RoundStep.resume phase saved).spoken sound.spoken
  freed final := by cases pausedFrom <;> simp [Final, RoundPausedFrom.phase] at final

theorem Sound.release (sound : round.Sound) (releases : Releases round new) : new.Sound := by
  cases releases with
  | retried => exact ⟨sound.paused, sound.spoken, fun _ => rfl⟩
  | paused reason =>
    refine ⟨?_, RoundStep.releasePaused.spoken sound.spoken, fun _ => ?_⟩
    · cases phase : round.phase <;> simp [Database.releasedRound, phase] <;>
        simpa [phase] using sound.paused
    · cases phase : round.phase <;> simp [Database.releasedRound, phase]

end DiscussionRound

namespace Database

variable {db mid next : Database} {old new round : DiscussionRound} {action : RoomAction}

variable {call : DiscussionAction}

theorem RoundMoves.sound (moves : RoundMoves call old new) (sound : old.Sound) : new.Sound := by
  cases moves with
  | transition phase => exact sound.transition phase
  | pause phase => exact sound.pause phase
  | resume phase saved => exact sound.resume phase saved

theorem RoundWrite.sound (write : db.RoundWrite action old new) (sound : old.Sound) : new.Sound := by
  cases write with
  | moves moves => exact RoundMoves.sound moves sound
  | abort now going =>
    exact ⟨by simp [abortedRound], RoundStep.abort.spoken sound.spoken, fun _ => rfl⟩
  | skip admitted =>
    refine ⟨?_, (RoundStep.skip admitted.paused).spoken sound.spoken, fun _ => rfl⟩
    simp only [skippedRound, cursorPhase]
    split <;> simp
  | begin executionId working free => exact sound.point working
  | release points releases => exact sound.release releases
  | speak commits focused =>
    have phase := commits.runs.1.2
    have saved := sound.unpaused (by rw [phase]; simp)
    refine ⟨?_, (RoundStep.speak phase).spoken sound.spoken, fun _ => rfl⟩
    simp only [spokenRound, saved, ne_eq, not_true_eq_false, iff_false]
    split <;> simp [phase]
  | focus commits unfocused =>
    exact ⟨sound.paused, RoundStep.commitFocus.spoken sound.spoken, fun _ => rfl⟩
  | complete commits =>
    have phase := commits.runs.1.2
    have saved := sound.unpaused (by rw [phase]; simp)
    exact ⟨by simp [completedRound, saved], (RoundStep.complete phase).spoken sound.spoken,
      fun _ => rfl⟩

variable {roomId : JsString}

theorem newRound_sound {participantOrder : List JsString} {stamp : Stamp} :
    (db.newRound roomId participantOrder stamp).Sound where
  paused := by simp [newRound]
  spoken summarizes := by simp [newRound] at summarizes
  freed _ := rfl

def RowsSound (db : Database) : Prop := ∀ round ∈ db.rounds.rows, round.Sound

theorem RowsSound.origin (held : db.RowsSound) (origin : db.RoundOrigin action round) : round.Sound := by
  cases origin with
  | kept member => exact held round member
  | fresh made found opened row absent =>
    rw [row]
    exact newRound_sound
  | changed stored write => exact write.sound (held _ (get_mem stored).1)

theorem RowsSound.step [Digest] (held : db.RowsSound) (writes : db.Writes action next) :
    next.RowsSound := fun _ member => held.origin (writes.round_origin member)

theorem RoundMoves.going (moves : RoundMoves call old new) :
    ¬ old.Final := by
  cases moves with
  | @transition _ _ _ target _ phase =>
    cases target <;> simp [Final, phase, TransitionTarget.expectedFrom]
  | pause phase =>
    cases was : old.phase <;> simp [RoundPhase.pausable, was] at phase <;>
      simp [Final, was]
  | resume phase saved => simp [Final, phase]

theorem RoundWrite.going (write : db.RoundWrite action old new) (sound : old.Sound) : ¬ old.Final := by
  cases write with
  | moves moves => exact RoundMoves.going moves
  | abort now going => exact going
  | skip admitted => simp [Final, admitted.paused]
  | begin executionId working free => exact working.going
  | release points releases => exact sound.pointing points
  | speak commits | focus commits | complete commits =>
    simp [Final, commits.runs.1.2]

theorem RoundMoves.goes (moves : RoundMoves call old new) :
    ¬ new.Final := by
  cases moves with
  | @transition _ _ _ target => cases target <;> simp [Final, TransitionTarget.phase]
  | pause => simp [Final]
  | @resume _ _ _ _ pausedFrom =>
    cases pausedFrom <;> simp [Final, RoundPausedFrom.phase]

theorem Releases.goes (releases : Releases old new) (going : ¬ old.Final) : ¬ new.Final := by
  cases releases with
  | retried => exact going
  | paused reason =>
    simp only [releasedRound]
    split
    · simp [Final]
    · simp [Final]
    · exact going

theorem skippedRound_goes : ¬ (skippedRound round).Final := by
  simp only [Final, skippedRound, cursorPhase]
  split <;> simp

theorem spokenRound_goes (phase : round.phase = .running) : ¬ (spokenRound round).Final := by
  simp only [Final, spokenRound]
  split <;> simp [phase]

theorem RoundWrite.completes (write : db.RoundWrite action old new) (sound : old.Sound)
    (completed : new.phase = .completed) :
    ∃ input stamp context, action = .discussion (.commitSummary input stamp) ∧
      db.Commits input stamp .summary .summarizing context ∧ old = context.round := by
  have final : new.Final := .inl completed
  have going : ¬ old.Final := write.going sound
  cases write with
  | complete commits => exact ⟨_, _, _, rfl, commits, rfl⟩
  | abort now => contradiction
  | moves moves => exact absurd final (RoundMoves.goes moves)
  | skip admitted => exact absurd final skippedRound_goes
  | begin | focus => exact absurd final going
  | release points releases => exact absurd final (Releases.goes releases going)
  | speak commits focused => exact absurd final (spokenRound_goes commits.runs.1.2)

theorem RoundMoves.keeps (moves : RoundMoves call old new) : new.id = old.id ∧ new.roomId = old.roomId := by
  cases moves <;> exact ⟨rfl, rfl⟩

theorem Releases.keeps (releases : Releases old new) : new.id = old.id ∧ new.roomId = old.roomId := by
  cases releases with
  | retried => exact ⟨rfl, rfl⟩
  | paused reason =>
    have step : RoundStep old (releasedRound old reason) := .releasePaused
    exact ⟨step.id, step.roomId⟩

theorem RoundWrite.keeps (write : db.RoundWrite action old new) :
    new.id = old.id ∧ new.roomId = old.roomId := by
  cases write with
  | moves moves => exact RoundMoves.keeps moves
  | release points releases => exact Releases.keeps releases
  | abort | skip | begin | speak | focus | complete => exact ⟨rfl, rfl⟩

/-- A round that is not over is its room's active one, and the other way round. -/
structure Active (db : Database) : Prop where
  opened : db.Opened
  points : ∀ room ∈ db.rooms.rows, ∀ roundId, room.activeRoundId = some roundId →
    ∃ round, db.rounds.get roundId = some round ∧ round.roomId = room.id ∧ ¬ round.Final

theorem Active.empty : Database.empty.Active :=
  ⟨fun _ member => absurd member List.not_mem_nil, fun _ member => absurd member List.not_mem_nil⟩

theorem Active.frame (held : db.Active) (rooms : next.rooms = db.rooms)
    (rounds : next.rounds = db.rounds) : next.Active := by
  constructor
  · intro round member going
    rw [rounds] at member
    rw [rooms]
    exact held.opened round member going
  · intro room member roundId active
    rw [rooms] at member
    rw [rounds]
    exact held.points room member roundId active

variable {room : DiscussionRoom}

section

variable (held : db.Active)

include held

theorem Active.putRoom {old : DiscussionRoom} (stored : db.rooms.get roomId = some old)
    (key : room.id = old.id) (active : room.activeRoundId = old.activeRoundId) :
    (db.putRoom room).Active where
  opened := held.opened.putRoom stored key active
  points other member roundId runs := by
    rcases mem_put.mp member with rfl | ⟨kept, -⟩
    · rw [active] at runs
      rw [key]
      exact held.points old (get_mem stored).1 roundId runs
    · exact held.points other kept roundId runs

theorem Active.putRound (stored : db.rounds.get old.id = some old) (key : round.id = old.id)
    (own : round.roomId = old.roomId) (going : ¬ old.Final) (goes : ¬ round.Final) :
    (db.putRound round).Active where
  opened other member unfinished := by
    rcases mem_put.mp member with rfl | ⟨kept, -⟩
    · rw [key, own]
      exact held.opened old (get_mem stored).1 going
    · exact held.opened other kept unfinished
  points room member roundId runs := by
    obtain ⟨other, found, inRoom, unfinished⟩ := held.points room member roundId runs
    simp only [Database.putRound, get_put]
    split
    · rename_i same
      rw [same, key, stored] at found
      cases found
      exact ⟨round, rfl, own.trans inRoom, goes⟩
    · exact ⟨other, found, inRoom, unfinished⟩

theorem Active.closeRound (stored : db.rounds.get old.id = some old) (going : ¬ old.Final)
    (key : round.id = old.id) (final : round.Final) (own : room.id = old.roomId)
    (idle : room.activeRoundId = none) : ((db.putRound round).putRoom room).Active where
  opened other member unfinished := by
    rcases mem_put.mp member with rfl | ⟨kept, different⟩
    · exact absurd final unfinished
    · obtain ⟨row, found, runs⟩ := held.opened other kept unfinished
      have elsewhere : other.roomId ≠ room.id := by
        intro same
        apply different
        rw [key]
        exact held.opened.unique kept (get_mem stored).1 unfinished going (same.trans own)
      refine ⟨row, ?_, runs⟩
      simp only [Database.putRoom]
      rw [get_put_other elsewhere]
      exact found
  points other member roundId runs := by
    rcases mem_put.mp member with rfl | ⟨kept, different⟩
    · rw [idle] at runs
      contradiction
    · obtain ⟨row, found, inRoom, unfinished⟩ := held.points other kept roundId runs
      refine ⟨row, ?_, inRoom, unfinished⟩
      simp only [Database.putRoom, Database.putRound, get_put]
      rw [if_neg]
      · exact found
      · intro same
        rw [same, key, stored] at found
        cases found
        exact different (inRoom.symm.trans own.symm)

theorem Active.addRoom (absent : db.rooms.get room.id = none) (idle : room.activeRoundId = none) :
    (db.putRoom room).Active where
  opened round member going := by
    obtain ⟨row, found, runs⟩ := held.opened round member going
    refine ⟨row, ?_, runs⟩
    simp only [Database.putRoom]
    rw [get_put_other fun same => by rw [← same, found] at absent; contradiction]
    exact found
  points other member roundId runs := by
    rcases mem_put.mp member with rfl | ⟨kept, -⟩
    · rw [idle] at runs
      contradiction
    · exact held.points other kept roundId runs

theorem Active.openRound {was : DiscussionRoom} (stored : db.rooms.get roomId = some was)
    (idle : was.activeRoundId = none) (absent : db.rounds.get round.id = none)
    (own : round.roomId = roomId) (goes : ¬ round.Final) (key : room.id = was.id)
    (active : room.activeRoundId = some round.id) :
    ({ db with rounds := db.rounds.put round }.putRoom room).Active := by
  have roomKey : room.id = roomId := key.trans (get_mem stored).2
  constructor
  · intro other member going
    simp only [Database.putRoom, get_put]
    rcases mem_put.mp member with rfl | ⟨kept, -⟩
    · rw [if_pos (own.trans roomKey.symm)]
      exact ⟨room, rfl, active⟩
    · obtain ⟨row, found, runs⟩ := held.opened other kept going
      split
      · rename_i same
        rw [same, roomKey, stored] at found
        cases found
        rw [idle] at runs
        contradiction
      · exact ⟨row, found, runs⟩
  · intro other member roundId runs
    simp only [Database.putRoom, get_put]
    rcases mem_put.mp member with rfl | ⟨kept, -⟩
    · rw [active] at runs
      cases runs
      rw [if_pos rfl]
      exact ⟨round, rfl, own.trans roomKey.symm, goes⟩
    · obtain ⟨row, found, inRoom, unfinished⟩ := held.points other kept roundId runs
      rw [if_neg fun same => by rw [← same, found] at absent; contradiction]
      exact ⟨row, found, inRoom, unfinished⟩

theorem Active.withoutRoom (roomId : JsString) : (db.withoutRoom roomId).Active where
  opened round member going := by
    obtain ⟨kept, elsewhere⟩ := mem_filter.mp member
    obtain ⟨room, found, runs⟩ := held.opened round kept going
    refine ⟨room, ?_, runs⟩
    have key : room.id = round.roomId := (get_mem found).2
    simp only [Database.withoutRoom, get_filter, found]
    rw [Option.filter_some, if_pos]
    rw [key]
    exact elsewhere
  points room member roundId runs := by
    obtain ⟨kept, elsewhere⟩ := mem_filter.mp member
    obtain ⟨round, found, inRoom, unfinished⟩ := held.points room kept roundId runs
    refine ⟨round, ?_, inRoom, unfinished⟩
    simp only [Database.withoutRoom, get_filter, found]
    rw [Option.filter_some, if_pos]
    rw [inRoom]
    exact elsewhere

end

def abortTarget : RoomAction → Option (JsString × JsString)
  | .discussion (.abortRound roomId roundId _ _) => some (roomId, roundId)
  | _ => none

def AbortsOwn (db : Database) (action : RoomAction) : Prop :=
  ∀ target ∈ abortTarget action, ∀ round ∈ db.rounds.get target.2, round.roomId = target.1

instance (db : Database) (action : RoomAction) : Decidable (AbortsOwn db action) :=
  inferInstanceAs (Decidable (∀ target ∈ abortTarget action,
    ∀ round ∈ db.rounds.get target.2, round.roomId = target.1))

section

variable (held : db.Active) (rooms : mid.rooms = db.rooms) (rounds : mid.rounds = db.rounds)

include held rooms rounds

theorem Active.changeRound {roundId : JsString} (stored : db.rounds.get roundId = some old)
    (keeps : new.id = old.id ∧ new.roomId = old.roomId) (going : ¬ old.Final) (goes : ¬ new.Final) :
    (mid.putRound new).Active := by
  have framed : mid.Active := held.frame rooms rounds
  have key : old.id = roundId := (get_mem stored).2
  rw [← key, ← rounds] at stored
  exact framed.putRound stored keeps.1 keeps.2 going goes

theorem Active.changeRoom {was : DiscussionRoom} (stored : db.rooms.get roomId = some was)
    (key : room.id = was.id) (active : room.activeRoundId = was.activeRoundId) :
    (mid.putRoom room).Active := by
  have framed : mid.Active := held.frame rooms rounds
  rw [← rooms] at stored
  exact framed.putRoom stored key active

end

theorem Active.interrupted {now : JsString} (held : db.Active) :
    (db.afterInterrupt round now).Active := held.frame afterInterrupt_rooms afterInterrupt_rounds

theorem Active.reportAborts {idle : DiscussionRoom} {aborted : Database} {now : JsString}
    (held : db.Active) (found : db.rooms.get roomId = some room)
    (aborts : db.ReportAborts room now aborted idle) :
    (aborted.putRoom { idle with lastActiveAt := now }).Active := by
  have member : room ∈ db.rooms.rows := (get_mem found).1
  cases aborts with
  | idle noRound => exact held.putRoom found rfl rfl
  | gone active absent =>
    obtain ⟨round, stored, -, -⟩ := held.points room member _ active
    rw [absent] at stored
    contradiction
  | ended active stored free final =>
    obtain ⟨round, other, -, going⟩ := held.points room member _ active
    rw [stored] at other
    cases other
    exact absurd final going
  | aborted active stored free going =>
    obtain ⟨round, other, own, -⟩ := held.points room member _ active
    rw [stored] at other
    cases other
    have kept := get_of_mem (get_mem stored).1
    exact held.closeRound kept going rfl (.inr rfl) own.symm rfl

variable [Digest]

section Commits

variable {context : CommitContext} {input : CommitInput} {stamp : Stamp}
  {entityType : CommittedEntityType} {kind : ResultKind} {phase : RoundPhase}

theorem Active.commitEntity (held : db.Active) (rooms : mid.rooms = db.rooms)
    (rounds : mid.rounds = db.rounds) (commits : db.Commits input stamp kind phase context) :
    (Database.commitEntity mid context input entityType stamp).Active :=
  held.changeRoom rooms rounds commits.loaded.authorised.found rfl rfl

omit [Digest] in
theorem Commits.stored (commits : db.Commits input stamp kind phase context) :
    db.rounds.get context.round.id = some context.round :=
  get_of_mem (get_mem commits.loaded.round).1

theorem Active.commitRows (held : db.Active) (rooms : mid.rooms = db.rooms)
    (rounds : mid.rounds = db.rounds) (commits : db.Commits input stamp kind phase context)
    (keeps : new.id = context.round.id ∧ new.roomId = context.round.roomId)
    (going : ¬ context.round.Final) (goes : ¬ new.Final) :
    (Database.commitRows mid context input entityType stamp new).Active := by
  have entity : (Database.commitEntity mid context input entityType stamp).Active :=
    held.commitEntity rooms rounds commits
  have stored := commits.stored
  rw [← rounds] at stored
  exact entity.putRound stored keeps.1 keeps.2 going goes

end Commits

theorem Active.step (held : db.Active) (sound : db.RowsSound) (own : db.AbortsOwn action)
    (writes : db.Writes action next) : next.Active := by
  cases writes with
  | aside | execution => exact held.frame rfl rfl
  | createRoom made absent =>
    apply held.addRoom absent
    simp only [createDiscussionRoom, except_bind_ok, require_ok, exists_const, ok_pure] at made
    rw [← made.2]
  | room stored kept => exact held.putRoom stored kept.id kept.activeRoundId
  | appendUserMessage authorised stored own said absent =>
    exact held.changeRoom rfl rfl authorised.found rfl rfl
  | updateRoomSharedConfig authorised different => exact held.putRoom authorised.found rfl rfl
  | renameRoom stored different => exact held.putRoom stored rfl rfl
  | createRound authorised opened idle quiet made absent =>
    subst made
    exact held.openRound authorised.found idle absent rfl (by simp [Final, newRound])
      rfl rfl
  | round stored moves =>
    exact held.changeRound rfl rfl stored (RoundMoves.keeps moves) (RoundMoves.going moves)
      (RoundMoves.goes moves)
  | abortRound authorised stored going =>
    have inRoom := (get_mem authorised.found).2.trans (own _ rfl _ stored).symm
    have kept := get_of_mem (get_mem stored).1
    exact held.interrupted.closeRound (by rw [afterInterrupt_rounds]; exact kept) going rfl (.inr rfl)
      inRoom rfl
  | @skipParticipant _ _ _ _ _ room round admitted =>
    have going : ¬ round.Final := by simp [Final, admitted.paused]
    have moved : (db.putRound (skippedRound round)).Active :=
      held.changeRound rfl rfl admitted.stored ⟨rfl, rfl⟩ going skippedRound_goes
    exact moved.putRoom admitted.authorised.found rfl rfl
  | @beginExecution _ _ _ _ round _ made admitted turn absent =>
    have working : round.Working := by
      rw [Working, admitted.phase]
      split
      · exact .inr rfl
      · exact .inl rfl
    exact held.changeRound rfl rfl admitted.stored ⟨rfl, rfl⟩ working.going working.going
  | @beginFocusExecution _ _ _ _ round _ made admitted unfocused absent =>
    have working : round.Working := .inl admitted.phase
    exact held.changeRound rfl rfl admitted.stored ⟨rfl, rfl⟩ working.going working.going
  | beginReportExecution made kind authorised opened aborts quiet absent =>
    exact (held.reportAborts authorised.found aborts).frame rfl rfl
  | release found step stored points releases =>
    have going := (sound _ (get_mem stored).1).pointing points
    exact held.changeRound rfl rfl stored (Releases.keeps releases) going
      (Releases.goes releases going)
  | @commitModelMessage _ _ context commits focused absent =>
    have working : context.round.Working := .inl commits.runs.1.2
    exact held.commitRows rfl rfl commits ⟨rfl, rfl⟩ working.going
      (spokenRound_goes commits.runs.1.2)
  | @commitFocusMessage _ _ context commits unfocused absent =>
    have working : context.round.Working := .inl commits.runs.1.2
    exact held.commitRows rfl rfl commits ⟨rfl, rfl⟩ working.going working.going
  | @commitSummary input stamp context _ commits first absent bump =>
    subst bump
    have working : context.round.Working := .inr commits.runs.1.2
    have entity : (Database.commitEntity
        { db with summaries := db.summaries.put (newSummary context input stamp) } context input
        .summary stamp).Active := held.commitEntity rfl rfl commits
    exact entity.closeRound commits.stored working.going rfl (.inl rfl)
      (get_mem commits.loaded.authorised.found).2 rfl
  | commitReport found authorised committable first opened made absent =>
    exact held.changeRoom rfl rfl authorised.found rfl rfl
  | deleteRoom => exact held.withoutRoom _

/-- A completed round has one summary, and a summary is of a completed round. -/
structure Summarized (db : Database) : Prop where
  one : ∀ first ∈ db.summaries.rows, ∀ second ∈ db.summaries.rows,
    first.roundId = second.roundId → first = second
  completed : ∀ summary ∈ db.summaries.rows, ∃ round, db.rounds.get summary.roundId = some round ∧
    round.roomId = summary.roomId ∧ round.phase = .completed
  present : ∀ round ∈ db.rounds.rows, round.phase = .completed →
    ∃ summary ∈ db.summaries.rows, summary.roundId = round.id

omit [Digest] in
theorem Summarized.empty : Database.empty.Summarized :=
  ⟨fun _ member => absurd member List.not_mem_nil, fun _ member => absurd member List.not_mem_nil,
    fun _ member => absurd member List.not_mem_nil⟩

/-- No round gets to completed or leaves it, and the summaries stay. -/
structure Quiet (db next : Database) : Prop where
  summaries : next.summaries = db.summaries
  finals : ∀ round, round.phase = .completed →
    (round ∈ next.rounds.rows ↔ round ∈ db.rounds.rows)

section

omit [Digest]

section

variable (summaries : next.summaries = db.summaries)

include summaries

theorem Quiet.same (rounds : next.rounds = db.rounds) :
    db.Quiet next := ⟨summaries, fun _ _ => by rw [rounds]⟩

theorem Quiet.putRound {roundId : JsString} (rounds : next.rounds = db.rounds.put new)
    (stored : db.rounds.get roundId = some old) (key : new.id = old.id)
    (going : old.phase ≠ .completed) (goes : new.phase ≠ .completed) : db.Quiet next where
  summaries := summaries
  finals round completed := by
    rw [rounds]
    apply mem_put_elsewhere
    · intro same
      exact goes (same ▸ completed)
    · rw [key, (get_mem stored).2, stored]
      intro same
      cases same
      exact going completed

theorem Quiet.addRound (rounds : next.rounds = db.rounds.put new)
    (absent : db.rounds.get new.id = none) (goes : new.phase ≠ .completed) : db.Quiet next where
  summaries := summaries
  finals round completed := by
    rw [rounds]
    apply mem_put_elsewhere
    · intro same
      exact goes (same ▸ completed)
    · rw [absent]
      nofun

end

theorem Summarized.quiet (held : db.Summarized) (quiet : db.Quiet next) : next.Summarized where
  one := by
    rw [quiet.summaries]
    exact held.one
  completed summary member := by
    rw [quiet.summaries] at member
    obtain ⟨round, found, own, completed⟩ := held.completed summary member
    have stays := (quiet.finals round completed).mpr (get_mem found).1
    exact ⟨round, get_eq_some.mpr ⟨stays, (get_mem found).2⟩, own, completed⟩
  present round member completed := by
    rw [quiet.summaries]
    exact held.present round ((quiet.finals round completed).mp member) completed

theorem Summarized.complete {input : CommitInput} {stamp : Stamp} {context : CommitContext}
    (held : db.Summarized) (commits : db.Commits input stamp .summary .summarizing context)
    (first : ∀ other ∈ db.summaries.rows, other.roundId ≠ context.round.id)
    (summaries : next.summaries = db.summaries.put (newSummary context input stamp))
    (absent : db.summaries.get stamp.uuid = none)
    (rounds : next.rounds = db.rounds.put (completedRound context.round stamp.now)) :
    next.Summarized := by
  have kept : ∀ summary ∈ db.summaries.rows, summary ∈ next.summaries.rows := by
    intro summary member
    rw [summaries]
    refine mem_put.mpr (.inr ⟨member, fun same => ?_⟩)
    have found := get_of_mem member
    rw [same] at found
    exact absurd (found.symm.trans absent) (by simp)
  constructor
  · intro one oneMember two twoMember same
    rw [summaries] at oneMember twoMember
    rcases mem_put.mp oneMember with rfl | ⟨oneOld, -⟩
    · rcases mem_put.mp twoMember with rfl | ⟨twoOld, -⟩
      · rfl
      · exact absurd same.symm (first two twoOld)
    · rcases mem_put.mp twoMember with rfl | ⟨twoOld, -⟩
      · exact absurd same (first one oneOld)
      · exact held.one one oneOld two twoOld same
  · intro summary member
    rw [summaries] at member
    rw [rounds, get_put]
    rcases mem_put.mp member with rfl | ⟨old, -⟩
    · refine ⟨completedRound context.round stamp.now, if_pos rfl, ?_, rfl⟩
      exact (get_mem commits.loaded.authorised.found).2.symm
    · obtain ⟨round, found, own, completed⟩ := held.completed summary old
      exact ⟨round, (if_neg (first summary old)).trans found, own, completed⟩
  · intro round member completed
    rw [rounds] at member
    rcases mem_put.mp member with rfl | ⟨old, -⟩
    · refine ⟨newSummary context input stamp, ?_, rfl⟩
      rw [summaries]
      exact mem_put.mpr (.inl rfl)
    · obtain ⟨summary, present, own⟩ := held.present round old completed
      exact ⟨summary, kept summary present, own⟩

theorem Summarized.withoutRoom (held : db.Summarized) (roomId : JsString) :
    (db.withoutRoom roomId).Summarized where
  one first firstMember second secondMember := held.one first (mem_filter.mp firstMember).1
    second (mem_filter.mp secondMember).1
  completed summary member := by
    obtain ⟨old, elsewhere⟩ := mem_filter.mp member
    obtain ⟨round, found, own, completed⟩ := held.completed summary old
    refine ⟨round, ?_, own, completed⟩
    simp only [Database.withoutRoom, get_filter, found]
    rw [Option.filter_some, if_pos]
    rw [own]
    exact elsewhere
  present round member completed := by
    obtain ⟨old, elsewhere⟩ := mem_filter.mp member
    obtain ⟨summary, present, own⟩ := held.present round old completed
    refine ⟨summary, mem_filter.mpr ⟨present, ?_⟩, own⟩
    obtain ⟨other, found, inRoom, -⟩ := held.completed summary present
    rw [own, get_of_mem old] at found
    cases found
    rw [← inRoom]
    exact elsewhere

end

theorem Summarized.step (held : db.Summarized) (sound : db.RowsSound)
    (writes : db.Writes action next) : next.Summarized := by
  cases writes with
  | commitSummary commits first absent bump =>
    subst bump
    exact held.complete commits first rfl absent rfl
  | deleteRoom => exact held.withoutRoom _
  | aside | createRoom | room | appendUserMessage | updateRoomSharedConfig | renameRoom | execution
  | commitReport => exact held.quiet (.same rfl rfl)
  | createRound authorised opened idle quiet made absent =>
    subst made
    exact held.quiet (.addRound rfl rfl absent (by simp [newRound]))
  | round stored moves =>
    have going := RoundMoves.going moves
    have goes := RoundMoves.goes moves
    exact held.quiet (.putRound rfl rfl stored (RoundMoves.keeps moves).1
      (fun phase => going (.inl phase)) fun phase => goes (.inl phase))
  | @abortRound _ _ _ now _ round authorised stored going =>
    have summaries : (db.afterInterrupt round now).summaries = db.summaries := by
      rw [afterInterrupt]
      split <;> rfl
    have rounds : ((db.afterInterrupt round now).putRound (abortedRound round now)).rounds =
        db.rounds.put (abortedRound round now) := by
      rw [Database.putRound, afterInterrupt_rounds]
    have goes : (abortedRound round now).phase ≠ .completed := by simp [abortedRound]
    exact held.quiet (.putRound summaries rounds stored rfl (fun phase => going (.inl phase)) goes)
  | skipParticipant admitted =>
    exact held.quiet (.putRound rfl rfl admitted.stored rfl (by rw [admitted.paused]; simp)
      fun phase => skippedRound_goes (.inl phase))
  | @beginExecution _ _ _ _ round _ made admitted turn absent =>
    have going : round.phase ≠ .completed := by
      rw [admitted.phase]
      split <;> simp
    exact held.quiet (.putRound rfl rfl admitted.stored rfl going going)
  | @beginFocusExecution _ _ _ _ round _ made admitted unfocused absent =>
    have going : round.phase ≠ .completed := by
      rw [admitted.phase]
      simp
    exact held.quiet (.putRound rfl rfl admitted.stored rfl going going)
  | beginReportExecution made kind authorised opened aborts quiet absent =>
    cases aborts with
    | idle | gone | ended => exact held.quiet (.same rfl rfl)
    | aborted active stored free going =>
      exact held.quiet (.putRound rfl rfl stored rfl (fun phase => going (.inl phase)) fun same => by cases same)
  | release found step stored points releases =>
    have going := (sound _ (get_mem stored).1).pointing points
    have goes := Releases.goes releases going
    exact held.quiet (.putRound rfl rfl stored (Releases.keeps releases).1
      (fun phase => going (.inl phase)) fun phase => goes (.inl phase))
  | commitModelMessage commits focused absent =>
    exact held.quiet (.putRound rfl rfl commits.stored rfl (by rw [commits.runs.1.2]; simp)
      fun phase => spokenRound_goes commits.runs.1.2 (.inl phase))
  | @commitFocusMessage _ _ context commits unfocused absent =>
    have going : context.round.phase ≠ .completed := by
      rw [commits.runs.1.2]
      simp
    exact held.quiet (.putRound rfl rfl commits.stored rfl going going)

def RunsRound (db : Database) (room : DiscussionRoom) : Option JsString → Prop
  | none => ∀ round ∈ db.rounds.rows, round.roomId = room.id → round.Final
  | some roundId => ∃ round ∈ db.rounds.rows, round.id = roundId ∧ round.roomId = room.id ∧
      ¬ round.Final ∧ ∀ other ∈ db.rounds.rows, other.roomId = room.id → ¬ other.Final → other = round

structure PhasesSound (db : Database) : Prop where
  paused : ∀ round ∈ db.rounds.rows, round.phase = .paused ↔ round.pausedFrom ≠ none
  spoken : ∀ round ∈ db.rounds.rows, round.phase = .summarizing →
    round.participantOrder.length ≤ round.nextParticipantIndex
  summarized : ∀ round ∈ db.rounds.rows, round.phase = .completed →
    ∃! summary, summary ∈ db.summaries.rows ∧ summary.roundId = round.id
  freed : ∀ round ∈ db.rounds.rows, round.Final → round.activeExecutionId = none
  active : ∀ room ∈ db.rooms.rows, db.RunsRound room room.activeRoundId

structure PhasesHeld (db : Database) : Prop where
  rows : db.RowsSound
  active : db.Active
  summarized : db.Summarized

omit [Digest] in
theorem PhasesHeld.empty : Database.empty.PhasesHeld :=
  ⟨fun _ member => absurd member List.not_mem_nil, .empty, .empty⟩

theorem PhasesHeld.step (held : db.PhasesHeld) (own : db.AbortsOwn action)
    (stepped : db.roomStep action = some next) : next.PhasesHeld := by
  have writes := roomStep_writes stepped
  exact ⟨held.rows.step writes, held.active.step held.rows own writes,
    held.summarized.step held.rows writes⟩

omit [Digest] in
theorem Active.runsRound (held : db.Active) (member : room ∈ db.rooms.rows) :
    db.RunsRound room room.activeRoundId := by
  have points : ∀ round ∈ db.rounds.rows, round.roomId = room.id → ¬ round.Final →
      room.activeRoundId = some round.id := by
    intro round stored own going
    obtain ⟨row, found, runs⟩ := held.opened round stored going
    rw [own, get_of_mem member] at found
    cases found
    exact runs
  cases active : room.activeRoundId with
  | none =>
    intro round stored own
    by_contra going
    rw [points round stored own going] at active
    contradiction
  | some roundId =>
    obtain ⟨round, found, own, going⟩ := held.points room member roundId active
    obtain ⟨stored, key⟩ := get_mem found
    refine ⟨round, stored, key, own, going, fun other otherStored otherOwn otherGoing => ?_⟩
    have runs := points other otherStored otherOwn otherGoing
    rw [active, ← key] at runs
    exact eq_of_key otherStored stored (Option.some.inj runs).symm

omit [Digest] in
theorem PhasesHeld.sound (held : db.PhasesHeld) : db.PhasesSound where
  paused round member := (held.rows round member).paused
  spoken round member phase := (held.rows round member).spoken (.inl phase)
  summarized round member completed := by
    obtain ⟨summary, present, own⟩ := held.summarized.present round member completed
    refine ⟨summary, ⟨present, own⟩, fun other facts => ?_⟩
    exact held.summarized.one other facts.1 summary present (facts.2.trans own.symm)
  freed round member := (held.rows round member).freed
  active room member := held.active.runsRound member

/-- In every state of a run whose aborts are of rounds of their room the phases
are sound, and no step but a summary's commit completes a round. -/
theorem round_phases_sound {actions : List RoomAction}
    (run : Run Database.roomStep AbortsOwn .empty actions db) :
    db.PhasesSound ∧ ∀ action next, db.roomStep action = some next →
      ∀ round ∈ next.rounds.rows, round.phase = .completed → round ∈ db.rounds.rows ∨
        ∃ input stamp, action = .discussion (.commitSummary input stamp) := by
  have held : db.PhasesHeld := run.invariant PhasesHeld.step PhasesHeld.empty
  refine ⟨held.sound, fun action next stepped round member completed => ?_⟩
  cases (roomStep_writes stepped).round_origin member with
  | kept old => exact .inl old
  | fresh made found opened row absent =>
    rw [row] at completed
    contradiction
  | changed stored write =>
    obtain ⟨input, stamp, context, commit, -⟩ :=
      write.completes (held.rows _ (get_mem stored).1) completed
    exact .inr ⟨input, stamp, commit⟩

end Database

def turn (executionId participantId : JsString) (resultKind : ResultKind) (contextRevision : Nat) :
    ModelExecutionInput where
  executionId
  roomId := js "room"
  roundId := js "round"
  participantId
  resultKind
  requestedModel := js "m"
  contextRevision
  expectedRoomDigest := js "digest"
  participantSnapshotDigest := js "s"
  instructionDigest := js "i"

def reply (executionId : JsString) : CommitInput where
  executionId
  token := sampleToken
  content := js "text"
  effectiveModel := none
  usage := none
  finalEventSeq := 1
  dispatchState := .accepted
  toolState := .none

def dispatched (executionId : JsString) : DiscussionAction :=
  .markExecutionDispatched executionId (js "host") (js "scope") .accepted (js "t")

/-- The focus, one speaker, a skip of the other after a failure, and the summary. -/
def completedActions : List DiscussionAction :=
  seedActions ++ [dispatched (js "e1"),
    .commitFocusMessage (reply (js "e1")) (stamp (js "m1")),
    .beginExecution (turn (js "e2") (js "p") .message 1) sampleToken (js "t"), dispatched (js "e2"),
    .commitModelMessage (reply (js "e2")) (stamp (js "m2")),
    .beginExecution (turn (js "e3") (js "q") .message 2) sampleToken (js "t"),
    .failExecution (js "e3") sampleToken
      (fun _ => ⟨js "HOST_LOST", js "dispatch", js "lost", true, none, none⟩) .failed true (js "t"),
    .skipParticipant (js "room") (js "round") sampleToken (js "t"),
    .beginExecution (turn (js "e4") (js "f") .summary 2) sampleToken (js "t"), dispatched (js "e4"),
    .commitSummary (reply (js "e4")) (stamp (js "s1"))]

theorem round_phases_sound_completed :
    ∃ db, Run (@Database.roomStep sampleDigest) Database.AbortsOwn .empty
        (completedActions.map .discussion) db ∧
      (db.rounds.get (js "round")).map (·.phase) = some .completed ∧ db.PhasesSound := by
  have ended : ((execute (guarded (@Database.roomStep sampleDigest) Database.AbortsOwn) .empty
      (completedActions.map .discussion)).bind fun db =>
        (db.rounds.get (js "round")).map (·.phase)) = some .completed := by decide +kernel
  obtain ⟨db, ran, phase⟩ := Option.bind_eq_some_iff.mp ended
  have run := execute_guarded ran
  obtain ⟨sound, -⟩ := @Database.round_phases_sound db sampleDigest (completedActions.map .discussion) run
  exact ⟨db, run, phase, sound⟩

end CouncilKit.Discussion
