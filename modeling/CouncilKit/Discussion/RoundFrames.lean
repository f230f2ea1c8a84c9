import CouncilKit.Discussion.ControllerFence

namespace CouncilKit.Discussion

open Data Database Table Option

inductive RoundCall where
  | transitionRound (target : TransitionTarget)
  | pauseRound (reason : RoundPauseReason)
  | resumeRound
  | abortRound (now : JsString)
  | skipParticipant (now : JsString)
  | appendUserMessage (content : JsString) (stamp : Stamp)

namespace RoundCall

def action (roomId roundId : JsString) (token : ControllerToken) : RoundCall → DiscussionAction
  | .transitionRound target => .transitionRound roomId roundId token target
  | .pauseRound reason => .pauseRound roomId roundId token reason
  | .resumeRound => .resumeRound roomId roundId token
  | .abortRound now => .abortRound roomId roundId token now
  | .skipParticipant now => .skipParticipant roomId roundId token now
  | .appendUserMessage content stamp => .appendUserMessage roomId roundId token content stamp

def Enters (round : DiscussionRound) : RoundCall → Prop
  | .transitionRound target => round.phase = target.expectedFrom
  | .pauseRound _ => round.phase.pausable ≠ none
  | .resumeRound => round.phase = .paused ∧ round.pausedFrom ≠ none
  | .abortRound _ => round.phase ≠ .completed
  | .skipParticipant _ | .appendUserMessage .. => False

def Interrupts (round : DiscussionRound) : RoundCall → Prop
  | .abortRound _ => round.phase ≠ .aborted
  | _ => False

end RoundCall

namespace Database

structure OnlyRoom (roomId : JsString) (db next : Database) : Prop where
  rooms : ∀ room : DiscussionRoom, room.id ≠ roomId → (room ∈ next.rooms.rows ↔ room ∈ db.rooms.rows)
  rounds : ∀ round : DiscussionRound, round.roomId ≠ roomId →
    (round ∈ next.rounds.rows ↔ round ∈ db.rounds.rows)
  messages : ∀ message : DiscussionMessage, message.roomId ≠ roomId →
    (message ∈ next.messages.rows ↔ message ∈ db.messages.rows)
  executions : ∀ execution : ModelExecution, execution.roomId ≠ roomId →
    (execution ∈ next.modelExecutions.rows ↔ execution ∈ db.modelExecutions.rows)

/-- A call keeps to its room: it changes no row of another, and takes no round
of another. -/
structure KeepsToRoom [Digest] (db : Database) (roomId roundId : JsString)
    (token : ControllerToken) (call : RoundCall) : Prop where
  framed : ∀ next, db.transact (call.action roomId roundId token) = .ok next → OnlyRoom roomId db next
  rejects : ∀ round, db.rounds.get roundId = some round → round.roomId ≠ roomId →
    ∃ failure, db.transact (call.action roomId roundId token) = .error failure

def Owned (db : Database) (roomId roundId : JsString) (token : ControllerToken) (call : RoundCall) : Prop :=
  ∀ room round, db.Authorised roomId token room → db.rounds.get roundId = some round →
    call.Enters round → round.roomId = roomId ∧ (call.Interrupts round →
      ∀ execution, db.liveExecution round = some execution → execution.roomId = roomId)

variable {db mid next : Database} {roomId roundId : JsString} {token : ControllerToken}

theorem OnlyRoom.refl : OnlyRoom roomId db db :=
  ⟨fun _ _ => Iff.rfl, fun _ _ => Iff.rfl, fun _ _ => Iff.rfl, fun _ _ => Iff.rfl⟩

theorem OnlyRoom.trans (first : OnlyRoom roomId db mid) (second : OnlyRoom roomId mid next) :
    OnlyRoom roomId db next where
  rooms room other := (second.rooms room other).trans (first.rooms room other)
  rounds round other := (second.rounds round other).trans (first.rounds round other)
  messages message other := (second.messages message other).trans (first.messages message other)
  executions execution other :=
    (second.executions execution other).trans (first.executions execution other)

theorem OnlyRoom.putRoom {room : DiscussionRoom} (own : room.id = roomId) :
    OnlyRoom roomId db (db.putRoom room) where
  __ := OnlyRoom.refl
  rooms other elsewhere := by
    apply mem_put_elsewhere
    · intro same
      exact elsewhere (same ▸ own)
    · intro stored
      exact elsewhere ((get_mem stored).2.trans own)

variable {round : DiscussionRound}

theorem OnlyRoom.putRound {old : DiscussionRound}
    (stored : db.rounds.get round.id = some old) (oldOwn : old.roomId = roomId)
    (own : round.roomId = roomId) : OnlyRoom roomId db (db.putRound round) where
  __ := OnlyRoom.refl
  rounds other elsewhere := by
    apply mem_put_elsewhere
    · intro same
      exact elsewhere (same ▸ own)
    · intro found
      rw [stored] at found
      cases found
      exact elsewhere oldOwn

theorem OnlyRoom.putExecution {execution old : ModelExecution}
    (stored : db.modelExecutions.get execution.executionId = some old)
    (oldOwn : old.roomId = roomId) (own : execution.roomId = roomId) :
    OnlyRoom roomId db (db.putExecution execution) where
  __ := OnlyRoom.refl
  executions other elsewhere := by
    apply mem_put_elsewhere
    · intro same
      exact elsewhere (same ▸ own)
    · intro found
      rw [stored] at found
      cases found
      exact elsewhere oldOwn

theorem OnlyRoom.addMessage {message : DiscussionMessage} (own : message.roomId = roomId)
    (added : db.addMessage message = .ok next) : OnlyRoom roomId db next := by
  obtain ⟨messages, inserted, rfl⟩ := addMessage_ok added
  obtain ⟨absent, rfl⟩ := add_eq_some.mp inserted
  exact {
    OnlyRoom.refl with
    messages := fun other elsewhere => by
      apply mem_put_elsewhere
      · intro same
        exact elsewhere (same ▸ own)
      · rw [absent]
        nofun }

theorem OnlyRoom.changeRound {old : DiscussionRound}
    (stored : db.rounds.get roundId = some old) (own : old.roomId = roomId)
    (key : round.id = old.id) (room : round.roomId = old.roomId) :
    OnlyRoom roomId db (db.putRound round) := by
  have oldKey : old.id = roundId := (get_mem stored).2
  rw [← oldKey, ← key] at stored
  exact .putRound stored own (room.trans own)

theorem liveExecution_stored {execution : ModelExecution} (live : db.liveExecution round = some execution) :
    db.modelExecutions.get execution.executionId = some execution ∧ execution.state.isLive = true := by
  obtain ⟨pointed, alive⟩ := filter_eq_some_iff.mp live
  obtain ⟨id, -, found⟩ := bind_eq_some_iff.mp pointed
  exact ⟨get_of_mem (get_mem found).1, alive⟩

theorem OnlyRoom.interrupt {now : JsString}
    (own : ∀ execution, db.liveExecution round = some execution → execution.roomId = roomId) :
    OnlyRoom roomId db (db.afterInterrupt round now) := by
  rw [afterInterrupt]
  split
  · rename_i execution live
    have stored := (liveExecution_stored live).1
    exact .putExecution stored (own execution live) (own execution live)
  · exact .refl

variable [Digest] {call : RoundCall}

theorem transact_round (ended : db.transact (call.action roomId roundId token) = .ok next) :
    ∃ room round, db.Authorised roomId token room ∧ db.rounds.get roundId = some round ∧
      (call.Enters round ∨ round.roomId = roomId) := by
  cases call with
  | transitionRound target =>
    obtain ⟨room, round, authorised, stored, phase, -⟩ := transitionRound_ok ended
    exact ⟨room, round, authorised, stored, .inl phase⟩
  | pauseRound reason =>
    obtain ⟨room, round, pausedFrom, authorised, stored, phase, -⟩ := pauseRound_ok ended
    have enters : round.phase.pausable ≠ none := by simp [phase]
    exact ⟨room, round, authorised, stored, .inl enters⟩
  | resumeRound =>
    obtain ⟨room, round, pausedFrom, authorised, stored, phase, saved, -⟩ := resumeRound_ok ended
    have enters : round.pausedFrom ≠ none := by simp [saved]
    exact ⟨room, round, authorised, stored, .inl ⟨phase, enters⟩⟩
  | abortRound now =>
    obtain ⟨room, round, authorised, stored, phase, -⟩ := abortRound_ok ended
    exact ⟨room, round, authorised, stored, .inl phase⟩
  | skipParticipant now =>
    obtain ⟨result, ended⟩ := map_fst_ok ended
    obtain ⟨room, round, skipped, admitted, -⟩ := skipParticipant_ok ended
    have facts := admitSkip_ok admitted
    exact ⟨room, round, facts.authorised, facts.stored, .inr facts.own⟩
  | appendUserMessage content stamp =>
    obtain ⟨message, ended⟩ := map_fst_ok ended
    obtain ⟨room, round, added, authorised, stored, own, -⟩ := appendUserMessage_ok ended
    exact ⟨room, round, authorised, stored, .inr own⟩

theorem transact_enters {room : DiscussionRoom}
    (authorised : db.Authorised roomId token room) (stored : db.rounds.get roundId = some round)
    (enters : call.Enters round) :
    ∃ next, db.transact (call.action roomId roundId token) = .ok next := by
  cases call with
  | transitionRound target =>
    refine ⟨db.putRound { round with phase := target.phase }, ?_⟩
    simp only [RoundCall.action, transact, transitionRound, except_bind_ok,
      requireRoom_ok, requireController_ok, require_ok, fetch_ok, exists_const, ok_pure]
    exact ⟨room, authorised.found, authorised.controls, round, stored, enters, rfl⟩
  | pauseRound reason =>
    obtain ⟨pausedFrom, phase⟩ := ne_none_iff_exists'.mp enters
    refine ⟨db.putRound { round with
      pausedFrom := some pausedFrom, phase := .paused, pauseReason := some reason }, ?_⟩
    simp only [RoundCall.action, transact, pauseRound, except_bind_ok, requireRoom_ok,
      requireController_ok, fetch_ok, exists_const, ok_pure]
    exact ⟨room, authorised.found, authorised.controls, round, stored, pausedFrom, phase, rfl⟩
  | resumeRound =>
    obtain ⟨phase, paused⟩ := enters
    obtain ⟨pausedFrom, saved⟩ := ne_none_iff_exists'.mp paused
    refine ⟨db.putRound { round with
      phase := pausedFrom.phase, pausedFrom := none, pauseReason := none }, ?_⟩
    simp only [RoundCall.action, transact, resumeRound, except_bind_ok, requireRoom_ok,
      requireController_ok, require_ok, fetch_ok, exists_const, ok_pure]
    exact ⟨room, authorised.found, authorised.controls, round, stored, phase, pausedFrom, saved,
      rfl⟩
  | abortRound now =>
    have phase : round.phase ≠ .completed := enters
    by_cases aborted : round.phase = .aborted
    · refine ⟨db, ?_⟩
      simp only [RoundCall.action, transact, abortRound, except_bind_ok, requireRoom_ok,
        requireController_ok, require_ok, fetch_ok, exists_const]
      exact ⟨room, authorised.found, authorised.controls, round, stored, phase, if_pos aborted⟩
    · refine ⟨((db.afterInterrupt round now).putRound (abortedRound round now)).putRoom
        { room with activeRoundId := none, runState := .idle, lastActiveAt := now }, ?_⟩
      simp only [RoundCall.action, transact, abortRound, except_bind_ok, requireRoom_ok,
        requireController_ok, require_ok, fetch_ok, exists_const]
      exact ⟨room, authorised.found, authorised.controls, round, stored, phase, if_neg aborted⟩
  | skipParticipant | appendUserMessage => exact enters.elim

theorem OnlyRoom.of_owned (owned : db.Owned roomId roundId token call)
    (ended : db.transact (call.action roomId roundId token) = .ok next) :
    OnlyRoom roomId db next := by
  cases call with
  | transitionRound target =>
    obtain ⟨room, round, authorised, stored, phase, rfl⟩ := transitionRound_ok ended
    obtain ⟨own, -⟩ := owned room round authorised stored phase
    exact .changeRound stored own rfl rfl
  | pauseRound reason =>
    obtain ⟨room, round, pausedFrom, authorised, stored, phase, rfl⟩ := pauseRound_ok ended
    have enters : round.phase.pausable ≠ none := by simp [phase]
    obtain ⟨own, -⟩ := owned room round authorised stored enters
    exact .changeRound stored own rfl rfl
  | resumeRound =>
    obtain ⟨room, round, pausedFrom, authorised, stored, phase, saved, rfl⟩ :=
      resumeRound_ok ended
    have enters : round.pausedFrom ≠ none := by simp [saved]
    obtain ⟨own, -⟩ := owned room round authorised stored ⟨phase, enters⟩
    exact .changeRound stored own rfl rfl
  | abortRound now =>
    obtain ⟨room, round, authorised, stored, phase, ⟨-, rfl⟩ | ⟨going, rfl⟩⟩ :=
      abortRound_ok ended
    · exact .refl
    · obtain ⟨own, executions⟩ := owned room round authorised stored phase
      have interrupted : OnlyRoom roomId db (db.afterInterrupt round now) :=
        .interrupt (executions going)
      have kept : (db.afterInterrupt round now).rounds.get roundId = some round := by
        rw [afterInterrupt_rounds]
        exact stored
      have aborted : OnlyRoom roomId (db.afterInterrupt round now)
          ((db.afterInterrupt round now).putRound (abortedRound round now)) :=
        .changeRound kept own rfl rfl
      have key : room.id = roomId := (get_mem authorised.found).2
      exact (interrupted.trans aborted).trans (.putRoom key)
  | skipParticipant now =>
    obtain ⟨result, ended⟩ := map_fst_ok ended
    obtain ⟨room, round, skipped, admitted, rfl, -⟩ := skipParticipant_ok ended
    have facts := admitSkip_ok admitted
    have moved : OnlyRoom roomId db (db.putRound (skippedRound round)) :=
      .changeRound facts.stored facts.own rfl rfl
    exact moved.trans (.putRoom (get_mem facts.authorised.found).2)
  | appendUserMessage content stamp =>
    obtain ⟨message, ended⟩ := map_fst_ok ended
    obtain ⟨room, round, added, authorised, -, -, -, rfl, inserted, rfl⟩ :=
      appendUserMessage_ok ended
    have said : OnlyRoom roomId db added := .addMessage rfl inserted
    exact said.trans (.putRoom (get_mem authorised.found).2)

/-- A round transaction keeps to its room exactly when every round it would take
without a look at the room is of that room, and an abort's live execution too. -/
theorem round_transaction_framed (db : Database) (roomId roundId : JsString)
    (token : ControllerToken) (call : RoundCall) :
    db.KeepsToRoom roomId roundId token call ↔ db.Owned roomId roundId token call := by
  constructor
  · intro keeps room round authorised stored enters
    obtain ⟨next, ended⟩ := transact_enters authorised stored enters
    have own : round.roomId = roomId := by
      by_contra foreign
      obtain ⟨failure, refused⟩ := keeps.rejects round stored foreign
      rw [ended] at refused
      contradiction
    refine ⟨own, fun interrupts execution live => ?_⟩
    cases call with
    | abortRound now =>
      by_contra foreign
      obtain ⟨found, alive⟩ := liveExecution_stored live
      -- The row that replaces the execution has its key and is not live.
      have stays := ((keeps.framed next ended).executions execution foreign).mpr
        (get_mem found).1
      obtain ⟨room', round', -, stored', -, ⟨aborted, -⟩ | ⟨-, rfl⟩⟩ := abortRound_ok ended
      · rw [stored] at stored'
        cases stored'
        exact interrupts aborted
      · rw [stored] at stored'
        cases stored'
        simp only [afterInterrupt, live] at stays
        have replaced : interruptedByAbort execution now ∈
            (db.modelExecutions.put (interruptedByAbort execution now)).rows :=
          mem_put.mpr (.inl rfl)
        have same : execution = interruptedByAbort execution now :=
          eq_of_key stays replaced rfl
        rw [same] at alive
        contradiction
    | transitionRound | pauseRound | resumeRound | skipParticipant | appendUserMessage =>
      exact interrupts.elim
  · intro owned
    refine ⟨fun next ended => .of_owned owned ended, fun round stored foreign => ?_⟩
    cases ended : db.transact (call.action roomId roundId token) with
    | error failure => exact ⟨failure, rfl⟩
    | ok next =>
      obtain ⟨room, round', authorised, stored', entered | own⟩ := transact_round ended
      · rw [stored] at stored'
        cases stored'
        exact absurd (owned room round authorised stored entered).1 foreign
      · rw [stored] at stored'
        cases stored'
        exact absurd own foreign

end Database

def otherToken : ControllerToken := ⟨js "second", 1⟩

/-- Beside the room with the running round, a room with a runtime of its own. -/
def twoRooms : List DiscussionAction :=
  seedActions ++ [.createRoom (js "other topic") [] (stamp (js "room-2")),
    .createRuntimeBindingTx (js "room-2") (js "request-2") (stamp (js "binding-2")),
    .activateRuntimeBinding (js "binding-2") (js "host") (js "scope-2") otherToken (js "t")]

def foreignAbort : RoundCall := .abortRound (js "t")

theorem foreign_round_aborted :
    ∃ db next, Run (@step sampleDigest) anyStep .empty twoRooms db ∧
      (db.rounds.get (js "round")).map (·.roomId) = some (js "room") ∧
      @transact db sampleDigest (foreignAbort.action (js "room-2") (js "round") otherToken) = .ok next ∧
      (next.rounds.get (js "round")).map (·.phase) = some .aborted ∧
      ¬ @KeepsToRoom sampleDigest db (js "room-2") (js "round") otherToken foreignAbort := by
  have ended : ((execute (@step sampleDigest) .empty twoRooms).any fun db =>
      (db.rounds.get (js "round")).map (·.roomId) = some (js "room") ∧
        ((@transact db sampleDigest (foreignAbort.action (js "room-2") (js "round")
          otherToken)).toOption.any fun next =>
            (next.rounds.get (js "round")).map (·.phase) = some .aborted) = true) = true := by
    decide
  obtain ⟨db, ran, facts⟩ := (any_eq_true _ _).mp ended
  obtain ⟨owner, aborts⟩ := of_decide_eq_true facts
  cases transacted : @transact db sampleDigest
      (foreignAbort.action (js "room-2") (js "round") otherToken) with
  | error failure =>
    rw [transacted] at aborts
    contradiction
  | ok next =>
    rw [transacted] at aborts
    refine ⟨db, next, execute_run ran fun _ _ _ => trivial, owner, transacted,
      of_decide_eq_true aborts, fun keeps => ?_⟩
    obtain ⟨round, stored, own⟩ := map_eq_some_iff.mp owner
    obtain ⟨failure, refused⟩ := @KeepsToRoom.rejects sampleDigest db (js "room-2")
      (js "round") otherToken foreignAbort keeps round stored (by rw [own]; decide)
    rw [transacted] at refused
    contradiction

end CouncilKit.Discussion
