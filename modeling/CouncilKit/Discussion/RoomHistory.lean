import CouncilKit.Discussion.Conclusion
import CouncilKit.Discussion.ContextRevisions
import CouncilKit.Discussion.Provenance
import CouncilKit.Discussion.SpeakingOrder

namespace CouncilKit.Discussion

open Data Table Database

/-- What may become of an execution: its place stays, and once it has ended only its ACK goes on. -/
structure GoesOn (old new : ModelExecution) : Prop where
  step : ExecutionStep old new
  ended : old.state.isLive = false → Acked old new

theorem GoesOn.refl (execution : ModelExecution) : GoesOn execution execution :=
  ⟨.refl execution, fun _ => ⟨_, _, rfl⟩⟩

theorem GoesOn.trans {first second third : ModelExecution} (before : GoesOn first second)
    (after : GoesOn second third) : GoesOn first third := by
  obtain ⟨step, ended⟩ := before
  obtain ⟨later, endedLater⟩ := after
  refine ⟨⟨later.executionId.trans step.executionId, later.roomId.trans step.roomId,
    later.roundId.trans step.roundId, later.participantId.trans step.participantId,
    later.resultKind.trans step.resultKind, later.createdAt.trans step.createdAt, ?_⟩, fun still => ?_⟩
  · rcases step.state with live | same
    · exact .inl live
    · exact later.state.imp (fun live => same ▸ live) fun again => again.trans same
  · obtain ⟨_, _, rfl⟩ := ended still
    exact endedLater still

theorem GoesOn.of_live {old new : ModelExecution} (step : ExecutionStep old new)
    (live : old.state.isLive = true) : GoesOn old new := by
  refine ⟨step, fun ended => ?_⟩
  rw [live] at ended
  contradiction

/-- What may become of a round: its order stays, its cursor never goes back, its focus is set
once, and once it is over it stays as it is. -/
structure Onward (old new : DiscussionRound) : Prop where
  id : new.id = old.id
  roomId : new.roomId = old.roomId
  participantOrder : new.participantOrder = old.participantOrder
  cursor : old.nextParticipantIndex ≤ new.nextParticipantIndex
  focus : old.focusMessageId ≠ .null → new.focusMessageId = old.focusMessageId
  final : old.Final → old.activeExecutionId = none → new = old

theorem Onward.refl (round : DiscussionRound) : Onward round round :=
  ⟨rfl, rfl, rfl, Nat.le_refl _, fun _ => rfl, fun _ _ => rfl⟩

theorem Onward.trans {first second third : DiscussionRound} (before : Onward first second)
    (after : Onward second third) : Onward first third where
  id := after.id.trans before.id
  roomId := after.roomId.trans before.roomId
  participantOrder := after.participantOrder.trans before.participantOrder
  cursor := before.cursor.trans after.cursor
  focus some_ := by
    have same := before.focus some_
    exact (after.focus (same ▸ some_)).trans same
  final over_ free := by
    have same := before.final over_ free
    exact (after.final (same ▸ over_) (same ▸ free)).trans same

theorem SameTurn.onward {old new : DiscussionRound} (turn : SameTurn old new)
    (going : old.Final → old.activeExecutionId ≠ none) : Onward old new :=
  ⟨turn.id, turn.roomId, turn.participantOrder, turn.cursor.ge, fun _ => turn.focus,
    fun final free => absurd free (going final)⟩

namespace Database

variable {db next : Database} {action : RoomAction} {roomId : JsString}

theorem RoundWrite.onward {old new : DiscussionRound} (write : db.RoundWrite action old new) :
    Onward old new := by
  have works {round : DiscussionRound} {phase : RoundPhase} (here : round.phase = phase)
      (working : phase ≠ .completed ∧ phase ≠ .aborted) : ¬ round.Final := by
    rintro (final | final)
    · exact working.1 (here.symm.trans final)
    · exact working.2 (here.symm.trans final)
  cases write with
  | moves moves => exact (RoundMoves.sameTurn moves).1.onward fun final => absurd final (RoundMoves.going moves)
  | abort now going => exact SameTurn.onward ⟨rfl, rfl, rfl, rfl, rfl⟩ fun final => absurd final going
  | skip admitted =>
    exact ⟨rfl, rfl, rfl, Nat.le_succ _, fun _ => rfl,
      fun final => absurd final (works admitted.paused (by decide))⟩
  | «begin» executionId working free =>
    refine SameTurn.onward ⟨rfl, rfl, rfl, rfl, rfl⟩ fun final => absurd final ?_
    rcases working with running | summarizing
    · exact works running (by decide)
    · exact works summarizing (by decide)
  | release points releases =>
    refine (Releases.sameTurn releases).1.onward fun _ free => ?_
    rw [points] at free
    cases free
  | speak commits focused =>
    exact ⟨rfl, rfl, rfl, Nat.le_succ _, fun _ => rfl,
      fun final => absurd final (works commits.runs.1.2 (by decide))⟩
  | focus commits unfocused =>
    exact ⟨rfl, rfl, rfl, Nat.le_refl _, fun some_ => absurd unfocused some_,
      fun final => absurd final (works commits.runs.1.2 (by decide))⟩
  | complete commits =>
    exact SameTurn.onward ⟨rfl, rfl, rfl, rfl, rfl⟩
      fun final => absurd final (works commits.runs.1.2 (by decide))

/-- What a room has had stays, as far as it may. -/
structure HistoryKept (roomId : JsString) (db next : Database) : Prop where
  participants : Carries Eq (·.roomId = roomId) db.participants next.participants
  messages : Carries Eq (·.roomId = roomId) db.messages next.messages
  summaries : Carries Eq (·.roomId = roomId) db.summaries next.summaries
  reports : Carries Eq (·.roomId = roomId) db.reports next.reports
  executions : Carries GoesOn (·.roomId = roomId) db.modelExecutions next.modelExecutions
  rounds : Carries Onward (·.roomId = roomId) db.rounds next.rounds

theorem HistoryKept.refl (db : Database) : db.HistoryKept roomId db :=
  ⟨.refl Eq.refl rfl, .refl Eq.refl rfl, .refl Eq.refl rfl, .refl Eq.refl rfl, .refl .refl rfl,
    .refl .refl rfl⟩

theorem HistoryKept.trans {later : Database} (first : db.HistoryKept roomId next)
    (second : next.HistoryKept roomId later) : db.HistoryKept roomId later where
  participants := .trans Eq.trans (fun same here => same ▸ here) first.participants second.participants
  messages := .trans Eq.trans (fun same here => same ▸ here) first.messages second.messages
  summaries := .trans Eq.trans (fun same here => same ▸ here) first.summaries second.summaries
  reports := .trans Eq.trans (fun same here => same ▸ here) first.reports second.reports
  executions := .trans .trans (fun kept here => kept.step.roomId.trans here) first.executions
    second.executions
  rounds := .trans .trans (fun kept here => kept.roomId.trans here) first.rounds second.rounds

theorem HistoryKept.without {other : JsString} (spared : other ≠ roomId) :
    db.HistoryKept roomId (db.withoutRoom other) := by
  have elsewhere {place : JsString} (here : place = roomId) : decide (place ≠ other) = true :=
    decide_eq_true (here ▸ spared.symm)
  exact ⟨.filter Eq.refl fun _ => elsewhere, .filter Eq.refl fun _ => elsewhere,
    .filter Eq.refl fun _ => elsewhere, .filter Eq.refl fun _ => elsewhere,
    .filter .refl fun _ => elsewhere, .filter .refl fun _ => elsewhere⟩

theorem carries_execution {executionId : JsString} {old new : ModelExecution}
    (stored : db.modelExecutions.get executionId = some old) (kept : GoesOn old new) :
    Carries GoesOn (·.roomId = roomId) db.modelExecutions (db.modelExecutions.put new) := by
  refine .put .refl fun row found => ?_
  rw [kept.step.executionId, get_of_mem (get_mem stored).1] at found
  cases found
  exact kept

theorem Writes.kept [Digest] (writes : db.Writes action next)
    (spared : action ≠ .deleteRoomCascade roomId) : db.HistoryKept roomId next := by
  have committed {old : ModelExecution} {kind : ResultKind} {input : CommitInput}
      {entityType : CommittedEntityType} {id now : JsString}
      (stored : db.modelExecutions.get input.executionId = some old) (committable : Committable old kind) :
      Carries GoesOn (·.roomId = roomId) db.modelExecutions
        (db.modelExecutions.put (committedExecution old input entityType id now)) :=
    carries_execution stored (.of_live ⟨rfl, rfl, rfl, rfl, rfl, rfl, .inl committable.live⟩ committable.live)
  have written {roundId : JsString} {old new : DiscussionRound}
      (stored : db.rounds.get roundId = some old) (write : db.RoundWrite action old new) :
      Carries Onward (·.roomId = roomId) db.rounds (db.rounds.put new) := by
    refine .put .refl fun row found => ?_
    rw [write.onward.id, get_of_mem (get_mem stored).1] at found
    cases found
    exact write.onward
  have kept : db.HistoryKept roomId db := .refl db
  cases writes with
  | aside _ _ joined =>
    refine { kept with participants := ?_ }
    rcases joined with rfl | ⟨_, -, absent, rfl⟩
    · exact kept.participants
    · exact .add Eq.refl absent
  | createRoom | room | updateRoomSharedConfig | renameRoom => exact { kept with }
  | appendUserMessage authorised stored own said absent =>
    exact { kept with messages := .add Eq.refl absent }
  | createRound authorised opened idle quiet made absent =>
    exact { kept with rounds := .add .refl absent }
  | round stored moves => exact { kept with rounds := written stored (.moves moves) }
  | @abortRound _ _ _ now _ _ authorised stored going =>
    have rounds := written stored (.abort now going)
    simp only [putRoom, putRound, afterInterrupt]
    split
    · rename_i live found
      obtain ⟨pointed, running⟩ := Option.filter_eq_some_iff.mp found
      obtain ⟨_, -, inDb⟩ := Option.bind_eq_some_iff.mp pointed
      exact { kept with
        rounds
        executions := carries_execution inDb (.of_live ⟨rfl, rfl, rfl, rfl, rfl, rfl, .inl running⟩ running) }
    · exact { kept with rounds }
  | skipParticipant admitted =>
    exact { kept with rounds := written admitted.stored (.skip admitted) }
  | beginExecution made admitted turn absent =>
    refine { kept with
      rounds := written admitted.stored (.begin _ ?_ admitted.free)
      executions := .add .refl absent }
    rw [DiscussionRound.Working, admitted.phase]
    split
    · exact .inr rfl
    · exact .inl rfl
  | beginFocusExecution made admitted unfocused absent =>
    exact { kept with
      rounds := written admitted.stored (.begin _ (.inl admitted.phase) admitted.free)
      executions := .add .refl absent }
  | beginReportExecution made kind authorised opened aborts quiet absent =>
    cases aborts with
    | idle | gone | ended => exact { kept with executions := .add .refl absent }
    | aborted active stored free going =>
      exact { kept with
        rounds := written stored (.abort _ going)
        executions := .add .refl absent }
  | execution stored step moves =>
    refine { kept with executions := carries_execution stored ?_ }
    rcases moves with ⟨live, -⟩ | acked
    · exact .of_live step live
    · exact ⟨step, fun _ => acked⟩
  | release found step stored points releases live =>
    exact { kept with
      rounds := written stored (.release points releases)
      executions := carries_execution found (.of_live step live) }
  | commitModelMessage commits focused absent =>
    exact { kept with
      messages := .add Eq.refl absent
      rounds := written commits.loaded.round (.speak commits focused)
      executions := committed commits.loaded.execution commits.committable }
  | commitFocusMessage commits unfocused absent =>
    exact { kept with
      messages := .add Eq.refl absent
      rounds := written commits.loaded.round (.focus commits unfocused)
      executions := committed commits.loaded.execution commits.committable }
  | commitSummary commits first absent bump =>
    subst bump
    exact { kept with
      summaries := .add Eq.refl absent
      rounds := written commits.loaded.round (.complete commits)
      executions := committed commits.loaded.execution commits.committable }
  | commitReport found authorised committable first opened made absent =>
    exact { kept with
      reports := .add Eq.refl absent
      executions := committed found committable }
  | deleteRoom => exact .without fun same => spared (congrArg _ same)

end Database

/-- Whatever the pages do short of deleting the room, what it has had stays. -/
theorem room_history_kept [Digest] {db final : Database} {roomId : JsString} {actions : List RoomAction}
    (run : Run Database.roomStep (fun _ action => action ≠ .deleteRoomCascade roomId) db actions final) :
    db.HistoryKept roomId final :=
  run.relates .refl .trans (fun (_ : True) spared stepped =>
    ⟨trivial, (roomStep_writes stepped).kept spared⟩) trivial

theorem room_history_kept_renamed :
    ∃ db final, (db.messages.get (js "m1")).isSome = true ∧ Run (@Database.roomStep sampleDigest)
      (fun _ action => action ≠ .deleteRoomCascade (js "room")) db afterConclusion final ∧
      db.HistoryKept (js "room") final := by
  have ended : ((execute (@Database.roomStep sampleDigest) .empty concludedActions).any fun db =>
      (db.messages.get (js "m1")).isSome &&
        (execute (@Database.roomStep sampleDigest) db afterConclusion).isSome) = true := by
    decide +kernel
  obtain ⟨db, -, facts⟩ := (Option.any_eq_true _ _).mp ended
  obtain ⟨spoken, went⟩ := Bool.and_eq_true_iff.mp facts
  obtain ⟨final, went⟩ := Option.isSome_iff_exists.mp went
  have run : Run (@Database.roomStep sampleDigest)
      (fun _ action => action ≠ .deleteRoomCascade (js "room")) db afterConclusion final :=
    execute_run went fun _ action member => by
      simp only [afterConclusion, List.mem_cons, List.not_mem_nil, or_false] at member
      rcases member with rfl | rfl | rfl <;> exact RoomAction.noConfusion
  exact ⟨db, final, spoken, run, @room_history_kept sampleDigest db final (js "room") afterConclusion run⟩

section

variable [Digest] {db next : Database} {action : RoomAction}

def Database.Roomed (db : Database) : Prop :=
  ∀ round ∈ db.rounds.rows, ∃ room, db.rooms.get round.roomId = some room

theorem Database.Writes.roomed (writes : db.Writes action next) (roomed : db.Roomed) : next.Roomed := by
  intro round member
  obtain ⟨room, found⟩ : ∃ room, db.rooms.get round.roomId = some room := by
    cases writes.round_origin member with
    | kept before => exact roomed round before
    | fresh made found opened row =>
      subst row
      exact ⟨_, found⟩
    | changed stored write => exact write.keeps.2 ▸ roomed _ (get_mem stored).1
  obtain kept | ⟨roomId, rfl⟩ := writes.rooms_step.keeps found
  · exact kept
  · exact room_withoutRoom (mem_filter.mp member).2 ⟨room, found⟩

/-- No row outlives what it refers to: rounds, messages, summaries and reports have their
room, executions their room and their round and participant in it. -/
theorem no_orphans {actions : List RoomAction}
    (run : Run Database.roomStep BeginsInRoom .empty actions db) :
    db.Roomed ∧ db.Placed ∧ (∀ report ∈ db.reports.rows, ∃ room, db.rooms.get report.roomId = some room) ∧
      ∀ execution ∈ db.modelExecutions.rows, db.Seated execution := by
  have sourced : db.Sourced := run.invariant Sourced.step Sourced.empty
  refine ⟨?_, ?_, fun report member => ?_, sourced.seated⟩
  · exact run.invariant (fun held _ stepped => (roomStep_writes stepped).roomed held)
      fun _ member => absurd member List.not_mem_nil
  · exact run.invariant (fun held _ stepped => (roomStep_writes stepped).context_step.placed held)
      ⟨fun _ member => absurd member List.not_mem_nil, fun _ member => absurd member List.not_mem_nil⟩
  · obtain ⟨execution, stored, named⟩ :=
      sourced.entities report.sourced (mem_sourced.mpr (.inr (.inr ⟨report, member, rfl⟩)))
    have room := (sourced.seated execution stored).room
    rwa [← named.room] at room

end

theorem no_orphans_concluded : ∃ db, Run (@Database.roomStep sampleDigest) BeginsInRoom .empty
    concludedActions db ∧ db.reports.rows ≠ [] ∧
    ∀ report ∈ db.reports.rows, ∃ room, db.rooms.get report.roomId = some room := by
  have facts : (execute (guarded (@Database.roomStep sampleDigest) BeginsInRoom) .empty
      concludedActions).any (·.reports.rows.isEmpty.not) = true := by decide +kernel
  obtain ⟨db, went, listed⟩ := (Option.any_eq_true _ _).mp facts
  have run := execute_guarded went
  exact ⟨db, run, fun none => by simp [none] at listed, (@no_orphans sampleDigest db _ run).2.2.1⟩

end CouncilKit.Discussion
