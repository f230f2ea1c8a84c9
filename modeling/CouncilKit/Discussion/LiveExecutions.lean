import CouncilKit.Discussion.Writes

namespace CouncilKit.Discussion

open Data Table Option

def ModelExecution.Occupies (execution : ModelExecution) : Prop :=
  execution.resultKind ≠ .report ∧ execution.state.isLive = true

instance (execution : ModelExecution) : Decidable execution.Occupies :=
  inferInstanceAs (Decidable (_ ∧ _))

namespace Database

def Pointed (db : Database) : Prop :=
  ∀ execution ∈ db.modelExecutions.rows, execution.Occupies →
    ∃ round, db.rounds.get execution.roundId = some round ∧
      round.activeExecutionId = some execution.executionId

structure LivePointed (db : Database) : Prop where
  one : ∀ first ∈ db.modelExecutions.rows, ∀ second ∈ db.modelExecutions.rows,
    first.Occupies → second.Occupies → first.roundId = second.roundId → first = second
  pointed : db.Pointed

variable {db next : Database}

theorem Pointed.livePointed (held : db.Pointed) : db.LivePointed where
  one first firstMember second secondMember firstLive secondLive same := by
    obtain ⟨round, found, points⟩ := held first firstMember firstLive
    obtain ⟨other, otherFound, otherPoints⟩ := held second secondMember secondLive
    rw [← same, found] at otherFound
    cases otherFound
    rw [points] at otherPoints
    exact eq_of_key firstMember secondMember (some.inj otherPoints)
  pointed := held

theorem Pointed.empty : Database.empty.Pointed := fun _ member => absurd member List.not_mem_nil

theorem Pointed.frame (held : db.Pointed) (rounds : next.rounds = db.rounds)
    (executions : next.modelExecutions = db.modelExecutions) : next.Pointed := by
  rw [Pointed, rounds, executions]
  exact held

variable {round old : DiscussionRound} {roundId : JsString}

section

variable (held : db.Pointed) (stored : db.rounds.get roundId = some old) (key : round.id = old.id)

include held stored key

theorem Pointed.putRound
    (points : ∀ execution, db.modelExecutions.get execution.executionId = some execution → old.activeExecutionId = some execution.executionId → execution.Occupies → round.activeExecutionId = some execution.executionId) :
    (db.putRound round).Pointed := by
  intro execution member occupies
  obtain ⟨other, found, active⟩ := held execution member occupies
  simp only [Database.putRound, get_put]
  split
  · rename_i same
    rw [same, key, (get_mem stored).2, stored] at found
    cases found
    exact ⟨round, rfl, points execution (get_of_mem member) active occupies⟩
  · exact ⟨other, found, active⟩

theorem Pointed.putRound_same (same : round.activeExecutionId = old.activeExecutionId) :
    (db.putRound round).Pointed :=
  held.putRound stored key fun _ _ active _ => same.trans active

end

variable {execution : ModelExecution}

theorem Pointed.putExecution (held : db.Pointed)
    (points : execution.Occupies → ∃ round, db.rounds.get execution.roundId = some round ∧
      round.activeExecutionId = some execution.executionId) :
    (db.putExecution execution).Pointed := by
  intro other member occupies
  rcases mem_put.mp member with rfl | ⟨old, -⟩
  · exact points occupies
  · exact held other old occupies

theorem Pointed.endExecution (held : db.Pointed)
    (ended : execution.state.isLive = false) : (db.putExecution execution).Pointed :=
  held.putExecution fun occupies => by
    rw [occupies.2] at ended
    contradiction

theorem Pointed.release
    (held : db.Pointed) (ended : execution.state.isLive = false)
    (stored : db.rounds.get roundId = some old) (key : round.id = old.id)
    (active : old.activeExecutionId = some execution.executionId) :
    ((db.putExecution execution).putRound round).Pointed := by
  refine (held.endExecution ended).putRound stored key fun other found points occupies => ?_
  have same : other.executionId = execution.executionId :=
    (some.inj (active.symm.trans points)).symm
  rw [Database.putExecution, same, get_put_self] at found
  cases found
  rw [occupies.2] at ended
  contradiction

variable {round : DiscussionRound}

theorem Pointed.addRound (held : db.Pointed)
    (absent : db.rounds.get round.id = none) :
    Pointed { db with rounds := db.rounds.put round } := by
  intro execution member occupies
  obtain ⟨other, found, active⟩ := held execution member occupies
  refine ⟨other, ?_, active⟩
  rw [get_put_other fun same => by simp [← same, found] at absent]
  exact found

theorem Pointed.begun
    (held : db.Pointed) (stored : db.rounds.get execution.roundId = some round)
    (free : round.activeExecutionId = none) :
    ((db.putExecution execution).putRound
      { round with activeExecutionId := some execution.executionId }).Pointed := by
  have key : round.id = execution.roundId := (get_mem stored).2
  have pointing : (db.putRound { round with activeExecutionId := some execution.executionId }).Pointed :=
    held.putRound stored rfl fun _ _ active => by
      rw [free] at active
      contradiction
  refine (pointing.putExecution fun _ => ?_).frame rfl rfl
  refine ⟨{ round with activeExecutionId := some execution.executionId }, ?_, rfl⟩
  simp only [Database.putRound, get_put, key, if_true]

variable {roomId roundId executionId : JsString} {token : ControllerToken} {now : JsString}
  {stamp : Stamp} {execution : ModelExecution} {round : DiscussionRound}

theorem Pointed.moved {old new : ModelExecution} (held : db.Pointed)
    (stored : db.modelExecutions.get executionId = some old) (step : ExecutionStep old new) :
    (db.putExecution new).Pointed := by
  refine held.putExecution fun occupies => ?_
  have before : old.Occupies := ⟨step.resultKind ▸ occupies.1, step.live occupies.2⟩
  obtain ⟨round, found, points⟩ := held old (get_mem stored).1 before
  refine ⟨round, ?_, ?_⟩
  · rw [step.roundId]
    exact found
  · rw [step.executionId]
    exact points

theorem liveExecution_of_active (active : round.activeExecutionId = some execution.executionId)
    (found : db.modelExecutions.get execution.executionId = some execution)
    (occupies : execution.Occupies) : db.liveExecution round = some execution := by
  simp [liveExecution, active, found, occupies.2]

theorem Pointed.abort (held : db.Pointed) (stored : db.rounds.get roundId = some round) :
    ((db.afterInterrupt round now).putRound (abortedRound round now)).Pointed := by
  cases live : db.liveExecution round with
  | none =>
    simp only [afterInterrupt, live]
    refine held.putRound stored rfl fun execution found active occupies => ?_
    rw [liveExecution_of_active active found occupies] at live
    contradiction
  | some execution =>
    have interrupts : db.afterInterrupt round now = db.putExecution (interruptedByAbort execution now) := by
      simp only [afterInterrupt, live]
    rw [liveExecution, filter_eq_some_iff, bind_eq_some_iff] at live
    obtain ⟨⟨id, active, found⟩, -⟩ := live
    rw [← (get_mem found).2] at active
    rw [interrupts]
    exact held.release rfl stored rfl active

variable {room idle : DiscussionRoom}

theorem Pointed.reportAborts {aborted : Database}
    (held : db.Pointed) (aborts : db.ReportAborts room now aborted idle) : aborted.Pointed := by
  cases aborts with
  | idle | gone | ended => exact held
  | aborted active stored free going =>
    refine held.putRound stored rfl fun _ _ active => ?_
    rw [free] at active
    contradiction

theorem Pointed.beginReport {aborted : Database}
    (held : db.Pointed) (aborts : db.ReportAborts room now aborted idle)
    (kind : execution.resultKind = .report) :
    ((aborted.putRoom { idle with lastActiveAt := now }).putExecution execution).Pointed := by
  have stored : (aborted.putExecution execution).Pointed :=
    (held.reportAborts aborts).putExecution fun occupies => absurd kind occupies.1
  exact stored.frame rfl rfl

variable [Digest] {input : CommitInput}

theorem Pointed.commitRows {context : CommitContext} {added : Database} {kind : ResultKind}
    {phase : RoundPhase} {entityType : CommittedEntityType} (held : db.Pointed)
    (commits : db.Commits input stamp kind phase context) (rounds : added.rounds = db.rounds)
    (executions : added.modelExecutions = db.modelExecutions) (key : round.id = context.round.id) :
    (commitRows added context input entityType stamp round).Pointed := by
  have released : ((added.putExecution (committedExecution context.execution input entityType
      stamp.uuid stamp.now)).putRound round).Pointed :=
    (held.frame rounds executions).release rfl (rounds ▸ commits.loaded.round) key commits.runs.2
  exact released.frame rfl rfl

/-- Every skip that goes through finds no live execution of a turn in its round. -/
def skipsSettled (db : Database) : DiscussionAction → Prop
  | .skipParticipant roomId roundId token _ => ∀ room round skipped,
      db.admitSkip roomId roundId token = .ok (room, round, skipped) →
      ∀ execution, db.liveExecution round = some execution → execution.resultKind = .report
  | _ => True

omit [Digest] in
theorem skipsSettled_iff {now : JsString} :
    skipsSettled db (.skipParticipant roomId roundId token now) ↔
      ∀ admitted ∈ (db.admitSkip roomId roundId token).toOption,
        ∀ execution ∈ db.liveExecution admitted.2.1, execution.resultKind = .report := by
  simp only [skipsSettled]
  cases db.admitSkip roomId roundId token with
  | error failure => simp [Except.toOption]
  | ok admitted =>
    obtain ⟨room, round, skipped⟩ := admitted
    simp [Except.toOption]

omit [Digest] in
instance (db : Database) : (action : DiscussionAction) → Decidable (skipsSettled db action)
  | .skipParticipant .. => decidable_of_iff _ skipsSettled_iff.symm
  | .createRoom .. | .joinAgent .. | .assignFacilitator .. | .appendUserMessage ..
  | .updateRoomSharedConfig .. | .setRoomRunState .. | .createRound .. | .transitionRound ..
  | .pauseRound .. | .resumeRound .. | .abortRound .. | .beginExecution ..
  | .beginFocusExecution .. | .beginReportExecution .. | .markExecutionDispatched ..
  | .markExecutionSucceededUncommitted .. | .commitModelMessage .. | .commitSummary ..
  | .commitFocusMessage .. | .commitReport .. | .discardExecution .. | .failExecution ..
  | .failUnboundExecution .. | .markAcknowledged .. | .markAckExpired ..
  | .createRuntimeBindingTx .. | .activateRuntimeBinding .. | .takeoverRuntimeBinding ..
  | .markBindingClosing .. | .markBindingClosed .. => .isTrue trivial

theorem Pointed.step {action : DiscussionAction} (held : db.Pointed)
    (settled : skipsSettled db action) (stepped : db.step action = some next) :
    next.Pointed := by
  cases step_writes stepped with
  | aside | createRoom | room | appendUserMessage | updateRoomSharedConfig =>
    exact held.frame rfl rfl
  | createRound authorised opened idle quiet made absent =>
    exact (held.addRound absent).frame rfl rfl
  | round stored moves => cases moves <;> exact held.putRound_same stored rfl rfl
  | abortRound authorised stored => exact (held.abort stored).frame rfl rfl
  | @skipParticipant _ _ _ _ skipped room round admitted admits =>
    have released : (db.putRound (skippedRound round)).Pointed := by
      refine held.putRound admitted.stored rfl fun execution found active occupies => ?_
      have report := settled room round skipped admits execution
        (liveExecution_of_active active found occupies)
      exact absurd report occupies.1
    exact released.frame rfl rfl
  | beginExecution made admitted | beginFocusExecution made admitted =>
    exact held.begun admitted.stored admitted.free
  | beginReportExecution made kind authorised opened aborts => exact held.beginReport aborts kind
  | execution stored step => exact held.moved stored step
  | release found step stored points releases live ended =>
    exact held.release ended stored releases.id (step.executionId ▸ points)
  | commitModelMessage commits | commitFocusMessage commits =>
    exact held.commitRows commits rfl rfl rfl
  | @commitSummary input stamp context _ commits =>
    have completed : (Database.commitRows
        { db with summaries := db.summaries.put (newSummary context input stamp) } context input
          .summary stamp (completedRound context.round stamp.now)).Pointed :=
      held.commitRows commits rfl rfl rfl
    exact completed.frame rfl rfl
  | @commitReport input stamp execution room report =>
    have ended : (db.putExecution
        (committedExecution execution input .report report.id stamp.now)).Pointed :=
      held.endExecution rfl
    exact ended.frame rfl rfl

/-- In every state of a run from the empty database whose skips are settled, a
round has one live execution at most and points at it. -/
theorem live_execution_pointed {actions : List DiscussionAction}
    (run : Run Database.step skipsSettled .empty actions db) : db.LivePointed :=
  (run.invariant Pointed.step Pointed.empty).livePointed

end Database

@[reducible] def sampleDigest : Digest := ⟨fun _ => js "digest"⟩

def sampleToken : ControllerToken := ⟨js "controller", 1⟩

def stamp (uuid : JsString) : Stamp := ⟨js "2026-01-01T00:00:00.000Z", uuid⟩

def focusExecution (executionId : JsString) : ModelExecutionInput where
  executionId
  roomId := js "room"
  roundId := js "round"
  participantId := js "f"
  resultKind := .focus
  requestedModel := js "m"
  contextRevision := 0
  expectedRoomDigest := js "digest"
  participantSnapshotDigest := js "s"
  instructionDigest := js "i"

def seedActions : List DiscussionAction :=
  [.createRoom (js "topic") [] (stamp (js "room")),
    .joinAgent (js "room") ⟨js "agent-f", js "m", js "s"⟩ (stamp (js "f")),
    .joinAgent (js "room") ⟨js "agent-p", js "m", js "s"⟩ (stamp (js "p")),
    .joinAgent (js "room") ⟨js "agent-q", js "m", js "s"⟩ (stamp (js "q")),
    .assignFacilitator (js "room") (js "f"),
    .createRuntimeBindingTx (js "room") (js "request") (stamp (js "binding")),
    .activateRuntimeBinding (js "binding") (js "host") (js "scope") sampleToken (js "t"),
    .createRound (js "room") sampleToken [js "p", js "q"] (stamp (js "round")),
    .transitionRound (js "room") (js "round") sampleToken .prewarming,
    .transitionRound (js "room") (js "round") sampleToken .running,
    .beginFocusExecution (focusExecution (js "e1")) sampleToken (js "t")]

def skipSpeaker : List DiscussionAction :=
  [.pauseRound (js "room") (js "round") sampleToken
      { code := .outcome .user_cancelled, participantId := some (js "p") },
    .skipParticipant (js "room") (js "round") sampleToken (js "t")]

def settledActions : List DiscussionAction :=
  seedActions ++ [.failExecution (js "e1") sampleToken
      (fun _ => ⟨js "HOST_LOST", js "dispatch", js "lost", true, none, none⟩) .failed false
      (js "t")] ++ skipSpeaker

theorem live_execution_pointed_skip :
    ∃ db, execute (guarded (@Database.step sampleDigest) Database.skipsSettled) .empty
        settledActions = some db ∧
      (db.rounds.get (js "round")).map (·.nextParticipantIndex) = some 1 ∧ db.LivePointed := by
  have ended : ((execute (guarded (@Database.step sampleDigest) Database.skipsSettled) .empty
      settledActions).bind fun db =>
        (db.rounds.get (js "round")).map (·.nextParticipantIndex)) = some 1 := by decide
  obtain ⟨db, ran, cursor⟩ := bind_eq_some_iff.mp ended
  exact ⟨db, ran, cursor, @Database.live_execution_pointed db sampleDigest settledActions
    (execute_guarded ran)⟩

/-- The skip drops the pointer to the first focus; the round then runs a second. -/
def orphanActions : List DiscussionAction :=
  seedActions ++ skipSpeaker ++ [.beginFocusExecution (focusExecution (js "e2")) sampleToken (js "t")]

theorem live_execution_orphaned :
    ∃ db, Run (@Database.step sampleDigest) anyStep .empty orphanActions db ∧
      ¬ db.LivePointed ∧ (db.modelExecutions.rows.filter fun execution =>
        execution.Occupies ∧ execution.roundId = js "round").map (·.executionId) = [js "e1", js "e2"] := by
  have ended : (execute (@Database.step sampleDigest) .empty orphanActions).map (fun db =>
      ((db.rounds.get (js "round")).map (·.activeExecutionId),
        (db.modelExecutions.rows.filter fun execution =>
          execution.Occupies ∧ execution.roundId = js "round").map (·.executionId))) =
      some (some (some (js "e2")), [js "e1", js "e2"]) := by decide
  obtain ⟨db, ran, found⟩ := map_eq_some_iff.mp ended
  obtain ⟨pointer, live⟩ := Prod.mk.inj found
  refine ⟨db, execute_run ran fun _ _ _ => trivial, fun held => ?_, live⟩
  have first : js "e1" ∈ (db.modelExecutions.rows.filter fun execution =>
      execution.Occupies ∧ execution.roundId = js "round").map (·.executionId) := by
    rw [live]
    exact List.mem_cons_self
  obtain ⟨execution, member, name⟩ := List.mem_map.mp first
  obtain ⟨stored, facts⟩ := List.mem_filter.mp member
  obtain ⟨occupies, own⟩ := of_decide_eq_true facts
  obtain ⟨round, inRound, points⟩ := held.pointed execution stored occupies
  rw [own] at inRound
  rw [inRound, map_some, points, name] at pointer
  exact absurd pointer (by decide)

end CouncilKit.Discussion
