import CouncilKit.Discussion.LiveExecutions

namespace CouncilKit.Discussion

open Data Database

def DiscussionAction.token : DiscussionAction → Option ControllerToken
  | .appendUserMessage _ _ token _ _ | .updateRoomSharedConfig _ token _ _ _
  | .setRoomRunState _ token _ _ | .createRound _ token _ _ | .transitionRound _ _ token _
  | .pauseRound _ _ token _ | .resumeRound _ _ token | .abortRound _ _ token _
  | .skipParticipant _ _ token _ | .beginExecution _ token _ | .beginFocusExecution _ token _
  | .beginReportExecution _ token _ | .failExecution _ token _ _ _ _ => some token
  | .commitModelMessage input _ | .commitSummary input _ | .commitFocusMessage input _
  | .commitReport input _ => some input.token
  | .discardExecution input _ => some input.token
  | .createRoom .. | .joinAgent .. | .assignFacilitator .. | .markExecutionDispatched ..
  | .markExecutionSucceededUncommitted .. | .failUnboundExecution .. | .markAcknowledged ..
  | .markAckExpired .. | .createRuntimeBindingTx .. | .activateRuntimeBinding ..
  | .takeoverRuntimeBinding .. | .markBindingClosing .. | .markBindingClosed .. => none

namespace Database

variable (db : Database)

def roomOfRound (roundId : JsString) : Option JsString := (db.rounds.get roundId).map (·.roomId)

def roomOfTurn (executionId : JsString) : Option JsString :=
  (db.modelExecutions.get executionId).bind fun execution => db.roomOfRound execution.roundId

def fencedRoom : DiscussionAction → Option JsString
  | .appendUserMessage roomId .. | .updateRoomSharedConfig roomId .. | .setRoomRunState roomId ..
  | .createRound roomId .. | .transitionRound roomId .. | .pauseRound roomId ..
  | .resumeRound roomId .. | .abortRound roomId .. | .skipParticipant roomId .. => some roomId
  | .beginExecution input _ _ | .beginFocusExecution input _ _ => db.roomOfRound input.roundId
  | .beginReportExecution input _ _ => some input.roomId
  | .commitModelMessage input _ | .commitSummary input _ | .commitFocusMessage input _ =>
    db.roomOfTurn input.executionId
  | .discardExecution input _ => db.roomOfTurn input.executionId
  | .failExecution executionId .. => db.roomOfTurn executionId
  | .commitReport input _ => (db.modelExecutions.get input.executionId).map (·.roomId)
  | _ => none

/-- The operations on an execution that take no token; a failure without one
belongs to the controller while a binding is active. -/
def WithoutToken : DiscussionAction → Prop
  | .markExecutionDispatched .. | .markExecutionSucceededUncommitted .. | .markAcknowledged ..
  | .markAckExpired .. => True
  | .failUnboundExecution executionId _ _ => ∀ execution,
      db.modelExecutions.get executionId = some execution →
        (db.activeBinding execution.roomId).isSome
  | _ => False

def transact [Digest] : DiscussionAction → Outcome Database
  | .createRoom topic background stamp => db.createRoom topic background stamp
  | .joinAgent roomId seat stamp => db.joinAgent roomId seat stamp
  | .assignFacilitator roomId participantId => db.assignFacilitator roomId participantId
  | .appendUserMessage roomId roundId token content stamp =>
    (db.appendUserMessage roomId roundId token content stamp).map (·.1)
  | .updateRoomSharedConfig roomId token topic background now =>
    (db.updateRoomSharedConfig roomId token topic background now).map (·.1)
  | .setRoomRunState roomId token runState now => db.setRoomRunState roomId token runState now
  | .createRound roomId token participantOrder stamp =>
    (db.createRound roomId token participantOrder stamp).map (·.1)
  | .transitionRound roomId roundId token target => db.transitionRound roomId roundId token target
  | .pauseRound roomId roundId token reason => db.pauseRound roomId roundId token reason
  | .resumeRound roomId roundId token => db.resumeRound roomId roundId token
  | .abortRound roomId roundId token now => db.abortRound roomId roundId token now
  | .skipParticipant roomId roundId token now =>
    (db.skipParticipant roomId roundId token now).map (·.1)
  | .beginExecution input token now => db.beginExecution (createModelExecution input now) token
  | .beginFocusExecution input token now =>
    db.beginFocusExecution (createModelExecution input now) token
  | .beginReportExecution input token now =>
    db.beginReportExecution (createModelExecution input now) token now
  | .markExecutionDispatched executionId hostInstanceId executionScopeId dispatchState now =>
    db.markExecutionDispatched executionId hostInstanceId executionScopeId dispatchState now
  | .markExecutionSucceededUncommitted executionId effectiveModel usage finalEventSeq
      dispatchState toolState now =>
      db.markExecutionSucceededUncommitted executionId effectiveModel usage finalEventSeq
        dispatchState toolState now
  | .commitModelMessage input stamp => (db.commitModelMessage input stamp).map (·.1)
  | .commitSummary input stamp => (db.commitSummary input stamp).map (·.1)
  | .commitFocusMessage input stamp => (db.commitFocusMessage input stamp).map (·.1)
  | .commitReport input stamp => (db.commitReport input stamp).map (·.1)
  | .discardExecution input now => (db.discardExecution input now).map (·.1)
  | .failExecution executionId token error kind pause now =>
    (db.failExecution executionId token error kind pause now).map (·.1)
  | .failUnboundExecution executionId input now =>
    (db.failUnboundExecution executionId input now).map (·.1)
  | .markAcknowledged executionId now => db.markAcknowledged executionId now
  | .markAckExpired executionId now => db.markAckExpired executionId now
  | .createRuntimeBindingTx roomId scopeRequestId stamp =>
    (db.createRuntimeBindingTx roomId scopeRequestId stamp).map (·.1)
  | .activateRuntimeBinding id hostInstanceId executionScopeId token now =>
    (db.activateRuntimeBinding id hostInstanceId executionScopeId token now).map (·.1)
  | .takeoverRuntimeBinding id token now => db.takeoverRuntimeBinding id token now
  | .markBindingClosing id now => db.markBindingClosing id now
  | .markBindingClosed id now => db.markBindingClosed id now

variable {db} [Digest] {next : Database}

theorem step_eq_settle (action : DiscussionAction) : db.step action = db.settle (db.transact action) := by
  cases action <;> rfl

omit [Digest] in
theorem map_fst_ok {α : Type} {work : Outcome (Database × α)}
    (ended : work.map (·.1) = .ok next) : ∃ value, work = .ok (next, value) := by
  cases work with
  | error failure => contradiction
  | ok result =>
    cases ended
    exact ⟨result.2, rfl⟩

def Fenced (db : Database) (action : DiscussionAction) (token : ControllerToken) : Prop :=
  ∃ roomId, db.fencedRoom action = some roomId ∧ db.Controls roomId token

variable {token : ControllerToken} {stamp : Stamp} {input : CommitInput} {executionId : JsString}

omit [Digest] in
theorem CommitLoaded.fences {context : CommitContext} (loaded : db.CommitLoaded executionId token context) :
    ∃ roomId, db.roomOfTurn executionId = some roomId ∧ db.Controls roomId token := by
  refine ⟨context.round.roomId, ?_, loaded.authorised.controls⟩
  simp [roomOfTurn, roomOfRound, loaded.execution, loaded.round]

variable {execution : ModelExecution}

omit [Digest] in
theorem BeginAdmitted.fences {phase : RoundPhase}
    {round : DiscussionRound} {room : DiscussionRoom}
    (admitted : db.BeginAdmitted execution token phase round room) :
    ∃ roomId, db.roomOfRound execution.roundId = some roomId ∧ db.Controls roomId token := by
  refine ⟨round.roomId, ?_, admitted.authorised.controls⟩
  simp [roomOfRound, admitted.stored]

variable {action : DiscussionAction}

theorem transact_fenced (holds : action.token = some token)
    (ended : db.transact action = .ok next) : db.Fenced action token := by
  cases action with
  | createRoom | joinAgent | assignFacilitator | markExecutionDispatched
  | markExecutionSucceededUncommitted | failUnboundExecution | markAcknowledged | markAckExpired
  | createRuntimeBindingTx | activateRuntimeBinding | takeoverRuntimeBinding | markBindingClosing
  | markBindingClosed => contradiction
  | appendUserMessage roomId roundId presented content stamp =>
    cases holds
    obtain ⟨message, ended⟩ := map_fst_ok ended
    obtain ⟨room, round, added, authorised, -⟩ := appendUserMessage_ok ended
    exact ⟨roomId, rfl, authorised.controls⟩
  | updateRoomSharedConfig roomId presented topic background now =>
    cases holds
    obtain ⟨changed, ended⟩ := map_fst_ok ended
    obtain ⟨room, authorised, -⟩ := updateRoomSharedConfig_ok ended
    exact ⟨roomId, rfl, authorised.controls⟩
  | setRoomRunState roomId presented runState now =>
    cases holds
    obtain ⟨room, authorised, -⟩ := setRoomRunState_ok ended
    exact ⟨roomId, rfl, authorised.controls⟩
  | createRound roomId presented participantOrder stamp =>
    cases holds
    obtain ⟨round, ended⟩ := map_fst_ok ended
    obtain ⟨room, added, authorised, -⟩ := createRound_ok ended
    exact ⟨roomId, rfl, authorised.controls⟩
  | transitionRound roomId roundId presented target =>
    cases holds
    obtain ⟨room, round, authorised, -⟩ := transitionRound_ok ended
    exact ⟨roomId, rfl, authorised.controls⟩
  | pauseRound roomId roundId presented reason =>
    cases holds
    obtain ⟨room, round, pausedFrom, authorised, -⟩ := pauseRound_ok ended
    exact ⟨roomId, rfl, authorised.controls⟩
  | resumeRound roomId roundId presented =>
    cases holds
    obtain ⟨room, round, pausedFrom, authorised, -⟩ := resumeRound_ok ended
    exact ⟨roomId, rfl, authorised.controls⟩
  | abortRound roomId roundId presented now =>
    cases holds
    obtain ⟨room, round, authorised, -⟩ := abortRound_ok ended
    exact ⟨roomId, rfl, authorised.controls⟩
  | skipParticipant roomId roundId presented now =>
    cases holds
    obtain ⟨result, ended⟩ := map_fst_ok ended
    obtain ⟨room, round, skipped, admitted, -⟩ := skipParticipant_ok ended
    exact ⟨roomId, rfl, (admitSkip_ok admitted).authorised.controls⟩
  | beginExecution execution presented now =>
    cases holds
    obtain ⟨round, room, admitted, -⟩ := beginExecution_ok ended
    exact admitted.fences
  | beginFocusExecution execution presented now =>
    cases holds
    obtain ⟨round, room, admitted, -⟩ := beginFocusExecution_ok ended
    exact admitted.fences
  | beginReportExecution execution presented now =>
    cases holds
    obtain ⟨room, aborted, idle, anchorRound, -, authorised, -⟩ := beginReportExecution_ok ended
    exact ⟨execution.roomId, rfl, authorised.controls⟩
  | commitModelMessage input stamp =>
    cases holds
    obtain ⟨outcome, ended⟩ := map_fst_ok ended
    obtain ⟨context, loaded, -⟩ := commitModelMessage_ok ended
    exact loaded.fences
  | commitSummary input stamp =>
    cases holds
    obtain ⟨outcome, ended⟩ := map_fst_ok ended
    obtain ⟨context, loaded, -⟩ := commitSummary_ok ended
    exact loaded.fences
  | commitFocusMessage input stamp =>
    cases holds
    obtain ⟨outcome, ended⟩ := map_fst_ok ended
    obtain ⟨context, loaded, -⟩ := commitFocusMessage_ok ended
    exact loaded.fences
  | commitReport input stamp =>
    cases holds
    obtain ⟨outcome, ended⟩ := map_fst_ok ended
    obtain ⟨execution, room, participant, found, authorised, -⟩ := commitReport_ok ended
    exact ⟨execution.roomId, by simp [fencedRoom, found], authorised.controls⟩
  | discardExecution input now =>
    cases holds
    obtain ⟨outcome, ended⟩ := map_fst_ok ended
    obtain ⟨context, loaded, -⟩ := discardExecution_ok ended
    exact loaded.fences
  | failExecution executionId presented error kind pause now =>
    cases holds
    obtain ⟨room, ended⟩ := map_fst_ok ended
    obtain ⟨context, loaded, -⟩ := failExecution_ok ended
    exact loaded.fences

structure FactsKept (db next : Database) : Prop where
  rooms : next.rooms = db.rooms
  rounds : next.rounds = db.rounds
  messages : next.messages = db.messages
  summaries : next.summaries = db.summaries
  reports : next.reports = db.reports

section

omit [Digest]

theorem FactsKept.refl : db.FactsKept db := ⟨rfl, rfl, rfl, rfl, rfl⟩

theorem FactsKept.putExecution :
    db.FactsKept (db.putExecution execution) := ⟨rfl, rfl, rfl, rfl, rfl⟩

theorem FactsKept.settleAck {settled : AckState} {now : JsString}
    (ended : db.settleAck executionId settled now = .ok next) : db.FactsKept next := by
  obtain ⟨execution, -, ⟨-, rfl⟩ | ⟨-, rfl⟩⟩ := settleAck_ok ended
  · exact .putExecution
  · exact .refl

end

theorem FactsKept.step (tokenless : db.WithoutToken action)
    (stepped : db.step action = some next) : db.FactsKept next := by
  cases action with
  | markExecutionDispatched executionId hostInstanceId executionScopeId dispatchState now =>
    refine settle_keeps .refl (fun {after} ended => ?_) stepped
    obtain ⟨execution, -, -, rfl⟩ := markExecutionDispatched_ok ended
    exact .putExecution
  | markExecutionSucceededUncommitted executionId effectiveModel usage finalEventSeq dispatchState
      toolState now =>
      refine settle_keeps .refl (fun {after} ended => ?_) stepped
      obtain ⟨execution, -, -, rfl⟩ := markExecutionSucceededUncommitted_ok ended
      exact .putExecution
  | markAcknowledged executionId now =>
    exact settle_keeps .refl (fun ended => .settleAck ended) stepped
  | markAckExpired executionId now =>
    exact settle_keeps .refl (fun ended => .settleAck ended) stepped
  | failUnboundExecution executionId input now =>
    refine settleWith_keeps .refl (fun {after result} ended => ?_) stepped
    obtain ⟨execution, found, rfl | ⟨unbound, -⟩⟩ := failUnboundExecution_ok ended
    · exact .refl
    · have bound := tokenless execution found
      rw [unbound] at bound
      contradiction
  | _ => exact tokenless.elim

/-- A token that does not control the room throws and changes nothing, and what
takes no token keeps the discussion facts. -/
theorem transactions_fenced (db : Database) (action : DiscussionAction) :
    (∀ token, action.token = some token →
        (∀ roomId, db.fencedRoom action = some roomId → ¬ db.Controls roomId token) →
        (∃ failure, db.transact action = .error failure) ∧ db.step action = some db) ∧
      (db.WithoutToken action → ∀ next, db.step action = some next → db.FactsKept next) := by
  constructor
  · intro token holds stale
    cases ended : db.transact action with
    | ok next =>
      obtain ⟨roomId, fenced, controls⟩ := transact_fenced holds ended
      exact absurd controls (stale roomId fenced)
    | error failure =>
      refine ⟨⟨failure, rfl⟩, ?_⟩
      rw [step_eq_settle, ended]
      rfl
  · intro tokenless next stepped
    exact .step tokenless stepped

end Database

def takenOver : List DiscussionAction :=
  seedActions ++ [.takeoverRuntimeBinding (js "binding") ⟨js "second", 2⟩ (js "t")]

def lateAbort : DiscussionAction := .abortRound (js "room") (js "round") sampleToken (js "t")

def lateDispatch : DiscussionAction :=
  .markExecutionDispatched (js "e1") (js "host") (js "scope") .accepted (js "t")

theorem transactions_fenced_takeover :
    ∃ db, execute (@step sampleDigest) .empty takenOver = some db ∧
      (∃ failure, @transact db sampleDigest lateAbort = .error failure) ∧
      @step sampleDigest db lateAbort = some db ∧
      ∃ next, @step sampleDigest db lateDispatch = some next ∧ db.FactsKept next := by
  have ended : (execute (@step sampleDigest) .empty takenOver).any (fun db =>
      ¬ db.Controls (js "room") sampleToken ∧
        (@step sampleDigest db lateDispatch).isSome = true) = true := by decide
  obtain ⟨db, ran, facts⟩ := (Option.any_eq_true _ _).mp ended
  obtain ⟨stale, dispatches⟩ := of_decide_eq_true facts
  obtain ⟨next, stepped⟩ := Option.isSome_iff_exists.mp dispatches
  obtain ⟨refused, -⟩ := @transactions_fenced sampleDigest db lateAbort
  obtain ⟨-, keeps⟩ := @transactions_fenced sampleDigest db lateDispatch
  obtain ⟨throws, unchanged⟩ := refused sampleToken rfl fun roomId fenced => by
    cases fenced
    exact stale
  exact ⟨db, ran, throws, unchanged, next, stepped, keeps trivial next stepped⟩

end CouncilKit.Discussion
