import CouncilKit.Discussion.AppendOnly

namespace CouncilKit.Discussion

open Data
open Host

namespace System

variable {s : System} {actions : List SystemAction}

/-- The items of a room's dispatches extend each other, and no session that
applied some of them takes a later one for a replaced history. -/
structure HistoryAppends [Digest] (s : System) : Prop where
  items : s.sent.Pairwise fun earlier later => earlier.roomId = later.roomId →
    earlier.snapshot.items <+: later.snapshot.items
  reconciles : ∀ before later after, s.sent = before ++ later :: after → ∀ records,
    AppliedFrom (fun snapshot => ∃ earlier ∈ before, earlier.roomId = later.roomId ∧
      earlier.snapshot = snapshot) records →
    ∀ participantId epoch window, reconcile records participantId later.snapshot epoch window ≠
      .needs_rebase .history_replaced

theorem Held.items (held : s.Held) : s.sent.Pairwise fun earlier later =>
    earlier.roomId = later.roomId → earlier.snapshot.items <+: later.snapshot.items := by
  refine held.appended.imp_of_mem fun {earlier later} member other grown same => ?_
  rw [(held.sent earlier member).items, (held.sent later other).items]
  exact (grown same).map _

/-- In a run from the start whose steps are orderly, what is sent to a room only appends. -/
theorem snapshots_append [Digest] (run : Run System.step System.Orderly System.initial actions s) :
    s.HistoryAppends := by
  have held : s.Held :=
    run.invariant (fun held orderly stepped => held.step orderly stepped) Held.initial
  refine ⟨held.items, fun before later after split records applied participantId epoch window => ?_⟩
  have items := held.items
  rw [split] at items
  obtain ⟨-, -, grown⟩ := List.pairwise_append.mp items
  refine reconcile_appended applied fun snapshot known => ?_
  obtain ⟨earlier, member, own, rfl⟩ := known
  exact grown earlier member later List.mem_cons_self own

end System

/-- A short digest that tells items of different ids apart. -/
@[reducible] def plainDigest : Digest := ⟨List.take 64⟩

def sampleUuid (suffix : JsString) : JsString := js "00000000-0000-4000-8000-0000000000" ++ suffix

def roomUuid : JsString := sampleUuid (js "00")

def roundUuid : JsString := sampleUuid (js "0a")

def facilitatorUuid : JsString := sampleUuid (js "0f")

def speakerUuid : JsString := sampleUuid (js "01")

def stampAt (now suffix : JsString) : Stamp := ⟨now, sampleUuid suffix⟩

def openingActions : List SystemAction :=
  ([.createRoom (js "topic") [] (stampAt (js "0") (js "00")),
    .joinAgent roomUuid ⟨js "agent-f", js "m", js "s"⟩ (stampAt (js "0") (js "0f")),
    .joinAgent roomUuid ⟨js "agent-p", js "m", js "s"⟩ (stampAt (js "0") (js "01")),
    .assignFacilitator roomUuid facilitatorUuid,
    .createRuntimeBindingTx roomUuid (js "request") (stampAt (js "0") (js "0b")),
    .activateRuntimeBinding (sampleUuid (js "0b")) (js "host") (js "scope") sampleToken (js "0"),
    .createRound roomUuid sampleToken [speakerUuid] (stampAt (js "0") (js "0a")),
    .transitionRound roomUuid roundUuid sampleToken .prewarming,
    .transitionRound roomUuid roundUuid sampleToken .running] : List DiscussionAction).map .transact

def sendUserMessage (now suffix : JsString) : SystemAction :=
  .transact (.appendUserMessage roomUuid roundUuid sampleToken (js "text") (stampAt now suffix))

def dispatchTurn (turnId : Nat) (participantId executionId now : JsString) (kind : ResultKind) :
    List SystemAction :=
  [.start turnId roomUuid roundUuid participantId kind none, .read turnId, .read turnId,
    .read turnId, .read turnId, .read turnId, .create turnId (js "instruction") executionId now,
    .persist turnId sampleToken now, .send turnId]

/-- The answer to a dispatch arrives, and the focus commits if the room did not change. -/
def finishFocus (executionId now suffix : JsString) : List SystemAction :=
  ([.markExecutionDispatched executionId (js "host") (js "scope") .accepted now,
    .markExecutionSucceededUncommitted executionId none none 1 .accepted .none now,
    .commitFocusMessage ⟨executionId, sampleToken, js "text", none, none, 1, .accepted, .none⟩
      (stampAt now suffix)] : List DiscussionAction).map .transact

def transcript (s : System) : List (JsString × List JsString) :=
  s.sent.map fun dispatch => (dispatch.roomId, dispatch.snapshot.items.map (·.id))

theorem System.HistoryAppends.transcript [Digest] {s : System} (appends : s.HistoryAppends) :
    (transcript s).Pairwise fun earlier later => earlier.1 = later.1 → earlier.2 <+: later.2 :=
  List.pairwise_map.mpr (appends.items.imp fun grown same => (grown same).map _)

/-- The only speaker fails and is skipped, and the user has the last word. -/
def skippedActions : List SystemAction :=
  openingActions ++ [sendUserMessage (js "1") (js "11")] ++
    dispatchTurn 0 facilitatorUuid (js "e0") (js "1") .focus ++
    finishFocus (js "e0") (js "2") (js "12") ++
    dispatchTurn 1 speakerUuid (js "e1") (js "2") .message ++
    [.transact (.failExecution (js "e1") sampleToken
        (fun _ => ⟨js "HOST_LOST", js "dispatch", js "lost", true, none, none⟩) .failed true
        (js "3")),
      .transact (.skipParticipant roomUuid roundUuid sampleToken (js "4")),
      sendUserMessage (js "4") (js "13"),
      .transact (.resumeRound roomUuid roundUuid sampleToken)] ++
    dispatchTurn 2 facilitatorUuid (js "e2") (js "5") .summary

theorem snapshots_append_skip :
    ∃ s, execute (guarded (@System.step plainDigest) System.Orderly) System.initial
        skippedActions = some s ∧
      transcript s = [(roomUuid, [sampleUuid (js "11")]),
        (roomUuid, [sampleUuid (js "11"), sampleUuid (js "12")]),
        (roomUuid, [sampleUuid (js "11"), sampleUuid (js "12"), skipId roundUuid speakerUuid,
          sampleUuid (js "13")])] ∧
      @System.HistoryAppends plainDigest s := by
  have ended : (execute (guarded (@System.step plainDigest) System.Orderly) System.initial
      skippedActions).map transcript = some [(roomUuid, [sampleUuid (js "11")]),
        (roomUuid, [sampleUuid (js "11"), sampleUuid (js "12")]),
        (roomUuid, [sampleUuid (js "11"), sampleUuid (js "12"), skipId roundUuid speakerUuid,
          sampleUuid (js "13")])] := by decide +kernel
  obtain ⟨s, ran, items⟩ := Option.map_eq_some_iff.mp ended
  exact ⟨s, ran, items, @System.snapshots_append s skippedActions plainDigest (execute_guarded ran)⟩

/-- A second message has the time of the first and a smaller id; it makes the
focus stale, and the next one is given both. -/
def clashingActions : List SystemAction :=
  openingActions ++ [sendUserMessage (js "1") (js "22")] ++
    dispatchTurn 0 facilitatorUuid (js "e0") (js "1") .focus ++
    [sendUserMessage (js "1") (js "11")] ++ finishFocus (js "e0") (js "2") (js "12") ++
    [.transact (.resumeRound roomUuid roundUuid sampleToken)] ++
    dispatchTurn 1 facilitatorUuid (js "e1") (js "2") .focus

/-- What the Host answers to a dispatch when the session applied the one before. -/
def answers [Digest] : List Dispatch → List ReconcileOutcome
  | earlier :: later :: rest =>
    reconcile (recordApplied .empty facilitatorUuid earlier.snapshot (js "e0") 1 none)
      facilitatorUuid later.snapshot 1 none :: answers (later :: rest)
  | _ => []

theorem snapshots_replaced :
    ∃ s, Run (@System.step plainDigest) anyStep System.initial clashingActions s ∧
      transcript s = [(roomUuid, [sampleUuid (js "22")]),
        (roomUuid, [sampleUuid (js "11"), sampleUuid (js "22")])] ∧
      @answers plainDigest s.sent = [.needs_rebase .history_replaced] ∧
      ¬ @System.HistoryAppends plainDigest s := by
  have ended : (execute (@System.step plainDigest) System.initial clashingActions).map (fun s =>
      (transcript s, @answers plainDigest s.sent)) =
        some ([(roomUuid, [sampleUuid (js "22")]),
          (roomUuid, [sampleUuid (js "11"), sampleUuid (js "22")])],
          [.needs_rebase .history_replaced]) := by decide +kernel
  obtain ⟨s, ran, found⟩ := Option.map_eq_some_iff.mp ended
  obtain ⟨items, answer⟩ := Prod.mk.inj found
  refine ⟨s, execute_run ran fun _ _ _ => trivial, items, answer, fun appends => ?_⟩
  have grown := @System.HistoryAppends.transcript plainDigest s appends
  rw [items] at grown
  exact absurd grown (by decide)

end CouncilKit.Discussion
