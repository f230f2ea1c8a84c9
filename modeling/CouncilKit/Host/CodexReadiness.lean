import CouncilKit.Host.CodexExecutions

namespace CouncilKit.Host.Codex

open Data Option CodexDriver Bool

/-- Process and thread stand, and no driver becomes ready. -/
structure Steady (before after : CodexDriver) : Prop where
  servers : after.servers = before.servers
  process : after.process = before.process
  threadId : after.threadId = before.threadId
  ready : after.capabilityReady = true → before.capabilityReady = true
  busy : after.state = .busy → before.state = .busy ∧ after.activeTurn = before.activeTurn

variable {driver first second third : CodexDriver} {place : Nat} {turn : ActiveTurn}

theorem Steady.refl (driver : CodexDriver) : Steady driver driver :=
  ⟨rfl, rfl, rfl, id, fun busy => ⟨busy, rfl⟩⟩

theorem Steady.trans (early : Steady first second) (late : Steady second third) : Steady first third where
  servers := late.servers.trans early.servers
  process := late.process.trans early.process
  threadId := late.threadId.trans early.threadId
  ready := early.ready ∘ late.ready
  busy := by
    intro busy
    obtain ⟨secondBusy, lateTurn⟩ := late.busy busy
    obtain ⟨firstBusy, earlyTurn⟩ := early.busy secondBusy
    exact ⟨firstBusy, lateTurn.trans earlyTurn⟩

theorem Steady.unready (steady : Steady first second) (unready : first.capabilityReady = false) :
    second.capabilityReady = false := by
  apply eq_false_of_ne_true
  intro ready
  rw [steady.ready ready] at unready
  contradiction

theorem ready_of_busy (busy : driver.state = .busy) : driver.capabilityReady = true := by
  rw [capabilityReady, busy]
  rfl

theorem Calm.steady (calm : Calm first second) : Steady first second := by
  refine ⟨calm.servers, calm.process, calm.threadId, ?_, ?_⟩
  · intro ready
    rw [capabilityReady, ← calm.ready ready]
    exact ready
  · intro busy
    have state := calm.ready (ready_of_busy busy)
    exact ⟨state.symm.trans busy, calm.activeTurn⟩

namespace CodexDriver

theorem steady_setTurn : Steady driver (driver.setTurn place turn) :=
  ⟨rfl, rfl, rfl, id, fun busy => ⟨busy, rfl⟩⟩

theorem steady_onActive (change : ActiveTurn → ActiveTurn) : Steady driver (driver.onActive change) := by
  rw [onActive]
  split
  · exact .refl driver
  · split
    · exact .refl driver
    · exact steady_setTurn

theorem steady_emitTerminal (event : ActiveTurn → DriverEvent) (frame : Option (Option Nat)) :
    Steady driver (driver.emitTerminal place event frame) := by
  rw [emitTerminal]
  split
  · exact .refl driver
  · split
    · exact .refl driver
    · refine ⟨rfl, rfl, rfl, ?_, ?_⟩
      · intro ready
        by_cases busy : driver.state = .busy
        · exact ready_of_busy busy
        · simpa only [capabilityReady, if_neg busy] using ready
      · intro busy
        simp only at busy
        split at busy
        · cases busy
        · rename_i idle
          exact absurd busy idle

theorem steady_failWith (code message : JsString) (phase : ErrorPhase)
    (frame : Option (Option Nat)) : Steady driver (driver.failWith place code phase message frame) :=
  steady_emitTerminal _ _

theorem steady_interruptTurn (reason : JsString) (frame : Option (Option Nat)) :
    Steady driver (driver.interruptTurn place reason frame) :=
  steady_emitTerminal _ _

theorem steady_handleTurnCompleted (origin : Option Nat) (params : Json) :
    Steady driver (driver.handleTurnCompleted place origin params) := by
  rw [handleTurnCompleted]
  split
  · exact .refl driver
  · simp only
    split
    · exact steady_interruptTurn _ _
    · split
      · split
        · exact .refl driver
        · exact steady_failWith _ _ _ _
      · split
        · exact steady_failWith _ _ _ _
        · exact steady_emitTerminal _ _

theorem steady_serverError (params : Json) : Steady driver (driver.serverError params) := by
  simp only [serverError]
  split
  · split
    · exact steady_failWith _ _ _ _
    · exact .refl driver
  · exact .refl driver

theorem steady_tokenUsage (params : Json) : Steady driver (driver.tokenUsage params) := by
  have notes := @steady_onActive driver fun turn =>
    turn.noteUsage (memberAt (memberOf params (js "tokenUsage")) (js "last"))
  have windows (noted : CodexDriver) (modelContextWindow : Option Json) :
      Steady noted { noted with modelContextWindow } :=
    ⟨rfl, rfl, rfl, id, fun busy => ⟨busy, rfl⟩⟩
  simp only [tokenUsage]
  split
  · split
    · exact notes.trans (windows _ _)
    · exact notes
  · split
    · exact notes
    · exact notes.trans (windows _ _)
  · exact notes

theorem steady_handleNotification {origin : Option Nat} {method : JsString} {params : Json}
    (keeps : method ≠ js "thread/compacted") :
    Steady driver (driver.handleNotification origin method params) := by
  have armed := @steady_onActive driver (·.armIdleTimer)
  simp only [handleNotification]
  split
  · split
    · split
      · exact armed
      · exact armed.trans (steady_onActive _)
    · exact armed
  · split
    · split
      · split
        · exact armed.trans (steady_onActive _)
        · exact armed
      · exact armed
    · split
      · exact armed.trans (steady_onActive _)
      · split
        · exact armed.trans (steady_onActive _)
        · split
          · exact armed.trans (steady_tokenUsage _)
          · split
            · split
              · split
                · exact armed.trans (steady_handleTurnCompleted _ _)
                · exact armed
              · exact armed
            · split
              · exact armed.trans (steady_serverError _)
              · exact armed

theorem steady_resolve (result : Option Json) (who : PendingRequest) :
    Steady driver (driver.resolve result who) := by
  cases who with
  | turnStart place =>
    rw [resolve]
    split
    · exact .refl driver
    · exact steady_setTurn
  | boot place => exact (calm_resolve rfl result).steady
  | cancel place => exact (calm_resolve rfl result).steady
  | forgotten => exact (calm_resolve rfl result).steady

theorem steady_reject (failure : Failure) (who : PendingRequest) :
    Steady driver (driver.reject failure who) := by
  cases who with
  | turnStart place =>
    rw [reject]
    split
    · exact steady_failWith _ _ _ _
    · exact .refl driver
  | boot place => exact (calm_reject rfl failure).steady
  | cancel place => exact (calm_reject rfl failure).steady
  | forgotten => exact (calm_reject rfl failure).steady

theorem steady_failAllPending (failure : Failure) : Steady driver (driver.failAllPending failure) := by
  have rejects (entries : List (JsString × PendingRequest)) (start : CodexDriver) :
      Steady start (entries.foldl (fun driver entry => driver.reject failure entry.2) start) := by
    induction entries generalizing start with
    | nil => exact .refl start
    | cons entry rest ih => exact (steady_reject failure entry.2).trans (ih _)
  obtain ⟨servers, process, thread, ready, busy⟩ := rejects driver.pending driver
  exact ⟨servers, process, thread, ready, busy⟩

theorem steady_turnWritten (failed : Option (JsString × JsString)) :
    Steady driver (driver.turnWritten place failed) := by
  rw [turnWritten]
  split
  · exact .refl driver
  · rename_i turn found
    split
    · rename_i id message
      have drops : Steady driver { driver.setTurn place { turn with writing := false } with
          pending := driver.pending.filter (·.1 ≠ id) } :=
        ⟨rfl, rfl, rfl, fun ready => ready, fun busy => ⟨busy, rfl⟩⟩
      simp only
      split
      · exact drops.trans (steady_failWith _ _ _ _)
      · exact drops
    · exact steady_setTurn

theorem steady_idleTimeout : Steady driver (driver.idleTimeout place) := by
  rw [idleTimeout]
  split
  · exact steady_emitTerminal _ _
  · exact .refl driver

theorem steady_dispatchTimeout : Steady driver (driver.dispatchTimeout place) := by
  rw [dispatchTimeout]
  split
  · exact steady_failWith _ _ _ _
  · exact .refl driver

theorem steady_cancel (executionId : JsString) : Steady driver (driver.cancel executionId) := by
  rw [cancel]
  split
  · exact .refl driver
  · split
    · exact .refl driver
    · rename_i place _ _ turn found
      have latches (cancels : List Cancel) : Steady driver { driver.latch place turn with cancels } :=
        ⟨rfl, rfl, rfl, id, fun busy => ⟨busy, rfl⟩⟩
      simp only
      split
      · exact .refl driver
      · split
        · exact (latches _).trans (calm_sendRequest rfl _ _).steady
        · exact latches _

theorem steady_latchActive : Steady driver driver.latchActive := by
  rw [latchActive]
  split
  · exact .refl driver
  · split
    · exact .refl driver
    · split
      · exact steady_setTurn.trans (calm_sendRequest rfl _ _).steady
      · exact steady_setTurn

def HasLiveProcess (driver : CodexDriver) : Prop :=
  ∃ server adopted, driver.process = some server ∧ driver.servers[server]? = some adopted ∧
    adopted.exited = false

structure Usable (driver : CodexDriver) : Prop where
  live : driver.process.isSome → driver.HasLiveProcess
  ready : driver.capabilityReady = true → driver.process.isSome ∧ driver.threadId.isSome
  busy : driver.state = .busy → driver.activeTurn.isSome

theorem Usable.steady (usable : first.Usable) (steady : Steady first second) : second.Usable where
  live := by
    rw [HasLiveProcess, steady.process, steady.servers]
    exact usable.live
  ready := by
    intro ready
    rw [steady.process, steady.threadId]
    exact usable.ready (steady.ready ready)
  busy := by
    intro busy
    obtain ⟨wasBusy, same⟩ := steady.busy busy
    rw [same]
    exact usable.busy wasBusy

theorem usable_of_gone (gone : driver.process = none) (unready : driver.capabilityReady = false) :
    driver.Usable where
  live := by
    rw [gone]
    exact nofun
  ready := by
    rw [unready]
    exact nofun
  busy := by
    intro busy
    rw [ready_of_busy busy] at unready
    contradiction

theorem usable_respawn (unready : driver.capabilityReady = false) : driver.respawn.Usable := by
  simp only [respawn]
  split
  · exact usable_of_gone rfl unready
  · split
    · exact usable_of_gone rfl rfl
    · exact usable_of_gone rfl unready

theorem usable_compacted (usable : driver.Usable) (unready : driver.capabilityReady = false) :
    driver.compacted.Usable := by
  have drops {settled : CodexDriver} (steady : Steady driver settled) : Usable
      { settled with sessionEpoch := settled.sessionEpoch + 1, threadId := none } := by
    have still := steady.unready unready
    have kept := usable.steady steady
    refine ⟨kept.live, fun ready => ?_, kept.busy⟩
    have isReady : settled.capabilityReady = true := ready
    rw [still] at isReady
    contradiction
  simp only [compacted]
  split
  · split
    · exact drops (steady_emitTerminal _ _)
    · exact drops (.refl driver)
  · exact drops (.refl driver)

theorem usable_onProcessExit : driver.onProcessExit.Usable := by
  have gone {first second : CodexDriver} (process : first.process = none)
      (unready : first.capabilityReady = false) (steady : Steady first second) : second.Usable :=
    usable_of_gone (steady.process.trans process) (steady.unready unready)
  simp only [onProcessExit]
  generalize startIs : (if isClosingOrClosed _ = true then _ else _ : CodexDriver) = start
  have process : start.process = none := by
    rw [← startIs]
    split <;> rfl
  have unready : start.capabilityReady = false := by
    rw [← startIs]
    split
    · rename_i closing
      rw [isClosingOrClosed, or_eq_true, decide_eq_true_eq, decide_eq_true_eq] at closing
      rw [capabilityReady]
      cases closing with
      | inl isClosing => rw [isClosing]; rfl
      | inr isClosed => rw [isClosed]; rfl
    · rfl
  have fails := @steady_failAllPending start
    (if start.isClosingOrClosed = true then closedDuringPrewarm
      else { message := js "app-server exited" })
  split
  · exact gone process unready fails
  · split
    · exact gone process unready fails
    · split
      · exact gone process unready (fails.trans (steady_interruptTurn _ _))
      · exact gone process unready ((fails.trans steady_setTurn).trans (steady_interruptTurn _ _))

theorem usable_tearDown (unready : driver.capabilityReady = false) : (driver.tearDown place).Usable := by
  simp only [tearDown]
  split
  · exact usable_of_gone rfl unready
  · exact usable_of_gone rfl rfl

section

variable (usable : driver.Usable)

include usable

theorem usable_close : driver.close.Usable := by
  have closing : Usable { driver with state := .closing } := ⟨usable.live, nofun, nofun⟩
  have latches := @steady_latchActive { driver with state := .closing }
  have latched := closing.steady latches
  simp only [close]
  split
  · exact latched.steady ⟨rfl, rfl, rfl, id, fun busy => ⟨busy, rfl⟩⟩
  · apply usable_tearDown
    exact latches.unready rfl

theorem usable_spawned (failure : Option Failure) : (driver.spawned place failure).Usable := by
  cases failure with
  | some failure =>
    exact usable.steady ((calm_clearSpawn place).trans (calm_failBoot place failure)).steady
  | none =>
    rw [spawned]
    split
    · exact usable.steady (calm_setStage place _).steady
    · have cleared := usable.steady (@calm_clearSpawn driver place).steady
      refine Usable.steady ?_ (calm_setStage place _).steady
      refine ⟨fun _ => ?_, fun ready => ?_, cleared.busy⟩
      · exact ⟨_, AppServer.mk false false, rfl, List.getElem?_concat_length, rfl⟩
      · exact ⟨rfl, (cleared.ready ready).2⟩

theorem usable_threadAnswered {modelId : JsString} {thread : Option Json}
    (answered : isTruthy (memberAt (memberAt thread (js "thread")) (js "id")) = true → driver.process.isSome = true) :
    (driver.threadAnswered place modelId thread).Usable := by
  simp only [threadAnswered]
  split
  · exact usable.steady (calm_failBoot place _).steady
  · rename_i named
    have isNamed : isTruthy (memberAt (memberAt thread (js "thread")) (js "id")) = true := by
      simpa using named
    refine Usable.steady ?_ (calm_setStage place _).steady
    refine ⟨usable.live, fun _ => ⟨answered isNamed, ?_⟩, fun same => by cases same⟩
    cases id : memberAt (memberAt thread (js "thread")) (js "id") with
    | none =>
      rw [id] at isNamed
      contradiction
    | some value => rfl

theorem usable_execute (input : ExecuteInput) : (driver.execute input).Usable := by
  rw [execute]
  split
  · exact usable
  · split
    · rename_i server threadId process thread _
      refine Usable.steady ?_ (calm_request _ _ _).steady
      refine ⟨usable.live, fun _ => ?_, fun _ => rfl⟩
      exact ⟨by rw [process]; rfl, by rw [thread]; rfl⟩
    · exact usable.steady ⟨rfl, rfl, rfl, id, fun busy => ⟨busy, rfl⟩⟩

end

/-- A step that may take process or thread from a driver which goes on reporting
ready: a compaction, a replacement of the process, a teardown after a late handshake,
and a handshake that ends without a process. -/
def keepsReady (driver : CodexDriver) : Event → Bool
  | .frame server _ message =>
    match driver.servers[server]?, driver.route message with
    | some adopted, .notification method _ =>
      adopted.overflow || method ≠ js "thread/compacted" || !driver.capabilityReady
    | _, _ => true
  | .limitExceeded server =>
    driver.servers[server]?.all (·.overflow) || !driver.capabilityReady ||
      driver.activeTurn.any fun place => driver.turns[place]?.any (·.cancelling)
  | .turnTimer turn => !driver.deadlineMaySettle turn || !driver.capabilityReady
  | .poll cancel expired =>
    match driver.cancels[cancel]? with
    | some cancel => !expired || driver.activeTurn ≠ some cancel.turn || !driver.capabilityReady
    | none => true
  | .spawnSettled _ => !driver.capabilityReady
  | .goOn boot =>
    match driver.boots[boot]? with
    | some ⟨_, .awaiting .thread _ (.resolved thread)⟩ =>
      !isTruthy (memberAt (memberAt thread (js "thread")) (js "id")) || driver.process.isSome
    | _ => true
  | _ => true

def KeepsReady (driver : CodexDriver) (event : Event) : Prop := driver.keepsReady event = true

instance (driver : CodexDriver) (event : Event) : Decidable (driver.KeepsReady event) :=
  inferInstanceAs (Decidable (_ = _))

variable {event : Event} {next : CodexDriver}

section

variable (usable : driver.Usable)

include usable

theorem usable_onFrame {origin : Option Nat} {message : Json}
    (keeps : ∀ method params, driver.route message = .notification method params → method = js "thread/compacted" → driver.capabilityReady = false) :
    (driver.onFrame origin message).Usable := by
  simp only [onFrame]
  split
  · rename_i key who _
    have takes : Steady driver { driver with pending := driver.pending.filter (·.1 ≠ key) } :=
      ⟨rfl, rfl, rfl, id, fun busy => ⟨busy, rfl⟩⟩
    split
    · exact usable.steady (takes.trans (steady_reject _ who))
    · exact usable.steady (takes.trans (steady_resolve _ who))
  · exact usable.steady (calm_write _).steady
  · rename_i method params routed
    by_cases isCompacted : method = js "thread/compacted"
    · have armed := @steady_onActive driver (·.armIdleTimer)
      have unready := armed.unready (keeps method params routed isCompacted)
      have compacts := usable_compacted (usable.steady armed) unready
      rw [isCompacted]
      exact compacts
    · exact usable.steady (steady_handleNotification isCompacted)
  · exact usable

theorem usable_limitExceeded
    (keeps : driver.capabilityReady = false ∨ (driver.activeTurn.any fun place => driver.turns[place]?.any (·.cancelling)) = true) :
    driver.limitExceeded.Usable := by
  rw [limitExceeded]
  split
  · rename_i idle
    cases keeps with
    | inl unready => exact usable_respawn unready
    | inr cancelling =>
      rw [idle] at cancelling
      contradiction
  · rename_i place active
    split
    · exact usable
    · rename_i going
      cases keeps with
      | inl unready => exact usable_respawn ((steady_failWith _ _ _ _).unready unready)
      | inr cancelling =>
        rw [active, any_some] at cancelling
        exact absurd cancelling going

theorem usable_poll {turn : Nat} {expired : Bool}
    (keeps : expired = true → driver.activeTurn = some turn → driver.capabilityReady = false) :
    (driver.poll place turn expired).Usable := by
  simp only [poll]
  split
  · exact usable.steady (calm_setCancel place _).steady
  · rename_i active
    split
    · rename_i isExpired
      have unready := keeps isExpired (not_ne_iff.mp active)
      apply usable_respawn
      refine ((calm_setCancel place _).steady.trans (steady_interruptTurn _ _)).unready ?_
      split <;> exact unready
    · exact usable

theorem usable_turnTimeout
    (keeps : driver.deadlineMaySettle place = true → driver.capabilityReady = false) :
    (driver.turnTimeout place).Usable := by
  rw [turnTimeout]
  split
  · rename_i settles
    exact usable_respawn ((steady_interruptTurn _ _).unready (keeps settles))
  · exact usable

theorem usable_timerStep {timer : ActiveTurn → Bool} {fired : ActiveTurn → ActiveTurn}
    {callback : CodexDriver → CodexDriver}
    (stepped : driver.timerStep place timer fired callback = some next)
    (calls : ∀ turn, driver.turns[place]? = some turn → (driver.setTurn place (fired turn)).Usable → (callback (driver.setTurn place (fired turn))).Usable) :
    next.Usable := by
  rw [timerStep] at stepped
  split at stepped
  · rename_i turn found
    split at stepped
    · cases stepped
      exact calls turn found (usable.steady steady_setTurn)
    · contradiction
  · contradiction

end

theorem usable_bootStep {stands : Stage → Bool} {after : CodexDriver → CodexDriver}
    (stepped : driver.bootStep place stands after = some next)
    (moves : (after driver).Usable) : next.Usable := by
  rw [bootStep] at stepped
  split at stepped
  · split at stepped
    · cases stepped
      exact moves
    · contradiction
  · contradiction

theorem deadlineMaySettle_fired (found : driver.turns[place]? = some turn) :
    (driver.setTurn place { turn with turnTimer := false }).deadlineMaySettle place =
      driver.deadlineMaySettle place := by
  have bound := (List.getElem?_eq_some_iff.mp found).1
  simp only [deadlineMaySettle, setTurn, List.getElem?_set_self bound, found]
  rfl

theorem usable_overflow {server : AppServer} (usable : driver.Usable)
    (adopted : driver.servers[place]? = some server) :
    (driver.setServer place { server with overflow := true }).Usable := by
  refine ⟨fun standing => ?_, usable.ready, usable.busy⟩
  obtain ⟨current, live, process, found, running⟩ := usable.live standing
  by_cases same : current = place
  · subst same
    rw [adopted, some_inj] at found
    refine ⟨current, { server with overflow := true }, process, ?_, ?_⟩
    · exact List.getElem?_set_self (List.getElem?_eq_some_iff.mp adopted).1
    · rw [← running, ← found]
  · exact ⟨current, live, process, (List.getElem?_set_ne (Ne.symm same)).trans found, running⟩

theorem usable_goOn {request : Request} {modelId : JsString} {answer : Answer} (usable : driver.Usable)
    (keeps : ∀ thread, request = .thread → answer = .resolved thread →
      isTruthy (memberAt (memberAt thread (js "thread")) (js "id")) = true →
        driver.process.isSome = true) : (driver.goOn place request modelId answer).Usable := by
  by_cases early : request = .thread
  · subst early
    cases answer with
    | waiting => exact usable
    | rejected failure => exact usable.steady (calm_failBoot place failure).steady
    | resolved thread => exact usable_threadAnswered usable (keeps thread rfl rfl)
  · exact usable.steady (calm_goOn early place modelId answer).steady

theorem usable_step (usable : driver.Usable) (keeps : driver.KeepsReady event)
    (stepped : driver.step event = some next) : next.Usable := by
  rw [KeepsReady] at keeps
  cases event with
  | prewarm input =>
    cases stepped
    exact usable.steady (calm_prewarm input).steady
  | execute input =>
    cases stepped
    exact usable_execute usable input
  | cancel executionId =>
    cases stepped
    exact usable.steady (steady_cancel executionId)
  | close =>
    cases stepped
    exact usable_close usable
  | idleTimer place =>
    rw [step] at stepped
    exact usable_timerStep usable stepped fun _ _ usable => usable.steady steady_idleTimeout
  | turnTimer place =>
    rw [step] at stepped
    refine usable_timerStep usable stepped fun turn found usable => usable_turnTimeout usable ?_
    intro settles
    rw [deadlineMaySettle_fired found] at settles
    rw [keepsReady, settles, Bool.not_true, Bool.false_or, Bool.not_eq_true'] at keeps
    exact keeps
  | dispatchTimer place =>
    rw [step] at stepped
    exact usable_timerStep usable stepped fun _ _ usable => usable.steady steady_dispatchTimeout
  | turnWritten place failed =>
    rw [step] at stepped
    split at stepped
    · cases stepped
      exact usable.steady (steady_turnWritten failed)
    · contradiction
  | frame place origin message =>
    rw [step, serverStep, map_eq_some_iff] at stepped
    obtain ⟨server, adopted, rfl⟩ := stepped
    split
    · exact usable
    · rename_i fits
      refine usable_onFrame usable fun method params routed isCompacted => ?_
      rw [keepsReady, adopted, routed] at keeps
      simpa [eq_false_of_ne_true fits, isCompacted] using keeps
  | limitExceeded place =>
    rw [step, serverStep, map_eq_some_iff] at stepped
    obtain ⟨server, adopted, rfl⟩ := stepped
    split
    · exact usable
    · rename_i fits
      refine usable_limitExceeded (usable_overflow usable adopted) ?_
      rw [keepsReady, adopted, all_some, eq_false_of_ne_true fits, Bool.false_or,
        or_eq_true, not_eq_true'] at keeps
      exact keeps
  | processExit place =>
    rw [step, serverStep, map_eq_some_iff] at stepped
    obtain ⟨server, -, rfl⟩ := stepped
    split
    · exact usable
    · exact usable_onProcessExit
  | oldShutDown boot =>
    rw [step] at stepped
    exact usable_bootStep stepped (usable.steady (calm_oldShutDown boot).steady)
  | madeDir boot failure =>
    rw [step] at stepped
    exact usable_bootStep stepped (usable.steady (calm_madeDir boot failure).steady)
  | spawned boot failure =>
    rw [step] at stepped
    exact usable_bootStep stepped (usable_spawned usable failure)
  | reaped boot =>
    rw [step] at stepped
    exact usable_bootStep stepped (usable.steady (calm_reaped boot).steady)
  | supervised boot failure =>
    rw [step] at stepped
    exact usable_bootStep stepped (usable.steady (calm_supervised boot failure).steady)
  | requestFailed boot written failure =>
    rw [step] at stepped
    exact usable_bootStep stepped (usable.steady ((calm_dropRequest written).trans
      (calm_answerBoot boot _)).steady)
  | goOn boot =>
    rw [step] at stepped
    split at stepped
    · contradiction
    · rename_i purpose request modelId answer found
      cases stepped
      refine usable_goOn usable fun thread isThread isAnswer named => ?_
      rw [isThread, isAnswer] at found
      rw [keepsReady, found] at keeps
      simpa [named] using keeps
    · contradiction
  | interruptFailed place written failure =>
    rw [step] at stepped
    split at stepped
    · cases stepped
      exact usable.steady ((calm_dropRequest written).trans (calm_answerCancel place _)).steady
    · contradiction
  | interruptEnded place =>
    rw [step] at stepped
    split at stepped
    · contradiction
    · cases stepped
      exact usable.steady (calm_setCancel place _).steady
    · contradiction
  | poll place expired =>
    rw [step] at stepped
    split at stepped
    · rename_i turn found
      cases stepped
      refine usable_poll usable fun isExpired active => ?_
      rw [keepsReady, found] at keeps
      simpa [isExpired, active] using keeps
    · contradiction
  | spawnSettled place =>
    rw [step] at stepped
    rw [keepsReady, not_eq_true'] at keeps
    split at stepped
    · split at stepped
      · contradiction
      · contradiction
      · cases stepped
        exact usable_tearDown keeps
    · contradiction
  | closeShutDown place =>
    rw [step] at stepped
    split at stepped
    · cases stepped
      exact usable.steady (calm_closed place).steady
    · contradiction

theorem usable_cold (participantId cwd : JsString) (streamIdleMs : Nat) :
    (cold participantId cwd streamIdleMs).Usable :=
  usable_of_gone rfl rfl

theorem ready_of_returns (returns : driver.returnsResult event = true)
    (stepped : driver.step event = some next) : next.capabilityReady = true := by
  cases event with
  | prewarm input =>
    rw [returnsResult, and_eq_true, decide_eq_true_eq] at returns
    have isReady : driver.state = .ready ∨ driver.state = .busy := by
      simpa [capabilityReady] using returns.2
    cases stepped
    simp only [prewarm, returns.1, ne_eq, not_true_eq_false, if_false]
    cases isReady with
    | inl ready => simp [capabilityReady, ready]
    | inr busy => simp [capabilityReady, busy]
  | goOn boot =>
    rw [returnsResult] at returns
    rw [step] at stepped
    split at returns
    · rename_i modelId purpose thread found
      rw [found] at stepped
      cases stepped
      rw [goOn, threadAnswered]
      simp only [returns, Bool.not_true, Bool.false_eq_true, if_false]
      rw [setStage]
      split <;> rfl
    · contradiction
  | _ => contradiction

/-- The prompt goes out to a live process, for a turn of its own. -/
structure Dispatches (driver : CodexDriver) (input : ExecuteInput) : Prop where
  active : (driver.execute input).activeTurn = some driver.turns.length
  written : ∃ server threadId, driver.process = some server ∧ driver.HasLiveProcess ∧
    driver.threadId = some threadId ∧ (driver.execute input).written = driver.written ++
      [(server, .object [(js "id", .string driver.requestId), (js "method", .string (js "turn/start")),
        (js "params", driver.turnParams threadId input)])]

theorem dispatches_of_usable (usable : driver.Usable) (ready : driver.capabilityReady = true)
    (idle : driver.activeTurn = none) (input : ExecuteInput) : driver.Dispatches input := by
  have isReady : driver.state = .ready := by
    rw [capabilityReady, or_eq_true, decide_eq_true_eq, decide_eq_true_eq] at ready
    cases ready with
    | inl isReady => exact isReady
    | inr isBusy =>
      have active := usable.busy isBusy
      rw [idle] at active
      contradiction
  obtain ⟨process, thread⟩ := usable.ready ready
  have live := usable.live process
  obtain ⟨server, isServer⟩ := isSome_iff_exists.mp process
  obtain ⟨threadId, isThread⟩ := isSome_iff_exists.mp thread
  constructor
  · simp only [execute, idle, isServer, isThread, isReady, request, write]
  · refine ⟨server, threadId, isServer, live, isThread, ?_⟩
    simp only [execute, idle, isServer, isThread, isReady, request, write]
    rfl

/-- What a driver says of itself: ready without an active turn it dispatches. -/
def Honest (driver : CodexDriver) : Prop :=
  driver.capabilityReady = true → driver.activeTurn = none → ∀ input, driver.Dispatches input

/-- In every order of calls, frames, timers and answers that keeps the driver ready,
a ready driver dispatches, and a prewarm that returns leaves a process and a thread. -/
theorem ready_dispatches {participantId cwd : JsString} {streamIdleMs : Nat} {events : List Event}
    (run : Run step KeepsReady (cold participantId cwd streamIdleMs) events driver) :
    driver.Honest ∧ ∀ event next, driver.KeepsReady event → driver.step event = some next →
      driver.returnsResult event = true → next.HasLiveProcess ∧ next.threadId.isSome := by
  have usable : driver.Usable :=
    run.invariant (fun usable keeps stepped => usable_step usable keeps stepped)
      (usable_cold participantId cwd streamIdleMs)
  refine ⟨fun ready idle input => dispatches_of_usable usable ready idle input, ?_⟩
  intro event next keeps stepped returns
  have nextUsable := usable_step usable keeps stepped
  obtain ⟨process, thread⟩ := nextUsable.ready (ready_of_returns returns stepped)
  exact ⟨nextUsable.live process, thread⟩

theorem prewarmed_dispatches : ∃ driver,
    Run step KeepsReady (cold (js "p") (js "/work/p") 1000) prewarmed driver ∧
      driver.capabilityReady = true ∧ driver.Dispatches (exampleInput "e1") := by
  have defined : (Data.execute (guarded step KeepsReady) (cold (js "p") (js "/work/p") 1000)
      prewarmed).map (fun driver => (driver.capabilityReady, driver.activeTurn)) = some (true, none) := by
    decide +kernel
  obtain ⟨driver, ended, stands⟩ := map_eq_some_iff.mp defined
  simp only [Prod.mk.injEq] at stands
  have run := execute_guarded ended
  exact ⟨driver, run, stands.1, (ready_dispatches run).1 stands.1 stands.2 (exampleInput "e1")⟩

def compactedRun : List Event :=
  prewarmed ++ [.frame 0 none (.object [(js "method", .string (js "thread/compacted"))])]

/-- The driver goes on reporting ready without a thread, and a prewarm returns at once. -/
theorem compacted_reports_ready : ¬ ∀ events driver,
    Run step anyStep (cold (js "p") (js "/work/p") 1000) events driver → driver.Honest := by
  intro honest
  have threadless : (Data.execute step (cold (js "p") (js "/work/p") 1000) compactedRun).map
      (fun driver => (driver.capabilityReady, driver.activeTurn, driver.threadId.isSome)) =
        some (true, none, false) := by
    decide +kernel
  obtain ⟨driver, ended, stands⟩ := map_eq_some_iff.mp threadless
  simp only [Prod.mk.injEq] at stands
  obtain ⟨ready, idle, lost⟩ := stands
  have run : Run step anyStep (cold (js "p") (js "/work/p") 1000) compactedRun driver :=
    execute_run ended fun _ _ _ => trivial
  obtain ⟨_, threadId, _, _, thread, _⟩ :=
    (honest compactedRun driver run ready idle (exampleInput "e1")).written
  rw [thread] at lost
  simp at lost

end CodexDriver

end CouncilKit.Host.Codex
