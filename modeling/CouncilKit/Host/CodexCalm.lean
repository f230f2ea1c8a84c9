import CouncilKit.Host.CodexDriver

namespace CouncilKit.Host.Codex

open Data

/-- Turns, processes and thread stand, and so does the state of a driver that reports ready. -/
structure Calm (before after : CodexDriver) : Prop where
  turns : after.turns = before.turns
  activeTurn : after.activeTurn = before.activeTurn
  servers : after.servers = before.servers
  process : after.process = before.process
  threadId : after.threadId = before.threadId
  ready : after.capabilityReady = true → after.state = before.state

variable {driver first second third : CodexDriver}

theorem Calm.refl (driver : CodexDriver) : Calm driver driver :=
  ⟨rfl, rfl, rfl, rfl, rfl, fun _ => rfl⟩

theorem Calm.trans (early : Calm first second) (late : Calm second third) : Calm first third where
  turns := late.turns.trans early.turns
  activeTurn := late.activeTurn.trans early.activeTurn
  servers := late.servers.trans early.servers
  process := late.process.trans early.process
  threadId := late.threadId.trans early.threadId
  ready := by
    intro ready
    have state := late.ready ready
    have before : second.capabilityReady = true := by
      rw [CodexDriver.capabilityReady, ← state]
      exact ready
    exact state.trans (early.ready before)

theorem calm_unready {state : DriverState}
    (unready : ({ driver with state } : CodexDriver).capabilityReady = false) :
    Calm driver { driver with state } :=
  ⟨rfl, rfl, rfl, rfl, rfl, fun ready => by rw [unready] at ready; contradiction⟩

namespace CodexDriver

theorem calm_setStage (place : Nat) (stage : Stage) : Calm driver (driver.setStage place stage) := by
  rw [setStage]
  split
  · exact .refl driver
  · exact ⟨rfl, rfl, rfl, rfl, rfl, fun _ => rfl⟩

theorem calm_addBoot (purpose : Purpose) (stage : Stage) : Calm driver (driver.addBoot purpose stage) :=
  ⟨rfl, rfl, rfl, rfl, rfl, fun _ => rfl⟩

theorem calm_answerBoot (place : Nat) (answer : Answer) : Calm driver (driver.answerBoot place answer) := by
  rw [answerBoot]
  split
  · exact ⟨rfl, rfl, rfl, rfl, rfl, fun _ => rfl⟩
  · exact .refl driver

theorem calm_answerCancel (place : Nat) (answer : Answer) :
    Calm driver (driver.answerCancel place answer) := by
  rw [answerCancel]
  split
  · exact ⟨rfl, rfl, rfl, rfl, rfl, fun _ => rfl⟩
  · exact .refl driver

theorem calm_setCancel (place : Nat) (stage : CancelStage) :
    Calm driver (driver.setCancel place stage) := by
  rw [setCancel]
  split
  · exact .refl driver
  · exact ⟨rfl, rfl, rfl, rfl, rfl, fun _ => rfl⟩

theorem calm_dropRequest (written : Option JsString) : Calm driver (driver.dropRequest written) := by
  cases written with
  | none => exact .refl driver
  | some id => exact ⟨rfl, rfl, rfl, rfl, rfl, fun _ => rfl⟩

theorem calm_clearSpawn (place : Nat) : Calm driver (driver.clearSpawn place) := by
  rw [clearSpawn]
  split
  · exact ⟨rfl, rfl, rfl, rfl, rfl, fun _ => rfl⟩
  · exact .refl driver

theorem calm_write (message : Json) : Calm driver (driver.write message) := by
  rw [write]
  split
  · exact .refl driver
  · exact ⟨rfl, rfl, rfl, rfl, rfl, fun _ => rfl⟩

theorem calm_request (method : JsString) (params : Json) (who : PendingRequest) :
    Calm driver (driver.request method params who) := by
  have notes (requestCounter : Nat) (pending : List (JsString × PendingRequest)) :
      Calm driver { driver with requestCounter, pending } :=
    ⟨rfl, rfl, rfl, rfl, rfl, fun _ => rfl⟩
  exact (notes _ _).trans (calm_write _)

def isTurnStart : PendingRequest → Bool
  | .turnStart _ => true
  | _ => false

variable {who : PendingRequest}

section

variable (task : isTurnStart who = false)

include task

theorem calm_resolve (result : Option Json) : Calm driver (driver.resolve result who) := by
  cases who with
  | turnStart place => contradiction
  | boot place => exact calm_answerBoot place _
  | cancel place => exact calm_answerCancel place _
  | forgotten => exact .refl driver

theorem calm_reject (failure : Failure) : Calm driver (driver.reject failure who) := by
  cases who with
  | turnStart place => contradiction
  | boot place => exact calm_answerBoot place _
  | cancel place => exact calm_answerCancel place _
  | forgotten => exact .refl driver

theorem calm_sendRequest (method : JsString) (params : Json) :
    Calm driver (driver.sendRequest method params who) := by
  rw [sendRequest]
  split
  · exact calm_reject task _
  · exact calm_request method params who

end

variable (place : Nat)

theorem calm_await (request : Request) (modelId : JsString) (params : Json) :
    Calm driver (driver.await place request modelId params) :=
  (calm_setStage place _).trans (calm_sendRequest rfl _ _)

theorem calm_failBoot (failure : Failure) : Calm driver (driver.failBoot place failure) := by
  have stops := @calm_setStage driver place (.finished (some failure))
  simp only [failBoot]
  split
  · split
    · exact stops
    · exact stops.trans (calm_unready rfl)
  · exact stops

theorem calm_madeDir (failure : Option Failure) :
    Calm driver (driver.madeDir place failure) := by
  cases failure with
  | some failure => exact calm_failBoot place failure
  | none =>
    have notes : Calm driver { driver with pendingSpawn := some place } :=
      ⟨rfl, rfl, rfl, rfl, rfl, fun _ => rfl⟩
    rw [madeDir]
    split
    · exact calm_failBoot place _
    · exact notes.trans (calm_setStage place _)

theorem calm_reaped : Calm driver (driver.reaped place) :=
  (calm_clearSpawn place).trans (calm_failBoot place _)

theorem calm_oldShutDown : Calm driver (driver.oldShutDown place) := by
  have starts : Calm driver { driver with state := .starting } := calm_unready rfl
  rw [oldShutDown]
  split
  · exact starts.trans (calm_setStage place _)
  · exact calm_setStage place _

theorem calm_supervised (failure : Option Failure) :
    Calm driver (driver.supervised place failure) := by
  cases failure with
  | some failure => exact calm_failBoot place _
  | none =>
    rw [supervised]
    split
    · exact calm_failBoot place _
    · exact calm_await place _ _ _

theorem calm_modelsAnswered (modelId : JsString) (models : Option Json) :
    Calm driver (driver.modelsAnswered place modelId models) := by
  have serves (catalog : List JsString) : Calm driver { driver with catalog } :=
    ⟨rfl, rfl, rfl, rfl, rfl, fun _ => rfl⟩
  have chooses (catalog reasoningEfforts : List JsString) :
      Calm driver { driver with catalog, reasoningEfforts } :=
    ⟨rfl, rfl, rfl, rfl, rfl, fun _ => rfl⟩
  simp only [modelsAnswered]
  split
  · exact (serves _).trans (calm_failBoot place _)
  · split
    · exact (serves _).trans (calm_failBoot place _)
    · exact (chooses _ _).trans (calm_await place _ _ _)

theorem calm_goOn {request : Request} (early : request ≠ .thread) (place : Nat)
    (modelId : JsString) (answer : Answer) : Calm driver (driver.goOn place request modelId answer) := by
  cases answer with
  | waiting => exact .refl driver
  | rejected failure => exact calm_failBoot place failure
  | resolved value =>
    cases request with
    | initializing => exact (calm_write _).trans (calm_await place _ _ _)
    | account =>
      rw [goOn]
      split
      · exact calm_await place _ _ _
      · exact calm_failBoot place _
    | models => exact calm_modelsAnswered place modelId value
    | thread => exact absurd rfl early

theorem calm_prewarm (input : PrewarmInput) : Calm driver (driver.prewarm input) := by
  have notes (persona effort : Option JsString) (modelId : JsString) :
      Calm driver { driver with
        persona, reasoningEffort := effort, lastInstallation := true, lastModelId := some modelId } :=
    ⟨rfl, rfl, rfl, rfl, rfl, fun _ => rfl⟩
  have starts (noted : CodexDriver) : Calm noted { noted with state := .starting } :=
    calm_unready rfl
  simp only [prewarm]
  split
  · exact .refl driver
  · split
    · exact notes _ _ _
    · exact ((notes _ _ _).trans (starts _)).trans (calm_addBoot _ _)

theorem calm_closed : Calm driver (driver.closed place) :=
  ⟨rfl, rfl, rfl, rfl, rfl, nofun⟩

end CodexDriver

end CouncilKit.Host.Codex
