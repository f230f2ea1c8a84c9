import CouncilKit.Host.Dispatches
import CouncilKit.Host.Followers

namespace CouncilKit.Host

open Data Option

namespace Registry

variable {registry : Registry} {executionId now : JsString}

theorem records_begin {participantId scopeId : JsString} :
    (registry.begin executionId participantId scopeId now).records =
      (registry.records.begin executionId participantId scopeId now).1 := by
  cases found : registry.records.get executionId <;> simp [Registry.begin, Records.begin, found]

theorem records_emit {proto : DriverEvent} : (registry.emit executionId proto now).records =
    (registry.records.emit executionId proto now).1 := by
  unfold Registry.emit
  split
  · rename_i emitted
    rw [emitted]
  · rename_i emitted _
    rw [emitted]

/-- A tracked registry has a stream for every record, and so acknowledges what its records do. -/
theorem records_ack (tracked : Tracked registry) {finalSeq : Nat} {disposition : AckDisposition} :
    (registry.ack executionId finalSeq disposition).records =
      (registry.records.ack executionId finalSeq disposition).1 := by
  cases found : registry.records.get executionId with
  | none => simp only [Registry.ack, Records.ack, found]
  | some record =>
    obtain ⟨stream, tracks, streamed⟩ := tracked.streamed found
    by_cases before : record.tombstone = true
    · by_cases same : record.disposition = some disposition <;>
        simp [Registry.ack, Records.ack, found, tracks, before, same]
    · have pending : record.ackState ≠ .acknowledged :=
        fun acked => before (streamed.tombstone.mpr acked)
      cases terminal : record.terminal with
      | none => simp [Registry.ack, Records.ack, found, tracks, before, pending, terminal]
      | some event =>
        by_cases final : event.seq = finalSeq <;>
          simp [Registry.ack, Records.ack, found, tracks, before, pending, terminal, final]

end Registry

/-- The records that a registry has after some calls, from an empty start. -/
def Records.Registered (records : Records) : Prop :=
  ∃ actions, (Registry.empty.run actions).records = records

theorem Records.Registered.call {records next : Records} (registered : records.Registered)
    (action : RegistryAction) (reaches : ∀ registry, Tracked registry → registry.records = records →
      (registry.step action).records = next) : next.Registered := by
  obtain ⟨actions, rfl⟩ := registered
  refine ⟨actions ++ [action], ?_⟩
  rw [Registry.run, List.foldl_append]
  exact reaches _ (Tracked.empty.run actions) rfl

namespace ScopeManager

open Registry

theorem Moves.registered {records after : Records} {released gone : List JsString}
    (moves : Moves records released after gone) (registered : records.Registered) :
    after.Registered := by
  cases moves with
  | same => exact registered
  | «begin» executionId participantId scopeId now =>
    exact registered.call (.begin executionId participantId scopeId now)
      fun _ _ same => same ▸ records_begin
  | emit executionId proto now =>
    exact registered.call (.emit executionId proto now) fun _ _ same => same ▸ records_emit
  | ack executionId finalSeq disposition =>
    exact registered.call (.ack executionId finalSeq disposition)
      fun _ tracked same => same ▸ records_ack tracked
  | release scopeId => exact registered.call (.releaseScope scopeId) fun _ _ same => same ▸ rfl

variable {config : HostConfig} {manager next : ScopeManager}

theorem registered_execute (registered : manager.executions.Registered) {scopeId now : JsString}
    {request : ExecuteRequest} {rebase : Option JsString} :
    (manager.execute scopeId request rebase now).1.executions.Registered := by
  simp only [execute]
  split
  · exact registered
  · split
    · exact registered
    · have begun : (manager.executions.begin request.executionId request.participantId scopeId
          now).1.Registered := @Moves.registered _ _ [] [] (.begin ..) registered
      simp only [dispatch]
      split
      · exact aside_emitAndSweep.moves.registered begun
      · split
        · exact aside_emitAndSweep.moves.registered (aside_emitAndSweep.moves.registered begun)
        · exact begun

end ScopeManager

/-- In every order of requests, answers and timers a Host keeps of its executions what a registry
keeps, and so the numbers, the end, the order and the bytes of every stream. -/
theorem host_streams {config : HostConfig} {actions : List HostAction} {manager : ScopeManager}
    (run : Run (ScopeManager.step config) anyStep .empty actions manager) :
    manager.executions.Registered ∧ ∀ {executionId record},
      manager.executions.get executionId = some record → ∃ stream, Streamed record stream := by
  have registered : manager.executions.Registered := by
    refine @Run.invariant _ _ _ _ _ _ _ (·.executions.Registered) ?_ run ⟨[], rfl⟩
    intro manager action next registered _ stepped
    cases action with
    | execute =>
      cases stepped
      exact ScopeManager.registered_execute registered
    | _ =>
      have aside := ScopeManager.aside_step (fun _ _ _ _ => HostAction.noConfusion) stepped
      exact aside.moves.registered registered
  refine ⟨registered, fun found => ?_⟩
  obtain ⟨calls, same⟩ := registered
  obtain ⟨stream, -, streamed⟩ := (Tracked.empty.run calls).streamed (same ▸ found)
  exact ⟨stream, streamed⟩

theorem host_streams_retry : ∃ manager record, Run (ScopeManager.step sampleConfig) anyStep .empty
    retryActions manager ∧ manager.executions.get (js "e") = some record ∧
    ∃ stream, Streamed record stream := by
  have ended : ((execute (ScopeManager.step sampleConfig) .empty retryActions).any
      fun manager => (manager.executions.get (js "e")).isSome) = true := by decide
  obtain ⟨manager, ended, known⟩ := (Option.any_eq_true _ _).mp ended
  obtain ⟨record, found⟩ := isSome_iff_exists.mp known
  have run := execute_run ended fun _ _ _ => trivial
  exact ⟨manager, record, run, found, (host_streams run).2 found⟩

end CouncilKit.Host
