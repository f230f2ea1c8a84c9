import CouncilKit.Host.ScopeManager

namespace CouncilKit.Host

open Data List Option Records

namespace ScopeManager

def Remembered (manager : ScopeManager) (executionId : JsString) : Prop :=
  manager.executions.Known executionId ∨ executionId ∈ manager.released

/-- Nothing was dispatched and no id was forgotten without a trace. -/
structure Quiet (before after : ScopeManager) : Prop where
  dispatched : after.dispatched = before.dispatched
  remembers : ∀ {executionId}, before.Remembered executionId → after.Remembered executionId

variable {config : HostConfig} {manager next : ScopeManager}

theorem Quiet.refl (manager : ScopeManager) : Quiet manager manager :=
  ⟨rfl, fun remembered => remembered⟩

theorem Quiet.trans {middle : ScopeManager} (first : Quiet manager middle)
    (second : Quiet middle next) : Quiet manager next :=
  ⟨second.dispatched.trans first.dispatched,
    fun remembered => second.remembers (first.remembers remembered)⟩

/-- What the steps do to the executions and to the ids of those released. -/
inductive Moves (records : Records) (released : List JsString) : Records → List JsString → Prop where
  | same : Moves records released records released
  | «begin» (executionId participantId scopeId now : JsString) :
      Moves records released (records.begin executionId participantId scopeId now).1 released
  | emit (executionId : JsString) (proto : DriverEvent) (now : JsString) :
      Moves records released (records.emit executionId proto now).1 released
  | ack (executionId : JsString) (finalSeq : Nat) (disposition : AckDisposition) :
      Moves records released (records.ack executionId finalSeq disposition).1 released
  | release (scopeId : JsString) : Moves records released (records.releaseScope scopeId)
      (released ++ ((records.rows.filter (·.scopeId = scopeId)).map (·.executionId)))

theorem Moves.remembers {records after : Records} {released gone : List JsString}
    (moves : Moves records released after gone) {executionId : JsString}
    (remembered : records.Known executionId ∨ executionId ∈ released) :
    after.Known executionId ∨ executionId ∈ gone := by
  cases moves with
  | same => exact remembered
  | «begin» => exact remembered.imp_left fun known => known_begin.mpr (.inl known)
  | emit => exact remembered.imp_left known_emit.mpr
  | ack => exact remembered.imp_left known_ack.mpr
  | release scopeId =>
    rcases remembered with known | gone
    · obtain ⟨record, found⟩ := isSome_iff_exists.mp known
      obtain ⟨member, key⟩ := Table.get_mem found
      by_cases own : record.scopeId = scopeId
      · refine .inr (mem_append_right _ (mem_map.mpr ⟨record, ?_, key⟩))
        exact mem_filter.mpr ⟨member, by simpa using own⟩
      · exact .inl (known_releaseScope.mpr ⟨record, found, own⟩)
    · exact .inr (mem_append_left _ gone)

/-- No driver was called. -/
structure Aside (before after : ScopeManager) : Prop where
  dispatched : after.dispatched = before.dispatched
  moves : Moves before.executions before.released after.executions after.released

theorem Aside.quiet (aside : Aside manager next) : Quiet manager next :=
  ⟨aside.dispatched, aside.moves.remembers⟩

theorem aside_emitAndSweep {scopeId executionId now : JsString} {proto : DriverEvent} :
    Aside manager (manager.emitAndSweep scopeId executionId proto now).1 := by
  simp only [emitAndSweep]
  split
  · split <;> exact ⟨rfl, .emit executionId proto now⟩
  · exact ⟨rfl, .emit executionId proto now⟩

theorem aside_step {action : HostAction}
    (plain : ∀ scopeId request rebase now, action ≠ .execute scopeId request rebase now)
    (stepped : manager.step config action = some next) : Aside manager next := by
  cases action with
  | execute => exact absurd rfl (plain _ _ _ _)
  | createScope =>
    simp only [step, createScope] at stepped
    split at stepped
    · contradiction
    · cases stepped
      split
      · exact ⟨rfl, .same⟩
      · split <;> exact ⟨rfl, .same⟩
  | prewarmed | participantClosed =>
    simp only [step, prewarmed, participantClosed, bind_eq_bind, bind_eq_some_iff] at stepped
    obtain ⟨_, -, _, -, -, -, ended⟩ := stepped
    cases ended
    exact ⟨rfl, .same⟩
  | createSettled =>
    simp only [step, createSettled, bind_eq_bind, bind_eq_some_iff] at stepped
    obtain ⟨_, -, -, -, ended⟩ := stepped
    split at ended <;> cases ended <;> exact ⟨rfl, .same⟩
  | activateScope | closeScope =>
    cases stepped
    simp only [activateScope, closeScope]
    split <;> exact ⟨rfl, .same⟩
  | takeover =>
    cases stepped
    simp only [takeover]
    split
    · exact ⟨rfl, .same⟩
    · split <;> exact ⟨rfl, .same⟩
  | driverEmits | executeRejected =>
    simp only [step, executeRejected, driverEmits, bind_eq_bind, bind_eq_some_iff] at stepped
    obtain ⟨-, -, ended⟩ := stepped
    cases ended
    exact aside_emitAndSweep
  | executeSettled =>
    simp only [step, executeSettled, bind_eq_bind, bind_eq_some_iff] at stepped
    obtain ⟨-, -, ended⟩ := stepped
    split at ended
    · cases ended
      exact ⟨rfl, .same⟩
    · split at ended <;> cases ended <;> exact ⟨rfl, .same⟩
  | cancel | closeAll =>
    cases stepped
    exact ⟨rfl, .same⟩
  | ack scopeId executionId finalSeq disposition =>
    cases stepped
    simp only [ack]
    split
    · exact ⟨rfl, .same⟩
    · split <;> exact ⟨rfl, .ack executionId finalSeq disposition⟩
  | scopeClosed scopeId =>
    simp only [step, scopeClosed, bind_eq_bind, bind_eq_some_iff] at stepped
    obtain ⟨_, -, -, -, ended⟩ := stepped
    cases ended
    exact ⟨rfl, .release scopeId⟩
  | creatingExpired | idleExpired =>
    simp only [step, creatingExpired, idleExpired, bind_eq_bind, bind_eq_some_iff] at stepped
    obtain ⟨_, -, -, -, ended⟩ := stepped
    cases ended
    exact ⟨rfl, .same⟩

structure Calls (call : Dispatch) (before after : ScopeManager) : Prop where
  dispatched : after.dispatched = before.dispatched ++ [call]
  remembers : ∀ {executionId}, before.Remembered executionId → after.Remembered executionId

theorem dispatch_effect {scope : Scope} {entry : ParticipantEntry} {executionId : JsString}
    {rebase : Option JsString} {now : JsString} :
    Quiet manager (manager.dispatch scope entry executionId rebase now).1 ∨
      Calls ⟨executionId, entry.participantId, scope.scopeId⟩ manager
        (manager.dispatch scope entry executionId rebase now).1 := by
  simp only [dispatch]
  split
  · exact .inl aside_emitAndSweep.quiet
  · split
    · exact .inl (aside_emitAndSweep.quiet.trans aside_emitAndSweep.quiet)
    · exact .inr ⟨rfl, fun remembered => remembered⟩

theorem execute_effect {scopeId : JsString} {request : ExecuteRequest}
    {rebase : Option JsString} {now : JsString} :
    Quiet manager (manager.execute scopeId request rebase now).1 ∨
      ∃ call : Dispatch, call.executionId = request.executionId ∧
        ¬ manager.executions.Known request.executionId ∧
        Calls call manager (manager.execute scopeId request rebase now).1 ∧
        (manager.execute scopeId request rebase now).1.Remembered request.executionId := by
  simp only [execute]
  split
  · exact .inl (.refl _)
  · rename_i scope entry admitted
    split
    · exact .inl (.refl _)
    · rename_i created
      have new : ¬ manager.executions.Known request.executionId :=
        begin_created.mp (by simpa using created)
      generalize begun : ScopeManager.mk _ _ _ _ _ _ _ = begunManager
      have started : Quiet manager begunManager := by
        subst begun
        exact Aside.quiet ⟨rfl, .begin ..⟩
      have known : begunManager.Remembered request.executionId := by
        subst begun
        exact .inl (known_begin.mpr (.inr rfl))
      cases @dispatch_effect begunManager scope entry request.executionId rebase now with
      | inl quiet => exact .inl (started.trans quiet)
      | inr calls =>
        refine .inr ⟨⟨request.executionId, entry.participantId, scope.scopeId⟩, rfl, new, ⟨?_, fun remembered => ?_⟩, calls.remembers known⟩
        · rw [calls.dispatched, started.dispatched]
        · exact calls.remembers (started.remembers remembered)

/-- Every driver call so far was for an id of its own that is still remembered. -/
structure DispatchedOnce (manager : ScopeManager) : Prop where
  once : (manager.dispatched.map (·.executionId)).Nodup
  remembered : ∀ call ∈ manager.dispatched, manager.Remembered call.executionId

/-- No `execute` brings an id back whose scope was closed. -/
def avoidsReleased (manager : ScopeManager) : HostAction → Prop
  | .execute _ request _ _ => request.executionId ∉ manager.released
  | _ => True

instance (manager : ScopeManager) : (action : HostAction) → Decidable (avoidsReleased manager action)
  | .execute _ request _ _ => inferInstanceAs (Decidable (request.executionId ∉ manager.released))
  | .createScope .. | .prewarmed .. | .createSettled .. | .activateScope .. | .takeover ..
  | .driverEmits .. | .executeRejected .. | .executeSettled .. | .cancel .. | .ack ..
  | .closeScope .. | .closeAll .. | .participantClosed .. | .scopeClosed .. | .creatingExpired ..
  | .idleExpired .. => .isTrue trivial

theorem DispatchedOnce.quiet (held : manager.DispatchedOnce) (quiet : Quiet manager next) :
    next.DispatchedOnce := by
  refine ⟨quiet.dispatched ▸ held.once, fun call member => ?_⟩
  rw [quiet.dispatched] at member
  exact quiet.remembers (held.remembered call member)

theorem DispatchedOnce.calls (held : manager.DispatchedOnce)
    (calls : Calls call manager next) (new : ¬ manager.Remembered call.executionId)
    (now : next.Remembered call.executionId) : next.DispatchedOnce := by
  have fresh : call.executionId ∉ manager.dispatched.map (·.executionId) := by
    intro member
    obtain ⟨earlier, earlierMember, same⟩ := mem_map.mp member
    exact new (same ▸ held.remembered earlier earlierMember)
  constructor
  · rw [calls.dispatched, map_append, map_singleton]
    exact nodup_append.mpr ⟨held.once, nodup_singleton _,
      fun id member other single same => fresh (by
        rw [mem_singleton] at single
        exact single ▸ same ▸ member)⟩
  · intro other member
    rw [calls.dispatched, mem_append, mem_singleton] at member
    cases member with
    | inl earlier => exact calls.remembers (held.remembered other earlier)
    | inr same => exact same ▸ now

theorem DispatchedOnce.step {action : HostAction} (held : manager.DispatchedOnce)
    (avoids : avoidsReleased manager action)
    (stepped : manager.step config action = some next) : next.DispatchedOnce := by
  cases action with
  | execute scopeId request rebase now =>
    cases stepped
    cases @execute_effect manager scopeId request rebase now with
    | inl quiet => exact held.quiet quiet
    | inr called =>
      obtain ⟨call, same, new, calls, remembered⟩ := called
      refine held.calls calls ?_ (same ▸ remembered)
      intro old
      rw [same] at old
      cases old with
      | inl known => exact new known
      | inr released => exact avoids released
  | _ => exact held.quiet (aside_step (fun _ _ _ _ => HostAction.noConfusion) stepped).quiet

theorem DispatchedOnce.empty : ScopeManager.empty.DispatchedOnce where
  once := nodup_nil
  remembered _ member := absurd member not_mem_nil

/-- Over a whole run from an empty Host that brings no released id back, no
driver is called twice for one id. -/
theorem driver_called_once {actions : List HostAction}
    (run : Run (ScopeManager.step config) avoidsReleased .empty actions next) :
    (next.dispatched.map (·.executionId)).Nodup :=
  (run.invariant DispatchedOnce.step DispatchedOnce.empty).once

end ScopeManager

def sampleConfig : HostConfig := ⟨js "host-1", [js "codex-app-server"]⟩

def sampleController : Controller := ⟨js "ctrl-1", 1⟩

def sampleBinding : ResolvedBinding where
  bindingDigest := js "b"
  driverId := js "codex-app-server"
  installationId := js "i"
  installationFingerprint := js "f"
  capabilityDigest := js "c"
  requestedModel := js "m"
  canonicalModelId := js "m"
  modelAliases := []
  route := none
  reasoningEffort := none

/-- A scope is created, prewarmed and activated, and runs the execution `e`. -/
def runScope (scopeRequestId scopeId : JsString) : List HostAction :=
  [.createScope ⟨scopeRequestId, [⟨js "p", js "codex-app-server"⟩]⟩ scopeId (js "ctrl-1") 0,
    .prewarmed scopeId (js "p") (.handshake (some sampleBinding) ⟨js "ready", none⟩),
    .createSettled scopeId, .activateScope scopeId sampleController,
    .execute scopeId ⟨sampleController, js "e", js "p"⟩ none (js "t")]

def finishExecution (scopeId : JsString) : List HostAction :=
  [.driverEmits ⟨js "e", js "p", scopeId⟩ (.completed (js "o") (js "m") .none []) (js "t"),
    .executeSettled ⟨js "e", js "p", scopeId⟩,
    .ack scopeId (js "e") 1 .committed sampleController,
    .execute scopeId ⟨sampleController, js "e", js "p"⟩ none (js "t")]

def endScope (scopeId : JsString) : List HostAction :=
  [.closeScope scopeId sampleController, .participantClosed scopeId (js "p"),
    .scopeClosed scopeId]

def retryActions : List HostAction :=
  runScope (js "request-1") (js "s1") ++ finishExecution (js "s1")

theorem driver_called_once_retry :
    ∃ manager, execute (guarded (ScopeManager.step sampleConfig) ScopeManager.avoidsReleased) .empty
        retryActions = some manager ∧
      manager.dispatched = [⟨js "e", js "p", js "s1"⟩] ∧
      (manager.dispatched.map (·.executionId)).Nodup := by
  have called : (execute (guarded (ScopeManager.step sampleConfig) ScopeManager.avoidsReleased) .empty
      retryActions).map (·.dispatched) = some [⟨js "e", js "p", js "s1"⟩] := by decide
  obtain ⟨manager, ended, dispatched⟩ := map_eq_some_iff.mp called
  exact ⟨manager, ended, dispatched, ScopeManager.driver_called_once (execute_guarded ended)⟩

def reopenedActions : List HostAction :=
  retryActions ++ endScope (js "s1") ++ runScope (js "request-2") (js "s2")

theorem driver_called_twice :
    ∃ manager, Run (ScopeManager.step sampleConfig) anyStep .empty reopenedActions manager ∧
      ¬ (manager.dispatched.map (·.executionId)).Nodup := by
  have called : (execute (ScopeManager.step sampleConfig) .empty reopenedActions).map
      (fun manager => manager.dispatched.map (·.executionId)) = some [js "e", js "e"] := by decide
  obtain ⟨manager, ended, dispatched⟩ := map_eq_some_iff.mp called
  refine ⟨manager, execute_run ended fun _ _ _ => trivial, ?_⟩
  rw [dispatched]
  decide

end CouncilKit.Host
