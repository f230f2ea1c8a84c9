import CouncilKit.Host.Dispatches

namespace CouncilKit.Host

open Data ScopeManager Option

namespace ScopeManager

variable {manager : ScopeManager} {scopeId now : JsString} {request : ExecuteRequest}
  {rebase : Option JsString} {scope : Scope} {record : ExecutionRecord}

theorem execute_known {entry : ParticipantEntry} (admits : manager.Admits scopeId request scope entry)
    (known : manager.executions.get request.executionId = some record) :
    manager.execute scopeId request rebase now =
      (manager, .ok ⟨record.executionId, record.state, record.lastSeq⟩) := by
  simp only [execute, admitExecute_ok.mpr admits, Records.begin, known, Bool.not_false, if_true]

theorem execute_refused (refused : ¬ ∃ entry, manager.Admits scopeId request scope entry)
    (found : manager.scopes.get scopeId = some scope) :
    ∃ failure, manager.execute scopeId request rebase now = (manager, .error failure) := by
  cases admitted : manager.admitExecute scopeId request with
  | error failure => exact ⟨failure, by simp only [execute, admitted]⟩
  | ok place =>
    obtain ⟨other, entry⟩ := place
    have admits := admitExecute_ok.mp admitted
    have same : other = scope := some.inj (admits.found.symm.trans found)
    exact absurd ⟨entry, same ▸ admits⟩ refused

/-- A retry of the scope's own execution gets its record and calls no driver; the
record of another scope stays hidden. -/
def Reconnects (manager : ScopeManager) (scopeId : JsString) (request : ExecuteRequest)
    (rebase : Option JsString) (now : JsString) (record : ExecutionRecord) : Prop :=
  if record.scopeId = scopeId then
    manager.execute scopeId request rebase now =
      (manager, .ok ⟨record.executionId, record.state, record.lastSeq⟩)
  else ∀ outcome, (manager.execute scopeId request rebase now).2 ≠ .ok outcome

/-- The retry reconnects when a new execution of the participant would have been
admitted, and the other scope's record shows under the same condition. -/
theorem retry_reconnects_iff (found : manager.scopes.get scopeId = some scope)
    (current : scope.fenced request.controller = .ok ())
    (known : manager.executions.get request.executionId = some record) :
    manager.Reconnects scopeId request rebase now record ↔
      (record.scopeId = scopeId ↔ scope.state = .active ∧
        ∃ entry, scope.participants.get request.participantId = some entry ∧
          entry.runtime = .ready ∧ entry.busyExecutionId = none ∧
          manager.executions.runningCount < maxConcurrentExecutions) := by
  have admission : (∃ entry, manager.Admits scopeId request scope entry) ↔ scope.state = .active ∧
      ∃ entry, scope.participants.get request.participantId = some entry ∧ entry.runtime = .ready ∧
        entry.busyExecutionId = none ∧
        manager.executions.runningCount < maxConcurrentExecutions := by
    constructor
    · intro admitted
      obtain ⟨entry, admits⟩ := admitted
      exact ⟨admits.active, entry, admits.participant, admits.ready, admits.idle, admits.room⟩
    · intro free
      obtain ⟨active, entry, participant, ready, idle, room⟩ := free
      exact ⟨entry, found, current, active, participant, ready, idle, room⟩
  rw [← admission, Reconnects]
  by_cases free : ∃ entry, manager.Admits scopeId request scope entry
  · obtain ⟨entry, admits⟩ := free
    have result := @execute_known manager scopeId now request rebase scope record entry admits known
    have admitted : ∃ entry, manager.Admits scopeId request scope entry := ⟨entry, admits⟩
    split
    · rename_i own
      simp only [result, own, admitted]
    · rename_i other
      simp [result, other, admitted]
  · obtain ⟨failure, result⟩ := @execute_refused manager scopeId now request rebase scope free found
    split
    · rename_i own
      simp [result, own, free]
    · rename_i other
      simp [result, other, free]

end ScopeManager

def retryRequest : ExecuteRequest := ⟨sampleController, js "e", js "p"⟩

/-- The controller is current, and the execution is recorded for the scope. -/
def retries (manager : ScopeManager) : Bool :=
  (manager.scopes.get (js "s1")).any (fun scope =>
    (scope.fenced retryRequest.controller).toOption = some ()) &&
    (manager.executions.get (js "e")).any fun record => record.scopeId = js "s1"

theorem retries_spec {manager : ScopeManager} (again : retries manager = true) :
    ∃ scope record, manager.scopes.get (js "s1") = some scope ∧
      scope.fenced retryRequest.controller = .ok () ∧
      manager.executions.get (js "e") = some record ∧ record.scopeId = js "s1" := by
  simp only [retries, Bool.and_eq_true, any_eq_true, decide_eq_true_eq] at again
  obtain ⟨⟨scope, found, current⟩, record, known, own⟩ := again
  refine ⟨scope, record, found, ?_, known, own⟩
  cases checked : scope.fenced retryRequest.controller with
  | error failure => simp [checked, Except.toOption] at current
  | ok done => rfl

def endedActions : List HostAction :=
  runScope (js "request-1") (js "s1") ++ (finishExecution (js "s1")).take 2

/-- After the execution ended, a retry reconnects. -/
theorem retry_reconnects_ended : ∃ manager record,
    execute (step sampleConfig) .empty endedActions = some manager ∧
      manager.Reconnects (js "s1") retryRequest none (js "t") record := by
  have facts : (execute (step sampleConfig) .empty endedActions).map (fun manager =>
      (retries manager, (manager.admitExecute (js "s1") retryRequest).toOption.isSome)) =
        some (true, true) := by decide +kernel
  obtain ⟨manager, ended, free⟩ := map_eq_some_iff.mp facts
  simp only [Prod.mk.injEq] at free
  obtain ⟨scope, record, found, current, known, own⟩ := retries_spec free.1
  cases admitted : manager.admitExecute (js "s1") retryRequest with
  | error failure => simp [admitted, Except.toOption] at free
  | ok place =>
    obtain ⟨other, entry⟩ := place
    have admits := admitExecute_ok.mp admitted
    have same : other = scope := some.inj (admits.found.symm.trans found)
    subst same
    exact ⟨manager, record, ended, (retry_reconnects_iff found current known).mpr
      ⟨fun _ => ⟨admits.active, entry, admits.participant, admits.ready, admits.idle, admits.room⟩,
        fun _ => own⟩⟩

/-- While it runs, a retry is refused. -/
theorem retry_refused_while_running : ¬ ∀ (actions : List HostAction) (manager : ScopeManager),
    Run (step sampleConfig) anyStep .empty actions manager →
      ∀ (scopeId now : JsString) (request : ExecuteRequest) (rebase : Option JsString)
        (scope : Scope) (record : ExecutionRecord), manager.scopes.get scopeId = some scope →
        scope.fenced request.controller = .ok () →
        manager.executions.get request.executionId = some record → record.scopeId = scopeId →
        manager.execute scopeId request rebase now =
          (manager, .ok ⟨record.executionId, record.state, record.lastSeq⟩) := by
  intro claimed
  have facts : (execute (step sampleConfig) .empty
      (runScope (js "request-1") (js "s1"))).map (fun manager =>
      (retries manager, (manager.execute (js "s1") retryRequest none (js "t")).2.toOption)) =
        some (true, none) := by decide +kernel
  obtain ⟨manager, ended, free⟩ := map_eq_some_iff.mp facts
  simp only [Prod.mk.injEq] at free
  obtain ⟨scope, record, found, current, known, own⟩ := retries_spec free.1
  have result := claimed _ manager (execute_run ended fun _ _ _ => trivial) (js "s1") (js "t")
    retryRequest none scope record found current known own
  rw [result] at free
  simp [Except.toOption] at free

end CouncilKit.Host
