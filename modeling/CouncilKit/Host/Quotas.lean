import CouncilKit.Host.ScopeFrames

namespace CouncilKit.Host

open Data List Option Records Table Nat
open ExecutionRecord

namespace ScopeManager

/-- What a step does that neither opens a scope nor begins or ends a driver call. -/
structure Calm (before after : ScopeManager) : Prop where
  scopes : Scopes.Keeps before.scopes after.scopes
  records : Keeps before.executions after.executions
  unsettled : after.unsettled = before.unsettled

def Sound (manager : ScopeManager) : Prop := ∀ scope ∈ manager.scopes.rows, scope.Sound

variable {config : HostConfig} {manager next : ScopeManager} {scopeId now : JsString}

theorem Calm.refl (manager : ScopeManager) : Calm manager manager := ⟨.refl _, .refl _, rfl⟩

theorem calm_withScope {old new : Scope} (found : manager.scopes.get scopeId = some old)
    (keeps : Scope.Keeps old new) : Calm manager (manager.withScope new) := by
  have own : manager.scopes.get old.scopeId = some old := by
    rw [(get_mem found).2, found]
  exact ⟨.put own keeps, .refl _, rfl⟩

variable {participantId : JsString}

theorem calm_prewarmed {answer : PrewarmAnswer} (sound : manager.Sound)
    (stepped : manager.prewarmed scopeId participantId answer = some next) : Calm manager next := by
  simp only [prewarmed, bind_eq_bind, bind_eq_some_iff, guard_eq_some'] at stepped
  obtain ⟨scope, found, entry, participant, -, prewarming, ended⟩ := stepped
  cases ended
  exact calm_withScope found (Scope.keeps_prewarmed (sound scope (get_mem found).1)
    participant prewarming answer)

theorem calm_createSettled (stepped : manager.createSettled scopeId = some next) : Calm manager next := by
  simp only [createSettled, bind_eq_bind, bind_eq_some_iff] at stepped
  obtain ⟨scope, found, -, -, ended⟩ := stepped
  split at ended
  · cases ended
    exact calm_withScope found
      (.of_participants rfl (le_refl _) (fun isOpen => isOpen) rfl)
  · rename_i closed
    cases ended
    exact calm_withScope found (Scope.keeps_createSettled rfl (eq_false_of_ne_true closed))

variable {scope : Scope}

theorem getScope_ok : manager.getScope scopeId = .ok scope ↔ manager.scopes.get scopeId = some scope := by
  rw [getScope]
  cases manager.scopes.get scopeId <;> simp

variable {controller : Controller}

theorem calm_activateScope :
    Calm manager (manager.activateScope config scopeId controller).1 := by
  rw [activateScope]
  split
  · exact .refl _
  · rename_i scope checked
    simp only [except_bind_ok, getScope_ok] at checked
    obtain ⟨old, found, ⟨⟩, current, same⟩ := checked
    cases same
    exact calm_withScope found (Scope.keeps_activated (Scope.isOpen_of_fenced current).1)

theorem calm_takeover {newControllerId : JsString} :
    Calm manager (manager.takeover scopeId newControllerId).1 := by
  rw [takeover]
  split
  · exact .refl _
  · rename_i scope found
    split
    · exact .refl _
    · exact calm_withScope (getScope_ok.mp found)
        (.of_participants rfl (le_succ _) (fun isOpen => isOpen) rfl)

theorem emitAndSweep_effect {executionId : JsString} {proto : DriverEvent} :
    (manager.emitAndSweep scopeId executionId proto now).1.executions =
        (manager.executions.emit executionId proto now).1 ∧
      Scopes.Keeps manager.scopes (manager.emitAndSweep scopeId executionId proto now).1.scopes ∧
      (manager.emitAndSweep scopeId executionId proto now).1.unsettled = manager.unsettled := by
  simp only [emitAndSweep]
  split
  · rename_i scope found
    split
    · exact ⟨rfl, (calm_withScope found Scope.keeps_scheduleIdleSweep).scopes, rfl⟩
    · exact ⟨rfl, .refl _, rfl⟩
  · exact ⟨rfl, .refl _, rfl⟩

theorem calm_driverEmits {call : Dispatch} {proto : DriverEvent}
    (stepped : manager.driverEmits call proto now = some next) : Calm manager next := by
  simp only [driverEmits, bind_eq_bind, bind_eq_some_iff] at stepped
  obtain ⟨-, -, ended⟩ := stepped
  cases ended
  obtain ⟨records, scopes, unsettled⟩ := @emitAndSweep_effect manager call.scopeId now
    call.executionId proto
  refine ⟨scopes, ?_, unsettled⟩
  rw [records]
  exact keeps_emit

theorem calm_ack {executionId : JsString} {finalSeq : Nat} {disposition : AckDisposition} :
    Calm manager (manager.ack scopeId executionId finalSeq disposition controller).1 := by
  simp only [ack]
  split
  · exact .refl _
  · split <;> exact ⟨.refl _, keeps_ack, rfl⟩

theorem calm_closeScope :
    Calm manager (manager.closeScope scopeId controller).1 := by
  rw [closeScope]
  split
  · exact .refl _
  · rename_i scope checked
    simp only [except_bind_ok, getScope_ok] at checked
    obtain ⟨old, found, ⟨⟩, -, same⟩ := checked
    cases same
    exact calm_withScope found Scope.keeps_beginClose

theorem calm_participantClosed (sound : manager.Sound)
    (stepped : manager.participantClosed scopeId participantId = some next) :
    Calm manager next := by
  simp only [participantClosed, bind_eq_bind, bind_eq_some_iff,
    guard_eq_some'] at stepped
  obtain ⟨scope, found, entry, participant, -, closing, ended⟩ := stepped
  cases ended
  obtain ⟨member, id⟩ := get_mem participant
  have closed := (sound scope (get_mem found).1 entry member).2 closing
  refine calm_withScope found (@Scope.Keeps.of_entry scope entry _ ?_ rfl ?_ ⟨?_, ?_⟩)
  · rw [← participant, ← id]
    rfl
  · intro isOpen
    rw [closed] at isOpen
    contradiction
  · intro isOpen
    rw [closed] at isOpen
    contradiction
  · intro _
    exact closed

theorem calm_scopeClosed (stepped : manager.scopeClosed scopeId = some next) : Calm manager next := by
  simp only [scopeClosed, bind_eq_bind, bind_eq_some_iff] at stepped
  obtain ⟨scope, found, -, -, ended⟩ := stepped
  cases ended
  have closes : Scope.Keeps scope { scope with state := .closed } :=
    .of_participants rfl (le_refl _) (fun isOpen => by simp [Scope.isOpen] at isOpen) rfl
  exact ⟨(calm_withScope found closes).scopes, keeps_releaseScope, rfl⟩

theorem calm_creatingExpired (stepped : manager.creatingExpired scopeId = some next) :
    Calm manager next := by
  simp only [creatingExpired, bind_eq_bind, bind_eq_some_iff] at stepped
  obtain ⟨scope, found, -, -, ended⟩ := stepped
  cases ended
  have fired : Scope.Keeps scope { scope with creatingTimer := false } :=
    .of_participants rfl (le_refl _) (fun isOpen => isOpen) rfl
  apply calm_withScope found
  split
  · exact fired.trans Scope.keeps_beginClose
  · exact fired

theorem calm_idleExpired (stepped : manager.idleExpired scopeId = some next) : Calm manager next := by
  simp only [idleExpired, bind_eq_bind, bind_eq_some_iff] at stepped
  obtain ⟨scope, found, -, -, ended⟩ := stepped
  cases ended
  have fired : Scope.Keeps scope { scope with idleTimer := false } :=
    .of_participants rfl (le_refl _) (fun isOpen => isOpen) rfl
  apply calm_withScope found
  split
  · exact fired
  · split
    · exact fired.trans Scope.keeps_scheduleIdleSweep
    · exact fired.trans Scope.keeps_beginClose

def begunEntry (spec : ParticipantSpec) : ParticipantEntry :=
  { ParticipantEntry.ofSpec spec with runtime := .prewarming, prewarming := true }

theorem begun_foldl (specs : List ParticipantSpec) (entries : Table ParticipantEntry.participantId)
    (held : ∀ entry ∈ entries.rows, entry.runtime = .prewarming ∧ entry.closing = false) :
    (specs.foldl (fun entries spec => entries.put (begunEntry spec)) entries).rows.length ≤
      entries.rows.length + specs.length ∧
    ∀ entry ∈ (specs.foldl (fun entries spec => entries.put (begunEntry spec)) entries).rows,
      entry.runtime = .prewarming ∧ entry.closing = false := by
  induction specs generalizing entries with
  | nil => exact ⟨le_refl _, held⟩
  | cons spec rest ih =>
    have grown : ∀ entry ∈ (entries.put (begunEntry spec)).rows,
        entry.runtime = .prewarming ∧ entry.closing = false := by
      intro entry member
      rcases mem_put.mp member with same | ⟨old, -⟩
      · rw [same]
        exact ⟨rfl, rfl⟩
      · exact held entry old
    obtain ⟨within, all⟩ := ih (entries.put (begunEntry spec)) grown
    refine ⟨?_, all⟩
    have longer := @Table.length_put_le _ _ ParticipantEntry.participantId _ entries (begunEntry spec)
    simp only [foldl_cons, length_cons]
    omega

theorem openScope_spec (request : CreateScopeRequest) (scopeId controllerId : JsString) :
    (openScope request scopeId controllerId).isOpen = true ∧
      (openScope request scopeId controllerId).processes ≤ request.participants.length ∧
      (openScope request scopeId controllerId).Sound := by
  obtain ⟨within, all⟩ := begun_foldl request.participants .empty (by simp [Table.empty])
  refine ⟨rfl, ?_, fun entry member => ?_⟩
  · have isOpen : (openScope request scopeId controllerId).isOpen = true := rfl
    simp only [Table.empty, length_nil, zero_add] at within
    rw [Scope.processes, isOpen, if_pos rfl]
    exact countP_le_length.trans within
  · have new := all entry member
    refine ⟨fun _ _ => new.1, fun closing => ?_⟩
    rw [new.2] at closing
    contradiction

theorem processes_eq (manager : ScopeManager) :
    manager.liveDriverProcessCount = Scopes.processes manager.scopes := by
  rw [liveDriverProcessCount, Scopes.processes]
  induction manager.scopes.rows with
  | nil => rfl
  | cons scope rest ih =>
    cases isOpen : scope.isOpen with
    | true => simp [isOpen, ih, Scope.processes]
    | false => simp [isOpen, ih, Scope.processes]

theorem createScope_cases {request : CreateScopeRequest} {controllerId : JsString} {time : Nat} :
    (manager.createScope config request scopeId controllerId time).1.executions = manager.executions ∧
      (manager.createScope config request scopeId controllerId time).1.unsettled = manager.unsettled ∧
      ((manager.createScope config request scopeId controllerId time).1.scopes = manager.scopes ∨
        manager.activeScopeCount < maxActiveScopes ∧
        manager.liveDriverProcessCount + request.participants.length ≤ maxDriverProcesses ∧
        (manager.createScope config request scopeId controllerId time).1.scopes =
          manager.scopes.put (openScope request scopeId controllerId)) := by
  simp only [createScope]
  split
  · exact ⟨rfl, rfl, .inl rfl⟩
  · split
    · exact ⟨rfl, rfl, .inl rfl⟩
    · rename_i admitted
      refine ⟨rfl, rfl, .inr ?_⟩
      simp only [admitScope] at admitted
      split at admitted
      · contradiction
      · split at admitted
        · contradiction
        · rename_i room
          split at admitted
          · contradiction
          · split at admitted
            · contradiction
            · rename_i processes
              exact ⟨Nat.lt_of_not_le room, Nat.le_of_not_lt processes, rfl⟩

def busyEntry (entry : ParticipantEntry) (executionId : JsString) : ParticipantEntry :=
  { entry with busyExecutionId := some executionId, runtime := .busy }

/-- A new execution: it ended before any driver call, or it is running and its
participant is busy with it. -/
structure Begins (manager next : ScopeManager) (scopeId : JsString) (request : ExecuteRequest)
    (scope : Scope) (entry : ParticipantEntry) (record : ExecutionRecord) : Prop where
  admits : manager.Admits scopeId request scope entry
  fresh : manager.executions.get request.executionId = none
  id : record.executionId = request.executionId
  call : record.call = ⟨request.executionId, request.participantId, scopeId⟩
  ended : record.Ended
  executions : next.executions = manager.executions.put record
  outcome : (record.state ≠ .running ∧ Scopes.Keeps manager.scopes next.scopes ∧
      next.unsettled = manager.unsettled) ∨
    (next.scopes = manager.scopes.put (scope.withEntry (busyEntry entry request.executionId)) ∧
      next.unsettled = manager.unsettled ++ [record.call])

/-- The manager between the `begin` of a record and the end of `execute`. -/
structure Begun (manager begun : ScopeManager) (record : ExecutionRecord) : Prop where
  executions : begun.executions = manager.executions.put record
  scopes : Scopes.Keeps manager.scopes begun.scopes
  unsettled : begun.unsettled = manager.unsettled
  ended : record.Ended
  live : record.tombstone = false

variable {record : ExecutionRecord}

theorem Begun.emit {begun : ScopeManager}
    (held : Begun manager begun record) (scopeId now : JsString) (proto : DriverEvent) :
    ∃ after, Begun manager (begun.emitAndSweep scopeId record.executionId proto now).1 after ∧
      after.executionId = record.executionId ∧ after.call = record.call ∧
      (proto.isTerminalEvent = true → after.state ≠ .running) := by
  obtain ⟨records, scopes, unsettled⟩ :=
    @emitAndSweep_effect begun scopeId now record.executionId proto
  obtain ⟨after, emitted, id, call, ended, live, ending⟩ :=
    manager.executions.emit_put record proto now held.ended held.live
  refine ⟨after, ⟨?_, held.scopes.trans scopes, unsettled.trans held.unsettled, ended, live⟩, id,
    call, ending⟩
  rw [records, held.executions, emitted]

variable {request : ExecuteRequest}

theorem execute_cases {rebase : Option JsString} :
    (manager.execute scopeId request rebase now).1 = manager ∨
      ∃ scope entry record, Begins manager (manager.execute scopeId request rebase now).1 scopeId
        request scope entry record := by
  cases admitted : manager.admitExecute scopeId request with
  | error failure => exact .inl (by simp only [execute, admitted])
  | ok place =>
    obtain ⟨scope, entry⟩ := place
    have admits := admitExecute_ok.mp admitted
    have scopeKey : scope.scopeId = scopeId := (get_mem admits.found).2
    have entryKey : entry.participantId = request.participantId :=
      (get_mem admits.participant).2
    cases known : manager.executions.get request.executionId with
    | some existing =>
      exact .inl (by simp only [execute, admitted, begin, known, Bool.not_false, if_true])
    | none =>
      let record := ExecutionRecord.fresh request.executionId request.participantId scopeId now
      let begun : ScopeManager := { manager with executions := manager.executions.put record }
      have started : (manager.execute scopeId request rebase now).1 =
          (begun.dispatch scope entry request.executionId rebase now).1 := by
        simp only [execute, admitted, begin, known, Bool.not_true, Bool.false_eq_true, if_false]
        rfl
      have held : Begun manager begun record :=
        ⟨rfl, .refl _, rfl, ⟨fun _ => rfl, fun _ => rfl⟩, rfl⟩
      refine .inr ⟨scope, entry, ?_⟩
      rw [started]
      cases resolved : entry.binding with
      | none =>
        simp only [dispatch, resolved]
        obtain ⟨after, ends, id, call, ending⟩ := held.emit scope.scopeId now (failedBeforeDispatch _)
        exact ⟨after, admits, known, id, call, ends.ended, ends.executions,
          .inl ⟨ending rfl, ends.scopes, ends.unsettled⟩⟩
      | some binding =>
        cases rebase with
        | some reason =>
          simp only [dispatch, resolved]
          obtain ⟨first, middle, firstId, firstCall, -⟩ :=
            held.emit scope.scopeId now (.started binding.requestedModel)
          obtain ⟨after, ends, id, call, ending⟩ :=
            middle.emit scope.scopeId now (failedBeforeDispatch _)
          rw [firstId] at ends
          exact ⟨after, admits, known, id.trans firstId, call.trans firstCall, ends.ended,
            ends.executions, .inl ⟨ending rfl, ends.scopes, ends.unsettled⟩⟩
        | none =>
          have called : (begun.dispatch scope entry request.executionId none now).1 =
              { begun.withScope (scope.withEntry (busyEntry entry request.executionId)) with
                dispatched := manager.dispatched ++ [record.call]
                unsettled := manager.unsettled ++ [record.call] } := by
            simp only [dispatch, resolved, entryKey, scopeKey, busyEntry]
            rfl
          rw [called]
          exact ⟨record, admits, known, rfl, rfl, held.ended, rfl, .inr ⟨rfl, rfl⟩⟩

/-- Every driver call that has not settled keeps its participant busy. -/
structure Bounded (manager : ScopeManager) : Prop where
  active : manager.activeScopeCount ≤ maxActiveScopes
  processes : manager.liveDriverProcessCount ≤ maxDriverProcesses
  running : manager.executions.runningCount ≤ maxConcurrentExecutions
  sound : manager.Sound
  ended : ∀ record ∈ manager.executions.rows, record.Ended
  busy : ∀ call ∈ manager.unsettled,
    Scopes.busyAt manager.scopes call.scopeId call.participantId = some (some call.executionId)
  distinct : manager.unsettled.Nodup

def Raises (before after : ScopeManager) : Prop :=
  ∀ {scopeId scope}, before.scopes.get scopeId = some scope →
    ∃ next, after.scopes.get scopeId = some next ∧ scope.leaseEpoch ≤ next.leaseEpoch

theorem Raises.refl (manager : ScopeManager) : Raises manager manager :=
  fun found => ⟨_, found, le_refl _⟩

theorem Raises.trans {middle : ScopeManager} (first : Raises manager middle)
    (second : Raises middle next) : Raises manager next := by
  intro scopeId scope found
  obtain ⟨there, present, raised⟩ := first found
  obtain ⟨last, ended, again⟩ := second present
  exact ⟨last, ended, raised.trans again⟩

theorem Calm.raises (calm : Calm manager next) : Raises manager next := calm.scopes.epochs

theorem Bounded.calm (held : manager.Bounded) (calm : Calm manager next) : next.Bounded where
  active := calm.scopes.opened.trans held.active
  processes := by
    rw [processes_eq]
    exact calm.scopes.processes.trans (processes_eq manager ▸ held.processes)
  running := calm.records.running.trans held.running
  sound := calm.scopes.sound held.sound
  ended := calm.records.ended held.ended
  busy call member := by
    rw [calm.unsettled] at member
    rw [calm.scopes.busy]
    exact held.busy call member
  distinct := calm.unsettled ▸ held.distinct

theorem Bounded.createScope {request : CreateScopeRequest} {controllerId : JsString} {time : Nat}
    (held : manager.Bounded) (absent : manager.scopes.get scopeId = none) :
    (manager.createScope config request scopeId controllerId time).1.Bounded ∧
      Raises manager (manager.createScope config request scopeId controllerId time).1 := by
  obtain ⟨executions, unsettled, either⟩ :=
    @createScope_cases config manager scopeId request controllerId time
  rcases either with same | ⟨room, processes, opened⟩
  · have calm : Calm manager (manager.createScope config request scopeId controllerId time).1 :=
      ⟨same ▸ .refl _, executions ▸ .refl _, unsettled⟩
    exact ⟨held.calm calm, calm.raises⟩
  obtain ⟨isOpen, few, sound⟩ := openScope_spec request scopeId controllerId
  have new : manager.scopes.get (openScope request scopeId controllerId).scopeId = none := absent
  have rows : (manager.scopes.put (openScope request scopeId controllerId)).rows =
      manager.scopes.rows ++ [openScope request scopeId controllerId] := rows_put new
  refine ⟨⟨?_, ?_, ?_, ?_, ?_, ?_, ?_⟩, ?_⟩
  · rw [activeScopeCount, opened, rows, countP_append, countP_singleton, isOpen, if_pos rfl]
    exact room
  · rw [processes_eq, opened, Scopes.processes, rows, map_append, sum_append_nat]
    rw [processes_eq, Scopes.processes] at processes
    simp only [map_singleton, sum_singleton]
    omega
  · rw [executions]
    exact held.running
  · intro scope member
    rw [opened, rows, mem_append, mem_singleton] at member
    cases member with
    | inl old => exact held.sound scope old
    | inr here => exact here ▸ sound
  · rw [executions]
    exact held.ended
  · intro call member
    rw [unsettled] at member
    have busy := held.busy call member
    rw [opened, Scopes.busyAt_put, if_neg]
    · exact busy
    · intro same
      rw [Scopes.busyAt, same, new] at busy
      contradiction
  · rw [unsettled]
    exact held.distinct
  · intro id scope found
    rw [opened, get_put_other]
    · exact ⟨scope, found, le_refl _⟩
    · intro same
      rw [same, new] at found
      contradiction

variable {entry : ParticipantEntry}

theorem within_busyEntry
    (sound : manager.Sound) (admits : manager.Admits scopeId request scope entry) :
    Scope.Within scope (scope.withEntry (busyEntry entry request.executionId)) := by
  obtain ⟨member, id⟩ := get_mem admits.participant
  have isOpen : scope.isOpen = true := (Scope.isOpen_of_fenced admits.current).1
  have held := sound scope (get_mem admits.found).1 entry member
  have found : scope.participants.get (busyEntry entry request.executionId).participantId = some entry := by
    rw [show (busyEntry entry request.executionId).participantId = request.participantId from id,
      admits.participant]
  refine .of_entry found (fun _ _ => ?_) ⟨fun _ prewarming => ?_, held.2⟩
  · simp [ParticipantEntry.isLive, admits.ready]
  · have runtime := held.1 isOpen prewarming
    rw [admits.ready] at runtime
    contradiction

theorem Begins.bounded
    (begins : Begins manager next scopeId request scope entry record)
    (held : manager.Bounded) : next.Bounded ∧ Raises manager next := by
  have absent : manager.executions.get record.executionId = none := by rw [begins.id, begins.fresh]
  have scopeKey : scope.scopeId = scopeId := (get_mem begins.admits.found).2
  have rows : (manager.executions.put record).rows = manager.executions.rows ++ [record] :=
    rows_put absent
  have room := begins.admits.room
  have running : next.executions.runningCount ≤ maxConcurrentExecutions := by
    rw [begins.executions, runningCount, rows, filter_append, length_append]
    have one : (List.filter (fun record => decide (ExecutionRecord.state record = .running))
        [record]).length ≤ 1 := length_filter_le _ _
    simp only [runningCount] at room
    omega
  have ended : ∀ record ∈ next.executions.rows, record.Ended := by
    intro other member
    rw [begins.executions, rows, mem_append, mem_singleton] at member
    cases member with
    | inl old => exact held.ended other old
    | inr here => exact here ▸ begins.ended
  rcases begins.outcome with ⟨-, scopes, unsettled⟩ | ⟨scopes, unsettled⟩
  · refine ⟨⟨scopes.opened.trans held.active, ?_, running, scopes.sound held.sound, ended, ?_,
      unsettled ▸ held.distinct⟩, scopes.epochs⟩
    · rw [processes_eq]
      exact scopes.processes.trans (processes_eq manager ▸ held.processes)
    · intro call member
      rw [unsettled] at member
      rw [scopes.busy]
      exact held.busy call member
  have found : manager.scopes.get (scope.withEntry (busyEntry entry request.executionId)).scopeId =
      some scope := by
    rw [show (scope.withEntry (busyEntry entry request.executionId)).scopeId = scopeId from scopeKey,
      begins.admits.found]
  have within : Scopes.Within manager.scopes next.scopes :=
    scopes ▸ .put found (within_busyEntry held.sound begins.admits)
  have participant : (busyEntry entry request.executionId).participantId = request.participantId :=
    (get_mem begins.admits.participant).2
  -- The participant was idle, so no earlier call is its own.
  have idle : ∀ call ∈ manager.unsettled,
      ¬ (call.scopeId = scopeId ∧ call.participantId = request.participantId) := by
    intro call member own
    have busy := held.busy call member
    rw [own.1, own.2, Scopes.busyAt, begins.admits.found, bind_some, Scope.busyOf,
      begins.admits.participant, map_some, begins.admits.idle] at busy
    simp at busy
  refine ⟨⟨within.opened.trans held.active, ?_, running, within.sound held.sound, ended, ?_, ?_⟩,
    within.epochs⟩
  · rw [processes_eq]
    exact within.processes.trans (processes_eq manager ▸ held.processes)
  · intro call member
    rw [unsettled, mem_append, mem_singleton] at member
    rw [scopes, Scopes.busyAt_put, Scope.busyOf_withEntry, participant]
    cases member with
    | inl old =>
      have busy := held.busy call old
      split
      · rename_i same
        rw [if_neg fun own => idle call old ⟨same.trans scopeKey, own⟩]
        rw [Scopes.busyAt, same.trans scopeKey, begins.admits.found] at busy
        exact busy
      · exact busy
    | inr here =>
      rw [here, begins.call]
      exact (if_pos scopeKey.symm).trans ((if_pos rfl).trans rfl)
  · rw [unsettled]
    refine nodup_append.mpr ⟨held.distinct, nodup_singleton _, ?_⟩
    intro call member other single same
    rw [mem_singleton] at single
    refine idle call member ?_
    rw [same, single, begins.call]
    exact ⟨rfl, rfl⟩

def freedEntry (entry : ParticipantEntry) : ParticipantEntry :=
  { entry with
    busyExecutionId := none
    runtime := if entry.runtime = .busy then .ready else entry.runtime }

theorem within_freedEntry
    (sound : scope.Sound) (participant : scope.participants.get participantId = some entry) :
    Scope.Within scope (scope.withEntry (freedEntry entry)) := by
  obtain ⟨member, id⟩ := get_mem participant
  have held := sound entry member
  refine .of_entry (show scope.participants.get entry.participantId = some entry by rw [id, participant])
    ?_ ⟨?_, held.2⟩
  · intro _ live
    by_cases was : entry.runtime = .busy
    · simp [ParticipantEntry.isLive, was]
    · simpa [freedEntry, ParticipantEntry.isLive, was] using live
  · intro isOpen prewarming
    have runtime := held.1 isOpen prewarming
    simp [freedEntry, runtime]

theorem Bounded.executeSettled {call : Dispatch} (held : manager.Bounded)
    (stepped : manager.executeSettled call = some next) :
    next.Bounded ∧ Raises manager next ∧ next.executions = manager.executions ∧
      next.unsettled = manager.unsettled.erase call := by
  simp only [ScopeManager.executeSettled, bind_eq_bind, bind_eq_some_iff,
    guard_eq_some'] at stepped
  obtain ⟨-, pending, ended⟩ := stepped
  have busy := held.busy call pending
  cases found : manager.scopes.get call.scopeId with
  | none => simp [Scopes.busyAt, found] at busy
  | some scope =>
    rw [Scopes.busyAt, found, bind_some, Scope.busyOf] at busy
    cases participant : scope.participants.get call.participantId with
    | none => simp [participant] at busy
    | some entry =>
      simp only [found, participant] at ended
      have result : { manager with
          scopes := manager.scopes.put (scope.withEntry (freedEntry entry))
          unsettled := manager.unsettled.erase call } = next := Option.some.inj ended
      subst result
      have entryKey : (freedEntry entry).participantId = call.participantId :=
        (get_mem participant).2
      have scopeKey : (scope.withEntry (freedEntry entry)).scopeId = call.scopeId :=
        (get_mem found).2
      have scopes : Scopes.Within manager.scopes
          (manager.scopes.put (scope.withEntry (freedEntry entry))) :=
        .put (scopeKey ▸ found) (within_freedEntry (held.sound scope (get_mem found).1) participant)
      refine ⟨⟨scopes.opened.trans held.active, ?_, held.running, scopes.sound held.sound,
        held.ended, ?_, held.distinct.erase call⟩, scopes.epochs, rfl, rfl⟩
      · rw [processes_eq]
        exact scopes.processes.trans (processes_eq manager ▸ held.processes)
      · intro other remaining
        obtain ⟨different, old⟩ := held.distinct.mem_erase_iff.mp remaining
        have others := held.busy other old
        rw [Scopes.busyAt_put, Scope.busyOf_withEntry, scopeKey, entryKey]
        split
        · rename_i sameScope
          rw [Scopes.busyAt, sameScope, found, bind_some] at others
          split
          · rename_i own
            -- Both calls would be the one the participant is busy with.
            rw [own, Scope.busyOf, busy, Option.some.injEq, Option.some.injEq] at others
            refine absurd ?_ different
            cases other
            cases call
            simp_all
          · exact others
        · exact others

def settlesEnded (manager : ScopeManager) : HostAction → Prop
  | .executeSettled call =>
    ∀ record ∈ manager.executions.rows, record.call = call → record.state ≠ .running
  | _ => True

instance (manager : ScopeManager) : (action : HostAction) → Decidable (settlesEnded manager action)
  | .executeSettled call => inferInstanceAs (Decidable
      (∀ record ∈ manager.executions.rows, record.call = call → record.state ≠ .running))
  | .createScope .. | .prewarmed .. | .createSettled .. | .activateScope .. | .takeover ..
  | .execute .. | .driverEmits .. | .executeRejected .. | .cancel .. | .ack ..
  | .closeScope .. | .closeAll .. | .participantClosed .. | .scopeClosed .. | .creatingExpired ..
  | .idleExpired .. => .isTrue trivial

def Driven (manager : ScopeManager) : Prop :=
  ∀ record ∈ manager.executions.rows, record.state = .running → record.call ∈ manager.unsettled

theorem Driven.calm (held : manager.Driven) (calm : Calm manager next) : next.Driven := by
  intro record member running
  obtain ⟨old, present, live, same⟩ := calm.records.origin record member running
  rw [same, calm.unsettled]
  exact held old present live

theorem Driven.begins {scope : Scope} {entry : ParticipantEntry}
    (held : manager.Driven)
    (begins : Begins manager next scopeId request scope entry record) : next.Driven := by
  have kept : ∀ call ∈ manager.unsettled, call ∈ next.unsettled := by
    intro call member
    rcases begins.outcome with ⟨-, -, same⟩ | ⟨-, more⟩
    · rw [same]
      exact member
    · rw [more]
      exact mem_append_left _ member
  intro other member running
  rw [begins.executions] at member
  rcases mem_put.mp member with here | ⟨old, -⟩
  · subst here
    rcases begins.outcome with ⟨ending, -, -⟩ | ⟨-, more⟩
    · exact absurd running ending
    · rw [more]
      exact mem_append_right _ (mem_singleton_self _)
  · exact kept _ (held other old running)

theorem Bounded.step {action : HostAction} (held : manager.Bounded)
    (stepped : manager.step config action = some next) :
    (next.Bounded ∧ Raises manager next) ∧
      (settlesEnded manager action → manager.Driven → next.Driven) := by
  have settle (calm : Calm manager next) : (next.Bounded ∧ Raises manager next) ∧
      (settlesEnded manager action → manager.Driven → next.Driven) :=
    ⟨⟨held.calm calm, calm.raises⟩, fun _ driven => driven.calm calm⟩
  cases action with
  | createScope request scopeId controllerId time =>
    simp only [ScopeManager.step] at stepped
    split at stepped
    · contradiction
    · rename_i absent
      cases stepped
      refine ⟨held.createScope (by simpa using absent), fun _ driven record member running => ?_⟩
      obtain ⟨executions, unsettled, -⟩ :=
        @createScope_cases config manager scopeId request controllerId time
      rw [executions] at member
      rw [unsettled]
      exact driven record member running
  | prewarmed scopeId participantId answer => exact settle (calm_prewarmed held.sound stepped)
  | createSettled scopeId => exact settle (calm_createSettled stepped)
  | activateScope scopeId controller =>
    cases stepped
    exact settle calm_activateScope
  | takeover scopeId newControllerId =>
    cases stepped
    exact settle calm_takeover
  | execute scopeId request rebase now =>
    cases stepped
    rcases @execute_cases manager scopeId now request rebase with same | ⟨scope, entry, record, begins⟩
    · have calm : Calm manager (manager.execute scopeId request rebase now).1 := by
        rw [same]
        exact .refl manager
      exact settle calm
    · exact ⟨begins.bounded held, fun _ driven => driven.begins begins⟩
  | driverEmits call proto now => exact settle (calm_driverEmits stepped)
  | executeRejected call message now => exact settle (calm_driverEmits stepped)
  | executeSettled call =>
    obtain ⟨bounded, raises, executions, unsettled⟩ := held.executeSettled stepped
    refine ⟨⟨bounded, raises⟩, fun ends driven record member running => ?_⟩
    rw [executions] at member
    rw [unsettled]
    have different : record.call ≠ call := fun same => ends record member same running
    exact (mem_erase_of_ne different).mpr (driven record member running)
  | cancel scopeId executionId controller =>
    cases stepped
    exact settle (.refl manager)
  | ack scopeId executionId finalSeq disposition controller =>
    cases stepped
    exact settle calm_ack
  | closeScope scopeId controller =>
    cases stepped
    exact settle calm_closeScope
  | closeAll =>
    cases stepped
    exact settle ⟨.closeAll, .refl _, rfl⟩
  | participantClosed scopeId participantId =>
    exact settle (calm_participantClosed held.sound stepped)
  | scopeClosed scopeId => exact settle (calm_scopeClosed stepped)
  | creatingExpired scopeId => exact settle (calm_creatingExpired stepped)
  | idleExpired scopeId => exact settle (calm_idleExpired stepped)

theorem Bounded.empty : ScopeManager.empty.Bounded where
  active := zero_le _
  processes := zero_le _
  running := zero_le _
  sound _ member := absurd member not_mem_nil
  ended _ member := absurd member not_mem_nil
  busy _ member := absurd member not_mem_nil
  distinct := nodup_nil

end ScopeManager

def HostAction.controlled : HostAction → Option (JsString × Controller)
  | .activateScope scopeId controller => some (scopeId, controller)
  | .execute scopeId request _ _ => some (scopeId, request.controller)
  | .cancel scopeId _ controller => some (scopeId, controller)
  | .ack scopeId _ _ _ controller => some (scopeId, controller)
  | .closeScope scopeId controller => some (scopeId, controller)
  | _ => none

namespace ScopeManager

variable {config : HostConfig} {manager : ScopeManager} {scopeId : JsString}

variable {controller : Controller}

end ScopeManager

end CouncilKit.Host
