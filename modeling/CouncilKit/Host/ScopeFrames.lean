import Mathlib
import CouncilKit.Host.Dispatches
import CouncilKit.Host.EventStreams

namespace CouncilKit.Host

open Data ScopeManager Table Nat Option
open ExecutionRecord

namespace Scope

def processes (scope : Scope) : Nat :=
  if scope.isOpen then scope.participants.rows.countP ParticipantEntry.isLive else 0

/-- A prewarm in an open scope shows in the runtime state, and no driver of an
open scope is being closed. -/
def Sound (scope : Scope) : Prop :=
  ∀ entry ∈ scope.participants.rows,
    (scope.isOpen = true → entry.prewarming = true → entry.runtime = .prewarming) ∧
      (entry.closing = true → scope.isOpen = false)

def busyOf (scope : Scope) (participantId : JsString) : Option (Option JsString) :=
  (scope.participants.get participantId).map (·.busyExecutionId)

structure Within (before after : Scope) : Prop where
  scopeId : after.scopeId = before.scopeId
  epoch : before.leaseEpoch ≤ after.leaseEpoch
  opened : after.isOpen = true → before.isOpen = true
  processes : after.processes ≤ before.processes
  sound : before.Sound → after.Sound

/-- Every step but a dispatch and its end also leaves alone who is busy. -/
structure Keeps (before after : Scope) : Prop extends Within before after where
  busy : ∀ participantId, after.busyOf participantId = before.busyOf participantId

variable {scope before after : Scope}

theorem Keeps.refl (scope : Scope) : Keeps scope scope :=
  ⟨⟨rfl, le_refl _, fun opened => opened, le_refl _, fun sound => sound⟩, fun _ => rfl⟩

theorem Keeps.trans {middle : Scope} (first : Keeps before middle) (second : Keeps middle after) :
    Keeps before after where
  scopeId := second.scopeId.trans first.scopeId
  epoch := first.epoch.trans second.epoch
  opened isOpen := first.opened (second.opened isOpen)
  processes := second.processes.trans first.processes
  sound held := second.sound (first.sound held)
  busy participantId := (second.busy participantId).trans (first.busy participantId)

theorem Keeps.of_participants (scopeId : after.scopeId = before.scopeId)
    (epoch : before.leaseEpoch ≤ after.leaseEpoch)
    (opened : after.isOpen = true → before.isOpen = true)
    (participants : after.participants = before.participants) : Keeps before after where
  scopeId := scopeId
  epoch := epoch
  opened := opened
  processes := by
    simp only [Scope.processes, participants]
    cases isOpen : after.isOpen with
    | true => simp [opened isOpen]
    | false => simp
  sound held entry member := by
    rw [participants] at member
    have old := held entry member
    refine ⟨fun isOpen => old.1 (opened isOpen), fun closing => ?_⟩
    cases isOpen : after.isOpen with
    | true =>
      rw [opened isOpen] at old
      exact old.2 closing
    | false => rfl
  busy participantId := by rw [busyOf, busyOf, participants]

theorem processes_closed (closed : scope.isOpen = false) : scope.processes = 0 := by
  simp [processes, closed]

theorem Keeps.of_closed (scopeId : after.scopeId = before.scopeId)
    (epoch : before.leaseEpoch ≤ after.leaseEpoch) (closed : after.isOpen = false)
    (busy : ∀ participantId, after.busyOf participantId = before.busyOf participantId) :
    Keeps before after where
  scopeId := scopeId
  epoch := epoch
  opened isOpen := by
    rw [closed] at isOpen
    contradiction
  processes := by
    rw [processes_closed closed]
    exact zero_le _
  sound _ entry _ := by
    refine ⟨fun isOpen => ?_, fun _ => closed⟩
    rw [closed] at isOpen
    contradiction
  busy := busy

theorem busyOf_mapEntries {change : ParticipantEntry → ParticipantEntry}
    {same : ∀ entry, (change entry).participantId = entry.participantId}
    (keeps : ∀ entry, (change entry).busyExecutionId = entry.busyExecutionId)
    (participantId : JsString) :
    (scope.mapEntries change same).busyOf participantId = scope.busyOf participantId := by
  have moved : (fun entry => decide ((change entry).participantId = participantId)) =
      fun entry => decide (entry.participantId = participantId) := by
    funext entry
    rw [same]
  simp only [busyOf, mapEntries, Table.get, Table.map, List.find?_map, map_map]
  rw [show (fun entry => decide (ParticipantEntry.participantId entry = participantId)) ∘ change =
    fun entry => decide (entry.participantId = participantId) from moved]
  congr 1
  funext entry
  exact keeps entry

theorem countP_eq_sum {α : Type*} (holds : α → Bool) (rows : List α) :
    rows.countP holds = (rows.map fun row => if holds row then 1 else 0).sum := by
  induction rows with
  | nil => rfl
  | cons row rest ih => cases held : holds row <;> simp [held, ih, add_comm]

variable {entry changed : ParticipantEntry}

theorem Within.of_entry
    (found : scope.participants.get changed.participantId = some entry)
    (live : scope.isOpen = true → changed.isLive = true → entry.isLive = true)
    (sound : (scope.isOpen = true → changed.prewarming = true → changed.runtime = .prewarming) ∧
      (changed.closing = true → scope.isOpen = false)) :
    Within scope (scope.withEntry changed) where
  scopeId := rfl
  epoch := le_refl _
  opened isOpen := isOpen
  processes := by
    have same : (scope.withEntry changed).isOpen = scope.isOpen := rfl
    simp only [Scope.processes, same]
    cases isOpen : scope.isOpen with
    | false => simp
    | true =>
      have total := sum_put (fun entry => if ParticipantEntry.isLive entry then 1 else 0) found
      simp only [if_true, countP_eq_sum, withEntry]
      cases was : changed.isLive with
      | false => simp only [was, Bool.false_eq_true, if_false] at total; omega
      | true => simp only [was, live isOpen was, if_true] at total; omega
  sound held other member := by
    rcases mem_put.mp member with same | ⟨old, -⟩
    · rw [same]
      exact sound
    · exact held other old

theorem busyOf_withEntry {changed : ParticipantEntry} (participantId : JsString) :
    (scope.withEntry changed).busyOf participantId =
      if participantId = changed.participantId then some changed.busyExecutionId
      else scope.busyOf participantId := by
  simp only [busyOf, withEntry, get_put]
  split <;> rfl

theorem Keeps.of_entry
    (found : scope.participants.get changed.participantId = some entry)
    (busy : changed.busyExecutionId = entry.busyExecutionId)
    (live : scope.isOpen = true → changed.isLive = true → entry.isLive = true)
    (sound : (scope.isOpen = true → changed.prewarming = true → changed.runtime = .prewarming) ∧
      (changed.closing = true → scope.isOpen = false)) :
    Keeps scope (scope.withEntry changed) := by
  refine ⟨.of_entry found live sound, fun participantId => ?_⟩
  rw [busyOf_withEntry]
  split
  · rename_i same
    rw [same, busyOf, found, map_some, busy]
  · rfl

theorem keeps_prewarmed {participantId : JsString} {entry : ParticipantEntry}
    (sound : scope.Sound) (found : scope.participants.get participantId = some entry)
    (prewarming : entry.prewarming = true) (answer : PrewarmAnswer) :
    Keeps scope (scope.withEntry (entry.prewarmed scope.state answer)) := by
  obtain ⟨member, id⟩ := get_mem found
  have held := sound entry member
  have ends : (entry.prewarmed scope.state answer).prewarming = false ∧
      (entry.prewarmed scope.state answer).closing = entry.closing ∧
      (entry.prewarmed scope.state answer).busyExecutionId = entry.busyExecutionId ∧
      (entry.prewarmed scope.state answer).participantId = entry.participantId := by
    simp only [ParticipantEntry.prewarmed]
    split
    · exact ⟨rfl, rfl, rfl, rfl⟩
    · split <;> exact ⟨rfl, rfl, rfl, rfl⟩
    · split <;> exact ⟨rfl, rfl, rfl, rfl⟩
  refine .of_entry (by rw [ends.2.2.2, id, found]) ends.2.2.1 ?_ ⟨?_, ?_⟩
  · intro isOpen _
    simp [ParticipantEntry.isLive, held.1 isOpen prewarming]
  · intro _ still
    rw [ends.1] at still
    contradiction
  · intro closing
    rw [ends.2.1] at closing
    exact held.2 closing

theorem keeps_scheduleIdleSweep : Keeps scope scope.scheduleIdleSweep := by
  rw [scheduleIdleSweep]
  split
  · exact .refl scope
  · exact .of_participants rfl (le_refl _) (fun isOpen => isOpen) rfl

theorem keeps_activated (isOpen : scope.isOpen = true) :
    Keeps scope (activated scope) := by
  rw [activated]
  split
  · have active : Keeps scope { scope with state := .active, creatingTimer := false } :=
      .of_participants rfl (le_refl _) (fun _ => isOpen) rfl
    exact active.trans keeps_scheduleIdleSweep
  · exact .refl scope

theorem keeps_beginClose : Keeps scope (beginClose scope) := by
  rw [beginClose]
  split
  · exact .refl scope
  · exact .of_closed rfl (le_refl _) rfl (busyOf_mapEntries fun _ => rfl)

theorem keeps_createSettled {settled : Scope} (created : settled = { scope with createPending := false })
    (closed : settled.isOpen = false) : Keeps scope (settled.mapEntries
      (fun entry => if entry.runtime = .ready ∨ entry.runtime = .prewarming then entry.cooled
        else entry) (fun entry => by split <;> rfl)) := by
  subst created
  refine .of_closed rfl (le_refl _) closed fun participantId => ?_
  refine (busyOf_mapEntries (fun entry => ?_) participantId).trans rfl
  split <;> rfl

theorem isOpen_of_fenced {controller : Controller} (current : scope.fenced controller = .ok ()) :
    scope.isOpen = true ∧ scope.controllerId = controller.controllerId ∧
      scope.leaseEpoch = controller.leaseEpoch := by
  rw [fenced] at current
  split at current
  · contradiction
  · rename_i open_
    split at current
    · contradiction
    · rename_i same
      rw [not_or, not_not, not_not] at same
      refine ⟨?_, same⟩
      cases state : scope.state <;> simp_all [isOpen]

end Scope

abbrev Scopes := Table Scope.scopeId

namespace Scopes

def openCount (scopes : Scopes) : Nat := scopes.rows.countP Scope.isOpen

def processes (scopes : Scopes) : Nat := (scopes.rows.map Scope.processes).sum

def busyAt (scopes : Scopes) (scopeId participantId : JsString) : Option (Option JsString) :=
  (scopes.get scopeId).bind fun scope => scope.busyOf participantId

structure Within (before after : Scopes) : Prop where
  opened : openCount after ≤ openCount before
  processes : processes after ≤ processes before
  sound : (∀ scope ∈ before.rows, scope.Sound) → ∀ scope ∈ after.rows, scope.Sound
  epochs : ∀ {scopeId scope}, before.get scopeId = some scope →
    ∃ next, after.get scopeId = some next ∧ scope.leaseEpoch ≤ next.leaseEpoch

structure Keeps (before after : Scopes) : Prop extends Within before after where
  busy : ∀ scopeId participantId, busyAt after scopeId participantId = busyAt before scopeId participantId

variable {scopes before after : Scopes} {old new : Scope}

theorem Within.refl (scopes : Scopes) : Within scopes scopes :=
  ⟨le_refl _, le_refl _, fun sound => sound, fun found => ⟨_, found, le_refl _⟩⟩

theorem Keeps.refl (scopes : Scopes) : Keeps scopes scopes := ⟨.refl scopes, fun _ _ => rfl⟩

theorem Within.trans {middle : Scopes} (first : Within before middle)
    (second : Within middle after) : Within before after where
  opened := second.opened.trans first.opened
  processes := second.processes.trans first.processes
  sound held := second.sound (first.sound held)
  epochs found := by
    obtain ⟨next, there, raised⟩ := first.epochs found
    obtain ⟨last, present, again⟩ := second.epochs there
    exact ⟨last, present, raised.trans again⟩

theorem Keeps.trans {middle : Scopes} (first : Keeps before middle) (second : Keeps middle after) :
    Keeps before after :=
  ⟨first.toWithin.trans second.toWithin, fun scopeId participantId =>
    (second.busy scopeId participantId).trans (first.busy scopeId participantId)⟩

theorem Within.put (found : scopes.get new.scopeId = some old) (within : Scope.Within old new) :
    Within scopes (scopes.put new) where
  opened := by
    have total := sum_put (fun scope => if Scope.isOpen scope then 1 else 0) found
    simp only [openCount, Scope.countP_eq_sum]
    cases isOpen : new.isOpen with
    | false => simp only [isOpen, Bool.false_eq_true, if_false] at total; omega
    | true => simp only [isOpen, within.opened isOpen, if_true] at total; omega
  processes := by
    have total := sum_put Scope.processes found
    have fewer := within.processes
    simp only [Scopes.processes]
    omega
  sound held scope member := by
    rcases mem_put.mp member with same | ⟨present, -⟩
    · exact same ▸ within.sound (held old (get_mem found).1)
    · exact held scope present
  epochs {scopeId scope} present := by
    rw [get_put]
    split
    · rename_i same
      rw [same, found] at present
      cases present
      exact ⟨new, rfl, within.epoch⟩
    · exact ⟨scope, present, le_refl _⟩

theorem busyAt_put (scopeId participantId : JsString) :
    busyAt (scopes.put new) scopeId participantId =
      if scopeId = new.scopeId then new.busyOf participantId
      else busyAt scopes scopeId participantId := by
  simp only [busyAt, get_put]
  split <;> rfl

theorem Keeps.put (found : scopes.get old.scopeId = some old) (keeps : Scope.Keeps old new) :
    Keeps scopes (scopes.put new) := by
  rw [← keeps.scopeId] at found
  refine ⟨.put found keeps.toWithin, fun scopeId participantId => ?_⟩
  rw [busyAt_put]
  split
  · rename_i same
    rw [busyAt, same, found, bind_some, keeps.busy]
  · rfl

theorem Keeps.closeAll :
    Keeps scopes (scopes.map beginClose scopeId_beginClose) := by
  have get (scopeId : JsString) : (scopes.map beginClose
      scopeId_beginClose).get scopeId =
        (scopes.get scopeId).map beginClose := by
    have same : (fun scope => decide (Scope.scopeId scope = scopeId)) ∘ beginClose =
        fun scope => decide (scope.scopeId = scopeId) := by
      funext scope
      simp only [Function.comp_apply, scopeId_beginClose]
    simp only [Table.get, Table.map, List.find?_map, same]
  constructor
  · constructor
    · simp only [openCount, map, List.countP_map]
      refine List.countP_mono_left fun scope _ isOpen => ?_
      exact Scope.keeps_beginClose.opened isOpen
    · simp only [Scopes.processes, map, List.map_map]
      exact List.sum_le_sum fun scope _ => Scope.keeps_beginClose.processes
    · intro held scope member
      obtain ⟨old, present, rfl⟩ := List.mem_map.mp member
      exact Scope.keeps_beginClose.sound (held old present)
    · intro scopeId scope found
      exact ⟨_, by rw [get, found, map_some], Scope.keeps_beginClose.epoch⟩
  · intro scopeId participantId
    rw [busyAt, busyAt, get]
    cases scopes.get scopeId with
    | none => rfl
    | some scope => exact Scope.keeps_beginClose.busy participantId

end Scopes

namespace ExecutionRecord

def call (record : ExecutionRecord) : Dispatch :=
  ⟨record.executionId, record.participantId, record.scopeId⟩

def Ended (record : ExecutionRecord) : Prop := record.state = .running ↔ record.terminal = none

variable {record buffered : ExecutionRecord} {proto : DriverEvent} {event : RuntimeEvent} {now : JsString}

theorem call_of_same (same : SameExecution record buffered) : buffered.call = record.call := by
  rw [call, call, same.executionId, same.participantId, same.scopeId]

section

variable (emitted : record.emitEvent proto now = some (buffered, event))

include emitted

theorem emitEvent_same : SameExecution record buffered := by
  obtain ⟨-, -, buffers⟩ := emitEvent_buffers emitted
  have mark : SameExecution record (record.marked event) := marked_same
  have kept := buffers.same.toSameExecution
  exact ⟨kept.1.trans mark.1, kept.2.trans mark.2, kept.3.trans mark.3, kept.4.trans mark.4,
    kept.5.trans mark.5, kept.6.trans mark.6⟩

theorem emitEvent_state :
    (buffered.state = .running → record.state = .running) ∧ (record.Ended → buffered.Ended) := by
  obtain ⟨-, -, buffers⟩ := emitEvent_buffers emitted
  have same := buffers.same
  simp only [Ended, same.state, same.terminal]
  cases ends : event.body.isTerminalEvent with
  | true => simp [marked, ends, state_terminal]
  | false => simp [marked, ends]

end

theorem emitEvent_ends (record : ExecutionRecord) (now : JsString) (ends : proto.isTerminalEvent = true) :
    ∃ buffered event, record.emitEvent proto now = some (buffered, event) ∧ buffered.state ≠ .running := by
  let body := if record.executionId ≠ [] && now ≠ [] && proto.accept then proto
    else protocolViolation
  let event : RuntimeEvent := ⟨record.executionId, record.lastSeq + 1, now, body⟩
  have terminal : event.body.isTerminalEvent = true := by
    simp only [event, body]
    split
    · exact ends
    · rfl
  have emitted : record.emitEvent proto now =
      some ((record.marked event).push event, event) := by
    have same : record.emitEvent proto now =
      ((record.marked event).bufferEvent event now).map fun buffered => (buffered, event) := rfl
    rw [same, bufferEvent, if_pos (.inl terminal), map_some]
  refine ⟨_, event, emitted, ?_⟩
  simp only [push, marked, terminal, if_true]
  exact state_terminal

end ExecutionRecord

namespace Records

variable {records before after : Records} {executionId : JsString}

/-- What every step but `begin` does to the registry. -/
structure Keeps (before after : Records) : Prop where
  running : after.runningCount ≤ before.runningCount
  origin : ∀ record ∈ after.rows, record.state = .running →
    ∃ old ∈ before.rows, old.state = .running ∧ record.call = old.call
  ended : (∀ record ∈ before.rows, record.Ended) → ∀ record ∈ after.rows, record.Ended

theorem Keeps.refl (records : Records) : Keeps records records :=
  ⟨le_refl _, fun record member running => ⟨record, member, running, rfl⟩, fun held => held⟩

theorem runningCount_eq (records : Records) : records.runningCount =
    (records.rows.map fun record => if record.state = .running then 1 else 0).sum := by
  rw [runningCount, ← List.countP_eq_length_filter, Scope.countP_eq_sum]
  simp only [decide_eq_true_eq]

theorem Keeps.put {old new : ExecutionRecord} (found : records.get new.executionId = some old)
    (same : new.call = old.call) (running : new.state = .running → old.state = .running)
    (ended : old.Ended → new.Ended) : Keeps records (records.put new) where
  running := by
    have total := sum_put (fun record => if ExecutionRecord.state record = .running then 1 else 0)
      found
    rw [runningCount_eq, runningCount_eq]
    by_cases now : new.state = .running
    · simp only [now, running now, if_true] at total
      omega
    · simp only [now, if_false] at total
      omega
  origin record member live := by
    rcases mem_put.mp member with here | ⟨present, -⟩
    · subst here
      exact ⟨old, (get_mem found).1, running live, same⟩
    · exact ⟨record, present, live, rfl⟩
  ended held record member := by
    rcases mem_put.mp member with here | ⟨present, -⟩
    · exact here ▸ ended (held old (get_mem found).1)
    · exact held record present

theorem keeps_emit {proto : DriverEvent} {now : JsString} :
    Keeps records (records.emit executionId proto now).1 := by
  simp only [emit]
  split
  · exact .refl records
  · rename_i record found
    split
    · exact .refl records
    · split
      · rename_i buffered event emitted
        have same := emitEvent_same emitted
        have id : buffered.executionId = executionId :=
          same.executionId.trans (get_mem found).2
        obtain ⟨running, ended⟩ := emitEvent_state emitted
        exact .put (by rw [id, found]) (call_of_same same) running ended
      · exact .refl records

theorem keeps_ack {finalSeq : Nat} {disposition : AckDisposition} :
    Keeps records (records.ack executionId finalSeq disposition).1 := by
  simp only [ack]
  split
  · exact .refl records
  · rename_i record found
    split
    · split <;> exact .refl records
    · split
      · exact .refl records
      · split
        · exact .refl records
        · have present : records.get record.executionId = some record :=
            get_of_mem (get_mem found).1
          exact .put present rfl (fun live => live) fun ended => ended

theorem keeps_releaseScope {scopeId : JsString} : Keeps records (records.releaseScope scopeId) where
  running := by
    simp only [runningCount, releaseScope, filter]
    exact (List.filter_sublist.filter _).length_le
  origin record member live := ⟨record, (mem_filter.mp member).1, live, rfl⟩
  ended held record member := held record (mem_filter.mp member).1

theorem emit_put (record : ExecutionRecord) (proto : DriverEvent) (now : JsString)
    (ended : record.Ended) (live : record.tombstone = false) :
    ∃ after, (Records.emit (records.put record) record.executionId proto now).1 = records.put after ∧
      after.executionId = record.executionId ∧ after.call = record.call ∧ after.Ended ∧
      after.tombstone = false ∧ (proto.isTerminalEvent = true → after.state ≠ .running) := by
  have found : get (records.put record) record.executionId = some record :=
    get_put_self
  by_cases done : record.terminal.isSome = true
  · refine ⟨record, ?_, rfl, rfl, ended, live, fun _ running => ?_⟩
    · simp only [emit, found, done, or_true, if_true]
    · rw [ended.mp running] at done
      contradiction
  · have open_ : ¬ (record.tombstone = true ∨ record.terminal.isSome = true) := by
      simp [live, done]
    cases emitted : record.emitEvent proto now with
    | none =>
      refine ⟨record, ?_, rfl, rfl, ended, live, fun ends running => ?_⟩
      · simp only [emit, found, open_, if_false, emitted]
      · obtain ⟨buffered, event, some, -⟩ := record.emitEvent_ends now ends
        rw [emitted] at some
        contradiction
    | some result =>
      obtain ⟨buffered, event⟩ := result
      have same := emitEvent_same emitted
      refine ⟨buffered, ?_, same.executionId, call_of_same same, (emitEvent_state emitted).2 ended,
        same.tombstone.trans live, fun ends => ?_⟩
      · simp only [emit, found, open_, if_false, emitted]
        exact put_put same.executionId.symm
      · obtain ⟨other, last, some, ending⟩ := record.emitEvent_ends now ends
        rw [emitted] at some
        cases some
        exact ending

end Records

end CouncilKit.Host
