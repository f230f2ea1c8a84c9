import CouncilKit.Data.Table
import CouncilKit.Host.Events

namespace CouncilKit.Host

open Data

/-! The Host's temporary store of model executions.  Event numbers grow by one,
early previews are merged under buffer pressure, and an acknowledged record
keeps a tombstone until its scope is released.
-/

inductive ExecutionState where
  | running | completed | failed | interrupted
deriving DecidableEq

inductive AckDisposition where
  | committed | discarded
deriving DecidableEq

inductive AckState where
  | pending | acknowledged | expired
deriving DecidableEq

structure ExecutionRecord where
  executionId : JsString
  participantId : JsString
  scopeId : JsString
  state : ExecutionState
  events : List RuntimeEvent
  lastSeq : Nat
  bufferedBytes : Nat
  ackState : AckState
  disposition : Option AckDisposition
  tombstone : Bool
  terminal : Option RuntimeEvent
  createdAt : JsString

def executionBufferBytes : Nat := 32 * 1024 * 1024

namespace ExecutionRecord

def fresh (executionId participantId scopeId createdAt : JsString) : ExecutionRecord where
  executionId
  participantId
  scopeId
  state := .running
  events := []
  lastSeq := 0
  bufferedBytes := 0
  ackState := .pending
  disposition := none
  tombstone := false
  terminal := none
  createdAt

def isPreview (event : RuntimeEvent) : Bool := event.body.preview.isSome

def bytes (events : List RuntimeEvent) : Nat := (events.map (·.eventBytes)).sum

variable (record : ExecutionRecord)

/-- Merge the buffered previews into one snapshot where the first of them stood. -/
def coalesce (now : JsString) : ExecutionRecord :=
  let previews := record.events.filter isPreview
  let kept := record.events.filter fun event => !isPreview event
  match previews with
  | [] => { record with events := kept }
  | first :: _ =>
    let index := (record.events.takeWhile fun event => !isPreview event).length
    let snapshot : RuntimeEvent := {
      executionId := record.executionId
      seq := first.seq
      «at» := now
      body := .outputSnapshot (previews.filterMap (·.body.preview)).flatten }
    { record with
      events := kept.take index ++ snapshot :: kept.drop index
      bufferedBytes := record.bufferedBytes - bytes previews + snapshot.eventBytes }

/-- The order the coalescing checks before it goes on; a violation throws. -/
def ordered : List RuntimeEvent → Bool
  | first :: second :: rest => first.seq ≤ second.seq && ordered (second :: rest)
  | _ => true

def push (event : RuntimeEvent) : ExecutionRecord :=
  { record with
    events := record.events ++ [event]
    bufferedBytes := record.bufferedBytes + event.eventBytes
    lastSeq := event.seq }

/-- `none` is the coalescing check's throw.  A preview that still does not fit is
dropped, but its number is used up. -/
def bufferEvent (event : RuntimeEvent) (now : JsString) :
    Option ExecutionRecord :=
  if event.body.isTerminalEvent ∨
      record.bufferedBytes + event.eventBytes ≤ executionBufferBytes then
    some (record.push event)
  else
    let merged := record.coalesce now
    if !ordered merged.events then none
    else if merged.bufferedBytes + event.eventBytes > executionBufferBytes then
      some { merged with lastSeq := event.seq }
    else some (merged.push event)

def terminalState : DriverEvent → ExecutionState
  | .completed .. => .completed
  | .failed .. => .failed
  | _ => .interrupted

/-- What a Host reports when a driver sends an event outside the vocabulary. -/
def protocolViolation : DriverEvent :=
  .failed { code := .PROTOCOL_VIOLATION, phase := .stream,
            message := js "driver emitted an invalid event" } .unknown .unknown false

/-- `emit` on the record of a live execution. -/
def emitEvent (proto : DriverEvent) (now : JsString) :
    Option (ExecutionRecord × RuntimeEvent) :=
  let body := if record.executionId ≠ [] && now ≠ [] && proto.accept then proto
    else protocolViolation
  let event : RuntimeEvent := ⟨record.executionId, record.lastSeq + 1, now, body⟩
  let marked := if body.isTerminalEvent then
      { record with state := terminalState body, terminal := some event }
    else record
  (marked.bufferEvent event now).map fun buffered => (buffered, event)

end ExecutionRecord

abbrev Records := Table ExecutionRecord.executionId

structure AckOutcome where
  outcome : Option AckState
  disposition : Option AckDisposition
  error : Option RuntimeError := none

namespace Records

open ExecutionRecord

variable (records : Records)

/-- `begin`: an existing id returns the same record. -/
def «begin» (executionId participantId scopeId now : JsString) :
    Records × ExecutionRecord × Bool :=
  match records.get executionId with
  | some existing => (records, existing, false)
  | none =>
    let record := fresh executionId participantId scopeId now
    (records.put record, record, true)

/-- `emit`: a terminal or released execution takes no more events. -/
def emit (executionId : JsString) (proto : DriverEvent) (now : JsString) :
    Records × Option RuntimeEvent :=
  match records.get executionId with
  | none => (records, none)
  | some record =>
    if record.tombstone ∨ record.terminal.isSome then (records, none)
    else match record.emitEvent proto now with
      | some (buffered, event) => (records.put buffered, some event)
      | none => (records, none)

def replay (executionId : JsString) (afterSeq : Nat) : Option (List RuntimeEvent) :=
  (records.get executionId).map fun record => record.events.filter (·.seq > afterSeq)

def ackConflict (executionId message : JsString) : RuntimeError where
  code := .EXECUTION_CONFLICT
  phase := .commit
  message
  executionId := some executionId

/-- `ack`.  An outcome of `none` is the conflict. -/
def ack (executionId : JsString) (finalSeq : Nat)
    (disposition : AckDisposition) : Records × AckOutcome :=
  match records.get executionId with
  | none => (records, ⟨some .expired, none, none⟩)
  | some record =>
    if record.tombstone ∨ record.ackState = .acknowledged then
      if record.disposition = some disposition then
        (records, ⟨some .acknowledged, record.disposition, none⟩)
      else (records, ⟨none, record.disposition, some (ackConflict executionId
        (js "ACK disposition differs from the recorded terminal disposition."))⟩)
    else match record.terminal with
      | none => (records, ⟨none, none, some (ackConflict executionId
          (js "ACK before a terminal event."))⟩)
      | some terminal =>
        if terminal.seq ≠ finalSeq then
          (records, ⟨none, none, some (ackConflict executionId
            (js "ACK finalSeq does not match the terminal event."))⟩)
        else (records.put { record with
            ackState := .acknowledged
            disposition := some disposition
            events := []
            bufferedBytes := 0
            tombstone := true },
          ⟨some .acknowledged, some disposition, none⟩)

def runningCount : Nat :=
  (records.rows.filter (·.state = .running)).length

def releaseScope (scopeId : JsString) : Records :=
  records.filter (·.scopeId ≠ scopeId)

variable {records : Records} {executionId : JsString}

def Known (records : Records) (executionId : JsString) : Prop :=
  (records.get executionId).isSome = true

variable {record : ExecutionRecord}

theorem known_put (known : records.Known record.executionId) :
    Known (records.put record) executionId ↔ records.Known executionId := by
  simp only [Known, Table.get_put]
  split
  · rename_i same
    have present : (records.get executionId).isSome = true := same ▸ known
    simp only [Option.isSome_some, present]
  · rfl

variable {scopeId now id : JsString} {participantId : JsString}

theorem known_begin :
    Known (records.begin executionId participantId scopeId now).1 id ↔
      records.Known id ∨ id = executionId := by
  cases found : records.get executionId with
  | some existing =>
    have known : records.Known executionId := by simp [Known, found]
    simp only [Records.begin, found]
    exact ⟨.inl, fun either => either.elim (fun old => old) fun same => same ▸ known⟩
  | none =>
    simp only [Records.begin, found, Known, Table.get_put]
    split
    · rename_i same
      simp only [Option.isSome_some, true_iff]
      exact .inr same
    · rename_i different
      exact ⟨.inl, fun either => either.elim (fun old => old) fun same => absurd same different⟩

theorem begin_created :
    (records.begin executionId participantId scopeId now).2.2 = true ↔ ¬ records.Known executionId := by
  cases found : records.get executionId <;> simp [Records.begin, Known, found]

variable {buffered : ExecutionRecord}

theorem executionId_bufferEvent {event : RuntimeEvent}
    (stored : record.bufferEvent event now = some buffered) :
    buffered.executionId = record.executionId := by
  have merged : (record.coalesce now).executionId = record.executionId := by
    simp only [coalesce]
    split <;> rfl
  simp only [bufferEvent] at stored
  split at stored
  · cases stored
    rfl
  · split at stored
    · contradiction
    · split at stored
      · cases stored
        exact merged
      · cases stored
        exact merged

theorem executionId_emitEvent {proto : DriverEvent}
    {event : RuntimeEvent} (emitted : record.emitEvent proto now = some (buffered, event)) :
    buffered.executionId = record.executionId := by
  simp only [emitEvent, Option.map_eq_some_iff, Prod.mk.injEq] at emitted
  obtain ⟨stored, buffer, rfl, -⟩ := emitted
  rw [executionId_bufferEvent buffer]
  exact apply_ite ExecutionRecord.executionId _ _ _ |>.trans (ite_self _)

theorem known_emit {proto : DriverEvent} :
    Known (records.emit executionId proto now).1 id ↔ records.Known id := by
  simp only [emit]
  split
  · rfl
  · rename_i record found
    split
    · rfl
    · split
      · rename_i buffered event emitted
        have same : buffered.executionId = executionId :=
          (executionId_emitEvent emitted).trans (Table.get_mem found).2
        exact known_put (by simp [Known, same, found])
      · rfl

theorem known_ack {finalSeq : Nat} {disposition : AckDisposition} :
    Known (records.ack executionId finalSeq disposition).1 id ↔ records.Known id := by
  simp only [ack]
  split
  · rfl
  · rename_i record found
    split
    · split <;> rfl
    · split
      · rfl
      · split
        · rfl
        · exact known_put (by simp [Known, (Table.get_mem found).2, found])

theorem known_releaseScope :
    Known (records.releaseScope scopeId) id ↔
      ∃ record, records.get id = some record ∧ record.scopeId ≠ scopeId := by
  simp only [Known, releaseScope, Table.get_filter]
  cases found : records.get id with
  | none => simp
  | some record =>
    by_cases same : record.scopeId = scopeId <;> simp [Option.filter, same]

end Records

end CouncilKit.Host
